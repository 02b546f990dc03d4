import Mathlib.Data.List.Infix
import ResourceRouting.Uri.Template

/-!
# Balanced braces

Braces are balanced where every opening one is closed and nothing else is.  The brace that closes
one already opened is the one before which all others are balanced.
-/

namespace ResourceRouting
namespace Uri
namespace Template

/-- The closing braces of a text close its own opening ones, and `depth` more before it. -/
structure Balances (depth : Nat) (text : Text) : Prop where
  /-- Where the text ends all of them are closed. -/
  total : text.count '}' = depth + text.count '{'
  /-- On the way no brace is closed that is not open. -/
  within : ∀ front, front <+: text → front.count '}' ≤ depth + front.count '{'

/-- The braces of a text are balanced. -/
abbrev IsBalanced (text : Text) : Prop :=
  Balances 0 text

private theorem forall_front_cons_iff {property : Text → Prop} {character : Char} {text : Text} :
    (∀ front, front <+: character :: text → property front) ↔
      property [] ∧ ∀ front, front <+: text → property (character :: front) := by
  constructor
  · intro all
    exact ⟨all [] List.nil_prefix, fun front begins =>
      all _ (List.cons_prefix_cons.mpr ⟨rfl, begins⟩)⟩
  · rintro ⟨empty, others⟩ front begins
    rcases List.prefix_cons_iff.mp begins with rfl | ⟨rest, rfl, further⟩
    · exact empty
    · exact others rest further

theorem balances_nil_iff {depth : Nat} : Balances depth [] ↔ depth = 0 := by
  constructor
  · rintro ⟨total, _⟩
    simpa using total.symm
  · rintro rfl
    exact ⟨rfl, fun front begins => by simp [List.prefix_nil.mp begins]⟩

theorem balances_open_iff {depth : Nat} {text : Text} :
    Balances depth ('{' :: text) ↔ Balances (depth + 1) text := by
  have counts : ∀ front : Text, ('{' :: front).count '}' = front.count '}' ∧
      ('{' :: front).count '{' = front.count '{' + 1 := fun front =>
    ⟨List.count_cons_of_ne (by decide), List.count_cons_self⟩
  constructor
  · rintro ⟨total, within⟩
    rw [forall_front_cons_iff] at within
    simp only [counts] at total within
    refine ⟨by omega, fun front begins => ?_⟩
    have bound := within.2 front begins
    omega
  · rintro ⟨total, within⟩
    refine ⟨?_, forall_front_cons_iff.mpr ⟨by simp, fun front begins => ?_⟩⟩
    · simp only [counts]
      omega
    · have bound := within front begins
      simp only [counts]
      omega

theorem balances_close_iff {depth : Nat} {text : Text} :
    Balances depth ('}' :: text) ↔ ∃ outer, depth = outer + 1 ∧ Balances outer text := by
  have counts : ∀ front : Text, ('}' :: front).count '}' = front.count '}' + 1 ∧
      ('}' :: front).count '{' = front.count '{' := fun front =>
    ⟨List.count_cons_self, List.count_cons_of_ne (by decide)⟩
  constructor
  · rintro ⟨total, within⟩
    rw [forall_front_cons_iff] at within
    simp only [counts] at total within
    -- The brace itself has to be open.
    have first := within.2 [] List.nil_prefix
    simp only [List.count_nil] at first
    obtain ⟨outer, rfl⟩ := Nat.exists_eq_add_one.mpr (show 0 < depth by omega)
    refine ⟨outer, rfl, by omega, fun front begins => ?_⟩
    have bound := within.2 front begins
    omega
  · rintro ⟨outer, rfl, total, within⟩
    refine ⟨?_, forall_front_cons_iff.mpr ⟨by simp, fun front begins => ?_⟩⟩
    · simp only [counts]
      omega
    · have bound := within front begins
      simp only [counts]
      omega

theorem balances_cons_iff {depth : Nat} {character : Char} {text : Text}
    (plain : isBrace character = false) :
    Balances depth (character :: text) ↔ Balances depth text := by
  simp only [isBrace, Bool.or_eq_false_iff, decide_eq_false_iff_not] at plain
  have counts : ∀ front : Text, (character :: front).count '}' = front.count '}' ∧
      (character :: front).count '{' = front.count '{' := fun front =>
    ⟨List.count_cons_of_ne plain.2, List.count_cons_of_ne plain.1⟩
  constructor
  · rintro ⟨total, within⟩
    rw [forall_front_cons_iff] at within
    simp only [counts] at total within
    exact ⟨total, within.2⟩
  · rintro ⟨total, within⟩
    refine ⟨?_, forall_front_cons_iff.mpr ⟨by simp, ?_⟩⟩
    · simpa only [counts] using total
    · simpa only [counts] using within

theorem closeBrace_open (depth : Nat) (rest : Text) :
    closeBrace depth ('{' :: rest) =
      (closeBrace (depth + 1) rest).map fun (body, after) => ('{' :: body, after) := by
  simp [closeBrace]

theorem closeBrace_close (rest : Text) : closeBrace 0 ('}' :: rest) = some ([], rest) := by
  simp [closeBrace]

theorem closeBrace_close_succ (outer : Nat) (rest : Text) :
    closeBrace (outer + 1) ('}' :: rest) =
      (closeBrace outer rest).map fun (body, after) => ('}' :: body, after) := by
  simp [closeBrace]

theorem closeBrace_cons
    {character : Char}
    (plain : isBrace character = false)
    (depth : Nat)
    (rest : Text) :
    closeBrace depth (character :: rest) =
      (closeBrace depth rest).map fun (body, after) => (character :: body, after) := by
  simp only [isBrace, Bool.or_eq_false_iff, decide_eq_false_iff_not] at plain
  simp only [closeBrace, if_neg plain.1, if_neg plain.2]

/-- A brace is closed behind what balances it. -/
theorem closeBrace_of_balances
    {depth : Nat}
    {body : Text}
    (balances : Balances depth body)
    (after : Text) :
    closeBrace depth (body ++ '}' :: after) = some (body, after) := by
  induction body generalizing depth with
  | nil =>
      obtain rfl := balances_nil_iff.mp balances
      exact closeBrace_close after
  | cons character body ih =>
      rw [List.cons_append]
      by_cases opens : character = '{'
      · subst opens
        rw [closeBrace_open, ih (balances_open_iff.mp balances), Option.map_some]
      · by_cases closes : character = '}'
        · subst closes
          obtain ⟨outer, rfl, inner⟩ := balances_close_iff.mp balances
          rw [closeBrace_close_succ, ih inner, Option.map_some]
        · have plain : isBrace character = false := by simp [isBrace, opens, closes]
          rw [closeBrace_cons plain, ih ((balances_cons_iff plain).mp balances), Option.map_some]

/-- What is enclosed stands before the closing brace and balances the opening one. -/
theorem append_of_closeBrace
    {depth : Nat}
    {text body after : Text}
    (closed : closeBrace depth text = some (body, after)) :
    text = body ++ '}' :: after ∧ Balances depth body := by
  induction text generalizing depth body with
  | nil => cases closed
  | cons character text ih =>
      by_cases opens : character = '{'
      · subst opens
        rw [closeBrace_open, Option.map_eq_some_iff] at closed
        obtain ⟨⟨inner, behind⟩, found, equal⟩ := closed
        cases equal
        obtain ⟨rfl, balances⟩ := ih found
        exact ⟨rfl, balances_open_iff.mpr balances⟩
      · by_cases closes : character = '}'
        · subst closes
          cases depth with
          | zero =>
              rw [closeBrace_close] at closed
              cases closed
              exact ⟨rfl, balances_nil_iff.mpr rfl⟩
          | succ outer =>
              rw [closeBrace_close_succ, Option.map_eq_some_iff] at closed
              obtain ⟨⟨inner, behind⟩, found, equal⟩ := closed
              cases equal
              obtain ⟨rfl, balances⟩ := ih found
              exact ⟨rfl, balances_close_iff.mpr ⟨outer, rfl, balances⟩⟩
        · have plain : isBrace character = false := by simp [isBrace, opens, closes]
          rw [closeBrace_cons plain, Option.map_eq_some_iff] at closed
          obtain ⟨⟨inner, behind⟩, found, equal⟩ := closed
          cases equal
          obtain ⟨rfl, balances⟩ := ih found
          exact ⟨rfl, (balances_cons_iff plain).mpr balances⟩

/-- The brace that closes one already opened is found exactly where it stands. -/
theorem closeBrace_eq_some_iff
    {depth : Nat}
    {text body after : Text} :
    closeBrace depth text = some (body, after) ↔
      text = body ++ '}' :: after ∧ Balances depth body := by
  constructor
  · exact append_of_closeBrace
  · rintro ⟨rfl, balances⟩
    exact closeBrace_of_balances balances after

end Template
end Uri
end ResourceRouting
