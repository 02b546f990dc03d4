import ResourceRouting.Proofs.Regex.Extending

/-!
# Escapes with a parenthesis behind

What is read as an escape is read as the same escape when a parenthesis follows.  Only the digits of
a code point and the letter of a property may have a comment behind them.
-/

namespace ResourceRouting
namespace Regex

namespace Escape

theorem readDigits_extends
    {flags : Flags}
    {count : Nat}
    {text digits after : Text}
    (found : readDigits flags count text = some (digits, after)) :
    Extends (readDigits flags count) text digits after := by
  induction count generalizing text digits with
  | zero =>
      cases found
      exact .kept fun _ => rfl
  | succ count ih =>
      cases text with
      | nil => cases found
      | cons digit rest =>
          simp only [readDigits] at found
          split at found
          · rename_i hexadecimal
            obtain ⟨⟨more, behind⟩, inner, equal⟩ := Option.map_eq_some_iff.mp found
            cases equal
            have step : ∀ tail, readDigits flags (count + 1) (digit :: rest ++ tail) =
                (readDigits flags count (flags.skip (rest ++ tail))).map fun read =>
                  (digit :: read.1, read.2) := by
              intro tail
              rw [List.cons_append, readDigits, if_pos hexadecimal]
            rcases flags.skip_cases rest with kept | ⟨ended, swallowed⟩
            · cases ih inner with
              | kept leaves => exact .kept fun others => by rw [step, kept, leaves]; rfl
              | swallowed ends => exact .swallowed (by rw [step, kept, ends]; rfl)
            · rw [ended] at inner
              cases count with
              | zero =>
                  cases inner
                  exact .swallowed (by rw [step, swallowed]; rfl)
              | succ count => cases inner
          · cases found

/-- What is read up to a brace is not changed by what follows the brace. -/
theorem readBraced_append
    {flags : Flags}
    {fuel larger : Nat}
    {text inner after : Text}
    (found : readBraced flags fuel text = some (inner, after))
    (more : fuel ≤ larger)
    (others : Text) :
    readBraced flags larger (text ++ ')' :: others) = some (inner, after ++ ')' :: others) := by
  induction fuel generalizing larger text inner with
  | zero => cases found
  | succ fuel ih =>
      obtain ⟨larger, rfl⟩ : ∃ less, larger = less + 1 := ⟨larger - 1, by omega⟩
      cases text with
      | nil => cases found
      | cons character rest =>
          simp only [readBraced] at found
          rw [List.cons_append, readBraced]
          split at found
          · rename_i brace
            cases found
            rw [if_pos brace]
          · rename_i ordinary
            obtain ⟨⟨name, behind⟩, further, equal⟩ := Option.map_eq_some_iff.mp found
            cases equal
            have left : flags.skip rest ≠ [] := by
              intro ended
              rw [ended] at further
              cases fuel <;> cases further
            rw [if_neg ordinary, Flags.skip_append left, ih further (Nat.le_of_succ_le_succ more)]
            rfl

/-- Braces that are closed in a text are closed there when more text follows. -/
theorem readBraced_length_append
    {flags : Flags}
    {text inner after : Text}
    (found : readBraced flags (text.length + 1) text = some (inner, after))
    (others : Text) :
    readBraced flags ((text ++ ')' :: others).length + 1) (text ++ ')' :: others) =
      some (inner, after ++ ')' :: others) :=
  readBraced_append found (by simp only [List.length_append]; omega) others

theorem ne_nil_of_readBraced
    {flags : Flags}
    {fuel : Nat}
    {text inner after : Text}
    (found : readBraced flags fuel text = some (inner, after)) :
    text ≠ [] := by
  rintro rfl
  cases fuel <;> cases found

/-- The character of a code point in digits; two digits are those of a byte. -/
def escapeOfDigits? (count : Nat) (digits : Text) : Option Escape :=
  (charOfCode? (Text.ofHex digits)).map fun character => .literal character (count = 2)

/-- Reads a code point behind blanks and comments. -/
def readCodeFrom (flags : Flags) (count : Nat) : Text → Option (Escape × Text)
  | '{' :: rest =>
      (readBraced flags ((flags.skip rest).length + 1) (flags.skip rest)).bind
        fun (digits, after) =>
          if digits.isEmpty || !digits.all Text.isHexDigit then none
          else
            (charOfCode? (Text.ofHex digits)).map fun character =>
              (.literal character false, flags.skip after)
  | start =>
      (readDigits flags count start).bind fun (digits, after) =>
        (escapeOfDigits? count digits).map (·, after)

theorem readCode_eq (flags : Flags) (count : Nat) :
    readCode flags count = fun text => readCodeFrom flags count (flags.skip text) := by
  funext text
  unfold readCode readCodeFrom escapeOfDigits?
  simp only [Option.bind_eq_bind, Option.map_eq_bind, Option.bind_assoc]
  rfl

theorem readCodeFrom_of_ne_brace
    {flags : Flags}
    {count : Nat}
    {start : Text}
    (bare : ∀ rest, start ≠ '{' :: rest) :
    readCodeFrom flags count start =
      (readDigits flags count start).bind fun (digits, after) =>
        (escapeOfDigits? count digits).map (·, after) := by
  unfold readCodeFrom
  split
  · exact absurd rfl (bare _)
  · rfl

theorem readCodeFrom_extends
    {flags : Flags}
    {count : Nat}
    {start after : Text}
    {escape : Escape}
    (found : readCodeFrom flags count start = some (escape, after)) :
    Extends (readCodeFrom flags count) start escape after := by
  by_cases brace : ∃ rest, start = '{' :: rest
  · obtain ⟨rest, rfl⟩ := brace
    obtain ⟨⟨digits, behind⟩, braced, checked⟩ := Option.bind_eq_some_iff.mp found
    dsimp only at checked
    split at checked
    · cases checked
    · rename_i hexadecimal
      obtain ⟨character, code, equal⟩ := Option.map_eq_some_iff.mp checked
      cases equal
      apply Extends.beforeSkip
      intro others
      have inside := readBraced_length_append braced others
      rw [← Flags.skip_append (ne_nil_of_readBraced braced)] at inside
      rw [List.cons_append, readCodeFrom, inside, Option.bind_some]
      dsimp only
      rw [if_neg hexadecimal, code, Option.map_some]
  · rw [readCodeFrom_of_ne_brace (not_exists.mp brace)] at found
    obtain ⟨⟨digits, behind⟩, read, checked⟩ := Option.bind_eq_some_iff.mp found
    obtain ⟨_, code, equal⟩ := Option.map_eq_some_iff.mp checked
    cases equal
    have bare := Text.append_ne_cons (not_exists.mp brace) (by decide : ')' ≠ '{')
    cases (readDigits_extends read).bind (escapeOfDigits? count) code with
    | kept leaves =>
        exact .kept fun others => by rw [readCodeFrom_of_ne_brace (bare others), leaves others]
    | swallowed ends =>
        exact .swallowed (by rw [readCodeFrom_of_ne_brace (bare []), ends])

theorem readCode_extends
    {flags : Flags}
    {count : Nat}
    {text after : Text}
    {escape : Escape}
    (found : readCode flags count text = some (escape, after)) :
    Extends (readCode flags count) text escape after := by
  rw [readCode_eq] at found ⊢
  refine Extends.afterSkip found (readCodeFrom_extends found) fun ended => ?_
  simp only [ended] at found
  obtain ⟨⟨digits, behind⟩, read, checked⟩ := Option.bind_eq_some_iff.mp found
  obtain ⟨character, _, equal⟩ := Option.map_eq_some_iff.mp checked
  cases equal
  exact List.eq_nil_of_length_eq_zero (Nat.le_zero.mp (length_readDigits read))

theorem readProperty_of_brace
    {flags : Flags}
    {negated : Bool}
    {text rest : Text}
    (unicode : flags.has .unicode = true)
    (start : flags.skip text = '{' :: rest) :
    readProperty flags negated text =
      (readBraced flags ((flags.skip rest).length + 1) (flags.skip rest)).bind fun (inner, after) =>
        (propertySet? flags negated inner).map fun set => (.set set, after) := by
  unfold readProperty
  rw [if_pos unicode, start]
  simp only [Option.bind_eq_bind, Option.map_eq_bind]
  rfl

theorem readProperty_of_letter
    {flags : Flags}
    {negated : Bool}
    {text rest : Text}
    {letter : Char}
    (unicode : flags.has .unicode = true)
    (start : flags.skip text = letter :: rest)
    (bare : letter ≠ '{') :
    readProperty flags negated text =
      (CharSet.property? [letter]).map fun set =>
        (.set (flags.classSet negated set), flags.skip rest) := by
  unfold readProperty
  rw [if_pos unicode, start]
  split
  · rename_i none
    cases none
  · rename_i brace
    injection brace with same _
    exact absurd same bare
  · rename_i equal
    cases equal
    simp only [Option.bind_eq_bind, Option.map_eq_bind]
    rfl

theorem readProperty_extends
    {flags : Flags}
    {negated : Bool}
    {text after : Text}
    {escape : Escape}
    (found : readProperty flags negated text = some (escape, after)) :
    Extends (readProperty flags negated) text escape after := by
  by_cases unicode : flags.has .unicode = true
  · cases start : flags.skip text with
    | nil =>
        rw [readProperty, if_pos unicode, start] at found
        cases found
    | cons letter rest =>
        have left : flags.skip text ≠ [] := by
          rw [start]
          exact List.cons_ne_nil _ _
        have longer := fun others => Flags.skip_append left others
        simp only [start, List.cons_append] at longer
        by_cases brace : letter = '{'
        · subst brace
          rw [readProperty_of_brace unicode start] at found
          obtain ⟨⟨inner, behind⟩, braced, denoted⟩ := Option.bind_eq_some_iff.mp found
          obtain ⟨set, property, equal⟩ := Option.map_eq_some_iff.mp denoted
          cases equal
          refine .kept fun others => ?_
          have inside := readBraced_length_append braced others
          rw [← Flags.skip_append (ne_nil_of_readBraced braced)] at inside
          rw [readProperty_of_brace unicode (longer others), inside, Option.bind_some]
          dsimp only
          rw [property, Option.map_some]
        · rw [readProperty_of_letter unicode start brace] at found
          obtain ⟨set, property, equal⟩ := Option.map_eq_some_iff.mp found
          cases equal
          apply Extends.beforeSkip
          intro others
          rw [readProperty_of_letter unicode (longer others) brace, property]
          rfl
  · rw [readProperty, if_neg unicode] at found
    cases found

theorem readWordEdge_append
    {flags : Flags}
    {text after : Text}
    {edge : WordEdge}
    (found : readWordEdge flags text = some (edge, after))
    (others : Text) :
    readWordEdge flags (text ++ ')' :: others) = some (edge, after ++ ')' :: others) := by
  unfold readWordEdge at found
  split at found
  · rename_i rest
    split at found
    · cases found
    · rename_i first more start
      have left : flags.skip rest ≠ [] := by
        rw [start]
        exact List.cons_ne_nil _ _
      have longer := Flags.skip_append left others
      rw [start, List.cons_append] at longer
      rw [List.cons_append, readWordEdge, longer]
      dsimp only
      split at found
      · rename_i named
        obtain ⟨⟨name, behind⟩, braced, found⟩ := Option.bind_eq_some_iff.mp found
        obtain ⟨kind, known, equal⟩ := Option.bind_eq_some_iff.mp found
        cases equal
        have larger : more.length + 2 ≤ (more ++ ')' :: others).length + 2 := by
          simp only [List.length_append]
          omega
        have inside := readBraced_append braced larger others
        rw [List.cons_append] at inside
        simp only [if_pos named, inside, Option.bind_eq_bind, Option.bind_some, known]
      · rename_i ordinary
        cases found
        rw [if_neg ordinary]
        rfl
  · rename_i bare
    cases found
    rw [readWordEdge]
    exact Text.append_ne_cons bare (by decide) others

theorem read_extends
    {flags : Flags}
    {text after : Text}
    {escape : Escape}
    (found : read flags text = some (escape, after)) :
    Extends (read flags) text escape after := by
  unfold read at found
  split at found
  case h_1 => cases found
  case h_2 => exact (readCode_extends found).prepend fun _ => rfl
  case h_3 => exact (readCode_extends found).prepend fun _ => rfl
  case h_4 => exact (readCode_extends found).prepend fun _ => rfl
  case h_5 => exact (readProperty_extends found).prepend fun _ => rfl
  case h_6 => exact (readProperty_extends found).prepend fun _ => rfl
  case h_15 =>
    obtain ⟨⟨edge, behind⟩, inner, equal⟩ := Option.bind_eq_some_iff.mp found
    cases equal
    refine .kept fun others => ?_
    rw [List.cons_append, read, readWordEdge_append inner others]
    rfl
  case h_19 =>
    rename_i character rest _ _ _ _ _ _ _ _ _ _ _ _ _ _ _ _ _
    refine .kept fun others => ?_
    rw [List.cons_append, read] <;> try assumption
    split at found
    · cases found
      rfl
    · split at found
      · rename_i escapable
        cases found
        exact if_pos escapable
      · cases found
  all_goals
    cases found
    exact .kept fun _ => rfl

end Escape

end Regex
end ResourceRouting
