import ResourceRouting.Proofs.Regex.Noting
import ResourceRouting.Proofs.Regex.Renumbering

/-!
# Where expressions lead

What an expression matches, said without the order in which its alternatives are tried: it leads
from a place to later ones.  A run of the expression goes on from one of them, and adds notes on the
groups of the expression only.
-/

namespace ResourceRouting
namespace Regex

/-- Goes on a number of times. -/
def Repeats (leads : Place → Place → Prop) : Nat → Place → Place → Prop
  | 0, place, later => later = place
  | count + 1, place, later => ∃ next, leads place next ∧ Repeats leads count next later

/-- Going on some times and then some more times. -/
theorem Repeats.append
    {leads : Place → Place → Prop}
    {first second : Nat}
    {place next later : Place}
    (repeats : Repeats leads first place next)
    (further : Repeats leads second next later) :
    Repeats leads (first + second) place later := by
  induction first generalizing place with
  | zero =>
      obtain rfl : next = place := repeats
      rwa [Nat.zero_add]
  | succ count ih =>
      obtain ⟨between, led, others⟩ := repeats
      rw [Nat.add_right_comm]
      exact ⟨between, led, ih others⟩

theorem Repeats.of_leads
    {leads : Place → Place → Prop}
    {place later : Place}
    (led : leads place later) :
    Repeats leads 1 place later :=
  ⟨later, led, rfl⟩

namespace Expr

/-- An expression leads from a place to a later one: it matches what is between them. -/
def Leads : Expr → Place → Place → Prop
  | empty, place, later => later = place
  | chars set, place, later => place.pass? set = some later
  | anchor condition, place, later => place.satisfies condition = true ∧ later = place
  | seq first second, place, later => ∃ next, first.Leads place next ∧ second.Leads next later
  | alt first second, place, later => first.Leads place later ∨ second.Leads place later
  | group _ inner, place, later => inner.Leads place later
  | repeated least most _ inner, place, later =>
      ∃ count, least ≤ count ∧ (∀ bound ∈ most, count ≤ max least bound) ∧
        Repeats inner.Leads count place later

/-- The numbers of the groups of an expression. -/
def groups : Expr → List Nat
  | empty => []
  | chars _ => []
  | anchor _ => []
  | seq first second => first.groups ++ second.groups
  | alt first second => first.groups ++ second.groups
  | group index inner => index :: inner.groups
  | repeated _ _ _ inner => inner.groups

/-- The greatest number of a group is within a bound exactly if the numbers of all groups are. -/
theorem groupCount_le_iff {expr : Expr} {bound : Nat} :
    expr.groupCount ≤ bound ↔ ∀ index ∈ expr.groups, index ≤ bound := by
  induction expr with
  | seq first second firstBound secondBound =>
      rw [groupCount, Nat.max_le, firstBound, secondBound, groups, List.forall_mem_append]
  | alt first second firstBound secondBound =>
      rw [groupCount, Nat.max_le, firstBound, secondBound, groups, List.forall_mem_append]
  | group index inner innerBound =>
      rw [groupCount, Nat.max_le, innerBound, groups, List.forall_mem_cons]
  | repeated least most greedy inner innerBound => exact innerBound
  | _ => simp [groupCount, groups]

theorem groups_concat (exprs : List Expr) : (concat exprs).groups = exprs.flatMap groups := by
  have folded : ∀ (start : Expr) (rest : List Expr),
      (rest.foldl seq start).groups = start.groups ++ rest.flatMap groups := by
    intro start rest
    induction rest generalizing start with
    | nil => rw [List.foldl_nil, List.flatMap_nil, List.append_nil]
    | cons expr rest ih =>
        rw [List.foldl_cons, ih, groups, List.flatMap_cons, List.append_assoc]
  cases exprs with
  | nil => rfl
  | cons first rest => exact folded first rest

section Shift

variable (offset : Nat) (expr : Expr)

/-- Other numbers of its groups do not change where an expression leads. -/
theorem leads_shift : (expr.shift offset).Leads = expr.Leads := by
  induction expr with
  | seq first second firstSame secondSame =>
      funext place later
      simp only [shift, Leads, firstSame, secondSame]
  | alt first second firstSame secondSame =>
      funext place later
      simp only [shift, Leads, firstSame, secondSame]
  | group index inner same => exact same
  | repeated least most greedy inner same =>
      funext place later
      simp only [shift, Leads, same]
  | _ => rfl

theorem groups_shift : (expr.shift offset).groups = expr.groups.map (· + offset) := by
  induction expr with
  | seq first second firstSame secondSame =>
      rw [shift, groups, firstSame, secondSame, groups, List.map_append]
  | alt first second firstSame secondSame =>
      rw [shift, groups, firstSame, secondSame, groups, List.map_append]
  | group index inner same => rw [shift, groups, same, groups, List.map_cons]
  | repeated least most greedy inner same => exact same
  | _ => rfl

end Shift

end Expr

/-- Notes that hold earlier notes and others on some groups, which had none. -/
structure Notes.Extends (groups : List Nat) (notes earlier : Notes) : Prop where
  /-- What was noted stays. -/
  kept : ∀ index text, earlier.lookup index = some text → notes.lookup index = some text
  /-- Nothing is noted on other groups. -/
  others : ∀ index, index ∉ groups → notes.lookup index = earlier.lookup index

namespace Notes.Extends

variable {groups more : List Nat} {notes earlier first : Notes}

theorem refl (groups : List Nat) (notes : Notes) : Notes.Extends groups notes notes :=
  ⟨fun _ _ => id, fun _ _ => rfl⟩

theorem trans
    (later : Notes.Extends groups notes earlier)
    (before : Notes.Extends groups earlier first) :
    Notes.Extends groups notes first :=
  ⟨fun index text noted => later.kept index text (before.kept index text noted),
    fun index absent => (later.others index absent).trans (before.others index absent)⟩

theorem mono
    (within : Notes.Extends groups notes earlier)
    (subset : groups ⊆ more) :
    Notes.Extends more notes earlier :=
  ⟨within.kept, fun index absent => within.others index fun present => absent (subset present)⟩

/-- A note on a group is one on this group only. -/
theorem note (index : Nat) (text : Text) (notes : Notes) :
    Notes.Extends [index] (Regex.note index text notes) notes := by
  unfold Regex.note
  split
  · exact refl _ _
  · rename_i unnoted
    refine ⟨fun other found noted => ?_, fun other different => ?_⟩
    · have different : other ≠ index := by
        rintro rfl
        rw [noted] at unnoted
        exact unnoted rfl
      rwa [List.lookup_cons, beq_false_of_ne different]
    · rw [List.lookup_cons, beq_false_of_ne fun same => different (List.mem_singleton.mpr same)]

end Notes.Extends

theorem lookup_note
    {index : Nat}
    {notes : Notes}
    (unnoted : notes.lookup index = none)
    (text : Text) :
    (note index text notes).lookup index = some text := by
  rw [note, unnoted]
  exact List.lookup_cons_self

/--
What runs goes on from a place that is led to, and its notes are those from there with others on
some groups.
-/
def Follows (body : Goal → Goal) (leads : Place → Place → Prop) (groups : List Nat) : Prop :=
  ∀ goal place notes, body goal place = some notes →
    ∃ later earlier, leads place later ∧ goal later = some earlier ∧
      Notes.Extends groups notes earlier

section Repetition

variable {body : Goal → Goal} {leads : Place → Place → Prop} {groups : List Nat}

theorem Follows.again (follows : Follows body leads groups) (greedy : Bool) :
    Follows (again body greedy) (fun place later => ∃ count, Repeats leads count place later)
      groups := by
  intro goal place
  -- Along what is ahead: a repetition goes on only with less ahead.
  induction length : place.ahead.length using Nat.strongRecOn generalizing place with
  | ind length ih =>
      subst length
      intro notes found
      rw [Regex.again] at found
      rcases eq_some_of_prefer found with more | fewer
      · obtain ⟨next, between, led, further, extended⟩ := follows _ _ _ more
        split at further
        · rename_i shorter
          obtain ⟨later, earlier, ⟨count, repeats⟩, reached, extendedThen⟩ :=
            ih _ shorter next rfl between further
          exact ⟨later, earlier, ⟨count + 1, next, led, repeats⟩, reached,
            extended.trans extendedThen⟩
        · cases further
      · exact ⟨place, notes, ⟨0, rfl⟩, fewer, .refl _ _⟩

theorem Follows.onceOrMore (follows : Follows body leads groups) (greedy : Bool) :
    Follows (onceOrMore body greedy)
      (fun place later => ∃ count, 1 ≤ count ∧ Repeats leads count place later) groups := by
  intro goal place notes found
  obtain ⟨next, between, led, further, extended⟩ := follows _ _ _ found
  split at further
  · obtain ⟨later, earlier, ⟨count, repeats⟩, reached, extendedThen⟩ :=
      follows.again greedy goal next between further
    exact ⟨later, earlier, ⟨count + 1, Nat.le_add_left 1 count, next, led, repeats⟩, reached,
      extended.trans extendedThen⟩
  · exact ⟨next, between, ⟨1, Nat.le_refl 1, .of_leads led⟩, further, extended⟩

theorem Follows.exactly (follows : Follows body leads groups) (count : Nat) :
    Follows (exactly body count) (Repeats leads count) groups := by
  induction count with
  | zero => exact fun goal place notes found => ⟨place, notes, rfl, found, .refl _ _⟩
  | succ count ih =>
      intro goal place notes found
      obtain ⟨next, between, repeats, further, extended⟩ := ih _ _ _ found
      obtain ⟨later, earlier, led, reached, extendedThen⟩ := follows _ _ _ further
      exact ⟨later, earlier, repeats.append (.of_leads led), reached,
        extended.trans extendedThen⟩

theorem Follows.atMost (follows : Follows body leads groups) (greedy : Bool) (bound : Nat) :
    Follows (fun goal => atMost body greedy goal bound)
      (fun place later => ∃ count, count ≤ bound ∧ Repeats leads count place later) groups := by
  intro goal
  induction bound with
  | zero =>
      exact fun place notes found =>
        ⟨place, notes, ⟨0, Nat.le_refl 0, rfl⟩, found, .refl _ _⟩
  | succ bound ih =>
      intro place notes found
      rcases eq_some_of_prefer found with more | fewer
      · obtain ⟨next, between, led, further, extended⟩ := follows _ _ _ more
        obtain ⟨later, earlier, ⟨count, fits, repeats⟩, reached, extendedThen⟩ :=
          ih next between further
        exact ⟨later, earlier, ⟨count + 1, Nat.succ_le_succ fits, next, led, repeats⟩, reached,
          extended.trans extendedThen⟩
      · exact ⟨place, notes, ⟨0, Nat.zero_le _, rfl⟩, fewer, .refl _ _⟩

end Repetition

/-- A group whose number is not noted behind it is noted with what it matches. -/
theorem Follows.exists_of_group
    {index : Nat}
    {inner : Expr}
    (follows : Follows inner.run inner.Leads inner.groups)
    {goal : Goal}
    {place : Place}
    {notes : Notes}
    (found : (Expr.group index inner).run goal place = some notes) :
    ∃ later earlier, inner.Leads place later ∧ goal later = some earlier ∧
      Notes.Extends (index :: inner.groups) notes earlier ∧
      (earlier.lookup index = none → notes.lookup index = some (place.textTo later)) := by
  obtain ⟨later, between, led, further, extended⟩ := follows _ _ _ found
  obtain ⟨earlier, reached, rfl⟩ := Option.map_eq_some_iff.mp further
  have own := Notes.Extends.note index (place.textTo later) earlier
  refine ⟨later, earlier, led, reached,
    (extended.mono (List.subset_cons_self _ _)).trans
      (own.mono (List.cons_subset_cons _ (List.nil_subset _))), fun unnoted => ?_⟩
  exact extended.kept index _ (lookup_note unnoted _)

/-- A run of an expression goes on from where the expression leads. -/
theorem Expr.run_follows (expr : Expr) : Follows expr.run expr.Leads expr.groups := by
  induction expr with
  | empty => exact fun goal place notes found => ⟨place, notes, rfl, found, .refl _ _⟩
  | chars set =>
      intro goal place notes found
      obtain ⟨next, passed, further⟩ := Option.bind_eq_some_iff.mp found
      exact ⟨next, notes, passed, further, .refl _ _⟩
  | anchor condition =>
      intro goal place notes found
      rw [run] at found
      split at found
      · rename_i holds
        exact ⟨place, notes, ⟨holds, rfl⟩, found, .refl _ _⟩
      · cases found
  | seq first second firstFollows secondFollows =>
      intro goal place notes found
      obtain ⟨next, between, led, further, extended⟩ := firstFollows _ _ _ found
      obtain ⟨later, earlier, ledThen, reached, extendedThen⟩ := secondFollows _ _ _ further
      exact ⟨later, earlier, ⟨next, led, ledThen⟩, reached,
        (extended.mono (List.subset_append_left _ _)).trans
          (extendedThen.mono (List.subset_append_right _ _))⟩
  | alt first second firstFollows secondFollows =>
      intro goal place notes found
      rcases eq_some_of_orElse found with one | other
      · obtain ⟨later, earlier, led, reached, extended⟩ := firstFollows _ _ _ one
        exact ⟨later, earlier, .inl led, reached, extended.mono (List.subset_append_left _ _)⟩
      · obtain ⟨later, earlier, led, reached, extended⟩ := secondFollows _ _ _ other
        exact ⟨later, earlier, .inr led, reached, extended.mono (List.subset_append_right _ _)⟩
  | group index inner follows =>
      intro goal place notes found
      obtain ⟨later, earlier, led, reached, extended, _⟩ := follows.exists_of_group found
      exact ⟨later, earlier, led, reached, extended⟩
  | repeated least most greedy inner follows =>
      intro goal place notes found
      cases most with
      | some most =>
          obtain ⟨next, between, repeats, further, extended⟩ :=
            follows.exactly least _ _ _ found
          obtain ⟨later, earlier, ⟨count, fits, repeatsThen⟩, reached, extendedThen⟩ :=
            follows.atMost greedy (most - least) _ _ _ further
          refine ⟨later, earlier, ⟨least + count, Nat.le_add_right _ _, ?_,
            repeats.append repeatsThen⟩, reached, extended.trans extendedThen⟩
          intro bound same
          cases same
          omega
      | none =>
          have unbounded : ∀ count, ∀ bound ∈ (none : Option Nat), count ≤ max least bound :=
            fun _ _ absent => absurd absent (Option.not_mem_none _)
          cases least with
          | zero =>
              rcases eq_some_of_prefer found with more | fewer
              · obtain ⟨later, earlier, ⟨count, _, repeats⟩, reached, extended⟩ :=
                  follows.onceOrMore greedy _ _ _ more
                exact ⟨later, earlier, ⟨count, Nat.zero_le _, unbounded _, repeats⟩, reached,
                  extended⟩
              · exact ⟨place, notes, ⟨0, Nat.le_refl 0, unbounded _, rfl⟩, fewer, .refl _ _⟩
          | succ least =>
              obtain ⟨next, between, repeats, further, extended⟩ :=
                follows.exactly least _ _ _ found
              obtain ⟨later, earlier, ⟨count, once, repeatsThen⟩, reached, extendedThen⟩ :=
                follows.onceOrMore greedy _ _ _ further
              exact ⟨later, earlier, ⟨least + count, Nat.add_le_add_left once least, unbounded _,
                repeats.append repeatsThen⟩, reached, extended.trans extendedThen⟩

/-- Where an expression leads is onward. -/
theorem Repeats.mem_onward
    {leads : Place → Place → Prop}
    (onward : ∀ place later, leads place later → later ∈ place.onward)
    {count : Nat}
    {place later : Place}
    (repeats : Repeats leads count place later) :
    later ∈ place.onward := by
  induction count generalizing place with
  | zero =>
      obtain rfl : later = place := repeats
      exact later.self_mem_onward
  | succ count ih =>
      obtain ⟨next, led, others⟩ := repeats
      exact Place.mem_onward_trans (onward _ _ led) (ih others)

theorem Expr.Leads.mem_onward
    {expr : Expr}
    {place later : Place}
    (led : expr.Leads place later) :
    later ∈ place.onward := by
  induction expr generalizing place later with
  | empty =>
      obtain rfl : later = place := led
      exact later.self_mem_onward
  | chars set => exact Place.mem_onward_of_pass? led
  | anchor condition =>
      obtain ⟨_, rfl⟩ := led
      exact later.self_mem_onward
  | seq first second firstOnward secondOnward =>
      obtain ⟨next, led, ledThen⟩ := led
      exact Place.mem_onward_trans (firstOnward led) (secondOnward ledThen)
  | alt first second firstOnward secondOnward =>
      rcases led with one | other
      · exact firstOnward one
      · exact secondOnward other
  | group index inner onward => exact onward led
  | repeated least most greedy inner onward =>
      obtain ⟨_, _, _, repeats⟩ := led
      exact repeats.mem_onward fun _ _ => onward

/-- What is ahead of a place is the text up to a place onward and what is ahead of that. -/
theorem Place.textTo_append_ahead
    {place later : Place}
    (reached : later ∈ place.onward) :
    place.textTo later ++ later.ahead = place.ahead := by
  induction place using inductionOn generalizing later with
  | ended place ahead =>
      rw [onward_of_nil ahead, List.mem_singleton] at reached
      rw [reached, textTo, ahead, List.take_nil, List.append_nil]
  | step place character rest ahead ih =>
      rw [onward_of_cons ahead, List.mem_cons] at reached
      rcases reached with rfl | behind
      · rw [textTo, Nat.sub_self, List.take_zero, List.nil_append]
      · have moved := (index_add_length behind).1
        rw [index_next] at moved
        have distance : later.index - place.index =
            later.index - (place.next character rest).index + 1 := by
          rw [index_next]
          omega
        have further := ih behind
        rw [textTo, ahead_next] at further
        rw [textTo, distance, ahead, List.take_succ_cons, List.cons_append, further]

end Regex
end ResourceRouting
