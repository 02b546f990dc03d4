import Mathlib.Data.List.Nodup

/-!
# First occurrences

A list from which all but the first occurrence of each member has been taken out.  Adding the
members of a list one after the other, where they are new, leaves just these.  Where no key occurs
twice, what is found under a key is what stands under it.
-/

namespace ResourceRouting
namespace Distinct

/-- Behind the keys that have a value among the first ones the others follow. -/
theorem zip_append {α β : Type} (keys : List α) (first second : List β) :
    keys.zip (first ++ second) = keys.zip first ++ (keys.drop first.length).zip second := by
  induction first generalizing keys with
  | nil => simp
  | cons value first ih =>
      cases keys with
      | nil => rfl
      | cons key keys => simp [ih]

variable {α : Type} [BEq α] [LawfulBEq α]

/-- The first occurrences are distinct. -/
theorem nodup_eraseDups (list : List α) : list.eraseDups.Nodup := by
  induction count : list.length using Nat.strongRecOn generalizing list with
  | ind count ih =>
      cases list with
      | nil => exact .nil
      | cons member list =>
          rw [List.eraseDups_cons, List.nodup_cons]
          refine ⟨?_, ih _ ?_ _ rfl⟩
          · rw [List.mem_eraseDups]
            simp
          · have shorter := List.length_filter_le (fun other => !other == member) list
            rw [List.length_cons] at count
            omega

/-- What is added behind the members that are held is the first occurrences of the others. -/
theorem foldl_addNew (list held : List α) :
    list.foldl (fun held next => if held.contains next then held else held ++ [next]) held =
      held ++ (list.filter fun member => !held.contains member).eraseDups := by
  induction list generalizing held with
  | nil => simp
  | cons next list ih =>
      rw [List.foldl_cons, ih]
      by_cases old : held.contains next = true
      · rw [if_pos old, List.filter_cons_of_neg (by simpa using old)]
      · have behind : (list.filter fun member => !(held ++ [next]).contains member) =
            (list.filter fun member => !held.contains member).filter (!· == next) := by
          rw [List.filter_filter]
          apply List.filter_congr
          intro member _
          rw [Bool.eq_iff_iff]
          simp [and_comm]
        rw [if_neg old, List.filter_cons_of_pos (by simpa using old), List.eraseDups_cons, behind,
          List.append_assoc, List.singleton_append]

theorem lookup_cons_of_ne
    {β : Type}
    {key other : α}
    (different : other ≠ key)
    (value : β)
    (list : List (α × β)) :
    ((key, value) :: list).lookup other = list.lookup other := by
  rw [List.lookup_cons, beq_false_of_ne different]

/-- A value is found under its key if no key occurs twice. -/
theorem lookup_of_mem
    {β : Type}
    {list : List (α × β)}
    (distinct : list.Pairwise fun first second => second.1 ≠ first.1)
    {key : α}
    {value : β}
    (present : (key, value) ∈ list) :
    list.lookup key = some value := by
  induction distinct with
  | nil => cases present
  | @cons entry list others _ ih =>
      rcases List.mem_cons.mp present with rfl | later
      · exact List.lookup_cons_self
      · rw [lookup_cons_of_ne (others _ later)]
        exact ih later

/-- Taking members out does not change which of the others come first. -/
theorem eraseDups_filter (keeps : α → Bool) (list : List α) :
    (list.filter keeps).eraseDups = list.eraseDups.filter keeps := by
  induction count : list.length using Nat.strongRecOn generalizing list with
  | ind count ih =>
      cases list with
      | nil => rfl
      | cons member list =>
          have shorter := List.length_filter_le (fun other => !other == member) list
          rw [List.length_cons] at count
          have others := ih _ (by omega) (list.filter fun other => !other == member) rfl
          rw [List.eraseDups_cons, List.filter_cons, List.filter_cons, ← others, List.filter_filter]
          by_cases kept : keeps member = true
          · rw [if_pos kept, if_pos kept, List.eraseDups_cons, List.filter_filter]
            simp only [Bool.and_comm]
          · rw [if_neg kept, if_neg kept]
            congr 1
            apply List.filter_congr
            intro other _
            by_cases same : other = member
            · simp [same, kept]
            · simp [same]

/-- Of distinct members, all but the first ones are those behind them. -/
theorem filter_not_mem_take {list : List α} (distinct : list.Nodup) (count : Nat) :
    (list.filter fun member => !(list.take count).contains member) = list.drop count := by
  have parted := List.take_append_drop count list
  have apart : ∀ first ∈ list.take count, ∀ later ∈ list.drop count, first ≠ later := by
    rw [← parted] at distinct
    exact (List.nodup_append.mp distinct).2.2
  have front :
      (list.take count).filter (fun member => !(list.take count).contains member) = [] := by
    rw [List.filter_eq_nil_iff]
    intro member present
    simp [present]
  have behind : (list.drop count).filter (fun member => !(list.take count).contains member) =
      list.drop count := by
    rw [List.filter_eq_self]
    intro member present
    have absent : member ∉ list.take count := fun early => apart member early member present rfl
    simp [absent]
  calc
    list.filter (fun member => !(list.take count).contains member) =
        (list.take count ++ list.drop count).filter
          fun member => !(list.take count).contains member := by rw [parted]
    _ = list.drop count := by rw [List.filter_append, front, behind, List.nil_append]

/-- A key is not found exactly if it is none of those that have a value. -/
theorem lookup_zip_eq_none_iff {β : Type} {keys : List α} {values : List β} {key : α} :
    (keys.zip values).lookup key = none ↔ key ∉ keys.take values.length := by
  induction keys generalizing values with
  | nil => simp
  | cons other keys ih =>
      cases values with
      | nil => simp
      | cons value values =>
          rw [List.zip_cons_cons, List.length_cons, List.take_succ_cons, List.mem_cons]
          by_cases same : key = other
          · simp [same]
          · rw [lookup_cons_of_ne same, ih]
            simp [same]

end Distinct
end ResourceRouting
