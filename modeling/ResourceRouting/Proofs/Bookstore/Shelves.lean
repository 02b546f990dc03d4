import Mathlib.Algebra.GroupWithZero.Nat
import ResourceRouting.Bookstore.Store
import ResourceRouting.Proofs.Distinct

/-!
# The shelves of a bookstore

What is on the shelf of a number after each change of a store.  The shelves stay in order, each
has the book of its number, and its reviews are numbered.
-/

namespace ResourceRouting
namespace Bookstore

/-- A shelf is that of a number: it has its book, and no review has a number beyond the last. -/
structure Shelf.IsWhole (shelf : Shelf) (id : Nat) : Prop where
  /-- The number has 64 bits. -/
  small : id < 2 ^ 64
  /-- There is a book, which has the number. -/
  held : ∃ book, shelf.book = some book ∧ book.id = id
  /-- The numbers of the reviews do not exceed how many there are. -/
  numbered : ∀ review ∈ shelf.reviews, review.id ≤ shelf.reviews.length

namespace Store

/-- Shelves are in strictly increasing order of their numbers. -/
def Sorted (shelves : List (Nat × Shelf)) : Prop :=
  shelves.Pairwise fun first second => first.1 < second.1

namespace Sorted

variable {shelves : List (Nat × Shelf)} (sorted : Sorted shelves)

include sorted

/-- No number has two shelves. -/
theorem lookup_eq_some_iff {id : Nat} {shelf : Shelf} :
    shelves.lookup id = some shelf ↔ (id, shelf) ∈ shelves := by
  refine ⟨fun found => ?_, Distinct.lookup_of_mem (sorted.imp Nat.ne_of_gt)⟩
  obtain ⟨before, after, rfl, _⟩ := List.lookup_eq_some_iff.mp found
  simp

/-- What is on the shelves when a book has been put on one of them. -/
theorem lookup_place (id : Nat) (book : Book) (other : Nat) :
    (place id book shelves).lookup other =
      if other = id then some { (shelves.lookup id).getD {} with book := some book }
      else shelves.lookup other := by
  induction sorted with
  | nil =>
      by_cases same : other = id
      · rw [if_pos same, same, place, List.lookup_cons_self]
        rfl
      · rw [if_neg same, place, Distinct.lookup_cons_of_ne same]
  | @cons entry rest greater _ ih =>
      obtain ⟨key, shelf⟩ := entry
      rw [place]
      split
      · rename_i less
        have missing : ((key, shelf) :: rest).lookup id = none := by
          rw [List.lookup_eq_none_iff]
          intro entry present
          rw [bne_iff_ne]
          rcases List.mem_cons.mp present with rfl | later
          · exact Nat.ne_of_lt less
          · exact Nat.ne_of_lt (Nat.lt_trans less (greater entry later))
        by_cases same : other = id
        · rw [if_pos same, missing, same, List.lookup_cons_self]
          rfl
        · rw [if_neg same, Distinct.lookup_cons_of_ne same]
      · split
        · rename_i equal
          subst equal
          by_cases same : other = id
          · rw [if_pos same, same, List.lookup_cons_self, List.lookup_cons_self]
            rfl
          · rw [if_neg same, Distinct.lookup_cons_of_ne same, Distinct.lookup_cons_of_ne same]
        · rename_i different
          rw [Distinct.lookup_cons_of_ne different]
          by_cases same : other = key
          · subst same
            rw [if_neg (Ne.symm different), List.lookup_cons_self, List.lookup_cons_self]
          · rw [Distinct.lookup_cons_of_ne same, Distinct.lookup_cons_of_ne same, ih]

end Sorted

/-- Putting a book on a shelf adds no other number. -/
theorem fst_of_mem_place
    {id : Nat}
    {book : Book}
    {shelves : List (Nat × Shelf)}
    {entry : Nat × Shelf}
    (present : entry ∈ place id book shelves) :
    entry.1 = id ∨ ∃ old ∈ shelves, old.1 = entry.1 := by
  induction shelves with
  | nil => exact .inl (congrArg Prod.fst (List.mem_singleton.mp present))
  | cons first rest ih =>
      obtain ⟨key, shelf⟩ := first
      rw [place] at present
      split at present
      · rcases List.mem_cons.mp present with rfl | later
        · exact .inl rfl
        · exact .inr ⟨entry, later, rfl⟩
      · split at present
        · rename_i same
          rcases List.mem_cons.mp present with rfl | later
          · exact .inl same.symm
          · exact .inr ⟨entry, List.mem_cons_of_mem _ later, rfl⟩
        · rcases List.mem_cons.mp present with rfl | later
          · exact .inr ⟨_, List.mem_cons_self .., rfl⟩
          · rcases ih later with new | ⟨old, member, same⟩
            · exact .inl new
            · exact .inr ⟨old, List.mem_cons_of_mem _ member, same⟩

theorem Sorted.place
    {shelves : List (Nat × Shelf)}
    (sorted : Sorted shelves)
    (id : Nat)
    (book : Book) :
    Sorted (place id book shelves) := by
  induction sorted with
  | nil => exact List.pairwise_singleton ..
  | @cons entry rest greater others ih =>
      obtain ⟨key, shelf⟩ := entry
      rw [Store.place]
      split
      · rename_i less
        refine .cons ?_ (.cons greater others)
        intro entry present
        rcases List.mem_cons.mp present with rfl | later
        · exact less
        · exact Nat.lt_trans less (greater entry later)
      · split
        · exact .cons greater others
        · rename_i notLess different
          refine .cons ?_ ih
          intro entry present
          rcases fst_of_mem_place present with new | ⟨old, member, same⟩
          · exact new ▸ Nat.lt_of_le_of_ne (Nat.le_of_not_lt notLess) (Ne.symm different)
          · exact same ▸ greater old member

theorem reviews_of_shelf? {store : Store} {id : Nat} {shelf : Shelf}
    (found : store.shelf? id = some shelf) :
    store.reviews id = shelf.reviews := by
  rw [reviews, found]
  rfl

/-- A book is replaced where there is one, and the new book has its number. -/
theorem of_replace
    {store after : Store}
    {id : Nat}
    {given book : Book}
    (replaced : store.replace id given = some (book, after)) :
    (∃ old, store.book? id = some old) ∧ book = ⟨id, given.title, given.author⟩ ∧
      after = store.modify id fun shelf => { shelf with book := some book } := by
  obtain ⟨old, held, equal⟩ := Option.map_eq_some_iff.mp replaced
  cases equal
  exact ⟨⟨old, held⟩, rfl, rfl⟩

/-- A review is added where there is a book, and has the next number. -/
theorem of_addReview
    {store after : Store}
    {id : Nat}
    {given review : Review}
    (added : store.addReview id given = some (review, after)) :
    (∃ book, store.book? id = some book) ∧
      review = ⟨(store.reviews id).length + 1, given.rating, given.text⟩ ∧
        after = store.modify id fun shelf =>
          { shelf with reviews := shelf.reviews ++ [review] } := by
  obtain ⟨book, held, equal⟩ := Option.map_eq_some_iff.mp added
  cases equal
  exact ⟨⟨book, held⟩, rfl, rfl⟩

/-- What is on the shelves when one of them has been changed. -/
@[simp]
theorem shelf?_modify (store : Store) (id : Nat) (change : Shelf → Shelf) (other : Nat) :
    (store.modify id change).shelf? other =
      if other = id then (store.shelf? id).map change else store.shelf? other := by
  simp only [shelf?, modify]
  induction store.shelves with
  | nil => split <;> rfl
  | cons entry rest ih =>
      obtain ⟨key, shelf⟩ := entry
      rw [List.map_cons]
      by_cases changed : key = id
      · subst changed
        rw [if_pos rfl]
        by_cases same : other = key
        · subst same
          simp only [List.lookup_cons_self, if_true, Option.map_some]
        · rw [Distinct.lookup_cons_of_ne same, Distinct.lookup_cons_of_ne same, ih, if_neg same,
            if_neg same]
      · rw [if_neg changed, Distinct.lookup_cons_of_ne (Ne.symm changed)]
        by_cases same : other = key
        · subst same
          rw [List.lookup_cons_self, List.lookup_cons_self, if_neg changed]
        · rw [Distinct.lookup_cons_of_ne same, Distinct.lookup_cons_of_ne same, ih]

/-- What a change leaves of the shelf that it changes, it leaves of all shelves. -/
theorem view_modify
    {α : Type}
    (view : Option Shelf → α)
    {change : Shelf → Shelf}
    (same : ∀ shelf, view (some (change shelf)) = view (some shelf))
    (store : Store)
    (id other : Nat) :
    view ((store.modify id change).shelf? other) = view (store.shelf? other) := by
  rw [shelf?_modify]
  split
  · rename_i equal
    rw [equal]
    cases store.shelf? id with
    | none => rfl
    | some shelf => exact same shelf
  · rfl

theorem Sorted.modify
    {store : Store}
    (sorted : Sorted store.shelves)
    (id : Nat)
    (change : Shelf → Shelf) :
    Sorted (store.modify id change).shelves := by
  have keys : ∀ entry : Nat × Shelf,
      (if entry.1 = id then (entry.1, change entry.2) else entry).1 = entry.1 := by
    intro entry
    split <;> rfl
  simpa only [Sorted, Store.modify, List.pairwise_map, keys] using sorted

/-- What is on the shelves when one of them has been removed. -/
@[simp]
theorem shelf?_remove (store : Store) (id other : Nat) :
    (store.remove id).2.shelf? other = if other = id then none else store.shelf? other := by
  simp only [shelf?, remove]
  induction store.shelves with
  | nil => split <;> rfl
  | cons entry rest ih =>
      obtain ⟨key, shelf⟩ := entry
      by_cases removed : key = id
      · subst removed
        rw [List.filter_cons_of_neg (by simp), ih]
        by_cases same : other = key
        · rw [if_pos same, if_pos same]
        · rw [if_neg same, if_neg same, Distinct.lookup_cons_of_ne same]
      · rw [List.filter_cons_of_pos (by simpa using removed)]
        by_cases same : other = key
        · subst same
          rw [List.lookup_cons_self, List.lookup_cons_self, if_neg removed]
        · rw [Distinct.lookup_cons_of_ne same, Distinct.lookup_cons_of_ne same, ih]

/-- What is on the shelves when a book has been added. -/
theorem shelf?_add {store : Store} (sorted : Sorted store.shelves) (book : Book) (other : Nat) :
    (store.add book).2.shelf? other =
      if other = (store.add book).1.id then
        some { (store.shelf? (store.add book).1.id).getD {} with
          book := some (store.add book).1 }
      else store.shelf? other :=
  sorted.lookup_place ..

/-- The shelves of a store are in order, and each is that of its number. -/
structure Whole (store : Store) : Prop where
  /-- The shelves are in order. -/
  sorted : Sorted store.shelves
  /-- A shelf has the book of its number, and its reviews are numbered. -/
  shelves : ∀ id shelf, store.shelf? id = some shelf → shelf.IsWhole id

theorem whole_empty : empty.Whole where
  sorted := .nil
  shelves := by simp [shelf?, empty]

namespace Whole

variable {store : Store} (whole : store.Whole)

include whole

/-- There is a shelf where there is a book. -/
theorem book?_isSome (id : Nat) : (store.book? id).isSome = (store.shelf? id).isSome := by
  rw [book?]
  cases found : store.shelf? id with
  | none => rfl
  | some shelf =>
      obtain ⟨book, held, _⟩ := (whole.shelves id shelf found).held
      rw [Option.bind_some, held]
      rfl

/-- No review of a book has a number beyond the last. -/
theorem numbered_reviews (id : Nat) : ∀ review ∈ store.reviews id,
    review.id ≤ (store.reviews id).length := by
  rw [reviews]
  cases found : store.shelf? id with
  | none => exact fun _ none => absurd none List.not_mem_nil
  | some shelf => exact (whole.shelves id shelf found).numbered

protected theorem modify
    {id : Nat}
    {change : Shelf → Shelf}
    (kept : ∀ shelf, store.shelf? id = some shelf → shelf.IsWhole id →
      (change shelf).IsWhole id) :
    (store.modify id change).Whole := by
  refine ⟨whole.sorted.modify id change, fun other shelf found => ?_⟩
  rw [shelf?_modify] at found
  split at found
  · rename_i same
    obtain ⟨before, held, rfl⟩ := Option.map_eq_some_iff.mp found
    exact same ▸ kept before held (whole.shelves id before held)
  · exact whole.shelves other shelf found

protected theorem add (book : Book) : (store.add book).2.Whole := by
  refine ⟨whole.sorted.place .., fun other shelf found => ?_⟩
  rw [shelf?_add whole.sorted] at found
  split at found
  · rename_i same
    cases found
    refine ⟨same ▸ UInt64.toNat_lt _, ⟨_, rfl, same.symm⟩, ?_⟩
    cases held : store.shelf? (store.add book).1.id with
    | none => exact fun _ none => absurd none List.not_mem_nil
    | some before => exact (whole.shelves _ before held).numbered
  · exact whole.shelves other shelf found

protected theorem replace
    {id : Nat}
    {given book : Book}
    {after : Store}
    (replaced : store.replace id given = some (book, after)) :
    after.Whole := by
  obtain ⟨_, rfl, rfl⟩ := of_replace replaced
  exact whole.modify fun shelf _ kept => ⟨kept.small, ⟨_, rfl, rfl⟩, kept.numbered⟩

protected theorem remove (id : Nat) : (store.remove id).2.Whole := by
  refine ⟨whole.sorted.filter _, fun other shelf found => ?_⟩
  rw [shelf?_remove] at found
  split at found
  · cases found
  · exact whole.shelves other shelf found

/-- Where there is no book, there is nothing to remove. -/
theorem remove_eq_of_missing {id : Nat} (missing : (store.remove id).1 = false) :
    (store.remove id).2 = store := by
  have none : store.shelf? id = none := by
    rwa [remove, whole.book?_isSome, Option.isSome_eq_false_iff, Option.isNone_iff_eq_none]
      at missing
  have others : ∀ entry ∈ store.shelves, entry.1 ≠ id := by
    rintro ⟨key, shelf⟩ present rfl
    rw [shelf?, whole.sorted.lookup_eq_some_iff.mpr present] at none
    cases none
  rw [remove, List.filter_eq_self.mpr (by simpa using others)]

protected theorem addReview
    {id : Nat}
    {given review : Review}
    {after : Store}
    (added : store.addReview id given = some (review, after)) :
    after.Whole := by
  obtain ⟨_, rfl, rfl⟩ := of_addReview added
  refine whole.modify fun shelf found kept => ⟨kept.small, kept.held, ?_⟩
  intro other present
  rw [List.length_append, List.length_singleton]
  rcases List.mem_append.mp present with old | new
  · exact Nat.le_succ_of_le (kept.numbered other old)
  · exact Nat.le_of_eq (by rw [List.mem_singleton.mp new, reviews_of_shelf? found])

end Whole
end Store
end Bookstore
end ResourceRouting
