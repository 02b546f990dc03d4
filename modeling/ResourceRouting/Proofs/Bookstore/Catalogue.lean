import ResourceRouting.Proofs.Bookstore.Shelves

/-!
# The catalogue of a bookstore

A catalogue says what a store is about, without saying how it is kept: how many books have been
added, and for each number what is known of its book.  Each operation of the store does to the
catalogue what the corresponding action does.
-/

namespace ResourceRouting
namespace Bookstore

/-- What is known of a book: its title, its author, and the ratings and texts of its reviews. -/
structure Entry where
  /-- The title. -/
  title : Text
  /-- The author. -/
  author : Text
  /-- The ratings and texts of the reviews, in the order in which they were added. -/
  reviews : List (Nat × Text) := []
  deriving DecidableEq, Repr

/-- A catalogue of books. -/
structure Catalogue where
  /-- How many books have been added. -/
  added : Nat := 0
  /-- What is known of the book of a number. -/
  entries : Nat → Option Entry := fun _ => none

/-- What can be done to a catalogue. -/
inductive Action
  /-- A book is added. -/
  | add (title author : Text)
  /-- A book is replaced. -/
  | replace (id : Nat) (title author : Text)
  /-- A book is removed. -/
  | remove (id : Nat)
  /-- A review is added to a book. -/
  | review (id rating : Nat) (text : Text)
  deriving DecidableEq, Repr

namespace Catalogue

/-- A catalogue without books. -/
def empty : Catalogue := {}

/-- The catalogue with another entry under a number. -/
def set (catalogue : Catalogue) (id : Nat) (entry : Option Entry) : Catalogue :=
  { catalogue with entries := fun other => if other = id then entry else catalogue.entries other }

/--
The catalogue after an action.  A new book has the next number and no reviews.  A book that is
replaced keeps its reviews, and one that is removed takes them along.
-/
def apply (catalogue : Catalogue) : Action → Catalogue
  | .add title author =>
      { catalogue.set (catalogue.added + 1) (some { title := title, author := author }) with
        added := catalogue.added + 1 }
  | .replace id title author =>
      catalogue.set id
        ((catalogue.entries id).map fun entry => { entry with title := title, author := author })
  | .remove id => catalogue.set id none
  | .review id rating text =>
      catalogue.set id
        ((catalogue.entries id).map fun entry =>
          { entry with reviews := entry.reviews ++ [(rating, text)] })

/-- The catalogue after some actions, one after the other. -/
def after (catalogue : Catalogue) (actions : List Action) : Catalogue :=
  actions.foldl apply catalogue

@[simp]
theorem after_nil (catalogue : Catalogue) : catalogue.after [] = catalogue := rfl

@[simp]
theorem after_cons (catalogue : Catalogue) (action : Action) (actions : List Action) :
    catalogue.after (action :: actions) = (catalogue.apply action).after actions := rfl

@[simp]
theorem after_append (catalogue : Catalogue) (first second : List Action) :
    catalogue.after (first ++ second) = (catalogue.after first).after second :=
  List.foldl_append

@[simp]
theorem entries_set (catalogue : Catalogue) (id : Nat) (entry : Option Entry) (other : Nat) :
    (catalogue.set id entry).entries other =
      if other = id then entry else catalogue.entries other := rfl

@[simp]
theorem added_set (catalogue : Catalogue) (id : Nat) (entry : Option Entry) :
    (catalogue.set id entry).added = catalogue.added := rfl

/-- An action adds one book or none. -/
theorem added_apply (catalogue : Catalogue) (action : Action) :
    catalogue.added ≤ (catalogue.apply action).added ∧
      (catalogue.apply action).added ≤ catalogue.added + 1 := by
  cases action <;> simp [apply]

theorem added_le_after (catalogue : Catalogue) (actions : List Action) :
    catalogue.added ≤ (catalogue.after actions).added := by
  induction actions generalizing catalogue with
  | nil => exact Nat.le_refl _
  | cons action actions ih =>
      exact Nat.le_trans (catalogue.added_apply action).1 (ih (catalogue.apply action))

/-- No more books are added than there are actions. -/
theorem added_after_le (catalogue : Catalogue) (actions : List Action) :
    (catalogue.after actions).added ≤ catalogue.added + actions.length := by
  induction actions generalizing catalogue with
  | nil => exact Nat.le_refl _
  | cons action actions ih =>
      have one := (catalogue.added_apply action).2
      have others := ih (catalogue.apply action)
      rw [after_cons, List.length_cons]
      omega

end Catalogue

/-- The shelf on which the book of an entry stands; its reviews are numbered from one. -/
def Entry.shelf (id : Nat) (entry : Entry) : Shelf where
  book := some ⟨id, entry.title, entry.author⟩
  reviews := entry.reviews.mapIdx fun index (rating, text) => ⟨index + 1, rating, text⟩

namespace Store

/-- A store keeps what is in a catalogue. -/
structure Keeps (store : Store) (catalogue : Catalogue) : Prop where
  /-- The number that was given last is that of the books that were added. -/
  counter : store.lastId.toNat = catalogue.added
  /-- The shelves are in strictly increasing order of their numbers. -/
  sorted : Sorted store.shelves
  /-- There is a shelf for each entry, and no other shelf. -/
  shelves : ∀ id, store.shelf? id = (catalogue.entries id).map (Entry.shelf id)
  /-- The numbers of the books begin at one and end at the one that was given last. -/
  numbers : ∀ id entry, catalogue.entries id = some entry → 1 ≤ id ∧ id ≤ catalogue.added

theorem keeps_empty : empty.Keeps .empty where
  counter := rfl
  sorted := .nil
  shelves := fun _ => rfl
  numbers := by simp [Catalogue.empty]

namespace Keeps

variable {store : Store} {catalogue : Catalogue} (keeps : store.Keeps catalogue)

include keeps

theorem whole : store.Whole := by
  refine ⟨keeps.sorted, fun id shelf found => ?_⟩
  rw [keeps.shelves, Option.map_eq_some_iff] at found
  obtain ⟨entry, known, rfl⟩ := found
  have small : id < 2 ^ 64 := by
    have last := store.lastId.toNat_lt
    rw [keeps.counter] at last
    exact Nat.lt_of_le_of_lt (keeps.numbers id entry known).2 last
  refine ⟨small, ⟨_, rfl, rfl⟩, fun review present => ?_⟩
  obtain ⟨index, less, rfl⟩ := List.mem_mapIdx.mp present
  rw [Entry.shelf, List.length_mapIdx]
  exact less

/-- What is kept under a number is the shelf of its entry. -/
theorem mem_shelves_iff {id : Nat} {shelf : Shelf} :
    (id, shelf) ∈ store.shelves ↔
      ∃ entry, catalogue.entries id = some entry ∧ shelf = entry.shelf id := by
  rw [← keeps.sorted.lookup_eq_some_iff]
  change store.shelf? id = some shelf ↔ _
  rw [keeps.shelves, Option.map_eq_some_iff]
  simp only [eq_comm]

theorem book?_eq (id : Nat) :
    store.book? id = (catalogue.entries id).map fun entry => ⟨id, entry.title, entry.author⟩ := by
  rw [book?, keeps.shelves]
  cases catalogue.entries id <;> rfl

theorem reviews_eq {id : Nat} {entry : Entry} (known : catalogue.entries id = some entry) :
    store.reviews id = (entry.shelf id).reviews :=
  reviews_of_shelf? (by rw [keeps.shelves, known, Option.map_some])

/-- The numbers of the listed books increase. -/
theorem books_sorted : store.books.Pairwise fun first second => first.id < second.id := by
  have numbered : ∀ entry ∈ store.shelves, ∀ book ∈ entry.2.book, book.id = entry.1 := by
    rintro ⟨key, shelf⟩ present book held
    obtain ⟨entry, _, rfl⟩ := keeps.mem_shelves_iff.mp present
    cases held
    rfl
  rw [books, List.pairwise_filterMap]
  refine keeps.sorted.imp_of_mem ?_
  intro first second firstIn secondIn less book held other otherHeld
  rw [numbered first firstIn book held, numbered second secondIn other otherHeld]
  exact less

/-- Changing the shelf of a book changes its entry. -/
theorem modify
    {id : Nat}
    {change : Shelf → Shelf}
    {update : Entry → Entry}
    (agree : ∀ entry, catalogue.entries id = some entry →
      change (entry.shelf id) = (update entry).shelf id) :
    (store.modify id change).Keeps (catalogue.set id ((catalogue.entries id).map update)) := by
  refine ⟨keeps.counter, keeps.sorted.modify id change, fun other => ?_, ?_⟩
  · rw [shelf?_modify, Catalogue.entries_set]
    split
    · rename_i same
      subst same
      rw [keeps.shelves, Option.map_map, Option.map_map]
      exact Option.map_congr agree
    · exact keeps.shelves other
  · intro other entry known
    rw [Catalogue.entries_set] at known
    split at known
    · rename_i same
      obtain ⟨before, known, _⟩ := Option.map_eq_some_iff.mp known
      exact same ▸ keeps.numbers id before known
    · exact keeps.numbers other entry known

/-- Adding a book gives it the next number, unless there is none. -/
theorem add
    (left : catalogue.added + 1 < 2 ^ 64)
    (book : Book) :
    (store.add book).1 = ⟨catalogue.added + 1, book.title, book.author⟩ ∧
      (store.add book).2.Keeps (catalogue.apply (.add book.title book.author)) := by
  have number : (store.lastId + 1).toNat = catalogue.added + 1 := by
    rw [UInt64.toNat_add, keeps.counter]
    exact Nat.mod_eq_of_lt left
  have shown : (store.add book).1 = ⟨catalogue.added + 1, book.title, book.author⟩ := by
    rw [Store.add, number]
  have fresh : store.shelf? (catalogue.added + 1) = none := by
    rw [keeps.shelves]
    cases known : catalogue.entries (catalogue.added + 1) with
    | none => rfl
    | some entry => exact absurd (keeps.numbers _ entry known).2 (Nat.not_succ_le_self _)
  refine ⟨shown, number, keeps.sorted.place .., fun other => ?_, ?_⟩
  · rw [shelf?_add keeps.sorted, shown, fresh]
    simp only [Catalogue.apply, Catalogue.entries_set]
    split
    · rename_i same
      subst same
      rfl
    · exact keeps.shelves other
  · intro other entry known
    simp only [Catalogue.apply, Catalogue.entries_set] at known
    split at known
    · rename_i same
      exact ⟨same ▸ Nat.succ_pos _, Nat.le_of_eq same⟩
    · obtain ⟨lower, upper⟩ := keeps.numbers other entry known
      exact ⟨lower, Nat.le_succ_of_le upper⟩

/-- Replacing a book leaves its number and its reviews as they are. -/
theorem replace
    {id : Nat}
    {given book : Book}
    {after : Store}
    (replaced : store.replace id given = some (book, after)) :
    (∃ entry, catalogue.entries id = some entry) ∧
      book = ⟨id, given.title, given.author⟩ ∧
        after.Keeps (catalogue.apply (.replace id given.title given.author)) := by
  obtain ⟨⟨old, held⟩, rfl, rfl⟩ := of_replace replaced
  rw [keeps.book?_eq, Option.map_eq_some_iff] at held
  obtain ⟨entry, known, _⟩ := held
  exact ⟨⟨entry, known⟩, rfl, keeps.modify fun _ _ => rfl⟩

/-- Removing a book removes its entry. -/
theorem remove
    {id : Nat}
    (found : (store.remove id).1 = true) :
    (∃ entry, catalogue.entries id = some entry) ∧
      (store.remove id).2.Keeps (catalogue.apply (.remove id)) := by
  rw [Store.remove, keeps.book?_eq, Option.isSome_map, Option.isSome_iff_exists] at found
  refine ⟨found, keeps.counter, keeps.sorted.filter _, fun other => ?_, ?_⟩
  · refine (shelf?_remove store id other).trans ?_
    simp only [Catalogue.apply, Catalogue.entries_set]
    split
    · rfl
    · exact keeps.shelves other
  · intro other entry known
    simp only [Catalogue.apply, Catalogue.entries_set] at known
    split at known
    · cases known
    · exact keeps.numbers other entry known

/-- Adding a review gives it the next number of the reviews of its book. -/
theorem addReview
    {id : Nat}
    {given review : Review}
    {after : Store}
    (added : store.addReview id given = some (review, after)) :
    ∃ entry, catalogue.entries id = some entry ∧
      review = ⟨entry.reviews.length + 1, given.rating, given.text⟩ ∧
        after.Keeps (catalogue.apply (.review id given.rating given.text)) := by
  obtain ⟨⟨old, held⟩, numbered, rfl⟩ := of_addReview added
  rw [keeps.book?_eq, Option.map_eq_some_iff] at held
  obtain ⟨entry, known, _⟩ := held
  obtain rfl : review = ⟨entry.reviews.length + 1, given.rating, given.text⟩ := by
    rw [numbered, keeps.reviews_eq known, Entry.shelf, List.length_mapIdx]
  refine ⟨entry, known, rfl, keeps.modify ?_⟩
  intro same known'
  obtain rfl := Option.some.inj (known.symm.trans known')
  simp [Entry.shelf, List.mapIdx_append]

end Keeps
end Store
end Bookstore
end ResourceRouting
