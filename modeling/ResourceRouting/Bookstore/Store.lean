import ResourceRouting.Text
import ResourceRouting.Unicode.CaseMap

/-!
# The store of a bookstore

Books with their reviews.  Books are numbered in the order in which they are added, and a number
is never used again; the reviews of a book are numbered from one.
-/

namespace ResourceRouting
namespace Bookstore

/-- A book. -/
structure Book where
  /-- The number of the book. -/
  id : Nat
  /-- The title. -/
  title : Text
  /-- The author. -/
  author : Text
  deriving DecidableEq, Repr

/-- A review of a book. -/
structure Review where
  /-- The number of the review. -/
  id : Nat
  /-- The rating. -/
  rating : Nat
  /-- The text. -/
  text : Text
  deriving DecidableEq, Repr

/-- What is kept under a number. -/
structure Shelf where
  /-- The book, if there is one. -/
  book : Option Book := none
  /-- The reviews of the book, in the order in which they were added. -/
  reviews : List Review := []
  deriving DecidableEq, Repr

/-- Shelves by the numbers of their books. -/
structure Store where
  /-- The shelves, in increasing order of their numbers. -/
  shelves : List (Nat × Shelf) := []
  /-- The number that was given to a book last. -/
  lastId : UInt64 := 0
  deriving DecidableEq, Repr

namespace Store

/-- A store without books. -/
def empty : Store := {}

/-- The shelf of a number. -/
def shelf? (store : Store) (id : Nat) : Option Shelf :=
  store.shelves.lookup id

/-- The book of a number. -/
def book? (store : Store) (id : Nat) : Option Book :=
  (store.shelf? id).bind (·.book)

/-- All books, in the order of the shelves. -/
def books (store : Store) : List Book :=
  store.shelves.filterMap (·.2.book)

/-- The reviews of a book; a book that is not there has none. -/
def reviews (store : Store) (id : Nat) : List Review :=
  ((store.shelf? id).map (·.reviews)).getD []

/-- Puts a book on the shelf of a number; there is a new shelf if the number had none. -/
def place (id : Nat) (book : Book) : List (Nat × Shelf) → List (Nat × Shelf)
  | [] => [(id, { book := some book })]
  | (key, shelf) :: rest =>
      if id < key then (id, { book := some book }) :: (key, shelf) :: rest
      else if id = key then (key, { shelf with book := some book }) :: rest
      else (key, shelf) :: place id book rest

/-- Adds a book under the next number, whatever number it brings. -/
def add (store : Store) (book : Book) : Book × Store :=
  let id := store.lastId + 1
  let numbered := { book with id := id.toNat }
  (numbered, ⟨place id.toNat numbered store.shelves, id⟩)

/-- Changes the shelf of a number. -/
def modify (store : Store) (id : Nat) (change : Shelf → Shelf) : Store :=
  { store with
    shelves := store.shelves.map fun entry =>
      if entry.1 = id then (entry.1, change entry.2) else entry }

/-- Replaces a book, whose number and reviews stay, whatever number the new one brings. -/
def replace (store : Store) (id : Nat) (book : Book) : Option (Book × Store) :=
  let numbered := { book with id := id }
  (store.book? id).map fun _ =>
    (numbered, store.modify id fun shelf => { shelf with book := some numbered })

/-- Removes a shelf, and says whether there was a book on it. -/
def remove (store : Store) (id : Nat) : Bool × Store :=
  ((store.book? id).isSome,
    { store with shelves := store.shelves.filter fun entry => entry.1 ≠ id })

/-- Adds a review to a book under the next number of its reviews, whatever number it brings. -/
def addReview (store : Store) (id : Nat) (review : Review) : Option (Review × Store) :=
  (store.book? id).map fun _ =>
    let numbered := { review with id := (store.reviews id).length + 1 }
    (numbered, store.modify id fun shelf => { shelf with reviews := shelf.reviews ++ [numbered] })

/-- The books of an author; the case of ASCII letters does not matter. -/
def byAuthor (store : Store) (author : Text) : List Book :=
  store.books.filter fun book => Text.lowerAscii book.author = Text.lowerAscii author

/-- The books with some text in their titles; case does not matter. -/
def byTitle (store : Store) (part : Text) : List Book :=
  store.books.filter fun book =>
    Text.occursIn (Unicode.lower part) (Unicode.lower book.title)

end Store
end Bookstore
end ResourceRouting
