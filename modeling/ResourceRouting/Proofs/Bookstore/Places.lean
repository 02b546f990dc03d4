import ResourceRouting.Bookstore.Resources
import ResourceRouting.Proofs.Bookstore.Catalogue
import ResourceRouting.Proofs.Resolution.Binding
import ResourceRouting.Proofs.Text
import ResourceRouting.Proofs.Uri.Segments

/-!
# Places in a bookstore

What the path of a request stands for, and what a request does to the catalogue when it succeeds.
-/

namespace ResourceRouting

namespace Text

/-- A path of segments is divided into them at its slashes. -/
theorem pieces_join
    {texts : List Text}
    (segments : ∀ text ∈ texts, '/' ∉ text)
    {first : Text}
    (firstSegment : '/' ∉ first) :
    pieces '/' (first ++ Uri.Segment.join texts) = first :: texts := by
  induction texts generalizing first with
  | nil => rw [Uri.Segment.join_nil, List.append_nil, pieces_of_not_mem firstSegment]
  | cons text texts ih =>
      rw [Uri.Segment.join_cons, List.cons_append, pieces_append_cons firstSegment,
        ih (fun other present => segments other (List.mem_cons_of_mem _ present))
          (segments text (List.mem_cons_self ..))]

end Text

namespace Bookstore

/-- The operations on the sign of life. -/
def healthOperations : List (Operation Store) :=
  [{ method := .get, handler := checkHealth }]

/-- The operations on all books. -/
def booksOperations : List (Operation Store) :=
  [{ method := .get, produces := [.json], handler := listBooks },
    { method := .post, consumes := [.json], produces := [.json], handler := createBook }]

/-- The operations on the search for titles. -/
def searchOperations : List (Operation Store) :=
  [{ method := .get, produces := [.json], handler := searchBooks }]

/-- The operations on a book. -/
def bookOperations : List (Operation Store) :=
  [{ method := .get, produces := [.json], handler := showBook },
    { method := .put, consumes := [.json], produces := [.json], handler := updateBook },
    { method := .delete, handler := deleteBook }]

/-- The operations on the reviews of a book. -/
def reviewsOperations : List (Operation Store) :=
  [{ method := .get, produces := [.json], handler := listReviews },
    { method := .post, consumes := [.json], produces := [.json], handler := createReview }]

/-- The operations on a review. -/
def reviewOperations : List (Operation Store) :=
  [{ method := .get, produces := [.json], handler := showReview }]

/-- A place in a bookstore; the texts stand in the path for the numbers of a book and a review. -/
inductive Place
  /-- The sign of life. -/
  | health
  /-- All books. -/
  | books
  /-- The search for titles. -/
  | search
  /-- A book. -/
  | book (id : Text)
  /-- The reviews of a book. -/
  | reviews (id : Text)
  /-- A review of a book. -/
  | review (id number : Text)
  deriving DecidableEq, Repr

namespace Place

/-- The segments of the paths of a place. -/
def segments : Place → List Text
  | health => ["health".toList]
  | books => ["books".toList]
  | search => ["books".toList, "search".toList]
  | book id => ["books".toList, id]
  | reviews id => ["books".toList, id, "reviews".toList]
  | review id number => ["books".toList, id, "reviews".toList, number]

/-- The texts in the path, by the names that they are bound to. -/
def bindings : Place → List (Text × Text)
  | health => []
  | books => []
  | search => []
  | book id => [("id".toList, id)]
  | reviews id => [("id".toList, id)]
  | review id number => [("id".toList, id), ("review".toList, number)]

/-- The place of some segments. -/
def ofSegments? (segments : List Text) : Option Place :=
  match segments with
  | [first] =>
      if first = "health".toList then some health
      else if first = "books".toList then some books
      else none
  | [first, id] =>
      if first ≠ "books".toList || id.isEmpty then none
      else if id = "search".toList then some search
      else some (book id)
  | [first, id, second] =>
      if first ≠ "books".toList || id.isEmpty || second ≠ "reviews".toList then none
      else some (reviews id)
  | [first, id, second, number] =>
      if first ≠ "books".toList || id.isEmpty || second ≠ "reviews".toList || number.isEmpty then
        none
      else some (review id number)
  | _ => none

/-- The place of a path, which is one line and may end with a slash. -/
def ofPath? (path : Text) : Option Place :=
  if '\n' ∈ path then
    none
  else
    match Text.pieces '/' path with
    | [] :: segments =>
        ofSegments? (if segments.getLast? = some [] then segments.dropLast else segments)
    | _ => none

/-- Whether a text can stand in a path for a number. -/
structure IsSegment (text : Text) : Prop where
  nonempty : text ≠ []
  noSlash : '/' ∉ text
  line : '\n' ∉ text

/-- The texts of a place are segments, and a book is not what is searched for. -/
def IsProper : Place → Prop
  | health => True
  | books => True
  | search => True
  | book id => IsSegment id ∧ id ≠ "search".toList
  | reviews id => IsSegment id
  | review id number => IsSegment id ∧ IsSegment number

/-- What may stand behind a path that has been taken as a whole. -/
def IsEnding (ending : Text) : Prop :=
  ending = [] ∨ ending = ['/']

/-- A path leads to a place. -/
structure IsAt (place : Place) (path : Text) : Prop where
  /-- The texts of the place are segments. -/
  proper : place.IsProper
  /-- The path consists of the segments of the place, and may end with a slash. -/
  written : ∃ ending, IsEnding ending ∧ path = Uri.Segment.join place.segments ++ ending

/-- The segments of a place are segments of a path. -/
theorem IsProper.isSegment
    {place : Place}
    (proper : place.IsProper) :
    ∀ text ∈ place.segments, IsSegment text := by
  have literal : ∀ text ∈ ["health".toList, "books".toList, "search".toList, "reviews".toList],
      IsSegment text := by
    intro text present
    have checked : text ≠ [] ∧ '/' ∉ text ∧ '\n' ∉ text := by
      revert text
      decide
    exact ⟨checked.1, checked.2.1, checked.2.2⟩
  cases place with
  | health => simpa [segments] using literal _ (by decide)
  | books => simpa [segments] using literal _ (by decide)
  | search => simpa [segments] using ⟨literal _ (by decide), literal _ (by decide)⟩
  | book id => simpa [segments] using ⟨literal _ (by decide), proper.1⟩
  | reviews id => simpa [segments] using ⟨literal _ (by decide), proper, literal _ (by decide)⟩
  | review id number =>
      simpa [segments] using
        ⟨literal _ (by decide), proper.1, literal _ (by decide), proper.2⟩

/-- The segments of a place are those of no other place. -/
theorem ofSegments?_segments {place : Place} (proper : place.IsProper) :
    ofSegments? place.segments = some place := by
  cases place with
  | health => rfl
  | books => rfl
  | search => rfl
  | book id =>
      obtain ⟨segment, other⟩ := proper
      rw [segments, ofSegments?, if_neg (by simp [segment.nonempty]), if_neg other]
  | reviews id =>
      have nonempty := (show IsSegment id from proper).nonempty
      simp [segments, ofSegments?, nonempty]
  | review id number =>
      simp [segments, ofSegments?, proper.1.nonempty, proper.2.nonempty]

/-- A path leads to one place. -/
theorem IsAt.ofPath?_eq {place : Place} {path : Text} (located : place.IsAt path) :
    ofPath? path = some place := by
  obtain ⟨proper, ending, ends, rfl⟩ := located
  have parts := proper.isSegment
  have noSlash : ∀ text ∈ place.segments, '/' ∉ text := fun text present =>
    (parts text present).noSlash
  have line : '\n' ∉ Uri.Segment.join place.segments ++ ending := by
    intro feed
    rcases List.mem_append.mp feed with inSegments | inEnding
    · obtain ⟨text, present, inText⟩ := List.mem_flatMap.mp inSegments
      rcases List.mem_cons.mp inText with slash | inside
      · exact absurd slash (by decide)
      · exact (parts text present).line inside
    · rcases ends with rfl | rfl
      · cases inEnding
      · exact absurd inEnding (by decide)
  have last : place.segments.getLast? ≠ some [] := fun ends =>
    (parts [] (List.mem_of_getLast? ends)).nonempty rfl
  rw [ofPath?, if_neg line]
  rcases ends with rfl | rfl
  · have divided := @Text.pieces_join place.segments noSlash [] (by simp)
    rw [List.nil_append] at divided
    simp only [List.append_nil, divided, if_neg last]
    exact ofSegments?_segments proper
  · -- the slash at the end is in front of one more, empty segment
    have joined : Uri.Segment.join place.segments ++ ['/'] =
        Uri.Segment.join (place.segments ++ [[]]) := by simp
    have noSlash' : ∀ text ∈ place.segments ++ [[]], '/' ∉ text := by
      intro text present
      rcases List.mem_append.mp present with before | here
      · exact noSlash text before
      · rw [List.mem_singleton.mp here]
        exact List.not_mem_nil
    have divided := @Text.pieces_join (place.segments ++ [[]]) noSlash' [] (by simp)
    rw [List.nil_append] at divided
    simp only [joined, divided, List.getLast?_concat, if_true, List.dropLast_concat]
    exact ofSegments?_segments proper

/-- The operations of a place. -/
def operations : Place → List (Operation Store)
  | health => healthOperations
  | books => booksOperations
  | search => searchOperations
  | book _ => bookOperations
  | reviews _ => reviewsOperations
  | review _ _ => reviewOperations

/-- What a request has bound when its path has led to a place. -/
structure Binds (decode : Bool) (place : Place) (request bound : Request) : Prop where
  /-- Nothing but the path parameters has changed. -/
  rest : ∃ parameters, bound = { request with parameters := parameters }
  /-- The texts of the place are bound to their names. -/
  values : ∀ name text, (name, text) ∈ place.bindings →
    ∃ value, Resolution.decodeValue decode text = some value ∧
      bound.parameter? name = some value

end Place

/-- The number that a text in a path denotes, if it denotes one. -/
def number? (decode : Bool) (text : Text) : Option Nat :=
  (Resolution.decodeValue decode text).bind (Text.natural? Request.greatestNatural)

/-- What a request does to the catalogue if it succeeds. -/
def Action.ofRequest? (decode : Bool) (request : Request) : Option Action :=
  match Place.ofPath? request.path with
  | some .books =>
      if request.method = .post then
        (readBook request).toOption.map fun book => .add book.title book.author
      else none
  | some (.book id) =>
      if request.method = .put then
        (number? decode id).bind fun id =>
          (readBook request).toOption.map fun book => .replace id book.title book.author
      else if request.method = .delete then (number? decode id).map .remove
      else none
  | some (.reviews id) =>
      if request.method = .post then
        (number? decode id).bind fun id =>
          (readReview request).toOption.map fun review => .review id review.rating review.text
      else none
  | _ => none

end Bookstore
end ResourceRouting
