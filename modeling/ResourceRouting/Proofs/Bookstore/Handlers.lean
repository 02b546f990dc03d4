import ResourceRouting.Proofs.Bookstore.Routing
import ResourceRouting.Proofs.Decimal
import ResourceRouting.Proofs.Dispatch.ContentType
import ResourceRouting.Proofs.Http.Headers
import ResourceRouting.Proofs.Uri.Building

/-!
# What the operations of a bookstore do

Each request is refused, is answered with the allowed methods, or is handled by an operation of the
place of its path.
-/

namespace ResourceRouting

namespace Dispatch

@[simp]
theorem status_labelled (negotiated : Option MediaType) (given : Response) :
    (labelled negotiated given).status = given.status := by
  rw [labelled]
  split <;> rfl

/-- Labelling leaves all header fields but one as they are. -/
theorem get?_labelled
    {name : Text}
    (other : Text.lowerAscii name ≠ Text.lowerAscii Headers.contentType)
    (negotiated : Option MediaType)
    (given : Response) :
    (labelled negotiated given).headers.get? name = given.headers.get? name := by
  rw [labelled]
  split
  · exact Headers.get?_insert_of_ne other ..
  · rfl

end Dispatch

namespace Bookstore

open Uri (Segment)

/-- What the path of a new book or review links to. -/
inductive Link
  /-- A book. -/
  | book (id : Nat)
  /-- A review of a book. -/
  | review (id number : Nat)
  deriving DecidableEq, Repr

namespace Link

/-- The place that is linked to. -/
def place : Link → Place
  | book id => .book (Text.decimal id)
  | review id number => .review (Text.decimal id) (Text.decimal number)

/-- The path that is linked to. -/
def path (link : Link) : Text :=
  Segment.join link.place.segments

example : (Link.review 12 3).path = "/books/12/reviews/3".toList := by decide

/-- The response that says that there is something new at the link. -/
def response (link : Link) (document : Json) : Response where
  status := 201
  headers := Headers.empty.insert Headers.location link.path
  entity := some (.json document)

theorem isSegment_decimal (number : Nat) : Place.IsSegment (Text.decimal number) where
  nonempty := Text.decimal_ne_nil number
  noSlash := Text.not_mem_decimal (by decide) number
  line := Text.not_mem_decimal (by decide) number

/-- A link leads to its place. -/
theorem isAt_path (link : Link) : link.place.IsAt link.path := by
  refine ⟨?_, [], .inl rfl, (List.append_nil _).symm⟩
  cases link with
  | book id =>
      refine ⟨isSegment_decimal id, ?_⟩
      intro searched
      have letter : 's' ∈ Text.decimal id := by
        rw [searched]
        decide
      exact Text.not_mem_decimal (by decide) id letter
  | review id number => exact ⟨isSegment_decimal id, isSegment_decimal number⟩

/-- A link consists of letters, digits and slashes, so it can stand in a header. -/
theorem isValue_path (link : Link) : Headers.isValue link.path = true := by
  have alphanumeric : ∀ text ∈ link.place.segments, ∀ character ∈ text,
      character.isAlphanum = true := by
    have literal : ∀ text ∈ ["books".toList, "reviews".toList],
        text.all Char.isAlphanum = true := by decide
    have number : ∀ number, ∀ digit ∈ Text.decimal number, digit.isAlphanum = true := by
      intro number digit present
      simp [Char.isAlphanum, Text.isDigit_of_mem_decimal present]
    have books := List.all_eq_true.mp (literal "books".toList (by decide))
    have reviews := List.all_eq_true.mp (literal "reviews".toList (by decide))
    intro text present
    cases link with
    | book id =>
        simp only [place, Place.segments, List.mem_cons, List.not_mem_nil, or_false] at present
        rcases present with rfl | rfl
        · exact books
        · exact number id
    | review id other =>
        simp only [place, Place.segments, List.mem_cons, List.not_mem_nil, or_false] at present
        rcases present with rfl | rfl | rfl | rfl
        · exact books
        · exact number id
        · exact reviews
        · exact number other
  rw [Headers.isValue, List.all_eq_true]
  intro character present
  obtain ⟨text, inPath, inText⟩ := List.mem_flatMap.mp present
  rcases List.mem_cons.mp inText with rfl | inside
  · decide
  · have codes := Text.isAlphanum_iff.mp (alphanumeric text inPath character inside)
    simp only [Bool.or_eq_true, Bool.and_eq_true, decide_eq_true_eq]
    omega

end Link

/-- A response is created where the path is built from the template. -/
theorem created_of_build
    {template : Text}
    {ids : List Nat}
    {link : Link}
    (built : (Uri.Parts.ofPath template).build (.ofList (ids.map Text.decimal)) {} =
      .ok link.path)
    (document : Json) :
    created template ids document = .ok (link.response document) := by
  rw [created, built]
  simp only [Response.created, link.isValue_path, if_true]
  rfl

/-- The path of a new book is built from its number. -/
theorem created_book (id : Nat) (document : Json) :
    created bookTemplate [id] document = .ok ((Link.book id).response document) := by
  have valid : ∀ segment ∈ [Segment.literal "books".toList, .braced "id".toList],
      segment.IsValid := by decide +kernel
  have built := @Segment.build_template _ valid [Text.decimal id] rfl
  apply created_of_build
  refine built.trans (congrArg Except.ok (congrArg Segment.join ?_))
  exact congrArg (fun text => ["books".toList, text]) (Uri.Component.encode_path_decimal id)

/-- The path of a new review is built from its number and that of its book. -/
theorem created_review (id number : Nat) (document : Json) :
    created reviewTemplate [id, number] document =
      .ok ((Link.review id number).response document) := by
  have valid : ∀ segment ∈ [Segment.literal "books".toList, .braced "id".toList,
      .literal "reviews".toList, .braced "review".toList], segment.IsValid := by decide +kernel
  have built := @Segment.build_template _ valid [Text.decimal id, Text.decimal number] rfl
  apply created_of_build
  refine built.trans (congrArg Except.ok (congrArg Segment.join ?_))
  exact congrArg₂ (fun first second => ["books".toList, first, "reviews".toList, second])
    (Uri.Component.encode_path_decimal id) (Uri.Component.encode_path_decimal number)

/-- An operation of a place handles a request. -/
structure Handles
    (decode : Bool)
    (request : Request)
    (store : Store)
    (done : Dispatched Store)
    (place : Place)
    (operation : Operation Store) : Prop where
  /-- The path of the request leads to the place. -/
  located : place.IsAt request.path
  /-- The texts of the place are bound. -/
  binds : place.Binds decode request done.request
  /-- The operation is one of the place. -/
  member : operation ∈ place.operations
  /-- The operation has the method of the request, or answers `HEAD` in place of `GET`. -/
  method : operation.method = request.method ∨ request.method = .head ∧ operation.method = .get
  /-- The handler of the operation determines the outcome. -/
  handled : ∃ outcome negotiated,
    operation.handler done.request store = (outcome, done.state) ∧
      done.outcome = outcome.map (Dispatch.labelled negotiated)

/-- What serves the requests to a bookstore, if it can be set up. -/
def dispatcher (settings : DispatchSettings) : Except SetupError (Dispatcher Store) :=
  registry.map fun registry => ⟨registry.resources, directory, settings⟩

namespace Patterns

/-- What serves the requests to a bookstore with some patterns. -/
def dispatcher (patterns : Patterns) (settings : DispatchSettings) : Dispatcher Store where
  resources := [patterns.healthResource, patterns.booksResource]
  directory := directory
  settings := settings

variable {patterns : Patterns} (routes : patterns.AreRoutes) {settings : DispatchSettings}

include routes

theorem AreRoutes.dispatcher_eq :
    Bookstore.dispatcher settings = .ok (patterns.dispatcher settings) := by
  rw [Bookstore.dispatcher, routes.registry_eq]
  rfl

/--
What becomes of a request to a bookstore: it is refused, the allowed methods are listed, or an
operation of the place of its path handles it.
-/
theorem AreRoutes.dispatch?_cases
    {limit : Nat}
    {request : Request}
    {store : Store}
    {done : Dispatched Store}
    (dispatched : (patterns.dispatcher settings).dispatch? limit request store = some done) :
    ((∃ error, done.outcome = .error error) ∧ done.state = store) ∨
      (request.method = .options ∧ done.state = store) ∨
      ∃ place operation, Handles settings.decodesParameters request store done place operation := by
  rw [Dispatcher.dispatch?, Option.map_eq_some_iff] at dispatched
  obtain ⟨⟨bound, resolved⟩, resolves, rfl⟩ := dispatched
  cases resolved with
  | error error => exact .inl ⟨⟨error, rfl⟩, rfl⟩
  | ok target =>
      obtain ⟨place, located, operations, binds⟩ := routes.exists_place_of_resolve? resolves
      obtain ⟨parameters, rfl⟩ := binds.rest
      simp only [Dispatch.run, Patterns.dispatcher]
      cases selected : Dispatch.select settings target.operations
          { request with parameters := parameters } with
      | error error => exact .inl ⟨⟨error, rfl⟩, rfl⟩
      | ok choice =>
          cases choice with
          | none => exact .inr (.inl ⟨Dispatch.asked_of_select_eq_none selected, rfl⟩)
          | some selection =>
              obtain ⟨_, _, _, _, best⟩ := Dispatch.isBest_of_select selected
              obtain ⟨member, method⟩ := best.taken.1
              refine .inr (.inr ⟨place, selection.operation, located, binds,
                operations ▸ member, ?_, _, selection.pairing.mediaType?, rfl, rfl⟩)
              rcases method with own | ⟨head, _, _, get⟩
              · exact .inl own
              · exact .inr ⟨head, get⟩

end Patterns

end Bookstore
end ResourceRouting
