import ResourceRouting.Proofs.Bookstore.Handlers
import ResourceRouting.Proofs.Bookstore.Shelves
import ResourceRouting.Proofs.Resolution.Descent

/-!
# What is shown at a link

The path of a link leads to its place, and a request that reads it is answered with the document
at the link.
-/

namespace ResourceRouting

namespace Dispatch

open Negotiation

variable {σ : Type}

/-- Where everything is accepted, an operation that reads the entity does not go without others. -/
theorem exists_run_of_open
    {target : Target σ}
    {operation : Operation σ}
    {request : Request}
    {declared : Option MediaType}
    (present : operation ∈ target.operations)
    (own : operation.method = request.method)
    (valid : request.contentType = .ok declared)
    (reads : operation.consumes = [] ∨
      ∃ consumed ∈ operation.consumes, consumed.isCompatible (declared.getD .wildcard) = true)
    (accepts : request.headers.get? Headers.accept = none)
    (settings : DispatchSettings)
    (state : σ) :
    ∃ other ∈ target.operations, other.method = request.method ∧ ∃ negotiated,
      run settings target request state =
        ((other.handler request state).1.map (labelled negotiated),
          (other.handler request state).2) := by
  have served : Serves settings target.operations request.method operation := ⟨present, .inl own⟩
  have taken : Takes settings target.operations request.method (declared.getD .wildcard)
    operation := ⟨served, reads⟩
  have plain : request.headers.plain? Headers.accept = none := by
    rw [Headers.plain?, accepts, Option.filter_none]
  have decides := decides_select settings target.operations request
  unfold run
  cases selected : select settings target.operations request with
  | ok choice =>
      cases choice with
      | none =>
          rw [selected] at decides
          cases decides with
          | automaticOptions unserved _ _ => exact absurd served (unserved _)
      | some selection =>
          obtain ⟨_, _, _, _, best⟩ := isBest_of_select selected
          obtain ⟨member, method⟩ := best.taken.1
          refine ⟨selection.operation, member, ?_, selection.pairing.mediaType?, rfl⟩
          rcases method with same | ⟨head, _, unserved, _⟩
          · exact same
          · exact absurd (own.trans head) (unserved operation present)
  | error error =>
      rw [selected] at decides
      cases decides with
      | methodNotAllowed unserved _ => exact absurd served (unserved _)
      | invalidContentType _ invalid =>
          rw [valid] at invalid
          cases invalid
      | unsupportedMediaType _ other untaken =>
          obtain rfl := Except.ok.inj (valid.symm.trans other)
          exact absurd taken (untaken _)
      | invalidAccept _ _ invalid =>
          rw [plain] at invalid
          cases invalid
      | notAcceptable other _ _ foreign =>
          obtain rfl := Except.ok.inj (valid.symm.trans other)
          obtain ⟨media, produced⟩ : ∃ media, media ∈ Operation.orWildcard operation.produces := by
            rw [Operation.orWildcard]
            split
            · exact ⟨_, List.mem_singleton_self _⟩
            · rename_i some
              exact List.exists_mem_of_ne_nil _ (by simpa using some)
          have none := foreign operation taken .wildcard (plain ▸ .absent) media produced
          have kind : MediaType.wildcard.isWildcardKind = true := rfl
          have subtype : MediaType.wildcard.isWildcardSubtype = true := rfl
          simp [MediaType.isCompatible, kind, subtype] at none

end Dispatch

namespace Resolution

variable {σ : Type}

/-- A branch is found where the route of one of them takes the path. -/
theorem exists_branch?_of_divides
    {resource : Resource σ}
    {branch : Branch σ}
    {segments : List Uri.Segment}
    {path rest : Text}
    {texts : List Text}
    (present : branch ∈ branches resource)
    (route : IsRoute branch.pattern segments)
    (divides : Uri.Segment.Divides segments path texts rest)
    (admits : branchSearch.admits branch (Uri.Segment.noted rest) = true) :
    ∃ chosen found, branch? resource path = some (chosen, found) := by
  have matched := route.match?_of_divides divides
  cases chosen : branch? resource path with
  | some entry => exact ⟨_, _, rfl⟩
  | none =>
      have missing := Uri.Search.find?_eq_none_iff.mp chosen branch present
      rw [Uri.Search.admitted?_eq_some_iff.mpr
        (⟨rfl, matched, admits⟩ : (branch, _).1 = branch ∧ _ ∧ _)] at missing
      cases missing

/-- A descent ends at an operation that is found. -/
theorem descend_of_operation
    {decode : Bool}
    {resource : Resource σ}
    {rest : Text}
    {sub : SubOperation σ}
    {found : Uri.PathMatch}
    {request bound : Request}
    (further : Uri.PathMatch.isTerminal (some rest) = false)
    (chosen : branch? resource rest = some (.operation sub, found))
    (binding : bind decode sub.pattern found request = (bound, none))
    (directory : Directory σ)
    (state : σ)
    (limit : Nat)
    (template : Text) :
    descend directory decode state limit resource template (some rest) request =
      some (bound, .ok ⟨resource, operationsOf resource sub.pattern,
        template ++ sub.pattern.text⟩) := by
  rw [descend.eq_def]
  simp only [further, chosen, binding, Bool.false_eq_true, if_false]

end Resolution

namespace Bookstore

open Uri (Segment)
open Resolution (branch? IsRoute)

/-- A path is not taken as a whole while a segment is left. -/
theorem isTerminal_segment {text : Text} (nonempty : text ≠ []) (rest : Text) :
    Uri.PathMatch.isTerminal (some ('/' :: (text ++ rest))) = false := by
  cases text with
  | nil => exact absurd rfl nonempty
  | cons character text => rfl

/-- A number that has been bound is read. -/
theorem readNatural_bind_decimal
    {number : Nat}
    (small : number < 2 ^ 64)
    (request : Request)
    (name : Text) :
    (request.bind name (Text.decimal number)).readNatural name = .ok number := by
  have within : number ≤ Request.greatestNatural := Nat.le_of_lt_succ small
  have bound : (request.bind name (Text.decimal number)).parameter? name =
      some (Text.decimal number) := PathParameters.get?_push ..
  simp only [Request.readNatural, Request.read, bound, Text.natural?_decimal within]

/-- A number is one line. -/
theorem line_decimal (number : Nat) : '\n' ∉ '/' :: Text.decimal number := by
  simpa using (Link.isSegment_decimal number).line

/-- A variable takes a number. -/
theorem divides_decimal (body : Text) (number : Nat) :
    Segment.Divides [.braced body] ('/' :: Text.decimal number) [Text.decimal number] [] := by
  have segment := Link.isSegment_decimal number
  exact ⟨.cons ⟨segment.nonempty, segment.noSlash⟩ .nil, .inl rfl, by simp⟩

/-- A path of a number is not taken as a whole. -/
theorem isTerminal_decimal (number : Nat) :
    Uri.PathMatch.isTerminal (some ('/' :: Text.decimal number)) = false := by
  have further := isTerminal_segment (Link.isSegment_decimal number).nonempty []
  rwa [List.append_nil] at further

/-- The path of a review below the books. -/
def reviewPath (id number : Nat) : Text :=
  '/' :: Text.decimal id ++ '/' :: "reviews".toList ++ '/' :: Text.decimal number

theorem path_review (id number : Nat) :
    (Link.review id number).path = '/' :: "books".toList ++ reviewPath id number := by
  simp [Link.path, Link.place, Place.segments, reviewPath]

theorem line_reviewPath (id number : Nat) : '\n' ∉ reviewPath id number := by
  have first := line_decimal id
  have second := line_decimal number
  simp only [reviewPath, List.mem_append, not_or]
  exact ⟨⟨first, by decide⟩, second⟩

namespace Patterns

variable {patterns : Patterns} (routes : patterns.AreRoutes)

include routes

/-- The path of a book is taken by an operation. -/
theorem AreRoutes.exists_operation_of_book (id : Nat) :
    ∃ sub found, branch? patterns.booksResource ('/' :: Text.decimal id) =
      some (.operation sub, found) := by
  have present : .operation ⟨patterns.book,
        { method := .get, produces := [.json], handler := showBook }⟩ ∈
      Resolution.branches patterns.booksResource := by
    simp [Resolution.branches, bookOperations]
  obtain ⟨chosen, found, branch⟩ :=
    Resolution.exists_branch?_of_divides present routes.book (divides_decimal _ id) rfl
  cases chosen with
  | operation sub => exact ⟨sub, found, branch⟩
  | locator sub =>
      obtain ⟨_, other, more, _, _, same, _⟩ :=
        routes.exists_reviews_of_branch? (line_decimal id) branch
      -- behind the number of the book there is no slash
      have slash : '/' ∈ Text.decimal id := by
        rw [(List.cons.inj same).2]
        simp
      exact absurd slash (Link.isSegment_decimal id).noSlash

/-- The path of a review is taken by an operation of the reviews. -/
theorem AreRoutes.exists_operation_of_review (number : Nat) :
    ∃ sub, sub.pattern = patterns.review ∧
      branch? patterns.reviewsResource ('/' :: Text.decimal number) =
        some (.operation sub, ⟨[some (Text.decimal number)], Segment.noted []⟩) := by
  have present : .operation ⟨patterns.review,
        { method := .get, produces := [.json], handler := showReview }⟩ ∈
      Resolution.branches patterns.reviewsResource := by
    simp [Resolution.branches, reviewOperations]
  obtain ⟨chosen, found, branch⟩ :=
    Resolution.exists_branch?_of_divides present routes.review (divides_decimal _ number) rfl
  cases chosen with
  | operation sub =>
      obtain ⟨pattern, text, ending, _, ends, same, rfl⟩ :=
        routes.exists_review_of_branch? (line_decimal number) branch
      have written : Text.decimal number = text ++ ending := (List.cons.inj same).2
      obtain rfl : ending = [] := by
        rcases ends with rfl | rfl
        · rfl
        · have slash : '/' ∈ Text.decimal number := by simp [written]
          exact absurd slash (Link.isSegment_decimal number).noSlash
      rw [written, List.append_nil]
      rw [written, List.append_nil] at branch
      exact ⟨sub, pattern, branch⟩
  | locator sub =>
      have member := Resolution.mem_locators_of_branch (Uri.Search.of_find?_eq_some branch).1
      cases member

/-- The path of a review is taken by the locator of the reviews of its book. -/
theorem AreRoutes.branch?_reviewPath (id number : Nat) :
    branch? patterns.booksResource (reviewPath id number) =
      some (.locator ⟨patterns.reviews, locateReviews⟩,
        ⟨[some (Text.decimal id)], Segment.noted ('/' :: Text.decimal number)⟩) := by
  have segment := Link.isSegment_decimal id
  have divides : Segment.Divides [.braced "id".toList, .literal "reviews".toList]
      (reviewPath id number) [Text.decimal id, "reviews".toList] ('/' :: Text.decimal number) :=
    ⟨.cons ⟨segment.nonempty, segment.noSlash⟩ (.cons (by decide +kernel) .nil),
      .inr ⟨rfl, line_decimal number⟩, by simp [reviewPath]⟩
  have present : .locator ⟨patterns.reviews, locateReviews⟩ ∈
      Resolution.branches patterns.booksResource := by
    simp [Resolution.branches]
  obtain ⟨chosen, found, branch⟩ :=
    Resolution.exists_branch?_of_divides present routes.reviews divides rfl
  cases chosen with
  | operation sub =>
      -- the path has too many segments for an operation
      obtain ⟨place, ending, proper, count, ends, written, _, _⟩ :=
        routes.exists_place_of_branch? (line_reviewPath id number) branch
      have there : place.IsAt (Link.review id number).path :=
        ⟨proper, ending, ends, (path_review id number).trans written⟩
      obtain rfl : place = (Link.review id number).place :=
        Option.some.inj (there.ofPath?_eq.symm.trans (Link.review id number).isAt_path.ofPath?_eq)
      cases count
  | locator sub =>
      obtain ⟨rfl, text, more, taken, _, same, rfl⟩ :=
        routes.exists_reviews_of_branch? (line_reviewPath id number) branch
      have parts : Text.decimal id ++ '/' :: ("reviews".toList ++ '/' :: Text.decimal number) =
          text ++ '/' :: ("reviews".toList ++ more) := by
        simpa [reviewPath] using same
      obtain rfl : Text.decimal id = text := by
        have pieces := congrArg (Text.pieces '/') parts
        rw [Text.pieces_append_cons segment.noSlash, Text.pieces_append_cons taken.noSlash]
          at pieces
        exact (List.cons.inj pieces).1
      obtain rfl : '/' :: Text.decimal number = more := by simpa using parts
      exact branch

/-- The locator of the reviews of a book that is there finds them. -/
theorem AreRoutes.located_of_isSome
    {id : Nat}
    (small : id < 2 ^ 64)
    {store : Store}
    (held : (store.book? id).isSome = true)
    (request : Request) :
    (locateReviews (request.bind "id".toList (Text.decimal id)) store).bind directory =
      some patterns.reviewsResource := by
  obtain ⟨book, held⟩ := Option.isSome_iff_exists.mp held
  rw [locateReviews, bookId, readNatural_bind_decimal small]
  dsimp only
  rw [held, Option.map_some, Option.bind_some, routes.directory_eq, if_pos rfl]

/-- The path of a link to a book leads to a target. -/
theorem AreRoutes.exists_target_of_book
    {id : Nat}
    {request : Request}
    (path : request.path = (Link.book id).path)
    (decode : Bool)
    (store : Store)
    (limit : Nat) :
    ∃ bound target,
      Resolution.resolve? [patterns.healthResource, patterns.booksResource] directory decode store
        limit request = some (bound, .ok target) := by
  have whole : request.path = '/' :: "books".toList ++ '/' :: Text.decimal id := by
    simpa [Link.path, Link.place, Place.segments] using path
  rw [routes.resolve?_of_below (.inr ⟨rfl, line_decimal id⟩) whole]
  obtain ⟨sub, found, branch⟩ := routes.exists_operation_of_book id
  obtain ⟨place, ending, proper, _, ends, written, _, values⟩ :=
    routes.exists_place_of_branch? (line_decimal id) branch
  have there : place.IsAt request.path := ⟨proper, ending, ends, whole.trans written⟩
  obtain rfl : place = (Link.book id).place :=
    Option.some.inj (there.ofPath?_eq.symm.trans (path ▸ (Link.book id).isAt_path.ofPath?_eq))
  have binding : Resolution.bind decode sub.pattern found request =
      (request.bind "id".toList (Text.decimal id), none) := by
    rw [Resolution.bind, values]
    simp [Link.place, Place.bindings, Resolution.bindAll, Resolution.parameterText_eq,
      Resolution.decodeValue_decimal]
  exact ⟨_, _, Resolution.descend_of_operation (isTerminal_decimal id) branch binding ..⟩

/-- The reviews of a book lead to each of them. -/
theorem AreRoutes.exists_target_below_reviews
    (number : Nat)
    (decode : Bool)
    (store : Store)
    (limit : Nat)
    (template : Text)
    (request : Request) :
    ∃ bound target,
      Resolution.descend directory decode store limit patterns.reviewsResource template
        (some ('/' :: Text.decimal number)) request = some (bound, .ok target) := by
  obtain ⟨sub, pattern, branch⟩ := routes.exists_operation_of_review number
  have binding : Resolution.bind decode sub.pattern
      ⟨[some (Text.decimal number)], Segment.noted []⟩ request =
        (request.bind "review".toList (Text.decimal number), none) := by
    rw [Resolution.bind_eq_of_names (pattern ▸ routes.names_eq.2.2.2),
      Resolution.decodeValue_decimal]
  exact ⟨_, _, Resolution.descend_of_operation (isTerminal_decimal number) branch binding ..⟩

/-- The path of a link to a review leads to a target, while there is the book. -/
theorem AreRoutes.exists_target_of_review
    {id number : Nat}
    {request : Request}
    (path : request.path = (Link.review id number).path)
    {store : Store}
    (small : id < 2 ^ 64)
    (held : (store.book? id).isSome = true)
    {limit : Nat}
    (enough : 0 < limit)
    (decode : Bool) :
    ∃ bound target,
      Resolution.resolve? [patterns.healthResource, patterns.booksResource] directory decode store
        limit request = some (bound, .ok target) := by
  have remainder : Segment.IsRemainder (reviewPath id number) :=
    .inr ⟨rfl, line_reviewPath id number⟩
  rw [routes.resolve?_of_below remainder (path.trans (path_review id number))]
  have binding : Resolution.bind decode patterns.reviews
      ⟨[some (Text.decimal id)], Segment.noted ('/' :: Text.decimal number)⟩ request =
        (request.bind "id".toList (Text.decimal id), none) := by
    rw [Resolution.bind_eq_of_names routes.names_eq.2.2.1, Resolution.decodeValue_decimal]
  have further : Uri.PathMatch.isTerminal (some (reviewPath id number)) = false := by
    rw [reviewPath, List.append_assoc, List.cons_append]
    exact isTerminal_segment (Link.isSegment_decimal id).nonempty _
  have follows : Resolution.Follows directory decode store patterns.booksResource
      (reviewPath id number) request ⟨patterns.reviews, locateReviews⟩ _ _
        patterns.reviewsResource :=
    ⟨further, routes.branch?_reviewPath id number, binding,
      routes.located_of_isSome small held request⟩
  obtain ⟨less, rfl⟩ := Nat.exists_eq_succ_of_ne_zero (Nat.ne_of_gt enough)
  have left : Segment.noted (reviewPath id number) = some (reviewPath id number) := rfl
  rw [left, follows.descend_succ]
  exact routes.exists_target_below_reviews ..

end Patterns
end Bookstore
end ResourceRouting
