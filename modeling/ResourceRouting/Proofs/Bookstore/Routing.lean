import ResourceRouting.Proofs.Bookstore.Routes
import ResourceRouting.Proofs.Resolution.Branches
import ResourceRouting.Proofs.Resolution.Target

/-!
# Where a path leads in a bookstore

A target that is found for a path is that of the place of the path: it has the operations of the
place, and the texts of the place are bound to their names.
-/

namespace ResourceRouting
namespace Bookstore

open Uri (Segment)
open Resolution (branch? IsRoute)

/-- A path that a literal segment takes begins with it. -/
theorem of_match?_literal
    {pattern : Uri.Pattern}
    {text path : Text}
    {found : Uri.PathMatch}
    (route : IsRoute pattern [.literal text])
    (kept : Uri.Component.path.encodeLiteral text = text)
    (matched : pattern.match? path = some found) :
    ∃ rest, Segment.IsRemainder rest ∧ path = '/' :: text ++ rest ∧
      found = ⟨[], Segment.noted rest⟩ := by
  obtain ⟨texts, rest, ⟨fit, remainder, whole⟩, rfl⟩ := route.exists_divides matched
  cases fit with
  | cons written others =>
      cases others
      have same := (show _ = Uri.Component.path.encodeLiteral text from written).trans kept
      exact ⟨rest, remainder, by simpa [same] using whole, rfl⟩

/-- A path that a variable takes begins with its value. -/
theorem of_match?_braced
    {pattern : Uri.Pattern}
    {body path : Text}
    {found : Uri.PathMatch}
    (route : IsRoute pattern [.braced body])
    (matched : pattern.match? path = some found) :
    ∃ value rest, (value ≠ [] ∧ '/' ∉ value) ∧ Segment.IsRemainder rest ∧
      path = '/' :: value ++ rest ∧ found = ⟨[some value], Segment.noted rest⟩ := by
  obtain ⟨texts, rest, ⟨fit, remainder, whole⟩, rfl⟩ := route.exists_divides matched
  cases fit with
  | @cons _ value _ _ written others =>
      cases others
      exact ⟨value, rest, written, remainder, by simpa using whole, rfl⟩

/-- A path that a variable and a literal segment take begins with the value and the text. -/
theorem of_match?_braced_literal
    {pattern : Uri.Pattern}
    {body text path : Text}
    {found : Uri.PathMatch}
    (route : IsRoute pattern [.braced body, .literal text])
    (kept : Uri.Component.path.encodeLiteral text = text)
    (matched : pattern.match? path = some found) :
    ∃ value rest, (value ≠ [] ∧ '/' ∉ value) ∧ Segment.IsRemainder rest ∧
      path = '/' :: value ++ '/' :: text ++ rest ∧
        found = ⟨[some value], Segment.noted rest⟩ := by
  obtain ⟨texts, rest, ⟨fit, remainder, whole⟩, rfl⟩ := route.exists_divides matched
  cases fit with
  | @cons _ value _ _ written others =>
      cases others with
      | cons writtenText others =>
          cases others
          have same := (show _ = Uri.Component.path.encodeLiteral text from writtenText).trans kept
          exact ⟨value, rest, written, remainder, by simpa [same] using whole, rfl⟩

/-- What is left of a path has no line break. -/
theorem line_of_isRemainder {rest : Text} (remainder : Segment.IsRemainder rest) :
    '\n' ∉ rest := by
  rcases remainder with rfl | ⟨_, line⟩
  · exact List.not_mem_nil
  · exact line

theorem eq_of_noted_eq_some {rest more : Text} (left : Segment.noted rest = some more) :
    more = rest := by
  rw [Segment.noted] at left
  split at left
  · cases left
  · exact (Option.some.inj left).symm

/-- A variable that is bound has a value that is text. -/
theorem exists_bind_of_names
    {decode : Bool}
    {pattern : Uri.Pattern}
    {name value : Text}
    {remainder : Option Text}
    {request bound : Request}
    (names : pattern.names = [name])
    (binding : Resolution.bind decode pattern ⟨[some value], remainder⟩ request = (bound, none)) :
    ∃ text, Resolution.decodeValue decode value = some text ∧ bound = request.bind name text := by
  rw [Resolution.bind_eq_of_names names] at binding
  cases decoded : Resolution.decodeValue decode value with
  | none =>
      rw [decoded] at binding
      cases binding
  | some text =>
      rw [decoded] at binding
      exact ⟨text, rfl, (Prod.mk.inj binding).1.symm⟩

/-- The texts of a place are bound one after the other. -/
theorem Place.binds_of_bindAll
    {decode : Bool}
    {place : Place}
    {request bound : Request}
    (binding : Resolution.bindAll decode
      (place.bindings.map fun binding => (binding.1, some binding.2)) request = (bound, none)) :
    place.Binds decode request bound := by
  obtain ⟨added, rfl, texts⟩ := Resolution.exists_bindings_of_bindAll binding
  refine ⟨⟨_, rfl⟩, ?_⟩
  simp only [List.filterMap_map, Function.comp_def, Option.map_some,
    List.filterMap_eq_map'] at texts
  -- no name is bound twice, so each has the text that it was bound to
  have distinct : added.Pairwise fun first second => first.1 ≠ second.1 := by
    have names := congrArg (List.map Prod.fst) texts
    simp only [List.map_map, Function.comp_def] at names
    have keys : (added.map Prod.fst).Nodup := by
      rw [names]
      cases place <;> simp [Place.bindings]
    exact List.pairwise_map.mp keys
  intro name text present
  have entry : (name, Resolution.decodeValue decode text) ∈
      added.map fun binding => (binding.1, some binding.2) := by
    rw [texts]
    exact List.mem_map.mpr ⟨(name, text), present, rfl⟩
  obtain ⟨⟨named, value⟩, inAdded, equal⟩ := List.mem_map.mp entry
  obtain ⟨rfl, decoded⟩ := Prod.mk.inj equal
  refine ⟨value, decoded.symm, ?_⟩
  rw [Request.parameter?, PathParameters.get?, List.reverse_append, List.lookup_append,
    Distinct.lookup_of_mem (List.pairwise_reverse.mpr distinct) (List.mem_reverse.mpr inAdded),
    Option.some_or]

namespace Patterns

variable {patterns : Patterns} (routes : patterns.AreRoutes)

include routes

/-- The only resource that a locator finds is that of reviews. -/
theorem AreRoutes.eq_of_directory
    {key : Text}
    {next : Resource Store}
    (found : directory key = some next) :
    patterns.reviewsResource = next := by
  rw [routes.directory_eq] at found
  split at found
  · exact Option.some.inj found
  · cases found

/-- The search for titles is preferred to a book. -/
theorem AreRoutes.search_precedes_book : patterns.search.order patterns.book = .lt := by
  have search : (patterns.search.isEmpty, patterns.search.literalCount) = (false, 7) :=
    Uri.Pattern.view_eq_of_compile routes.search.compiled
      (fun pattern => (pattern.isEmpty, pattern.literalCount)) (by decide +kernel)
  have book : (patterns.book.isEmpty, patterns.book.literalCount) = (false, 1) :=
    Uri.Pattern.view_eq_of_compile routes.book.compiled
      (fun pattern => (pattern.isEmpty, pattern.literalCount)) (by decide +kernel)
  obtain ⟨searchEmpty, searchCount⟩ := Prod.mk.inj search
  obtain ⟨bookEmpty, bookCount⟩ := Prod.mk.inj book
  simp only [Uri.Pattern.order, searchEmpty, bookEmpty, searchCount, bookCount]
  rfl

/-- The root resource of a path: the sign of life, or that of the books. -/
theorem AreRoutes.root?_cases
    {path : Text}
    {resource : Resource Store}
    {found : Uri.PathMatch}
    (chosen : Resolution.root? [patterns.healthResource, patterns.booksResource] path =
      some (resource, found)) :
    ∃ rest, Segment.IsRemainder rest ∧ found = ⟨[], Segment.noted rest⟩ ∧
      (resource = patterns.healthResource ∧ path = '/' :: "health".toList ++ rest ∧
          Place.IsEnding rest ∨
        resource = patterns.booksResource ∧ path = '/' :: "books".toList ++ rest) := by
  obtain ⟨present, matched, admits⟩ := Uri.Search.of_find?_eq_some chosen
  rcases List.mem_cons.mp present with rfl | present
  · obtain ⟨rest, remainder, whole, rfl⟩ :=
      of_match?_literal routes.health (by decide +kernel) matched
    refine ⟨rest, remainder, rfl, .inl ⟨rfl, whole, ?_⟩⟩
    exact Resolution.isTerminal_noted_iff.mp
      (by simpa [Resolution.rootSearch] using admits)
  · obtain rfl := List.mem_singleton.mp present
    obtain ⟨rest, remainder, whole, rfl⟩ :=
      of_match?_literal routes.books (by decide +kernel) matched
    exact ⟨rest, remainder, rfl, .inr ⟨rfl, whole⟩⟩

theorem AreRoutes.names_eq :
    patterns.search.names = [] ∧ patterns.book.names = ["id".toList] ∧
      patterns.reviews.names = ["id".toList] ∧ patterns.review.names = ["review".toList] := by
  refine ⟨routes.search.compile.2.1.trans ?_, routes.book.compile.2.1.trans ?_,
    routes.reviews.compile.2.1.trans ?_, routes.review.compile.2.1.trans ?_⟩ <;> decide

/-- The operations of each pattern below the books and the reviews. -/
theorem AreRoutes.operationsOf_eq :
    Resolution.operationsOf patterns.booksResource patterns.search = searchOperations ∧
      Resolution.operationsOf patterns.booksResource patterns.book = bookOperations ∧
        Resolution.operationsOf patterns.reviewsResource patterns.review = reviewOperations := by
  have itself : ∀ pattern : Uri.Pattern, pattern.same pattern = true := fun _ => decide_eq_true rfl
  have apart := routes.search_same_book
  have apart' : patterns.book.same patterns.search = false := by
    simpa [Uri.Pattern.same, eq_comm] using apart
  refine ⟨?_, ?_, ?_⟩ <;>
    simp [Resolution.operationsOf, itself, apart, apart', searchOperations, bookOperations,
      reviewOperations]

omit routes in
/-- The operations below the books are the search for titles and those on a book. -/
theorem pattern_of_mem_subOperations
    {sub : SubOperation Store}
    (member : sub ∈ patterns.booksResource.subOperations) :
    sub.pattern = patterns.search ∨ sub.pattern = patterns.book := by
  rcases List.mem_append.mp member with search | book
  · obtain ⟨operation, _, rfl⟩ := List.mem_map.mp search
    exact .inl rfl
  · obtain ⟨operation, _, rfl⟩ := List.mem_map.mp book
    exact .inr rfl

/-- Where the search for titles takes the path, no book is found. -/
theorem AreRoutes.ne_search_of_branch?
    {id ending : Text}
    {sub : SubOperation Store}
    {found : Uri.PathMatch}
    (book : sub.pattern = patterns.book)
    (remainder : Segment.IsRemainder ending)
    (ends : Place.IsEnding ending)
    (chosen : branch? patterns.booksResource ('/' :: id ++ ending) =
      some (.operation sub, found)) :
    id ≠ "search".toList := by
  rintro rfl
  have searched : patterns.search.match? ('/' :: "search".toList ++ ending) =
      some ⟨[], Segment.noted ending⟩ :=
    @IsRoute.match?_of_divides _ _ _ ending ["search".toList] routes.search
      ⟨.cons (by decide +kernel) .nil, remainder, by simp⟩
  have competes : .operation ⟨patterns.search,
        { method := .get, produces := [.json], handler := searchBooks }⟩ ∈
      Resolution.branches patterns.booksResource := by
    simp [Resolution.branches, searchOperations]
  have worse := Resolution.not_precedes_of_branch? chosen competes searched
    (Resolution.isTerminal_noted_iff.mpr ends)
  simp [Resolution.Branch.precedes, Resolution.Branch.pattern, book, routes.search_precedes_book]
    at worse

/-- An operation that is found below the books is on the place of the path. -/
theorem AreRoutes.exists_place_of_branch?
    {rest : Text}
    {sub : SubOperation Store}
    {found : Uri.PathMatch}
    (line : '\n' ∉ rest)
    (chosen : branch? patterns.booksResource rest = some (.operation sub, found)) :
    ∃ (place : Place) (ending : Text), place.IsProper ∧ place.segments.length = 2 ∧
      Place.IsEnding ending ∧
      '/' :: "books".toList ++ rest = Segment.join place.segments ++ ending ∧
        Resolution.operationsOf patterns.booksResource sub.pattern = place.operations ∧
          sub.pattern.names.zip found.values =
            place.bindings.map fun binding => (binding.1, some binding.2) := by
  obtain ⟨present, matched, admits⟩ := Uri.Search.of_find?_eq_some chosen
  change sub.pattern.match? rest = some found at matched
  obtain ⟨searchNames, bookNames, _⟩ := routes.names_eq
  obtain ⟨searching, showing, _⟩ := routes.operationsOf_eq
  rcases pattern_of_mem_subOperations (Resolution.mem_subOperations_of_branch present) with
    search | book
  · rw [search] at matched ⊢
    obtain ⟨ending, _, rfl, rfl⟩ :=
      of_match?_literal routes.search (by decide +kernel) matched
    have ends := Resolution.isTerminal_noted_iff.mp admits
    refine ⟨.search, ending, trivial, rfl, ends, by simp [Place.segments], searching, ?_⟩
    rw [searchNames]
    rfl
  · rw [book] at matched ⊢
    obtain ⟨id, ending, ⟨nonempty, noSlash⟩, remainder, rfl, rfl⟩ :=
      of_match?_braced routes.book matched
    have ends := Resolution.isTerminal_noted_iff.mp admits
    have segment : Place.IsSegment id := ⟨nonempty, noSlash, fun inId => line (by simp [inId])⟩
    have proper : (Place.book id).IsProper :=
      ⟨segment, routes.ne_search_of_branch? book remainder ends chosen⟩
    refine ⟨.book id, ending, proper, rfl, ends, by simp [Place.segments], showing, ?_⟩
    rw [bookNames]
    rfl

/-- A locator that is found below the books takes the path of the reviews of a book. -/
theorem AreRoutes.exists_reviews_of_branch?
    {rest : Text}
    {sub : Locator Store}
    {found : Uri.PathMatch}
    (line : '\n' ∉ rest)
    (chosen : branch? patterns.booksResource rest = some (.locator sub, found)) :
    sub = ⟨patterns.reviews, locateReviews⟩ ∧
      ∃ id more, Place.IsSegment id ∧ Segment.IsRemainder more ∧
        rest = '/' :: id ++ '/' :: "reviews".toList ++ more ∧
          found = ⟨[some id], Segment.noted more⟩ := by
  obtain ⟨present, matched, _⟩ := Uri.Search.of_find?_eq_some chosen
  obtain rfl := List.mem_singleton.mp (Resolution.mem_locators_of_branch present)
  obtain ⟨id, more, ⟨nonempty, noSlash⟩, remainder, rfl, rfl⟩ :=
    of_match?_braced_literal routes.reviews (by decide +kernel) matched
  exact ⟨rfl, id, more, ⟨nonempty, noSlash, fun inId => line (by simp [inId])⟩, remainder, rfl, rfl⟩

/-- An operation that is found below the reviews is on a review. -/
theorem AreRoutes.exists_review_of_branch?
    {rest : Text}
    {sub : SubOperation Store}
    {found : Uri.PathMatch}
    (line : '\n' ∉ rest)
    (chosen : branch? patterns.reviewsResource rest = some (.operation sub, found)) :
    sub.pattern = patterns.review ∧
      ∃ number ending, Place.IsSegment number ∧ Place.IsEnding ending ∧
        rest = '/' :: number ++ ending ∧ found = ⟨[some number], Segment.noted ending⟩ := by
  obtain ⟨present, matched, admits⟩ := Uri.Search.of_find?_eq_some chosen
  obtain rfl := List.mem_singleton.mp (Resolution.mem_subOperations_of_branch present)
  obtain ⟨number, ending, ⟨nonempty, noSlash⟩, _, rfl, rfl⟩ :=
    of_match?_braced routes.review matched
  exact ⟨rfl, number, ending, ⟨nonempty, noSlash, fun inNumber => line (by simp [inNumber])⟩,
    Resolution.isTerminal_noted_iff.mp admits, rfl, rfl⟩

/-- What is left of the path of the reviews of a book is the reviews, or one of them. -/
theorem AreRoutes.cases_of_descend_reviews
    {decode : Bool}
    {store : Store}
    {limit : Nat}
    {template more : Text}
    {request bound : Request}
    {target : Target Store}
    (line : '\n' ∉ more)
    (descended :
      Resolution.descend directory decode store limit patterns.reviewsResource template
        (Segment.noted more) request = some (bound, .ok target)) :
    (Place.IsEnding more ∧ bound = request ∧ target.operations = reviewsOperations) ∨
      ∃ number ending text, Place.IsSegment number ∧ Place.IsEnding ending ∧
        more = '/' :: number ++ ending ∧ Resolution.decodeValue decode number = some text ∧
          bound = request.bind "review".toList text ∧ target.operations = reviewOperations := by
  rcases Resolution.descend_cases descended with
    ⟨terminal, rfl, rfl, _⟩ | ⟨rest, sub, found, left, _, chosen, binding, rfl, _⟩ |
      ⟨rest, sub, found, middle, next, less, _, _, chosen, _⟩
  · exact .inl ⟨Resolution.isTerminal_noted_iff.mp terminal, rfl, rfl⟩
  · obtain rfl := eq_of_noted_eq_some left
    obtain ⟨pattern, number, ending, segment, ends, rfl, rfl⟩ :=
      routes.exists_review_of_branch? line chosen
    obtain ⟨text, decoded, rfl⟩ :=
      exists_bind_of_names (pattern ▸ routes.names_eq.2.2.2) binding
    exact .inr ⟨number, ending, text, segment, ends, rfl, decoded, rfl,
      pattern ▸ routes.operationsOf_eq.2.2⟩
  · have member := Resolution.mem_locators_of_branch (Uri.Search.of_find?_eq_some chosen).1
    cases member

/-- A target that is found for a path is that of the place of the path. -/
theorem AreRoutes.exists_place_of_resolve?
    {decode : Bool}
    {store : Store}
    {limit : Nat}
    {request bound : Request}
    {target : Target Store}
    (resolved :
      Resolution.resolve? [patterns.healthResource, patterns.booksResource] directory decode store
        limit request = some (bound, .ok target)) :
    ∃ place : Place, place.IsAt request.path ∧ target.operations = place.operations ∧
      place.Binds decode request bound := by
  obtain ⟨resource, found, middle, rooted, binding, further, _⟩ :=
    Resolution.exists_descend_of_resolve? resolved
  obtain ⟨rest, remainder, rfl, root⟩ := routes.root?_cases rooted
  have line := line_of_isRemainder remainder
  -- nothing is bound by a root resource
  obtain rfl : request = middle := by
    simp only [Resolution.bind, List.zip_nil_right, Resolution.bindAll, Prod.mk.injEq] at binding
    exact binding.1
  rcases root with ⟨rfl, path, ends⟩ | ⟨rfl, path⟩
  · have arrived : Resolution.arrive patterns.healthResource patterns.healthResource.pattern.text
        request = (bound, .ok target) := by
      rw [Resolution.descend_of_isTerminal (Resolution.isTerminal_noted_iff.mpr ends)] at further
      exact Option.some.inj further
    cases arrived
    exact ⟨.health, ⟨trivial, rest, ends, by simpa [Place.segments] using path⟩, rfl,
      ⟨_, rfl⟩, by simp [Place.bindings]⟩
  · rcases Resolution.descend_cases further with
      ⟨terminal, rfl, rfl, _⟩ | ⟨more, sub, found, left, _, chosen, binds, rfl, _⟩ |
        ⟨more, sub, found, middle, next, less, left, _, chosen, binds, located, deeper, _⟩
    · exact ⟨.books, ⟨trivial, rest, Resolution.isTerminal_noted_iff.mp terminal,
        by simpa [Place.segments] using path⟩, rfl, ⟨_, rfl⟩, by simp [Place.bindings]⟩
    · obtain rfl := eq_of_noted_eq_some left
      obtain ⟨place, ending, proper, _, ends, written, operations, values⟩ :=
        routes.exists_place_of_branch? line chosen
      rw [Resolution.bind, values] at binds
      exact ⟨place, ⟨proper, ending, ends, path.trans written⟩, operations,
        Place.binds_of_bindAll binds⟩
    · obtain rfl := eq_of_noted_eq_some left
      obtain ⟨rfl, id, after, segment, follows, rfl, rfl⟩ :=
        routes.exists_reviews_of_branch? line chosen
      obtain ⟨text, decoded, rfl⟩ := exists_bind_of_names routes.names_eq.2.2.1 binds
      obtain ⟨key, _, found⟩ := Option.bind_eq_some_iff.mp located
      obtain rfl := routes.eq_of_directory found
      rcases routes.cases_of_descend_reviews (line_of_isRemainder follows) deeper with
        ⟨ends, rfl, operations⟩ |
          ⟨number, ending, value, numberSegment, ends, rfl, numberDecoded, rfl, operations⟩
      · refine ⟨.reviews id, ⟨segment, after, ends, by simpa [Place.segments] using path⟩,
          operations, Place.binds_of_bindAll ?_⟩
        simp [Place.bindings, Resolution.bindAll, Resolution.parameterText_eq, decoded]
      · refine ⟨.review id number, ⟨⟨segment, numberSegment⟩, ending, ends,
          by simpa [Place.segments] using path⟩, operations, Place.binds_of_bindAll ?_⟩
        simp [Place.bindings, Resolution.bindAll, Resolution.parameterText_eq, decoded,
          numberDecoded]

/-- At most one locator is followed. -/
theorem AreRoutes.isSome_resolve?
    {limit : Nat}
    (enough : 0 < limit)
    (decode : Bool)
    (store : Store)
    (request : Request) :
    (Resolution.resolve? [patterns.healthResource, patterns.booksResource] directory decode store
      limit request).isSome = true := by
  rw [Resolution.resolve?]
  split
  · rfl
  · rename_i resource found rooted
    split
    · rfl
    · rename_i bound binding
      refine Resolution.isSome_descend_of_shallow ?_ enough ..
      intro sub _ _ next located
      obtain ⟨key, _, found⟩ := Option.bind_eq_some_iff.mp located
      obtain rfl := routes.eq_of_directory found
      rfl

/-- A path below the books is resolved there. -/
theorem AreRoutes.resolve?_of_below
    {request : Request}
    {rest : Text}
    (remainder : Segment.IsRemainder rest)
    (path : request.path = '/' :: "books".toList ++ rest)
    (decode : Bool)
    (store : Store)
    (limit : Nat) :
    Resolution.resolve? [patterns.healthResource, patterns.booksResource] directory decode store
        limit request =
      Resolution.descend directory decode store limit patterns.booksResource
        patterns.booksResource.pattern.text (Segment.noted rest) request := by
  have matched : patterns.books.match? request.path = some ⟨[], Segment.noted rest⟩ :=
    @IsRoute.match?_of_divides _ _ _ rest ["books".toList] routes.books
      ⟨.cons (by decide +kernel) .nil, remainder, by simpa using path⟩
  have rooted : Resolution.root? [patterns.healthResource, patterns.booksResource] request.path =
      some (patterns.booksResource, ⟨[], Segment.noted rest⟩) := by
    cases result : Resolution.root? [patterns.healthResource, patterns.booksResource]
        request.path with
    | none =>
        have missing := Uri.Search.find?_eq_none_iff.mp result patterns.booksResource (by simp)
        rw [Uri.Search.admitted?_eq_some_iff.mpr (⟨rfl, matched, by
          simp [Resolution.rootSearch]⟩ :
            (patterns.booksResource, _).1 = _ ∧ _ ∧ _)] at missing
        cases missing
    | some entry =>
        obtain ⟨resource, found⟩ := entry
        obtain ⟨other, _, rfl, ⟨rfl, wrong, _⟩ | ⟨rfl, same⟩⟩ := routes.root?_cases result
        · rw [path] at wrong
          simp at wrong
        · rw [path] at same
          obtain rfl := List.append_cancel_left same
          rfl
  rw [Resolution.resolve?, rooted]
  simp only [Resolution.bind, List.zip_nil_right, Resolution.bindAll]

end Patterns
end Bookstore
end ResourceRouting
