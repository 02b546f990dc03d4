import ResourceRouting.Proofs.Bookstore.Places
import ResourceRouting.Proofs.Resolution.Chain

/-!
# The routes of a bookstore

All templates of a bookstore are lists of segments, so its resources can be declared and
registered.
-/

namespace ResourceRouting
namespace Bookstore

open Resolution (IsRoute)

/-- The patterns of a bookstore. -/
structure Patterns where
  /-- The pattern of the sign of life. -/
  health : Uri.Pattern
  /-- The pattern of all books. -/
  books : Uri.Pattern
  /-- The pattern of the search for titles, below the books. -/
  search : Uri.Pattern
  /-- The pattern of a book, below the books. -/
  book : Uri.Pattern
  /-- The pattern of the reviews of a book, below the books. -/
  reviews : Uri.Pattern
  /-- The pattern of a review, below the reviews. -/
  review : Uri.Pattern

namespace Patterns

/-- The patterns are those of the segments of the templates. -/
structure AreRoutes (patterns : Patterns) : Prop where
  health : IsRoute patterns.health [.literal "health".toList]
  books : IsRoute patterns.books [.literal "books".toList]
  search : IsRoute patterns.search [.literal "search".toList]
  book : IsRoute patterns.book [.braced "id".toList]
  reviews : IsRoute patterns.reviews [.braced "id".toList, .literal "reviews".toList]
  review : IsRoute patterns.review [.braced "review".toList]

theorem exists_areRoutes : ∃ patterns : Patterns, patterns.AreRoutes := by
  have exists_isRoute : ∀ segments : List Uri.Segment,
      segments ∈ [[.literal "health".toList], [.literal "books".toList],
        [.literal "search".toList], [.braced "id".toList],
        [.braced "id".toList, .literal "reviews".toList], [.braced "review".toList]] →
      ∃ pattern, IsRoute pattern segments := by
    intro segments present
    have checked : segments ≠ [] ∧ (∀ segment ∈ segments, segment.IsValid) ∧
        (Uri.Segment.wholeExpr segments).fits = true := by
      revert segments
      decide +kernel
    exact Resolution.exists_isRoute checked.1 checked.2.1 checked.2.2
  obtain ⟨health, healthRoute⟩ := exists_isRoute [.literal "health".toList] (by simp)
  obtain ⟨books, booksRoute⟩ := exists_isRoute [.literal "books".toList] (by simp)
  obtain ⟨search, searchRoute⟩ := exists_isRoute [.literal "search".toList] (by simp)
  obtain ⟨book, bookRoute⟩ := exists_isRoute [.braced "id".toList] (by simp)
  obtain ⟨reviews, reviewsRoute⟩ :=
    exists_isRoute [.braced "id".toList, .literal "reviews".toList] (by simp)
  obtain ⟨review, reviewRoute⟩ := exists_isRoute [.braced "review".toList] (by simp)
  exact ⟨⟨health, books, search, book, reviews, review⟩, healthRoute, booksRoute, searchRoute,
    bookRoute, reviewsRoute, reviewRoute⟩

variable (patterns : Patterns)

/-- The resource that says that the service is there. -/
def healthResource : Resource Store where
  name := "health".toList
  pattern := patterns.health
  operations := healthOperations
  subOperations := []
  locators := []

/-- The resource of books. -/
def booksResource : Resource Store where
  name := "books".toList
  pattern := patterns.books
  operations := booksOperations
  subOperations :=
    searchOperations.map (⟨patterns.search, ·⟩) ++ bookOperations.map (⟨patterns.book, ·⟩)
  locators := [⟨patterns.reviews, locateReviews⟩]

/-- The resource of the reviews of a book. -/
def reviewsResource : Resource Store where
  name := "reviews".toList
  pattern := .empty
  operations := reviewsOperations
  subOperations := reviewOperations.map (⟨patterns.review, ·⟩)
  locators := []

@[simp]
theorem pattern_healthResource : patterns.healthResource.pattern = patterns.health := rfl

@[simp]
theorem hasSubResources_healthResource : patterns.healthResource.hasSubResources = false := rfl

@[simp]
theorem pattern_booksResource : patterns.booksResource.pattern = patterns.books := rfl

@[simp]
theorem operations_booksResource : patterns.booksResource.operations = booksOperations := rfl

@[simp]
theorem subOperations_booksResource : patterns.booksResource.subOperations =
    searchOperations.map (⟨patterns.search, ·⟩) ++ bookOperations.map (⟨patterns.book, ·⟩) := rfl

@[simp]
theorem locators_booksResource :
    patterns.booksResource.locators = [⟨patterns.reviews, locateReviews⟩] := rfl

@[simp]
theorem hasSubResources_booksResource : patterns.booksResource.hasSubResources = true := rfl

@[simp]
theorem subOperations_reviewsResource :
    patterns.reviewsResource.subOperations = reviewOperations.map (⟨patterns.review, ·⟩) := rfl

@[simp]
theorem locators_reviewsResource : patterns.reviewsResource.locators = [] := rfl

variable {patterns} (routes : patterns.AreRoutes)

include routes

theorem AreRoutes.health_eq : Bookstore.health = .ok patterns.healthResource := by
  have own : Uri.Pattern.compile "/health".toList = .ok patterns.health := routes.health.compiled
  rw [Bookstore.health, Resource.declare, Resource.ownPattern, own]
  rfl

theorem AreRoutes.reviews_eq : Bookstore.reviews = .ok patterns.reviewsResource := by
  have below : Uri.Pattern.compile "\x7breview\x7d".toList = .ok patterns.review :=
    (Uri.Pattern.compile_normalize _).symm.trans routes.review.compiled
  simp only [Bookstore.reviews, Resource.declare, List.foldlM_cons, List.foldlM_nil,
    Resource.addMember, below, bind, Except.bind]
  rfl

/-- The search for titles and a book have different patterns. -/
theorem AreRoutes.search_same_book : patterns.search.same patterns.book = false := by
  have search : patterns.search.expression = "/search(/.*)?".toList :=
    Uri.Pattern.view_eq_of_compile routes.search.compiled (·.expression) (by decide +kernel)
  have book : patterns.book.expression = "/([^/]+)(/.*)?".toList :=
    Uri.Pattern.view_eq_of_compile routes.book.compiled (·.expression) (by decide +kernel)
  rw [Uri.Pattern.same, search, book]
  decide

theorem AreRoutes.books_eq : Bookstore.books = .ok patterns.booksResource := by
  have own : Uri.Pattern.compile "/books".toList = .ok patterns.books := routes.books.compiled
  have search : Uri.Pattern.compile "search".toList = .ok patterns.search :=
    (Uri.Pattern.compile_normalize _).symm.trans routes.search.compiled
  have book : Uri.Pattern.compile "\x7bid\x7d".toList = .ok patterns.book :=
    (Uri.Pattern.compile_normalize _).symm.trans routes.book.compiled
  have reviews : Uri.Pattern.compile "\x7bid\x7d/reviews".toList = .ok patterns.reviews :=
    (Uri.Pattern.compile_normalize _).symm.trans routes.reviews.compiled
  simp only [Bookstore.books, Resource.declare, List.foldlM_cons, List.foldlM_nil,
    Resource.addMember, Resource.ownPattern, own, search, book, reviews, bind, Except.bind]
  change patterns.booksResource.checkConflicts = .ok patterns.booksResource
  have own : Resource.firstConflict Operation.conflictsWith [] booksOperations = none := by decide
  -- of the operations below the resource no two have the same method, but for the search
  have methods : (Method.get = Method.put) = False ∧ (Method.get = Method.delete) = False ∧
      (Method.put = Method.delete) = False := by decide
  have below : Resource.firstConflict SubOperation.conflictsWith []
      patterns.booksResource.subOperations = none := by
    simp [Resource.firstConflict, SubOperation.conflictsWith, Operation.conflictsWith,
      searchOperations, bookOperations, routes.search_same_book, methods]
  rw [Resource.checkConflicts, operations_booksResource, own, below]

/-- The resources are registered in order. -/
theorem AreRoutes.registry_eq :
    registry = .ok ⟨[patterns.healthResource, patterns.booksResource]⟩ := by
  have health : patterns.health.expression = "/health(/.*)?".toList :=
    Uri.Pattern.view_eq_of_compile routes.health.compiled (·.expression) (by decide +kernel)
  have books : patterns.books.expression = "/books(/.*)?".toList :=
    Uri.Pattern.view_eq_of_compile routes.books.compiled (·.expression) (by decide +kernel)
  have distinct : patterns.health.same patterns.books = false := by
    rw [Uri.Pattern.same, health, books]
    decide
  simp [registry, routes.health_eq, routes.books_eq, routes.reviews_eq, Registry.register,
    Registry.find?, Registry.empty, distinct, Except.mapError, bind, Except.bind]

theorem AreRoutes.directory_eq (key : Text) :
    directory key = if key = reviewsKey then some patterns.reviewsResource else none := by
  rw [directory, routes.reviews_eq]
  rfl

end Patterns

end Bookstore
end ResourceRouting
