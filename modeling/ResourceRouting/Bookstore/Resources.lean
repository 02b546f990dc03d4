import ResourceRouting.Bookstore.Store
import ResourceRouting.Json.Record
import ResourceRouting.Registry
import ResourceRouting.Request.Scalar
import ResourceRouting.Resource.Declaration

/-!
# The resources of a bookstore

`/health` says that the service is there.  `/books` lists and adds books, `/books/search` finds
them by their titles, `/books/` with a number shows, replaces and removes a book, and the path
behind a book and `/reviews` lists, adds and shows its reviews.
-/

namespace ResourceRouting
namespace Bookstore

/-- A book as a document. -/
def Book.toJson (book : Book) : Json :=
  .object [("author".toList, .string book.author), ("id".toList, .number (.ofNat book.id)),
    ("title".toList, .string book.title)]

/-- A review as a document. -/
def Review.toJson (review : Review) : Json :=
  .object [("id".toList, .number (.ofNat review.id)),
    ("rating".toList, .number (.ofNat review.rating)), ("text".toList, .string review.text)]

/-- The fields of the document of a book; the number may be left out. -/
def bookFields : List Json.Field :=
  [⟨"id".toList, .natural Request.greatestNatural, true⟩, ⟨"title".toList, .string, false⟩,
    ⟨"author".toList, .string, false⟩]

/-- The fields of the document of a review; the number may be left out. -/
def reviewFields : List Json.Field :=
  [⟨"id".toList, .natural Request.greatestNatural, true⟩, ⟨"rating".toList, .natural 255, false⟩,
    ⟨"text".toList, .string, false⟩]

/-- Reads a book from the entity of a request. -/
def readBook (request : Request) : Except DispatchError Book :=
  match Json.recordOfBytes bookFields request.body with
  | .error fault => .error (.entity fault)
  | .ok values =>
      .ok ⟨values.natural "id".toList, values.string "title".toList,
        values.string "author".toList⟩

/-- Reads a review from the entity of a request. -/
def readReview (request : Request) : Except DispatchError Review :=
  match Json.recordOfBytes reviewFields request.body with
  | .error fault => .error (.entity fault)
  | .ok values =>
      .ok ⟨values.natural "id".toList, values.natural "rating".toList,
        values.string "text".toList⟩

/-- The number of a book in the path. -/
def bookId (request : Request) : Except DispatchError Nat :=
  request.readNatural "id".toList

/-- The template of the path of a book. -/
def bookTemplate : Text := "/books/\x7bid\x7d".toList

/-- The template of the path of a review. -/
def reviewTemplate : Text := "/books/\x7bid\x7d/reviews/\x7breview\x7d".toList

/-- The response that something has been created at the path of a template. -/
def created (template : Text) (ids : List Nat) (document : Json) :
    Except DispatchError Response :=
  match (Uri.Parts.ofPath template).build (.ofList (ids.map Text.decimal)) {} with
  | .error error => .error (.build error)
  | .ok path => (Response.created path).map (·.withJson document)

/-- Lists books, those of one author if the query names one. -/
def listBooks : Handler Store := fun request store =>
  let books :=
    match request.queryValue? "author".toList with
    | none => store.books
    | some author => store.byAuthor author
  (.ok (Response.ok.withJson (.array (books.map Book.toJson))), store)

/-- Adds a book. -/
def createBook : Handler Store := fun request store =>
  match readBook request with
  | .error error => (.error error, store)
  | .ok given =>
      let (book, after) := store.add given
      (created bookTemplate [book.id] book.toJson, after)

/-- Lists the books whose titles have the text in them that the query gives. -/
def searchBooks : Handler Store := fun request store =>
  match request.queryValue? ['q'] with
  | none => (.error (.badRequest "missing query parameter q".toList), store)
  | some part =>
      (.ok (Response.ok.withJson (.array ((store.byTitle part).map Book.toJson))), store)

/-- Shows a book. -/
def showBook : Handler Store := fun request store =>
  match bookId request with
  | .error error => (.error error, store)
  | .ok id =>
      match store.book? id with
      | none => (.error (.notFound request.path), store)
      | some book => (.ok (Response.ok.withJson book.toJson), store)

/-- Replaces a book. -/
def updateBook : Handler Store := fun request store =>
  match bookId request with
  | .error error => (.error error, store)
  | .ok id =>
      match readBook request with
      | .error error => (.error error, store)
      | .ok given =>
          match store.replace id given with
          | none => (.error (.notFound request.path), store)
          | some (book, after) => (.ok (Response.ok.withJson book.toJson), after)

/-- Removes a book. -/
def deleteBook : Handler Store := fun request store =>
  match bookId request with
  | .error error => (.error error, store)
  | .ok id =>
      match store.remove id with
      | (true, after) => (.ok .noContent, after)
      | (false, after) => (.error (.notFound request.path), after)

/-- Lists the reviews of a book. -/
def listReviews : Handler Store := fun request store =>
  match bookId request with
  | .error error => (.error error, store)
  | .ok id =>
      (.ok (Response.ok.withJson (.array ((store.reviews id).map Review.toJson))), store)

/-- Adds a review to a book. -/
def createReview : Handler Store := fun request store =>
  match bookId request with
  | .error error => (.error error, store)
  | .ok id =>
      match readReview request with
      | .error error => (.error error, store)
      | .ok given =>
          if given.rating < 1 || 5 < given.rating then
            (.error (.badRequest "rating must be between 1 and 5".toList), store)
          else
            match store.addReview id given with
            | none => (.error (.notFound request.path), store)
            | some (review, after) =>
                (created reviewTemplate [id, review.id] review.toJson, after)

/-- Shows a review of a book. -/
def showReview : Handler Store := fun request store =>
  match request.readNatural "review".toList with
  | .error error => (.error error, store)
  | .ok reviewId =>
      match bookId request with
      | .error error => (.error error, store)
      | .ok id =>
          match (store.reviews id).find? (·.id = reviewId) with
          | none => (.error (.notFound request.path), store)
          | some review => (.ok (Response.ok.withJson review.toJson), store)

/-- The key of the resource of reviews. -/
def reviewsKey : Text := "bookstore/reviews".toList

/-- Hands the path of a book's reviews on, if the book is there. -/
def locateReviews (request : Request) (store : Store) : Option Text :=
  match bookId request with
  | .error _ => none
  | .ok id => (store.book? id).map fun _ => reviewsKey

/-- Says that the service is there. -/
def checkHealth : Handler Store := fun _ store =>
  (.ok (Response.ok.withText "ok".toList), store)

/-- The resource that says that the service is there. -/
def health : Except ResourceError (Resource Store) :=
  Resource.declare "health".toList (some "/health".toList)
    [.operation { method := .get, handler := checkHealth }]

/-- The resource of books. -/
def books : Except ResourceError (Resource Store) :=
  Resource.declare "books".toList (some "/books".toList)
    [.operation { method := .get, produces := [.json], handler := listBooks },
      .operation
        { method := .post, consumes := [.json], produces := [.json], handler := createBook },
      .subOperation "search".toList
        { method := .get, produces := [.json], handler := searchBooks },
      .subOperation "\x7bid\x7d".toList
        { method := .get, produces := [.json], handler := showBook },
      .subOperation "\x7bid\x7d".toList
        { method := .put, consumes := [.json], produces := [.json], handler := updateBook },
      .subOperation "\x7bid\x7d".toList { method := .delete, handler := deleteBook },
      .locator "\x7bid\x7d/reviews".toList locateReviews]

/-- The resource of the reviews of a book. -/
def reviews : Except ResourceError (Resource Store) :=
  Resource.declare "reviews".toList none
    [.operation { method := .get, produces := [.json], handler := listReviews },
      .operation
        { method := .post, consumes := [.json], produces := [.json], handler := createReview },
      .subOperation "\x7breview\x7d".toList
        { method := .get, produces := [.json], handler := showReview }]

/-- The resources that the locators of the bookstore find. -/
def directory : Directory Store := fun key =>
  if key = reviewsKey then reviews.toOption else none

/-- Why a bookstore cannot be set up. -/
inductive SetupError
  /-- A declaration makes no resource. -/
  | resource (error : ResourceError)
  /-- A resource cannot be registered. -/
  | registry (error : RegistryError)
  deriving DecidableEq, Repr

/-- Why a bookstore cannot be set up, in words. -/
def SetupError.message : SetupError → String
  | resource error => error.message
  | registry error => error.message

/-- The registry of a bookstore. -/
def registry : Except SetupError (Registry Store) := do
  let health ← health.mapError .resource
  let first ← (Registry.empty.register health).mapError .registry
  let _ ← reviews.mapError .resource
  let books ← books.mapError .resource
  (first.register books).mapError .registry

/-- The root resources, in the order in which they are registered. -/
def resources : Except SetupError (List (Resource Store)) :=
  registry.map (·.resources)

end Bookstore
end ResourceRouting
