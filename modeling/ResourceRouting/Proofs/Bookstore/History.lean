import ResourceRouting.Proofs.Bookstore.Catalogue
import ResourceRouting.Proofs.Bookstore.Visits

/-!
# The history of a bookstore

What visits do to the store is what their actions do to the catalogue, and their answers show it.
-/

namespace ResourceRouting
namespace Bookstore

/-- What an action on a catalogue is answered with. -/
inductive Answers (catalogue : Catalogue) : Action → Response → Prop
  /-- A new book is shown with the next number, and linked to. -/
  | added {title author : Text} :
      Answers catalogue (.add title author)
        ((Link.book (catalogue.added + 1)).response
          (Book.toJson ⟨catalogue.added + 1, title, author⟩))
  /-- A book that was there is shown with the number that it had. -/
  | replaced {id : Nat} {title author : Text} {entry : Entry}
      (known : catalogue.entries id = some entry) :
      Answers catalogue (.replace id title author)
        (Response.ok.withJson (Book.toJson ⟨id, title, author⟩))
  /-- Nothing is shown of a book that was there. -/
  | removed {id : Nat} {entry : Entry} (known : catalogue.entries id = some entry) :
      Answers catalogue (.remove id) .noContent
  /-- A new review is shown with the next number of its book, and linked to. -/
  | reviewed {id rating : Nat} {text : Text} {entry : Entry}
      (known : catalogue.entries id = some entry) :
      Answers catalogue (.review id rating text)
        ((Link.review id (entry.reviews.length + 1)).response
          (Review.toJson ⟨entry.reviews.length + 1, rating, text⟩))

/-- What an action does to a store is what it does to the catalogue. -/
theorem Effect.keeps
    {store after : Store}
    {catalogue : Catalogue}
    {action : Action}
    {response : Response}
    (effect : Effect store action response after)
    (keeps : store.Keeps catalogue)
    (left : (catalogue.apply action).added < 2 ^ 64) :
    after.Keeps (catalogue.apply action) ∧ Answers catalogue action response := by
  cases effect with
  | added given =>
      obtain ⟨shown, kept⟩ := keeps.add left given
      rw [shown]
      exact ⟨kept, .added⟩
  | replaced equal =>
      obtain ⟨⟨entry, known⟩, rfl, kept⟩ := keeps.replace equal
      exact ⟨kept, .replaced known⟩
  | removed present =>
      obtain ⟨⟨entry, known⟩, kept⟩ := keeps.remove present
      exact ⟨kept, .removed known⟩
  | reviewed equal =>
      obtain ⟨entry, known, rfl, kept⟩ := keeps.addReview equal
      exact ⟨kept, .reviewed known⟩

namespace Visit

/--
A visit follows a catalogue: the store keeps the catalogue before it, and what the action of the
visit makes of the catalogue after it.
-/
structure Follows (decode : Bool) (catalogue : Catalogue) (visit : Visit) : Prop where
  /-- The store keeps the catalogue. -/
  before : visit.before.Keeps catalogue
  /-- The store keeps the catalogue that the action leaves. -/
  after : visit.done.state.Keeps (catalogue.after (visit.action? decode).toList)
  /-- The action is answered. -/
  answered : ∀ action, visit.action? decode = some action →
    ∃ response negotiated,
      visit.done.outcome = .ok (Dispatch.labelled negotiated response) ∧
        Answers catalogue action response
  /-- A request that succeeds has an action, unless it only reads. -/
  acts : ∀ response, visit.done.outcome = .ok response → visit.request.method ∉ reading →
    ∃ action, visit.action? decode = some action
  /-- After an error the store is as it was. -/
  refused : ∀ error, visit.done.outcome = .error error → visit.done.state = visit.before
  /-- A request that only reads leaves the store as it is. -/
  reads : visit.request.method ∈ reading → visit.done.state = visit.before
  /-- Books are listed and found in increasing order of their numbers. -/
  listed : ∀ place response,
    Place.ofPath? visit.request.path = some place → place = .books ∨ place = .search →
      visit.request.method = .get → visit.done.outcome = .ok response →
        ∃ books : List Book,
          response.entity = some (.json (.array (books.map Book.toJson))) ∧
            books.Sublist visit.before.books ∧
              books.Pairwise fun first second => first.id < second.id

variable {decode : Bool} {visit : Visit} {catalogue : Catalogue}

/-- What a visit does to the store is what it does to the catalogue. -/
theorem Does.keeps
    (does : visit.Does decode)
    (keeps : visit.before.Keeps catalogue)
    (left : (catalogue.after (visit.action? decode).toList).added < 2 ^ 64) :
    visit.done.state.Keeps (catalogue.after (visit.action? decode).toList) := by
  cases does with
  | nothing acts state _ =>
      rw [acts, state]
      exact keeps
  | something acts _ effect =>
      rw [acts] at left ⊢
      exact (effect.keeps keeps left).1

/-- The books that are listed or found are some of the books, in their order. -/
theorem exists_books_of_handles
    {request : Request}
    {store : Store}
    {done : Dispatched Store}
    {place : Place}
    {operation : Operation Store}
    {response : Response}
    (handles : Handles decode request store done place operation)
    (lists : place = .books ∨ place = .search)
    (get : request.method = .get)
    (succeeded : done.outcome = .ok response) :
    ∃ books : List Book,
      response.entity = some (.json (.array (books.map Book.toJson))) ∧
        books.Sublist store.books := by
  obtain ⟨_, _, member, method, outcome, negotiated, handled, labelled⟩ := handles
  obtain ⟨given, rfl, rfl⟩ : ∃ given, outcome = .ok given ∧
      Dispatch.labelled negotiated given = response := by
    cases outcome with
    | error error => cases labelled.symm.trans succeeded
    | ok given => exact ⟨given, rfl, Except.ok.inj (labelled.symm.trans succeeded)⟩
  have own : operation.method = .get := by
    rcases method with same | ⟨head, _⟩
    · exact same.trans get
    · rw [get] at head
      cases head
  simp only [Dispatch.entity_labelled]
  rcases lists with rfl | rfl
  · rcases List.mem_pair.mp member with rfl | rfl
    · obtain rfl := Except.ok.inj (Prod.mk.inj handled).1
      refine ⟨_, rfl, ?_⟩
      split
      · exact List.Sublist.refl _
      · exact List.filter_sublist
    · cases own
  · obtain rfl := List.mem_singleton.mp member
    dsimp only [searchBooks] at handled
    split at handled
    · cases (Prod.mk.inj handled).1
    · obtain rfl := Except.ok.inj (Prod.mk.inj handled).1
      exact ⟨_, rfl, List.filter_sublist⟩

end Visit

namespace Patterns

variable {patterns : Patterns} (routes : patterns.AreRoutes)
  {settings : DispatchSettings} {limit : Nat}

include routes

/-- A visit follows the catalogue that the store keeps, while numbers are left. -/
theorem AreRoutes.follows
    {visit : Visit}
    {catalogue : Catalogue}
    (dispatched : (patterns.dispatcher settings).dispatch? limit visit.request visit.before =
      some visit.done)
    (keeps : visit.before.Keeps catalogue)
    (left : (catalogue.after (visit.action? settings.decodesParameters).toList).added < 2 ^ 64) :
    visit.Follows settings.decodesParameters catalogue := by
  have does := routes.does keeps.whole dispatched
  have listed : ∀ place response,
      Place.ofPath? visit.request.path = some place → place = .books ∨ place = .search →
        visit.request.method = .get → visit.done.outcome = .ok response →
          ∃ books : List Book,
            response.entity = some (.json (.array (books.map Book.toJson))) ∧
              books.Sublist visit.before.books ∧
                books.Pairwise fun first second => first.id < second.id := by
    intro place response path lists get succeeded
    rcases routes.dispatch?_cases dispatched with
      ⟨⟨error, failed⟩, _⟩ | ⟨options, _⟩ | ⟨reached, operation, handles⟩
    · rw [failed] at succeeded
      cases succeeded
    · rw [get] at options
      cases options
    · obtain rfl := Option.some.inj (handles.located.ofPath?_eq.symm.trans path)
      obtain ⟨books, entity, some⟩ := Visit.exists_books_of_handles handles lists get succeeded
      exact ⟨books, entity, some, keeps.books_sorted.sublist some⟩
  refine ⟨keeps, does.keeps keeps left, ?_, ?_, ?_, ?_, listed⟩
  · intro action acts
    cases does with
    | nothing none _ _ =>
        rw [none] at acts
        cases acts
    | something same outcome effect =>
        obtain rfl := Option.some.inj (same.symm.trans acts)
        rw [acts] at left
        exact ⟨_, _, outcome, (effect.keeps keeps left).2⟩
  · intro response succeeded changes
    cases does with
    | nothing _ _ reads => exact absurd (reads response succeeded) changes
    | something acts _ _ => exact ⟨_, acts⟩
  · intro error failed
    cases does with
    | nothing _ state _ => exact state
    | something _ outcome _ =>
        rw [failed] at outcome
        cases outcome
  · intro reads
    cases does with
    | nothing _ state _ => exact state
    | something acts outcome _ =>
        rw [Visit.action?, outcome, Action.ofRequest?_of_reads reads] at acts
        cases acts

/-- The store keeps what the visits have made of the catalogue, while numbers are left. -/
theorem AreRoutes.keeps_of_course
    {store last : Store}
    {visits : List Visit}
    {catalogue : Catalogue}
    (course : Course (patterns.dispatcher settings) limit store visits last)
    (keeps : store.Keeps catalogue)
    (left : (catalogue.after (Visit.actions settings.decodesParameters visits)).added < 2 ^ 64) :
    last.Keeps (catalogue.after (Visit.actions settings.decodesParameters visits)) := by
  have start : store.Keeps (catalogue.after []) := keeps
  refine routes.course_induction
    (motive := fun past store => (catalogue.after past).added < 2 ^ 64 →
      store.Keeps (catalogue.after past)) ?_ course keeps.whole (fun _ => start) left
  intro past before action response after _ kept effect left
  rw [Catalogue.after_append] at left ⊢
  have fewer := Nat.lt_of_le_of_lt (Catalogue.added_le_after (catalogue.after past) [action]) left
  exact (effect.keeps (kept fewer) left).1

end Patterns

/--
A bookstore follows its catalogue.  Whatever is requested of an empty one, all requests are
dispatched, and each visit follows the catalogue that the visits before it have left.
-/
theorem exists_visits_following
    (settings : DispatchSettings)
    {limit : Nat}
    (enough : 0 < limit)
    {requests : List Request}
    (few : requests.length < 2 ^ 64) :
    ∃ dispatcher visits,
      Bookstore.dispatcher settings = .ok dispatcher ∧
        visits? dispatcher limit requests .empty = some visits ∧
          visits.map (·.request) = requests ∧
            ∀ earlier visit later, visits = earlier ++ visit :: later →
              visit.Follows settings.decodesParameters
                (Catalogue.empty.after (Visit.actions settings.decodesParameters earlier)) := by
  obtain ⟨patterns, routes⟩ := Patterns.exists_areRoutes
  obtain ⟨visits, visited, same⟩ := routes.exists_visits? settings enough requests .empty
  refine ⟨_, visits, routes.dispatcher_eq, visited, same, ?_⟩
  rintro earlier visit later rfl
  obtain ⟨last, course⟩ := exists_course_of_visits? visited
  obtain ⟨middle, before, after⟩ := course.exists_of_append
  -- each visit adds one book at most, so numbers are left for all of them
  have count : earlier.length + 1 < 2 ^ 64 := by
    have parts := congrArg List.length same
    rw [List.length_map, List.length_append, List.length_cons] at parts
    omega
  have actions : (Visit.actions settings.decodesParameters earlier).length ≤ earlier.length :=
    List.length_filterMap_le ..
  have first := Catalogue.added_after_le .empty (Visit.actions settings.decodesParameters earlier)
  have second := Catalogue.added_after_le
    (Catalogue.empty.after (Visit.actions settings.decodesParameters earlier))
    (visit.action? settings.decodesParameters).toList
  have one : (visit.action? settings.decodesParameters).toList.length ≤ 1 := by
    cases visit.action? settings.decodesParameters <;> simp
  have none : Catalogue.empty.added = 0 := rfl
  have keeps := routes.keeps_of_course before Store.keeps_empty (by omega)
  cases after with
  | step dispatched _ => exact routes.follows dispatched keeps (by omega)

/-- A request that adds a book, with a number of its own. -/
def addition : Request where
  method := .post
  path := "/books".toList
  headers := Headers.empty.insert Headers.contentType "application/json".toList
  body := "\x7b\"id\":7,\"title\":\"Emma\",\"author\":\"Austen\"\x7d".toUTF8.toList

/-- The reply that a book has been added with a number. -/
def emmaAdded (number : Nat) : Reply where
  status := 201
  location := some ("/books/".toList ++ Text.decimal number)
  content := Utf8.encode ("\x7b\"author\":\"Austen\",\"id\":".toList ++ Text.decimal number ++
    ",\"title\":\"Emma\"\x7d".toList)

/-- Two books are added with the numbers 1 and 2, whatever number the requests give. -/
theorem exists_visits_following_additions :
    0 < 1 ∧ [addition, addition].length < 2 ^ 64 ∧
      Action.ofRequest? true addition = some (.add "Emma".toList "Austen".toList) ∧
      ∃ dispatcher visits,
        Bookstore.dispatcher {} = .ok dispatcher ∧
          visits? dispatcher 1 [addition, addition] .empty = some visits ∧
            visits.map (·.request) = [addition, addition] ∧
              visits.map Visit.reply? = [some (emmaAdded 1), some (emmaAdded 2)] ∧
                ∀ earlier visit later, visits = earlier ++ visit :: later →
                  visit.Follows true
                    (Catalogue.empty.after (Visit.actions true earlier)) := by
  obtain ⟨dispatcher, visits, registered, visited, same, follows⟩ :=
    exists_visits_following {} (show 0 < 1 by decide)
      (show [addition, addition].length < 2 ^ 64 by decide)
  have replies : visits.map Visit.reply? = [some (emmaAdded 1), some (emmaAdded 2)] :=
    @view_eq_of_visits? _ (·.map Visit.reply?) _ _ _ _ _ _ registered visited (by decide +kernel)
  exact ⟨by decide, by decide, by decide +kernel, dispatcher, visits, registered, visited, same,
    replies, follows⟩

end Bookstore
end ResourceRouting
