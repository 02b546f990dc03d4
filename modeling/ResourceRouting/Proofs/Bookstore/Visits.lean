import ResourceRouting.Proofs.Bookstore.Handlers
import ResourceRouting.Proofs.Bookstore.Shelves

/-!
# Visits to a bookstore

Requests are dispatched one after the other.  Each of them either leaves the store as it is or does
what its action says.
-/

namespace ResourceRouting
namespace Bookstore

/-- What an action does to a store, and what it is answered with. -/
inductive Effect (store : Store) : Action → Response → Store → Prop
  /-- A book is added, shown and linked to. -/
  | added (given : Book) :
      Effect store (.add given.title given.author)
        ((Link.book (store.add given).1.id).response (store.add given).1.toJson)
        (store.add given).2
  /-- A book is replaced and shown. -/
  | replaced {id : Nat} {given book : Book} {after : Store}
      (equal : store.replace id given = some (book, after)) :
      Effect store (.replace id given.title given.author) (Response.ok.withJson book.toJson) after
  /-- A book is removed. -/
  | removed {id : Nat} (present : (store.remove id).1 = true) :
      Effect store (.remove id) .noContent (store.remove id).2
  /-- A review is added, shown and linked to. -/
  | reviewed {id : Nat} {given review : Review} {after : Store}
      (equal : store.addReview id given = some (review, after)) :
      Effect store (.review id given.rating given.text)
        ((Link.review id review.id).response review.toJson) after

/-- The shelves of a store stay whole. -/
theorem Effect.whole
    {store after : Store}
    {action : Action}
    {response : Response}
    (effect : Effect store action response after)
    (whole : store.Whole) :
    after.Whole := by
  cases effect with
  | added given => exact whole.add given
  | replaced equal => exact whole.replace equal
  | @removed id _ => exact whole.remove id
  | reviewed equal => exact whole.addReview equal

/-- What a handler may do to a store when a request is for an action, if for any. -/
inductive Acts (store : Store) :
    Option Action → Except DispatchError Response × Store → Prop
  /-- The request is refused, and the store stays as it is. -/
  | refused {action? : Option Action} (error : DispatchError) :
      Acts store action? (.error error, store)
  /-- The action is done. -/
  | done {action : Action} {response : Response} {after : Store}
      (effect : Effect store action response after) :
      Acts store (some action) (.ok response, after)

theorem acts_createBook (request : Request) (store : Store) :
    Acts store ((readBook request).toOption.map fun book => .add book.title book.author)
      (createBook request store) := by
  rw [createBook]
  cases readBook request with
  | error error => exact .refused error
  | ok given =>
      simp only [created_book]
      exact .done (.added given)

theorem acts_updateBook (request : Request) (store : Store) :
    Acts store
      ((bookId request).toOption.bind fun id =>
        (readBook request).toOption.map fun book => .replace id book.title book.author)
      (updateBook request store) := by
  rw [updateBook]
  cases bookId request with
  | error error => exact .refused error
  | ok id =>
      cases readBook request with
      | error error => exact .refused error
      | ok given =>
          cases replaced : store.replace id given with
          | none =>
              simp only [replaced]
              exact .refused _
          | some result =>
              simp only [replaced]
              exact .done (.replaced replaced)

theorem acts_deleteBook (request : Request) {store : Store} (whole : store.Whole) :
    Acts store ((bookId request).toOption.map .remove) (deleteBook request store) := by
  rw [deleteBook]
  cases bookId request with
  | error error => exact .refused error
  | ok id =>
      cases present : (store.remove id).1 with
      | false =>
          have nothing : store.remove id = (false, store) :=
            Prod.ext present (whole.remove_eq_of_missing present)
          simp only [nothing]
          exact .refused _
      | true =>
          have removed : store.remove id = (true, (store.remove id).2) := Prod.ext present rfl
          dsimp only
          rw [removed]
          exact .done (.removed present)

theorem acts_createReview (request : Request) (store : Store) :
    Acts store
      ((bookId request).toOption.bind fun id =>
        (readReview request).toOption.map fun review => .review id review.rating review.text)
      (createReview request store) := by
  rw [createReview]
  cases bookId request with
  | error error => exact .refused error
  | ok id =>
      cases readReview request with
      | error error => exact .refused error
      | ok given =>
          dsimp only
          split
          · exact .refused _
          · cases added : store.addReview id given with
            | none => exact .refused _
            | some result =>
                simp only [created_review]
                exact .done (.reviewed added)

namespace Place

variable {decode : Bool} {place : Place} {request bound : Request}
  (binds : place.Binds decode request bound)

include binds

/-- A text of a place is read as the number that it denotes. -/
theorem Binds.toOption_readNatural
    {name text : Text}
    (present : (name, text) ∈ place.bindings) :
    (bound.readNatural name).toOption = number? decode text := by
  obtain ⟨value, decoded, held⟩ := binds.values name text present
  rw [Request.readNatural, Request.read, held, number?, decoded, Option.bind_some]
  dsimp only
  cases Text.natural? Request.greatestNatural value <;> rfl

/-- The entity is not changed when texts are bound. -/
theorem Binds.body_eq : bound.body = request.body := by
  obtain ⟨parameters, rfl⟩ := binds.rest
  rfl

theorem Binds.readBook_eq : readBook bound = readBook request := by
  rw [readBook, readBook, binds.body_eq]

theorem Binds.readReview_eq : readReview bound = readReview request := by
  rw [readReview, readReview, binds.body_eq]

end Place

/-- An operation that answers `GET` leaves the store as it is. -/
theorem reads_of_mem_operations
    {place : Place}
    {operation : Operation Store}
    (member : operation ∈ place.operations)
    (get : operation.method = .get)
    (request : Request)
    (store : Store) :
    (operation.handler request store).2 = store := by
  cases place with
  | health =>
      obtain rfl := List.mem_singleton.mp member
      rfl
  | books =>
      rcases List.mem_pair.mp member with rfl | rfl
      · rfl
      · cases get
  | search =>
      obtain rfl := List.mem_singleton.mp member
      simp only [searchBooks]
      split <;> rfl
  | book id =>
      simp only [Place.operations, bookOperations, List.mem_cons, List.not_mem_nil, or_false]
        at member
      rcases member with rfl | rfl | rfl
      · simp only [showBook]
        split
        · rfl
        · split <;> rfl
      · cases get
      · cases get
  | reviews id =>
      rcases List.mem_pair.mp member with rfl | rfl
      · simp only [listReviews]
        split <;> rfl
      · cases get
  | review id number =>
      obtain rfl := List.mem_singleton.mp member
      simp only [showReview]
      split
      · rfl
      · split
        · rfl
        · split <;> rfl

/-- A request that only reads does nothing to the catalogue. -/
theorem Action.ofRequest?_of_reads
    {decode : Bool}
    {request : Request}
    (reads : request.method ∈ [.get, .head, .options]) :
    Action.ofRequest? decode request = none := by
  have other : request.method ≠ .post ∧ request.method ≠ .put ∧ request.method ≠ .delete := by
    revert reads
    generalize request.method = method
    intro reads
    simp only [List.mem_cons, List.not_mem_nil, or_false] at reads
    rcases reads with rfl | rfl | rfl <;> decide
  rw [Action.ofRequest?]
  split <;> simp [other]

/-- An operation reads, or acts as the request says. -/
theorem Handles.reads_or_acts
    {decode : Bool}
    {request : Request}
    {store : Store}
    {done : Dispatched Store}
    {place : Place}
    {operation : Operation Store}
    (handles : Handles decode request store done place operation)
    (whole : store.Whole) :
    operation.method = .get ∨
      Acts store (Action.ofRequest? decode request)
        (operation.handler done.request store) := by
  obtain ⟨located, binds, member, method, _⟩ := handles
  have path := located.ofPath?_eq
  -- `HEAD` is answered by operations for `GET` only
  have own : operation.method ≠ .get → request.method = operation.method := fun other =>
    method.elim Eq.symm fun ⟨_, get⟩ => absurd get other
  cases place with
  | health =>
      obtain rfl := List.mem_singleton.mp member
      exact .inl rfl
  | books =>
      rcases List.mem_pair.mp member with rfl | rfl
      · exact .inl rfl
      · have action : Action.ofRequest? decode request =
            (readBook done.request).toOption.map fun book => .add book.title book.author := by
          simp only [Action.ofRequest?, path, own (by decide), if_true, binds.readBook_eq]
        rw [action]
        exact .inr (acts_createBook ..)
  | search =>
      obtain rfl := List.mem_singleton.mp member
      exact .inl rfl
  | book id =>
      have number := binds.toOption_readNatural (List.mem_singleton_self ("id".toList, id))
      simp only [Place.operations, bookOperations, List.mem_cons, List.not_mem_nil, or_false]
        at member
      rcases member with rfl | rfl | rfl
      · exact .inl rfl
      · have action : Action.ofRequest? decode request =
            (bookId done.request).toOption.bind fun id =>
              (readBook done.request).toOption.map fun book =>
                .replace id book.title book.author := by
          simp only [Action.ofRequest?, path, own (by decide), if_true, binds.readBook_eq, bookId,
            number]
        rw [action]
        exact .inr (acts_updateBook ..)
      · have action : Action.ofRequest? decode request =
            (bookId done.request).toOption.map .remove := by
          simp only [Action.ofRequest?, path, own (by decide), if_true, bookId, number]
          rw [if_neg (by decide)]
        rw [action]
        exact .inr (acts_deleteBook _ whole)
  | reviews id =>
      have number := binds.toOption_readNatural (List.mem_singleton_self ("id".toList, id))
      rcases List.mem_pair.mp member with rfl | rfl
      · exact .inl rfl
      · have action : Action.ofRequest? decode request =
            (bookId done.request).toOption.bind fun id =>
              (readReview done.request).toOption.map fun review =>
                .review id review.rating review.text := by
          simp only [Action.ofRequest?, path, own (by decide), if_true, binds.readReview_eq,
            bookId, number]
        rw [action]
        exact .inr (acts_createReview ..)
  | review id number =>
      obtain rfl := List.mem_singleton.mp member
      exact .inl rfl

/-- A request that has been dispatched. -/
structure Visit where
  /-- The request. -/
  request : Request
  /-- The store that it found. -/
  before : Store
  /-- What has become of it. -/
  done : Dispatched Store

/-- What a client sees of a response. -/
structure Reply where
  /-- The status code. -/
  status : Nat
  /-- The location of what has been created. -/
  location : Option Text
  /-- The bytes of the entity. -/
  content : List UInt8
  deriving DecidableEq, Repr

/-- Dispatches requests one after the other, unless one of them would have no outcome. -/
def visits? (dispatcher : Dispatcher Store) (limit : Nat) :
    List Request → Store → Option (List Visit)
  | [], _ => some []
  | request :: requests, store =>
      (dispatcher.dispatch? limit request store).bind fun done =>
        (visits? dispatcher limit requests done.state).map (⟨request, store, done⟩ :: ·)

/-- What is seen of the visits to an empty bookstore can be computed. -/
theorem view_eq_of_visits?
    {α : Type}
    {view : List Visit → α}
    {settings : DispatchSettings}
    {dispatcher : Dispatcher Store}
    {limit : Nat}
    {requests : List Request}
    {visits : List Visit}
    {seen : α}
    (registered : Bookstore.dispatcher settings = .ok dispatcher)
    (visited : visits? dispatcher limit requests .empty = some visits)
    (computed : (Bookstore.dispatcher settings).toOption.bind (fun dispatcher =>
      (visits? dispatcher limit requests .empty).map view) = some seen) :
    view visits = seen := by
  rw [registered] at computed
  dsimp only [Except.toOption, Option.bind_some] at computed
  rw [visited] at computed
  exact Option.some.inj computed

/-- Visits lead from one store to another, each beginning with what the one before has left. -/
inductive Course (dispatcher : Dispatcher Store) (limit : Nat) :
    Store → List Visit → Store → Prop
  /-- Without a visit the store stays as it is. -/
  | stay {store : Store} : Course dispatcher limit store [] store
  /-- A request is dispatched, and others may follow. -/
  | step {visit : Visit} {visits : List Visit} {last : Store}
      (dispatched : dispatcher.dispatch? limit visit.request visit.before = some visit.done)
      (further : Course dispatcher limit visit.done.state visits last) :
      Course dispatcher limit visit.before (visit :: visits) last

/-- The visits of some requests take their course. -/
theorem exists_course_of_visits?
    {dispatcher : Dispatcher Store}
    {limit : Nat}
    {requests : List Request}
    {store : Store}
    {visits : List Visit}
    (visited : visits? dispatcher limit requests store = some visits) :
    ∃ last, Course dispatcher limit store visits last := by
  induction requests generalizing store visits with
  | nil =>
      cases visited
      exact ⟨store, .stay⟩
  | cons request requests ih =>
      obtain ⟨done, dispatched, others⟩ := Option.bind_eq_some_iff.mp visited
      obtain ⟨further, visitedThen, rfl⟩ := Option.map_eq_some_iff.mp others
      obtain ⟨last, course⟩ := ih visitedThen
      exact ⟨last, @Course.step _ _ ⟨request, store, done⟩ _ _ dispatched course⟩

/-- A course is parted where its visits are. -/
theorem Course.exists_of_append
    {dispatcher : Dispatcher Store}
    {limit : Nat}
    {store last : Store}
    {earlier later : List Visit}
    (course : Course dispatcher limit store (earlier ++ later) last) :
    ∃ middle, Course dispatcher limit store earlier middle ∧
      Course dispatcher limit middle later last := by
  induction earlier generalizing store with
  | nil => exact ⟨store, .stay, course⟩
  | cons visit earlier ih =>
      cases course with
      | step dispatched further =>
          obtain ⟨middle, first, second⟩ := ih further
          exact ⟨middle, .step dispatched first, second⟩

/-- The methods of requests that only read. -/
def reading : List Method := [.get, .head, .options]

namespace Visit

/-- What a visit has done to the catalogue; one that ends in an error has done nothing. -/
def action? (decode : Bool) (visit : Visit) : Option Action :=
  match visit.done.outcome with
  | .error _ => none
  | .ok _ => Action.ofRequest? decode visit.request

/-- What some visits have done to the catalogue, in order. -/
def actions (decode : Bool) (visits : List Visit) : List Action :=
  visits.filterMap (action? decode)

/-- What a client sees of the response to a visit, if there is one. -/
def reply? (visit : Visit) : Option Reply :=
  visit.done.outcome.toOption.map fun response =>
    ⟨response.status, response.headers.get? Headers.location,
      (response.entity.map Entity.toBytes).getD []⟩

/-- What a client sees is seen of a response. -/
theorem exists_response_of_reply?
    {visit : Visit}
    {reply : Reply}
    (seen : visit.reply? = some reply) :
    ∃ response, visit.done.outcome = .ok response ∧ response.status = reply.status ∧
      response.headers.get? Headers.location = reply.location ∧
        (response.entity.map Entity.toBytes).getD [] = reply.content := by
  rw [reply?] at seen
  cases outcome : visit.done.outcome with
  | error error =>
      rw [outcome] at seen
      cases seen
  | ok response =>
      rw [outcome] at seen
      cases seen
      exact ⟨response, rfl, rfl, rfl, rfl⟩

theorem actions_cons (decode : Bool) (visit : Visit) (visits : List Visit) :
    actions decode (visit :: visits) = (visit.action? decode).toList ++ actions decode visits := by
  rw [actions, List.filterMap_cons]
  cases visit.action? decode <;> rfl

/-- What a visit does to the store. -/
inductive Does (decode : Bool) (visit : Visit) : Prop
  /-- It leaves the store as it is; if it does not end in an error, it reads. -/
  | nothing
      (acts : visit.action? decode = none)
      (state : visit.done.state = visit.before)
      (reads : ∀ response, visit.done.outcome = .ok response → visit.request.method ∈ reading)
  /-- It does what its action says. -/
  | something {action : Action} {response : Response} {negotiated : Option MediaType}
      (acts : visit.action? decode = some action)
      (outcome : visit.done.outcome = .ok (Dispatch.labelled negotiated response))
      (effect : Effect visit.before action response visit.done.state)

end Visit

namespace Patterns

variable {patterns : Patterns} (routes : patterns.AreRoutes)
  {settings : DispatchSettings} {limit : Nat}

include routes

/-- Each visit to a store whose shelves are whole leaves it as it is, or acts. -/
theorem AreRoutes.does
    {visit : Visit}
    (whole : visit.before.Whole)
    (dispatched : (patterns.dispatcher settings).dispatch? limit visit.request visit.before =
      some visit.done) :
    visit.Does settings.decodesParameters := by
  rcases routes.dispatch?_cases dispatched with
    ⟨⟨error, failed⟩, state⟩ | ⟨options, state⟩ | ⟨place, operation, handles⟩
  · refine .nothing ?_ state fun response succeeded => ?_
    · rw [Visit.action?, failed]
    · rw [failed] at succeeded
      cases succeeded
  · have reads : visit.request.method ∈ reading := by
      rw [options]
      decide
    refine .nothing ?_ state fun _ _ => reads
    rw [Visit.action?, Action.ofRequest?_of_reads reads]
    split <;> rfl
  · obtain ⟨outcome, negotiated, handled, labelled⟩ := handles.handled
    rcases handles.reads_or_acts whole with get | acts
    · have reads : visit.request.method ∈ reading := by
        rcases handles.method with same | ⟨head, _⟩
        · rw [← same, get]
          decide
        · rw [head]
          decide
      refine .nothing ?_ ?_ fun _ _ => reads
      · rw [Visit.action?, Action.ofRequest?_of_reads reads]
        split <;> rfl
      · have state := reads_of_mem_operations handles.member get visit.done.request visit.before
        rwa [handled] at state
    · rw [handled] at acts
      generalize wanted : Action.ofRequest? settings.decodesParameters visit.request = action?
        at acts
      generalize left : visit.done.state = after at acts
      cases acts with
      | refused error =>
          refine .nothing ?_ left fun response succeeded => ?_
          · rw [Visit.action?, labelled]
            rfl
          · rw [labelled] at succeeded
            cases succeeded
      | done effect =>
          refine .something ?_ labelled (left ▸ effect)
          rw [Visit.action?, labelled]
          exact wanted

/-- The shelves stay whole while visits are paid. -/
theorem AreRoutes.whole_of_course
    {store last : Store}
    {visits : List Visit}
    (course : Course (patterns.dispatcher settings) limit store visits last)
    (whole : store.Whole) :
    last.Whole := by
  induction course with
  | stay => exact whole
  | step dispatched _ ih =>
      apply ih
      cases routes.does whole dispatched with
      | nothing _ state _ => exact state ▸ whole
      | something _ _ effect => exact effect.whole whole

/-- What each effect makes of what has been done before it is true when visits have been paid. -/
theorem AreRoutes.course_induction
    {motive : List Action → Store → Prop}
    (effects : ∀ past before action response after, before.Whole → motive past before →
      Effect before action response after → motive (past ++ [action]) after)
    {past : List Action}
    {store last : Store}
    {visits : List Visit}
    (course : Course (patterns.dispatcher settings) limit store visits last)
    (whole : store.Whole)
    (start : motive past store) :
    motive (past ++ Visit.actions settings.decodesParameters visits) last := by
  induction course generalizing past with
  | stay => simpa [Visit.actions] using start
  | step dispatched further ih =>
      rw [Visit.actions_cons, ← List.append_assoc]
      cases routes.does whole dispatched with
      | nothing acts state _ =>
          rw [acts, Option.toList_none, List.append_nil]
          exact ih (state ▸ whole) (state ▸ start)
      | something acts _ effect =>
          rw [acts, Option.toList_some]
          exact ih (effect.whole whole) (effects _ _ _ _ _ whole start effect)

/-- All requests are dispatched. -/
theorem AreRoutes.exists_visits?
    (settings : DispatchSettings)
    (enough : 0 < limit)
    (requests : List Request)
    (store : Store) :
    ∃ visits, visits? (patterns.dispatcher settings) limit requests store = some visits ∧
      visits.map (·.request) = requests := by
  induction requests generalizing store with
  | nil => exact ⟨[], rfl, rfl⟩
  | cons request requests ih =>
      obtain ⟨result, resolved⟩ := Option.isSome_iff_exists.mp
        (routes.isSome_resolve? enough settings.decodesParameters store request)
      obtain ⟨done, dispatched⟩ : ∃ done,
          (patterns.dispatcher settings).dispatch? limit request store = some done := by
        rw [Dispatcher.dispatch?, dispatcher, resolved]
        exact ⟨_, rfl⟩
      obtain ⟨visits, visited, same⟩ := ih done.state
      refine ⟨⟨request, store, done⟩ :: visits, ?_, ?_⟩
      · rw [visits?, dispatched, Option.bind_some, visited]
        rfl
      · rw [List.map_cons, same]

end Patterns
end Bookstore
end ResourceRouting
