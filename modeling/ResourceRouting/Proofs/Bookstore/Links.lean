import ResourceRouting.Proofs.Bookstore.Showing
import ResourceRouting.Proofs.Bookstore.Visits

/-!
# The links of a bookstore

What is at the link of a new book or review stays there, until the book is replaced or removed.
-/

namespace ResourceRouting
namespace Bookstore

/-- The number of the book that is linked to, or whose review is. -/
def Link.id : Link → Nat
  | .book id => id
  | .review id _ => id

/-- No two links have the same path. -/
theorem Link.path_injective {first second : Link} (same : first.path = second.path) :
    first = second := by
  have place : first.place = second.place := by
    have found := first.isAt_path.ofPath?_eq
    rw [same, second.isAt_path.ofPath?_eq] at found
    exact (Option.some.inj found).symm
  have number : ∀ {id other : Nat}, Text.decimal id = Text.decimal other → id = other := by
    intro id other equal
    rw [← Text.ofDecimal_decimal id, equal, Text.ofDecimal_decimal]
  cases first <;> cases second
  · exact congrArg Link.book (number (Place.book.inj place))
  · cases place
  · cases place
  · obtain ⟨id, review⟩ := Place.review.inj place
    exact congrArg₂ Link.review (number id) (number review)

/-- The document at a link, if there is one. -/
def Store.shown? (store : Store) : Link → Option Json
  | .book id => (store.book? id).map Book.toJson
  | .review id number =>
      ((store.reviews id).find? fun review => review.id = number).map Review.toJson

/-- Whether an action takes away what is at a link, or puts something else in its place. -/
def Link.IsLostBy : Link → Action → Prop
  | .book id, .replace other _ _ => other = id
  | .book id, .remove other => other = id
  | .review id _, .remove other => other = id
  | _, _ => False

/-- Whether an action adds a book. -/
def Action.isAddition : Action → Bool
  | .add _ _ => true
  | _ => false

/-- What is at a link lasts through some actions. -/
structure Link.Lasts (link : Link) (actions : List Action) : Prop where
  /-- It is not taken away. -/
  kept : ∀ action ∈ actions, ¬link.IsLostBy action
  /-- A number has 64 bits: that of a book is given again when so many others have been added. -/
  unused : ∀ id, link = .book id → actions.countP Action.isAddition < 2 ^ 64

theorem Link.Lasts.of_append
    {link : Link}
    {first second : List Action}
    (lasts : link.Lasts (first ++ second)) :
    link.Lasts first where
  kept := fun action present => lasts.kept action (List.mem_append_left _ present)
  unused := fun id book => by
    have both := lasts.unused id book
    rw [List.countP_append] at both
    omega

namespace Store

/-- Adding a book leaves all reviews where they are. -/
theorem reviews_add {store : Store} (sorted : Sorted store.shelves) (book : Book) (id : Nat) :
    (store.add book).2.reviews id = store.reviews id := by
  rw [reviews, shelf?_add sorted]
  split
  · rename_i same
    rw [reviews, same]
    cases store.shelf? (store.add book).1.id <;> rfl
  · rfl

/-- A new review stands behind those of its book. -/
theorem reviews_addReview
    {store after : Store}
    {id : Nat}
    {given review : Review}
    (added : store.addReview id given = some (review, after))
    (other : Nat) :
    after.reviews other =
      if other = id then store.reviews id ++ [review] else store.reviews other := by
  obtain ⟨⟨book, held⟩, _, rfl⟩ := of_addReview added
  obtain ⟨shelf, found, _⟩ := Option.bind_eq_some_iff.mp held
  rw [reviews, shelf?_modify]
  split
  · rw [found, reviews_of_shelf? found]
    rfl
  · rfl

end Store

/-- An effect counts the books that are added. -/
theorem Effect.lastId_eq
    {store after : Store}
    {action : Action}
    {response : Response}
    (effect : Effect store action response after) :
    after.lastId = store.lastId + if action.isAddition then 1 else 0 := by
  cases effect with
  | added given => rfl
  | replaced equal =>
      obtain ⟨_, rfl, rfl⟩ := Store.of_replace equal
      exact (UInt64.add_zero _).symm
  | removed present => exact (UInt64.add_zero _).symm
  | reviewed equal =>
      obtain ⟨_, rfl, rfl⟩ := Store.of_addReview equal
      exact (UInt64.add_zero _).symm

/-- What is at the link of a book stays there, unless it is lost or the number is given again. -/
theorem Effect.book?_eq
    {store after : Store}
    {action : Action}
    {response : Response}
    (effect : Effect store action response after)
    (whole : store.Whole)
    {id : Nat}
    (kept : ¬(Link.book id).IsLostBy action)
    (unused : action.isAddition = true → after.lastId.toNat ≠ id) :
    after.book? id = store.book? id := by
  cases effect with
  | added given =>
      have other : id ≠ (store.add given).1.id := (unused rfl).symm
      rw [Store.book?, Store.shelf?_add whole.sorted, if_neg other, Store.book?]
  | replaced equal =>
      obtain ⟨_, rfl, rfl⟩ := Store.of_replace equal
      rw [Store.book?, Store.shelf?_modify, if_neg (Ne.symm kept), Store.book?]
  | removed present =>
      rw [Store.book?, Store.shelf?_remove, if_neg (Ne.symm kept), Store.book?]
  | reviewed equal =>
      obtain ⟨_, rfl, rfl⟩ := Store.of_addReview equal
      refine Store.view_modify (fun shelf => shelf.bind (·.book)) (fun shelf => ?_) ..
      rfl

/-- The reviews of a book stay where they are, unless the book is removed. -/
theorem Effect.exists_reviews
    {store after : Store}
    {action : Action}
    {response : Response}
    (effect : Effect store action response after)
    (whole : store.Whole)
    {id number : Nat}
    (kept : ¬(Link.review id number).IsLostBy action) :
    ∃ more, after.reviews id = store.reviews id ++ more := by
  cases effect with
  | added given => exact ⟨[], by rw [Store.reviews_add whole.sorted, List.append_nil]⟩
  | replaced equal =>
      obtain ⟨_, rfl, rfl⟩ := Store.of_replace equal
      refine ⟨[], ?_⟩
      rw [List.append_nil]
      refine Store.view_modify (fun shelf => (shelf.map (·.reviews)).getD []) (fun shelf => ?_) ..
      rfl
  | removed present =>
      refine ⟨[], ?_⟩
      rw [Store.reviews, Store.shelf?_remove, if_neg (Ne.symm kept), List.append_nil,
        Store.reviews]
  | reviewed equal =>
      rw [Store.reviews_addReview equal]
      split
      · rename_i same
        rw [same]
        exact ⟨_, rfl⟩
      · exact ⟨[], (List.append_nil _).symm⟩

/-- What is at a link stays there, unless it is lost or the number of the book is given again. -/
theorem Effect.shown?_eq
    {store after : Store}
    {action : Action}
    {response : Response}
    (effect : Effect store action response after)
    (whole : store.Whole)
    {link : Link}
    {document : Json}
    (shown : store.shown? link = some document)
    (kept : ¬link.IsLostBy action)
    (unused : ∀ id, link = .book id → action.isAddition = true → after.lastId.toNat ≠ id) :
    after.shown? link = some document := by
  cases link with
  | book id =>
      rw [Store.shown?, effect.book?_eq whole kept (unused id rfl)]
      exact shown
  | review id number =>
      obtain ⟨more, reviews⟩ := effect.exists_reviews whole kept
      obtain ⟨review, found, rfl⟩ := Option.map_eq_some_iff.mp shown
      rw [Store.shown?, reviews, List.find?_append, found]
      rfl

/-- A document is at a link, and the books that were added after that of the link are counted. -/
structure Store.Shows (store : Store) (link : Link) (document : Json) (additions : Nat) : Prop where
  /-- The document is at the link. -/
  shown : store.shown? link = some document
  /-- The number that was given last is so many after that of the book. -/
  counted : ∀ id, link = .book id → store.lastId.toNat = (id + additions) % 2 ^ 64

/-- What has been created is at its link. -/
theorem Effect.exists_link
    {store after : Store}
    {action : Action}
    {response : Response}
    (effect : Effect store action response after)
    (whole : store.Whole)
    (created : response.status = 201) :
    ∃ link document, response = link.response document ∧ after.Shows link document 0 := by
  cases effect with
  | added given =>
      refine ⟨_, _, rfl, ?_, fun id same => ?_⟩
      · rw [Store.shown?, Store.book?, Store.shelf?_add whole.sorted, if_pos rfl]
        rfl
      · obtain rfl := Link.book.inj same
        exact (Nat.mod_eq_of_lt (UInt64.toNat_lt _)).symm
  | replaced equal => cases created
  | removed present => cases created
  | @reviewed id given review after equal =>
      refine ⟨_, _, rfl, ?_, fun id same => by cases same⟩
      -- no review that was there has the number of the new one
      have fresh : (store.reviews id).find? (fun other => other.id = review.id) = none := by
        obtain ⟨_, rfl, _⟩ := Store.of_addReview equal
        rw [List.find?_eq_none]
        intro other present
        have less := whole.numbered_reviews id other present
        simp only [decide_eq_true_eq]
        omega
      rw [Store.shown?, Store.reviews_addReview equal, if_pos rfl, List.find?_append, fresh]
      simp

/-- The document stays at the link, and additions are counted. -/
theorem Effect.shows
    {store after : Store}
    {past : List Action}
    {action : Action}
    {response : Response}
    (effect : Effect store action response after)
    (whole : store.Whole)
    {link : Link}
    {document : Json}
    (shows' : store.Shows link document (past.countP Action.isAddition))
    (lasts : link.Lasts (past ++ [action])) :
    after.Shows link document ((past ++ [action]).countP Action.isAddition) := by
  have counted : ∀ id, link = .book id →
      after.lastId.toNat = (id + (past ++ [action]).countP Action.isAddition) % 2 ^ 64 := by
    intro id same
    rw [effect.lastId_eq, UInt64.toNat_add, shows'.counted id same, List.countP_append,
      List.countP_singleton]
    cases action.isAddition <;> simp [Nat.add_assoc]
  refine ⟨effect.shown?_eq whole shows'.shown (lasts.kept action (by simp)) ?_, counted⟩
  intro id same addition
  have few := lasts.unused id same
  rw [counted id same]
  rw [List.countP_append, List.countP_singleton, if_pos addition] at few ⊢
  omega

/-- A document stays at its link through all visits through which it lasts. -/
theorem Patterns.AreRoutes.shown?_of_course
    {patterns : Patterns}
    (routes : patterns.AreRoutes)
    {settings : DispatchSettings}
    {limit : Nat}
    {store last : Store}
    {visits : List Visit}
    (course : Course (patterns.dispatcher settings) limit store visits last)
    (whole : store.Whole)
    {link : Link}
    {document : Json}
    (shows' : store.Shows link document 0)
    (lasts : link.Lasts (Visit.actions settings.decodesParameters visits)) :
    last.shown? link = some document := by
  have start : store.Shows link document (([] : List Action).countP Action.isAddition) := shows'
  have held := routes.course_induction
    (motive := fun past store => link.Lasts past →
      store.Shows link document (past.countP Action.isAddition))
    (fun _ _ _ _ _ whole kept effect lasts => effect.shows whole (kept lasts.of_append) lasts)
    course whole fun _ => start
  exact (held lasts).shown

/-- A number in the path of a place is read. -/
theorem Place.Binds.readNatural_decimal
    {decode : Bool}
    {place : Place}
    {request bound : Request}
    (binds : place.Binds decode request bound)
    {name : Text}
    {number : Nat}
    (present : (name, Text.decimal number) ∈ place.bindings)
    (small : number < 2 ^ 64) :
    bound.readNatural name = .ok number := by
  have read := binds.toOption_readNatural present
  have within : number ≤ Request.greatestNatural := Nat.le_of_lt_succ small
  rw [number?, Resolution.decodeValue_decimal, Option.bind_some, Text.natural?_decimal within]
    at read
  cases result : bound.readNatural name with
  | error error =>
      rw [result] at read
      cases read
  | ok other =>
      rw [result] at read
      exact congrArg Except.ok (Option.some.inj read)

/-- The book of a link at which there is something is there. -/
theorem Store.Whole.exists_shelf_of_shown?
    {store : Store}
    (whole : store.Whole)
    {link : Link}
    {document : Json}
    (shown : store.shown? link = some document) :
    link.id < 2 ^ 64 ∧ (store.book? link.id).isSome = true := by
  obtain ⟨shelf, found⟩ : ∃ shelf, store.shelf? link.id = some shelf := by
    cases link with
    | book id =>
        obtain ⟨book, held, _⟩ := Option.map_eq_some_iff.mp shown
        obtain ⟨shelf, found, _⟩ := Option.bind_eq_some_iff.mp held
        exact ⟨shelf, found⟩
    | review id number =>
        cases found : store.shelf? id with
        | some shelf => exact ⟨shelf, found⟩
        | none =>
            rw [Store.shown?, Store.reviews, found] at shown
            cases shown
  refine ⟨(whole.shelves _ shelf found).small, ?_⟩
  rw [whole.book?_isSome, found]
  rfl

/-- A visit is shown a document. -/
def Visit.IsShown (visit : Visit) (document : Json) : Prop :=
  ∃ response, visit.done.outcome = .ok response ∧ response.status = 200 ∧
    response.entity = some (.json document)

/-- A request reads a link, and accepts whatever it is answered with. -/
structure Link.IsReadBy (link : Link) (request : Request) : Prop where
  get : request.method = .get
  path : request.path = link.path
  accepts : request.headers.get? Headers.accept = none
  /-- If there is a media type of the entity, it can be read. -/
  valid : ∃ declared, request.contentType = .ok declared
  /-- The number of a review has 64 bits, otherwise it cannot be read. -/
  small : ∀ id number, link = .review id number → number < 2 ^ 64

/-- There is an operation for `GET` at a link. -/
theorem Link.exists_get (link : Link) :
    ∃ operation ∈ link.place.operations, operation.method = .get ∧ operation.consumes = [] := by
  cases link with
  | book id => exact ⟨_, List.mem_cons_self .., rfl, rfl⟩
  | review id number => exact ⟨_, List.mem_singleton_self _, rfl, rfl⟩

/-- What reads a link answers with the document at the link. -/
theorem Link.handler_eq
    {link : Link}
    {decode : Bool}
    {request bound : Request}
    {operation : Operation Store}
    (binds : link.place.Binds decode request bound)
    (member : operation ∈ link.place.operations)
    (get : operation.method = .get)
    {store : Store}
    (whole : store.Whole)
    {document : Json}
    (shown : store.shown? link = some document)
    (small : ∀ id number, link = .review id number → number < 2 ^ 64) :
    operation.handler bound store = (.ok (Response.ok.withJson document), store) := by
  have held := whole.exists_shelf_of_shown? shown
  cases link with
  | book id =>
      simp only [Link.place, Place.operations, bookOperations, List.mem_cons, List.not_mem_nil,
        or_false] at member
      rcases member with rfl | rfl | rfl
      · have number : bookId bound = .ok id :=
          binds.readNatural_decimal (List.mem_singleton_self _) held.1
        obtain ⟨book, found, rfl⟩ := Option.map_eq_some_iff.mp shown
        simp only [showBook, number, found]
      · cases get
      · cases get
  | review id number =>
      obtain rfl := List.mem_singleton.mp member
      have book : bookId bound = .ok id :=
        binds.readNatural_decimal (List.mem_cons_self ..) held.1
      have review : bound.readNatural "review".toList = .ok number :=
        binds.readNatural_decimal (List.mem_cons_of_mem _ (List.mem_singleton_self _))
          (small id number rfl)
      obtain ⟨entry, found, rfl⟩ := Option.map_eq_some_iff.mp shown
      simp only [showReview, review, book, found]

namespace Patterns

variable {patterns : Patterns} (routes : patterns.AreRoutes)
  {settings : DispatchSettings} {limit : Nat}

include routes

/-- The path of a link at which there is something leads to a target. -/
theorem AreRoutes.exists_target_of_shown?
    (enough : 0 < limit)
    {store : Store}
    (whole : store.Whole)
    {link : Link}
    {document : Json}
    (shown : store.shown? link = some document)
    {request : Request}
    (path : request.path = link.path)
    (decode : Bool) :
    ∃ bound target,
      Resolution.resolve? [patterns.healthResource, patterns.booksResource] directory decode store
        limit request = some (bound, .ok target) := by
  obtain ⟨small, held⟩ := whole.exists_shelf_of_shown? shown
  cases link with
  | book id => exact routes.exists_target_of_book path decode store limit
  | review id number => exact routes.exists_target_of_review path small held enough decode

/-- A request that reads a link is answered with the document at the link. -/
theorem AreRoutes.isShown_of_shown?
    (enough : 0 < limit)
    {store : Store}
    (whole : store.Whole)
    {link : Link}
    {document : Json}
    (shown : store.shown? link = some document)
    {visit : Visit}
    (reads : link.IsReadBy visit.request)
    (dispatched : (patterns.dispatcher settings).dispatch? limit visit.request store =
      some visit.done) :
    visit.IsShown document := by
  obtain ⟨get, path, accepts, ⟨declared, valid⟩, small⟩ := reads
  obtain ⟨bound, target, resolved⟩ := routes.exists_target_of_shown? enough whole shown path
    settings.decodesParameters
  obtain ⟨place, located, operations, binds⟩ := routes.exists_place_of_resolve? resolved
  obtain rfl : place = link.place :=
    Option.some.inj (located.ofPath?_eq.symm.trans (path ▸ link.isAt_path.ofPath?_eq))
  obtain ⟨operation, present, own, consumes⟩ := link.exists_get
  -- what is bound does not matter for the selection
  obtain ⟨asked, declares, open'⟩ : bound.method = .get ∧ bound.contentType = .ok declared ∧
      bound.headers.get? Headers.accept = none := by
    obtain ⟨parameters, rfl⟩ := binds.rest
    exact ⟨get, valid, accepts⟩
  obtain ⟨other, member, same, negotiated, runs⟩ :=
    Dispatch.exists_run_of_open (operations ▸ present) (own.trans asked.symm) declares
      (.inl consumes) open' settings store
  have handled := link.handler_eq binds (operations ▸ member) (same.trans asked) whole shown small
  rw [Dispatcher.dispatch?, dispatcher, resolved] at dispatched
  dsimp only [Option.map_some] at dispatched
  rw [runs, handled] at dispatched
  rw [Visit.IsShown, ← Option.some.inj dispatched]
  exact ⟨_, rfl, Dispatch.status_labelled .., Dispatch.entity_labelled ..⟩

end Patterns

/--
The links of a bookstore are live.  Whatever is requested of an empty one, a response that something
has been created links to it, and a request that reads the link is answered with the same document,
whatever has been requested in between, as long as it lasts.
-/
theorem exists_visits_linking
    (settings : DispatchSettings)
    {limit : Nat}
    (enough : 0 < limit)
    (requests : List Request) :
    ∃ dispatcher visits,
      Bookstore.dispatcher settings = .ok dispatcher ∧
        visits? dispatcher limit requests .empty = some visits ∧
          visits.map (·.request) = requests ∧
            ∀ earlier creation later created, visits = earlier ++ creation :: later →
              creation.request.method = .post → creation.done.outcome = .ok created →
                created.status = 201 →
                  ∃ (link : Link) (document : Json),
                    created.headers.get? Headers.location = some link.path ∧
                      created.entity = some (.json document) ∧
                        ∀ between reader rest, later = between ++ reader :: rest →
                          link.Lasts (Visit.actions settings.decodesParameters between) →
                            link.IsReadBy reader.request → reader.IsShown document := by
  obtain ⟨patterns, routes⟩ := Patterns.exists_areRoutes
  obtain ⟨visits, visited, same⟩ := routes.exists_visits? settings enough requests .empty
  refine ⟨_, visits, routes.dispatcher_eq, visited, same, ?_⟩
  rintro earlier creation later created rfl post outcome status
  obtain ⟨last, course⟩ := exists_course_of_visits? visited
  obtain ⟨_, before, after⟩ := course.exists_of_append
  have whole := routes.whole_of_course before Store.whole_empty
  cases after with
  | step dispatched further =>
      cases routes.does whole dispatched with
      | nothing _ _ reads =>
          have reading := reads created outcome
          rw [post] at reading
          exact absurd reading (by decide)
      | something _ same effect =>
          obtain rfl := Except.ok.inj (same.symm.trans outcome)
          rw [Dispatch.status_labelled] at status
          obtain ⟨link, document, rfl, shows'⟩ := effect.exists_link whole status
          refine ⟨link, document, ?_, Dispatch.entity_labelled .., ?_⟩
          · rw [Dispatch.get?_labelled (by decide)]
            exact Headers.get?_insert ..
          · rintro between reader rest rfl lasts reads
            obtain ⟨_, passed, arrived⟩ := further.exists_of_append
            have wholeThen := effect.whole whole
            cases arrived with
            | step dispatchedThen _ =>
                exact routes.isShown_of_shown? enough
                  (routes.whole_of_course passed wholeThen)
                  (routes.shown?_of_course passed wholeThen shows' lasts) reads dispatchedThen

/-- A request that adds a book. -/
def addingEmma : Request where
  method := .post
  path := "/books".toList
  headers := Headers.empty.insert Headers.contentType "application/json".toList
  body := "\x7b\"title\":\"Emma\",\"author\":\"Austen\"\x7d".toUTF8.toList

/-- A request that adds a review of the first book. -/
def reviewingEmma : Request where
  method := .post
  path := "/books/1/reviews".toList
  headers := Headers.empty.insert Headers.contentType "application/json".toList
  body := "\x7b\"rating\":5,\"text\":\"Clever\"\x7d".toUTF8.toList

/-- The reply that the first book has been added. -/
def firstAdded : Reply where
  status := 201
  location := some "/books/1".toList
  content := "\x7b\"author\":\"Austen\",\"id\":1,\"title\":\"Emma\"\x7d".toUTF8.toList

/-- The reply that the first review of the first book has been added. -/
def firstReviewed : Reply where
  status := 201
  location := some "/books/1/reviews/1".toList
  content := "\x7b\"id\":1,\"rating\":5,\"text\":\"Clever\"\x7d".toUTF8.toList

/-- A request that reads a path. -/
def readingAt (path : Text) : Request where
  method := .get
  path := path

/-- A book and its review are shown where they are linked to, each after another visit. -/
theorem exists_visits_linking_emma :
    0 < 1 ∧ ∃ (dispatcher : Dispatcher Store) (adding reviewing reader critic : Visit)
        (book review : Json),
      Bookstore.dispatcher {} = .ok dispatcher ∧
        visits? dispatcher 1
            [addingEmma, reviewingEmma, readingAt "/books/1".toList,
              readingAt "/books/1/reviews/1".toList] .empty =
          some [adding, reviewing, reader, critic] ∧
          adding.reply? = some firstAdded ∧ reviewing.reply? = some firstReviewed ∧
            (Entity.json book).toBytes = firstAdded.content ∧
              (Entity.json review).toBytes = firstReviewed.content ∧
                (Link.book 1).IsReadBy reader.request ∧ reader.IsShown book ∧
                  (Link.review 1 1).IsReadBy critic.request ∧ critic.IsShown review := by
  refine ⟨by decide, ?_⟩
  obtain ⟨dispatcher, visits, registered, visited, same, linking⟩ :=
    exists_visits_linking {} (show 0 < 1 by decide)
      [addingEmma, reviewingEmma, readingAt "/books/1".toList,
        readingAt "/books/1/reviews/1".toList]
  have replies : (visits.take 2).map Visit.reply? = [some firstAdded, some firstReviewed] :=
    @view_eq_of_visits? _ (fun visits => (visits.take 2).map Visit.reply?) _ _ _ _ _ _ registered
      visited (by decide +kernel)
  have actions : visits.map (Visit.action? true) =
      [some (.add "Emma".toList "Austen".toList), some (.review 1 5 "Clever".toList), none, none] :=
    @view_eq_of_visits? _ (·.map (Visit.action? true)) _ _ _ _ _ _ registered visited
      (by decide +kernel)
  obtain ⟨adding, _, rfl, addingAsked, same⟩ := List.map_eq_cons_iff.mp same
  obtain ⟨reviewing, _, rfl, reviewingAsked, same⟩ := List.map_eq_cons_iff.mp same
  obtain ⟨reader, _, rfl, readerAsked, same⟩ := List.map_eq_cons_iff.mp same
  obtain ⟨critic, _, rfl, criticAsked, same⟩ := List.map_eq_cons_iff.mp same
  obtain rfl := List.map_eq_nil_iff.mp same
  simp only [List.take_succ_cons, List.take_zero, List.map_cons, List.map_nil, List.cons.injEq,
    and_true] at replies actions
  obtain ⟨added, reviewed⟩ := replies
  obtain ⟨_, reviewAction, readAction, _⟩ := actions
  have linked : ∀ {earlier later : List Visit} {creation : Visit} {link : Link} {reply : Reply},
      [adding, reviewing, reader, critic] = earlier ++ creation :: later →
        creation.request.method = .post → creation.reply? = some reply → reply.status = 201 →
          reply.location = some link.path →
            ∃ document, (Entity.json document).toBytes = reply.content ∧
              ∀ between reader rest, later = between ++ reader :: rest →
                link.Lasts (Visit.actions true between) → link.IsReadBy reader.request →
                  reader.IsShown document := by
    intro earlier later creation link reply parted post seen status location
    obtain ⟨created, outcome, sameStatus, located, content⟩ := Visit.exists_response_of_reply? seen
    obtain ⟨other, document, path, entity, shown⟩ :=
      linking earlier creation later created parted post outcome (sameStatus.trans status)
    obtain rfl : other = link :=
      Link.path_injective (Option.some.inj (path.symm.trans (located.trans location)))
    rw [entity] at content
    exact ⟨document, content, shown⟩
  obtain ⟨book, bookContent, bookShown⟩ := @linked [] _ adding (.book 1) _ rfl
    (by rw [addingAsked]; rfl) added rfl (by decide +kernel)
  obtain ⟨review, reviewContent, reviewShown⟩ := @linked [adding] _ reviewing (.review 1 1) _ rfl
    (by rw [reviewingAsked]; rfl) reviewed rfl (by decide +kernel)
  have bookRead : (Link.book 1).IsReadBy reader.request := by
    rw [readerAsked]
    exact ⟨rfl, by decide, by decide, ⟨none, by decide⟩, fun _ _ other => by cases other⟩
  have reviewRead : (Link.review 1 1).IsReadBy critic.request := by
    rw [criticAsked]
    refine ⟨rfl, by decide, by decide, ⟨none, by decide⟩, fun _ number same => ?_⟩
    obtain ⟨_, rfl⟩ := Link.review.inj same
    decide
  -- neither the review nor reading the book takes away what is linked to
  have bookLasts : (Link.book 1).Lasts (Visit.actions true [reviewing]) := by
    rw [Visit.actions_cons, reviewAction]
    exact ⟨by simp [Visit.actions, Link.IsLostBy], fun _ _ => by decide⟩
  have reviewLasts : (Link.review 1 1).Lasts (Visit.actions true [reader]) := by
    rw [Visit.actions_cons, readAction]
    exact ⟨by simp [Visit.actions], fun _ _ => by decide⟩
  exact ⟨dispatcher, adding, reviewing, reader, critic, book, review, registered, visited, added,
    reviewed, bookContent, reviewContent, bookRead,
    bookShown [reviewing] reader [critic] rfl bookLasts bookRead, reviewRead,
    reviewShown [reader] critic [] rfl reviewLasts reviewRead⟩

end Bookstore
end ResourceRouting
