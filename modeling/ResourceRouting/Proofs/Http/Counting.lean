import Mathlib.Algebra.BigOperators.Group.List.Lemmas
import Mathlib.Algebra.GroupWithZero.Nat
import ResourceRouting.Http.Service
import ResourceRouting.Proofs.Distinct
import ResourceRouting.Proofs.Resolution.Target

/-!
# What is counted

Every request that is answered is counted once, under its method and the status that is sent.  It is
counted as unmatched only if its entity could be read and its path led to no resource; what a
handler says makes no difference.
-/

namespace ResourceRouting

variable {σ : Type}

namespace Counters

/-- How many requests were answered with a status: the sum over the labels with the status. -/
def withStatus (counters : Counters) (status : Nat) : Nat :=
  ((counters.answered.eraseDups.filter (·.status = status)).map counters.requests).sum

/-- The sum over the labels with a status counts the requests that were answered with it. -/
theorem withStatus_eq_countP (counters : Counters) (status : Nat) :
    counters.withStatus status = counters.answered.countP (·.status = status) := by
  have sameLabels : counters.answered.eraseDups.Perm counters.answered.dedup :=
    (List.perm_ext_iff_of_nodup (Distinct.nodup_eraseDups _) (List.nodup_dedup _)).mpr fun label =>
      by rw [List.mem_eraseDups, List.mem_dedup]
  calc
    counters.withStatus status =
        ((counters.answered.dedup.filter (·.status = status)).map counters.requests).sum :=
      ((sameLabels.filter _).map _).sum_eq
    _ = counters.answered.countP (·.status = status) :=
      List.sum_map_count_dedup_filter_eq_countP _ _

theorem withStatus_countRequest (counters : Counters) (label : RequestLabel) (status : Nat) :
    (counters.countRequest label).withStatus status =
      counters.withStatus status + if label.status = status then 1 else 0 := by
  simp only [withStatus_eq_countP, countRequest, List.countP_append, List.countP_singleton,
    decide_eq_true_eq]

end Counters

namespace Service

/-- Whether the entity of a request can be read and its path leads to no resource. -/
def leadsNowhere (dispatcher : Dispatcher σ) (limit : Nat) (wire : WireRequest) (state : σ) :
    Bool :=
  match wire.read dispatcher.settings.entityLimit with
  | .error _ => false
  | .ok request =>
      match Resolution.resolve? dispatcher.resources dispatcher.directory
          dispatcher.settings.decodesParameters state limit request with
      | some (_, .error error) => error.isNotFound
      | _ => false

theorem answered_countPath (counters : Counters) (unmatched : Bool) :
    (countPath counters unmatched).answered = counters.answered := by
  cases unmatched <;> rfl

theorem unmatched_countPath (counters : Counters) (unmatched : Bool) :
    (countPath counters unmatched).unmatched =
      counters.unmatched + if unmatched then 1 else 0 := by
  cases unmatched <;> rfl

/-- How the handling of a request ends. -/
inductive Ends (dispatcher : Dispatcher σ) (limit : Nat) (wire : WireRequest) (state : σ) :
    Handled σ → Prop
  /-- The entity cannot be read. -/
  | unread {error : DispatchError}
      (reading : wire.read dispatcher.settings.entityLimit = .error error) :
      Ends dispatcher limit wire state ⟨.error error, state, false⟩
  /-- The path leads to no resource, or a path parameter cannot be bound. -/
  | unresolved {request bound : Request} {error : DispatchError}
      (reading : wire.read dispatcher.settings.entityLimit = .ok request)
      (resolved : Resolution.resolve? dispatcher.resources dispatcher.directory
        dispatcher.settings.decodesParameters state limit request = some (bound, .error error)) :
      Ends dispatcher limit wire state ⟨.error error, state, error.isNotFound⟩
  /-- The path leads to a resource, whose operations decide. -/
  | reached {request bound : Request} {target : Target σ}
      (reading : wire.read dispatcher.settings.entityLimit = .ok request)
      (resolved : Resolution.resolve? dispatcher.resources dispatcher.directory
        dispatcher.settings.decodesParameters state limit request = some (bound, .ok target)) :
      Ends dispatcher limit wire state
        ⟨(Dispatch.run dispatcher.settings target bound state).1,
          (Dispatch.run dispatcher.settings target bound state).2, false⟩

section Ends

variable {dispatcher : Dispatcher σ} {limit : Nat} {wire : WireRequest} {state : σ}
  {handled : Handled σ}

theorem ends_of_handle? (result : handle? dispatcher limit wire state = some handled) :
    Ends dispatcher limit wire state handled := by
  rw [handle?] at result
  cases reading : wire.read dispatcher.settings.entityLimit with
  | error error =>
      rw [reading] at result
      cases result
      exact .unread reading
  | ok request =>
      rw [reading] at result
      obtain ⟨dispatched, dispatches, rfl⟩ := Option.map_eq_some_iff.mp result
      rw [Dispatcher.dispatch?, Option.map_eq_some_iff] at dispatches
      obtain ⟨⟨bound, resolved⟩, resolves, rfl⟩ := dispatches
      cases resolved with
      | error error => exact .unresolved reading resolves
      | ok target => exact .reached reading resolves

/-- A request is handled as unmatched exactly if it leads nowhere. -/
theorem Ends.unmatched_eq (ends : Ends dispatcher limit wire state handled) :
    handled.unmatched = leadsNowhere dispatcher limit wire state := by
  rw [leadsNowhere]
  cases ends with
  | unread reading => rw [reading]
  | unresolved reading resolved =>
      rw [reading]
      simp only [resolved]
  | reached reading resolved =>
      rw [reading]
      simp only [resolved]

/-- An unmatched request is refused as not found. -/
theorem Ends.status_of_unmatched
    (ends : Ends dispatcher limit wire state handled)
    (unmatched : handled.unmatched = true) :
    (WireResponse.ofOutcome handled.outcome).status = 404 := by
  cases ends with
  | unread reading => cases unmatched
  | @unresolved _ _ error reading resolved =>
      cases error with
      | notFound path => rfl
      | _ => cases unmatched
  | reached reading resolved => cases unmatched

end Ends

/-- What an answered request is counted as. -/
theorem counters_of_answer?
    {dispatcher : Dispatcher σ}
    {limit : Nat}
    {wire : WireRequest}
    {state : σ}
    {counters : Counters}
    {served : Served σ}
    (result : answer? dispatcher limit wire state counters = some served) :
    served.counters =
        (countPath counters (leadsNowhere dispatcher limit wire state)).countRequest
          ⟨wire.method, served.response.status⟩ ∧
      (leadsNowhere dispatcher limit wire state = true → served.response.status = 404) := by
  rw [answer?, Option.map_eq_some_iff] at result
  obtain ⟨handled, handles, rfl⟩ := result
  have ends := ends_of_handle? handles
  have status : (if wire.method = .head then (WireResponse.ofOutcome handled.outcome).withoutBody
      else WireResponse.ofOutcome handled.outcome).status =
        (WireResponse.ofOutcome handled.outcome).status := by
    split <;> rfl
  rw [← ends.unmatched_eq]
  dsimp only
  rw [status]
  exact ⟨rfl, ends.status_of_unmatched⟩

/-- A request that arrives where it is dispatched, and how many locators are followed for it. -/
structure Arrival (σ : Type) where
  /-- What dispatches the request. -/
  dispatcher : Dispatcher σ
  /-- How many locators are followed. -/
  limit : Nat
  /-- The request. -/
  wire : WireRequest

/-- A request that has been answered. -/
structure Answered (σ : Type) where
  /-- The request, with what dispatches it. -/
  arrival : Arrival σ
  /-- The state of the handlers that it found. -/
  before : σ
  /-- What has become of it. -/
  served : Served σ

/-- Answers requests one after the other, unless one of them would have no answer. -/
def answerAll? : List (Arrival σ) → σ → Counters → Option (List (Answered σ))
  | [], _, _ => some []
  | arrival :: arrivals, state, counters =>
      (answer? arrival.dispatcher arrival.limit arrival.wire state counters).bind fun served =>
        (answerAll? arrivals served.state served.counters).map (⟨arrival, state, served⟩ :: ·)

/-- The counters after some requests. -/
def countersAfter (counters : Counters) (answered : List (Answered σ)) : Counters :=
  answered.foldl (fun _ one => one.served.counters) counters

namespace Answered

/-- The method of a request with the status that was sent. -/
def label (one : Answered σ) : RequestLabel :=
  ⟨one.arrival.wire.method, one.served.response.status⟩

/-- Whether the entity of a request could be read and its path led to no resource. -/
def ledNowhere (one : Answered σ) : Bool :=
  leadsNowhere one.arrival.dispatcher one.arrival.limit one.arrival.wire one.before

/-- The path of a request led to a resource, whose operations or their absence decided. -/
def LedSomewhere (one : Answered σ) : Prop :=
  ∃ request bound target,
    one.arrival.wire.read one.arrival.dispatcher.settings.entityLimit = .ok request ∧
      Resolution.resolve? one.arrival.dispatcher.resources one.arrival.dispatcher.directory
        one.arrival.dispatcher.settings.decodesParameters one.before one.arrival.limit request =
          some (bound, .ok target)

theorem ledNowhere_of_ledSomewhere {one : Answered σ} (somewhere : one.LedSomewhere) :
    one.ledNowhere = false := by
  obtain ⟨request, bound, target, reading, resolved⟩ := somewhere
  rw [ledNowhere, leadsNowhere, reading]
  simp only [resolved]

end Answered

/-- The counters before and after some requests account for all of them. -/
structure Accounts (before : Counters) (answered : List (Answered σ)) (after : Counters) :
    Prop where
  /-- Each request is counted once. -/
  total : after.total = before.total + answered.length
  /-- Each request is counted under its method and the status that was sent. -/
  requests : ∀ label,
    after.requests label = before.requests label + answered.countP (·.label = label)
  /-- The requests that led nowhere are counted as unmatched, and no others. -/
  unmatched : after.unmatched = before.unmatched + answered.countP Answered.ledNowhere
  /-- A request that led nowhere was answered as not found. -/
  notFound : ∀ one ∈ answered, one.ledNowhere = true → one.label.status = 404
  /-- A request that led to a resource did not lead nowhere, whatever it was answered. -/
  somewhere : ∀ one ∈ answered, one.LedSomewhere → one.ledNowhere = false
  /-- The unmatched requests are among those that were answered as not found. -/
  bounded : before.unmatched ≤ before.withStatus 404 → after.unmatched ≤ after.withStatus 404

/-- Nothing is accounted for before the first request. -/
theorem Accounts.nil (counters : Counters) : Accounts (σ := σ) counters [] counters where
  total := rfl
  requests _ := rfl
  unmatched := rfl
  notFound _ member := absurd member List.not_mem_nil
  somewhere _ member := absurd member List.not_mem_nil
  bounded := id

/-- One request more is accounted for. -/
theorem Accounts.cons
    {one : Answered σ}
    {others : List (Answered σ)}
    {before after : Counters}
    (counted : one.served.counters = (countPath before one.ledNowhere).countRequest one.label)
    (notFound : one.ledNowhere = true → one.label.status = 404)
    (further : Accounts one.served.counters others after) :
    Accounts before (one :: others) after where
  total := by
    rw [further.total, counted, Counters.total, Counters.countRequest, List.length_append,
      answered_countPath, List.length_singleton, List.length_cons, Counters.total]
    omega
  requests label := by
    rw [further.requests, counted, Counters.requests_countRequest, Counters.requests,
      answered_countPath, List.countP_cons, Counters.requests]
    simp only [decide_eq_true_eq]
    omega
  unmatched := by
    rw [further.unmatched, counted, Counters.unmatched_countRequest, unmatched_countPath,
      List.countP_cons]
    omega
  notFound other member nowhere := by
    rcases List.mem_cons.mp member with rfl | later
    · exact notFound nowhere
    · exact further.notFound other later nowhere
  somewhere _ _ := Answered.ledNowhere_of_ledSomewhere
  bounded bounded := by
    refine further.bounded ?_
    have sameStatus : (countPath before one.ledNowhere).withStatus 404 = before.withStatus 404 := by
      rw [Counters.withStatus_eq_countP, answered_countPath, Counters.withStatus_eq_countP]
    rw [counted, Counters.unmatched_countRequest, unmatched_countPath,
      Counters.withStatus_countRequest, sameStatus]
    cases nowhere : one.ledNowhere with
    | false =>
        simp only [Bool.false_eq_true, if_false]
        omega
    | true =>
        rw [if_pos rfl, if_pos (notFound nowhere)]
        omega

/--
At every point of a run of requests the counters account for the requests that were answered so far.
-/
theorem accounts_of_answerAll?
    {arrivals : List (Arrival σ)}
    {state : σ}
    {counters : Counters}
    {answered : List (Answered σ)}
    (result : answerAll? arrivals state counters = some answered) :
    answered.map Answered.arrival = arrivals ∧
      ∀ earlier later, answered = earlier ++ later →
        Accounts counters earlier (countersAfter counters earlier) := by
  induction arrivals generalizing state counters answered with
  | nil =>
      cases result
      refine ⟨rfl, fun earlier later parted => ?_⟩
      obtain ⟨rfl, rfl⟩ := List.append_eq_nil_iff.mp parted.symm
      exact .nil counters
  | cons arrival arrivals ih =>
      obtain ⟨served, answers, others⟩ := Option.bind_eq_some_iff.mp result
      obtain ⟨further, answeredThen, rfl⟩ := Option.map_eq_some_iff.mp others
      obtain ⟨same, accounts⟩ := ih answeredThen
      obtain ⟨counted, notFound⟩ := counters_of_answer? answers
      refine ⟨by rw [List.map_cons, same], fun earlier later parted => ?_⟩
      cases earlier with
      | nil => exact .nil counters
      | cons one earlier =>
          rw [List.cons_append] at parted
          obtain ⟨rfl, rfl⟩ := List.cons.inj parted
          exact .cons counted notFound (accounts earlier later rfl)

/-- An operation that finds nothing to answer with. -/
def findingNothing : Operation Unit where
  method := .get
  handler request state := (.error (.notFound request.path), state)

/-- A request with a byte in its entity. -/
def oneByteRequest : WireRequest where
  method := .get
  target := ⟨"/a".toList, none⟩
  headers := {}
  inflow := .whole [0]

/--
Three requests that are refused: one whose path leads nowhere, one by a handler that finds nothing,
and one whose entity is too large.
-/
def refusals (resource : Resource Unit) : List (Arrival Unit) :=
  [⟨⟨[], fun _ => none, {}⟩, 0, oneByteRequest⟩,
    ⟨⟨[resource], fun _ => none, {}⟩, 0, oneByteRequest⟩,
    ⟨⟨[resource], fun _ => none, { entityLimit := 0 }⟩, 0, oneByteRequest⟩]

/-- Two of the requests are counted as not found, and one of these as unmatched. -/
theorem accounts_of_refusals :
    ∃ (resource : Resource Unit) (answered : List (Answered Unit)),
      resource.IsDeclared ∧
        answerAll? (refusals resource) () .zero = some answered ∧
        Accounts .zero answered (countersAfter .zero answered) ∧
        answered.map Answered.label = [⟨.get, 404⟩, ⟨.get, 404⟩, ⟨.get, 413⟩] ∧
        (countersAfter .zero answered).unmatched = 1 := by
  have matched : (Uri.Pattern.compile "/a".toList).toOption.bind (·.match? "/a".toList) =
      some ⟨[], none⟩ := by decide +kernel
  obtain ⟨resource, declared, resolves⟩ :=
    Resolution.exists_resolve?_of_match? matched (List.cons_ne_nil findingNothing []) rfl
  have first : handle? (σ := Unit) ⟨[], fun _ => none, {}⟩ 0 oneByteRequest () =
      some ⟨.error (.notFound "/a".toList), (), true⟩ := rfl
  have second : handle? ⟨[resource], fun _ => none, {}⟩ 0 oneByteRequest () =
      some ⟨.error (.notFound "/a".toList), (), false⟩ := by
    have reading : oneByteRequest.read ({} : DispatchSettings).entityLimit =
        .ok { method := .get, path := "/a".toList, body := [0] } := rfl
    rw [handle?, reading]
    simp only [Dispatcher.dispatch?]
    rw [resolves _ _ _ _ _ rfl]
    rfl
  have third : handle? ⟨[resource], fun _ => none, { entityLimit := 0 }⟩ 0 oneByteRequest () =
      some ⟨.error (.entityTooLarge 0), (), false⟩ := rfl
  obtain ⟨answered, answers, labels, unmatched⟩ :
      ∃ answered, answerAll? (refusals resource) () .zero = some answered ∧
        answered.map Answered.label = [⟨.get, 404⟩, ⟨.get, 404⟩, ⟨.get, 413⟩] ∧
        (countersAfter .zero answered).unmatched = 1 := by
    simp only [refusals, answerAll?, answer?, first, second, third, Option.map_some,
      Option.bind_some]
    exact ⟨_, rfl, rfl, rfl⟩
  have accounts := (accounts_of_answerAll? answers).2 answered [] (List.append_nil _).symm
  exact ⟨resource, answered, declared, answers, accounts, labels, unmatched⟩

end Service
end ResourceRouting
