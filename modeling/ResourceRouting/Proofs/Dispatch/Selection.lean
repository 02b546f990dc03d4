import ResourceRouting.Dispatch
import ResourceRouting.Proofs.Dispatch.Negotiation
import ResourceRouting.Proofs.MediaType.Accept

/-!
# The selection of an operation

For what an operation is selected or an error is reported, in the order in which it is decided:
the method, the media type of the entity, and the media ranges that the client accepts.
-/

namespace ResourceRouting
namespace Dispatch

open Negotiation

variable {σ : Type}

/--
An operation serves a method: it is one of that method, or one for `GET` in place of `HEAD` if the
fallback is on and there is no operation for `HEAD`.
-/
def Serves
    (settings : DispatchSettings)
    (operations : List (Operation σ))
    (method : Method)
    (operation : Operation σ) : Prop :=
  operation ∈ operations ∧
    (operation.method = method ∨
      method = .head ∧ settings.headFallback = true ∧
        (∀ other ∈ operations, other.method ≠ .head) ∧ operation.method = .get)

/-- An operation serves the method of a request and reads entities of a media type. -/
def Takes
    (settings : DispatchSettings)
    (operations : List (Operation σ))
    (method : Method)
    (media : MediaType)
    (operation : Operation σ) : Prop :=
  Serves settings operations method operation ∧
    (operation.consumes = [] ∨
      ∃ consumed ∈ operation.consumes, consumed.isCompatible media = true)

/-- The operations of a method are those of some that serve it, in order. -/
theorem exists_filter_forMethod
    (settings : DispatchSettings)
    (operations : List (Operation σ))
    (method : Method) :
    ∃ serves : Operation σ → Bool,
      forMethod settings operations method = operations.filter serves ∧
        ∀ operation ∈ operations,
          serves operation = true ↔ Serves settings operations method operation := by
  have unserved : (withMethod operations method).isEmpty = true ↔
      ∀ other ∈ operations, other.method ≠ method := by
    simp [withMethod]
  by_cases fallback : (withMethod operations method).isEmpty = true ∧ method = .head ∧
      settings.headFallback = true
  · obtain ⟨none, rfl, on⟩ := fallback
    have others := unserved.mp none
    refine ⟨fun operation => operation.method = .get, ?_, ?_⟩
    · simp only [forMethod, Bool.and_eq_true, decide_eq_true_eq]
      rw [if_pos ⟨⟨none, trivial⟩, on⟩]
      rfl
    · intro operation present
      simp only [Serves, present, true_and, decide_eq_true_eq]
      constructor
      · exact fun get => .inr ⟨on, others, get⟩
      · rintro (own | ⟨_, _, get⟩)
        · exact absurd own (others operation present)
        · exact get
  · refine ⟨fun operation => operation.method = method, ?_, ?_⟩
    · simp only [forMethod, Bool.and_eq_true, decide_eq_true_eq]
      rw [if_neg (by rwa [and_assoc])]
      rfl
    · intro operation present
      simp only [Serves, present, true_and, decide_eq_true_eq]
      constructor
      · exact .inl
      · rintro (own | ⟨rfl, on, others, _⟩)
        · exact own
        · exact absurd ⟨unserved.mpr others, rfl, on⟩ fallback

theorem mem_forMethod_iff
    {settings : DispatchSettings}
    {operations : List (Operation σ)}
    {method : Method}
    {operation : Operation σ} :
    operation ∈ forMethod settings operations method ↔
      Serves settings operations method operation := by
  obtain ⟨serves, filtered, servesIff⟩ := exists_filter_forMethod settings operations method
  rw [filtered, List.mem_filter]
  constructor
  · rintro ⟨present, serving⟩
    exact (servesIff operation present).mp serving
  · intro serving
    exact ⟨serving.1, (servesIff operation serving.1).mpr serving⟩

theorem reads_iff {media : MediaType} {operation : Operation σ} :
    reads media operation = true ↔
      operation.consumes = [] ∨
        ∃ consumed ∈ operation.consumes, consumed.isCompatible media = true := by
  simp [reads]

theorem isEmpty_forMethod_iff
    {settings : DispatchSettings}
    {operations : List (Operation σ)}
    {method : Method} :
    (forMethod settings operations method).isEmpty = true ↔
      ∀ operation, ¬Serves settings operations method operation := by
  rw [List.isEmpty_iff, List.eq_nil_iff_forall_not_mem]
  simp only [mem_forMethod_iff]

theorem isEmpty_forMethod_of_serves
    {settings : DispatchSettings}
    {operations : List (Operation σ)}
    {method : Method}
    {operation : Operation σ}
    (served : Serves settings operations method operation) :
    (forMethod settings operations method).isEmpty = false := by
  rw [← Bool.not_eq_true, isEmpty_forMethod_iff]
  exact fun unserved => unserved operation served

/-- The operations that remain are those that take the request. -/
theorem mem_filter_reads_iff
    {settings : DispatchSettings}
    {operations : List (Operation σ)}
    {method : Method}
    {media : MediaType}
    {operation : Operation σ} :
    operation ∈ (forMethod settings operations method).filter (reads media) ↔
      Takes settings operations method media operation := by
  rw [List.mem_filter, mem_forMethod_iff, reads_iff, Takes]

theorem isEmpty_filter_reads_iff
    {settings : DispatchSettings}
    {operations : List (Operation σ)}
    {method : Method}
    {media : MediaType} :
    ((forMethod settings operations method).filter (reads media)).isEmpty = true ↔
      ∀ operation, ¬Takes settings operations method media operation := by
  rw [List.isEmpty_iff, List.eq_nil_iff_forall_not_mem]
  simp only [mem_filter_reads_iff]

theorem isEmpty_filter_reads_of_takes
    {settings : DispatchSettings}
    {operations : List (Operation σ)}
    {method : Method}
    {media : MediaType}
    {operation : Operation σ}
    (taken : Takes settings operations method media operation) :
    ((forMethod settings operations method).filter (reads media)).isEmpty = false := by
  rw [← Bool.not_eq_true, isEmpty_filter_reads_iff]
  exact fun untaken => untaken operation taken

/-- No operation is acceptable exactly if none of them writes what the client accepts. -/
theorem mostAcceptable_eq_none_iff
    {accepted : List MediaType}
    {operations : List (Operation σ)} :
    mostAcceptable accepted operations = none ↔
      ∀ operation ∈ operations, ∀ range ∈ accepted,
        ∀ media ∈ Operation.orWildcard operation.produces, media.isCompatible range = false := by
  rw [mostAcceptable, Choice.firstBest_eq_none_iff, acceptable, List.filterMap_eq_nil_iff]
  simp only [Option.map_eq_none_iff, negotiate_eq_none_iff]

/--
A selection is the best one of some operations: its pair is the first of the best pairs of its
operation, no pair of an operation outranks it, and it outranks all pairs of the operations before.
-/
structure IsBest
    (operations : List (Operation σ))
    (takes : Operation σ → Prop)
    (accepted : List MediaType)
    (selection : Selection σ) : Prop where
  /-- The operation is one of those that are considered. -/
  taken : takes selection.operation
  /-- The pair is the first of the best ones of the operation. -/
  negotiated : IsFirstPair selection.operation.produces accepted selection.pairing
  /-- No pair of an operation is better, and none of those declared before is as good. -/
  first :
    ∃ earlier later,
      operations = earlier ++ selection.operation :: later ∧
        (∀ other ∈ operations, takes other →
          ∀ pairing, IsPair other.produces accepted pairing →
            ¬Outranks pairing selection.pairing) ∧
        ∀ other ∈ earlier, takes other →
          ∀ pairing, IsPair other.produces accepted pairing → Outranks selection.pairing pairing

/-- Whether the pair of a selection is better than that of another one. -/
def betterSelection (next held : Selection σ) : Bool :=
  betterPairing next.pairing held.pairing

instance : Std.TransCmp fun first second : Selection σ =>
    Score.worse first.pairing.score second.pairing.score where
  eq_swap := Std.OrientedCmp.eq_swap
  isLE_trans := Std.TransCmp.isLE_trans

theorem betterSelection_iff (first second : Selection σ) :
    betterSelection first second = true ↔
      Score.worse first.pairing.score second.pairing.score = .lt :=
  Score.exceeds_iff

/-- The selection that an operation stands for, if it is kept and writes what is accepted. -/
def selection?
    (keeps : Operation σ → Bool)
    (accepted : List MediaType)
    (operation : Operation σ) :
    Option (Selection σ) :=
  if keeps operation then (negotiate operation.produces accepted).map (⟨operation, ·⟩) else none

theorem selection?_eq_some_iff
    {keeps : Operation σ → Bool}
    {accepted : List MediaType}
    {operation : Operation σ}
    {selection : Selection σ} :
    selection? keeps accepted operation = some selection ↔
      selection.operation = operation ∧ keeps operation = true ∧
        negotiate operation.produces accepted = some selection.pairing := by
  obtain ⟨chosen, pairing⟩ := selection
  unfold selection?
  split
  · rename_i kept
    simp only [Option.map_eq_some_iff, Selection.mk.injEq, kept, true_and]
    constructor
    · rintro ⟨_, found, rfl, rfl⟩
      exact ⟨rfl, found⟩
    · rintro ⟨rfl, found⟩
      exact ⟨_, found, rfl, rfl⟩
  · rename_i dropped
    simp [dropped]

theorem mostAcceptable_filter
    (keeps : Operation σ → Bool)
    (accepted : List MediaType)
    (operations : List (Operation σ)) :
    mostAcceptable accepted (operations.filter keeps) =
      Choice.firstBest betterSelection (operations.filterMap (selection? keeps accepted)) := by
  rw [mostAcceptable, acceptable, List.filterMap_filter]
  rfl

/-- What is selected among the operations that are taken is the best selection. -/
theorem mostAcceptable_eq_some_iff
    {operations : List (Operation σ)}
    {takes : Operation σ → Prop}
    {keeps : Operation σ → Bool}
    (agree : ∀ operation ∈ operations, keeps operation = true ↔ takes operation)
    {accepted : List MediaType}
    {selection : Selection σ} :
    mostAcceptable accepted (operations.filter keeps) = some selection ↔
      IsBest operations takes accepted selection := by
  rw [mostAcceptable_filter, Choice.firstBest_eq_some_iff betterSelection_iff,
    Choice.isFirstBest_filterMap_iff]
  constructor
  · rintro ⟨earlier, operation, later, parted, found, least, leads⟩
    obtain ⟨rfl, kept, negotiated⟩ := selection?_eq_some_iff.mp found
    -- An operation that is taken stands for a selection, which is as good as all of its pairs.
    have entry : ∀ other ∈ operations, takes other →
        ∀ pairing, IsPair other.produces accepted pairing →
          ∃ best, selection? keeps accepted other = some ⟨other, best⟩ ∧
            betterPairing pairing best = false := by
      intro other present taken pairing isPair
      obtain ⟨best, found, notBetter⟩ := exists_negotiate_of_isPair isPair
      exact ⟨best, selection?_eq_some_iff.mpr ⟨rfl, (agree other present).mpr taken, found⟩,
        notBetter⟩
    refine ⟨(agree _ (by simp [parted])).mp kept, negotiate_eq_some_iff.mp negotiated,
      earlier, later, parted, ?_, ?_⟩
    · intro other present taken pairing isPair
      obtain ⟨best, found, notBetter⟩ := entry other present taken pairing isPair
      have selected := least other present _ found
      rw [betterSelection] at selected
      exact betterPairing_eq_false_iff.mp
        (Choice.not_better_trans betterPairing_iff notBetter selected)
    · intro other before taken pairing isPair
      have present : other ∈ operations := parted ▸ List.mem_append_left _ before
      obtain ⟨best, found, notBetter⟩ := entry other present taken pairing isPair
      have selected := leads other before _ found
      rw [betterSelection] at selected
      exact betterPairing_iff_outranks.mp
        (Choice.better_of_better_of_not betterPairing_iff selected notBetter)
  · rintro ⟨taken, negotiated, earlier, later, parted, least, leads⟩
    -- The selection that an operation stands for has one of its pairs.
    have pair : ∀ other ∈ operations, ∀ entry,
        selection? keeps accepted other = some entry →
          takes other ∧ IsPair other.produces accepted entry.pairing := by
      intro other present entry found
      obtain ⟨_, kept, negotiated⟩ := selection?_eq_some_iff.mp found
      exact ⟨(agree other present).mp kept, (negotiate_eq_some_iff.mp negotiated).isPair⟩
    have present : selection.operation ∈ operations := by simp [parted]
    refine ⟨earlier, selection.operation, later, parted, ?_, ?_, ?_⟩
    · exact selection?_eq_some_iff.mpr
        ⟨rfl, (agree _ present).mpr taken, negotiate_eq_some_iff.mpr negotiated⟩
    · intro other inList entry found
      obtain ⟨otherTaken, isPair⟩ := pair other inList entry found
      exact betterPairing_eq_false_iff.mpr (least other inList otherTaken _ isPair)
    · intro other before entry found
      have inList : other ∈ operations := parted ▸ List.mem_append_left _ before
      obtain ⟨otherTaken, isPair⟩ := pair other inList entry found
      exact betterPairing_iff_outranks.mpr (leads other before otherTaken _ isPair)

/-- What is selected for a request whose headers are valid is the best selection. -/
theorem mostAcceptable_readers_iff
    {settings : DispatchSettings}
    {operations : List (Operation σ)}
    {method : Method}
    {media : MediaType}
    {accepted : List MediaType}
    {selection : Selection σ} :
    mostAcceptable accepted ((forMethod settings operations method).filter (reads media)) =
        some selection ↔
      IsBest operations (Takes settings operations method media) accepted selection := by
  obtain ⟨serves, filtered, servesIff⟩ := exists_filter_forMethod settings operations method
  rw [filtered, List.filter_filter]
  apply mostAcceptable_eq_some_iff
  intro operation present
  rw [Bool.and_eq_true, servesIff operation present, reads_iff, and_comm, Takes]

/-- What is decided by a selection: the operation that is run, and the media type of the answer. -/
def Selection.decision (selection : Selection σ) : Operation σ × Option MediaType :=
  (selection.operation, selection.pairing.mediaType?)

/--
How a request is decided.  The rows are in the order of the decisions: an operation has to serve
the method, then to read the entity, and then to write what the client accepts; a header that is
needed for a decision has to be valid.  In the end there is an operation with the media type that
is negotiated for it.
-/
inductive Decides
    (settings : DispatchSettings)
    (operations : List (Operation σ))
    (request : Request) :
    Except DispatchError (Option (Operation σ × Option MediaType)) → Prop
  /-- The allowed methods are listed if no operation serves `OPTIONS`. -/
  | automaticOptions
      (unserved : ∀ operation, ¬Serves settings operations request.method operation)
      (asked : request.method = .options)
      (automatic : settings.automaticOptions = true) :
      Decides settings operations request (.ok none)
  /-- No operation serves another method. -/
  | methodNotAllowed
      (unserved : ∀ operation, ¬Serves settings operations request.method operation)
      (unasked : request.method = .options → settings.automaticOptions = false) :
      Decides settings operations request
        (.error (.methodNotAllowed request.method (allowedMethods settings operations)))
  /-- The media type of the entity is none. -/
  | invalidContentType
      {operation : Operation σ}
      {error : MediaTypeError}
      (served : Serves settings operations request.method operation)
      (invalid : request.contentType = .error error) :
      Decides settings operations request (.error (.mediaType error))
  /-- No operation reads the entity, whose media type is open unless it is declared. -/
  | unsupportedMediaType
      {operation : Operation σ}
      {declared : Option MediaType}
      (served : Serves settings operations request.method operation)
      (valid : request.contentType = .ok declared)
      (untaken : ∀ other,
        ¬Takes settings operations request.method (declared.getD .wildcard) other) :
      Decides settings operations request
        (.error (.unsupportedMediaType (declared.getD .wildcard).essence))
  /-- An accepted range is none. -/
  | invalidAccept
      {operation : Operation σ}
      {declared : Option MediaType}
      {error : MediaTypeError}
      (valid : request.contentType = .ok declared)
      (taken : Takes settings operations request.method (declared.getD .wildcard) operation)
      (invalid : MediaType.accepted (request.headers.plain? Headers.accept) = .error error) :
      Decides settings operations request (.error (.mediaType error))
  /-- No operation writes what the client accepts. -/
  | notAcceptable
      {operation : Operation σ}
      {declared : Option MediaType}
      {accepted : List MediaType}
      (valid : request.contentType = .ok declared)
      (taken : Takes settings operations request.method (declared.getD .wildcard) operation)
      (listed : MediaType.accepted (request.headers.plain? Headers.accept) = .ok accepted)
      (foreign : ∀ other, Takes settings operations request.method (declared.getD .wildcard) other →
        ∀ range, MediaType.Accepts (request.headers.plain? Headers.accept) range →
          ∀ media ∈ Operation.orWildcard other.produces, media.isCompatible range = false) :
      Decides settings operations request (.error .notAcceptable)
  /-- The best of the operations that are left is selected, with what its best pair settles on. -/
  | selected
      {declared : Option MediaType}
      {accepted : List MediaType}
      {selection : Selection σ}
      {media : Option MediaType}
      (valid : request.contentType = .ok declared)
      (listed : MediaType.accepted (request.headers.plain? Headers.accept) = .ok accepted)
      (best : IsBest operations
        (Takes settings operations request.method (declared.getD .wildcard)) accepted selection)
      (settles : Settles selection.pairing media) :
      Decides settings operations request (.ok (some (selection.operation, media)))

/-- The selection for a request is what is decided. -/
theorem decides_select
    (settings : DispatchSettings)
    (operations : List (Operation σ))
    (request : Request) :
    Decides settings operations request
      ((select settings operations request).map (Option.map Selection.decision)) := by
  unfold select
  by_cases unserved : (forMethod settings operations request.method).isEmpty = true
  · have none := isEmpty_forMethod_iff.mp unserved
    simp only [unserved, if_true]
    split
    · rename_i automatic
      simp only [Bool.and_eq_true, decide_eq_true_eq] at automatic
      exact .automaticOptions none automatic.1 automatic.2
    · rename_i manual
      simp only [Bool.and_eq_true, decide_eq_true_eq, not_and, Bool.not_eq_true] at manual
      exact .methodNotAllowed none manual
  · simp only [unserved, Bool.false_eq_true, if_false]
    rw [isEmpty_forMethod_iff, not_forall_not] at unserved
    obtain ⟨operation, served⟩ := unserved
    split
    · rename_i invalid
      exact .invalidContentType served invalid
    · rename_i declared valid
      split
      · rename_i untaken
        exact .unsupportedMediaType served valid (isEmpty_filter_reads_iff.mp untaken)
      · rename_i taken
        rw [isEmpty_filter_reads_iff, not_forall_not] at taken
        obtain ⟨reader, taken⟩ := taken
        split
        · rename_i invalid
          exact .invalidAccept valid taken invalid
        · rename_i accepted listed
          split
          · rename_i foreign
            rw [mostAcceptable_eq_none_iff] at foreign
            refine .notAcceptable valid taken listed ?_
            intro other otherTaken range accepts
            exact foreign other (mem_filter_reads_iff.mpr otherTaken) range
              ((MediaType.mem_accepted_iff listed).mpr accepts)
          · rename_i selection found
            exact .selected valid listed (mostAcceptable_readers_iff.mp found)
              (mediaType?_eq_iff_settles.mp rfl)

/-- What is selected is the best selection for the media types that the headers list. -/
theorem isBest_of_select
    {settings : DispatchSettings}
    {operations : List (Operation σ)}
    {request : Request}
    {selection : Selection σ}
    (selected : select settings operations request = .ok (some selection)) :
    ∃ declared accepted, request.contentType = .ok declared ∧
      MediaType.accepted (request.headers.plain? Headers.accept) = .ok accepted ∧
      IsBest operations (Takes settings operations request.method (declared.getD .wildcard))
        accepted selection := by
  dsimp only [select] at selected
  split at selected
  · split at selected <;> cases selected
  · split at selected
    · cases selected
    · rename_i declared valid
      split at selected
      · cases selected
      · split at selected
        · cases selected
        · rename_i accepted listed
          split at selected
          · cases selected
          · rename_i found
            cases selected
            exact ⟨declared, accepted, valid, listed, mostAcceptable_readers_iff.mp found⟩

/-- No operation is selected, and no error is reported, only if the allowed methods are asked for. -/
theorem asked_of_select_eq_none
    {settings : DispatchSettings}
    {operations : List (Operation σ)}
    {request : Request}
    (automatic : select settings operations request = .ok none) :
    request.method = .options := by
  have decides := decides_select settings operations request
  rw [automatic] at decides
  cases decides with
  | automaticOptions _ asked _ => exact asked

/-- A selected operation is one of the target. -/
theorem mem_of_select
    {settings : DispatchSettings}
    {operations : List (Operation σ)}
    {request : Request}
    {selection : Selection σ}
    (selected : select settings operations request = .ok (some selection)) :
    selection.operation ∈ operations := by
  obtain ⟨_, _, _, _, best⟩ := isBest_of_select selected
  exact best.taken.1.1

/-- A request that no operation serves is refused, unless it asks for the allowed methods. -/
theorem select_eq_error_of_unserved
    {settings : DispatchSettings}
    {operations : List (Operation σ)}
    {request : Request}
    (unserved : ∀ operation, ¬Serves settings operations request.method operation)
    (unasked : request.method = .options → settings.automaticOptions = false) :
    select settings operations request =
      .error (.methodNotAllowed request.method (allowedMethods settings operations)) := by
  have closed : (request.method = .options && settings.automaticOptions) = false := by
    simpa using unasked
  simp only [select, isEmpty_forMethod_iff.mpr unserved, closed, if_true, Bool.false_eq_true,
    if_false]

/--
An operation is selected with a media type, or none, or an error is reported, exactly as it is
decided.  Of the operations that serve the method and read the entity, the first one that has a pair
which no pair outranks is selected, and the media type is what the first of these pairs settles on.
-/
theorem select_eq_iff_decides
    (settings : DispatchSettings)
    (operations : List (Operation σ))
    (request : Request)
    (result : Except DispatchError (Option (Operation σ × Option MediaType))) :
    (select settings operations request).map (Option.map Selection.decision) = result ↔
      Decides settings operations request result := by
  constructor
  · rintro rfl
    exact decides_select settings operations request
  · intro decides
    cases decides with
    | automaticOptions unserved asked automatic =>
        have open' : (request.method = .options && settings.automaticOptions) = true := by
          simp [asked, automatic]
        simp only [select, isEmpty_forMethod_iff.mpr unserved, open', if_true]
        rfl
    | methodNotAllowed unserved unasked =>
        rw [select_eq_error_of_unserved unserved unasked]
        rfl
    | invalidContentType served invalid =>
        simp only [select, isEmpty_forMethod_of_serves served, invalid, Bool.false_eq_true, if_false]
        rfl
    | unsupportedMediaType served valid untaken =>
        simp only [select, isEmpty_forMethod_of_serves served, valid,
          isEmpty_filter_reads_iff.mpr untaken, if_true, Bool.false_eq_true, if_false]
        rfl
    | invalidAccept valid taken invalid =>
        simp only [select, isEmpty_forMethod_of_serves taken.1, valid,
          isEmpty_filter_reads_of_takes taken, invalid, Bool.false_eq_true, if_false]
        rfl
    | notAcceptable valid taken listed foreign =>
        have none := mostAcceptable_eq_none_iff.mpr fun other present range accepts =>
          foreign other (mem_filter_reads_iff.mp present) range
            ((MediaType.mem_accepted_iff listed).mp accepts)
        simp only [select, isEmpty_forMethod_of_serves taken.1, valid,
          isEmpty_filter_reads_of_takes taken, listed, none, Bool.false_eq_true, if_false]
        rfl
    | selected valid listed best settles =>
        simp only [select, isEmpty_forMethod_of_serves best.taken.1, valid,
          isEmpty_filter_reads_of_takes best.taken, listed, mostAcceptable_readers_iff.mpr best,
          Bool.false_eq_true, if_false]
        rw [← mediaType?_eq_iff_settles.mpr settles]
        rfl

/-- An operation that reads and writes some media types. -/
def exchanging (consumes produces : List MediaType) : Operation Unit :=
  ⟨.get, consumes, produces, fun _ state => (.ok .ok, state)⟩

/-- Plain text of half the quality. -/
def halvedText : MediaType :=
  ⟨"text".toList, "plain".toList, none, [("q".toList, "0.5".toList)], ";q=0.5".toList⟩

/-- A request of a client that prefers JSON to plain text. -/
def preferring : Request where
  method := .get
  path := "/a".toList
  headers := ⟨[(Headers.accept, "text/plain;q=0.5, application/json".toList)]⟩

/-- An operation that may write JSON is preferred to one of plain text, the first one of two. -/
theorem mostAcceptable_preferring :
    mostAcceptable [.json, halvedText]
        [exchanging [] [.plainText], exchanging [] [], exchanging [.json] []] =
      some ⟨exchanging [] [], .json, .wildcard⟩ := by
  have text : negotiate [.plainText] [.json, halvedText] = some ⟨halvedText, .plainText⟩ := by
    decide +kernel
  have open' : negotiate [] [.json, halvedText] = some ⟨.json, .wildcard⟩ := by decide +kernel
  have better : (Pairing.mk .json .wildcard).score.exceeds
      (Pairing.mk halvedText .plainText).score = true := by
    decide +kernel
  have alike : (Pairing.mk .json .wildcard).score.exceeds
      (Pairing.mk .json .wildcard).score = false := by
    decide +kernel
  simp only [mostAcceptable, acceptable, exchanging, List.filterMap_cons, List.filterMap_nil, text,
    open', Option.map_some, Choice.firstBest_cons, List.foldl, Choice.prefer, better, alike,
    if_true, Bool.false_eq_true, if_false]

/-- The range of the client says what the selected operation writes, which declares no type. -/
theorem select_eq_iff_decides_preferring :
    preferring.headers.plain? Headers.accept =
        some "text/plain;q=0.5, application/json".toList ∧
      ∃ operations : List (Operation Unit),
        operations = [exchanging [] [.plainText], exchanging [] [], exchanging [.json] []] ∧
          (select {} operations preferring).map (Option.map Selection.decision) =
            .ok (some (exchanging [] [], some .json)) ∧
          Decides {} operations preferring (.ok (some (exchanging [] [], some .json))) := by
  let operations := [exchanging [] [.plainText], exchanging [] [], exchanging [.json] []]
  have candidates : forMethod {} operations preferring.method = operations := rfl
  have readers : operations.filter (reads .wildcard) = operations := rfl
  have untyped : preferring.contentType = .ok none := rfl
  have listed : MediaType.accepted (preferring.headers.plain? Headers.accept) =
      .ok [.json, halvedText] := rfl
  have selected : (select {} operations preferring).map (Option.map Selection.decision) =
      .ok (some (exchanging [] [], some .json)) := by
    simp only [select, candidates, untyped, Option.getD_none, readers, listed, operations,
      mostAcceptable_preferring, List.isEmpty_cons, Bool.false_eq_true, if_false]
    rfl
  have decided := (select_eq_iff_decides {} operations preferring _).mp selected
  exact ⟨rfl, operations, rfl, selected, decided⟩

end Dispatch
end ResourceRouting
