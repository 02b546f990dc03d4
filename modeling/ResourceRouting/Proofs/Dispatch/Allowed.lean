import ResourceRouting.Proofs.Dispatch.Selection
import ResourceRouting.Proofs.Distinct
import ResourceRouting.Proofs.Resolution.Target

/-!
# The allowed methods

The methods that are listed for some operations are those for which a request is not refused.  The
declared methods stand first in the list, in the order of their declaration, and no method stands
in it twice.
-/

namespace ResourceRouting
namespace Dispatch

variable {σ : Type}

/-- The methods that are answered although no operation needs to be declared for them. -/
def fallbacks (settings : DispatchSettings) (operations : List (Operation σ)) : List Method :=
  (if settings.headFallback && (operations.map (·.method)).contains .get then [.head] else []) ++
    if settings.automaticOptions then [.options] else []

theorem mem_fallbacks_iff
    {settings : DispatchSettings}
    {operations : List (Operation σ)}
    {method : Method} :
    method ∈ fallbacks settings operations ↔
      (method = .head ∧ settings.headFallback = true ∧
        ∃ operation ∈ operations, operation.method = .get) ∨
        method = .options ∧ settings.automaticOptions = true := by
  rw [fallbacks, List.mem_append]
  apply or_congr
  · split
    · rename_i falls
      simp only [Bool.and_eq_true, List.contains_iff_mem, List.mem_map] at falls
      simp [falls]
    · rename_i stays
      simp only [Bool.and_eq_true, List.contains_iff_mem, List.mem_map] at stays
      simp [stays]
  · split
    · rename_i automatic
      simp [automatic]
    · rename_i manual
      simp [manual]

/-- The allowed methods are the first occurrences of the declared ones and of the fallbacks. -/
theorem allowedMethods_eq (settings : DispatchSettings) (operations : List (Operation σ)) :
    allowedMethods settings operations =
      (operations.map (·.method) ++ fallbacks settings operations).eraseDups := by
  rw [allowedMethods, Distinct.foldl_addNew, fallbacks, List.append_assoc]
  simp

theorem mem_allowedMethods_iff
    {settings : DispatchSettings}
    {operations : List (Operation σ)}
    {method : Method} :
    method ∈ allowedMethods settings operations ↔
      (∃ operation ∈ operations, operation.method = method) ∨
        method ∈ fallbacks settings operations := by
  rw [allowedMethods_eq, List.mem_eraseDups, List.mem_append, List.mem_map]

/-- Some operation serves each method that is declared, and `HEAD` in place of `GET`. -/
theorem exists_serves_iff
    {settings : DispatchSettings}
    {operations : List (Operation σ)}
    {method : Method} :
    (∃ operation, Serves settings operations method operation) ↔
      (∃ operation ∈ operations, operation.method = method) ∨
        method = .head ∧ settings.headFallback = true ∧
          ∃ operation ∈ operations, operation.method = .get := by
  constructor
  · rintro ⟨operation, present, own | ⟨head, falls, _, get⟩⟩
    · exact .inl ⟨operation, present, own⟩
    · exact .inr ⟨head, falls, operation, present, get⟩
  · rintro (⟨operation, present, own⟩ | ⟨rfl, falls, operation, present, get⟩)
    · exact ⟨operation, present, .inl own⟩
    · by_cases declared : ∃ other ∈ operations, other.method = .head
      · obtain ⟨other, otherPresent, own⟩ := declared
        exact ⟨other, otherPresent, .inl own⟩
      · refine ⟨operation, present, .inr ⟨rfl, falls, ?_, get⟩⟩
        exact fun other otherPresent own => declared ⟨other, otherPresent, own⟩

/-- A method is allowed if some operation serves it or if its answer is automatic. -/
theorem mem_allowedMethods_iff_serves
    {settings : DispatchSettings}
    {operations : List (Operation σ)}
    {method : Method} :
    method ∈ allowedMethods settings operations ↔
      (∃ operation, Serves settings operations method operation) ∨
        method = .options ∧ settings.automaticOptions = true := by
  rw [mem_allowedMethods_iff, mem_fallbacks_iff, exists_serves_iff, or_assoc]

/-- A request is refused with the allowed methods exactly if its method is not among them. -/
theorem select_eq_methodNotAllowed_iff
    {settings : DispatchSettings}
    {operations : List (Operation σ)}
    {request : Request}
    {method : Method}
    {listed : List Method} :
    select settings operations request = .error (.methodNotAllowed method listed) ↔
      request.method ∉ allowedMethods settings operations ∧ method = request.method ∧
        listed = allowedMethods settings operations := by
  have decides := decides_select settings operations request
  rw [mem_allowedMethods_iff_serves]
  constructor
  · intro refused
    rw [refused] at decides
    cases decides with
    | methodNotAllowed unserved unasked =>
        refine ⟨?_, rfl, rfl⟩
        rintro (⟨operation, served⟩ | ⟨asked, automatic⟩)
        · exact unserved operation served
        · rw [unasked asked] at automatic
          cases automatic
  · rintro ⟨unlisted, rfl, rfl⟩
    apply select_eq_error_of_unserved
    · exact fun operation served => unlisted (.inl ⟨operation, served⟩)
    · intro asked
      rw [← Bool.not_eq_true]
      exact fun automatic => unlisted (.inr ⟨asked, automatic⟩)

/-- Of what a selection ends with only the refusal of a method has its status code. -/
theorem eq_methodNotAllowed_of_status
    {settings : DispatchSettings}
    {operations : List (Operation σ)}
    {request : Request}
    {error : DispatchError}
    (refused : select settings operations request = .error error)
    (status : error.status = 405) :
    error = .methodNotAllowed request.method (allowedMethods settings operations) := by
  have decides := decides_select settings operations request
  rw [refused] at decides
  cases decides with
  | methodNotAllowed _ _ => rfl
  | invalidContentType _ _ => cases status
  | unsupportedMediaType _ _ _ => cases status
  | invalidAccept _ _ _ => cases status
  | notAcceptable _ _ _ _ => cases status

/-- An automatic answer lists the names of the allowed methods in its header. -/
theorem run_of_select_eq_none
    {settings : DispatchSettings}
    {target : Target σ}
    {request : Request}
    (automatic : select settings target.operations request = .ok none)
    (state : σ) :
    ∃ response, run settings target request state = (.ok response, state) ∧
      response.headers.get? Headers.allow =
        some ([',', ' '].intercalate
          ((allowedMethods settings target.operations).map Method.name)) := by
  refine ⟨optionsResponse settings target.operations, by rw [run, automatic], ?_⟩
  rw [← Method.join_eq_intercalate]
  exact Headers.get?_insert _ _ _

/-- A list of methods is that of all methods that a target answers. -/
structure ListsMethods
    (settings : DispatchSettings)
    (target : Target σ)
    (listed : List Method) : Prop where
  /-- Whatever is asked, it is refused for its method exactly if the method is not listed. -/
  refused : ∀ (request : Request) (method : Method),
    (∃ reported, select settings target.operations { request with method := method } =
      .error (.methodNotAllowed method reported)) ↔ method ∉ listed
  /-- Whenever a method is refused the list is reported. -/
  reported : ∀ (request : Request) (error : DispatchError),
    select settings target.operations request = .error error → error.status = 405 →
      error = .methodNotAllowed request.method listed
  /-- An automatic answer has the names of the list in its header, in order. -/
  answered : ∀ (request : Request) (state : σ),
    select settings target.operations request = .ok none →
      ∃ response, run settings target request state = (.ok response, state) ∧
        response.headers.get? Headers.allow =
          some ([',', ' '].intercalate (listed.map Method.name))
  /-- There are methods. -/
  nonempty : listed ≠ []
  /-- No method is listed twice. -/
  distinct : listed.Nodup
  /-- The declared methods come first, in the order in which they are first declared. -/
  ordered : ∃ others, listed = (target.operations.map (·.method)).eraseDups ++ others

/-- The allowed methods of a target are all methods that it answers. -/
theorem listsMethods_allowedMethods
    {resources : List (Resource σ)}
    {directory : Directory σ}
    {decode : Bool}
    {state : σ}
    {limit : Nat}
    {request bound : Request}
    {target : Target σ}
    (resolved : Resolution.resolve? resources directory decode state limit request =
      some (bound, .ok target))
    (settings : DispatchSettings) :
    ListsMethods settings target (allowedMethods settings target.operations) where
  refused request method := by
    constructor
    · rintro ⟨reported, refused⟩
      exact (select_eq_methodNotAllowed_iff.mp refused).1
    · intro unlisted
      exact ⟨_, select_eq_methodNotAllowed_iff.mpr ⟨unlisted, rfl, rfl⟩⟩
  reported _ _ refused status := eq_methodNotAllowed_of_status refused status
  answered _ state automatic := run_of_select_eq_none automatic state
  nonempty := by
    obtain ⟨operation, present⟩ :=
      List.exists_mem_of_ne_nil _ (Resolution.isTargetOf_of_resolve? resolved).operations
    exact List.ne_nil_of_mem (mem_allowedMethods_iff.mpr (.inl ⟨operation, present, rfl⟩))
  distinct := by
    rw [allowedMethods_eq]
    exact Distinct.nodup_eraseDups _
  ordered := ⟨_, by rw [allowedMethods_eq, List.eraseDups_append]⟩

/--
Reading is declared twice and writing once; the fallbacks are listed behind them, and so they are
in the answer to `OPTIONS`.
-/
theorem listsMethods_allowedMethods_get_post :
    ∃ (resource : Resource Unit) (request : Request) (target : Target Unit),
      resource.IsDeclared ∧
        Resolution.resolve? [resource] (fun _ => none) true () 0 request =
          some (request, .ok target) ∧
        target.operations.map (·.method) = [.get, .post, .get] ∧
        allowedMethods {} target.operations = [.get, .post, .head, .options] ∧
        ListsMethods {} target (allowedMethods {} target.operations) ∧
        ∃ response, run {} target request () = (.ok response, ()) ∧
          response.headers.get? Headers.allow = some "GET, POST, HEAD, OPTIONS".toList := by
  let answer (method : Method) (produces : List MediaType) : Operation Unit :=
    { method := method, produces := produces, handler := fun _ state => (.ok .ok, state) }
  obtain ⟨resource, declared, resolves⟩ :=
    @Resolution.exists_resolve?_of_match? Unit "/a".toList "/a".toList (by decide +kernel)
      [answer .get [.json], answer .post [], answer .get [.plainText]] (List.cons_ne_nil _ _)
      (by decide)
  have resolved :=
    resolves (fun _ => none) true () 0 { method := .options, path := "/a".toList } rfl
  have lists := listsMethods_allowedMethods resolved {}
  exact ⟨resource, _, _, declared, resolved, rfl, rfl, lists, lists.answered _ () rfl⟩

end Dispatch
end ResourceRouting
