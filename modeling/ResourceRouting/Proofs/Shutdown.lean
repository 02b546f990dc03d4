import Mathlib.Data.List.Induction
import Mathlib.Data.List.Nodup
import ResourceRouting.Shutdown

/-!
# Who is released

A waiter is released by a signal that was given since it began to wait, and by the loss of the last
handle, and by nothing else.  What counts is the history of the handles and of the waiter: signals
from before, and what other waiters do, do not matter.
-/

namespace ResourceRouting
namespace Shutdown

variable {Name : Type} [DecidableEq Name]

section Histories

omit [DecidableEq Name]

/--
A handle is there after some steps: it was the first one, or it was made from one that was there,
and it has not been given up since.
-/
inductive Live (first : Name) : List (Step Name) → Name → Prop
  /-- The first handle is there from the beginning. -/
  | first : Live first [] first
  /-- A handle is made from one that is there. -/
  | cloned
      {history : List (Step Name)}
      {handle new : Name}
      (live : Live first history handle) :
      Live first (history ++ [.clone handle new]) new
  /-- A handle stays until it is given up. -/
  | kept
      {history : List (Step Name)}
      {handle : Name}
      {step : Step Name}
      (live : Live first history handle)
      (kept : step ≠ .dropHandle handle) :
      Live first (history ++ [step]) handle

/-- A signal was given in the later steps by a handle that was there. -/
def Signalled (first : Name) (before later : List (Step Name)) : Prop :=
  ∃ earlier handle rest, later = earlier ++ .trigger handle :: rest ∧
    Live first (before ++ earlier) handle

/-- What releases a waiter of the later steps: a signal in them, or that no handle is left. -/
def Released (first : Name) (before later : List (Step Name)) : Prop :=
  Signalled first before later ∨ ∀ handle, ¬Live first (before ++ later) handle

/-- A step after which a waiter of the later steps is still the same and still waiting. -/
structure Keeps
    (first waiter : Name)
    (before later : List (Step Name))
    (step : Step Name) : Prop where
  /-- The waiter is not given up. -/
  kept : step ≠ .dropWaiter waiter
  /-- The waiter is not replaced. -/
  same : ∀ handle, step = .subscribe handle waiter → ¬Live first (before ++ later) handle
  /-- The waiter does not find that it may go on. -/
  pending : step = .poll waiter → ¬Released first before later

/-- A waiter began to wait with the last one of some steps, and has waited in the later ones. -/
inductive Waits (first waiter : Name) : List (Step Name) → List (Step Name) → Prop
  /-- It begins to wait with a handle that is there. -/
  | subscribed
      {history : List (Step Name)}
      {handle : Name}
      (live : Live first history handle) :
      Waits first waiter (history ++ [.subscribe handle waiter]) []
  /-- It goes on waiting. -/
  | kept
      {before later : List (Step Name)}
      {step : Step Name}
      (waits : Waits first waiter before later)
      (keeps : Keeps first waiter before later step) :
      Waits first waiter before (later ++ [step])

/-- What is there after one more step. -/
theorem live_concat_iff
    {first handle : Name}
    {history : List (Step Name)}
    {step : Step Name} :
    Live first (history ++ [step]) handle ↔
      (∃ source, step = .clone source handle ∧ Live first history source) ∨
        (Live first history handle ∧ step ≠ .dropHandle handle) := by
  constructor
  · intro live
    generalize whole : history ++ [step] = steps at live
    cases live with
    | first => simp at whole
    | cloned live =>
        obtain ⟨rfl, last⟩ := List.append_inj' whole rfl
        obtain rfl := List.singleton_inj.mp last
        exact .inl ⟨_, rfl, live⟩
    | kept live kept =>
        obtain ⟨rfl, last⟩ := List.append_inj' whole rfl
        obtain rfl := List.singleton_inj.mp last
        exact .inr ⟨live, kept⟩
  · rintro (⟨source, rfl, live⟩ | ⟨live, kept⟩)
    · exact .cloned live
    · exact .kept live kept

/-- A signal was given before the last step, or with it. -/
theorem signalled_concat_iff
    {first : Name}
    {before later : List (Step Name)}
    {step : Step Name} :
    Signalled first before (later ++ [step]) ↔
      Signalled first before later ∨
        ∃ handle, step = .trigger handle ∧ Live first (before ++ later) handle := by
  constructor
  · rintro ⟨earlier, handle, rest, parted, live⟩
    rcases List.eq_nil_or_concat rest with rfl | ⟨others, last, rfl⟩
    · obtain ⟨rfl, equal⟩ := List.append_inj' parted rfl
      obtain rfl := List.singleton_inj.mp equal
      exact .inr ⟨handle, rfl, live⟩
    · rw [List.concat_eq_append, ← List.cons_append, ← List.append_assoc] at parted
      exact .inl ⟨earlier, handle, others, (List.append_inj' parted rfl).1, live⟩
  · rintro (⟨earlier, handle, rest, rfl, live⟩ | ⟨handle, rfl, live⟩)
    · exact ⟨earlier, handle, rest ++ [step], by simp, live⟩
    · exact ⟨later, handle, [], rfl, live⟩

theorem not_signalled_nil {first : Name} {before : List (Step Name)} :
    ¬Signalled first before [] := by
  rintro ⟨earlier, handle, rest, parted, _⟩
  simp at parted

end Histories

@[simp]
theorem after_nil (shutdown : Shutdown Name) : shutdown.after [] = shutdown := rfl

@[simp]
theorem after_concat (shutdown : Shutdown Name) (steps : List (Step Name)) (step : Step Name) :
    shutdown.after (steps ++ [step]) = ((shutdown.after steps).step step).2 := by
  rw [after, List.foldl_append]
  rfl

theorem hasHandle_iff {shutdown : Shutdown Name} {handle : Name} :
    shutdown.hasHandle handle = true ↔ handle ∈ shutdown.handles := by
  simp [hasHandle]

@[simp]
theorem mem_handles_withHandle {shutdown : Shutdown Name} {new handle : Name} :
    handle ∈ (shutdown.withHandle new).handles ↔ handle = new ∨ handle ∈ shutdown.handles := by
  rw [withHandle]
  split
  · rename_i old
    constructor
    · exact .inr
    · rintro (rfl | present)
      · exact hasHandle_iff.mp old
      · exact present
  · simp [or_comm]

@[simp]
theorem waiters_withHandle (shutdown : Shutdown Name) (new : Name) :
    (shutdown.withHandle new).waiters = shutdown.waiters := by
  rw [withHandle]
  split <;> rfl

@[simp]
theorem sent_withHandle (shutdown : Shutdown Name) (new : Name) :
    (shutdown.withHandle new).sent = shutdown.sent := by
  rw [withHandle]
  split <;> rfl

@[simp]
theorem mem_handles_withoutHandle {shutdown : Shutdown Name} {gone handle : Name} :
    handle ∈ (shutdown.withoutHandle gone).handles ↔
      handle ∈ shutdown.handles ∧ handle ≠ gone := by
  simp [withoutHandle]

@[simp]
theorem waiters_withoutHandle (shutdown : Shutdown Name) (gone : Name) :
    (shutdown.withoutHandle gone).waiters = shutdown.waiters := rfl

@[simp]
theorem sent_withoutHandle (shutdown : Shutdown Name) (gone : Name) :
    (shutdown.withoutHandle gone).sent = shutdown.sent := rfl

@[simp]
theorem handles_withoutWaiter (shutdown : Shutdown Name) (waiter : Name) :
    (shutdown.withoutWaiter waiter).handles = shutdown.handles := rfl

@[simp]
theorem sent_withoutWaiter (shutdown : Shutdown Name) (waiter : Name) :
    (shutdown.withoutWaiter waiter).sent = shutdown.sent := rfl

@[simp]
theorem lookup_withoutWaiter (shutdown : Shutdown Name) (waiter other : Name) :
    (shutdown.withoutWaiter waiter).waiters.lookup other =
      if other = waiter then none else shutdown.waiters.lookup other := by
  rw [withoutWaiter]
  induction shutdown.waiters with
  | nil => simp
  | cons entry rest ih => grind

@[simp]
theorem handles_withWaiter (shutdown : Shutdown Name) (waiter : Name) :
    (shutdown.withWaiter waiter).handles = shutdown.handles := rfl

@[simp]
theorem sent_withWaiter (shutdown : Shutdown Name) (waiter : Name) :
    (shutdown.withWaiter waiter).sent = shutdown.sent := rfl

@[simp]
theorem lookup_withWaiter (shutdown : Shutdown Name) (waiter other : Name) :
    (shutdown.withWaiter waiter).waiters.lookup other =
      if other = waiter then some shutdown.sent else shutdown.waiters.lookup other := by
  have rest := lookup_withoutWaiter shutdown waiter other
  rw [withWaiter, List.lookup_append, rest]
  by_cases same : other = waiter
  · simp [same]
  · simp [same, List.lookup_cons, beq_false_of_ne same]

omit [DecidableEq Name] in
@[simp]
theorem handles_signalled (shutdown : Shutdown Name) :
    shutdown.signalled.handles = shutdown.handles := by
  rw [signalled]
  split <;> rfl

omit [DecidableEq Name] in
@[simp]
theorem waiters_signalled (shutdown : Shutdown Name) :
    shutdown.signalled.waiters = shutdown.waiters := by
  rw [signalled]
  split <;> rfl

/-- A signal goes into the channel if somebody waits. -/
theorem sent_signalled
    {shutdown : Shutdown Name}
    {waiter : Name}
    {seen : Nat}
    (found : shutdown.waiters.lookup waiter = some seen) :
    shutdown.signalled.sent = shutdown.sent + 1 := by
  rw [signalled, if_neg]
  intro empty
  rw [List.isEmpty_iff.mp empty] at found
  cases found

omit [DecidableEq Name] in
/-- What finds nothing is at the end of the channel while there are handles. -/
theorem receive_eq_nothing_iff {shutdown : Shutdown Name} {seen : Nat} :
    shutdown.receive seen = .nothing ↔ seen = shutdown.sent ∧ shutdown.handles ≠ [] := by
  rw [receive]
  split
  · rename_i same
    cases shutdown.handles <;> simp [same]
  · rename_i behind
    split <;> simp [behind]

/-- Asking for a waiter that waits answers by what it finds in the channel. -/
theorem step_poll_of_lookup
    {shutdown : Shutdown Name}
    {waiter : Name}
    {seen : Nat}
    (found : shutdown.waiters.lookup waiter = some seen) :
    shutdown.step (.poll waiter) =
      if shutdown.receive seen = .nothing then (.pending, shutdown)
      else (.done, shutdown.withoutWaiter waiter) := by
  simp only [step, found]
  cases shutdown.receive seen <;> rfl

/-- Asking for a name that no waiter has changes nothing. -/
theorem step_poll_of_lookup_eq_none
    {shutdown : Shutdown Name}
    {waiter : Name}
    (absent : shutdown.waiters.lookup waiter = none) :
    shutdown.step (.poll waiter) = (.noWaiter, shutdown) := by
  simp only [step, absent]

/-- What a step does: what it asks for if that is granted, and nothing otherwise. -/
inductive Does (shutdown : Shutdown Name) : Step Name → Shutdown Name → Prop
  /-- A handle is made from another one. -/
  | cloned {source new : Name} (live : source ∈ shutdown.handles) :
      Does shutdown (.clone source new) (shutdown.withHandle new)
  /-- There is no handle to make one from. -/
  | notCloned {source new : Name} (gone : source ∉ shutdown.handles) :
      Does shutdown (.clone source new) shutdown
  /-- A handle is given up. -/
  | dropped {handle : Name} : Does shutdown (.dropHandle handle) (shutdown.withoutHandle handle)
  /-- A waiter begins to wait. -/
  | subscribed {source waiter : Name} (live : source ∈ shutdown.handles) :
      Does shutdown (.subscribe source waiter) (shutdown.withWaiter waiter)
  /-- There is no handle to wait at. -/
  | notSubscribed {source waiter : Name} (gone : source ∉ shutdown.handles) :
      Does shutdown (.subscribe source waiter) shutdown
  /-- A waiter is given up. -/
  | abandoned {waiter : Name} : Does shutdown (.dropWaiter waiter) (shutdown.withoutWaiter waiter)
  /-- The signal is given. -/
  | triggered {source : Name} (live : source ∈ shutdown.handles) :
      Does shutdown (.trigger source) shutdown.signalled
  /-- There is no handle to give the signal. -/
  | notTriggered {source : Name} (gone : source ∉ shutdown.handles) :
      Does shutdown (.trigger source) shutdown
  /-- A waiter may go on. -/
  | released {waiter : Name} {seen : Nat}
      (found : shutdown.waiters.lookup waiter = some seen)
      (something : shutdown.receive seen ≠ .nothing) :
      Does shutdown (.poll waiter) (shutdown.withoutWaiter waiter)
  /-- A waiter has to wait. -/
  | pending {waiter : Name} {seen : Nat}
      (found : shutdown.waiters.lookup waiter = some seen)
      (nothing : shutdown.receive seen = .nothing) :
      Does shutdown (.poll waiter) shutdown
  /-- There is no waiter to ask for. -/
  | notPolled {waiter : Name} (absent : shutdown.waiters.lookup waiter = none) :
      Does shutdown (.poll waiter) shutdown

theorem does_step (shutdown : Shutdown Name) (step : Step Name) :
    Does shutdown step (shutdown.step step).2 := by
  cases step with
  | clone source new =>
      rw [Shutdown.step]
      split
      · rename_i live
        exact .cloned (hasHandle_iff.mp live)
      · rename_i gone
        exact .notCloned (mt hasHandle_iff.mpr gone)
  | dropHandle handle => exact .dropped
  | subscribe source waiter =>
      rw [Shutdown.step]
      split
      · rename_i live
        exact .subscribed (hasHandle_iff.mp live)
      · rename_i gone
        exact .notSubscribed (mt hasHandle_iff.mpr gone)
  | dropWaiter waiter => exact .abandoned
  | trigger source =>
      rw [Shutdown.step]
      split
      · rename_i live
        exact .triggered (hasHandle_iff.mp live)
      · rename_i gone
        exact .notTriggered (mt hasHandle_iff.mpr gone)
  | poll waiter =>
      cases found : shutdown.waiters.lookup waiter with
      | none =>
          rw [step_poll_of_lookup_eq_none found]
          exact .notPolled found
      | some seen =>
          rw [step_poll_of_lookup found]
          split
          · rename_i nothing
            exact .pending found nothing
          · rename_i something
            exact .released found something

/-- The handles that are left after a step. -/
theorem mem_handles_step_iff
    {shutdown : Shutdown Name}
    {step : Step Name}
    {handle : Name} :
    handle ∈ (shutdown.step step).2.handles ↔
      (∃ source, step = .clone source handle ∧ source ∈ shutdown.handles) ∨
        (handle ∈ shutdown.handles ∧ step ≠ .dropHandle handle) := by
  have does := does_step shutdown step
  generalize (shutdown.step step).2 = after at does ⊢
  cases does with
  | cloned live =>
      rw [mem_handles_withHandle]
      constructor
      · rintro (rfl | present)
        · exact .inl ⟨_, rfl, live⟩
        · exact .inr ⟨present, by simp⟩
      · rintro (⟨source, equal, _⟩ | ⟨present, _⟩)
        · cases equal
          exact .inl rfl
        · exact .inr present
  | notCloned gone =>
      constructor
      · exact fun present => .inr ⟨present, by simp⟩
      · rintro (⟨source, equal, live⟩ | ⟨present, _⟩)
        · cases equal
          exact absurd live gone
        · exact present
  | @dropped dropped =>
      have differs : handle ≠ dropped ↔ dropped ≠ handle := ne_comm
      simp [differs]
  | subscribed _ | notSubscribed _ | abandoned | triggered _ | notTriggered _ | released _ _
  | pending _ _ | notPolled _ => simp

/-- The handles are those that are there by the history. -/
theorem mem_handles_iff {first handle : Name} {history : List (Step Name)} :
    handle ∈ ((start first).after history).handles ↔ Live first history handle := by
  induction history using List.reverseRecOn generalizing handle with
  | nil =>
      constructor
      · intro present
        obtain rfl : handle = first := by simpa [start] using present
        exact .first
      · intro live
        generalize empty : ([] : List (Step Name)) = steps at live
        cases live with
        | first => simp [start]
        | cloned _ => simp at empty
        | kept _ _ => simp at empty
  | append_singleton history step ih =>
      rw [after_concat, mem_handles_step_iff, live_concat_iff]
      simp only [ih]

theorem handles_eq_nil_iff {first : Name} {history : List (Step Name)} :
    ((start first).after history).handles = [] ↔ ∀ handle, ¬Live first history handle := by
  simp only [List.eq_nil_iff_forall_not_mem, mem_handles_iff]

/-- What a step does that leaves a waiter waiting: only a signal moves the end of the channel. -/
theorem lookup_step_of_keeps
    {shutdown : Shutdown Name}
    {waiter : Name}
    {seen : Nat}
    {step : Step Name}
    (found : shutdown.waiters.lookup waiter = some seen)
    (kept : step ≠ .dropWaiter waiter)
    (same : ∀ handle, step = .subscribe handle waiter → handle ∉ shutdown.handles)
    (pending : step = .poll waiter → shutdown.receive seen = .nothing) :
    (shutdown.step step).2.waiters.lookup waiter = some seen ∧
      (((∃ handle, step = .trigger handle ∧ handle ∈ shutdown.handles) ∧
          (shutdown.step step).2.sent = shutdown.sent + 1) ∨
        ((¬∃ handle, step = .trigger handle ∧ handle ∈ shutdown.handles) ∧
          (shutdown.step step).2.sent = shutdown.sent)) := by
  have does := does_step shutdown step
  generalize (shutdown.step step).2 = after at does ⊢
  cases does with
  | cloned _ | notCloned _ | dropped | notSubscribed _ | pending _ _ | notPolled _ =>
      simpa using found
  | @subscribed source other live =>
      have different : waiter ≠ other := by
        rintro rfl
        exact same source rfl live
      simpa [different] using found
  | @abandoned other =>
      have different : waiter ≠ other := by
        rintro rfl
        exact kept rfl
      simpa [different] using found
  | @triggered source live =>
      rw [waiters_signalled, sent_signalled found]
      exact ⟨found, .inl ⟨⟨source, rfl, live⟩, rfl⟩⟩
  | notTriggered gone => simpa [gone] using found
  | @released other seen' found' something =>
      have different : waiter ≠ other := by
        rintro rfl
        obtain rfl := Option.some.inj (found.symm.trans found')
        exact something (pending rfl)
      simpa [different] using found

/-- A waiter of the later steps is behind the end of the channel exactly if it was signalled. -/
theorem Waits.exists_lookup
    {first waiter : Name}
    {before later : List (Step Name)}
    (waits : Waits first waiter before later) :
    ∃ seen,
      ((start first).after (before ++ later)).waiters.lookup waiter = some seen ∧
        seen ≤ ((start first).after (before ++ later)).sent ∧
          (seen < ((start first).after (before ++ later)).sent ↔
            Signalled first before later) := by
  induction waits with
  | @subscribed history handle live =>
      rw [List.append_nil, after_concat]
      have present := hasHandle_iff.mpr (mem_handles_iff.mpr live)
      simp only [step, present, if_true, lookup_withWaiter]
      refine ⟨_, rfl, Nat.le_refl _, ?_⟩
      constructor
      · intro impossible
        exact absurd impossible (Nat.lt_irrefl _)
      · exact fun impossible => absurd impossible not_signalled_nil
  | @kept before later step waits keeps ih =>
      obtain ⟨seen, found, bound, behind⟩ := ih
      have pending : step = .poll waiter →
          ((start first).after (before ++ later)).receive seen = .nothing := by
        intro asked
        have unreleased := keeps.pending asked
        rw [Released, not_or, ← behind, ← handles_eq_nil_iff] at unreleased
        exact receive_eq_nothing_iff.mpr
          ⟨Nat.le_antisymm bound (Nat.le_of_not_lt unreleased.1), unreleased.2⟩
      have same : ∀ handle, step = .subscribe handle waiter →
          handle ∉ ((start first).after (before ++ later)).handles := by
        intro handle asked present
        exact keeps.same handle asked (mem_handles_iff.mp present)
      obtain ⟨still, moved⟩ := lookup_step_of_keeps found keeps.kept same pending
      rw [← List.append_assoc, after_concat, signalled_concat_iff, ← behind]
      simp only [mem_handles_iff] at moved
      refine ⟨seen, still, ?_, ?_⟩
      · omega
      · rcases moved with ⟨given, sent⟩ | ⟨none, sent⟩
        · rw [sent]
          constructor
          · exact fun _ => .inr given
          · exact fun _ => Nat.lt_succ_of_le bound
        · rw [sent]
          constructor
          · exact .inl
          · rintro (earlier | given)
            · exact earlier
            · exact absurd given none

/-- A waiter that is there after a step begins to wait with it, or the step leaves it waiting. -/
theorem cases_of_lookup_step
    {shutdown : Shutdown Name}
    {waiter : Name}
    {step : Step Name}
    (present : (shutdown.step step).2.waiters.lookup waiter ≠ none) :
    (∃ handle, step = .subscribe handle waiter ∧ handle ∈ shutdown.handles) ∨
      ∃ seen, shutdown.waiters.lookup waiter = some seen ∧ step ≠ .dropWaiter waiter ∧
        (∀ handle, step = .subscribe handle waiter → handle ∉ shutdown.handles) ∧
          (step = .poll waiter → shutdown.receive seen = .nothing) := by
  by_cases subscribed : ∃ handle, step = .subscribe handle waiter ∧ handle ∈ shutdown.handles
  · exact .inl subscribed
  · right
    rw [not_exists] at subscribed
    have same : ∀ handle, step = .subscribe handle waiter → handle ∉ shutdown.handles :=
      fun handle equal live => subscribed handle ⟨equal, live⟩
    have kept : step ≠ .dropWaiter waiter := by
      rintro rfl
      simp [Shutdown.step, lookup_withoutWaiter] at present
    have pending : ∀ seen, shutdown.waiters.lookup waiter = some seen →
        step = .poll waiter → shutdown.receive seen = .nothing := by
      rintro seen found rfl
      rw [step_poll_of_lookup found] at present
      split at present
      · assumption
      · simp [lookup_withoutWaiter] at present
    cases found : shutdown.waiters.lookup waiter with
    | some seen => exact ⟨seen, rfl, kept, same, pending seen found⟩
    | none =>
        -- nothing but beginning to wait brings a waiter in
        exfalso
        apply present
        have does := does_step shutdown step
        generalize (shutdown.step step).2 = after at does ⊢
        cases does with
        | @subscribed source other live =>
            have different : waiter ≠ other := by
              rintro rfl
              exact same source rfl live
            simp [different, found]
        | cloned _ | notCloned _ | dropped | notSubscribed _ | abandoned | triggered _
        | notTriggered _ | released _ _ | pending _ _ | notPolled _ => simp [found]

/-- A waiter waits after some steps, since some of them. -/
def IsWaiting (first waiter : Name) (history : List (Step Name)) : Prop :=
  ∃ before later, history = before ++ later ∧ Waits first waiter before later

/-- Those who are there are those who wait by the history. -/
theorem lookup_ne_none_iff {first waiter : Name} {history : List (Step Name)} :
    ((start first).after history).waiters.lookup waiter ≠ none ↔
      IsWaiting first waiter history := by
  constructor
  · intro present
    induction history using List.reverseRecOn with
    | nil => simp [start] at present
    | append_singleton history step ih =>
        rw [after_concat] at present
        rcases cases_of_lookup_step present with
          ⟨handle, rfl, live⟩ | ⟨seen, found, kept, same, pending⟩
        · exact ⟨_, [], (List.append_nil _).symm, .subscribed (mem_handles_iff.mp live)⟩
        · obtain ⟨before, later, rfl, waits⟩ := ih (by simp [found])
          obtain ⟨place, foundPlace, bound, behind⟩ := waits.exists_lookup
          obtain rfl := Option.some.inj (found.symm.trans foundPlace)
          refine ⟨before, later ++ [step], List.append_assoc .., waits.kept ⟨kept, ?_, ?_⟩⟩
          · intro handle asked live
            exact same handle asked (mem_handles_iff.mpr live)
          · intro asked
            obtain ⟨ended, handles⟩ := receive_eq_nothing_iff.mp (pending asked)
            rw [Released, not_or, ← behind, ← handles_eq_nil_iff]
            exact ⟨Nat.not_lt.mpr (Nat.le_of_eq ended.symm), handles⟩
  · rintro ⟨before, later, rfl, waits⟩
    obtain ⟨seen, found, _⟩ := waits.exists_lookup
    simp [found]

/-- No two waiters have one name. -/
theorem nodup_waiters (first : Name) (history : List (Step Name)) :
    (((start first).after history).waiters.map Prod.fst).Nodup := by
  induction history using List.reverseRecOn with
  | nil => simp [start]
  | append_singleton history step ih =>
      rw [after_concat]
      generalize (start first).after history = shutdown at ih
      have others : ∀ waiter, ((shutdown.withoutWaiter waiter).waiters.map Prod.fst).Nodup :=
        fun waiter => ih.sublist (List.filter_sublist.map _)
      have does := does_step shutdown step
      generalize (shutdown.step step).2 = next at does ⊢
      cases does with
      | @subscribed source waiter _ =>
          have fresh : waiter ∉ (shutdown.withoutWaiter waiter).waiters.map Prod.fst := by
            simp [withoutWaiter]
          rw [withWaiter, List.map_append]
          exact (others waiter).append (List.nodup_singleton _) (by simpa using fresh)
      | abandoned => exact others _
      | released _ _ => exact others _
      | cloned _ | notCloned _ | dropped | notSubscribed _ | triggered _ | notTriggered _
      | pending _ _ | notPolled _ => simpa using ih

/-- Whether a waiter may go on is decided by what it finds in the channel. -/
theorem Waits.receive_eq_nothing_iff
    {first waiter : Name}
    {before later : List (Step Name)}
    (waits : Waits first waiter before later) :
    ∃ seen, ((start first).after (before ++ later)).waiters.lookup waiter = some seen ∧
      (((start first).after (before ++ later)).receive seen = .nothing ↔
        ¬Released first before later) := by
  obtain ⟨seen, found, bound, behind⟩ := waits.exists_lookup
  refine ⟨seen, found, ?_⟩
  rw [Shutdown.receive_eq_nothing_iff, Released, not_or, ← behind, ← handles_eq_nil_iff,
    Nat.not_lt]
  constructor
  · rintro ⟨ended, handles⟩
    exact ⟨Nat.le_of_eq ended.symm, handles⟩
  · rintro ⟨ended, handles⟩
    exact ⟨Nat.le_antisymm bound ended, handles⟩

/-- What handles and waiters can rely on after a history. -/
structure IsFair (first : Name) (history : List (Step Name)) (shutdown : Shutdown Name) :
    Prop where
  /-- A waiter may go on if it has been signalled since it began to wait, or no handle is left. -/
  released {before later : List (Step Name)} {waiter : Name} :
    history = before ++ later → Waits first waiter before later → Released first before later →
      shutdown.step (.poll waiter) = (.done, shutdown.withoutWaiter waiter)
  /-- Otherwise it has to wait, and asking changes nothing. -/
  pending {before later : List (Step Name)} {waiter : Name} :
    history = before ++ later → Waits first waiter before later → ¬Released first before later →
      shutdown.step (.poll waiter) = (.pending, shutdown)
  /-- Signals from before a waiter began to wait do not release it. -/
  early {before later : List (Step Name)} {waiter : Name} :
    history = before ++ later → Waits first waiter before later →
      (∀ handle, .trigger handle ∉ later) → (∃ handle, Live first history handle) →
        shutdown.step (.poll waiter) = (.pending, shutdown)
  /-- Who does not wait is not known. -/
  absent {waiter : Name} :
    ¬IsWaiting first waiter history → shutdown.step (.poll waiter) = (.noWaiter, shutdown)
  /-- A waiter is released once, however many signals there were. -/
  once {waiter : Name} :
    (shutdown.step (.poll waiter)).1 = .done → ¬IsWaiting first waiter (history ++ [.poll waiter])
  /-- Asking for a waiter and giving it up leave all other ones as they are. -/
  others {waiter other : Name} {step : Step Name} :
    other ≠ waiter → step = .poll waiter ∨ step = .dropWaiter waiter →
      (shutdown.step step).2.handles = shutdown.handles ∧
        (shutdown.step step).2.sent = shutdown.sent ∧
          (shutdown.step step).2.waiters.lookup other = shutdown.waiters.lookup other ∧
            ((shutdown.step step).2.step (.poll other)).1 = (shutdown.step (.poll other)).1
  /-- Those who wait are counted, each of them once. -/
  counted :
    ∃ waiting : List Name, waiting.Nodup ∧
      (∀ waiter, waiter ∈ waiting ↔ IsWaiting first waiter history) ∧
        shutdown.waiterCount? =
          if shutdown.handles = [] then none else some waiting.length

/-- What is asked of one waiter does not touch the others. -/
theorem step_of_other
    {shutdown : Shutdown Name}
    {waiter other : Name}
    {step : Step Name}
    (different : other ≠ waiter)
    (own : step = .poll waiter ∨ step = .dropWaiter waiter) :
    (shutdown.step step).2.handles = shutdown.handles ∧
      (shutdown.step step).2.sent = shutdown.sent ∧
        (shutdown.step step).2.waiters.lookup other = shutdown.waiters.lookup other := by
  have without : (shutdown.withoutWaiter waiter).handles = shutdown.handles ∧
      (shutdown.withoutWaiter waiter).sent = shutdown.sent ∧
        (shutdown.withoutWaiter waiter).waiters.lookup other = shutdown.waiters.lookup other :=
    ⟨rfl, rfl, by rw [lookup_withoutWaiter, if_neg different]⟩
  rcases own with rfl | rfl
  · cases found : shutdown.waiters.lookup waiter with
    | none => simp [step_poll_of_lookup_eq_none found]
    | some _ =>
        rw [step_poll_of_lookup found]
        split
        · exact ⟨rfl, rfl, rfl⟩
        · exact without
  · exact without

/-- The answer to a question is given by the handles, the channel, and the waiter's place in it. -/
theorem step_poll_congr
    {first second : Shutdown Name}
    {waiter : Name}
    (handles : first.handles = second.handles)
    (sent : first.sent = second.sent)
    (place : first.waiters.lookup waiter = second.waiters.lookup waiter) :
    (first.step (.poll waiter)).1 = (second.step (.poll waiter)).1 := by
  cases found : second.waiters.lookup waiter with
  | none =>
      rw [step_poll_of_lookup_eq_none found, step_poll_of_lookup_eq_none (place.trans found)]
  | some seen =>
      rw [step_poll_of_lookup found, step_poll_of_lookup (place.trans found)]
      simp only [Shutdown.receive_eq_nothing_iff, handles, sent]
      split <;> rfl

/--
After every history of handles and waiters those who wait are released exactly by a signal that
was given since they began to wait, or by the loss of the last handle.
-/
theorem isFair_after (first : Name) (history : List (Step Name)) :
    IsFair first history ((start first).after history) where
  released := by
    rintro before later waiter rfl waits released
    obtain ⟨seen, found, nothing⟩ := waits.receive_eq_nothing_iff
    rw [step_poll_of_lookup found, if_neg (fun none => nothing.mp none released)]
  pending := by
    rintro before later waiter rfl waits unreleased
    obtain ⟨seen, found, nothing⟩ := waits.receive_eq_nothing_iff
    rw [step_poll_of_lookup found, if_pos (nothing.mpr unreleased)]
  early := by
    rintro before later waiter rfl waits silent ⟨handle, live⟩
    obtain ⟨seen, found, nothing⟩ := waits.receive_eq_nothing_iff
    have unreleased : ¬Released first before later := by
      rintro (⟨earlier, source, rest, rfl, _⟩ | gone)
      · exact silent source (by simp)
      · exact gone handle live
    rw [step_poll_of_lookup found, if_pos (nothing.mpr unreleased)]
  absent := by
    intro waiter absent
    rw [← lookup_ne_none_iff, not_not] at absent
    exact step_poll_of_lookup_eq_none absent
  once := by
    intro waiter done
    rw [← lookup_ne_none_iff, not_not, after_concat]
    cases found : ((start first).after history).waiters.lookup waiter with
    | none =>
        rw [step_poll_of_lookup_eq_none found] at done
        cases done
    | some seen =>
        rw [step_poll_of_lookup found] at done ⊢
        split at done
        · cases done
        · rename_i something
          rw [if_neg something, lookup_withoutWaiter, if_pos rfl]
  others := by
    intro waiter other step different own
    obtain ⟨handles, sent, place⟩ := step_of_other different own
    exact ⟨handles, sent, place, step_poll_congr handles sent place⟩
  counted := by
    refine ⟨_, nodup_waiters first history, ?_, ?_⟩
    · intro waiter
      rw [← lookup_ne_none_iff, ne_eq, List.lookup_eq_none_iff]
      simp
    · simp only [waiterCount?, List.isEmpty_iff, List.length_map]

/-- A waiter from before two signals has missed one and may go on; a later one has to wait. -/
example :
    let shutdown := (start 0).after [.subscribe 0 1, .trigger 0, .trigger 0, .subscribe 0 2]
    shutdown.receive 0 = .missed 1 ∧
      (shutdown.step (.poll 1)).1 = .done ∧ (shutdown.step (.poll 2)).1 = .pending := by
  decide

end Shutdown
end ResourceRouting
