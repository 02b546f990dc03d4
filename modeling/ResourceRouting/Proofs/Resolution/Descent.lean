import ResourceRouting.Proofs.Resolution.Trail
import ResourceRouting.Proofs.Resource.Declared
import ResourceRouting.Proofs.Uri.Remainder

/-!
# Where a descent ends

Locators may lead in circles, and nothing counts how many of them are followed.  What ends a
descent is the path: a locator hands on no more of it than it was given, and less if its template
advances.  Among resources where the other locators do not follow one another forever every descent
ends.
-/

namespace ResourceRouting
namespace Resolution

variable {σ : Type} {directory : Directory σ} {decode : Bool} {state : σ}

/-- A descent follows a locator to another resource, with what is left of a path. -/
structure Follows
    (directory : Directory σ)
    (decode : Bool)
    (state : σ)
    (resource : Resource σ)
    (rest : Text)
    (request : Request)
    (sub : Locator σ)
    (found : Uri.PathMatch)
    (bound : Request)
    (next : Resource σ) : Prop where
  /-- There is something left of the path. -/
  further : Uri.PathMatch.isTerminal (some rest) = false
  /-- The locator is the best branch. -/
  branch : branch? resource rest = some (.locator sub, found)
  /-- Its variables are bound. -/
  binding : bind decode sub.pattern found request = (bound, none)
  /-- It finds the resource. -/
  located : (sub.locate bound state).bind directory = some next

section Step

variable
    {resource next : Resource σ}
    {rest : Text}
    {request bound : Request}
    {sub : Locator σ}
    {found : Uri.PathMatch}
    (follows : Follows directory decode state resource rest request sub found bound next)

include follows

theorem Follows.mem_locators : sub ∈ resource.locators :=
  mem_locators_of_branch (Uri.Search.of_find?_eq_some follows.branch).1

theorem Follows.descend_zero (template : Text) :
    descend directory decode state 0 resource template (some rest) request = none := by
  obtain ⟨further, branch, binding, located⟩ := follows
  rw [descend.eq_def]
  simp [further, branch, binding, located]

theorem Follows.descend_succ (limit : Nat) (template : Text) :
    descend directory decode state (limit + 1) resource template (some rest) request =
      descend directory decode state limit next (template ++ sub.pattern.text) found.remainder
        bound := by
  obtain ⟨further, branch, binding, located⟩ := follows
  rw [descend.eq_def]
  simp [further, branch, binding, located]

theorem Follows.descentTrail_zero :
    descentTrail directory decode state 0 resource (some rest) request = [sub.pattern] := by
  obtain ⟨further, branch, binding, located⟩ := follows
  rw [descentTrail.eq_def]
  simp [further, branch, binding, located]

theorem Follows.descentTrail_succ (limit : Nat) :
    descentTrail directory decode state (limit + 1) resource (some rest) request =
      sub.pattern :: descentTrail directory decode state limit next found.remainder bound := by
  obtain ⟨further, branch, binding, located⟩ := follows
  rw [descentTrail.eq_def]
  simp [further, branch, binding, located]

end Step

/-- A descent follows a locator, or it ends whatever its limit is. -/
theorem follows_or_ends
    (directory : Directory σ)
    (decode : Bool)
    (state : σ)
    (resource : Resource σ)
    (remainder : Option Text)
    (request : Request) :
    (∃ rest sub found bound next, remainder = some rest ∧
        Follows directory decode state resource rest request sub found bound next) ∨
      ∀ limit template,
        (descend directory decode state limit resource template remainder request).isSome = true ∧
          (descentTrail directory decode state limit resource remainder request).length ≤ 1 := by
  by_cases follows : ∃ rest sub found bound next, remainder = some rest ∧
      Follows directory decode state resource rest request sub found bound next
  · exact .inl follows
  right
  intro limit template
  rw [descend.eq_def, descentTrail.eq_def]
  cases remainder with
  | none => simp
  | some rest =>
      cases further : Uri.PathMatch.isTerminal (some rest) with
      | true => simp [further]
      | false =>
          rcases branch : branch? resource rest with _ | ⟨sub | sub, found⟩
          · simp [further, branch]
          · rcases binding : bind decode sub.pattern found request with ⟨bound, _ | error⟩ <;>
              simp [further, branch, binding]
          · rcases binding : bind decode sub.pattern found request with ⟨bound, _ | error⟩
            · cases located : (sub.locate bound state).bind directory with
              | none => simp [further, branch, binding, located]
              | some next =>
                  exact absurd ⟨rest, sub, found, bound, next, rfl, further, branch, binding,
                    located⟩ follows
            · simp [further, branch, binding]

/-- A descent that does not end within its limit has matched one pattern more than that. -/
theorem length_descentTrail_of_descend_eq_none
    {limit : Nat}
    {resource : Resource σ}
    {template : Text}
    {remainder : Option Text}
    {request : Request}
    (endless : descend directory decode state limit resource template remainder request = none) :
    (descentTrail directory decode state limit resource remainder request).length = limit + 1 := by
  induction limit generalizing resource template remainder request with
  | zero =>
      rcases follows_or_ends directory decode state resource remainder request with
        ⟨rest, sub, found, bound, next, rfl, follows⟩ | ends
      · rw [follows.descentTrail_zero]
        rfl
      · have ended := (ends 0 template).1
        simp [endless] at ended
  | succ limit ih =>
      rcases follows_or_ends directory decode state resource remainder request with
        ⟨rest, sub, found, bound, next, rfl, follows⟩ | ends
      · rw [follows.descend_succ] at endless
        rw [follows.descentTrail_succ, List.length_cons, ih endless]
      · have ended := (ends (limit + 1) template).1
        simp [endless] at ended

/-- A resolution that does not end within its limit has matched two patterns more than that. -/
theorem length_trail_of_resolve?_eq_none
    {resources : List (Resource σ)}
    {limit : Nat}
    {request : Request}
    (endless : resolve? resources directory decode state limit request = none) :
    (trail resources directory decode state limit request).length = limit + 2 := by
  unfold resolve? at endless
  split at endless
  · cases endless
  · rename_i chosen
    split at endless
    · cases endless
    · rename_i binding
      simp only [trail, chosen, binding, List.length_cons,
        length_descentTrail_of_descend_eq_none endless]

/-- The resources that a descent from some root resources may come to. -/
inductive IsReachable
    (resources : List (Resource σ))
    (directory : Directory σ)
    (state : σ) :
    Resource σ → Prop
  /-- A root resource. -/
  | root
      {resource : Resource σ}
      (present : resource ∈ resources) :
      IsReachable resources directory state resource
  /-- A resource that a locator finds. -/
  | located
      {resource next : Resource σ}
      {sub : Locator σ}
      {request : Request}
      (reached : IsReachable resources directory state resource)
      (present : sub ∈ resource.locators)
      (found : (sub.locate request state).bind directory = some next) :
      IsReachable resources directory state next

/-- A locator that may hand on all of a path leads from one resource to the next. -/
def Stays
    (resources : List (Resource σ))
    (directory : Directory σ)
    (state : σ)
    (next resource : Resource σ) :
    Prop :=
  IsReachable resources directory state resource ∧
    ∃ sub ∈ resource.locators, ¬ Uri.Template.Advances sub.pattern.text ∧
      ∃ request, (sub.locate request state).bind directory = some next

/-- A rank that falls with every locator that may hand on all of a path. -/
structure IsRanking
    (resources : List (Resource σ))
    (directory : Directory σ)
    (state : σ)
    (height : Nat)
    (rank : Resource σ → Nat) : Prop where
  /-- No rank is above the height. -/
  bounded : ∀ resource, IsReachable resources directory state resource → rank resource ≤ height
  /-- The rank falls. -/
  falls : ∀ next resource, Stays resources directory state next resource →
    rank next < rank resource

/-- What a locator hands on is no longer than what it was given, and shorter if it advances. -/
theorem length_remainder_of_branch?
    {resource : Resource σ}
    {rest left : Text}
    {sub : Locator σ}
    {found : Uri.PathMatch}
    (declared : resource.IsDeclared)
    (branch : branch? resource rest = some (.locator sub, found))
    (remainder : found.remainder = some left) :
    left.length ≤ rest.length ∧
      (Uri.Template.Advances sub.pattern.text →
        ∃ more, rest = '/' :: more ∧ left.length ≤ more.length) := by
  obtain ⟨present, matched, _⟩ := Uri.Search.of_find?_eq_some branch
  have compiled := declared.compiled.2.locators sub (mem_locators_of_branch present)
  exact ⟨Uri.Pattern.length_remainder_le matched remainder,
    fun advances => compiled.exists_eq_slash_cons advances matched remainder⟩

/-- How much of a path is left, where the empty text counts as one character. -/
def size (rest : Text) : Nat :=
  max 1 rest.length

theorem one_le_size (rest : Text) : 1 ≤ size rest :=
  Nat.le_max_left ..

/-- What is left of a path does not grow when a locator is followed, and shrinks if it advances. -/
theorem Follows.size_le
    {resource next : Resource σ}
    {rest left : Text}
    {request bound : Request}
    {sub : Locator σ}
    {found : Uri.PathMatch}
    (follows : Follows directory decode state resource rest request sub found bound next)
    (declared : resource.IsDeclared)
    (remainder : found.remainder = some left) :
    size left ≤ size rest ∧ (Uri.Template.Advances sub.pattern.text → size left < size rest) := by
  obtain ⟨shorter, advancing⟩ :=
    length_remainder_of_branch? declared follows.branch remainder
  unfold size
  refine ⟨by omega, fun advances => ?_⟩
  obtain ⟨more, rfl, within⟩ := advancing advances
  -- A slash alone is terminal, so there is more behind the slash that was taken.
  have nonempty : more ≠ [] := by
    rintro rfl
    cases follows.further
  have positive := List.length_pos_iff.mpr nonempty
  rw [List.length_cons]
  omega

section Bounds

variable
    {resources : List (Resource σ)}
    (declared : ∀ resource, IsReachable resources directory state resource → resource.IsDeclared)

include declared

/-- A descent ends however much of the path is left. -/
theorem exists_isSome_descend_of_size_le
    (ends : WellFounded (Stays resources directory state))
    {bound : Nat}
    {resource : Resource σ}
    (reached : IsReachable resources directory state resource)
    {rest : Text}
    (small : size rest ≤ bound)
    (template : Text)
    (request : Request) :
    ∃ limit,
      (descend directory decode state limit resource template (some rest) request).isSome =
        true := by
  -- The rest shrinks, or it stays as large as it is and the resource is further down.
  induction bound generalizing resource rest template request with
  | zero => exact absurd (Nat.le_trans (one_le_size rest) small) (by decide)
  | succ bound shorter =>
      induction resource using ends.induction generalizing rest template request with
      | h resource further =>
          rcases follows_or_ends directory decode state resource (some rest) request with
            ⟨_, sub, found, middle, next, ⟨⟩, follows⟩ | ended
          · have nextReached := reached.located follows.mem_locators follows.located
            have later : ∃ limit, (descend directory decode state limit next
                (template ++ sub.pattern.text) found.remainder middle).isSome = true := by
              cases remainder : found.remainder with
              | none => exact ⟨0, by simp [descend]⟩
              | some left =>
                  obtain ⟨within, shrinks⟩ := follows.size_le (declared _ reached) remainder
                  by_cases advances : Uri.Template.Advances sub.pattern.text
                  · have less := shrinks advances
                    exact shorter nextReached (by omega) _ _
                  · have stays : Stays resources directory state next resource :=
                      ⟨reached, sub, follows.mem_locators, advances, middle, follows.located⟩
                    exact further next stays nextReached (Nat.le_trans within small) _ _
            obtain ⟨limit, isSome⟩ := later
            exact ⟨limit + 1, by rwa [follows.descend_succ]⟩
          · exact ⟨0, (ended 0 template).1⟩

/-- Every descent ends if the locators that do not advance do not follow one another forever. -/
theorem exists_isSome_descend
    (ends : WellFounded (Stays resources directory state))
    {resource : Resource σ}
    (reached : IsReachable resources directory state resource)
    (template : Text)
    (remainder : Option Text)
    (request : Request) :
    ∃ limit,
      (descend directory decode state limit resource template remainder request).isSome = true := by
  cases remainder with
  | none => exact ⟨0, by simp [descend]⟩
  | some rest =>
      exact exists_isSome_descend_of_size_le declared ends reached (Nat.le_refl (size rest)) _ _

/-- A descent matches no more patterns than the rest of the path and the rank admit. -/
theorem IsRanking.length_descentTrail_le
    {height : Nat}
    {rank : Resource σ → Nat}
    (ranking : IsRanking resources directory state height rank)
    {resource : Resource σ}
    (reached : IsReachable resources directory state resource)
    (limit : Nat)
    (rest : Text)
    (request : Request) :
    (descentTrail directory decode state limit resource (some rest) request).length + height ≤
      size rest * (height + 1) + rank resource := by
  have once : ∀ rest, height + 1 ≤ size rest * (height + 1) :=
    fun rest => Nat.le_mul_of_pos_left _ (one_le_size rest)
  induction limit generalizing resource rest request with
  | zero =>
      have first := once rest
      rcases follows_or_ends directory decode state resource (some rest) request with
        ⟨_, sub, found, bound, next, ⟨⟩, follows⟩ | ended
      · rw [follows.descentTrail_zero, List.length_singleton]
        omega
      · have short := (ended 0 []).2
        omega
  | succ limit ih =>
      have first := once rest
      rcases follows_or_ends directory decode state resource (some rest) request with
        ⟨_, sub, found, bound, next, ⟨⟩, follows⟩ | ended
      · rw [follows.descentTrail_succ, List.length_cons]
        cases remainder : found.remainder with
        | none =>
            rw [descentTrail.eq_def, List.length_nil]
            omega
        | some left =>
            have nextReached := reached.located follows.mem_locators follows.located
            have further := ih nextReached left bound
            obtain ⟨within, shrinks⟩ := follows.size_le (declared _ reached) remainder
            by_cases advances : Uri.Template.Advances sub.pattern.text
            · have less := Nat.mul_le_mul_right (height + 1) (shrinks advances)
              have low := ranking.bounded next nextReached
              rw [Nat.succ_mul] at less
              omega
            · have less := Nat.mul_le_mul_right (height + 1) within
              have falls := ranking.falls next resource
                ⟨reached, sub, follows.mem_locators, advances, bound, follows.located⟩
              omega
      · have short := (ended (limit + 1) []).2
        omega

/-- On the way to a target no more patterns are matched than the path and the height admit. -/
theorem IsRanking.length_trail_le
    {height : Nat}
    {rank : Resource σ → Nat}
    (ranking : IsRanking resources directory state height rank)
    (limit : Nat)
    (request : Request) :
    (trail resources directory decode state limit request).length ≤
      request.path.length * (height + 1) + 1 := by
  unfold trail
  split
  · exact Nat.zero_le _
  · rename_i resource found chosen
    obtain ⟨present, matched, _⟩ := Uri.Search.of_find?_eq_some chosen
    split
    · exact Nat.le_add_left ..
    · rename_i bound _
      rw [List.length_cons]
      apply Nat.succ_le_succ
      cases remainder : found.remainder with
      | none =>
          rw [descentTrail.eq_def]
          exact Nat.zero_le _
      | some left =>
          have reached : IsReachable resources directory state resource := .root present
          have further :=
            @length_descentTrail_le _ _ decode _ _ declared _ _ ranking _ reached limit left bound
          have small : size left ≤ request.path.length := by
            have shorter := Uri.Pattern.length_remainder_le matched remainder
            have nonempty := (Uri.Pattern.exists_note_of_match? matched remainder).1
            exact Nat.max_le.mpr ⟨List.length_pos_iff.mpr nonempty, shorter⟩
          have less := Nat.mul_le_mul_right (height + 1) small
          have low := ranking.bounded resource reached
          omega

/-- A resolution ends within the bound that the path and the height give. -/
theorem IsRanking.isSome_resolve?
    {height : Nat}
    {rank : Resource σ → Nat}
    (ranking : IsRanking resources directory state height rank)
    {limit : Nat}
    {request : Request}
    (enough : request.path.length * (height + 1) ≤ limit) :
    (resolve? resources directory decode state limit request).isSome = true := by
  cases result : resolve? resources directory decode state limit request with
  | some outcome => rfl
  | none =>
      have long := length_trail_of_resolve?_eq_none result
      have short := @length_trail_le _ _ decode _ _ declared _ _ ranking limit request
      omega

/-- Every resolution ends if the locators that do not advance do not follow one another forever. -/
theorem exists_isSome_resolve?
    (ends : WellFounded (Stays resources directory state))
    (request : Request) :
    ∃ limit, (resolve? resources directory decode state limit request).isSome = true := by
  cases chosen : root? resources request.path with
  | none => exact ⟨0, by simp [resolve?, chosen]⟩
  | some entry =>
      obtain ⟨resource, found⟩ := entry
      have present := (Uri.Search.of_find?_eq_some chosen).1
      rcases binding : bind decode resource.pattern found request with ⟨bound, _ | error⟩
      · obtain ⟨limit, isSome⟩ := @exists_isSome_descend _ _ decode _ _ declared ends _
          (.root present) resource.pattern.text found.remainder bound
        exact ⟨limit, by simpa [resolve?, chosen, binding] using isSome⟩
      · exact ⟨0, by simp [resolve?, chosen, binding]⟩

end Bounds

/--
Every locator on the way down hands on no more of the path than it was given, and less if its
template advances.  If the locators that do not advance do not follow one another forever, every
path is resolved.  If no more than `height` of them follow one another, then behind the pattern of
the root at most `height + 1` patterns are matched for each character of the path.
-/
theorem resolve?_ends
    {resources : List (Resource σ)}
    (declared : ∀ resource, IsReachable resources directory state resource →
      resource.IsDeclared) :
    (∀ resource rest sub found left, IsReachable resources directory state resource →
        branch? resource rest = some (.locator sub, found) → found.remainder = some left →
          left.length ≤ rest.length ∧
            (Uri.Template.Advances sub.pattern.text → left.length < rest.length)) ∧
      (WellFounded (Stays resources directory state) →
        ∀ decode request, ∃ limit,
          (resolve? resources directory decode state limit request).isSome = true) ∧
      ∀ height rank, IsRanking resources directory state height rank →
        ∀ decode limit request,
          (trail resources directory decode state limit request).length ≤
              request.path.length * (height + 1) + 1 ∧
            (request.path.length * (height + 1) ≤ limit →
              (resolve? resources directory decode state limit request).isSome = true) := by
  refine ⟨?_, fun ends decode request => exists_isSome_resolve? declared ends request, ?_⟩
  · intro resource rest sub found left reached branch remainder
    obtain ⟨shorter, advancing⟩ :=
      length_remainder_of_branch? (declared resource reached) branch remainder
    refine ⟨shorter, fun advances => ?_⟩
    obtain ⟨more, rfl, within⟩ := advancing advances
    exact Nat.lt_succ_of_le within
  · intro height rank ranking decode limit request
    exact ⟨ranking.length_trail_le declared limit request,
      ranking.isSome_resolve? declared⟩

/-- A resource with one locator. -/
def relay (own below : Uri.Pattern) : Resource Unit :=
  ⟨"relay".toList, own, [], [], [⟨below, fun _ _ => some "relay".toList⟩]⟩

/-- The locator of a relay leads back to the relay. -/
def circle (own below : Uri.Pattern) : Directory Unit :=
  fun _ => some (relay own below)

theorem isDeclared_relay
    {template templateBelow : Text}
    {own below : Uri.Pattern}
    (ownCompiled : Uri.Pattern.compile template = .ok own)
    (compiled : Uri.Pattern.compile templateBelow = .ok below) :
    (relay own below).IsDeclared :=
  Resource.isDeclared_of_compiled ⟨template, ownCompiled⟩
    ⟨by simp [relay], by simpa [relay] using ⟨templateBelow, compiled⟩⟩ rfl

theorem eq_relay_of_isReachable
    {own below : Uri.Pattern}
    {resource : Resource Unit}
    (reached : IsReachable [relay own below] (circle own below) () resource) :
    resource = relay own below := by
  cases reached with
  | root present => exact List.mem_singleton.mp present
  | @located previous _ sub request _ _ found =>
      cases key : sub.locate request () with
      | none => simp [key] at found
      | some key => simpa [key, circle] using found.symm

/-- The locator is the best branch of a relay where it matches. -/
theorem branch?_relay
    {own below : Uri.Pattern}
    {rest : Text}
    {found : Uri.PathMatch}
    (matched : below.match? rest = some found) :
    branch? (relay own below) rest =
      some (.locator ⟨below, fun _ _ => some "relay".toList⟩, found) :=
  branch?_of_only rfl matched rfl

/-- A relay follows its locator back to itself where this matches. -/
theorem follows_relay
    {own below : Uri.Pattern}
    {rest : Text}
    {found : Uri.PathMatch}
    {request bound : Request}
    (further : Uri.PathMatch.isTerminal (some rest) = false)
    (matched : below.match? rest = some found)
    (binding : bind true below found request = (bound, none)) :
    Follows (circle own below) true () (relay own below) rest request
      ⟨below, fun _ _ => some "relay".toList⟩ found bound (relay own below) :=
  ⟨further, branch?_relay matched, binding, rfl⟩

/-- In a circle whose locator advances the path ends the descent. -/
theorem resolve?_ends_circle :
    ∃ own below : Uri.Pattern,
      (relay own below).IsDeclared ∧ own.text = "/a".toList ∧ below.text = "/{name}".toList ∧
        (∃ found, branch? (relay own below) "/b/c".toList =
            some (.locator ⟨below, fun _ _ => some "relay".toList⟩, found) ∧
          found.remainder = some "/c".toList ∧ "/c".toList.length < "/b/c".toList.length) ∧
        (∃ limit, (resolve? [relay own below] (circle own below) true () limit
          { method := .get, path := "/a/b/c".toList }).isSome = true) ∧
        (trail [relay own below] (circle own below) true () 6
          { method := .get, path := "/a/b/c".toList }).length ≤ 7 ∧
        (resolve? [relay own below] (circle own below) true () 6
          { method := .get, path := "/a/b/c".toList }).isSome = true := by
  obtain ⟨mount, mountCompiled⟩ := @Uri.Pattern.exists_compile "/a".toList (by decide +kernel)
  obtain ⟨under, underCompiled⟩ := @Uri.Pattern.exists_compile "{name}".toList (by decide +kernel)
  have mountText : mount.text = "/a".toList :=
    Uri.Pattern.view_eq_of_compile mountCompiled (·.text) (by decide +kernel)
  have underText : under.text = "/{name}".toList :=
    Uri.Pattern.view_eq_of_compile underCompiled (·.text) (by decide +kernel)
  have underMatch : under.match? "/b/c".toList = some ⟨[some "b".toList], some "/c".toList⟩ :=
    Uri.Pattern.view_eq_of_compile underCompiled (·.match? "/b/c".toList) (by decide +kernel)
  have advances : Uri.Template.Advances under.text := by
    rw [underText]
    decide +kernel
  have declared := isDeclared_relay mountCompiled underCompiled
  have noStays : ∀ next resource,
      ¬ Stays [relay mount under] (circle mount under) () next resource := by
    rintro next resource ⟨reached, sub, present, stays, _⟩
    rw [eq_relay_of_isReachable reached] at present
    rw [List.mem_singleton.mp present] at stays
    exact stays advances
  obtain ⟨shrinks, ends, bounds⟩ :=
    @resolve?_ends _ (circle mount under) () [relay mount under]
      fun resource reached => eq_relay_of_isReachable reached ▸ declared
  have ranking : IsRanking [relay mount under] (circle mount under) () 0 fun _ => 0 :=
    ⟨fun _ _ => Nat.le_refl 0, fun next resource stays => absurd stays (noStays next resource)⟩
  have ended := ends ⟨fun resource => ⟨resource, fun next stays =>
    absurd stays (noStays next resource)⟩⟩
  have bounded := bounds 0 _ ranking true 6 { method := .get, path := "/a/b/c".toList }
  have branch := @branch?_relay mount _ _ _ underMatch
  have shorter := (shrinks _ _ _ _ _ (.root (List.mem_singleton.mpr rfl)) branch rfl).2 advances
  exact ⟨mount, under, declared, mountText, underText,
    ⟨_, branch, rfl, shorter⟩, ended true _, bounded.1, bounded.2 (by decide)⟩

/-- A relay that is handed all of its path again leads back to itself forever. -/
theorem resolve?_relay_eq_none
    {own below : Uri.Pattern}
    {path : Text}
    {found : Uri.PathMatch}
    (further : Uri.PathMatch.isTerminal (some path) = false)
    (ownMatch : own.match? path = some ⟨[], some path⟩)
    (matched : below.match? path = some found)
    (remainder : found.remainder = some path)
    (binds : ∀ request, ∃ bound, bind true below found request = (bound, none))
    (limit : Nat) :
    resolve? [relay own below] (circle own below) true () limit { method := .get, path := path } =
      none := by
  have endless : ∀ limit template request,
      descend (circle own below) true () limit (relay own below) template (some path) request =
        none := by
    intro limit
    induction limit with
    | zero =>
        intro template request
        obtain ⟨bound, binding⟩ := binds request
        exact (follows_relay further matched binding).descend_zero template
    | succ limit ih =>
        intro template request
        obtain ⟨bound, binding⟩ := binds request
        rw [(follows_relay further matched binding).descend_succ, remainder]
        exact ih _ _
  have rooted : root? [relay own below] path = some (relay own below, ⟨[], some path⟩) :=
    root?_of_only ownMatch (by simp [rootSearch, relay, Resource.hasSubResources])
  have rootBinding : ∀ request, bind true (relay own below).pattern ⟨[], some path⟩ request =
      (request, none) := by
    simp [bind, bindAll]
  simp only [resolve?, rooted, rootBinding, endless]

/--
A template whose first variable ends in a comment, which takes the parenthesis that should end the
expression.  What the second variable adds is an alternative to the slash.
-/
def swallowing : Text :=
  "/\x7ba:(?x)#\x7d\x7bb:[\nq))|^((/.*]\x7d".toList

/-- A locator that leads back to its resource and hands on all of a path is followed forever. -/
theorem resolve?_endless :
    (∃ own below : Uri.Pattern,
      (relay own below).IsDeclared ∧ below.text = "/".toList ∧
        ∀ limit, resolve? [relay own below] (circle own below) true () limit
          { method := .get, path := "/x".toList } = none) ∧
      ∃ own below : Uri.Pattern,
        (relay own below).IsDeclared ∧
          below.text = swallowing ∧
            ∀ limit, resolve? [relay own below] (circle own below) true () limit
              { method := .get, path := "/x]".toList } = none := by
  obtain ⟨slash, slashCompiled⟩ := @Uri.Pattern.exists_compile "/".toList (by decide +kernel)
  obtain ⟨under, underCompiled⟩ := @Uri.Pattern.exists_compile swallowing (by decide +kernel)
  have slashText : slash.text = "/".toList :=
    Uri.Pattern.view_eq_of_compile slashCompiled (·.text) (by decide +kernel)
  have slashNames : slash.names = [] :=
    Uri.Pattern.view_eq_of_compile slashCompiled (·.names) (by decide +kernel)
  have slashMatch : slash.match? "/x".toList = some ⟨[], some "/x".toList⟩ :=
    Uri.Pattern.view_eq_of_compile slashCompiled (·.match? "/x".toList) (by decide +kernel)
  have slashMatches : slash.match? "/x]".toList = some ⟨[], some "/x]".toList⟩ :=
    Uri.Pattern.view_eq_of_compile slashCompiled (·.match? "/x]".toList) (by decide +kernel)
  have underText : under.text = swallowing :=
    Uri.Pattern.view_eq_of_compile underCompiled (·.text) (by decide +kernel)
  have underNames : under.names = ["a".toList, "b".toList] :=
    Uri.Pattern.view_eq_of_compile underCompiled (·.names) (by decide +kernel)
  have underMatch : under.match? "/x]".toList =
      some ⟨[none, some "/x]".toList], some "/x]".toList⟩ :=
    Uri.Pattern.view_eq_of_compile underCompiled (·.match? "/x]".toList) (by decide +kernel)
  have decoded : Utf8.decode? (Percent.decode "/x]".toList) = some "/x]".toList := by
    decide +kernel
  refine ⟨⟨slash, slash, isDeclared_relay slashCompiled slashCompiled, slashText,
    resolve?_relay_eq_none (by decide) slashMatch slashMatch rfl fun request => ⟨request, ?_⟩⟩,
    slash, under, isDeclared_relay slashCompiled underCompiled, underText,
    resolve?_relay_eq_none (by decide) slashMatches underMatch rfl fun request =>
      ⟨request.bind "b".toList "/x]".toList, ?_⟩⟩
  · simp [bind, slashNames, bindAll]
  · rw [bind, underNames]
    simp only [List.zip_cons_cons, List.zip_nil_left, bindAll, parameterText, if_true, decoded]

end Resolution
end ResourceRouting
