import ResourceRouting.Proofs.Dispatch.Selection
import ResourceRouting.Proofs.Resolution.Target
import ResourceRouting.Proofs.Resource.Declared
import ResourceRouting.Proofs.Uri.Order
import ResourceRouting.Proofs.Uri.Shape.Pattern

/-!
# What a handler sees of the path

The operations below a resource that have the same pattern are candidates for the same paths.  The
variables are bound before one of the operations is selected, and they are those of the operation
that has been matched.  An operation with other names does not see its own parameters.
-/

namespace ResourceRouting

namespace PathParameters

/-- A name that has been bound has a text. -/
theorem isSome_get?_of_mem
    {parameters : PathParameters}
    {name text : Text}
    (present : (name, text) ∈ parameters.bindings) :
    (parameters.get? name).isSome = true := by
  rw [get?, List.lookup_isSome_iff]
  exact ⟨(name, text), List.mem_reverse.mpr present, beq_self_eq_true name⟩

end PathParameters

namespace Resolution

variable {σ : Type}

/-- A request has the variables of a pattern bound to what they capture from a path. -/
structure SeesOwn
    (decode : Bool)
    (pattern : Uri.Pattern)
    (path : Text)
    (found : Uri.PathMatch)
    (bound : Request) : Prop where
  /-- The pattern matches the path. -/
  matched : pattern.match? path = some found
  /-- What an occurrence of a variable captures is bound to its name. -/
  captured : ∀ (index : Nat) (name value : Text),
    pattern.names[index]? = some name → found.values[index]? = some (some value) →
      ∃ text, decodeValue decode value = some text ∧ (name, text) ∈ bound.parameters.bindings
  /-- Every name has a text if all occurrences capture something. -/
  named : none ∉ found.values → ∀ name ∈ pattern.names, (bound.parameter? name).isSome = true
  /-- All occurrences capture something if they have the default expression. -/
  complete : Uri.Template.UsesDefaults pattern.text → none ∉ found.values

/-- Binding the variables of a pattern makes a request see them. -/
theorem seesOwn_of_bind
    {decode : Bool}
    {pattern : Uri.Pattern}
    {path : Text}
    {found : Uri.PathMatch}
    {before bound : Request}
    (compiled : pattern.IsCompiled)
    (matched : pattern.match? path = some found)
    (binding : bind decode pattern found before = (bound, none)) :
    SeesOwn decode pattern path found bound := by
  have captured : ∀ (index : Nat) (name value : Text),
      pattern.names[index]? = some name → found.values[index]? = some (some value) →
        ∃ text, decodeValue decode value = some text ∧
          (name, text) ∈ bound.parameters.bindings := by
    intro index name value named valued
    apply mem_bindings_of_bindAll binding
    exact List.mem_of_getElem? (List.getElem?_zip_eq_some.mpr ⟨named, valued⟩)
  refine ⟨matched, captured, ?_, ?_⟩
  · intro all name present
    obtain ⟨index, named⟩ := List.getElem?_of_mem present
    have inside : index < found.values.length := by
      rw [compiled.length_values matched]
      exact (List.getElem?_eq_some_iff.mp named).1
    cases valued : found.values[index] with
    | none =>
        have missing := List.getElem_mem inside
        rw [valued] at missing
        exact absurd missing all
    | some value =>
        obtain ⟨text, _, bound'⟩ := captured index name value named
          (List.getElem?_eq_some_iff.mpr ⟨inside, valued⟩)
        exact PathParameters.isSome_get?_of_mem bound'
  · intro defaults
    by_cases empty : path = []
    · subst empty
      rw [Uri.Pattern.match?] at matched
      split at matched <;> cases matched
      exact List.not_mem_nil
    have nonempty : path ≠ [] := empty
    obtain ⟨shape, _, follows⟩ := compiled.exists_follows defaults
      (Uri.Pattern.ne_empty_of_match? nonempty matched)
    rw [follows.match? path nonempty] at matched
    obtain ⟨values, _, _, _, _, rfl⟩ := Uri.Shape.exists_reading_of_match? matched
    simp

/-- Two patterns have the same variables: the same names at the same groups. -/
def SameVariables (first second : Uri.Pattern) : Prop :=
  first.names = second.names ∧ first.template.groups = second.template.groups

/-- What is seen under one pattern is seen under the same pattern with the same variables. -/
theorem SeesOwn.of_same
    {decode : Bool}
    {pattern other : Uri.Pattern}
    {path : Text}
    {found : Uri.PathMatch}
    {before bound : Request}
    (compiled : pattern.IsCompiled)
    (otherCompiled : other.IsCompiled)
    (same : other.same pattern = true)
    (alike : SameVariables other pattern)
    (matched : pattern.match? path = some found)
    (binding : bind decode pattern found before = (bound, none)) :
    SeesOwn decode other path found bound := by
  obtain ⟨isEmpty, matcher⟩ := otherCompiled.matcher_eq_of_same compiled same
  apply seesOwn_of_bind otherCompiled
  · rw [Uri.Pattern.match?_congr isEmpty matcher alike.2, matched]
  · rwa [bind, alike.1]

/--
A path leads to a resource: what of the path is left there, and what the request has bound on the
way.  The best root resource takes the path, and a locator takes what is left on its resource.
-/
inductive LeadsTo
    (resources : List (Resource σ))
    (directory : Directory σ)
    (decode : Bool)
    (state : σ)
    (request : Request) :
    Resource σ → Option Text → Request → Prop
  /-- The best root resource for the path. -/
  | root
      {resource : Resource σ}
      {found : Uri.PathMatch}
      {bound : Request}
      (chosen : root? resources request.path = some (resource, found))
      (binding : bind decode resource.pattern found request = (bound, none)) :
      LeadsTo resources directory decode state request resource found.remainder bound
  /-- The resource that a locator finds, which is the best branch for what is left. -/
  | located
      {resource next : Resource σ}
      {rest : Text}
      {sub : Locator σ}
      {found : Uri.PathMatch}
      {before bound : Request}
      (led : LeadsTo resources directory decode state request resource (some rest) before)
      (further : Uri.PathMatch.isTerminal (some rest) = false)
      (chosen : branch? resource rest = some (.locator sub, found))
      (binding : bind decode sub.pattern found before = (bound, none))
      (locates : (sub.locate bound state).bind directory = some next) :
      LeadsTo resources directory decode state request next found.remainder bound

/--
How the way of a path ends at a target, depending on what of the path is left at its resource.
-/
inductive EndsAt
    (decode : Bool)
    (before bound : Request)
    (target : Target σ) :
    Option Text → Prop
  /-- Nothing is left: the target has the operations of the resource itself. -/
  | itself
      {remainder : Option Text}
      (terminal : Uri.PathMatch.isTerminal remainder = true)
      (operations : target.operations = target.resource.operations)
      (unchanged : bound = before) :
      EndsAt decode before bound target remainder
  /-- The best branch for what is left is an operation: the target has those of its pattern. -/
  | below
      {rest : Text}
      {winner : SubOperation σ}
      {found : Uri.PathMatch}
      (further : Uri.PathMatch.isTerminal (some rest) = false)
      (chosen : branch? target.resource rest = some (.operation winner, found))
      (operations : target.operations = operationsOf target.resource winner.pattern)
      (binding : bind decode winner.pattern found before = (bound, none)) :
      EndsAt decode before bound target (some rest)

/-- A descent goes on with the way to its resource, and ends at its target. -/
theorem exists_endsAt_of_descend
    {resources : List (Resource σ)}
    {directory : Directory σ}
    {decode : Bool}
    {state : σ}
    {limit : Nat}
    {resource : Resource σ}
    {template : Text}
    {remainder : Option Text}
    {request middle bound : Request}
    {target : Target σ}
    (located : ∀ key next, directory key = some next → next.IsDeclared)
    (declared : resource.IsDeclared)
    (led : LeadsTo resources directory decode state request resource remainder middle)
    (result : descend directory decode state limit resource template remainder middle =
      some (bound, .ok target)) :
    target.resource.IsDeclared ∧
      ∃ left before, LeadsTo resources directory decode state request target.resource left before ∧
        EndsAt decode before bound target left := by
  induction limit using Nat.strongRecOn generalizing resource template remainder middle with
  | ind limit ih =>
      rcases descend_cases result with
        ⟨terminal, rfl, rfl, _⟩ | ⟨rest, sub, found, rfl, further, chosen, binding, rfl, _⟩ |
          ⟨rest, sub, found, after, next, less, rfl, further, chosen, binding, locates, deeper,
            rfl, _⟩
      · exact ⟨declared, remainder, bound, led, .itself terminal rfl rfl⟩
      · exact ⟨declared, some rest, middle, led, .below further chosen rfl binding⟩
      · obtain ⟨key, _, nextFound⟩ := Option.bind_eq_some_iff.mp locates
        exact ih less (Nat.lt_succ_self less) (located key next nextFound)
          (.located led further chosen binding locates) deeper

/-- A resolution finds a target where the way of the path ends. -/
theorem exists_endsAt_of_resolve?
    {resources : List (Resource σ)}
    {directory : Directory σ}
    {decode : Bool}
    {state : σ}
    {limit : Nat}
    {request bound : Request}
    {target : Target σ}
    (declared : ∀ resource ∈ resources, resource.IsDeclared)
    (located : ∀ key next, directory key = some next → next.IsDeclared)
    (resolved : resolve? resources directory decode state limit request =
      some (bound, .ok target)) :
    target.resource.IsDeclared ∧
      ∃ left before, LeadsTo resources directory decode state request target.resource left before ∧
        EndsAt decode before bound target left := by
  obtain ⟨resource, found, after, chosen, binding, further, _⟩ :=
    exists_descend_of_resolve? resolved
  exact exists_endsAt_of_descend located (declared resource (Uri.Search.of_find?_eq_some chosen).1)
    (.root chosen binding) further

/--
What the handler of a selected operation sees of the path.  The path leads to the resource of the
target.  Either nothing of the path is left there and the operation is one of the resource itself,
or what is left goes to the best branch of the resource: the operation has the pattern of this
branch, and the request has the variables of every operation of this pattern bound to what they
capture from what is left, if the operation has the same variables as the branch.
-/
theorem selected_seesOwn
    {dispatcher : Dispatcher σ}
    {state : σ}
    {limit : Nat}
    {request bound : Request}
    {target : Target σ}
    {selection : Dispatch.Selection σ}
    (declared : ∀ resource ∈ dispatcher.resources, resource.IsDeclared)
    (located : ∀ key next, dispatcher.directory key = some next → next.IsDeclared)
    (resolved : resolve? dispatcher.resources dispatcher.directory
      dispatcher.settings.decodesParameters state limit request = some (bound, .ok target))
    (selected : Dispatch.select dispatcher.settings target.operations bound =
      .ok (some selection)) :
    ∃ left before,
      LeadsTo dispatcher.resources dispatcher.directory dispatcher.settings.decodesParameters state
          request target.resource left before ∧
        ((Uri.PathMatch.isTerminal left = true ∧ bound = before ∧
            target.operations = target.resource.operations ∧
            selection.operation ∈ target.resource.operations) ∨
          ∃ rest winner found,
            left = some rest ∧ Uri.PathMatch.isTerminal left = false ∧
              branch? target.resource rest = some (.operation winner, found) ∧
              target.operations = operationsOf target.resource winner.pattern ∧
              (∃ sub ∈ target.resource.subOperations,
                sub.operation = selection.operation ∧ sub.pattern.same winner.pattern = true) ∧
              ∀ sub ∈ target.resource.subOperations,
                sub.pattern.same winner.pattern = true →
                  SameVariables sub.pattern winner.pattern →
                    SeesOwn dispatcher.settings.decodesParameters sub.pattern rest found bound) := by
  obtain ⟨targetDeclared, left, before, led, ends⟩ :=
    exists_endsAt_of_resolve? declared located resolved
  have member := Dispatch.mem_of_select selected
  refine ⟨left, before, led, ?_⟩
  cases ends with
  | itself terminal operations unchanged =>
      exact .inl ⟨terminal, unchanged, operations, operations ▸ member⟩
  | @below rest winner found further chosen operations binding =>
      rw [operations, mem_operationsOf_iff] at member
      obtain ⟨inBranches, matched, _⟩ := Uri.Search.of_find?_eq_some chosen
      have compiled := targetDeclared.compiled.2.subOperations
      have winnerCompiled := compiled winner (mem_subOperations_of_branch inBranches)
      refine .inr ⟨rest, winner, found, rfl, further, chosen, operations, member, ?_⟩
      exact fun sub inList same alike =>
        .of_same winnerCompiled (compiled sub inList) same alike matched binding

/-- An operation that does nothing. -/
def silent (method : Method) : Operation Unit where
  method := method
  handler _ state := (.ok .ok, state)

/-- A resource with an operation to read and one to write below it. -/
def readWrite (own readPattern writePattern : Uri.Pattern) : Resource Unit :=
  ⟨"r".toList, own, [], [⟨readPattern, silent .get⟩, ⟨writePattern, silent .post⟩], []⟩

/-- Templates that have patterns make a resource with two operations below it. -/
theorem isDeclared_readWrite
    {template readTemplate writeTemplate : Text}
    {own readPattern writePattern : Uri.Pattern}
    (ownCompiled : Uri.Pattern.compile template = .ok own)
    (readCompiled : Uri.Pattern.compile readTemplate = .ok readPattern)
    (writeCompiled : Uri.Pattern.compile writeTemplate = .ok writePattern) :
    (readWrite own readPattern writePattern).IsDeclared := by
  have distinct : (silent .get).conflictsWith (silent .post) = false := by decide
  refine Resource.isDeclared_of_compiled ⟨template, ownCompiled⟩ ⟨?_, by simp [readWrite]⟩ ?_
  · simpa [readWrite] using ⟨⟨readTemplate, readCompiled⟩, writeTemplate, writeCompiled⟩
  · simp [Resource.checkConflicts, Resource.firstConflict, SubOperation.conflictsWith, distinct,
      readWrite]

/-- A path with something left over belongs to the resource. -/
theorem root?_readWrite
    {own readPattern writePattern : Uri.Pattern}
    {path rest : Text}
    (ownMatch : own.match? path = some ⟨[], some rest⟩) :
    root? [readWrite own readPattern writePattern] path =
      some (readWrite own readPattern writePattern, ⟨[], some rest⟩) :=
  root?_of_only ownMatch (by simp [rootSearch, readWrite, Resource.hasSubResources])

/--
Where the two patterns are the same a path is resolved to both operations, and the variables of
the first one are bound.
-/
theorem resolve?_readWrite
    {own readPattern writePattern : Uri.Pattern}
    {request bound : Request}
    {rest : Text}
    {found : Uri.PathMatch}
    (ownMatch : own.match? request.path = some ⟨[], some rest⟩)
    (further : Uri.PathMatch.isTerminal (some rest) = false)
    (readMatch : readPattern.match? rest = some found)
    (writeMatch : writePattern.match? rest = some found)
    (terminal : Uri.PathMatch.isTerminal found.remainder = true)
    (tie : writePattern.order readPattern = .eq)
    (same : writePattern.same readPattern = true)
    (binding : bind true readPattern found request = (bound, none)) :
    resolve? [readWrite own readPattern writePattern] (fun _ => none) true () 0 request =
      some (bound, .ok ⟨readWrite own readPattern writePattern, [silent .get, silent .post],
        own.text ++ readPattern.text⟩) := by
  have rooted := @root?_readWrite _ readPattern writePattern _ _ ownMatch
  have readAdmitted : branchSearch.admitted? rest (.operation ⟨readPattern, silent .get⟩) =
      some (.operation ⟨readPattern, silent .get⟩, found) :=
    Uri.Search.admitted?_eq_some_iff.mpr ⟨rfl, readMatch, terminal⟩
  have writeAdmitted : branchSearch.admitted? rest (.operation ⟨writePattern, silent .post⟩) =
      some (.operation ⟨writePattern, silent .post⟩, found) :=
    Uri.Search.admitted?_eq_some_iff.mpr ⟨rfl, writeMatch, terminal⟩
  have kept : Branch.precedes (.operation ⟨writePattern, silent .post⟩)
      (.operation ⟨readPattern, silent .get⟩) = false := by
    simp [Branch.precedes, Branch.pattern, tie, Branch.isLocator]
  have branched : branch? (readWrite own readPattern writePattern) rest =
      some (.operation ⟨readPattern, silent .get⟩, found) := by
    have admitted : branchSearch.admitted rest (branches (readWrite own readPattern writePattern)) =
        [(.operation ⟨readPattern, silent .get⟩, found),
          (.operation ⟨writePattern, silent .post⟩, found)] := by
      simp [Uri.Search.admitted, branches, readWrite, readAdmitted, writeAdmitted]
    rw [branch?, Uri.Search.find?_eq, admitted]
    simp [Choice.firstBest, Choice.prefer, Uri.Search.betterEntry, branchSearch, kept]
  have operations : operationsOf (readWrite own readPattern writePattern) readPattern =
      [silent .get, silent .post] := by
    have itself : readPattern.same readPattern = true := decide_eq_true rfl
    simp [operationsOf, readWrite, itself, same]
  have rootBinding : bind true (readWrite own readPattern writePattern).pattern
      ⟨[], some rest⟩ request = (request, none) := by
    simp [bind, bindAll]
  simp only [resolve?, rooted, rootBinding, descend, further, Bool.false_eq_true, if_false,
    branched, binding, operations]
  rfl

/-- What is selected for a request to write is the second operation. -/
theorem select_readWrite {request : Request} (write : request.method = .post)
    (bare : request.headers = {}) :
    Dispatch.select {} [silent .get, silent .post] request =
      .ok (some ⟨silent .post, ⟨.wildcard, .wildcard⟩⟩) := by
  obtain ⟨method, path, query, headers, body, parameters, id⟩ := request
  cases write
  cases bare
  rfl

/-- A request to write below the resource. -/
def writeRequest : Request := { method := .post, path := "/r/1".toList }

/-- The resource is mounted so that one segment of the request is left below it. -/
theorem exists_mount :
    ∃ mount, Uri.Pattern.compile "/r".toList = .ok mount ∧
      mount.match? writeRequest.path = some ⟨[], some "/1".toList⟩ := by
  obtain ⟨mount, compiled⟩ := @Uri.Pattern.exists_compile "/r".toList (by decide +kernel)
  exact ⟨mount, compiled,
    Uri.Pattern.view_eq_of_compile compiled (·.match? "/r/1".toList) (by decide +kernel)⟩

/-- A pattern of one variable binds this segment to its name. -/
theorem bind_writeRequest
    {pattern : Uri.Pattern}
    {name : Text}
    (names : pattern.names = [name]) :
    bind true pattern ⟨[some ['1']], none⟩ writeRequest =
      ({ writeRequest with parameters := ⟨[(name, ['1'])]⟩ }, none) := by
  have decoded : Utf8.decode? (Percent.decode ['1']) = some ['1'] := by decide +kernel
  rw [bind, names]
  simp only [List.zip_cons_cons, List.zip_nil_right, bindAll, parameterText, decoded, if_true]
  rfl

/-- Where locators find nothing a path leads to a root resource only. -/
theorem LeadsTo.exists_root?
    {resources : List (Resource σ)}
    {decode : Bool}
    {state : σ}
    {request bound : Request}
    {resource : Resource σ}
    {left : Option Text}
    (led : LeadsTo resources (fun _ => none) decode state request resource left bound) :
    ∃ found, root? resources request.path = some (resource, found) ∧ left = found.remainder := by
  cases led with
  | root chosen _ => exact ⟨_, chosen, rfl⟩
  | located _ _ _ _ locates =>
      obtain ⟨_, _, ⟨⟩⟩ := Option.bind_eq_some_iff.mp locates

/-- Of two operations with one template the second one sees the parameter. -/
theorem selected_seesOwn_readWrite :
    ∃ (dispatcher : Dispatcher Unit) (bound : Request) (target : Target Unit)
      (selection : Dispatch.Selection Unit) (sub : SubOperation Unit) (found : Uri.PathMatch),
      (∀ resource ∈ dispatcher.resources, resource.IsDeclared) ∧
        (∀ key next, dispatcher.directory key = some next → next.IsDeclared) ∧
        resolve? dispatcher.resources dispatcher.directory
            dispatcher.settings.decodesParameters () 0 writeRequest =
          some (bound, .ok target) ∧
        Dispatch.select dispatcher.settings target.operations bound = .ok (some selection) ∧
        LeadsTo dispatcher.resources dispatcher.directory dispatcher.settings.decodesParameters ()
          writeRequest target.resource (some "/1".toList) writeRequest ∧
        sub ∈ target.resource.subOperations ∧ sub.operation = selection.operation ∧
        SeesOwn dispatcher.settings.decodesParameters sub.pattern "/1".toList found bound ∧
        sub.pattern.names = ["a".toList] ∧ bound.parameter? "a".toList = some "1".toList := by
  obtain ⟨mount, mountCompiled, ownMatch⟩ := exists_mount
  obtain ⟨below, belowCompiled⟩ := @Uri.Pattern.exists_compile "{a}".toList (by decide +kernel)
  have belowMatch : below.match? "/1".toList = some ⟨[some ['1']], none⟩ :=
    Uri.Pattern.view_eq_of_compile belowCompiled (·.match? "/1".toList) (by decide +kernel)
  have belowNames : below.names = ["a".toList] :=
    Uri.Pattern.view_eq_of_compile belowCompiled (·.names) (by decide +kernel)
  have itself : below.same below = true := decide_eq_true rfl
  have rooted := @root?_readWrite mount below below _ _ ownMatch
  have resolved := resolve?_readWrite ownMatch (by decide) belowMatch belowMatch rfl
    Std.ReflCmp.compare_self itself (bind_writeRequest belowNames)
  have selected : Dispatch.select {} [silent .get, silent .post]
      { writeRequest with parameters := ⟨[("a".toList, ['1'])]⟩ } =
        .ok (some ⟨silent .post, ⟨.wildcard, .wildcard⟩⟩) := select_readWrite rfl rfl
  have declared : ∀ resource ∈ [readWrite mount below below],
      resource.IsDeclared := by
    intro resource present
    rw [List.mem_singleton.mp present]
    exact isDeclared_readWrite mountCompiled belowCompiled belowCompiled
  have located : ∀ (key : Text) (next : Resource Unit), none = some next → next.IsDeclared := by
    rintro _ _ ⟨⟩
  let dispatcher : Dispatcher Unit :=
    { resources := [readWrite mount below below]
      directory := fun _ => none }
  obtain ⟨left, before, led, ends⟩ :=
    @selected_seesOwn Unit dispatcher () 0 _ _ _ _ declared located resolved selected
  obtain ⟨taken, chosen, rfl⟩ := led.exists_root?
  obtain rfl := (Prod.mk.inj (Option.some.inj (chosen.symm.trans rooted))).2
  rcases ends with ⟨terminal, _⟩ | ⟨rest, winner, found, left, _, branched, _, _, sees⟩
  · cases terminal
  · obtain rfl := Option.some.inj left
    have shared : winner.pattern = below := by
      have present := mem_subOperations_of_branch (Uri.Search.of_find?_eq_some branched).1
      simp only [readWrite, List.mem_cons, List.not_mem_nil, or_false] at present
      rcases present with rfl | rfl <;> rfl
    have present : (⟨below, silent .post⟩ : SubOperation Unit) ∈
        (readWrite mount below below).subOperations := by
      simp [readWrite]
    have own := sees _ present (shared ▸ itself) (shared ▸ ⟨rfl, rfl⟩)
    have rootBinding : bind true (readWrite mount below below).pattern
        ⟨[], some "/1".toList⟩ writeRequest = (writeRequest, none) := by
      simp [bind, bindAll]
    exact ⟨dispatcher, _, _, _, _, found, declared, located, resolved, selected,
      .root rooted rootBinding, present, rfl, own, belowNames, by decide⟩

/-- Of two operations with differently named variables the second one misses its parameter. -/
theorem selected_not_seesOwn :
    ∃ (resource : Resource Unit) (bound : Request) (target : Target Unit)
      (selection : Dispatch.Selection Unit) (sub : SubOperation Unit),
      resource.IsDeclared ∧
        resolve? [resource] (fun _ => none) true () 0 writeRequest = some (bound, .ok target) ∧
        Dispatch.select {} target.operations bound = .ok (some selection) ∧
        sub ∈ target.resource.subOperations ∧ sub.operation = selection.operation ∧
        sub.pattern.match? "/1".toList = some ⟨[some "1".toList], none⟩ ∧
        sub.pattern.names = ["b".toList] ∧ bound.parameter? "b".toList = none := by
  obtain ⟨mount, mountCompiled, ownMatch⟩ := exists_mount
  obtain ⟨first, firstCompiled⟩ := @Uri.Pattern.exists_compile "{a}".toList (by decide +kernel)
  obtain ⟨second, secondCompiled⟩ := @Uri.Pattern.exists_compile "{b}".toList (by decide +kernel)
  have firstMatch : first.match? "/1".toList = some ⟨[some ['1']], none⟩ :=
    Uri.Pattern.view_eq_of_compile firstCompiled (·.match? "/1".toList) (by decide +kernel)
  have secondMatch : second.match? "/1".toList = some ⟨[some ['1']], none⟩ :=
    Uri.Pattern.view_eq_of_compile secondCompiled (·.match? "/1".toList) (by decide +kernel)
  have firstNames : first.names = ["a".toList] :=
    Uri.Pattern.view_eq_of_compile firstCompiled (·.names) (by decide +kernel)
  have secondNames : second.names = ["b".toList] :=
    Uri.Pattern.view_eq_of_compile secondCompiled (·.names) (by decide +kernel)
  have firstRank : first.rank = ⟨false, 1, 1, "/([^/]+)(/.*)?".toList⟩ :=
    Uri.Pattern.view_eq_of_compile firstCompiled (·.rank) (by decide +kernel)
  have secondRank : second.rank = ⟨false, 1, 1, "/([^/]+)(/.*)?".toList⟩ :=
    Uri.Pattern.view_eq_of_compile secondCompiled (·.rank) (by decide +kernel)
  have firstExpression : first.expression = "/([^/]+)(/.*)?".toList :=
    Uri.Pattern.view_eq_of_compile firstCompiled (·.expression) (by decide +kernel)
  have secondExpression : second.expression = "/([^/]+)(/.*)?".toList :=
    Uri.Pattern.view_eq_of_compile secondCompiled (·.expression) (by decide +kernel)
  have tie : second.order first = .eq := by
    rw [Uri.Pattern.order_eq_rankOrder, firstRank, secondRank]
    decide
  have same : second.same first = true := by
    simp [Uri.Pattern.same, firstExpression, secondExpression]
  refine ⟨readWrite mount first second, _, _, _,
    ⟨second, silent .post⟩, isDeclared_readWrite mountCompiled firstCompiled secondCompiled,
    resolve?_readWrite ownMatch (by decide) firstMatch secondMatch rfl tie same
      (bind_writeRequest firstNames),
    select_readWrite rfl rfl, ?_, rfl, secondMatch, secondNames, by decide⟩
  simp [readWrite]

end Resolution
end ResourceRouting
