import Mathlib.Tactic.ByContra
import ResourceRouting.Proofs.Resolution.Binding
import ResourceRouting.Proofs.Resolution.Trail
import ResourceRouting.Proofs.Uri.Segments.Matching

/-!
# Chains of resources

Where every resource has one member only, a path leads down the chain of them.  A path that is
written along the templates of the chain is resolved to its end, and every variable is bound to
what was written for it.
-/

namespace ResourceRouting
namespace Uri
namespace Segment

/-- What is written for a segment fits it, and is read back as the text of its variable. -/
structure IsWritten
    (decode : Bool)
    (write : Segment → Text)
    (value : Text → Text)
    (segment : Segment) : Prop where
  /-- The text fits the segment. -/
  fits : segment.Fits (write segment)
  /-- The text is on one line. -/
  line : '\n' ∉ write segment
  /-- The text of a variable stands for its value. -/
  decoded : ∀ name, segment.name? = some name →
    Resolution.decodeValue decode (write segment) = some (value name)

theorem forall₂_fits_map
    {decode : Bool}
    {write : Segment → Text}
    {value : Text → Text}
    {segments : List Segment}
    (written : ∀ segment ∈ segments, segment.IsWritten decode write value) :
    List.Forall₂ Fits segments (segments.map write) := by
  rw [List.forall₂_map_right_iff, List.forall₂_same]
  exact fun segment present => (written segment present).fits

/-- The captured texts stand for the values of the names. -/
theorem map_captured
    {decode : Bool}
    {write : Segment → Text}
    {value : Text → Text}
    {segments : List Segment}
    (written : ∀ segment ∈ segments, segment.IsWritten decode write value) :
    (captured segments (segments.map write)).map (Resolution.decodeValue decode) =
      ((names segments).map value).map some := by
  induction segments with
  | nil => rfl
  | cons segment segments ih =>
      have others := ih fun other present => written other (List.mem_cons_of_mem _ present)
      have own := written segment (List.mem_cons_self ..)
      cases segment with
      | literal text => exact others
      | braced body =>
          have named : names (.braced body :: segments) =
              (Template.splitVariable body).1 :: names segments := rfl
          rw [named, List.map_cons, captured, List.map_cons, List.map_cons, List.map_cons, others,
            own.decoded _ rfl]

end Segment
end Uri

namespace Resolution

open Uri (Segment)

variable {σ : Type}

/-- A pattern is that of some segments. -/
structure IsRoute (pattern : Uri.Pattern) (segments : List Segment) : Prop where
  /-- There are segments. -/
  nonempty : segments ≠ []
  /-- The segments are valid. -/
  valid : ∀ segment ∈ segments, segment.IsValid
  /-- The pattern has the template of the segments. -/
  compiled : Uri.Pattern.compile (Segment.template segments false) = .ok pattern

/--
A chain of resources below a given one: the routes of its members on the way down, the last
resource, and the operations at the end.  No resource has a member off the chain.
-/
inductive Chain (directory : Directory σ) (state : σ) :
    Resource σ → List (List Segment) → Resource σ → List (Operation σ) → Prop
  /-- The chain ends at the operations of a resource. -/
  | arrived
      {resource : Resource σ}
      (operations : resource.operations ≠ [])
      (noOperations : resource.subOperations = [])
      (noLocators : resource.locators = []) :
      Chain directory state resource [] resource resource.operations
  /-- The chain ends at an operation below a resource. -/
  | operation
      {resource : Resource σ}
      {sub : SubOperation σ}
      {segments : List Segment}
      (only : resource.subOperations = [sub])
      (noLocators : resource.locators = [])
      (route : IsRoute sub.pattern segments) :
      Chain directory state resource [segments] resource [sub.operation]
  /-- A locator leads to the next resource. -/
  | locator
      {resource next last : Resource σ}
      {sub : Locator σ}
      {segments : List Segment}
      {routes : List (List Segment)}
      {operations : List (Operation σ)}
      (noOperations : resource.subOperations = [])
      (only : resource.locators = [sub])
      (route : IsRoute sub.pattern segments)
      (located : ∀ request, (sub.locate request state).bind directory = some next)
      (further : Chain directory state next routes last operations) :
      Chain directory state resource (segments :: routes) last operations

/-- A request with more bindings behind its own. -/
def bindValues (value : Text → Text) (names : List Text) (request : Request) : Request :=
  { request with
    parameters := ⟨request.parameters.bindings ++ names.map fun name => (name, value name)⟩ }

@[simp]
theorem bindValues_append (value : Text → Text) (first second : List Text) (request : Request) :
    bindValues value second (bindValues value first request) =
      bindValues value (first ++ second) request := by
  simp [bindValues]

/-- The pattern of a route is compiled: its fields and its matches are those of the segments. -/
theorem IsRoute.compile
    {pattern : Uri.Pattern}
    {segments : List Segment}
    (route : IsRoute pattern segments) :
    pattern.text = Segment.template segments false ∧ pattern.names = Segment.names segments ∧
      ∀ path, path ≠ [] →
        pattern.match? path = Uri.Shape.match? (Segment.shapeOf segments) path := by
  obtain ⟨compiled, _, text, names, _, results⟩ :=
    @Segment.compile_template segments route.valid false (.inl route.nonempty)
  obtain ⟨small, large⟩ := results Regex.Expr.fits
  have fits : (Segment.wholeExpr segments).fits = true := by
    by_contra tooLarge
    have refused := large (Bool.eq_false_iff.mpr tooLarge)
    rw [← Uri.Pattern.compile, route.compiled] at refused
    cases refused
  obtain ⟨same, sameOk, sameTemplate, matches'⟩ := small fits
  obtain rfl : same = pattern := Except.ok.inj (sameOk.symm.trans route.compiled)
  refine ⟨?_, ?_, matches'⟩
  · rw [Uri.Pattern.text, sameTemplate, text]
  · rw [Uri.Pattern.names, sameTemplate, names]

/-- Valid segments have a route if their expression is not too large. -/
theorem exists_isRoute
    {segments : List Segment}
    (nonempty : segments ≠ [])
    (valid : ∀ segment ∈ segments, segment.IsValid)
    (fits : (Segment.wholeExpr segments).fits = true) :
    ∃ pattern, IsRoute pattern segments := by
  obtain ⟨_, _, _, _, _, results⟩ := Segment.compile_template valid (.inl nonempty)
  obtain ⟨pattern, compiled, _⟩ := (results Regex.Expr.fits).1 fits
  exact ⟨pattern, nonempty, valid, compiled⟩

theorem IsRoute.text
    {pattern : Uri.Pattern}
    {segments : List Segment}
    (route : IsRoute pattern segments) :
    pattern.text = Segment.template segments false :=
  route.compile.1

/-- A route matches what is written along its segments, and binds its names to their values. -/
theorem IsRoute.match?_bind
    {pattern : Uri.Pattern}
    {segments : List Segment}
    {decode : Bool}
    {write : Segment → Text}
    {value : Text → Text}
    {rest : Text}
    (route : IsRoute pattern segments)
    (written : ∀ segment ∈ segments, segment.IsWritten decode write value)
    (remainder : Segment.IsRemainder rest) :
    ∃ found, pattern.match? (Segment.join (segments.map write) ++ rest) = some found ∧
      found.remainder = Segment.noted rest ∧
        ∀ request, bind decode pattern found request =
          (bindValues value (Segment.names segments) request, none) := by
  obtain ⟨_, names, matches'⟩ := route.compile
  have divides : Segment.Divides segments (Segment.join (segments.map write) ++ rest)
      (segments.map write) rest :=
    ⟨Segment.forall₂_fits_map written, remainder, rfl⟩
  have nonempty : Segment.join (segments.map write) ++ rest ≠ [] := by
    intro empty
    cases segments with
    | nil => exact route.nonempty rfl
    | cons segment segments => cases empty
  refine ⟨⟨(Segment.captured segments (segments.map write)).map some, Segment.noted rest⟩, ?_,
    rfl, ?_⟩
  · rw [matches' _ nonempty, divides.match?_shapeOf route.valid]
  · intro request
    have decoded := Segment.map_captured written
    have counts : (Segment.names segments).length =
        (Segment.captured segments (segments.map write)).length := by
      have lengths := congrArg List.length decoded
      simpa using lengths.symm
    have paired : (Segment.names segments).zip ((Segment.names segments).map value) =
        (Segment.names segments).map fun name => (name, value name) := by
      rw [List.zip_eq_zipWith, List.zipWith_map_right, List.zipWith_self]
    rw [bind, names, bindAll_of_decodeValue counts decoded, paired]
    rfl

/-- The template of some routes put together. -/
def routeTemplate (routes : List (List Segment)) : Text :=
  Segment.template routes.flatten false

/-- What is written along some routes. -/
def routePath (write : Segment → Text) (routes : List (List Segment)) : Text :=
  Segment.join (routes.flatten.map write)

/-- The names of the variables along some routes, one for each occurrence. -/
def routeNames (routes : List (List Segment)) : List Text :=
  Segment.names routes.flatten

@[simp]
theorem routeTemplate_cons (segments : List Segment) (routes : List (List Segment)) :
    routeTemplate (segments :: routes) =
      Segment.template segments false ++ routeTemplate routes := by
  rw [routeTemplate, routeTemplate, List.flatten_cons, Segment.template_append]

@[simp]
theorem routePath_cons
    (write : Segment → Text)
    (segments : List Segment)
    (routes : List (List Segment)) :
    routePath write (segments :: routes) =
      Segment.join (segments.map write) ++ routePath write routes := by
  rw [routePath, routePath, List.flatten_cons, List.map_append, Segment.join_append]

@[simp]
theorem routeNames_cons (segments : List Segment) (routes : List (List Segment)) :
    routeNames (segments :: routes) = Segment.names segments ++ routeNames routes := by
  simp [routeNames, Segment.names]

theorem isRemainder_routePath
    {decode : Bool}
    {write : Segment → Text}
    {value : Text → Text}
    {routes : List (List Segment)}
    (written : ∀ segment ∈ routes.flatten, segment.IsWritten decode write value) :
    Segment.IsRemainder (routePath write routes) := by
  apply Segment.isRemainder_join
  intro text present
  obtain ⟨segment, inRoutes, rfl⟩ := List.mem_map.mp present
  exact (written segment inRoutes).line

/-- What is written along a route is more than a slash. -/
theorem IsRoute.not_isTerminal
    {pattern : Uri.Pattern}
    {segments : List Segment}
    {decode : Bool}
    {write : Segment → Text}
    {value : Text → Text}
    (route : IsRoute pattern segments)
    (written : ∀ segment ∈ segments, segment.IsWritten decode write value)
    (rest : Text) :
    Segment.noted (Segment.join (segments.map write) ++ rest) =
        some (Segment.join (segments.map write) ++ rest) ∧
      Uri.PathMatch.isTerminal (some (Segment.join (segments.map write) ++ rest)) = false := by
  obtain ⟨nonempty, valid, _⟩ := route
  cases segments with
  | nil => exact absurd rfl nonempty
  | cons segment segments =>
      have own := Segment.ne_nil_of_fits (valid segment (List.mem_cons_self ..))
        (written segment (List.mem_cons_self ..)).fits
      refine ⟨by simp [Segment.noted], ?_⟩
      simp [Uri.PathMatch.isTerminal, own]

theorem operationsOf_of_only
    {resource : Resource σ}
    {sub : SubOperation σ}
    (only : resource.subOperations = [sub]) :
    operationsOf resource sub.pattern = [sub.operation] := by
  simp [operationsOf, only, Uri.Pattern.same]

/-- A path that is written along a chain leads down the chain and binds the values. -/
theorem Chain.descend
    {directory : Directory σ}
    {state : σ}
    {resource last : Resource σ}
    {routes : List (List Segment)}
    {operations : List (Operation σ)}
    (chain : Chain directory state resource routes last operations)
    {decode : Bool}
    {write : Segment → Text}
    {value : Text → Text}
    (written : ∀ segment ∈ routes.flatten, segment.IsWritten decode write value)
    {limit : Nat}
    (enough : routes.length ≤ limit)
    (template : Text)
    (request : Request) :
    Resolution.descend directory decode state limit resource template
        (Segment.noted (routePath write routes)) request =
      some (bindValues value (routeNames routes) request,
        .ok ⟨last, operations, template ++ routeTemplate routes⟩) := by
  induction chain generalizing limit template request with
  | arrived present _ _ =>
      have unchanged : bindValues value (routeNames []) request = request := by
        simp [bindValues, routeNames, Segment.names]
      rw [unchanged]
      simp [Segment.noted, routePath, Resolution.descend, arrive, present, routeTemplate,
        Segment.template]
  | @operation resource sub segments only noLocators route =>
      simp only [List.flatten_cons, List.flatten_nil, List.append_nil] at written
      have ended : Segment.IsRemainder [] := .inl rfl
      obtain ⟨found, matched, left, bound⟩ := route.match?_bind written ended
      obtain ⟨noted, notTerminal⟩ := route.not_isTerminal written []
      have chosen : branch? resource (Segment.join (segments.map write) ++ []) =
          some (.operation sub, found) :=
        branch?_of_only (by simp [branches, only, noLocators]) matched (by
          rw [left]
          rfl)
      rw [routePath_cons, routeNames_cons, routeTemplate_cons, ← route.text]
      simp only [routePath, List.flatten_nil, List.map_nil, Segment.join_nil, noted]
      unfold Resolution.descend
      simp only [notTerminal, Bool.false_eq_true, if_false, chosen, bound,
        operationsOf_of_only only]
      simp [routeNames, routeTemplate, Segment.names, Segment.template]
  | @locator resource next last sub segments routes operations noOperations only route located
      further ih =>
      rw [List.flatten_cons] at written
      have own := fun segment present => written segment (List.mem_append_left _ present)
      have others := fun segment present => written segment (List.mem_append_right _ present)
      obtain ⟨found, matched, left, bound⟩ :=
        route.match?_bind own (isRemainder_routePath others)
      obtain ⟨noted, notTerminal⟩ := route.not_isTerminal own (routePath write routes)
      have chosen : branch? resource
          (Segment.join (segments.map write) ++ routePath write routes) =
            some (.locator sub, found) :=
        branch?_of_only (by simp [branches, only, noOperations]) matched rfl
      cases limit with
      | zero => cases enough
      | succ less =>
          rw [routePath_cons, routeNames_cons, routeTemplate_cons, ← route.text, noted]
          unfold Resolution.descend
          simp only [notTerminal, Bool.false_eq_true, if_false, chosen, bound, located, left]
          rw [ih others (Nat.le_of_succ_le_succ enough), bindValues_append, List.append_assoc]

/-- A path that is written along a chain and its root is resolved to the end of the chain. -/
theorem Chain.resolve?
    {directory : Directory σ}
    {state : σ}
    {root last : Resource σ}
    {segments : List Segment}
    {routes : List (List Segment)}
    {operations : List (Operation σ)}
    (route : IsRoute root.pattern segments)
    (chain : Chain directory state root routes last operations)
    {decode : Bool}
    {write : Segment → Text}
    {value : Text → Text}
    (written : ∀ segment ∈ (segments :: routes).flatten, segment.IsWritten decode write value)
    {limit : Nat}
    (enough : routes.length ≤ limit)
    {request : Request}
    (path : request.path = routePath write (segments :: routes)) :
    Resolution.resolve? [root] directory decode state limit request =
      some (bindValues value (routeNames (segments :: routes)) request,
        .ok ⟨last, operations, routeTemplate (segments :: routes)⟩) := by
  rw [List.flatten_cons] at written
  have own := fun segment present => written segment (List.mem_append_left _ present)
  have others := fun segment present => written segment (List.mem_append_right _ present)
  obtain ⟨found, matched, left, bound⟩ :=
    route.match?_bind own (isRemainder_routePath others)
  have continued : (@rootSearch σ).admits root found.remainder = true := by
    cases chain with
    | arrived _ _ _ =>
        rw [left]
        rfl
    | operation only _ _ => simp [rootSearch, Resource.hasSubResources, only]
    | locator _ only _ _ _ => simp [rootSearch, Resource.hasSubResources, only]
  have chosen : root? [root] request.path = some (root, found) := by
    rw [path, routePath_cons]
    exact root?_of_only matched continued
  rw [Resolution.resolve?]
  simp only [chosen, bound, left]
  rw [chain.descend others enough, bindValues_append, routeNames_cons, routeTemplate_cons,
    route.text]

/-- All patterns that are matched on the way down a chain are those of its routes. -/
theorem Chain.isRoute_of_mem_descentTrail
    {directory : Directory σ}
    {state : σ}
    {resource last : Resource σ}
    {routes : List (List Segment)}
    {operations : List (Operation σ)}
    (chain : Chain directory state resource routes last operations)
    {decode : Bool}
    {limit : Nat}
    {remainder : Option Text}
    {request : Request}
    {pattern : Uri.Pattern}
    (present : pattern ∈ descentTrail directory decode state limit resource remainder request) :
    ∃ segments, IsRoute pattern segments := by
  induction chain generalizing limit remainder request with
  | arrived _ noOperations noLocators =>
      rcases mem_descentTrail_cases present with ⟨sub, member, _⟩ | ⟨sub, member, _⟩
      · rw [noOperations] at member
        cases member
      · rw [noLocators] at member
        cases member
  | @operation _ _ segments only noLocators route =>
      rcases mem_descentTrail_cases present with ⟨sub, member, same⟩ | ⟨sub, member, _⟩
      · rw [only] at member
        obtain rfl := List.mem_singleton.mp member
        exact ⟨segments, same ▸ route⟩
      · rw [noLocators] at member
        cases member
  | @locator _ _ _ _ segments _ _ noOperations only route located _ ih =>
      rcases mem_descentTrail_cases present with ⟨sub, member, _⟩ | ⟨sub, member, rest⟩
      · rw [noOperations] at member
        cases member
      · rw [only] at member
        obtain rfl := List.mem_singleton.mp member
        rcases rest with same | ⟨bound, next, less, left, found, below⟩
        · exact ⟨segments, same ▸ route⟩
        · rw [located bound] at found
          cases found
          exact ih below

/-- An operation that never finds anything. -/
def idle : Operation Unit where
  method := .get
  handler request _ := (.error (.notFound request.path), ())

/-- A resource with nothing but an operation below it. -/
def nest (own below : Uri.Pattern) : Resource Unit :=
  ⟨[], own, [], [⟨below, idle⟩], []⟩

/-- The operation below a resource ends a chain. -/
theorem chain_nest
    {own below : Uri.Pattern}
    {segments : List Segment}
    (route : IsRoute below segments)
    (directory : Directory Unit) :
    Chain directory () (nest own below) [segments] (nest own below) [idle] :=
  @Chain.operation Unit directory () (nest own below) ⟨below, idle⟩ segments rfl rfl route

end Resolution
end ResourceRouting
