import ResourceRouting.Proofs.Resolution.Chain
import ResourceRouting.Proofs.Resource.Declared

/-!
# The path of a target

The templates that were matched on the way to a target, put together, match the whole path with
the names and texts that have been bound.  At every level of the descent the template so far
matches the path up to what is left of it.
-/

namespace ResourceRouting
namespace Resolution

open Uri (Segment)

variable {σ : Type}

/-- A template uses default expressions only and does not end with a slash. -/
structure IsPlain (template : Text) : Prop where
  /-- All variables have the default expression. -/
  defaults : Uri.Template.UsesDefaults template
  /-- The last character is no slash. -/
  unslashed : template.getLast? ≠ some '/'

theorem IsRoute.isPlain
    {pattern : Uri.Pattern}
    {segments : List Segment}
    (route : IsRoute pattern segments) :
    IsPlain pattern.text := by
  have shaped := Segment.hasShape_template route.valid false
  rw [route.text]
  exact ⟨shaped.usesDefaults, Segment.getLast?_template route.valid⟩

/-- All patterns that are matched on the way down a chain and its root are plain. -/
theorem Chain.isPlain_of_mem_trail
    {directory : Directory σ}
    {state : σ}
    {root last : Resource σ}
    {segments : List Segment}
    {routes : List (List Segment)}
    {operations : List (Operation σ)}
    (route : IsRoute root.pattern segments)
    (chain : Chain directory state root routes last operations)
    {decode : Bool}
    {limit : Nat}
    {request : Request}
    {pattern : Uri.Pattern}
    (present : pattern ∈ trail [root] directory decode state limit request) :
    IsPlain pattern.text := by
  unfold trail at present
  split at present
  · cases present
  · rename_i resource found chosen
    obtain rfl := List.mem_singleton.mp (Uri.Search.of_find?_eq_some chosen).1
    split at present
    · rw [List.mem_singleton.mp present]
      exact route.isPlain
    · rcases List.mem_cons.mp present with rfl | below
      · exact route.isPlain
      · obtain ⟨others, further⟩ := chain.isRoute_of_mem_descentTrail below
        exact further.isPlain

/--
A template accounts for the part of a path in front of what is left: its shape matches the whole
path, and its names and values have been bound since the start.  Only the empty path has the
empty template.
-/
def Accounts
    (decode : Bool)
    (start : Request)
    (template : Text)
    (remainder : Option Text)
    (request : Request) :
    Prop :=
  ∃ shape names values,
    Uri.Template.HasShape template shape names ∧
      (template = [] ∧ start.path = [] ∨
          (∃ rest, template = '/' :: rest) ∧ start.path ≠ []) ∧
        template.getLast? ≠ some '/' ∧
          shape.match? start.path = some ⟨values.map some, remainder⟩ ∧
            Binds decode names values start request

theorem Binds.trans
    {decode : Bool}
    {firstNames secondNames firstValues secondValues : List Text}
    {start middle last : Request}
    (first : Binds decode firstNames firstValues start middle)
    (second : Binds decode secondNames secondValues middle last) :
    Binds decode (firstNames ++ secondNames) (firstValues ++ secondValues) start last where
  names := by rw [second.names, first.names, List.append_assoc]
  values := by rw [second.values, first.values, List.append_assoc, List.map_append]
  path := second.path.trans first.path

/-- A plain pattern matches along a shape, and binds its names to the values. -/
theorem exists_shape_of_bind
    {decode : Bool}
    {pattern : Uri.Pattern}
    {path : Text}
    {found : Uri.PathMatch}
    {before after : Request}
    (compiled : pattern.IsCompiled)
    (plain : IsPlain pattern.text)
    (nonempty : path ≠ [])
    (matched : pattern.match? path = some found)
    (bound : bind decode pattern found before = (after, none)) :
    ∃ rest shape values,
      pattern.text = '/' :: rest ∧
        Uri.Template.HasShape pattern.text shape pattern.names ∧
          found.values = values.map some ∧
            shape.match? path = some found ∧
              Binds decode pattern.names values before after := by
  obtain ⟨shape, shaped, matches'⟩ := compiled.exists_shape plain.defaults plain.unslashed
  have begins : ∃ rest, pattern.text = '/' :: rest := by
    rcases compiled.eq_empty_or with rfl | ⟨rest, begins, _⟩
    · cases path with
      | nil => exact absurd rfl nonempty
      | cons _ _ => cases matched
    · exact ⟨rest, begins⟩
  obtain ⟨rest, begins⟩ := begins
  have shapeMatch : shape.match? path = some found := by
    rw [← matches' path nonempty (by rw [begins]; exact List.cons_ne_nil _ _), matched]
  obtain ⟨values, _, remainder, reading, _, rfl⟩ := Uri.Shape.exists_reading_of_match? shapeMatch
  have counts : pattern.names.length = values.length := by
    rw [reading.length_values, shaped.isAscii.2]
  exact ⟨rest, shape, values, begins, shaped, rfl, shapeMatch, binds_of_bindAll counts bound⟩

/-- The root pattern accounts for the path up to what it leaves. -/
theorem accounts_of_root
    {decode : Bool}
    {pattern : Uri.Pattern}
    {found : Uri.PathMatch}
    {start after : Request}
    (compiled : pattern.IsCompiled)
    (plain : IsPlain pattern.text)
    (matched : pattern.match? start.path = some found)
    (bound : bind decode pattern found start = (after, none)) :
    Accounts decode start pattern.text found.remainder after := by
  by_cases empty : start.path = []
  · have isEmpty : pattern.isEmpty = true := by
      rw [empty] at matched
      by_contra notEmpty
      simp [Uri.Pattern.match?, notEmpty] at matched
    obtain rfl := compiled.eq_empty isEmpty
    rw [empty] at matched
    cases matched
    cases bound
    have plainText : ∀ character ∈ ([] : Text), Uri.Template.isBrace character = false := by simp
    refine ⟨[], [], [], .literal plainText, .inl ⟨rfl, empty⟩, by decide, ?_,
      ⟨by simp, by simp, rfl⟩⟩
    rw [empty]
    rfl
  · obtain ⟨rest, shape, values, begins, shaped, valuesEq, shapeMatch, binds⟩ :=
      exists_shape_of_bind compiled plain empty matched bound
    refine ⟨shape, pattern.names, values, shaped, .inr ⟨⟨rest, begins⟩, empty⟩, plain.unslashed,
      ?_, binds⟩
    rw [shapeMatch, ← valuesEq]

/-- A pattern that matches what is left goes on with the account. -/
theorem Accounts.extend
    {decode : Bool}
    {start before after : Request}
    {template rest : Text}
    {pattern : Uri.Pattern}
    {found : Uri.PathMatch}
    (accounts : Accounts decode start template (some rest) before)
    (compiled : pattern.IsCompiled)
    (plain : IsPlain pattern.text)
    (matched : pattern.match? rest = some found)
    (bound : bind decode pattern found before = (after, none)) :
    Accounts decode start (template ++ pattern.text) found.remainder after := by
  obtain ⟨firstShape, firstNames, firstValues, firstShaped, ends, _, firstMatch, firstBinds⟩ :=
    accounts
  have nonempty : rest ≠ [] := by
    rintro rfl
    obtain ⟨_, final, _, _, allowed, equal⟩ := Uri.Shape.exists_reading_of_match? firstMatch
    rw [Uri.PathMatch.mk.injEq] at equal
    rw [← equal.2] at allowed
    obtain rfl := Uri.Shape.remainder?_eq_some_some allowed
    cases allowed
  obtain ⟨tail, shape, values, begins, shaped, valuesEq, shapeMatch, binds⟩ :=
    exists_shape_of_bind compiled plain nonempty matched bound
  have unslashed := plain.unslashed
  rw [begins] at shaped unslashed ⊢
  refine ⟨firstShape ++ shape, firstNames ++ pattern.names, firstValues ++ values,
    firstShaped.append shaped, ?_, ?_, ?_, firstBinds.trans binds⟩
  · rcases ends with ⟨rfl, emptyPath⟩ | ⟨⟨others, rfl⟩, nonemptyPath⟩
    · obtain ⟨rfl, rfl⟩ := firstShaped.eq_nil
      rw [emptyPath, Uri.Shape.match?_nil_nil, Option.some.injEq, Uri.PathMatch.mk.injEq]
        at firstMatch
      cases firstMatch.2
    · exact .inr ⟨⟨others ++ '/' :: tail, rfl⟩, nonemptyPath⟩
  · rw [List.getLast?_append, List.getLast?_cons]
    rwa [List.getLast?_cons] at unslashed
  · rw [Uri.Shape.match?_append shaped.head?_shape firstMatch shapeMatch, valuesEq,
      List.map_append]

/-- A descent goes on with the account of a path to the target. -/
theorem Accounts.descend
    {directory : Directory σ}
    {decode : Bool}
    {state : σ}
    {limit : Nat}
    {resource : Resource σ}
    {template : Text}
    {remainder : Option Text}
    {start request bound : Request}
    {target : Target σ}
    (located : ∀ key next, directory key = some next → next.IsDeclared)
    (declared : resource.IsDeclared)
    (accounts : Accounts decode start template remainder request)
    (result : descend directory decode state limit resource template remainder request =
      some (bound, .ok target))
    (plain : ∀ pattern ∈ descentTrail directory decode state limit resource remainder request,
      IsPlain pattern.text) :
    ∃ final, Uri.PathMatch.isTerminal final = true ∧
      Accounts decode start target.template final bound ∧
        target.template =
          template ++
            (descentTrail directory decode state limit resource remainder request).flatMap
              Uri.Pattern.text := by
  induction limit using Nat.strongRecOn generalizing resource template remainder request with
  | ind limit ih =>
      rcases descend_cases result with
        ⟨terminal, rfl, arrived, trail⟩ |
          ⟨rest, sub, found, rfl, _, chosen, binding, reached, trail⟩ |
          ⟨rest, sub, found, middle, next, less, rfl, _, chosen, binding, found', further, rfl,
            trail⟩
      · refine ⟨remainder, terminal, ?_, ?_⟩
        · rw [arrived]
          exact accounts
        · rw [arrived, trail, List.flatMap_nil, List.append_nil]
      · obtain ⟨present, matched, admits⟩ := Uri.Search.of_find?_eq_some chosen
        have compiled := declared.compiled.2.subOperations sub (mem_subOperations_of_branch present)
        have subPlain := plain sub.pattern (by rw [trail]; exact List.mem_singleton_self _)
        refine ⟨found.remainder, admits, ?_, ?_⟩
        · rw [reached]
          exact accounts.extend compiled subPlain matched binding
        · rw [reached, trail, List.flatMap_singleton]
      · obtain ⟨present, matched, _⟩ := Uri.Search.of_find?_eq_some chosen
        have compiled := declared.compiled.2.locators sub (mem_locators_of_branch present)
        have subPlain := plain sub.pattern (by rw [trail]; exact List.mem_cons_self ..)
        have extended := accounts.extend compiled subPlain matched binding
        obtain ⟨key, _, nextFound⟩ := Option.bind_eq_some_iff.mp found'
        obtain ⟨final, terminal, reached, templates⟩ :=
          ih less (Nat.lt_succ_self less) (located key next nextFound) extended further
            (fun pattern later => plain pattern (by rw [trail]; exact List.mem_cons_of_mem _ later))
        refine ⟨final, terminal, reached, ?_⟩
        rw [templates, trail, List.flatMap_cons, List.append_assoc]

/--
A target accounts for the whole path.  The templates matched on the way to it, put together, are
a template again.  It has a pattern exactly if it is empty or the engine admits what is read from
its expression, whatever the limit of the engine is.  The pattern matches the whole path: its names
are the names that have been bound, in order, and its values are the values that have been bound.
-/
theorem resolve?_accounts
    {resources : List (Resource σ)}
    {directory : Directory σ}
    {decode : Bool}
    {state : σ}
    {limit : Nat}
    {request bound : Request}
    {target : Target σ}
    (declared : ∀ resource ∈ resources, resource.IsDeclared)
    (located : ∀ key next, directory key = some next → next.IsDeclared)
    (unbound : request.parameters.bindings = [])
    (result : resolve? resources directory decode state limit request = some (bound, .ok target))
    (plain : ∀ pattern ∈ trail resources directory decode state limit request,
      IsPlain pattern.text) :
    target.template =
        (trail resources directory decode state limit request).flatMap Uri.Pattern.text ∧
      ∃ compiled whole, Uri.Template.compile target.template = .ok compiled ∧
        Regex.Reader.read (Uri.Pattern.anchored compiled.expression) = some whole ∧
        ∀ admits : Regex.Expr → Bool,
          (target.template ≠ [] → admits whole = false →
            Uri.Pattern.compileWithin admits target.template =
              .error (.invalidExpression target.template [])) ∧
          (target.template = [] ∨ admits whole = true →
            ∃ pattern found,
              Uri.Pattern.compileWithin admits target.template = .ok pattern ∧
                pattern.match? request.path = some found ∧
                  Uri.PathMatch.isTerminal found.remainder = true ∧
                    pattern.names = bound.parameters.bindings.map Prod.fst ∧
                      found.values.map (·.bind (decodeValue decode)) =
                        bound.parameters.bindings.map fun binding => some binding.2) := by
  obtain ⟨resource, found, after, chosen, binding, further, trailed⟩ :=
    exists_descend_of_resolve? result
  rw [trailed] at plain ⊢
  obtain ⟨present, matched, _⟩ := Uri.Search.of_find?_eq_some chosen
  have rootDeclared := declared resource present
  have rootAccounts := accounts_of_root rootDeclared.compiled.1
    (plain resource.pattern (List.mem_cons_self ..)) matched binding
  obtain ⟨final, terminal, accounts, templates⟩ :=
    rootAccounts.descend located rootDeclared further
      (fun pattern later => plain pattern (List.mem_cons_of_mem _ later))
  refine ⟨by rw [templates, List.flatMap_cons], ?_⟩
  obtain ⟨shape, names, values, shaped, ends, unslashed, shapeMatch, binds⟩ := accounts
  have boundNames : bound.parameters.bindings.map Prod.fst = names := by
    rw [binds.names, unbound, List.map_nil, List.nil_append]
  have boundTexts : bound.parameters.bindings.map (fun binding => some binding.2) =
      values.map (decodeValue decode) := by
    rw [binds.values, unbound, List.map_nil, List.nil_append]
  have decoded : (values.map some).map (·.bind (decodeValue decode)) =
      bound.parameters.bindings.map fun binding => some binding.2 := by
    rw [boundTexts, List.map_map]
    rfl
  rcases ends with ⟨empty, emptyPath⟩ | ⟨⟨rest, begins⟩, nonemptyPath⟩
  · rw [empty] at shaped ⊢
    obtain ⟨rfl, rfl⟩ := shaped.eq_nil
    rw [emptyPath, Uri.Shape.match?_nil_nil, Option.some.injEq, Uri.PathMatch.mk.injEq]
      at shapeMatch
    rw [emptyPath]
    rw [← shapeMatch.1] at decoded
    obtain ⟨whole, read⟩ := Option.isSome_iff_exists.mp
      (show (Regex.Reader.read (Uri.Pattern.anchored [])).isSome = true by decide +kernel)
    refine ⟨.empty, whole, rfl, read, fun admits =>
      ⟨fun nonempty => absurd rfl nonempty, fun _ => ?_⟩⟩
    exact ⟨.empty, ⟨[], none⟩, rfl, rfl, rfl, boundNames.symm, decoded⟩
  · rw [begins] at shaped unslashed ⊢
    obtain ⟨compiled, compiledOk, _, compiledNames, _, read, results⟩ := shaped.compile
    refine ⟨compiled, _, compiledOk, read, fun admits => ⟨fun _ => (results admits).2, ?_⟩⟩
    intro filled
    have admitted := filled.resolve_left (List.cons_ne_nil _ _)
    obtain ⟨pattern, patternOk, patternTemplate, matches'⟩ := (results admits).1 admitted
    have kept : shape.dropSlash = shape := by
      rw [Uri.Shape.dropSlash, if_neg fun ends => unslashed (shaped.getLast? ends)]
    refine ⟨pattern, ⟨values.map some, final⟩, patternOk, ?_, terminal, ?_, decoded⟩
    · rw [matches' request.path nonemptyPath, kept, shapeMatch]
    · rw [boundNames, Uri.Pattern.names, patternTemplate, compiledNames]

/-- What the path of the next example has for each segment; its second value is an escape. -/
def nestWriting : Segment → Text
  | .literal text => text
  | .braced body => if body = "x".toList then "1".toList else "%32".toList

/-- A path with an escape, on the way to an operation below a resource. -/
theorem resolve?_accounts_nest :
    ∃ own below bound target pattern found,
      Uri.Pattern.compile "/a/{x}".toList = .ok own ∧
        Uri.Pattern.compile "/{y}".toList = .ok below ∧ (nest own below).IsDeclared ∧
          resolve? [nest own below] (fun _ => none) true () 1
              { method := .get, path := "/a/1/%32".toList } =
            some (bound, .ok target) ∧
            target.template = "/a/{x}/{y}".toList ∧
              Uri.Pattern.compile target.template = .ok pattern ∧
                pattern.match? "/a/1/%32".toList = some found ∧
                  pattern.names = ["x".toList, "y".toList] ∧
                    found.values.map (·.bind (decodeValue true)) =
                      [some "1".toList, some "2".toList] := by
  let first := [Segment.literal "a".toList, .braced "x".toList]
  let second := [Segment.braced "y".toList]
  obtain ⟨own, route⟩ := @exists_isRoute first (by decide) (by decide +kernel) (by decide +kernel)
  obtain ⟨below, further⟩ :=
    @exists_isRoute second (by decide) (by decide +kernel) (by decide +kernel)
  let value : Text → Text := fun name => if name = "x".toList then "1".toList else "2".toList
  have written : ∀ segment ∈ [first, second].flatten,
      segment.IsWritten true nestWriting value := by
    simp only [first, second, List.flatten_cons, List.flatten_nil, List.append_nil,
      List.cons_append, List.nil_append, List.mem_cons, List.not_mem_nil, or_false,
      forall_eq_or_imp, forall_eq]
    refine ⟨⟨by decide +kernel, by decide, by rintro _ ⟨⟩⟩, ⟨by decide +kernel, by decide, ?_⟩,
      ⟨by decide +kernel, by decide, ?_⟩⟩
    · rintro _ ⟨⟩
      decide +kernel
    · rintro _ ⟨⟩
      decide +kernel
  have resolved := @Chain.resolve? Unit (fun _ => none) () _ _ first [second] _ route
    (chain_nest further _) true nestWriting value written 1 (Nat.le_refl 1)
    { method := .get, path := "/a/1/%32".toList } (by decide)
  have declared : (nest own below).IsDeclared :=
    Resource.isDeclared_of_compile route.compiled further.compiled idle
  obtain ⟨_, compiled, whole, compiledOk, read, results⟩ := resolve?_accounts
    (by simpa using declared) (fun _ _ impossible => by cases impossible) rfl resolved
    (fun _ present => (chain_nest further _).isPlain_of_mem_trail route present)
  have text : routeTemplate [first, second] = "/a/{x}/{y}".toList := by decide
  have fits : whole.fits = true :=
    @Uri.Template.fits_of_read "/a/{x}/{y}".toList _ _ (text ▸ compiledOk) read
      (by decide +kernel)
  obtain ⟨pattern, found, patternOk, matched, _, names, values⟩ :=
    (results Regex.Expr.fits).2 (.inr fits)
  exact ⟨own, below, _, _, pattern, found, route.compiled, further.compiled, declared, resolved,
    text, patternOk, matched, names, values⟩

/-- Not too many variables make a route. -/
theorem exists_isRoute_replicate
    {count : Nat}
    (positive : 0 < count)
    (few : count ≤ 9780) :
    ∃ pattern, IsRoute pattern (List.replicate count (.braced ['a'])) := by
  have nonempty : List.replicate count (Segment.braced ['a']) ≠ [] := by
    rw [ne_eq, List.replicate_eq_nil_iff]
    omega
  exact exists_isRoute nonempty Segment.isValid_of_mem_replicate
    (Segment.fits_replicate_iff.mpr few)

/--
The templates that lead to a target have patterns, but put together they have none: 5000
variables fit into an expression, and twice as many do not.
-/
theorem resolve?_target_too_large :
    ∃ own bound target,
      Uri.Pattern.compile (Segment.template (List.replicate 5000 (.braced ['a'])) false) =
          .ok own ∧
        (nest own own).IsDeclared ∧
          resolve? [nest own own] (fun _ => none) true () 1
              { method := .get, path := Segment.join (List.replicate 10000 ['x']) } =
            some (bound, .ok target) ∧
            (∀ pattern ∈ trail [nest own own] (fun _ => none) true () 1
                { method := .get, path := Segment.join (List.replicate 10000 ['x']) },
              IsPlain pattern.text) ∧
              ∀ pattern, Uri.Pattern.compile target.template ≠ .ok pattern := by
  obtain ⟨own, route⟩ := @exists_isRoute_replicate 5000 (by decide) (by decide)
  have doubled : [List.replicate 5000 (Segment.braced ['a']),
      List.replicate 5000 (.braced ['a'])].flatten = List.replicate 10000 (.braced ['a']) := by
    simp only [List.flatten_cons, List.flatten_nil, List.append_nil,
      List.replicate_append_replicate]
  let write : Segment → Text := fun _ => ['x']
  have written : ∀ segment ∈ [List.replicate 5000 (Segment.braced ['a']),
      List.replicate 5000 (.braced ['a'])].flatten,
        segment.IsWritten true write (fun _ => ['x']) := by
    rw [doubled]
    intro segment present
    rw [List.eq_of_mem_replicate present]
    refine ⟨by decide, by decide, fun _ _ => by decide +kernel⟩
  have path : Segment.join (List.replicate 10000 ['x']) =
      routePath write [List.replicate 5000 (Segment.braced ['a']),
        List.replicate 5000 (.braced ['a'])] := by
    rw [routePath, doubled, List.map_replicate]
  have resolved := @Chain.resolve? Unit (fun _ => none) () _ _ _ [_] _ route
    (chain_nest route _) true write (fun _ => ['x']) written 1 (Nat.le_refl 1)
    { method := .get, path := Segment.join (List.replicate 10000 ['x']) } path
  refine ⟨own, _, _, route.compiled,
    Resource.isDeclared_of_compile route.compiled route.compiled idle, resolved,
    fun _ present => (chain_nest route _).isPlain_of_mem_trail route present, ?_⟩
  intro pattern found
  rw [routeTemplate, doubled, @Segment.compile_template_replicate 10000 (by decide)] at found
  cases found

end Resolution
end ResourceRouting
