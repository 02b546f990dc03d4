import ResourceRouting.Resolution

/-!
# Binding path parameters

What a request has bound after the variables of a pattern have been bound to what it matched.
-/

namespace ResourceRouting
namespace Resolution

/-- The text of a value: decoded if asked for, when it has to be UTF-8. -/
def decodeValue (decode : Bool) (value : Text) : Option Text :=
  if decode then Utf8.decode? (Percent.decode value) else some value

/-- A parameter is bound to the text of its value, or its name is reported. -/
theorem parameterText_eq (decode : Bool) (name value : Text) :
    parameterText decode name value =
      match decodeValue decode value with
      | some text => .ok text
      | none => .error (.parameterNotText name) := by
  cases decode with
  | false => rfl
  | true =>
      cases decoded : Utf8.decode? (Percent.decode value) with
      | none => simp [parameterText, decodeValue, decoded]
      | some text => simp [parameterText, decodeValue, decoded]

/--
What has been bound: names in order, each with the text of its value.  The rest of the request
stays.
-/
structure Binds
    (decode : Bool)
    (names : List Text)
    (values : List Text)
    (before after : Request) : Prop where
  /-- The names are bound in order behind the earlier ones. -/
  names : after.parameters.bindings.map Prod.fst =
    before.parameters.bindings.map Prod.fst ++ names
  /-- The texts are those of the values in order. -/
  values : after.parameters.bindings.map (fun binding => some binding.2) =
    before.parameters.bindings.map (fun binding => some binding.2) ++
      values.map (decodeValue decode)
  /-- The path stays. -/
  path : after.path = before.path

/--
What is bound without an error: of the names in order those that have a value, each with its text.
Nothing else of the request changes.
-/
theorem exists_bindings_of_bindAll
    {decode : Bool}
    {pairs : List (Text × Option Text)}
    {before after : Request}
    (bound : bindAll decode pairs before = (after, none)) :
    ∃ added,
      after = { before with parameters := ⟨before.parameters.bindings ++ added⟩ } ∧
        added.map (fun binding => (binding.1, some binding.2)) =
          pairs.filterMap fun pair =>
            pair.2.map fun value => (pair.1, decodeValue decode value) := by
  induction pairs generalizing before with
  | nil =>
      cases bound
      exact ⟨[], by simp, rfl⟩
  | cons pair rest ih =>
      obtain ⟨name, captured⟩ := pair
      cases captured with
      | none =>
          obtain ⟨added, after', texts⟩ := ih bound
          exact ⟨added, after', by simpa using texts⟩
      | some value =>
          simp only [bindAll, parameterText_eq] at bound
          cases decoded : decodeValue decode value with
          | none =>
              rw [decoded] at bound
              cases bound
          | some text =>
              rw [decoded] at bound
              obtain ⟨added, rfl, texts⟩ := ih bound
              refine ⟨(name, text) :: added, by simp [Request.bind], ?_⟩
              rw [List.map_cons, texts]
              simp [decoded]

/-- Binding names to values binds all of them, if no error is found. -/
theorem binds_of_bindAll
    {decode : Bool}
    {names values : List Text}
    {before after : Request}
    (counts : names.length = values.length)
    (bound : bindAll decode (names.zip (values.map some)) before = (after, none)) :
    Binds decode names values before after := by
  obtain ⟨added, rfl, texts⟩ := exists_bindings_of_bindAll bound
  have pairs : added.map (fun binding => (binding.1, some binding.2)) =
      (names.zip values).map fun pair => (pair.1, decodeValue decode pair.2) := by
    rw [texts, List.zip_map_right, List.filterMap_map, ← List.filterMap_eq_map]
    rfl
  have firsts : added.map Prod.fst = names := by
    have first := congrArg (List.map Prod.fst) pairs
    simp only [List.map_map, Function.comp_def] at first
    exact first.trans (List.map_fst_zip (Nat.le_of_eq counts))
  have seconds : added.map (fun binding => some binding.2) = values.map (decodeValue decode) := by
    have second := congrArg (List.map Prod.snd) pairs
    have others := congrArg (List.map (decodeValue decode))
      (@List.map_snd_zip _ _ names _ (Nat.le_of_eq counts.symm))
    simp only [List.map_map, Function.comp_def] at second others
    exact second.trans others
  refine ⟨?_, ?_, rfl⟩
  · rw [List.map_append, firsts]
  · rw [List.map_append, seconds]

/-- A value that is captured is bound to its name. -/
theorem mem_bindings_of_bindAll
    {decode : Bool}
    {pairs : List (Text × Option Text)}
    {before after : Request}
    (bound : bindAll decode pairs before = (after, none))
    {name value : Text}
    (present : (name, some value) ∈ pairs) :
    ∃ text, decodeValue decode value = some text ∧ (name, text) ∈ after.parameters.bindings := by
  obtain ⟨added, rfl, texts⟩ := exists_bindings_of_bindAll bound
  have entry : (name, decodeValue decode value) ∈
      added.map fun binding => (binding.1, some binding.2) := by
    rw [texts]
    exact List.mem_filterMap.mpr ⟨(name, some value), present, rfl⟩
  obtain ⟨⟨named, text⟩, inAdded, equal⟩ := List.mem_map.mp entry
  obtain ⟨rfl, decoded⟩ := Prod.mk.inj equal
  exact ⟨text, decoded.symm, List.mem_append_right _ inAdded⟩

/-- Values that all have a text are bound without an error. -/
theorem bindAll_of_decodeValue
    {decode : Bool}
    {names values texts : List Text}
    (counts : names.length = values.length)
    (decoded : values.map (decodeValue decode) = texts.map some)
    (request : Request) :
    bindAll decode (names.zip (values.map some)) request =
      ({ request with parameters := ⟨request.parameters.bindings ++ names.zip texts⟩ }, none) := by
  induction names generalizing values texts request with
  | nil =>
      cases values with
      | nil => simp [bindAll]
      | cons value values => cases counts
  | cons name names ih =>
      cases values with
      | nil => cases counts
      | cons value values =>
          cases texts with
          | nil => cases decoded
          | cons text texts =>
              rw [List.map_cons, List.map_cons, List.cons.injEq] at decoded
              simp only [List.map_cons, List.zip_cons_cons, bindAll, parameterText_eq, decoded.1]
              rw [ih (Nat.succ.inj counts) decoded.2]
              simp [Request.bind, PathParameters.push]

end Resolution
end ResourceRouting
