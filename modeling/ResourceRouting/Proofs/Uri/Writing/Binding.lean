import ResourceRouting.Proofs.Uri.Building
import ResourceRouting.Proofs.Uri.Writing.Drafting
import ResourceRouting.Proofs.Uri.Writing.Filling

/-!
# Binding values in order of first occurrence

Values given by position are used up while a URI is written.  What is written for a placeholder
can nevertheless be told without looking at the others: each name has the value at its place among
the different names, prepared for the component in which the name first occurs.
-/

namespace ResourceRouting
namespace Uri

namespace Values

/-- Whether no text has been bound yet. -/
def IsInitial : Values → Prop
  | named _ => True
  | positional _ bound => bound = []

theorem isInitial_named (bindings : List (Text × Text)) : (named bindings).IsInitial := trivial

theorem isInitial_ofList (values : List Text) : (ofList values).IsInitial := rfl

instance : DecidablePred IsInitial
  | named _ => isTrue trivial
  | positional _ bound => inferInstanceAs (Decidable (bound = []))

/-- What initial values give to names that occur in some order. -/
def plan (occurrences : List (Text × Component)) : Values → Step.Plan
  | named bindings => ⟨fun name => bindings.lookup name, fun component _ => component⟩
  | positional unused _ =>
      ⟨fun name => ((occurrences.map Prod.fst).eraseDups.zip unused).lookup name,
        fun component name => (occurrences.lookup name).getD component⟩

/--
Values by position have been used as planned for the occurrences of names that were seen, and are
there for the others.
-/
structure Tracks
    (mode : BuildMode)
    (plan : Step.Plan)
    (seen others : List (Text × Component))
    (unused : List Text)
    (bound : List (Text × Text)) : Prop where
  /-- The value of a name is prepared for the component where the name first occurs. -/
  home : ∀ component name, plan.home component name =
    ((seen ++ others).lookup name).getD component
  /-- The text of a name is its value, prepared for the component where the name occurred first. -/
  prepared : ∀ name text, bound.lookup name = some text →
    ∃ component value, seen.lookup name = some component ∧ plan.value? name = some value ∧
      prepare component (mode.within component).encode value = .ok text
  /-- A name that was seen has a text unless all values are used up. -/
  used : ∀ name ∈ seen.map Prod.fst, bound.lookup name = none → unused = []
  /-- The values that remain belong to the names without a text, in order. -/
  remaining : ∀ name ∈ others.map Prod.fst, bound.lookup name = none →
    plan.value? name = ((fresh bound (others.map Prod.fst)).zip unused).lookup name

section Tracks

variable
  {mode : BuildMode}
  {plan : Step.Plan}
  {seen others : List (Text × Component)}
  {name : Text}
  {component : Component}
  {unused : List Text}
  {bound : List (Text × Text)}

/-- A name that has a text has it because of an earlier occurrence. -/
theorem Tracks.of_bound
    (tracks : Tracks mode plan seen ((name, component) :: others) unused bound)
    {text : Text}
    (found : bound.lookup name = some text) :
    Tracks mode plan (seen ++ [(name, component)]) others unused bound ∧
      ∃ value, plan.value? name = some value ∧
        prepare (plan.home component name) (mode.within (plan.home component name)).encode value =
          .ok text := by
  obtain ⟨home, prepared, used, remaining⟩ := tracks
  constructor
  · refine ⟨?_, ?_, ?_, ?_⟩
    · simpa using home
    · intro other otherText otherFound
      obtain ⟨first, value, before, given, ready⟩ := prepared other otherText otherFound
      exact ⟨first, value, by rw [List.lookup_append, before, Option.some_or], given, ready⟩
    · intro other present unbound
      rw [List.map_append, List.mem_append] at present
      rcases present with before | here
      · exact used other before unbound
      · rw [List.mem_singleton.mp here, found] at unbound
        cases unbound
    · intro other present unbound
      rw [remaining other (List.mem_cons_of_mem _ present) unbound, List.map_cons,
        fresh_cons_of_bound found]
  · obtain ⟨first, value, before, given, ready⟩ := prepared name text found
    refine ⟨value, given, ?_⟩
    rw [home, List.lookup_append, before]
    exact ready

/-- A name without a text has no value when all values are used up. -/
theorem Tracks.of_unused_nil
    (tracks : Tracks mode plan seen ((name, component) :: others) [] bound)
    (unbound : bound.lookup name = none) :
    Tracks mode plan (seen ++ [(name, component)]) others [] bound ∧ plan.value? name = none := by
  obtain ⟨home, prepared, used, remaining⟩ := tracks
  simp only [List.zip_nil_right, List.lookup_nil] at remaining
  refine ⟨⟨?_, ?_, fun _ _ _ => rfl, ?_⟩, remaining name (List.mem_cons_self ..) unbound⟩
  · simpa using home
  · intro other otherText otherFound
    obtain ⟨first, value, before, given, ready⟩ := prepared other otherText otherFound
    exact ⟨first, value, by rw [List.lookup_append, before, Option.some_or], given, ready⟩
  · intro other present otherUnbound
    simpa using remaining other (List.mem_cons_of_mem _ present) otherUnbound

/-- A name without a text gets the next value, for the component where it stands. -/
theorem Tracks.of_unused_cons
    {value : Text}
    (tracks : Tracks mode plan seen ((name, component) :: others) (value :: unused) bound)
    (unbound : bound.lookup name = none) :
    plan.value? name = some value ∧ plan.home component name = component ∧
      ∀ text, prepare component (mode.within component).encode value = .ok text →
        Tracks mode plan (seen ++ [(name, component)]) others unused ((name, text) :: bound) := by
  obtain ⟨home, prepared, used, remaining⟩ := tracks
  -- While values remain, every name that was seen has a text; this one has none and is new.
  have unseen : seen.lookup name = none := by
    rw [List.lookup_eq_none_iff]
    intro entry present
    rw [bne_iff_ne]
    rintro rfl
    exact List.cons_ne_nil _ _ (used _ (List.mem_map_of_mem present) unbound)
  have own : plan.value? name = some value := by
    rw [remaining name (List.mem_cons_self ..) unbound, List.map_cons,
      fresh_cons_of_unbound unbound _ [], List.zip_cons_cons, List.lookup_cons_self]
  refine ⟨own, ?_, fun text ready => ⟨?_, ?_, ?_, ?_⟩⟩
  · rw [home, List.lookup_append, unseen, Option.none_or, List.lookup_cons_self, Option.getD_some]
  · simpa using home
  · intro other otherText otherFound
    rw [List.lookup_append]
    by_cases same : other = name
    · subst same
      rw [List.lookup_cons_self, Option.some.injEq] at otherFound
      subst otherFound
      exact ⟨component, value, by rw [unseen, Option.none_or, List.lookup_cons_self], own, ready⟩
    · rw [List.lookup_cons, beq_false_of_ne same] at otherFound
      obtain ⟨first, otherValue, before, given, otherReady⟩ := prepared other otherText otherFound
      exact ⟨first, otherValue, by rw [before, Option.some_or], given, otherReady⟩
  · intro other present otherUnbound
    by_cases same : other = name
    · rw [same, List.lookup_cons_self] at otherUnbound
      cases otherUnbound
    · rw [List.lookup_cons, beq_false_of_ne same] at otherUnbound
      rw [List.map_append, List.mem_append] at present
      rcases present with before | here
      · exact absurd (used other before otherUnbound) (List.cons_ne_nil _ _)
      · exact absurd (List.mem_singleton.mp here) same
  · intro other present otherUnbound
    by_cases same : other = name
    · rw [same, List.lookup_cons_self] at otherUnbound
      cases otherUnbound
    · rw [List.lookup_cons, beq_false_of_ne same] at otherUnbound
      rw [remaining other (List.mem_cons_of_mem _ present) otherUnbound, List.map_cons,
        fresh_cons_of_unbound unbound _ text, List.zip_cons_cons, List.lookup_cons,
        beq_false_of_ne same]

/-- The next step is taken as planned. -/
theorem Tracks.write
    {step : Step}
    {steps : List Step}
    (tracks : Tracks mode plan seen (Step.occurrences (step :: steps)) unused bound) :
    (∃ error, step.write mode (positional unused bound) = .error error ∧
        step.fill mode plan = .error error) ∨
      ∃ first seen' unused' bound',
        step.write mode (positional unused bound) = .ok (first, positional unused' bound') ∧
          step.fill mode plan = .ok first ∧
          Tracks mode plan seen' (Step.occurrences steps) unused' bound' := by
  cases step with
  | mark text => exact .inr ⟨_, seen, unused, bound, rfl, rfl, tracks⟩
  | literal component text => exact .inr ⟨_, seen, unused, bound, rfl, rfl, tracks⟩
  | unclosed part => exact .inl ⟨_, rfl, rfl⟩
  | value component name =>
      cases found : bound.lookup name with
      | some text =>
          obtain ⟨further, value, given, ready⟩ := tracks.of_bound found
          refine .inr ⟨.value component name text, _, unused, bound, ?_, ?_, further⟩
          · simp only [Step.write, resolve, found]
          · rw [Step.fill, given]
            simp only [ready]
            rfl
      | none =>
          cases unused with
          | nil =>
              obtain ⟨further, none⟩ := tracks.of_unused_nil found
              simp only [Step.write, Step.fill, resolve, found, none]
              cases mode.asTemplate with
              | false => exact .inl ⟨_, rfl, rfl⟩
              | true => exact .inr ⟨_, _, [], bound, rfl, rfl, further⟩
          | cons value unused =>
              obtain ⟨given, home, further⟩ := tracks.of_unused_cons found
              simp only [Step.write, Step.fill, resolve, found, given, home]
              cases ready : prepare component (mode.within component).encode value with
              | error fault => exact .inl ⟨fault, rfl, rfl⟩
              | ok text => exact .inr ⟨_, _, unused, _, rfl, rfl, further text ready⟩

/-- Steps are taken as planned. -/
theorem Tracks.writeAll
    {steps : List Step}
    (tracks : Tracks mode plan seen (Step.occurrences steps) unused bound) :
    (Step.writeAll mode (positional unused bound) steps).map Prod.fst =
      Step.fillAll mode plan steps := by
  induction steps generalizing seen unused bound with
  | nil => rfl
  | cons step steps ih =>
      rw [Step.writeAll, Step.fillAll]
      rcases tracks.write with
        ⟨error, failed, planned⟩ | ⟨first, seen', unused', bound', taken, planned, further⟩
      · rw [failed, planned]
        rfl
      · rw [taken, planned]
        dsimp only
        rw [← ih further]
        cases Step.writeAll mode (positional unused' bound') steps <;> rfl

end Tracks

/-- A step is taken as planned with values by name, which all remain. -/
theorem write_named
    (mode : BuildMode)
    (bindings : List (Text × Text))
    (occurrences : List (Text × Component))
    (step : Step) :
    step.write mode (named bindings) =
      (step.fill mode ((named bindings).plan occurrences)).map fun one => (one, named bindings) := by
  cases step with
  | mark text => rfl
  | literal component text => rfl
  | unclosed part => rfl
  | value component name =>
      simp only [Step.write, Step.fill, resolve, plan]
      cases bindings.lookup name with
      | none => cases mode.asTemplate <;> rfl
      | some value =>
          dsimp only
          cases prepare component (mode.within component).encode value <;> rfl

/-- Values by name are taken as planned. -/
theorem writeAll_named
    (mode : BuildMode)
    (bindings : List (Text × Text))
    (occurrences : List (Text × Component))
    (steps : List Step) :
    (Step.writeAll mode (named bindings) steps).map Prod.fst =
      Step.fillAll mode ((named bindings).plan occurrences) steps := by
  induction steps with
  | nil => rfl
  | cons step steps ih =>
      rw [Step.writeAll, Step.fillAll, write_named mode bindings occurrences]
      cases step.fill mode ((named bindings).plan occurrences) with
      | error fault => rfl
      | ok first =>
          simp only [Except.map, ← ih]
          cases Step.writeAll mode (named bindings) steps <;> rfl

/-- What initial values give is written as planned. -/
theorem writeAll_eq_fillAll
    {values : Values}
    (initial : values.IsInitial)
    (mode : BuildMode)
    (steps : List Step) :
    (Step.writeAll mode values steps).map Prod.fst =
      Step.fillAll mode (values.plan (Step.occurrences steps)) steps := by
  cases values with
  | named bindings => exact writeAll_named mode bindings _ steps
  | positional unused bound =>
      obtain rfl : bound = [] := initial
      -- Before the first step nothing was seen, and all different names are without a text.
      apply @Tracks.writeAll mode _ []
      refine ⟨fun _ _ => rfl, fun _ _ found => (by cases found), fun _ seen => (by cases seen), ?_⟩
      intro name present _
      have all : fresh [] ((Step.occurrences steps).map Prod.fst) =
          ((Step.occurrences steps).map Prod.fst).eraseDups := by
        rw [fresh, List.filter_eq_self.mpr]
        exact fun _ _ => rfl
      rw [all]
      rfl

end Values

namespace Parts

/-- The names that occur in the parts, each with its component. -/
def occurrences (parts : Parts) : List (Text × Component) :=
  Step.occurrences parts.steps

/-- The names that occur in the parts. -/
def names (parts : Parts) : List Text :=
  parts.occurrences.map Prod.fst

/-- What is written for each step of a URI, if all steps can be taken. -/
def trace (parts : Parts) (values : Values) (mode : BuildMode) :
    Except BuildError (List Written) :=
  Step.fillAll mode (values.plan parts.occurrences) parts.steps

/-- A URI is what is written for its steps, each of them taken by itself. -/
theorem build_eq_trace
    {values : Values}
    (initial : values.IsInitial)
    (parts : Parts)
    (mode : BuildMode) :
    parts.build values mode = (parts.trace values mode).map Written.join := by
  rw [build_eq_writeAll, trace, occurrences, ← Values.writeAll_eq_fillAll initial]
  cases Step.writeAll mode values parts.steps <;> rfl

/-- Every name occurs in one component only. -/
def KeepsComponents (parts : Parts) : Prop :=
  ∀ first ∈ parts.occurrences, ∀ second ∈ parts.occurrences,
    first.1 = second.1 → first.2 = second.2

instance : DecidablePred KeepsComponents := fun parts =>
  inferInstanceAs (Decidable
    (∀ first ∈ parts.occurrences, ∀ second ∈ parts.occurrences,
      first.1 = second.1 → first.2 = second.2))

theorem mem_occurrences_iff
    {parts : Parts}
    {component : Component}
    {name : Text} :
    (name, component) ∈ parts.occurrences ↔ .value component name ∈ parts.steps := by
  rw [occurrences, Step.occurrences, List.mem_filterMap]
  constructor
  · rintro ⟨step, present, own⟩
    cases step <;> cases own
    exact present
  · exact fun present => ⟨_, present, rfl⟩

/-- Where a name keeps to one component, its value is prepared for this one. -/
theorem trace_ofList_eq_trace_named
    {parts : Parts}
    (single : parts.KeepsComponents)
    (values : List Text)
    (mode : BuildMode) :
    parts.trace (.ofList values) mode =
      parts.trace (.named (parts.names.eraseDups.zip values)) mode := by
  apply Step.fillAll_congr
  intro step present
  cases step with
  | mark text => rfl
  | literal component text => rfl
  | unclosed part => rfl
  | value component name =>
      have home : (parts.occurrences.lookup name).getD component = component := by
        cases found : parts.occurrences.lookup name with
        | none => rfl
        | some first =>
            obtain ⟨before, after, split, _⟩ := List.lookup_eq_some_iff.mp found
            have earlier : (name, first) ∈ parts.occurrences := by
              rw [split]
              simp
            exact single _ earlier _ (mem_occurrences_iff.mpr present) rfl
      simp only [Step.fill, Values.plan, Values.ofList, home]
      rfl

/--
Building with values by position is building with values by name, where the different names in
order of first occurrence have the values in order: the same URI or the same error.  Values for
which there is no name are not used.
-/
theorem build_ofList_eq_build_named
    (parts : Parts)
    (values : List Text)
    (mode : BuildMode)
    (single : parts.KeepsComponents) :
    parts.build (.ofList values) mode =
      parts.build (.named (parts.names.eraseDups.zip values)) mode := by
  rw [build_eq_trace (Values.isInitial_ofList _), build_eq_trace (Values.isInitial_named _),
    trace_ofList_eq_trace_named single]

/-- A link whose path names one thing twice. -/
def link : Parts :=
  { host := some "{h}.org".toList, path := some "/{a}/{b}/{a}".toList }

/-- A name that comes back, one without a value, and a value that has to be encoded. -/
theorem build_ofList_eq_build_named_link :
    link.KeepsComponents ∧
      link.build (.ofList ["x".toList, "y z".toList]) { asTemplate := true } =
        link.build (.named [("h".toList, "x".toList), ("a".toList, "y z".toList)])
          { asTemplate := true } ∧
      link.build (.ofList ["x".toList, "y z".toList]) { asTemplate := true } =
        .ok "//x.org/y%20z/{b}/y%20z".toList := by
  have single : link.KeepsComponents := by decide +kernel
  have named : link.build (.named [("h".toList, "x".toList), ("a".toList, "y z".toList)])
      { asTemplate := true } = .ok "//x.org/y%20z/{b}/y%20z".toList := by
    decide +kernel
  have zipped : link.names.eraseDups.zip ["x".toList, "y z".toList] =
      [("h".toList, "x".toList), ("a".toList, "y z".toList)] := by
    decide +kernel
  have same := build_ofList_eq_build_named link ["x".toList, "y z".toList]
    { asTemplate := true } single
  rw [zipped] at same
  exact ⟨single, same, same.trans named⟩

end Parts

end Uri
end ResourceRouting
