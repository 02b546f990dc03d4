import ResourceRouting.Proofs.Uri.Legal
import ResourceRouting.Proofs.Uri.Writing.Binding

/-!
# Legal text in the components of a URI

The text of a value consists of characters that a component allows and of escapes.  The component
is that of the placeholder if values are given by name.  If they are given by position, it is the
one in which the name first occurs, and the text is used again wherever the name comes back.
-/

namespace ResourceRouting
namespace Uri

namespace Values

/-- What is prepared for a component is legal in it. -/
theorem isLegal_of_prepare
    {component : Component}
    {encode : Bool}
    {value text : Text}
    (prepared : prepare component encode value = .ok text) :
    component.IsLegal text := by
  unfold prepare at prepared
  split at prepared
  · cases prepared
    exact Component.isLegal_encode value
  · split at prepared
    · rename_i checked
      cases prepared
      exact Component.isLegal_of_illegal? checked
    · cases prepared

/-- A value that is not encoded is refused for its first illegal character. -/
theorem prepare_of_illegal?
    {component : Component}
    {value : Text}
    {character : Char}
    (found : component.illegal? value = some character) :
    prepare component false value = .error (.illegal component value character) := by
  simp [prepare, found]

/-- A value is refused only for a character that is illegal in the component. -/
theorem eq_illegal_of_prepare
    {component : Component}
    {encode : Bool}
    {value : Text}
    {error : BuildError}
    (refused : prepare component encode value = .error error) :
    ∃ character, component.illegal? value = some character ∧
      error = .illegal component value character := by
  unfold prepare at refused
  split at refused
  · cases refused
  · split at refused
    · cases refused
    · rename_i character found
      cases refused
      exact ⟨character, found, rfl⟩

end Values

namespace Step

/-- The text of a value is legal in the component that it was prepared for. -/
theorem isLegal_of_fill
    {mode : BuildMode}
    {plan : Plan}
    {step : Step}
    {component : Component}
    {name text : Text}
    (filled : step.fill mode plan = .ok (.value component name text)) :
    step = .value component name ∧ (plan.home component name).IsLegal text := by
  cases step with
  | mark text => cases filled
  | literal component text => cases filled
  | unclosed part => cases filled
  | value other otherName =>
      rcases fill_value_cases filled with ⟨_, kept⟩ | ⟨given, _, _, prepared, same⟩
      · cases kept
      · cases same
        exact ⟨rfl, Values.isLegal_of_prepare prepared⟩

/-- What can go wrong with a step. -/
theorem fill_eq_error
    {mode : BuildMode}
    {plan : Plan}
    {step : Step}
    {error : BuildError}
    (failed : step.fill mode plan = .error error) :
    (∃ part, step = .unclosed part ∧ error = .malformed part) ∨
      ∃ component name, step = .value component name ∧
        ((plan.value? name = none ∧ mode.asTemplate = false ∧ error = .missing name) ∨
          ∃ value character, plan.value? name = some value ∧
            (plan.home component name).illegal? value = some character ∧
            error = .illegal (plan.home component name) value character) := by
  cases step with
  | mark text => cases failed
  | literal component text => cases failed
  | unclosed part =>
      cases failed
      exact .inl ⟨part, rfl, rfl⟩
  | value component name =>
      refine .inr ⟨component, name, rfl, ?_⟩
      rw [fill] at failed
      split at failed
      · rename_i none
        split at failed
        · cases failed
        · rename_i closed
          cases failed
          exact .inl ⟨none, by simpa using closed, rfl⟩
      · rename_i value given
        cases prepared : Values.prepare (plan.home component name)
            (mode.within (plan.home component name)).encode value with
        | ok ready =>
            rw [prepared] at failed
            cases failed
        | error fault =>
            rw [prepared] at failed
            cases failed
            obtain ⟨character, found, rfl⟩ := Values.eq_illegal_of_prepare prepared
            exact .inr ⟨value, character, given, found, rfl⟩

end Step

namespace Parts

/--
Whether what is prepared for a name is meant for a component as well: values by name are prepared
for each placeholder, values by position for the component in which the name first occurs.
-/
def Suits (parts : Parts) (component : Component) (name : Text) : Values → Prop
  | .named _ => True
  | .positional _ _ =>
      ∀ first, parts.occurrences.lookup name = some first → first.IsWithin component

theorem Suits.isWithin
    {parts : Parts}
    {component : Component}
    {name : Text}
    {values : Values}
    (suits : parts.Suits component name values) :
    ((values.plan parts.occurrences).home component name).IsWithin component := by
  cases values with
  | named bindings => exact .refl component
  | positional unused bound =>
      change ((parts.occurrences.lookup name).getD component).IsWithin component
      cases found : parts.occurrences.lookup name with
      | none => exact .refl component
      | some first => exact suits first found

/-- The value that initial values give to a name. -/
def value? (parts : Parts) (values : Values) (name : Text) : Option Text :=
  (values.plan parts.occurrences).value? name

/--
Values are legal where they are written.  What a value contributes to a URI consists of characters
that the component allows and of escapes, if the component is one that the value was prepared for.
A value that is not encoded and holds an illegal character lets the building fail; the fault is an
illegal character if all placeholders are closed and none lacks a value.
-/
theorem isLegal_of_build
    (parts : Parts)
    (values : Values)
    (mode : BuildMode)
    (initial : values.IsInitial) :
    (∀ uri, parts.build values mode = .ok uri →
      ∃ written, parts.trace values mode = .ok written ∧ uri = Written.join written ∧
        ∀ component name text, .value component name text ∈ written →
          parts.Suits component name values → component.IsLegal text) ∧
      (mode.encode = false → ∀ component name value character,
        (name, component) ∈ parts.occurrences → parts.value? values name = some value →
          component.illegal? value = some character → parts.Suits component name values →
            (∃ error, parts.build values mode = .error error) ∧
              ((∀ part, .unclosed part ∉ parts.steps) →
                (mode.asTemplate = true ∨
                  ∀ other ∈ parts.names, parts.value? values other ≠ none) →
                    ∃ component value character,
                      parts.build values mode = .error (.illegal component value character) ∧
                        component.illegal? value = some character)) := by
  rw [build_eq_trace initial]
  constructor
  · intro uri built
    cases traced : parts.trace values mode with
    | error fault =>
        rw [traced] at built
        cases built
    | ok written =>
        rw [traced] at built
        cases built
        refine ⟨written, rfl, rfl, fun component name text present suits => ?_⟩
        obtain ⟨step, _, filled⟩ := Step.exists_mem_of_fillAll traced present
        exact (Step.isLegal_of_fill filled).2.mono suits.isWithin
  · intro verbatim component name value character occurs given illegal suits
    cases traced : parts.trace values mode with
    -- If all steps were taken, the one for the illegal value was, though its value is refused.
    | ok written =>
        obtain ⟨one, filled⟩ :=
          Step.exists_fill_of_mem traced (mem_occurrences_iff.mp occurs)
        rw [Step.fill, show (values.plan parts.occurrences).value? name = some value from given]
          at filled
        dsimp only at filled
        rw [BuildMode.encode_within verbatim] at filled
        cases checked : ((values.plan parts.occurrences).home component name).illegal? value with
        | none =>
            rw [Component.illegal?_eq_none_mono suits.isWithin checked] at illegal
            cases illegal
        | some first =>
            rw [Values.prepare_of_illegal? checked] at filled
            cases filled
    | error fault =>
        refine ⟨⟨fault, rfl⟩, fun closed valued => ?_⟩
        obtain ⟨step, present, failed⟩ := Step.exists_fill_of_fillAll traced
        rcases Step.fill_eq_error failed with ⟨part, rfl, _⟩ | ⟨own, other, rfl, reason⟩
        · exact absurd present (closed part)
        · rcases reason with ⟨none, kept, _⟩ | ⟨culprit, found, _, first, rfl⟩
          · rcases valued with asTemplate | valued
            · rw [kept] at asTemplate
              cases asTemplate
            · have occurs := mem_occurrences_iff.mpr present
              exact absurd none (valued other (List.mem_map_of_mem occurs))
          · exact ⟨_, _, _, rfl, first⟩

/-- A value that is encoded in a path, and the same value where nothing is encoded. -/
theorem isLegal_of_build_link :
    (Values.ofList ["x".toList, "y z".toList, "w".toList]).IsInitial ∧
      (∃ written,
        link.trace (.ofList ["x".toList, "y z".toList, "w".toList]) {} = .ok written ∧
          .value .path "a".toList "y%20z".toList ∈ written ∧
          Component.path.IsLegal "y%20z".toList) ∧
      ∃ component value character,
        link.build (.ofList ["x".toList, "y z".toList, "w".toList]) { encode := false } =
            .error (.illegal component value character) ∧
          component.illegal? value = some character := by
  have initial := Values.isInitial_ofList ["x".toList, "y z".toList, "w".toList]
  have suits : link.Suits .path "a".toList
      (.ofList ["x".toList, "y z".toList, "w".toList]) := by
    intro first found
    have home : link.occurrences.lookup "a".toList = some .path := by decide +kernel
    rw [home] at found
    cases found
    exact .refl .path
  refine ⟨initial, ?_, ?_⟩
  · have built : link.build (.ofList ["x".toList, "y z".toList, "w".toList]) {} =
        .ok "//x.org/y%20z/w/y%20z".toList := by
      decide +kernel
    obtain ⟨written, traced, _, legal⟩ := (isLegal_of_build link _ {} initial).1 _ built
    have listed : (link.trace (.ofList ["x".toList, "y z".toList, "w".toList]) {}).toOption.any
        (·.contains (.value .path "a".toList "y%20z".toList)) = true := by
      decide +kernel
    rw [traced] at listed
    have present : .value .path "a".toList "y%20z".toList ∈ written := by
      simpa [Except.toOption] using listed
    exact ⟨written, traced, present, legal _ _ _ present suits⟩
  · have failed := (isLegal_of_build link (.ofList ["x".toList, "y z".toList, "w".toList])
      { encode := false } initial).2 rfl .path "a".toList "y z".toList ' ' (by decide +kernel)
      (by decide +kernel) (by decide +kernel) suits
    -- Every step can be taken once all names have a value, so no placeholder is left open.
    have closed : link.steps.all (fun step =>
        (step.fill {} ⟨fun _ => some [], fun component _ => component⟩).isOk) = true := by
      decide +kernel
    refine failed.2 (fun part present => ?_) (.inr (by decide +kernel))
    exact Bool.false_ne_true (List.all_eq_true.mp closed _ present)

/-- A host whose address comes back in the path. -/
def address : Parts :=
  { host := some "{a}".toList, path := some "/{a}".toList }

/--
Brackets that a host allows stand in a path, where they are not allowed, whether values are encoded
or not.  A value that is missing further to the left is the fault that is told.
-/
theorem build_address_not_isLegal :
    (∃ written, address.trace (.ofList ["[::1]".toList]) {} = .ok written ∧
        address.build (.ofList ["[::1]".toList]) {} = .ok (Written.join written) ∧
        .value .path "a".toList "[::1]".toList ∈ written ∧
        ¬ Component.path.IsLegal "[::1]".toList) ∧
      (address.build (.ofList ["[::1]".toList]) { encode := false } =
          .ok "//[::1]/[::1]".toList ∧
        Component.path.illegal? "[::1]".toList = some '[') ∧
      (ofPath "/{b}/{a}".toList).build (.named [("a".toList, " ".toList)]) { encode := false } =
          .error (.missing "b".toList) ∧
        Component.path.illegal? " ".toList = some ' ' := by
  refine ⟨?_, ?_, ?_⟩
  · refine ⟨[.mark "//".toList, .mark [], .literal .host [],
      .value .host "a".toList "[::1]".toList, .literal .host [], .mark [], .mark [],
      .literal .path "/".toList, .value .path "a".toList "[::1]".toList, .literal .path [],
      .mark []], by decide +kernel, by decide +kernel, by decide +kernel, ?_⟩
    intro legal
    rw [show "[::1]".toList = ['[', ':', ':', '1', ']'] by decide +kernel] at legal
    have bracket : Component.path.allows '[' = false := by decide
    cases legal with
    | allowed allowed _ =>
        rw [bracket] at allowed
        cases allowed
  · exact ⟨by decide +kernel, by decide +kernel⟩
  · exact ⟨by decide +kernel, by decide +kernel⟩

end Parts

end Uri
end ResourceRouting
