import ResourceRouting.Proofs.Uri.Writing.Legal
import ResourceRouting.Proofs.Uri.Writing.Sections

/-!
# Splitting a URI into its pieces

Values never hold a character at which their component ends, also where the text of a value comes
back in a component that stands further behind.  A URI that was assembled with a host is therefore
divided into what was written for its parts.
-/

namespace ResourceRouting
namespace Uri

/-- A text that is legal in a component holds none of the characters at which it ends. -/
theorem Component.IsLegal.avoids
    {component : Component}
    {text : Text}
    (legal : component.IsLegal text) :
    component.Avoids text := by
  have refused : ∀ character ∈ component.delimiters,
      component.allows character = false ∧ character ≠ '%' ∧
        Text.isHexDigit character = false := by
    cases component <;>
      simp only [Component.delimiters, List.forall_mem_cons, List.not_mem_nil, false_implies,
        implies_true, and_true] <;> decide
  intro character present delimits
  obtain ⟨notAllowed, notPercent, notDigit⟩ := refused character delimits
  exact legal.not_mem notAllowed notPercent notDigit present

namespace Parts

/-- Whether the text of the parts outside of placeholders is legal where it stands. -/
def HasLegalLiterals (parts : Parts) : Prop :=
  ∀ component text, .literal component text ∈ parts.steps → component.IsLegal text

/-- Literal text that passes the check for values is legal. -/
theorem hasLegalLiterals_of_all
    {parts : Parts}
    (checked : parts.steps.all (fun step => match step with
      | .literal component text => (component.illegal? text).isNone
      | _ => true) = true) :
    parts.HasLegalLiterals :=
  fun _ _ present => Component.isLegal_of_illegal?
    (Option.isNone_iff_eq_none.mp (List.all_eq_true.mp checked _ present))

/-- The pieces of a URI that are meant by its parts. -/
def pieces (parts : Parts) (written : List Written) : Pieces where
  scheme := parts.scheme.map fun _ => Written.textOf .scheme written
  authority := some
    ((present parts.userInfo).elim [] (fun _ => Written.textOf .userInfo written ++ ['@']) ++
      (Written.textOf .host written ++
        parts.port.elim [] (fun _ => [':'] ++ Written.textOf .port written)))
  path := (present parts.path).elim [] fun _ => parts.pathMark ++ Written.textOf .path written
  query := (present parts.query).map fun _ => Written.textOf .query written
  fragment := (present parts.fragment).map fun _ => Written.textOf .fragment written

/--
What is written in a component holds no character at which the component ends, also if it was
prepared for a component that stands further in front.
-/
theorem avoids_of_trace
    {parts : Parts}
    {values : Values}
    {mode : BuildMode}
    {written : List Written}
    (literals : parts.HasLegalLiterals)
    (complete : mode.asTemplate = false)
    (traced : parts.trace values mode = .ok written)
    (component : Component) :
    component.Avoids (Written.textOf component written) := by
  intro character present
  obtain ⟨one, listed, inText⟩ := List.mem_flatMap.mp present
  obtain ⟨inWritten, own⟩ := List.mem_filter.mp listed
  obtain ⟨step, inSteps, filled⟩ := Step.exists_mem_of_fillAll traced inWritten
  have writes := (Step.component?_of_fill filled).symm.trans (of_decide_eq_true own)
  cases step with
  | mark text => cases writes
  | unclosed part => cases writes
  | literal other text =>
      cases writes
      cases filled
      exact (literals component text inSteps).avoids character inText
  | value other name =>
      cases writes
      rcases Step.fill_value_cases filled with ⟨kept, _⟩ | ⟨value, text, _, prepared, rfl⟩
      · rw [complete] at kept
        cases kept
      · intro delimits
        have ordered := rank_home_le (mem_occurrences_iff.mpr inSteps) values
        exact (Values.isLegal_of_prepare prepared).avoids character inText
          (Component.delimiters_subset ordered delimits)

/-- Behind an authority a path begins with a slash. -/
theorem rooted_of_fillAll
    {parts : Parts}
    {mode : BuildMode}
    {plan : Step.Plan}
    {written : List Written}
    (authority : parts.hasAuthority = true)
    (filled : Step.fillAll mode plan
      (Step.ofSection parts.pathMark .path [] (present parts.path)) = .ok written)
    (path : Text)
    (shown : path = (present parts.path).elim []
      fun _ => parts.pathMark ++ Written.textOf .path written) :
    path = [] ∨ path.head? = some '/' := by
  rcases set : parts.path with _ | _ | ⟨first, rest⟩
  · exact .inl (by simpa [set] using shown)
  · exact .inl (by simpa [set] using shown)
  · rw [set, present_cons] at filled shown
    subst shown
    by_cases slash : first = '/'
    · subst slash
      have none : parts.pathMark = [] := by simp [pathMark, set]
      have begins := Step.head?_textOf_of_fillAll_ofSection filled (by decide)
      simp [none, begins]
    · have mark : parts.pathMark = ['/'] := by simp [pathMark, set, authority, slash]
      simp [mark]

/--
What is written for the parts of a URI with a host is the text of its pieces, and the path among
them is empty or begins with a slash.
-/
theorem join_of_trace
    {parts : Parts}
    {values : Values}
    {mode : BuildMode}
    {written : List Written}
    (hosted : parts.host.isSome)
    (traced : parts.trace values mode = .ok written) :
    Written.join written = (parts.pieces written).text ∧
      ((parts.pieces written).path = [] ∨ (parts.pieces written).path.head? = some '/') := by
  have authority : parts.hasAuthority = true := by simp [hasAuthority, hosted]
  obtain ⟨host, set⟩ := Option.isSome_iff_exists.mp hosted
  rw [trace, steps, authoritySteps, if_pos authority, set] at traced
  obtain ⟨scheme, _, rfl, schemeFilled, afterScheme⟩ := Step.exists_append_of_fillAll traced
  obtain ⟨_, _, rfl, authorityFilled, afterAuthority⟩ :=
    Step.exists_append_of_fillAll afterScheme
  obtain ⟨slashes, _, rfl, slashesFilled, afterSlashes⟩ :=
    @Step.exists_append_of_fillAll _ _ [.mark ['/', '/']] _ _ authorityFilled
  obtain ⟨userInfo, _, rfl, userInfoFilled, afterUserInfo⟩ :=
    Step.exists_append_of_fillAll afterSlashes
  obtain ⟨hosts, port, rfl, hostFilled, portFilled⟩ :=
    Step.exists_append_of_fillAll afterUserInfo
  obtain ⟨path, _, rfl, pathFilled, afterPath⟩ := Step.exists_append_of_fillAll afterAuthority
  obtain ⟨query, fragment, rfl, queryFilled, fragmentFilled⟩ :=
    Step.exists_append_of_fillAll afterPath
  cases slashesFilled
  obtain ⟨schemeText, schemeOnly⟩ := Step.join_of_fillAll_ofSection schemeFilled
  obtain ⟨userInfoText, userInfoOnly⟩ := Step.join_of_fillAll_ofSection userInfoFilled
  obtain ⟨hostText, hostOnly⟩ := Step.join_of_fillAll_ofSection hostFilled
  obtain ⟨portText, portOnly⟩ := Step.join_of_fillAll_ofSection portFilled
  obtain ⟨pathText, pathOnly⟩ := Step.join_of_fillAll_ofSection pathFilled
  obtain ⟨queryText, queryOnly⟩ := Step.join_of_fillAll_ofSection queryFilled
  obtain ⟨fragmentText, fragmentOnly⟩ := Step.join_of_fillAll_ofSection fragmentFilled
  constructor
  · simp [pieces, Pieces.text, Function.comp_def, Written.text, schemeText, userInfoText, hostText,
      portText, pathText, queryText, fragmentText, schemeOnly, userInfoOnly, hostOnly, portOnly,
      pathOnly, queryOnly, fragmentOnly]
  · apply rooted_of_fillAll authority pathFilled
    simp [pieces, schemeOnly, userInfoOnly, hostOnly, portOnly, queryOnly, fragmentOnly]

/-- The pieces that are meant are proper if what is written ends no component. -/
theorem isProper_pieces
    {parts : Parts}
    {written : List Written}
    (avoids : ∀ component : Component, component.Avoids (Written.textOf component written))
    (named : parts.scheme = none ∨ Written.textOf .scheme written ≠ [])
    (rooted : (parts.pieces written).path = [] ∨ (parts.pieces written).path.head? = some '/') :
    (parts.pieces written).IsProper where
  named := by
    rcases named with none | nonempty
    · simp [pieces, none]
    · cases set : parts.scheme <;> simp [pieces, set, nonempty]
  scheme := by
    intro text present
    obtain ⟨_, _, rfl⟩ := Option.map_eq_some_iff.mp present
    exact avoids .scheme
  hosted := rfl
  authority := by
    rintro _ ⟨⟩
    have userInfo : Component.host.Avoids ((present parts.userInfo).elim []
        fun _ => Written.textOf .userInfo written ++ ['@']) := by
      cases present parts.userInfo with
      | none => exact Component.avoids_nil
      | some _ => exact Component.avoids_append.mpr ⟨avoids .userInfo, by decide⟩
    have port : Component.host.Avoids (parts.port.elim []
        fun _ => [':'] ++ Written.textOf .port written) := by
      cases parts.port with
      | none => exact Component.avoids_nil
      | some _ => exact Component.avoids_append.mpr ⟨by decide, avoids .port⟩
    exact Component.avoids_append.mpr ⟨userInfo, Component.avoids_append.mpr ⟨avoids .host, port⟩⟩
  rooted := rooted
  path := by
    change Component.path.Avoids ((present parts.path).elim []
      fun _ => parts.pathMark ++ Written.textOf .path written)
    cases present parts.path with
    | none => exact Component.avoids_nil
    | some _ =>
        refine Component.avoids_append.mpr ⟨?_, avoids .path⟩
        rw [pathMark]
        split <;> decide
  query := by
    intro text present
    obtain ⟨_, _, rfl⟩ := Option.map_eq_some_iff.mp present
    exact avoids .query

/--
A URI with a host is divided into what was written for its parts, if the literal text of the parts
is legal and the scheme, if there is one, is not empty.  So no value moves text from one component
into another.
-/
theorem split_of_build
    {parts : Parts}
    {values : Values}
    {mode : BuildMode}
    {uri : Text}
    (initial : values.IsInitial)
    (hosted : parts.host.isSome)
    (literals : parts.HasLegalLiterals)
    (complete : mode.asTemplate = false)
    (built : parts.build values mode = .ok uri) :
    ∃ written, parts.trace values mode = .ok written ∧ uri = Written.join written ∧
      (parts.scheme = none ∨ Written.textOf .scheme written ≠ [] →
        Pieces.split uri = parts.pieces written) := by
  rw [build_eq_trace initial] at built
  cases traced : parts.trace values mode with
  | error fault =>
      rw [traced] at built
      cases built
  | ok written =>
      rw [traced] at built
      cases built
      refine ⟨written, rfl, rfl, fun named => ?_⟩
      obtain ⟨joined, rooted⟩ := join_of_trace hosted traced
      rw [joined]
      exact Pieces.split_text
        (isProper_pieces (avoids_of_trace literals complete traced) named rooted)

/-- A page whose address and whose name come back behind the component where they occur first. -/
def page : Parts :=
  { scheme := some "http".toList
    host := some "{h}".toList
    path := some "{h}/{a}".toList
    query := some "q={a}".toList
    fragment := some "{f}".toList }

/-- Brackets in a path and an encoded path in a query do not change where the pieces end. -/
theorem split_of_build_page :
    page.host.isSome ∧ page.HasLegalLiterals ∧
      page.build (.ofList ["[::1]".toList, "a/b?c".toList, "x#y".toList]) {} =
        .ok "http://[::1]/[::1]/a/b%3Fc?q=a/b%3Fc#x%23y".toList ∧
      Pieces.split "http://[::1]/[::1]/a/b%3Fc?q=a/b%3Fc#x%23y".toList =
        ⟨some "http".toList, some "[::1]".toList, "/[::1]/a/b%3Fc".toList,
          some "q=a/b%3Fc".toList, some "x%23y".toList⟩ := by
  have initial := Values.isInitial_ofList ["[::1]".toList, "a/b?c".toList, "x#y".toList]
  have hosted : page.host.isSome := rfl
  have literals : page.HasLegalLiterals := hasLegalLiterals_of_all (by decide +kernel)
  have built : page.build (.ofList ["[::1]".toList, "a/b?c".toList, "x#y".toList]) {} =
      .ok "http://[::1]/[::1]/a/b%3Fc?q=a/b%3Fc#x%23y".toList := by
    decide +kernel
  have meant : (page.trace (.ofList ["[::1]".toList, "a/b?c".toList, "x#y".toList]) {}).map
      (fun written => (Written.textOf .scheme written, page.pieces written)) =
        .ok ("http".toList, ⟨some "http".toList, some "[::1]".toList, "/[::1]/a/b%3Fc".toList,
          some "q=a/b%3Fc".toList, some "x%23y".toList⟩) := by
    decide +kernel
  obtain ⟨written, traced, _, divided⟩ := split_of_build initial hosted literals rfl built
  rw [traced] at meant
  obtain ⟨named, pieces⟩ := Prod.mk.inj (Except.ok.inj meant)
  refine ⟨hosted, literals, built, (divided (.inr ?_)).trans pieces⟩
  rw [named]
  decide +kernel

/-- A host and a path that is set, but empty. -/
def bare : Parts :=
  { host := some "h".toList, path := some [] }

/-- An empty path does not begin with a slash, and none is put in front of it. -/
theorem split_build_bare :
    bare.host.isSome ∧ bare.scheme = none ∧ bare.HasLegalLiterals ∧
      bare.build (.ofList []) {} = .ok "//h".toList ∧
      bare.path = some [] ∧ (Pieces.split "//h".toList).path ≠ ['/'] := by
  refine ⟨rfl, rfl, ?_, by decide +kernel, rfl, by decide +kernel⟩
  exact hasLegalLiterals_of_all (by decide +kernel)

end Parts

end Uri
end ResourceRouting
