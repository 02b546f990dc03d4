import ResourceRouting.Proofs.Distinct
import ResourceRouting.Proofs.Text
import ResourceRouting.Proofs.Uri.Braces
import ResourceRouting.Proofs.Uri.Building
import ResourceRouting.Proofs.Uri.Writing.Legal
import ResourceRouting.Proofs.Uri.Writing.Sections

/-!
# Building in two stages

A path that was built with too few values, and with the other placeholders kept, is a template
again.  Its placeholders are those that were kept, in order: no text of a value is taken for one.
So it does not matter whether a path is built with some values first and with others later, or with
all of them at once.
-/

namespace ResourceRouting
namespace Uri

namespace Template

/-- A text without braces is balanced. -/
theorem isBalanced_of_braceless
    {text : Text}
    (braceless : ∀ character ∈ text, isBrace character = false) :
    IsBalanced text := by
  induction text with
  | nil => exact balances_nil_iff.mpr rfl
  | cons character text ih =>
      rw [List.forall_mem_cons] at braceless
      exact (balances_cons_iff braceless.1).mpr (ih braceless.2)

/-- A variable that is written as its name alone has this name. -/
theorem splitVariable_name (body : Text) :
    (splitVariable (splitVariable body).1).1 = (splitVariable body).1 := by
  have trimmed : ∀ front : Text, ':' ∉ front →
      (splitVariable (Text.trim front)).1 = Text.trim front := by
    intro front unmarked
    rw [splitVariable, Text.cut_of_not_mem fun present => unmarked (Text.mem_of_mem_trim present)]
    exact Text.trim_trim front
  by_cases marked : ':' ∈ body
  · obtain ⟨front, behind, rfl, first⟩ := List.eq_append_cons_of_mem marked
    have own : (splitVariable (front ++ ':' :: behind)).1 = Text.trim front := by
      rw [splitVariable, Text.cut_append_cons first]
    rw [own, trimmed front first]
  · have own : (splitVariable body).1 = Text.trim body := by
      rw [splitVariable, Text.cut_of_not_mem marked]
    rw [own, trimmed body marked]

end Template

/-- What is prepared for a component opens no placeholder. -/
theorem Values.isPlain_of_prepare
    {component : Component}
    {encode : Bool}
    {value text : Text}
    (prepared : prepare component encode value = .ok text) :
    ∀ character ∈ text, isPlain character = true := by
  have refused : component.allows '{' = false := by cases component <;> decide
  have absent := (isLegal_of_prepare prepared).not_mem refused (by decide) (by decide)
  intro character present
  rw [isPlain, decide_eq_true_iff]
  rintro rfl
  exact absent present

section Filling

variable {literal rest inside body after : Text}

theorem takeWhile_append_open (plain : ∀ character ∈ literal, isPlain character = true) :
    (literal ++ '{' :: inside).takeWhile isPlain = literal := by
  rw [List.takeWhile_append_of_pos plain, List.takeWhile_cons_of_neg (by decide),
    List.append_nil]

theorem dropWhile_append_open (plain : ∀ character ∈ literal, isPlain character = true) :
    (literal ++ '{' :: inside).dropWhile isPlain = '{' :: inside := by
  rw [List.dropWhile_append_of_pos plain, List.dropWhile_cons_of_neg (by decide)]

theorem eq_open_of_dropWhile_isPlain
    {character : Char}
    (dropped : rest.dropWhile isPlain = character :: inside) :
    character = '{' := by
  have first := List.head?_dropWhile_not isPlain rest
  rw [dropped] at first
  simpa [isPlain] using first

theorem append_placeholder (literal name rest : Text) :
    literal ++ placeholder name ++ rest = literal ++ '{' :: (name ++ '}' :: rest) := by
  simp [placeholder]

/-- The text of what is left of a path with values by name. -/
def fillPath
    (mode : BuildMode)
    (bindings : List (Text × Text))
    (whole rest : Text) :
    Except BuildError Text :=
  (substitute whole .path mode (.named bindings) rest).map Prod.fst

/-- The names of the placeholders in what is left of a path. -/
def pathNames (whole rest : Text) : List Text :=
  (Step.occurrences (Step.ofPart .path whole rest)).map Prod.fst

variable
  {mode : BuildMode}
  {bindings : List (Text × Text)}
  {whole : Text}

theorem fillPath_plain (plain : ∀ character ∈ literal, isPlain character = true) :
    fillPath mode bindings whole literal = .ok literal := by
  rw [fillPath, substitute_plain plain]
  rfl

theorem pathNames_plain (plain : ∀ character ∈ literal, isPlain character = true) :
    pathNames whole literal = [] := by
  rw [pathNames, Step.ofPart_of_nil (List.dropWhile_eq_nil_iff.mpr plain)]
  rfl

/-- Text that opens no placeholder stays in front. -/
theorem fillPath_append
    (plain : ∀ character ∈ literal, isPlain character = true)
    (rest : Text) :
    fillPath mode bindings whole (literal ++ rest) =
      (fillPath mode bindings whole rest).map (literal ++ ·) := by
  induction literal with
  | nil =>
      rw [List.nil_append]
      cases fillPath mode bindings whole rest <;> rfl
  | cons character literal ih =>
      rw [List.forall_mem_cons] at plain
      have first : fillPath mode bindings whole (character :: (literal ++ rest)) =
          (fillPath mode bindings whole (literal ++ rest)).map (character :: ·) := by
        rw [fillPath, fillPath]
        have split :=
          Step.substitute_cons plain.1 whole .path mode (.named bindings) (literal ++ rest)
        rw [show mode.within .path = mode from rfl] at split
        rw [split]
        cases substitute whole .path mode (.named bindings) (literal ++ rest) <;> rfl
      rw [List.cons_append, first, ih plain.2]
      cases fillPath mode bindings whole rest <;> rfl

theorem pathNames_append
    (plain : ∀ character ∈ literal, isPlain character = true)
    (rest : Text) :
    pathNames whole (literal ++ rest) = pathNames whole rest := by
  induction literal with
  | nil => rfl
  | cons character literal ih =>
      rw [List.forall_mem_cons] at plain
      obtain ⟨steps, shorter, longer⟩ :=
        Step.exists_ofPart_cons plain.1 .path whole (literal ++ rest)
      rw [← ih plain.2, pathNames, pathNames, List.cons_append, shorter, longer]
      rfl

/-- A placeholder is replaced by its value, or kept if it has none. -/
theorem fillPath_open
    (plain : ∀ character ∈ literal, isPlain character = true)
    (closed : Template.closeBrace 0 inside = some (body, after)) :
    fillPath mode bindings whole (literal ++ '{' :: inside) =
      match bindings.lookup (Template.splitVariable body).1 with
      | none =>
          if mode.asTemplate then
            (fillPath mode bindings whole after).map
              (literal ++ placeholder (Template.splitVariable body).1 ++ ·)
          else
            .error (.missing (Template.splitVariable body).1)
      | some value =>
          (Values.prepare .path mode.encode value).bind fun text =>
            (fillPath mode bindings whole after).map (literal ++ text ++ ·) := by
  rw [fillPath, substitute_of_closed (dropWhile_append_open plain) closed,
    takeWhile_append_open plain, Values.resolve]
  cases bindings.lookup (Template.splitVariable body).1 with
  | none =>
      cases mode.asTemplate with
      | false => rfl
      | true =>
          dsimp only
          rw [fillPath]
          cases substitute whole .path mode (.named bindings) after <;> rfl
  | some value =>
      dsimp only
      cases Values.prepare .path mode.encode value with
      | error fault => rfl
      | ok text =>
          dsimp only [Except.map, Except.bind]
          rw [fillPath]
          cases substitute whole .path mode (.named bindings) after <;> rfl

/-- A placeholder has been kept without a value, or filled with what is prepared of its value. -/
theorem exists_of_fillPath_open
    {encode : Bool}
    {text : Text}
    (plain : ∀ character ∈ literal, isPlain character = true)
    (closed : Template.closeBrace 0 inside = some (body, after))
    (filled : fillPath ⟨encode, true⟩ bindings whole (literal ++ '{' :: inside) = .ok text) :
    ∃ others, fillPath ⟨encode, true⟩ bindings whole after = .ok others ∧
      ((bindings.lookup (Template.splitVariable body).1 = none ∧
          text = literal ++ placeholder (Template.splitVariable body).1 ++ others) ∨
        ∃ value given, bindings.lookup (Template.splitVariable body).1 = some value ∧
          Values.prepare .path encode value = .ok given ∧ text = literal ++ given ++ others) := by
  rw [fillPath_open plain closed] at filled
  cases found : bindings.lookup (Template.splitVariable body).1 with
  | none =>
      rw [found] at filled
      cases more : fillPath ⟨encode, true⟩ bindings whole after with
      | error fault =>
          rw [more] at filled
          cases filled
      | ok others =>
          rw [more] at filled
          cases filled
          exact ⟨others, rfl, .inl ⟨rfl, rfl⟩⟩
  | some value =>
      rw [found] at filled
      dsimp only at filled
      cases prepared : Values.prepare .path encode value with
      | error fault =>
          rw [prepared] at filled
          cases filled
      | ok given =>
          rw [prepared, Except.bind] at filled
          cases more : fillPath ⟨encode, true⟩ bindings whole after with
          | error fault =>
              rw [more] at filled
              cases filled
          | ok others =>
              rw [more] at filled
              cases filled
              exact ⟨others, rfl, .inr ⟨value, given, rfl, prepared, rfl⟩⟩

theorem pathNames_open
    (plain : ∀ character ∈ literal, isPlain character = true)
    (closed : Template.closeBrace 0 inside = some (body, after)) :
    pathNames whole (literal ++ '{' :: inside) =
      (Template.splitVariable body).1 :: pathNames whole after := by
  rw [pathNames, Step.ofPart_of_closed (dropWhile_append_open plain) closed]
  rfl

end Filling

/--
What the first of two stages makes of a path: placeholders with a value give way to its text, and
the others are kept under their names.
-/
inductive Stage (encode : Bool) (bindings : List (Text × Text)) : Text → Text → Prop
  /-- Text without a placeholder stays. -/
  | plain
      {literal : Text}
      (plain : ∀ character ∈ literal, isPlain character = true) :
      Stage encode bindings literal literal
  /-- A placeholder without a value is kept. -/
  | kept
      {literal inside body after others : Text}
      (plain : ∀ character ∈ literal, isPlain character = true)
      (closed : Template.closeBrace 0 inside = some (body, after))
      (braceless : ∀ character ∈ (Template.splitVariable body).1,
        Template.isBrace character = false)
      (unbound : bindings.lookup (Template.splitVariable body).1 = none)
      (further : Stage encode bindings after others) :
      Stage encode bindings (literal ++ '{' :: inside)
        (literal ++ placeholder (Template.splitVariable body).1 ++ others)
  /-- A placeholder with a value is filled. -/
  | filled
      {literal inside body after others value text : Text}
      (plain : ∀ character ∈ literal, isPlain character = true)
      (closed : Template.closeBrace 0 inside = some (body, after))
      (found : bindings.lookup (Template.splitVariable body).1 = some value)
      (prepared : Values.prepare .path encode value = .ok text)
      (further : Stage encode bindings after others) :
      Stage encode bindings (literal ++ '{' :: inside) (literal ++ text ++ others)

section Staging

variable
  {encode : Bool}
  {bindings : List (Text × Text)}
  {rest text : Text}

/-- A path that was built with its other placeholders kept has passed the first stage. -/
theorem stage_of_fillPath
    {whole : Text}
    (braceless : ∀ name ∈ pathNames whole rest, ∀ character ∈ name,
      Template.isBrace character = false)
    (filled : fillPath ⟨encode, true⟩ bindings whole rest = .ok text) :
    Stage encode bindings rest text := by
  induction rest using Step.ofPart.induct generalizing text with
  | case1 rest dropped =>
      have plain := List.dropWhile_eq_nil_iff.mp dropped
      rw [fillPath_plain plain] at filled
      cases filled
      exact .plain plain
  | case2 rest head inside dropped unclosed =>
      rw [fillPath, substitute_of_unclosed dropped unclosed] at filled
      cases filled
  | case3 rest head inside dropped body after closed ih =>
      have plain : ∀ character ∈ rest.takeWhile isPlain, isPlain character = true :=
        fun _ present => List.mem_takeWhile_imp present
      have parted : rest.takeWhile isPlain ++ '{' :: inside = rest := by
        rw [← eq_open_of_dropWhile_isPlain dropped, ← dropped, List.takeWhile_append_dropWhile]
      generalize rest.takeWhile isPlain = literal at plain parted
      subst parted
      rw [pathNames_open plain closed, List.forall_mem_cons] at braceless
      obtain ⟨others, more, ⟨unbound, rfl⟩ | ⟨value, given, found, prepared, rfl⟩⟩ :=
        exists_of_fillPath_open plain closed filled
      · exact .kept plain closed braceless.1 unbound (ih braceless.2 more)
      · exact .filled plain closed found prepared (ih braceless.2 more)

/-- The placeholders of what was built in the first stage are those that were kept. -/
theorem Stage.pathNames_eq (stage : Stage encode bindings rest text) (whole final : Text) :
    pathNames final text =
      (pathNames whole rest).filter fun name => (bindings.lookup name).isNone := by
  induction stage with
  | plain plain => rw [pathNames_plain plain, pathNames_plain plain, List.filter_nil]
  | @kept literal inside body after others plain closed braceless unbound _ ih =>
      have again := Template.closeBrace_of_balances (Template.isBalanced_of_braceless braceless)
        others
      rw [pathNames_open plain closed, List.filter_cons_of_pos (by simp [unbound]), ← ih,
        append_placeholder, pathNames_open plain again, Template.splitVariable_name]
  | @filled literal inside body after others value text plain closed found prepared _ ih =>
      have opens := Values.isPlain_of_prepare prepared
      rw [pathNames_open plain closed, List.filter_cons_of_neg (by simp [found]), ← ih,
        List.append_assoc, pathNames_append plain, pathNames_append opens]

/-- What the second stage makes of a path is what is made of it with all values at once. -/
theorem Stage.fillPath_eq
    (stage : Stage encode bindings rest text)
    (later : List (Text × Text))
    (asTemplate : Bool)
    (whole final : Text) :
    fillPath ⟨encode, asTemplate⟩ later final text =
      fillPath ⟨encode, asTemplate⟩ (bindings ++ later) whole rest := by
  induction stage with
  | plain plain => rw [fillPath_plain plain, fillPath_plain plain]
  | @kept literal inside body after others plain closed braceless unbound _ ih =>
      have again := Template.closeBrace_of_balances (Template.isBalanced_of_braceless braceless)
        others
      rw [fillPath_open plain closed, List.lookup_append, unbound, Option.none_or, ← ih,
        append_placeholder, fillPath_open plain again, Template.splitVariable_name]
  | @filled literal inside body after others value text plain closed found prepared _ ih =>
      have opens := Values.isPlain_of_prepare prepared
      rw [fillPath_open plain closed, List.lookup_append, found, Option.some_or, List.append_assoc,
        fillPath_append plain, fillPath_append opens, ih]
      dsimp only
      rw [prepared, Except.bind]
      cases fillPath ⟨encode, asTemplate⟩ (bindings ++ later) whole after with
      | error fault => rfl
      | ok more => simp only [Except.map, List.append_assoc]

end Staging

namespace Parts

theorem steps_ofPath (path : Text) :
    (ofPath path).steps = Step.ofSection [] .path [] (present (some path)) := by
  simp [steps, ofPath, authoritySteps, hasAuthority, pathMark, Step.ofSection]

theorem names_ofPath (path : Text) : (ofPath path).names = pathNames path path := by
  rw [names, occurrences, steps_ofPath]
  cases path with
  | nil =>
      rw [pathNames_plain (by simp)]
      rfl
  | cons first path =>
      rw [present_cons, Step.ofSection, ← List.singleton_append, Step.occurrences_append,
        Step.occurrences_append]
      exact congrArg (List.map Prod.fst) (List.append_nil _)

/-- A path is built from values by name. -/
theorem build_ofPath_named (path : Text) (bindings : List (Text × Text)) (mode : BuildMode) :
    (ofPath path).build (.named bindings) mode = fillPath mode bindings path path :=
  build_ofPath_eq path (.named bindings) mode

/-- The placeholders of a path all stand in it. -/
theorem keepsComponents_ofPath (path : Text) : (ofPath path).KeepsComponents := by
  have inPath : ∀ entry ∈ (ofPath path).occurrences, entry.2 = .path := by
    rw [occurrences, steps_ofPath]
    exact fun _ occurs => Step.eq_of_mem_occurrences_ofSection occurs
  intro first firstOccurs second secondOccurs _
  rw [inPath first firstOccurs, inPath second secondOccurs]

/-- A path is built from values by position as from values by name. -/
theorem build_ofPath_ofList (path : Text) (values : List Text) (mode : BuildMode) :
    (ofPath path).build (.ofList values) mode =
      fillPath mode ((ofPath path).names.eraseDups.zip values) path path := by
  rw [← build_ofPath_named, build_eq_trace (Values.isInitial_ofList values),
    build_eq_trace (Values.isInitial_named _),
    trace_ofList_eq_trace_named (keepsComponents_ofPath path)]

/--
A path that was built with too few values, and with the other placeholders kept, has just the
placeholders that were kept: those whose names are not among the names that had a value.  Building
it from further values is building the template from all values: the same path or the same error.
-/
theorem build_of_build_asTemplate
    {template path : Text}
    {values : List Text}
    {encode : Bool}
    (braceless : ∀ name ∈ (ofPath template).names, ∀ character ∈ name,
      Template.isBrace character = false)
    (built : (ofPath template).build (.ofList values) ⟨encode, true⟩ = .ok path) :
    ((ofPath path).names = (ofPath template).names.filter fun name =>
        !((ofPath template).names.eraseDups.take values.length).contains name) ∧
      ∀ (later : List Text) (asTemplate : Bool),
        (ofPath path).build (.ofList later) ⟨encode, asTemplate⟩ =
          (ofPath template).build (.ofList (values ++ later)) ⟨encode, asTemplate⟩ := by
  have distinct := Distinct.nodup_eraseDups (ofPath template).names
  rw [build_ofPath_ofList] at built
  rw [names_ofPath] at braceless
  have stage := stage_of_fillPath braceless built
  have kept : (ofPath path).names = (ofPath template).names.filter fun name =>
      !((ofPath template).names.eraseDups.take values.length).contains name := by
    rw [names_ofPath path, stage.pathNames_eq template path, ← names_ofPath]
    apply List.filter_congr
    intro name _
    rw [Bool.eq_iff_iff, Option.isNone_iff_eq_none, Distinct.lookup_zip_eq_none_iff]
    simp
  -- The names that are left, in order of first occurrence, are those without a value.
  have left : (ofPath path).names.eraseDups =
      (ofPath template).names.eraseDups.drop values.length := by
    rw [kept, Distinct.eraseDups_filter, Distinct.filter_not_mem_take distinct]
  refine ⟨kept, fun later asTemplate => ?_⟩
  rw [build_ofPath_ofList, build_ofPath_ofList, left, Distinct.zip_append]
  exact stage.fillPath_eq _ asTemplate template path

/-- A path in which one name comes back and one variable has a pattern. -/
def archive : Text :=
  "/{a}/{b: [0-9]+}/{a}/{c}".toList

/-- A value that holds a placeholder is encoded, and the names behind it are left. -/
theorem build_of_build_asTemplate_archive :
    (∀ name ∈ (ofPath archive).names, ∀ character ∈ name,
        Template.isBrace character = false) ∧
      (ofPath archive).build (.ofList ["{b}".toList]) ⟨true, true⟩ =
        .ok "/%7Bb%7D/{b}/%7Bb%7D/{c}".toList ∧
      (ofPath "/%7Bb%7D/{b}/%7Bb%7D/{c}".toList).names = ["b".toList, "c".toList] ∧
      (ofPath "/%7Bb%7D/{b}/%7Bb%7D/{c}".toList).build (.ofList ["7".toList]) ⟨true, true⟩ =
        .ok "/%7Bb%7D/7/%7Bb%7D/{c}".toList := by
  have braceless : ∀ name ∈ (ofPath archive).names, ∀ character ∈ name,
      Template.isBrace character = false := by
    have checked : ((ofPath archive).names.all (·.all (!Template.isBrace ·))) = true := by
      decide +kernel
    simpa only [List.all_eq_true, Bool.not_eq_true'] using checked
  have built : (ofPath archive).build (.ofList ["{b}".toList]) ⟨true, true⟩ =
      .ok "/%7Bb%7D/{b}/%7Bb%7D/{c}".toList := by
    decide +kernel
  obtain ⟨kept, same⟩ := build_of_build_asTemplate braceless built
  refine ⟨braceless, built, kept.trans (by decide +kernel), ?_⟩
  exact (same ["7".toList] true).trans (by decide +kernel)

end Parts

end Uri
end ResourceRouting
