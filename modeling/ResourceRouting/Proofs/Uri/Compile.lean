import ResourceRouting.Uri.Pattern

/-!
# Compiling templates

What it takes for a template to have a pattern, and what the pattern then is.
-/

namespace ResourceRouting
namespace Uri
namespace Template

@[simp]
theorem normalize_slash (rest : Text) : normalize ('/' :: rest) = '/' :: rest := rfl

theorem exists_normalize {text : Text} (nonempty : text ≠ []) :
    ∃ rest, normalize text = '/' :: rest := by
  unfold normalize
  split
  · contradiction
  · exact ⟨_, rfl⟩
  · exact ⟨_, rfl⟩

@[simp]
theorem text_ofParts (text : Text) (parts : List Part) : (ofParts text parts).text = text := by
  simp only [ofParts]
  split <;> rfl

/-- A text that is not empty is compiled through its parts. -/
theorem compile_eq {text : Text} (nonempty : text ≠ []) :
    compile text =
      (readParts (normalize text) 0 (normalize text)).map (ofParts (normalize text)) := by
  obtain ⟨rest, normal⟩ := exists_normalize nonempty
  unfold compile
  rw [normal]

/-- A template is compiled as its normal form is. -/
theorem compile_normalize (text : Text) : compile (normalize text) = compile text := by
  have normal : normalize (normalize text) = normalize text := by
    by_cases nonempty : text = []
    · rw [nonempty]
      rfl
    · obtain ⟨rest, begins⟩ := exists_normalize nonempty
      rw [begins, normalize_slash]
  rw [compile, normal, compile]

/-- A template that is compiled consists of parts. -/
theorem exists_readParts_of_compile
    {text : Text}
    {template : Template}
    (nonempty : text ≠ [])
    (compiled : compile text = .ok template) :
    ∃ parts, readParts (normalize text) 0 (normalize text) = .ok parts ∧
      template = ofParts (normalize text) parts := by
  rw [compile_eq nonempty] at compiled
  cases read : readParts (normalize text) 0 (normalize text) with
  | error fault =>
      rw [read] at compiled
      cases compiled
  | ok parts =>
      rw [read] at compiled
      exact ⟨parts, rfl, (Except.ok.inj compiled).symm⟩

theorem plain_takeWhile (text : Text) :
    ∀ character ∈ text.takeWhile (!isBrace ·), isBrace character = false := by
  have all := List.all_eq_true.mp (List.all_takeWhile (p := (!isBrace ·)) (l := text))
  intro character present
  simpa using all character present

/-- Where a text without closing braces in front goes on, an opening brace stands. -/
theorem eq_open_of_dropWhile
    {text inside : Text}
    {brace : Char}
    (dropped : text.dropWhile (!isBrace ·) = brace :: inside)
    (notClosing : brace ≠ '}') :
    brace = '{' := by
  have first := List.head?_dropWhile_not (!isBrace ·) text
  rw [dropped] at first
  simpa [isBrace, notClosing] using first

/-- What stands where a text without braces ends: nothing, or a brace. -/
def EndsPlain (rest : Text) : Prop :=
  ∀ character ∈ rest.head?, isBrace character = true

theorem endsPlain_nil : EndsPlain [] := by
  rintro _ ⟨⟩

theorem endsPlain_open (inside : Text) : EndsPlain ('{' :: inside) := by
  rintro _ ⟨⟩
  decide

theorem endsPlain_close (rest : Text) : EndsPlain ('}' :: rest) := by
  rintro _ ⟨⟩
  decide

theorem takeWhile_plain
    {text rest : Text}
    (plain : ∀ character ∈ text, isBrace character = false)
    (ends : EndsPlain rest) :
    (text ++ rest).takeWhile (!isBrace ·) = text ∧
      (text ++ rest).dropWhile (!isBrace ·) = rest := by
  have all : ∀ character ∈ text, (!isBrace character) = true := by
    simpa using plain
  rw [List.takeWhile_append_of_pos all, List.dropWhile_append_of_pos all]
  cases rest with
  | nil => simp
  | cons brace inside =>
      have stops := ends brace rfl
      rw [List.takeWhile_cons, List.dropWhile_cons]
      simp [stops]

section Equations

variable {template rest inside body after : Text} {position : Nat}

/-- A text without a brace is one literal part. -/
theorem readParts_of_nil (dropped : rest.dropWhile (!isBrace ·) = []) :
    readParts template position rest = .ok [.literal (rest.takeWhile (!isBrace ·))] := by
  rw [readParts]
  split
  · rfl
  · rename_i brace inside found
    rw [dropped] at found
    cases found

/-- A brace that closes nothing is a fault. -/
theorem readParts_of_close (dropped : rest.dropWhile (!isBrace ·) = '}' :: after) :
    readParts template position rest =
      .error (.unexpectedClose template
        (position + Text.byteCount (rest.takeWhile (!isBrace ·)))) := by
  rw [readParts]
  split
  · rename_i found
    rw [dropped] at found
    cases found
  · rename_i brace inside found
    rw [dropped] at found
    cases found
    rfl

/-- A brace that is not closed is a fault. -/
theorem readParts_of_unclosed
    (dropped : rest.dropWhile (!isBrace ·) = '{' :: inside)
    (unclosed : closeBrace 0 inside = none) :
    readParts template position rest =
      .error (.unclosed template (position + Text.byteCount (rest.takeWhile (!isBrace ·)))) := by
  rw [readParts]
  split
  · rename_i found
    rw [dropped] at found
    cases found
  · rename_i brace inside' found
    rw [dropped] at found
    cases found
    rw [if_neg (by decide)]
    split
    · rfl
    · rename_i found
      rw [unclosed] at found
      cases found

/--
Of a variable the name is looked at first and then the expression, and the parts behind it are read
from what follows its closing brace.
-/
theorem readParts_of_closed
    (dropped : rest.dropWhile (!isBrace ·) = '{' :: inside)
    (closed : closeBrace 0 inside = some (body, after)) :
    readParts template position rest =
      if (splitVariable body).1 = [] then
        .error (.emptyName template (position + Text.byteCount (rest.takeWhile (!isBrace ·))))
      else
        match Regex.ofText? ((splitVariable body).2.getD defaultExpression) with
        | none => .error (.invalidExpression template (splitVariable body).1)
        | some regex =>
            (readParts template
              (position + Text.byteCount (rest.takeWhile (!isBrace ·)) + Text.byteCount body + 2)
              after).map fun parts =>
                .literal (rest.takeWhile (!isBrace ·)) ::
                  .variable (splitVariable body).1 ((splitVariable body).2.getD defaultExpression)
                    regex.groupCount :: parts := by
  rw [readParts]
  split
  · rename_i found
    rw [dropped] at found
    cases found
  · rename_i brace inside' found
    rw [dropped] at found
    cases found
    rw [if_neg (by decide)]
    split
    · rename_i none
      rw [closed] at none
      cases none
    · rename_i body' after' some
      rw [closed] at some
      cases some
      simp only [List.isEmpty_iff]
      split
      · rfl
      · cases Regex.ofText? ((splitVariable body).2.getD defaultExpression) with
        | none => rfl
        | some regex =>
            dsimp only
            cases readParts template
              (position + Text.byteCount (rest.takeWhile (!isBrace ·)) + Text.byteCount body + 2)
              after <;> rfl

/-- The parts behind a variable are read from what follows its closing brace. -/
theorem readParts_of_brace
    {regex : Regex}
    (dropped : rest.dropWhile (!isBrace ·) = '{' :: inside)
    (closed : closeBrace 0 inside = some (body, after))
    (named : (splitVariable body).1 ≠ [])
    (valid : Regex.ofText? ((splitVariable body).2.getD defaultExpression) = some regex) :
    readParts template position rest =
      (readParts template
        (position + Text.byteCount (rest.takeWhile (!isBrace ·)) + Text.byteCount body + 2)
        after).map fun parts =>
          .literal (rest.takeWhile (!isBrace ·)) ::
            .variable (splitVariable body).1 ((splitVariable body).2.getD defaultExpression)
              regex.groupCount :: parts := by
  rw [readParts_of_closed dropped closed, if_neg named, valid]

end Equations

/--
What the parts of a text are: the text itself, if there is no brace in it, or the text before a
variable, the variable, and the parts of what follows it, which is shorter.
-/
theorem readParts_cases
    {template rest : Text}
    {position : Nat}
    {parts : List Part}
    (read : readParts template position rest = .ok parts) :
    (rest.dropWhile (!isBrace ·) = [] ∧ parts = [.literal rest]) ∨
      ∃ inside body after regex next others,
        rest.dropWhile (!isBrace ·) = '{' :: inside ∧ closeBrace 0 inside = some (body, after) ∧
          (splitVariable body).1 ≠ [] ∧
          Regex.ofText? ((splitVariable body).2.getD defaultExpression) = some regex ∧
          readParts template next after = .ok others ∧ after.length < rest.length ∧
          parts =
            .literal (rest.takeWhile (!isBrace ·)) ::
              .variable (splitVariable body).1 ((splitVariable body).2.getD defaultExpression)
                regex.groupCount :: others := by
  cases dropped : rest.dropWhile (!isBrace ·) with
  | nil =>
      have whole := List.takeWhile_append_dropWhile (p := (!isBrace ·)) (l := rest)
      rw [dropped, List.append_nil] at whole
      rw [readParts_of_nil dropped, whole] at read
      exact .inl ⟨rfl, (Except.ok.inj read).symm⟩
  | cons brace inside =>
      by_cases closing : brace = '}'
      · rw [closing] at dropped
        rw [readParts_of_close dropped] at read
        cases read
      · obtain rfl := eq_open_of_dropWhile dropped closing
        cases closed : closeBrace 0 inside with
        | none =>
            rw [readParts_of_unclosed dropped closed] at read
            cases read
        | some entry =>
            obtain ⟨body, after⟩ := entry
            rw [readParts_of_closed dropped closed] at read
            split at read
            · cases read
            · rename_i named
              split at read
              · cases read
              · rename_i regex valid
                cases further : readParts template
                  (position + Text.byteCount (rest.takeWhile (!isBrace ·)) +
                    Text.byteCount body + 2) after with
                | error fault =>
                    rw [further] at read
                    cases read
                | ok others =>
                    rw [further] at read
                    have shorter := length_closeBrace closed
                    have behind := (List.dropWhile_suffix (l := rest) (!isBrace ·)).length_le
                    rw [dropped, List.length_cons] at behind
                    exact .inr ⟨inside, body, after, regex, _, others, rfl, closed, named, valid,
                      further, by omega, (Except.ok.inj read).symm⟩

/-- What holds of a text without braces, and of a variable with parts behind it, holds of all. -/
theorem readParts_induction
    {template : Text}
    {motive : Text → List Part → Prop}
    (literal : ∀ rest, rest.dropWhile (!isBrace ·) = [] → motive rest [.literal rest])
    (braced : ∀ rest inside body after regex others,
      rest.dropWhile (!isBrace ·) = '{' :: inside → closeBrace 0 inside = some (body, after) →
        (splitVariable body).1 ≠ [] →
          Regex.ofText? ((splitVariable body).2.getD defaultExpression) = some regex →
            motive after others →
              motive rest
                (.literal (rest.takeWhile (!isBrace ·)) ::
                  .variable (splitVariable body).1 ((splitVariable body).2.getD defaultExpression)
                    regex.groupCount :: others))
    {rest : Text}
    {position : Nat}
    {parts : List Part}
    (read : readParts template position rest = .ok parts) :
    motive rest parts := by
  induction length : rest.length using Nat.strongRecOn generalizing rest position parts with
  | ind length ih =>
      subst length
      rcases readParts_cases read with
        ⟨dropped, rfl⟩ | ⟨inside, body, after, regex, next, others, dropped, closed, named, valid,
          readOthers, shorter, rfl⟩
      · exact literal rest dropped
      · exact braced rest inside body after regex others dropped closed named valid
          (ih _ shorter readOthers rfl)

theorem length_partGroups (next : Nat) (parts : List Part) :
    (partGroups next parts).length = (partNames parts).length + 1 := by
  induction parts generalizing next with
  | nil => rfl
  | cons part parts ih =>
      cases part with
      | literal text => rw [partGroups, partNames, ih]
      | «variable» name expression groups =>
          rw [partGroups, partNames, List.length_cons, List.length_cons, ih]

@[simp]
theorem names_ofParts (text : Text) (parts : List Part) :
    (ofParts text parts).names = partNames parts := by
  simp only [ofParts]
  split <;> rfl

@[simp]
theorem groups_ofParts (text : Text) (parts : List Part) :
    (ofParts text parts).groups = partGroups 1 parts := by
  simp only [ofParts]
  split <;> rfl

theorem expression_ofParts_ne_nil (text : Text) (parts : List Part) :
    (ofParts text parts).expression ≠ [] := by
  simp only [ofParts]
  split <;> simp [tail]

end Template

namespace Pattern

/-- A pattern that some template has. -/
def IsCompiled (pattern : Pattern) : Prop :=
  ∃ text, compile text = .ok pattern

/-- A template that has a pattern is empty or consists of parts whose expression is valid. -/
theorem compile_eq_ok_iff {text : Text} (nonempty : text ≠ []) {pattern : Pattern} :
    compile text = .ok pattern ↔
      ∃ parts regex,
        Template.readParts (Template.normalize text) 0 (Template.normalize text) = .ok parts ∧
          Regex.ofText?
              (anchored (Template.ofParts (Template.normalize text) parts).expression) =
            some regex ∧
          pattern = ⟨Template.ofParts (Template.normalize text) parts, some regex⟩ := by
  obtain ⟨rest, normal⟩ := Template.exists_normalize nonempty
  rw [compile, compileWithin, Template.compile_eq nonempty, normal]
  cases read : Template.readParts ('/' :: rest) 0 ('/' :: rest) with
  | error fault => simp [Except.map, Except.bind]
  | ok parts =>
      have notEmpty : (Template.ofParts ('/' :: rest) parts).isEmpty = false := by
        simp [Template.isEmpty]
      simp only [Except.map, Except.bind, ofTemplateWithin, notEmpty, Bool.false_eq_true, if_false]
      rw [← Regex.ofText?]
      cases valid :
          Regex.ofText? (anchored (Template.ofParts ('/' :: rest) parts).expression) with
      | none => simp [valid]
      | some regex => simp [valid, eq_comm]

/-- A compiled pattern without a text is the empty one. -/
theorem IsCompiled.eq_empty
    {pattern : Pattern}
    (compiled : pattern.IsCompiled)
    (isEmpty : pattern.isEmpty = true) :
    pattern = empty := by
  obtain ⟨text, compiled⟩ := compiled
  by_cases nonempty : text = []
  · subst nonempty
    exact (Except.ok.inj compiled).symm
  · obtain ⟨rest, normal⟩ := Template.exists_normalize nonempty
    obtain ⟨parts, regex, _, _, rfl⟩ := (compile_eq_ok_iff nonempty).mp compiled
    simp [Pattern.isEmpty, Template.isEmpty, normal] at isEmpty

/-- The text of a compiled pattern is empty or begins with a slash, and has the same pattern. -/
theorem IsCompiled.eq_empty_or
    {pattern : Pattern}
    (compiled : pattern.IsCompiled) :
    pattern = empty ∨ ∃ rest, pattern.text = '/' :: rest ∧ compile ('/' :: rest) = .ok pattern := by
  obtain ⟨text, compiled⟩ := compiled
  by_cases nonempty : text = []
  · subst nonempty
    exact .inl (Except.ok.inj compiled).symm
  · right
    obtain ⟨rest, normal⟩ := Template.exists_normalize nonempty
    obtain ⟨parts, regex, read, valid, rfl⟩ := (compile_eq_ok_iff nonempty).mp compiled
    rw [normal] at read valid
    refine ⟨rest, by rw [Pattern.text, Template.text_ofParts, normal], ?_⟩
    rw [normal]
    exact (compile_eq_ok_iff (List.cons_ne_nil _ _)).mpr ⟨parts, regex, read, valid, rfl⟩

/-- The text of a compiled pattern has the same pattern. -/
theorem IsCompiled.compile_text
    {pattern : Pattern}
    (compiled : pattern.IsCompiled) :
    compile pattern.text = .ok pattern := by
  rcases compiled.eq_empty_or with rfl | ⟨rest, text, again⟩
  · rfl
  · rw [text]
    exact again

/-- What a compiled pattern is, apart from its text: the empty one, or given by its parts. -/
theorem IsCompiled.eq_empty_or_ofParts
    {pattern : Pattern}
    (compiled : pattern.IsCompiled) :
    pattern = empty ∨ ∃ text parts,
      pattern.template = Template.ofParts text parts ∧ text ≠ [] ∧
        pattern.matcher = Regex.ofText? (anchored pattern.expression) := by
  obtain ⟨text, compiled⟩ := compiled
  by_cases nonempty : text = []
  · subst nonempty
    exact .inl (Except.ok.inj compiled).symm
  · obtain ⟨parts, regex, _, valid, rfl⟩ := (compile_eq_ok_iff nonempty).mp compiled
    obtain ⟨rest, normal⟩ := Template.exists_normalize nonempty
    refine .inr ⟨_, parts, rfl, ?_, valid.symm⟩
    rw [normal]
    exact List.cons_ne_nil _ _

/-- Compiled patterns that are the same have the same matcher. -/
theorem IsCompiled.matcher_eq_of_same
    {first second : Pattern}
    (firstCompiled : first.IsCompiled)
    (secondCompiled : second.IsCompiled)
    (same : first.same second = true) :
    first.isEmpty = second.isEmpty ∧ first.matcher = second.matcher := by
  have expressions : first.expression = second.expression := by
    simpa [Pattern.same] using same
  have filled : ∀ {pattern : Pattern} {text : Text} {parts : List Part},
      pattern.template = Template.ofParts text parts →
        pattern.expression ≠ [] ∧ (text ≠ [] → pattern.isEmpty = false) := by
    intro pattern text parts template
    refine ⟨?_, fun nonempty => ?_⟩
    · rw [Pattern.expression, template]
      exact Template.expression_ofParts_ne_nil _ _
    · simp [Pattern.isEmpty, template, Template.isEmpty, nonempty]
  rcases firstCompiled.eq_empty_or_ofParts with
    rfl | ⟨text, parts, template, nonempty, matcher⟩
  · rcases secondCompiled.eq_empty_or_ofParts with rfl | ⟨_, _, template', _, _⟩
    · exact ⟨rfl, rfl⟩
    · exact absurd expressions.symm (filled template').1
  · rcases secondCompiled.eq_empty_or_ofParts with rfl | ⟨_, _, template', nonempty', matcher'⟩
    · exact absurd expressions (filled template).1
    · rw [(filled template).2 nonempty, (filled template').2 nonempty', matcher, matcher',
        expressions]
      exact ⟨rfl, rfl⟩

/-- A path that is not empty is matched by the matcher. -/
theorem match?_cons (pattern : Pattern) (character : Char) (rest : Text) :
    pattern.match? (character :: rest) =
      match pattern.matcher with
      | none => none
      | some regex =>
          (regex.search? (character :: rest)).map fun notes =>
            .ofList (pattern.template.groups.map fun group => notes.lookup group) := rfl

/-- The same matcher with the same groups makes the same match. -/
theorem match?_congr
    {first second : Pattern}
    (isEmpty : first.isEmpty = second.isEmpty)
    (matcher : first.matcher = second.matcher)
    (groups : first.template.groups = second.template.groups)
    (path : Text) :
    first.match? path = second.match? path := by
  cases path with
  | nil => rw [match?, match?, isEmpty]
  | cons character rest => rw [match?_cons, match?_cons, matcher, groups]

/-- A match has one slot for each occurrence of a variable. -/
theorem IsCompiled.length_values
    {pattern : Pattern}
    {path : Text}
    {found : PathMatch}
    (compiled : pattern.IsCompiled)
    (matched : pattern.match? path = some found) :
    found.values.length = pattern.names.length := by
  rcases compiled.eq_empty_or_ofParts with rfl | ⟨text, parts, template, nonempty, _⟩
  · cases path with
    | nil =>
        cases matched
        rfl
    | cons character rest => cases matched
  · have names : pattern.names = Template.partNames parts := by
      rw [Pattern.names, template, Template.names_ofParts]
    cases path with
    | nil => simp [match?, Pattern.isEmpty, template, Template.isEmpty, nonempty] at matched
    | cons character rest =>
        cases matcher : pattern.matcher with
        | none =>
            rw [match?_cons, matcher] at matched
            cases matched
        | some regex =>
            simp only [match?_cons, matcher, Option.map_eq_some_iff] at matched
            obtain ⟨notes, _, rfl⟩ := matched
            rw [PathMatch.ofList, List.length_dropLast, List.length_map, template,
              Template.groups_ofParts, Template.length_partGroups, names]
            rfl

/-- The empty pattern matches the empty path only. -/
theorem ne_empty_of_match?
    {pattern : Pattern}
    {path : Text}
    {found : PathMatch}
    (nonempty : path ≠ [])
    (matched : pattern.match? path = some found) :
    pattern ≠ empty := by
  rintro rfl
  cases path with
  | nil => exact absurd rfl nonempty
  | cons character rest => cases matched

theorem compileWithin_normalize (admits : Regex.Expr → Bool) (text : Text) :
    compileWithin admits (Template.normalize text) = compileWithin admits text := by
  rw [compileWithin, compileWithin, Template.compile_normalize]

/-- A template has the pattern of its normal form. -/
theorem compile_normalize (text : Text) :
    compile (Template.normalize text) = compile text :=
  compileWithin_normalize _ text

theorem exists_compile {text : Text} (valid : (compile text).toBool = true) :
    ∃ pattern, compile text = .ok pattern := by
  cases compiled : compile text with
  | error fault =>
      rw [compiled] at valid
      cases valid
  | ok pattern => exact ⟨pattern, rfl⟩

/-- What is computed from a template holds of the pattern that it has. -/
theorem view_eq_of_compile
    {α : Type}
    {text : Text}
    {pattern : Pattern}
    (compiled : compile text = .ok pattern)
    (view : Pattern → α)
    {value : α}
    (computed : (compile text).toOption.map view = some value) :
    view pattern = value := by
  rw [compiled] at computed
  exact Option.some.inj computed

end Pattern
end Uri
end ResourceRouting
