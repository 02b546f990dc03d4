import ResourceRouting.Proofs.Text
import ResourceRouting.Proofs.Uri.Shape.Template

/-!
# The grammar of templates

A template is literal text with variables between its pieces.  Every text either consists of such
pieces, and then in one way only, or it has a first fault: a brace behind pieces of this kind that
opens no variable.  Reading a template finds the pieces, or else this fault.
-/

namespace ResourceRouting
namespace Uri
namespace Template

/-- What the body of a variable declares: a name, and an expression for the values. -/
inductive Declares : Text → Text → Text → Prop
  /-- A body without a colon is the name, with white space around it. -/
  | bare
      {body : Text}
      (unmarked : ':' ∉ body) :
      Declares body (Text.trim body) defaultExpression
  /-- Blank text behind the first colon declares no expression. -/
  | blank
      {front behind : Text}
      (first : ':' ∉ front)
      (blank : ∀ character ∈ behind, Unicode.isBlank character = true) :
      Declares (front ++ ':' :: behind) (Text.trim front) defaultExpression
  /-- Other text behind the first colon is the expression, with white space around it. -/
  | custom
      {front behind : Text}
      (first : ':' ∉ front)
      (filled : ∃ character ∈ behind, Unicode.isBlank character = false) :
      Declares (front ++ ':' :: behind) (Text.trim front) (Text.trim behind)

/-- The body of a variable declares what it is split into. -/
theorem declares_iff {body name expression : Text} :
    Declares body name expression ↔
      name = (splitVariable body).1 ∧
        expression = (splitVariable body).2.getD defaultExpression := by
  have behindColon : ∀ {front behind : Text}, ':' ∉ front →
      splitVariable (front ++ ':' :: behind) =
        (Text.trim front, if Text.trim behind = [] then none else some (Text.trim behind)) := by
    intro front behind first
    simp only [splitVariable, Text.cut_append_cons first, List.isEmpty_iff]
  have filled_iff : ∀ {behind : Text},
      (∃ character ∈ behind, Unicode.isBlank character = false) ↔ Text.trim behind ≠ [] := by
    intro behind
    simp [Ne, Text.trim_eq_nil_iff]
  constructor
  · intro declares
    cases declares with
    | bare unmarked => simp [splitVariable, Text.cut_of_not_mem unmarked]
    | blank first blank => simp [behindColon first, Text.trim_eq_nil_iff.mpr blank]
    | custom first filled => simp [behindColon first, filled_iff.mp filled]
  · rintro ⟨rfl, rfl⟩
    by_cases colon : ':' ∈ body
    · obtain ⟨front, behind, rfl, first⟩ := List.eq_append_cons_of_mem colon
      rw [behindColon first]
      by_cases empty : Text.trim behind = []
      · rw [if_pos empty]
        exact .blank first (Text.trim_eq_nil_iff.mp empty)
      · rw [if_neg empty]
        exact .custom first (filled_iff.mpr empty)
    · rw [splitVariable, Text.cut_of_not_mem colon]
      exact .bare colon

/-- A variable as it stands in a template, with the literal text behind it. -/
structure Occurrence where
  /-- The text between the braces. -/
  body : Text
  /-- The name. -/
  name : Text
  /-- The expression of the values. -/
  expression : Text
  /-- The number of groups in the expression. -/
  groups : Nat
  /-- The text up to the next variable, or up to the end. -/
  behind : Text
  deriving DecidableEq, Repr

namespace Occurrence

/-- The text of a variable and of what stands behind it. -/
def text (occurrence : Occurrence) : Text :=
  '{' :: (occurrence.body ++ '}' :: occurrence.behind)

/-- The parts of a variable and of what stands behind it. -/
def parts (occurrence : Occurrence) : List Part :=
  [.variable occurrence.name occurrence.expression occurrence.groups, .literal occurrence.behind]

/-- A variable that a template may hold. -/
structure IsValid (occurrence : Occurrence) : Prop where
  /-- The braces in the body are balanced. -/
  balanced : IsBalanced occurrence.body
  /-- The body declares the name and the expression. -/
  declares : Declares occurrence.body occurrence.name occurrence.expression
  /-- There is a name. -/
  named : occurrence.name ≠ []
  /-- The expression is valid by itself, and the groups in it are counted. -/
  expression : ∃ regex, Regex.ofText? occurrence.expression = some regex ∧
    regex.groupCount = occurrence.groups
  /-- Behind the variable no brace stands before the next one. -/
  plain : ∀ character ∈ occurrence.behind, isBrace character = false

end Occurrence

/-- A text consists of literal text and of variables with literal text behind them. -/
structure Consists (text first : Text) (occurrences : List Occurrence) : Prop where
  /-- No brace stands before the first variable. -/
  plain : ∀ character ∈ first, isBrace character = false
  /-- The variables are valid. -/
  valid : ∀ occurrence ∈ occurrences, occurrence.IsValid
  /-- There is nothing else. -/
  whole : text = first ++ occurrences.flatMap Occurrence.text

/-- What is wrong with a text that begins, at some position, with a brace that opens no variable. -/
inductive Offends (template : Text) (position : Nat) : Text → TemplateError → Prop
  /-- The brace closes nothing. -/
  | unexpectedClose {rest : Text} :
      Offends template position ('}' :: rest) (.unexpectedClose template position)
  /-- The brace is not closed. -/
  | unclosed
      {inside : Text}
      (unclosed : ∀ body after, inside = body ++ '}' :: after → ¬IsBalanced body) :
      Offends template position ('{' :: inside) (.unclosed template position)
  /-- The body has no name. -/
  | emptyName
      {body after expression : Text}
      (balanced : IsBalanced body)
      (declares : Declares body [] expression) :
      Offends template position ('{' :: (body ++ '}' :: after)) (.emptyName template position)
  /-- The expression is not valid. -/
  | invalidExpression
      {body after name expression : Text}
      (balanced : IsBalanced body)
      (declares : Declares body name expression)
      (named : name ≠ [])
      (invalid : Regex.ofText? expression = none) :
      Offends template position ('{' :: (body ++ '}' :: after)) (.invalidExpression template name)

/--
The first fault of a text that begins at some position: what stands before it consists of literal
text and variables, and a brace that opens no variable follows.
-/
def HasFault (template : Text) (position : Nat) (text : Text) (error : TemplateError) : Prop :=
  ∃ front rest,
    (∃ first occurrences, Consists front first occurrences) ∧ text = front ++ rest ∧
      Offends template (position + Text.byteCount front) rest error

section Consists

variable {text first : Text} {occurrence : Occurrence} {occurrences : List Occurrence}

theorem consists_nil_iff :
    Consists text first [] ↔ text = first ∧ ∀ character ∈ text, isBrace character = false := by
  constructor
  · rintro ⟨plain, _, whole⟩
    obtain rfl : text = first := by simpa using whole
    exact ⟨rfl, plain⟩
  · rintro ⟨rfl, plain⟩
    exact ⟨plain, by simp, by simp⟩

/-- A valid variable may stand between literal text and what begins with the text behind it. -/
theorem Consists.cons
    {after : Text}
    (others : Consists after occurrence.behind occurrences)
    (plain : ∀ character ∈ first, isBrace character = false)
    (valid : occurrence.IsValid) :
    Consists (first ++ '{' :: (occurrence.body ++ '}' :: after)) first
      (occurrence :: occurrences) := by
  refine ⟨plain, by simpa using ⟨valid, others.valid⟩, ?_⟩
  rw [others.whole, List.flatMap_cons, Occurrence.text]
  simp

/-- Behind the first variable there are literal text and the other ones. -/
theorem Consists.exists_eq
    (consists : Consists text first (occurrence :: occurrences)) :
    ∃ after, text = first ++ '{' :: (occurrence.body ++ '}' :: after) ∧
      Consists after occurrence.behind occurrences := by
  obtain ⟨_, valid, whole⟩ := consists
  rw [List.forall_mem_cons] at valid
  refine ⟨occurrence.behind ++ occurrences.flatMap Occurrence.text, ?_, valid.1.plain, valid.2, rfl⟩
  rw [whole, List.flatMap_cons, Occurrence.text]
  simp

/-- The literal text ends where the first variable opens. -/
theorem Consists.takeWhile_dropWhile (consists : Consists text first occurrences) :
    text.takeWhile (!isBrace ·) = first ∧
      text.dropWhile (!isBrace ·) = occurrences.flatMap Occurrence.text := by
  rw [consists.whole]
  apply takeWhile_plain consists.plain
  cases occurrences with
  | nil => exact endsPlain_nil
  | cons occurrence occurrences =>
      rw [List.flatMap_cons]
      exact endsPlain_open _

/-- The body of a valid variable determines the rest of it. -/
theorem Occurrence.IsValid.eq_of_body
    {second : Occurrence}
    (valid : occurrence.IsValid)
    (secondValid : second.IsValid)
    (body : occurrence.body = second.body)
    (behind : occurrence.behind = second.behind) :
    occurrence = second := by
  obtain ⟨name, expression⟩ := declares_iff.mp valid.declares
  obtain ⟨secondName, secondExpression⟩ := declares_iff.mp secondValid.declares
  obtain ⟨regex, found, groups⟩ := valid.expression
  obtain ⟨_, secondFound, secondGroups⟩ := secondValid.expression
  obtain ⟨_, _, _, _, _⟩ := occurrence
  obtain ⟨_, _, _, _, _⟩ := second
  dsimp only at *
  subst body behind name expression secondName secondExpression
  obtain rfl := Option.some.inj (found.symm.trans secondFound)
  rw [← groups, ← secondGroups]

section Unique

variable {other : Text} {others : List Occurrence}

/-- The literal text before the first variable is determined. -/
theorem Consists.first_eq
    (consists : Consists text first occurrences)
    (consistsOther : Consists text other others) :
    first = other :=
  consists.takeWhile_dropWhile.1.symm.trans consistsOther.takeWhile_dropWhile.1

/-- Literal text alone holds no variables. -/
theorem Consists.eq_nil
    (consists : Consists text first [])
    (consistsOther : Consists text other others) :
    others = [] := by
  have empty := consistsOther.takeWhile_dropWhile.2.symm.trans consists.takeWhile_dropWhile.2
  cases others with
  | nil => rfl
  | cons second others =>
      rw [List.flatMap_cons] at empty
      cases empty

/-- A text consists of literal text and variables in one way at most. -/
theorem Consists.unique
    (consists : Consists text first occurrences)
    (consistsOther : Consists text other others) :
    first = other ∧ occurrences = others := by
  induction occurrences generalizing text first other others with
  | nil => exact ⟨consists.first_eq consistsOther, (consists.eq_nil consistsOther).symm⟩
  | cons occurrence occurrences ih =>
      cases others with
      | nil => exact ⟨consists.first_eq consistsOther, consistsOther.eq_nil consists⟩
      | cons second others =>
          obtain rfl := consists.first_eq consistsOther
          have valid := consists.valid occurrence (List.mem_cons_self ..)
          have secondValid := consistsOther.valid second (List.mem_cons_self ..)
          obtain ⟨after, whole, further⟩ := consists.exists_eq
          obtain ⟨secondAfter, secondWhole, secondFurther⟩ := consistsOther.exists_eq
          -- Both bodies end at the brace that closes the first opening one.
          have closed := closeBrace_of_balances valid.balanced after
          have secondClosed := closeBrace_of_balances secondValid.balanced secondAfter
          have inside := (List.cons.inj (List.append_cancel_left (whole.symm.trans secondWhole))).2
          rw [inside, secondClosed] at closed
          obtain ⟨body, rfl⟩ := Prod.mk.inj (Option.some.inj closed)
          obtain ⟨behind, rfl⟩ := ih further secondFurther
          exact ⟨rfl, by rw [valid.eq_of_body secondValid body.symm behind]⟩

end Unique

end Consists

/-- The parts of literal text and of variables with literal text behind them. -/
def partsOf (first : Text) (occurrences : List Occurrence) : List Part :=
  .literal first :: occurrences.flatMap Occurrence.parts

section Reading

variable
  {template text first rest inside body after : Text}
  {position : Nat}
  {error : TemplateError}
  {occurrences : List Occurrence}

/-- The parts behind a valid variable are read from what follows its closing brace. -/
theorem readParts_of_isValid
    {occurrence : Occurrence}
    (plain : ∀ character ∈ first, isBrace character = false)
    (valid : occurrence.IsValid)
    (template after : Text)
    (position : Nat) :
    readParts template position (first ++ '{' :: (occurrence.body ++ '}' :: after)) =
      (readParts template
        (position + Text.byteCount first + Text.byteCount occurrence.body + 2) after).map
          fun parts =>
            .literal first ::
              .variable occurrence.name occurrence.expression occurrence.groups :: parts := by
  obtain ⟨name, expression⟩ := declares_iff.mp valid.declares
  obtain ⟨regex, found, groups⟩ := valid.expression
  obtain ⟨taken, dropped⟩ :=
    takeWhile_plain plain (endsPlain_open (occurrence.body ++ '}' :: after))
  have closed := closeBrace_of_balances valid.balanced after
  have named := valid.named
  rw [name] at named
  rw [expression] at found
  rw [readParts_of_brace dropped closed named found, taken, ← name, ← expression, groups]

/-- The parts of a text that consists of literal text and variables. -/
theorem Consists.readParts_eq
    (consists : Consists text first occurrences)
    (template : Text)
    (position : Nat) :
    readParts template position text = .ok (partsOf first occurrences) := by
  induction occurrences generalizing text first position with
  | nil =>
      obtain ⟨rfl, plain⟩ := consists_nil_iff.mp consists
      obtain ⟨taken, dropped⟩ := consists.takeWhile_dropWhile
      rw [readParts_of_nil dropped, taken]
      rfl
  | cons occurrence occurrences ih =>
      have valid := consists.valid occurrence (List.mem_cons_self ..)
      obtain ⟨after, rfl, further⟩ := consists.exists_eq
      rw [readParts_of_isValid consists.plain valid, ih further]
      rfl

/-- A brace that opens no variable is reported at its position. -/
theorem Offends.readParts_eq
    (plain : ∀ character ∈ first, isBrace character = false)
    (offends : Offends template (position + Text.byteCount first) rest error) :
    readParts template position (first ++ rest) = .error error := by
  cases offends with
  | @unexpectedClose behind =>
      obtain ⟨taken, dropped⟩ := takeWhile_plain plain (endsPlain_close behind)
      rw [readParts_of_close dropped, taken]
  | @unclosed inside unclosed =>
      obtain ⟨taken, dropped⟩ := takeWhile_plain plain (endsPlain_open inside)
      have none : closeBrace 0 inside = none := by
        rw [Option.eq_none_iff_forall_ne_some]
        rintro ⟨body, after⟩ closed
        obtain ⟨whole, balanced⟩ := closeBrace_eq_some_iff.mp closed
        exact unclosed body after whole balanced
      rw [readParts_of_unclosed dropped none, taken]
  | @emptyName body after expression balanced declares =>
      obtain ⟨taken, dropped⟩ := takeWhile_plain plain (endsPlain_open (body ++ '}' :: after))
      have name := (declares_iff.mp declares).1.symm
      rw [readParts_of_closed dropped (closeBrace_of_balances balanced after), if_pos name, taken]
  | @invalidExpression body after name expression balanced declares named invalid =>
      obtain ⟨_, dropped⟩ := takeWhile_plain plain (endsPlain_open (body ++ '}' :: after))
      obtain ⟨rfl, rfl⟩ := declares_iff.mp declares
      rw [readParts_of_closed dropped (closeBrace_of_balances balanced after), if_neg named,
        invalid]

/-- The first fault of a text is reported. -/
theorem HasFault.readParts_eq (fault : HasFault template position text error) :
    readParts template position text = .error error := by
  obtain ⟨front, rest, ⟨first, occurrences, consists⟩, rfl, offends⟩ := fault
  induction occurrences generalizing front first position with
  | nil =>
      obtain ⟨rfl, plain⟩ := consists_nil_iff.mp consists
      exact offends.readParts_eq plain
  | cons occurrence occurrences ih =>
      have valid := consists.valid occurrence (List.mem_cons_self ..)
      obtain ⟨after, rfl, further⟩ := consists.exists_eq
      have braces : Text.byteCount ['{'] = 1 ∧ Text.byteCount ['}'] = 1 := by decide
      have place : position + Text.byteCount (first ++ '{' :: (occurrence.body ++ '}' :: after)) =
          position + Text.byteCount first + Text.byteCount occurrence.body + 2 +
            Text.byteCount after := by
        rw [← List.singleton_append, ← @List.singleton_append _ '}']
        simp only [Text.byteCount_append, braces]
        omega
      rw [place] at offends
      rw [List.append_assoc, List.cons_append, List.append_assoc, List.cons_append,
        readParts_of_isValid consists.plain valid, ih after occurrence.behind further offends]
      rfl

/-- A brace behind literal text that opens no variable is the first fault. -/
theorem Offends.hasFault
    (plain : ∀ character ∈ first, isBrace character = false)
    (offends : Offends template (position + Text.byteCount first) rest error) :
    HasFault template position (first ++ rest) error :=
  ⟨first, rest, ⟨first, [], consists_nil_iff.mpr ⟨rfl, plain⟩⟩, rfl, offends⟩

/-- A variable that is split into a name and a valid expression is valid. -/
theorem isValid_of_splitVariable
    {behind : Text}
    {regex : Regex}
    (balanced : IsBalanced body)
    (named : (splitVariable body).1 ≠ [])
    (valid : Regex.ofText? ((splitVariable body).2.getD defaultExpression) = some regex)
    (plain : ∀ character ∈ behind, isBrace character = false) :
    (⟨body, (splitVariable body).1, (splitVariable body).2.getD defaultExpression,
      regex.groupCount, behind⟩ : Occurrence).IsValid :=
  ⟨balanced, declares_iff.mpr ⟨rfl, rfl⟩, named, ⟨regex, valid, rfl⟩, plain⟩

/-- A text with a valid variable is as what follows the variable. -/
theorem consists_or_hasFault_of_closed
    {regex : Regex}
    (plain : ∀ character ∈ first, isBrace character = false)
    (balanced : IsBalanced body)
    (named : (splitVariable body).1 ≠ [])
    (valid : Regex.ofText? ((splitVariable body).2.getD defaultExpression) = some regex)
    (further : (∃ behind occurrences, Consists after behind occurrences) ∨
      ∃ error, HasFault template
        (position + Text.byteCount (first ++ '{' :: (body ++ ['}']))) after error) :
    (∃ first' occurrences,
      Consists (first ++ '{' :: (body ++ '}' :: after)) first' occurrences) ∨
      ∃ error, HasFault template position (first ++ '{' :: (body ++ '}' :: after)) error := by
  rcases further with ⟨behind, occurrences, consists⟩ | ⟨error, front, rest, before, rfl, offends⟩
  · exact .inl ⟨first, _, consists.cons plain
      (isValid_of_splitVariable balanced named valid consists.plain)⟩
  · obtain ⟨behind, occurrences, consists⟩ := before
    refine .inr ⟨error, first ++ '{' :: (body ++ '}' :: front), rest, ⟨first, _, consists.cons plain
      (isValid_of_splitVariable balanced named valid consists.plain)⟩, by simp, ?_⟩
    rw [Nat.add_assoc, ← Text.byteCount_append] at offends
    simpa using offends

/-- Every text consists of literal text and variables, or has a first fault. -/
theorem consists_or_hasFault (template : Text) (position : Nat) (text : Text) :
    (∃ first occurrences, Consists text first occurrences) ∨
      ∃ error, HasFault template position text error := by
  induction length : text.length using Nat.strongRecOn generalizing text position with
  | ind length ih =>
      subst length
      have plain := plain_takeWhile text
      have whole := List.takeWhile_append_dropWhile (p := (!isBrace ·)) (l := text)
      rw [← whole]
      cases dropped : text.dropWhile (!isBrace ·) with
      | nil => exact .inl ⟨_, [], by rw [List.append_nil]; exact consists_nil_iff.mpr ⟨rfl, plain⟩⟩
      | cons brace inside =>
          by_cases closing : brace = '}'
          · subst closing
            exact .inr ⟨_, Offends.unexpectedClose.hasFault plain⟩
          · obtain rfl := eq_open_of_dropWhile dropped closing
            by_cases enclosed : ∃ body after, inside = body ++ '}' :: after ∧ IsBalanced body
            · obtain ⟨body, after, rfl, balanced⟩ := enclosed
              by_cases named : (splitVariable body).1 = []
              · have declares : Declares body [] ((splitVariable body).2.getD defaultExpression) :=
                  declares_iff.mpr ⟨named.symm, rfl⟩
                exact .inr ⟨_, (Offends.emptyName balanced declares).hasFault plain⟩
              · cases valid : Regex.ofText? ((splitVariable body).2.getD defaultExpression) with
                | none =>
                    have declares := declares_iff.mpr ⟨@rfl _ (splitVariable body).1, rfl⟩
                    exact .inr ⟨_, (Offends.invalidExpression balanced declares named
                      valid).hasFault plain⟩
                | some regex =>
                    apply consists_or_hasFault_of_closed plain balanced named valid
                    have shorter : after.length < text.length := by
                      rw [← whole, dropped]
                      simp
                      omega
                    exact ih _ shorter _ _ rfl
            · have unclosed : ∀ body after, inside = body ++ '}' :: after → ¬IsBalanced body :=
                fun body after equal balanced => enclosed ⟨body, after, equal, balanced⟩
              exact .inr ⟨_, (Offends.unclosed unclosed).hasFault plain⟩

/-- The parts of a text are read exactly if it consists of literal text and variables. -/
theorem readParts_eq_ok_iff {parts : List Part} :
    readParts template position text = .ok parts ↔
      ∃ first occurrences, Consists text first occurrences ∧
        parts = partsOf first occurrences := by
  constructor
  · intro read
    rcases consists_or_hasFault template position text with
      ⟨first, occurrences, consists⟩ | ⟨error, fault⟩
    · rw [consists.readParts_eq] at read
      exact ⟨first, occurrences, consists, (Except.ok.inj read).symm⟩
    · rw [fault.readParts_eq] at read
      cases read
  · rintro ⟨first, occurrences, consists, rfl⟩
    exact consists.readParts_eq template position

/-- What is reported is the first fault. -/
theorem readParts_eq_error_iff :
    readParts template position text = .error error ↔
      HasFault template position text error := by
  constructor
  · intro read
    rcases consists_or_hasFault template position text with
      ⟨first, occurrences, consists⟩ | ⟨other, fault⟩
    · rw [consists.readParts_eq] at read
      cases read
    · rw [fault.readParts_eq] at read
      rwa [← Except.error.inj read]
  · exact HasFault.readParts_eq

end Reading

end Template
end Uri
end ResourceRouting
