import ResourceRouting.Regex
import ResourceRouting.Uri.Component

/-!
# Templates

A template such as `/books/{id}/{page: [0-9]+}` is a path with variables in braces.  It is read
into the literal texts and the variables that it consists of, and compiled to the text of a
regular expression that matches a path and whatever follows it behind a slash.
-/

namespace ResourceRouting
namespace Uri

/-- Why a text is no template.  Positions are counted in bytes of the normal form. -/
inductive TemplateError
  /-- A brace is opened and never closed. -/
  | unclosed (template : Text) (position : Nat)
  /-- A brace is closed that was not opened. -/
  | unexpectedClose (template : Text) (position : Nat)
  /-- A variable has no name. -/
  | emptyName (template : Text) (position : Nat)
  /-- An expression is invalid: that of the named variable, or the whole one. -/
  | invalidExpression (template : Text) (name : Text)
  deriving DecidableEq, Repr

/-- What a template consists of. -/
inductive Part
  /-- Text that stands for itself. -/
  | literal (text : Text)
  /-- A variable with the expression of its values and the number of groups in it. -/
  | variable (name : Text) (expression : Text) (groups : Nat)
  deriving DecidableEq, Repr

/-- A compiled template. -/
structure Template where
  /-- The normal form of the template. -/
  text : Text
  /-- The text of the expression that matches a path. -/
  expression : Text
  /-- How many characters of the expression's texts stand for themselves. -/
  literalCount : Nat
  /-- The names of the variables, one for each occurrence. -/
  names : List Text
  /-- The group of each variable occurrence, and last the group of the remainder. -/
  groups : List Nat
  deriving DecidableEq, Repr

namespace Template

/-- The expression of a variable that declares none. -/
def defaultExpression : Text := ['[', '^', '/', ']', '+']

/-- The end of the expression: a group for the remainder, which begins with a slash. -/
def tail : Text := ['(', '/', '.', '*', ')', '?']

/-- A template that is not empty begins with a slash. -/
def normalize : Text → Text
  | [] => []
  | '/' :: rest => '/' :: rest
  | text => '/' :: text

/-- Whether a character is one of the braces. -/
def isBrace (character : Char) : Bool :=
  character = '{' || character = '}'

/--
The text up to the brace that closes one already opened, and the text behind it.  `depth` counts
the further braces that have been opened.
-/
def closeBrace : Nat → Text → Option (Text × Text)
  | _, [] => none
  | depth, character :: rest =>
      if character = '{' then
        (closeBrace (depth + 1) rest).map fun (body, after) => (character :: body, after)
      else if character = '}' then
        match depth with
        | 0 => some ([], rest)
        | outer + 1 => (closeBrace outer rest).map fun (body, after) => (character :: body, after)
      else
        (closeBrace depth rest).map fun (body, after) => (character :: body, after)

/-- What a brace encloses and what follows it is shorter than the text with the brace. -/
theorem length_closeBrace
    {depth : Nat}
    {text body after : Text}
    (closed : closeBrace depth text = some (body, after)) :
    body.length + after.length < text.length := by
  induction text generalizing depth body after with
  | nil => simp [closeBrace] at closed
  | cons character rest ih =>
      simp only [closeBrace] at closed
      split at closed
      · simp only [Option.map_eq_some_iff] at closed
        obtain ⟨⟨inner, behind⟩, found, equal⟩ := closed
        have shorter := ih found
        cases equal
        simp only [List.length_cons]
        omega
      · split at closed
        · split at closed
          · cases closed
            simp
          · simp only [Option.map_eq_some_iff] at closed
            obtain ⟨⟨inner, behind⟩, found, equal⟩ := closed
            have shorter := ih found
            cases equal
            simp only [List.length_cons]
            omega
        · simp only [Option.map_eq_some_iff] at closed
          obtain ⟨⟨inner, behind⟩, found, equal⟩ := closed
          have shorter := ih found
          cases equal
          simp only [List.length_cons]
          omega

/-- The name and the expression, if any, that the body of a variable declares. -/
def splitVariable (body : Text) : Text × Option Text :=
  match Text.cut ':' body with
  | none => (Text.trim body, none)
  | some (name, expression) =>
      let trimmed := Text.trim expression
      (Text.trim name, if trimmed.isEmpty then none else some trimmed)

/--
Reads the parts of a template from the text that is left, which begins at the given position.
The first fault from left to right is reported.
-/
def readParts (template : Text) (position : Nat) (rest : Text) :
    Except TemplateError (List Part) :=
  let literal := rest.takeWhile (!isBrace ·)
  let place := position + Text.byteCount literal
  match _next : rest.dropWhile (!isBrace ·) with
  | [] => .ok [.literal literal]
  | brace :: inside =>
      if brace = '}' then
        .error (.unexpectedClose template place)
      else
        match _closed : closeBrace 0 inside with
        | none => .error (.unclosed template place)
        | some (body, after) =>
            let (name, declared) := splitVariable body
            if name.isEmpty then
              .error (.emptyName template place)
            else
              let expression := declared.getD defaultExpression
              match Regex.ofText? expression with
              | none => .error (.invalidExpression template name)
              | some regex =>
                  match readParts template (place + Text.byteCount body + 2) after with
                  | .error error => .error error
                  | .ok parts =>
                      .ok (.literal literal :: .variable name expression regex.groupCount :: parts)
termination_by rest.length
decreasing_by
  have inner := length_closeBrace _closed
  have outer : (rest.dropWhile (!isBrace ·)).length ≤ rest.length :=
    List.IsSuffix.length_le (List.dropWhile_suffix _)
  rw [_next] at outer
  simp only [List.length_cons] at outer
  omega

/-- The characters that are escaped where they stand for themselves in an expression. -/
def isSpecial (character : Char) : Bool :=
  Regex.Escape.isMeta character

/-- A text as an expression that matches just this text. -/
def escapeExpression (text : Text) : Text :=
  text.flatMap fun character =>
    if isSpecial character then ['\\', character] else [character]

/-- The expression of a part. -/
def partExpression : Part → Text
  | .literal text => escapeExpression (Component.path.encodeLiteral text)
  | .variable _ expression _ => '(' :: expression ++ [')']

/-- How many characters of a part stand for themselves in the expression. -/
def partLiteralCount : Part → Nat
  | .literal text => (Component.path.encodeLiteral text).length
  | .variable _ _ _ => 0

/-- The names of the variables among some parts. -/
def partNames : List Part → List Text
  | [] => []
  | .literal _ :: parts => partNames parts
  | .variable name _ _ :: parts => name :: partNames parts

/-- The groups of the variables among some parts, and of the remainder behind them. -/
def partGroups (next : Nat) : List Part → List Nat
  | [] => [next]
  | .literal _ :: parts => partGroups next parts
  | .variable _ _ groups :: parts => next :: partGroups (next + 1 + groups) parts

/-- A compiled template of some parts; one slash at the end of the expression is dropped. -/
def ofParts (text : Text) (parts : List Part) : Template :=
  let expression := parts.flatMap partExpression
  let count := parts.foldr (fun part count => partLiteralCount part + count) 0
  let names := partNames parts
  let groups := partGroups 1 parts
  if expression.getLast? = some '/' then
    ⟨text, expression.dropLast ++ tail, count - 1, names, groups⟩
  else
    ⟨text, expression ++ tail, count, names, groups⟩

/-- The template of the empty text. -/
def empty : Template := ⟨[], [], 0, [], []⟩

/-- Compiles a template. -/
def compile (text : Text) : Except TemplateError Template :=
  match normalize text with
  | [] => .ok empty
  | template => (readParts template 0 template).map (ofParts template)

/-- Whether this is the template of the empty text. -/
def isEmpty (template : Template) : Bool :=
  template.text.isEmpty

/-- The group of the remainder. -/
def remainderGroup? (template : Template) : Option Nat :=
  template.groups.getLast?

end Template

namespace TemplateError

/-- What is wrong with a template, in words. -/
def message : TemplateError → String
  | unclosed template position =>
      s!"invalid URI template {String.ofList template}: '\x7b' at {position} is not closed by '\x7d'"
  | unexpectedClose template position =>
      s!"invalid URI template {String.ofList template}: unexpected '\x7d' at {position}"
  | emptyName template position =>
      s!"invalid URI template {String.ofList template}: empty variable name at {position}"
  | invalidExpression template name =>
      s!"invalid URI template {String.ofList template}: bad regular expression for {String.ofList name}"

end TemplateError
end Uri
end ResourceRouting
