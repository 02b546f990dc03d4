import ResourceRouting.Uri.Template

/-!
# Patterns

A pattern is a compiled template together with its matcher.  Patterns are ordered by how specific
they are, and two patterns are the same when their expressions are.
-/

namespace ResourceRouting
namespace Uri

/-- What a path was matched with. -/
structure PathMatch where
  /-- The text of each variable occurrence. -/
  values : List (Option Text)
  /-- What follows the matched part of the path; it begins with a slash. -/
  remainder : Option Text
  deriving DecidableEq, Repr

namespace PathMatch

/-- The values followed by the remainder. -/
def toList (found : PathMatch) : List (Option Text) :=
  found.values ++ [found.remainder]

/-- The values and the remainder of a list that has the remainder last. -/
def ofList (texts : List (Option Text)) : PathMatch :=
  ⟨texts.dropLast, texts.getLast?.join⟩

@[simp]
theorem getLast?_toList (found : PathMatch) :
    found.toList.getLast? = some found.remainder := by
  simp [toList]

@[simp]
theorem ofList_toList (found : PathMatch) : ofList found.toList = found := by
  simp [ofList, toList]

/-- Whether a remainder says that the whole path was consumed. -/
def isTerminal (remainder : Option Text) : Bool :=
  remainder = none || remainder = some ['/']

end PathMatch

/-- A compiled template with its matcher; the empty template has none. -/
structure Pattern where
  /-- The compiled template. -/
  template : Template
  /-- The expression that matches a whole path. -/
  matcher : Option Regex
  deriving DecidableEq, Repr

namespace Pattern

/-- The pattern of the empty template. -/
def empty : Pattern := ⟨.empty, none⟩

/-- The text of an expression as one that has to match all of a text. -/
def anchored (expression : Text) : Text :=
  ['^', '(', '?', ':'] ++ expression ++ [')', '$']

/--
The pattern of a compiled template, if its expression is valid as a whole and the engine admits it
as a whole.
-/
def ofTemplateWithin
    (admits : Regex.Expr → Bool)
    (template : Template) :
    Except TemplateError Pattern :=
  if template.isEmpty then
    .ok ⟨template, none⟩
  else
    match Regex.ofTextWithin? admits (anchored template.expression) with
    | none => .error (.invalidExpression template.text [])
    | some regex => .ok ⟨template, some regex⟩

/-- The pattern of a template, if the engine admits its expression as a whole. -/
def compileWithin (admits : Regex.Expr → Bool) (text : Text) : Except TemplateError Pattern :=
  (Template.compile text).bind (ofTemplateWithin admits)

/-- The pattern of a template. -/
def compile (text : Text) : Except TemplateError Pattern :=
  compileWithin Regex.Expr.fits text

/-- The normal form of the template. -/
def text (pattern : Pattern) : Text := pattern.template.text

/-- The expression, which is what makes a pattern the one it is. -/
def expression (pattern : Pattern) : Text := pattern.template.expression

/-- The names of the variables, one for each occurrence. -/
def names (pattern : Pattern) : List Text := pattern.template.names

/-- How many characters stand for themselves. -/
def literalCount (pattern : Pattern) : Nat := pattern.template.literalCount

/-- Whether this is a pattern of the empty template. -/
def isEmpty (pattern : Pattern) : Bool := pattern.template.isEmpty

/--
Matches a path.  The empty path belongs to the empty pattern alone.  Of several places where the
expression matches the first one counts; that is the beginning of the path wherever the anchor at
its front governs the whole expression.
-/
def match? (pattern : Pattern) (path : Text) : Option PathMatch :=
  match path with
  | [] => if pattern.isEmpty then some ⟨[], none⟩ else none
  | _ =>
      match pattern.matcher with
      | none => none
      | some regex =>
          (regex.search? path).map fun notes =>
            .ofList (pattern.template.groups.map fun group => notes.lookup group)

/--
Matches a path and says whether it did.  The buffer then holds the values and the remainder; on
failure it is left as it was.
-/
def matchInto (pattern : Pattern) (path : Text) (buffer : List (Option Text)) :
    Bool × List (Option Text) :=
  match pattern.match? path with
  | none => (false, buffer)
  | some found => (true, found.toList)

/-- Whether two patterns are the same. -/
def same (first second : Pattern) : Bool :=
  first.expression = second.expression

/-- The order of two texts by their characters. -/
def compareText : Text → Text → Ordering
  | [], [] => .eq
  | [], _ :: _ => .lt
  | _ :: _, [] => .gt
  | first :: firsts, second :: seconds =>
      (compare first.toNat second.toNat).then (compareText firsts seconds)

/--
The order of patterns: the preferred one is less.  More characters that stand for themselves come
first, then fewer variables, then the expression decides; the empty pattern comes last.
-/
def order (first second : Pattern) : Ordering :=
  match first.isEmpty, second.isEmpty with
  | true, true => .eq
  | true, false => .gt
  | false, true => .lt
  | false, false =>
      (compare second.literalCount first.literalCount).then
        ((compare first.names.length second.names.length).then
          (compareText first.expression second.expression))

/-- Whether a pattern is preferred to another one. -/
def precedes (first second : Pattern) : Bool :=
  first.order second = .lt

/-- Puts a pattern before the first one that it does not come after. -/
def insert (pattern : Pattern) : List Pattern → List Pattern
  | [] => [pattern]
  | other :: rest =>
      if other.precedes pattern then other :: insert pattern rest
      else pattern :: other :: rest

/-- Patterns in order of preference; patterns of equal rank keep their order. -/
def sort : List Pattern → List Pattern
  | [] => []
  | pattern :: rest => insert pattern (sort rest)

end Pattern
end Uri
end ResourceRouting
