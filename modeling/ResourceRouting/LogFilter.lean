import ResourceRouting.Number.Numeral
import ResourceRouting.Regex
import ResourceRouting.Utf8

/-!
# Log filters

A log filter is a list of directives between commas: a level, a target, or a target and a span
with fields, with a level behind an equals sign.  Here it is only decided which texts are filters.
-/

namespace ResourceRouting
namespace LogFilter

/-- Whether a text names a level, or a number from zero to five. -/
def isLevel (text : Text) : Bool :=
  let digits :=
    match text with
    | '+' :: rest => rest
    | _ => text
  text.isEmpty ||
    [["error".toList, "warn".toList, "info".toList, "debug".toList, "trace".toList,
      "off".toList].contains (Text.lowerAscii text),
      !digits.isEmpty && digits.all Char.isDigit && Text.ofDecimal digits ≤ 5].any id

/-- Whether a character can begin the name of a target. -/
def beginsTarget (character : Char) : Bool :=
  ['-', ':', '_'].contains character || Unicode.isAlphabetic character ||
    Unicode.isNumeric character

/--
Whether a text is an expression that a table of states can match: at no place it asks for the edge
of a word over all of Unicode.
-/
def isExpression (text : Text) : Bool :=
  (Regex.ofText? text).any fun regex => !regex.expr.usesEdgeOf .words

/-- Whether a text is a condition on a field: a name, and perhaps a number or an expression. -/
def isField (text : Text) : Bool :=
  match Text.pieces '=' text with
  | _ :: value :: _ => (Number.Numeral.read? value).isSome || isExpression value
  | _ => !text.isEmpty

/-- What part of a directive is being read; places are counted in bytes. -/
inductive State
  /-- Nothing has been read. -/
  | start
  /-- A level or a target that begins at a place. -/
  | name (place : Nat)
  /-- A span. -/
  | span
  /-- A field that begins at a place. -/
  | field (place : Nat)
  /-- The fields have ended. -/
  | afterFields
  /-- The span has ended. -/
  | afterSpan
  /-- A level that begins at a place. -/
  | level (place : Nat)

/-- A part of a text that is given by places in its bytes. -/
def slice (text : Text) (first last : Nat) : Text :=
  Utf8.decodeLossy (((Utf8.encode text).take last).drop first)

/-- Reads one character of a directive at a place. -/
def step (directive : Text) (place : Nat) (state : State) (character : Char) : Option State :=
  match state with
  | .start =>
      if character = '[' then some .span
      else if beginsTarget character then some (.name place)
      else none
  | .name first =>
      if character = '=' then some (.level (place + 1))
      else if character = '[' then some .span
      else some (.name first)
  | .span =>
      if character = ']' then some .afterSpan
      else if character = '{' then some (.field (place + 1))
      else some .span
  | .field first =>
      if character = '}' then
        if isField (slice directive first place) then some .afterFields else none
      else
        some (.field first)
  | .afterFields => if character = ']' then some .afterSpan else none
  | .afterSpan => if character = '=' then some (.level (place + 1)) else none
  | .level first => some (.level first)

/-- Reads the rest of a directive from a place. -/
def run (directive : Text) (place : Nat) (state : State) : Text → Option State
  | [] => some state
  | character :: rest =>
      (step directive place state character).bind fun next =>
        run directive (place + character.utf8Size) next rest

/--
Whether a text is a directive.  White space around it is passed over, yet the places of its parts
are counted as if it were not there.
-/
def isDirective (directive : Text) : Bool :=
  match run directive 0 .start (Text.trim directive) with
  | some (.name _) => true
  | some (.level first) => isLevel (slice directive first (Text.byteCount directive))
  | some .afterSpan => true
  | _ => false

/-- Whether a text is a log filter. -/
def isValid (filter : Text) : Bool :=
  ((Text.pieces ',' filter).filter (!·.isEmpty)).all isDirective

end LogFilter
end ResourceRouting
