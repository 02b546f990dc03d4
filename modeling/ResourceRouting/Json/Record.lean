import ResourceRouting.Json.Reader

/-!
# Reading records

A record is read from an object, or from an array of its fields in order.  Fields are checked as
they are met, so a fault is the first one in the document.
-/

namespace ResourceRouting
namespace Json

/-- What a field holds. -/
inductive FieldKind
  /-- A natural number up to a limit. -/
  | natural (limit : Nat)
  /-- A string. -/
  | string
  deriving DecidableEq, Repr

/-- A field of a record. -/
structure Field where
  /-- The key of the field. -/
  name : Text
  /-- What it holds. -/
  kind : FieldKind
  /-- Whether it may be left out. -/
  optional : Bool
  deriving DecidableEq, Repr

/-- The value of a field. -/
inductive FieldValue
  /-- A natural number. -/
  | natural (value : Nat)
  /-- A string. -/
  | string (text : Text)
  deriving DecidableEq, Repr

/-- The fault of a value of another type; a scalar value has to be well-formed first. -/
def typeFault (bytes : List UInt8) : Fault :=
  let checked (outcome : Except Fault Unit) : Fault :=
    match outcome with
    | .error fault => fault
    | .ok () => .mistyped
  match bytes with
  | [] => .truncated
  | byte :: rest =>
      let character := glyph byte
      if character = 'n' then checked ((readWord ['u', 'l', 'l'] rest).map fun _ => ())
      else if character = 't' then checked ((readWord ['r', 'u', 'e'] rest).map fun _ => ())
      else if character = 'f' then checked ((readWord ['a', 'l', 's', 'e'] rest).map fun _ => ())
      else if character = '-' then checked ((readNumber true rest).map fun _ => ())
      else if character.isDigit then checked ((readNumber false (byte :: rest)).map fun _ => ())
      else if character = '"' then checked ((readString rest).map fun _ => ())
      else if character = '[' || character = '{' then .mistyped
      else .malformed

/-- The value of a field that is read as a number. -/
def naturalValue (limit : Nat) : Reading JsonNumber → Reading FieldValue
  | .error fault => .error fault
  | .ok (.int value, rest) =>
      if 0 ≤ value && value ≤ limit then .ok (.natural value.toNat, rest) else .error .mistyped
  | .ok (.float _ _, _) => .error .mistyped

/-- Reads the value of a field. -/
def readField (kind : FieldKind) (bytes : List UInt8) : Reading FieldValue :=
  let start := skipSpace bytes
  match start with
  | [] => .error .truncated
  | byte :: rest =>
      match kind with
      | .string =>
          if glyph byte = '"' then
            (readString rest).map fun (text, after) => (.string text, after)
          else
            .error (typeFault start)
      | .natural limit =>
          if glyph byte = '-' then naturalValue limit (readNumber true rest)
          else if (glyph byte).isDigit then naturalValue limit (readNumber false start)
          else .error (typeFault start)

/-- The fields of a record that have been read. -/
abbrev FieldValues := List (Text × FieldValue)

/-- Reads the fields of a record from the elements of an array, in order. -/
def readFields (opening : Bool) : List Field → List UInt8 → Reading FieldValues
  | [], bytes =>
      match skipSpace bytes with
      | [] => .error .truncated
      | byte :: rest => if glyph byte = ']' then .ok ([], rest) else .error .malformed
  | field :: fields, bytes =>
      match readSeparator ']' opening bytes with
      | .error fault => .error fault
      | .ok (false, rest) =>
          if (field :: fields).all (·.optional) then .ok ([], rest) else .error .mistyped
      | .ok (true, rest) =>
          match readField field.kind rest with
          | .error fault => .error fault
          | .ok (value, after) =>
              (readFields false fields after).map fun (values, final) =>
                ((field.name, value) :: values, final)

/-- Reads the fields of a record from the members of an object; unknown members are skipped. -/
def readMembersOf
    (fields : List Field)
    (seen : FieldValues)
    (opening : Bool) :
    Nat → List UInt8 → Reading FieldValues
  | 0, _ => .error .truncated
  | fuel + 1, bytes =>
      match readSeparator '}' opening bytes with
      | .error fault => .error fault
      | .ok (false, rest) =>
          if fields.all fun field => field.optional || (seen.lookup field.name).isSome then
            .ok (seen, rest)
          else
            .error .mistyped
      | .ok (true, rest) =>
          match (readQuote rest).bind readString with
          | .error fault => .error fault
          | .ok (key, afterKey) =>
              match fields.find? (·.name = key) with
              | some field =>
                  if (seen.lookup key).isSome then
                    .error .mistyped
                  else
                    match (readColon afterKey).bind (readField field.kind) with
                    | .error fault => .error fault
                    | .ok (value, after) =>
                        readMembersOf fields ((key, value) :: seen) false fuel after
              | none =>
                  match (readColon afterKey).bind (skipValue fuel) with
                  | .error fault => .error fault
                  | .ok after => readMembersOf fields seen false fuel after

/-- Reads a record from a document. -/
def recordOfBytes (fields : List Field) (bytes : List UInt8) : Except Fault FieldValues :=
  let start := skipSpace bytes
  match start with
  | [] => .error .truncated
  | byte :: rest =>
      if glyph byte = '[' then finish (readFields true fields rest)
      else if glyph byte = '{' then
        finish (readMembersOf fields [] true (bytes.length + 2) rest)
      else .error (typeFault start)

/-- The number of a field, or zero if it was left out. -/
def FieldValues.natural (values : FieldValues) (name : Text) : Nat :=
  match values.lookup name with
  | some (.natural value) => value
  | _ => 0

/-- The string of a field. -/
def FieldValues.string (values : FieldValues) (name : Text) : Text :=
  match values.lookup name with
  | some (.string text) => text
  | _ => []

end Json
end ResourceRouting
