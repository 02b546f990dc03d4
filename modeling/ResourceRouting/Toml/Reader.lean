import ResourceRouting.Toml.Scalar
import ResourceRouting.Utf8

/-!
# TOML documents

A document is a sequence of lines: keys with values, headers of tables, comments, and blanks.
-/

namespace ResourceRouting
namespace Toml

/-- Values may be nested less deep, and keys may have fewer parts, than this. -/
def depthLimit : Nat := 80

/-- Whether a character may stand in a key without quotes. -/
def isBareKeyChar (character : Char) : Bool :=
  character.isAlphanum || character = '-' || character = '_'

/-- Reads a key without dots. -/
def readSimpleKey (text : Text) : Option (Text × Text) :=
  match text with
  | '"' :: rest => readBasic (rest.length + 1) rest
  | '\'' :: rest => readLiteral rest
  | _ =>
      let key := text.takeWhile isBareKeyChar
      if key.isEmpty then none else some (key, text.dropWhile isBareKeyChar)

/-- Reads the parts of a key; `fuel` bounds their number. -/
def readKeyParts : Nat → Text → Option (List Text × Text)
  | 0, _ => none
  | fuel + 1, text => do
      let (part, rest) ← readSimpleKey (skipSpace text)
      match skipSpace rest with
      | '.' :: behind =>
          let (parts, final) ← readKeyParts fuel behind
          some (part :: parts, final)
      | after => some ([part], after)

/-- A key with dots. -/
structure Key where
  /-- The parts before the last one. -/
  path : List Text
  /-- The last part. -/
  last : Text

/-- Reads a key with the white space around it. -/
def readKey (text : Text) : Option (Key × Text) := do
  let (parts, rest) ← readKeyParts (text.length + 1) text
  let last ← parts.getLast?
  if depthLimit ≤ parts.length then none else some (⟨parts.dropLast, last⟩, rest)

/-- The text behind blanks, line ends and comments that end with their lines. -/
def skipBlank : Nat → Text → Option Text
  | 0, text => some text
  | fuel + 1, text =>
      let start := skipSpace text
      match start with
      | '#' :: _ => (lineEnd? (skipComment start)).bind (skipBlank fuel)
      | _ =>
          match lineEnd? start with
          | some rest => skipBlank fuel rest
          | none => some start

/-- Skips blanks with as much fuel as can be needed. -/
def skipBlanks (text : Text) : Option Text :=
  skipBlank (text.length + 1) text

mutual

/-- Reads a value in which values may be nested `depth` levels deep. -/
def readValue (depth : Nat) : Nat → Text → Option (Toml × Text)
  | 0, _ => none
  | fuel + 1, text =>
      match text with
      | [] => none
      | first :: rest =>
          if first = '"' || first = '\'' then
            (readString text).map fun (content, after) => (string content, after)
          else if first = '[' then
            match depth with
            | 0 => none
            | less + 1 =>
                (readElements less true fuel rest).map fun (elements, after) =>
                  (array elements, after)
          else if first = '\x7b' then
            match depth with
            | 0 => none
            | less + 1 =>
                (readInline less true fuel [] rest).map fun (entries, after) =>
                  (table .inline entries, after)
          else if first = '+' || first = '-' || first.isDigit then
            readNumber text
          else
            match text with
            | 't' :: 'r' :: 'u' :: 'e' :: after => some (bool true, after)
            | 'f' :: 'a' :: 'l' :: 's' :: 'e' :: after => some (bool false, after)
            | 'i' :: 'n' :: 'f' :: after => some (float, after)
            | 'n' :: 'a' :: 'n' :: after => some (float, after)
            | _ => none

/-- Reads the elements of an array that are left; `opening` says that none has been read. -/
def readElements (depth : Nat) (opening : Bool) : Nat → Text → Option (List Toml × Text)
  | 0, _ => none
  | fuel + 1, text =>
      match skipBlanks text with
      | none => none
      | some (']' :: rest) => some ([], rest)
      | some start =>
          let next : Option Text :=
            if opening then some start
            else (readChar ',' start).bind skipBlanks
          match next with
          | none => none
          | some (']' :: rest) => some ([], rest)
          | some item =>
              match readValue depth fuel item with
              | none => none
              | some (element, after) =>
                  (readElements depth false fuel after).map fun (elements, final) =>
                    (element :: elements, final)

/-- Reads the entries of a table in one line that are left. -/
def readInline (depth : Nat) (opening : Bool) :
    Nat → Entries → Text → Option (Entries × Text)
  | 0, _, _ => none
  | fuel + 1, entries, text =>
      match skipSpace text with
      | '\x7d' :: rest => some (entries, rest)
      | start =>
          let next : Option Text := if opening then some start else readChar ',' start
          match next.bind readKey with
          | none => none
          | some (key, afterKey) =>
              match (readChar '=' afterKey).map skipSpace with
              | none => none
              | some beforeValue =>
                  match readValue depth fuel beforeValue with
                  | none => none
                  | some (value, after) =>
                      match addValue key.path key.last value entries with
                      | none => none
                      | some more => readInline depth false fuel more after

end

/-- The text behind the end of a line, before which a comment may stand. -/
def finishLine (text : Text) : Option Text :=
  match skipComment (skipSpace text) with
  | [] => some []
  | rest => lineEnd? rest

/-- Reads a key with its value into a document. -/
def readEntry (draft : Draft) (text : Text) : Option (Draft × Text) := do
  let (key, afterKey) ← readKey text
  let beforeValue ← readChar '=' afterKey
  let (value, after) ← readValue (depthLimit - 1) (text.length + 1) (skipSpace beforeValue)
  let rest ← finishLine after
  let more ← draft.add key.path key.last value
  some (more, rest)

/-- Reads a header into a document. -/
def readHeader (draft : Draft) (text : Text) : Option (Draft × Text) :=
  match text with
  | '[' :: '[' :: inside => do
      let (key, afterKey) ← readKey inside
      let rest ← finishLine (← readChar ']' (← readChar ']' afterKey))
      let more ← draft.openTables key.path key.last
      some (more, rest)
  | '[' :: inside => do
      let (key, afterKey) ← readKey inside
      let rest ← finishLine (← readChar ']' afterKey)
      let more ← draft.openTable key.path key.last
      some (more, rest)
  | _ => none

/-- Reads the lines of a document that are left; `fuel` bounds their number. -/
def readLines : Nat → Draft → Text → Option Draft
  | 0, _, _ => none
  | fuel + 1, draft, text =>
      match skipSpace text with
      | [] => some draft
      | '#' :: rest => (finishLine ('#' :: rest)).bind (readLines fuel draft)
      | '[' :: rest =>
          (readHeader draft ('[' :: rest)).bind fun (more, after) => readLines fuel more after
      | start =>
          match lineEnd? start with
          | some rest => readLines fuel draft rest
          | none => (readEntry draft start).bind fun (more, after) => readLines fuel more after

/-- A text without the mark that says that it is encoded in UTF-8. -/
def withoutMark : Text → Text
  | '\ufeff' :: rest => rest
  | text => text

/-- Reads a document. -/
def ofText? (text : Text) : Option Entries :=
  (readLines (text.length + 2) {} (withoutMark text)).map (·.entries)

end Toml
end ResourceRouting
