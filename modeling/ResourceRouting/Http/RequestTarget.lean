import ResourceRouting.Text

/-!
# Request targets

What the first line of a request names: a path, a whole URI, an authority, or a star.  Only the
path and the query of it matter; a fragment is dropped.
-/

namespace ResourceRouting

/-- What a request asks for. -/
structure RequestTarget where
  /-- The path; it is empty for an authority alone. -/
  path : Text
  /-- The query, behind the question mark. -/
  query : Option Text
  deriving DecidableEq, Repr

namespace RequestTarget

/-- A target may have no more bytes than this. -/
def lengthLimit : Nat := 65534

/-- Characters without ASCII code are allowed wherever a path or a query may hold others. -/
def isBeyondAscii (character : Char) : Bool :=
  127 ≤ character.toNat

/-- Whether a character may stand in a path. -/
def isPathChar (character : Char) : Bool :=
  character.isAlphanum || isBeyondAscii character ||
    "!\"$%&'()*+,-./:;=@[\\]^_\x7b|\x7d~".toList.contains character

/-- Whether a character may stand in a query. -/
def isQueryChar (character : Char) : Bool :=
  character.isAlphanum || isBeyondAscii character ||
    "!$%&'()*+,-./:;=?@[\\]^_`\x7b|\x7d~".toList.contains character

/-- A text up to a number sign. -/
def withoutFragment (text : Text) : Text :=
  text.takeWhile (· ≠ '#')

/-- Reads a path and a query; an empty path stands for the root. -/
def readPath? (text : Text) : Option RequestTarget :=
  let shown := withoutFragment text
  let path := shown.takeWhile (· ≠ '?')
  let query := shown.dropWhile (· ≠ '?')
  if path.all isPathChar && query.all isQueryChar then
    some ⟨if path.isEmpty then ['/'] else path, if query.isEmpty then none else some query.tail⟩
  else
    none

/-- Whether a character ends an authority. -/
def endsAuthority (character : Char) : Bool :=
  ['/', '?', '#'].contains character

/-- Whether a character may stand in an authority. -/
def isAuthorityChar (character : Char) : Bool :=
  character.isAlphanum || "!$%&'()*+,-.:;=@[]_~".toList.contains character

/-- What has been seen of an authority. -/
structure AuthorityScan where
  /-- The colons behind the last at sign or closing bracket. -/
  colons : Nat := 0
  /-- Whether a bracket has been opened. -/
  opened : Bool := false
  /-- Whether the bracket has been closed. -/
  closed : Bool := false
  /-- Whether there is a percent sign behind the last at sign or closing bracket. -/
  percent : Bool := false
  /-- Whether the last character was an at sign. -/
  afterAt : Bool := false

namespace AuthorityScan

/-- No address has more colons than this. -/
def colonLimit : Nat := 8

/-- Goes on by a character. -/
def step (scan : AuthorityScan) (character : Char) : Option AuthorityScan :=
  if !isAuthorityChar character then
    none
  else if character = ':' then
    if colonLimit ≤ scan.colons then none
    else some { scan with colons := scan.colons + 1, afterAt := false }
  else if character = '[' then
    if scan.percent || scan.opened then none
    else some { scan with opened := true, afterAt := false }
  else if character = ']' then
    if !scan.opened || scan.closed then none
    else some { scan with closed := true, colons := 0, percent := false, afterAt := false }
  else if character = '@' then
    some { scan with colons := 0, percent := false, afterAt := true }
  else if character = '%' then
    some { scan with percent := true, afterAt := false }
  else
    some { scan with afterAt := false }

/-- Whether the characters seen make an authority. -/
def isComplete (scan : AuthorityScan) : Bool :=
  scan.opened == scan.closed && scan.colons ≤ 1 && !scan.afterAt && !scan.percent

end AuthorityScan

/-- Whether a text is an authority: user information, a host and a port. -/
def isAuthority (text : Text) : Bool :=
  match text.foldlM AuthorityScan.step {} with
  | none => false
  | some scan => scan.isComplete

/-- Whether a character may stand in a scheme. -/
def isSchemeChar (character : Char) : Bool :=
  character.isAlphanum || ['+', '-', '.', '~'].contains character

/-- A scheme may have no more characters than this. -/
def schemeLimit : Nat := 64

/-- A text without a scheme and the two slashes behind it, if it begins so. -/
def dropScheme? (text : Text) : Option Text :=
  match text.dropWhile isSchemeChar with
  | ':' :: '/' :: '/' :: rest =>
      if (text.takeWhile isSchemeChar).length ≤ schemeLimit then some rest else none
  | _ => none

/-- Reads a request target. -/
def ofText? (text : Text) : Option RequestTarget :=
  if lengthLimit < Text.byteCount text then
    none
  else
    match text with
    | [] => none
    | '/' :: _ => readPath? text
    | ['*'] => some ⟨['*'], none⟩
    | _ =>
        match dropScheme? text with
        | none =>
            if isAuthority text then some ⟨[], none⟩ else none
        | some rest =>
            let authority := rest.takeWhile (!endsAuthority ·)
            if authority.isEmpty || !isAuthority authority then none
            else readPath? (rest.dropWhile (!endsAuthority ·))

end RequestTarget
end ResourceRouting
