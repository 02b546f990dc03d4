import ResourceRouting.MediaType.Quality
import ResourceRouting.Text.Quoted

/-!
# Media types

A media type has a kind, a subtype that may end in a structured suffix, and parameters.  Either
of kind and subtype may be the wildcard.
-/

namespace ResourceRouting

/-- A media type, or a range of media types. -/
structure MediaType where
  /-- The kind, in lower case. -/
  kind : Text
  /-- The subtype without its suffix, in lower case. -/
  subtype : Text
  /-- The suffix of the subtype, behind the last plus sign. -/
  suffix : Option Text
  /-- The parameters in order. -/
  parameters : List (Text × Text)
  /-- Everything behind kind, subtype and suffix as it is shown. -/
  tail : Text
  deriving DecidableEq, Repr

/-- Why a text is no media type. -/
inductive MediaTypeError
  /-- There is nothing but white space. -/
  | empty
  /-- The text has not the form of a media type. -/
  | invalid (value : Text)
  deriving DecidableEq, Repr

namespace MediaTypeError

/-- What is wrong with a media type, in words. -/
def message : MediaTypeError → String
  | empty => "empty media type"
  | invalid value => s!"invalid media type {String.ofList (Text.quote value)}"

end MediaTypeError

namespace MediaType

/-- The wildcard. -/
def star : Text := ['*']

/-- The media type of a kind and a subtype without suffix and parameters. -/
def plain (kind subtype : Text) : MediaType := ⟨kind, subtype, none, [], []⟩

/-- The range of all media types. -/
def wildcard : MediaType := plain star star

/-- JSON documents. -/
def json : MediaType := plain "application".toList "json".toList

/-- Plain text in UTF-8. -/
def plainText : MediaType where
  kind := "text".toList
  subtype := "plain".toList
  suffix := none
  parameters := [("charset".toList, "utf-8".toList)]
  tail := "; charset=utf-8".toList

/-- Bytes without further meaning. -/
def octetStream : MediaType := plain "application".toList "octet-stream".toList

/-- Kind, subtype and suffix as they are shown. -/
def essence (media : MediaType) : Text :=
  media.kind ++ '/' :: media.subtype ++
    match media.suffix with
    | none => []
    | some suffix => '+' :: suffix

/-- The media type as it is shown. -/
def render (media : MediaType) : Text :=
  media.essence ++ media.tail

/-- Whether the kind is the wildcard. -/
def isWildcardKind (media : MediaType) : Bool := media.kind = star

/-- Whether the subtype is the wildcard. -/
def isWildcardSubtype (media : MediaType) : Bool := media.subtype = star

/-- Whether neither kind nor subtype is the wildcard. -/
def isConcrete (media : MediaType) : Bool :=
  !media.isWildcardKind && !media.isWildcardSubtype

/-- Whether two ranges overlap; suffixes and parameters do not matter. -/
def isCompatible (first second : MediaType) : Bool :=
  (first.isWildcardKind || second.isWildcardKind || first.kind = second.kind) &&
    (first.isWildcardSubtype || second.isWildcardSubtype || first.subtype = second.subtype)

/-- The value of a parameter, whose name is compared without regard to case. -/
def parameter? (media : MediaType) (name : Text) : Option Text :=
  (media.parameters.find? fun parameter =>
    Text.lowerAscii parameter.1 = Text.lowerAscii name).map Prod.snd

/-- The quality factor; one unless a parameter gives another number. -/
def quality (media : MediaType) : Quality :=
  match media.parameter? ['q'] with
  | none => .one
  | some value => (Quality.read? value).getD .one

/-- Two for a concrete type, one for a range of subtypes, zero for a range of kinds. -/
def specificity (media : MediaType) : Nat :=
  if media.isWildcardKind then 0 else if media.isWildcardSubtype then 1 else 2

/-- The media type without its parameters. -/
def withoutParameters (media : MediaType) : MediaType :=
  { media with parameters := [], tail := [] }

/-- Whether a character can stand in a name or in a value without quotes. -/
def isTokenChar (character : Char) : Bool :=
  character.isAlphanum ||
    ['!', '#', '$', '%', '&', '\'', '*', '+', '-', '.', '^', '_', '\x60', '|', '~'].contains character

/-- Whether a character can stand in a value between quotes. -/
def isQuotedChar (character : Char) : Bool :=
  31 < character.toNat && character.toNat ≠ 127

/-- A parameter as it was read: its name, its value, and its text up to the next one. -/
structure RawParameter where
  /-- How many spaces stand before the name. -/
  spaces : Nat
  /-- The name as it was written. -/
  name : Text
  /-- The value as it was written, without quotes. -/
  value : Text
  /-- Whether the value stands between quotes. -/
  quoted : Bool
  /-- What follows the value: spaces after a quote, and a semicolon unless the text ends. -/
  trail : Text

namespace RawParameter

/-- Whether the parameter names the character encoding. -/
def isCharset (parameter : RawParameter) : Bool :=
  Text.lowerAscii parameter.name = "charset".toList

/-- The value as it is kept: that of the character encoding is in lower case. -/
def shownValue (parameter : RawParameter) : Text :=
  if parameter.isCharset then Text.lowerAscii parameter.value else parameter.value

/-- The parameter as it is shown. -/
def render (parameter : RawParameter) : Text :=
  let quotes : Text := if parameter.quoted then ['"'] else []
  List.replicate parameter.spaces ' ' ++ Text.lowerAscii parameter.name ++
    '=' :: quotes ++ parameter.shownValue ++ quotes ++ parameter.trail

/-- The parameter as it is kept. -/
def toPair (parameter : RawParameter) : Text × Text :=
  (Text.lowerAscii parameter.name, parameter.shownValue)

end RawParameter

/-- Reads the value of a parameter: the value, whether it is quoted, what follows, and the rest. -/
def readValue (text : Text) : Option (Text × Bool × Text × Text) :=
  match text with
  | '"' :: first :: inside =>
      if isQuotedChar first then
        let more := inside.takeWhile fun character => isQuotedChar character && character ≠ '"'
        match inside.dropWhile fun character => isQuotedChar character && character ≠ '"' with
        | '"' :: behind =>
            let spaces := behind.takeWhile (· = ' ')
            match behind.dropWhile (· = ' ') with
            | [] => some (first :: more, true, spaces, [])
            | ';' :: rest => some (first :: more, true, spaces ++ [';'], rest)
            | _ => none
        | _ => none
      else
        none
  | _ =>
      let value := text.takeWhile isTokenChar
      match text.dropWhile isTokenChar with
      | [] => some (value, false, [], [])
      | ';' :: rest => if value.isEmpty then none else some (value, false, [';'], rest)
      | _ => none

/-- Reads parameters behind a semicolon; `fuel` bounds their number. -/
def readParameters : Nat → Text → Option (List RawParameter)
  | 0, _ => none
  | fuel + 1, text =>
      let spaces := text.takeWhile (· = ' ')
      match text.dropWhile (· = ' ') with
      | [] => some []
      | start =>
          let name := start.takeWhile isTokenChar
          match start.dropWhile isTokenChar with
          | '=' :: behind =>
              if name.isEmpty then
                none
              else do
                let (value, quoted, trail, rest) ← readValue behind
                let more ← readParameters fuel rest
                some (⟨spaces.length, name, value, quoted, trail⟩ :: more)
          | _ => none

/--
The parameters as pairs.  A first parameter that says UTF-8 right behind one space is recognized
by its position alone, and when it is quoted and others follow, the text found in its position
begins with the quote and lacks the last character.
-/
def pairs (parameters : List RawParameter) : List (Text × Text) :=
  match parameters with
  | first :: second :: rest =>
      if first.spaces = 1 && first.isCharset && first.quoted && first.shownValue = "utf-8".toList then
        ("charset".toList, "\"utf-".toList) :: (second :: rest).map RawParameter.toPair
      else
        parameters.map RawParameter.toPair
  | _ => parameters.map RawParameter.toPair

/-- Splits a subtype at its last plus sign, unless it begins there. -/
def splitSuffix (text : Text) : Text × Option Text :=
  let suffix := (text.reverse.takeWhile (· ≠ '+')).reverse
  let before := text.take (text.length - suffix.length - 1)
  if before.isEmpty then (text, none) else (before, some suffix)

/-- Reads a media type that is surrounded by nothing. -/
def readExact? (text : Text) : Option MediaType :=
  let kind := text.takeWhile isTokenChar
  match text.dropWhile isTokenChar with
  | '/' :: behind =>
      if kind.isEmpty then
        none
      else
        let subtype := behind.takeWhile isTokenChar
        let (name, suffix) := splitSuffix (Text.lowerAscii subtype)
        match behind.dropWhile isTokenChar with
        | [] => some ⟨Text.lowerAscii kind, name, suffix, [], []⟩
        | ';' :: rest =>
            if subtype.isEmpty then
              none
            else
              (readParameters (rest.length + 1) rest).map fun parameters =>
                { kind := Text.lowerAscii kind
                  subtype := name
                  suffix := suffix
                  parameters := pairs parameters
                  tail :=
                    if parameters.isEmpty then []
                    else ';' :: parameters.flatMap RawParameter.render }
        | _ => none
  | _ => none

/-- Reads a media type; white space around it is left out, and a lone star means all types. -/
def read (text : Text) : Except MediaTypeError MediaType :=
  let trimmed := Text.trim text
  if trimmed.isEmpty then
    .error .empty
  else if trimmed = star then
    .ok wildcard
  else
    match readExact? trimmed with
    | none => .error (.invalid text)
    | some media => .ok media

end MediaType
end ResourceRouting
