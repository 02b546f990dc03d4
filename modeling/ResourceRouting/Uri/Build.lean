import ResourceRouting.Text.Quoted
import ResourceRouting.Uri.Template

/-!
# Building URIs

A URI is assembled from parts that may hold placeholders.  Values are bound to placeholders by
name, or by position in the order in which the names first occur; every later occurrence of a
name gets the text that its first occurrence got.
-/

namespace ResourceRouting
namespace Uri

/-- Why a URI cannot be built. -/
inductive BuildError
  /-- A placeholder in a part is not closed. -/
  | malformed (part : Text)
  /-- There is no value for a placeholder. -/
  | missing (name : Text)
  /-- A value that was to be used as it is holds a character that its component does not allow. -/
  | illegal (component : Component) (value : Text) (character : Char)
  deriving DecidableEq, Repr

namespace BuildError

/-- What went wrong, in words. -/
def message : BuildError → String
  | malformed part =>
      s!"invalid URI template {String.ofList part}: '\x7b' is not closed by '\x7d'"
  | missing name => s!"missing value for parameter {String.ofList name}"
  | illegal component value character =>
      let shown := String.ofList (Text.quoteChar character)
      let quoted := String.ofList (Text.quote value)
      s!"illegal character {shown} in {component.name} value {quoted}"

end BuildError

/-- The parts of a URI, each of which may hold placeholders. -/
structure Parts where
  /-- The scheme. -/
  scheme : Option Text := none
  /-- The user information. -/
  userInfo : Option Text := none
  /-- The host. -/
  host : Option Text := none
  /-- The port. -/
  port : Option Text := none
  /-- The path. -/
  path : Option Text := none
  /-- The query. -/
  query : Option Text := none
  /-- The fragment. -/
  fragment : Option Text := none
  deriving DecidableEq, Repr

/-- How values are put into placeholders. -/
structure BuildMode where
  /-- Whether values are encoded; otherwise they are used as they are, if they are legal. -/
  encode : Bool := true
  /-- Whether placeholders without a value are kept. -/
  asTemplate : Bool := false
  deriving DecidableEq, Repr

/-- Where values come from. -/
inductive Values
  /-- Values by name; of several values for one name the first counts. -/
  | named (bindings : List (Text × Text))
  /-- Values not yet used, and the texts bound to the names that have occurred. -/
  | positional (unused : List Text) (bound : List (Text × Text))
  deriving DecidableEq, Repr

namespace Values

/-- Values to be bound in order of first occurrence. -/
def ofList (values : List Text) : Values := positional values []

/-- A value as it is written in a component: encoded, or checked and unchanged. -/
def prepare (component : Component) (encode : Bool) (value : Text) : Except BuildError Text :=
  if encode then
    .ok (component.encode value)
  else
    match component.illegal? value with
    | none => .ok value
    | some character => .error (.illegal component value character)

/-- The text for a placeholder, if there is a value, and the values that remain. -/
def resolve
    (values : Values)
    (name : Text)
    (component : Component)
    (encode : Bool) :
    Except BuildError (Option Text × Values) :=
  match values with
  | named bindings =>
      match bindings.lookup name with
      | none => .ok (none, values)
      | some value => (prepare component encode value).map fun text => (some text, values)
  | positional unused bound =>
      match bound.lookup name with
      | some text => .ok (some text, values)
      | none =>
          match unused with
          | [] => .ok (none, values)
          | value :: rest =>
              (prepare component encode value).map fun text =>
                (some text, positional rest ((name, text) :: bound))

end Values

/-- Whether a character is not an opening brace. -/
def isPlain (character : Char) : Bool :=
  character ≠ '{'

/-- A placeholder as it is kept in a template. -/
def placeholder (name : Text) : Text :=
  '{' :: name ++ ['}']

/--
Substitutes the placeholders of a part from the text that is left.  `whole` is the part, which a
message quotes.
-/
def substitute
    (whole : Text)
    (component : Component)
    (mode : BuildMode)
    (values : Values)
    (rest : Text) :
    Except BuildError (Text × Values) :=
  let literal := rest.takeWhile isPlain
  match _next : rest.dropWhile isPlain with
  | [] => .ok (literal, values)
  | _ :: inside =>
      match _closed : Template.closeBrace 0 inside with
      | none => .error (.malformed whole)
      | some (body, after) =>
          let name := (Template.splitVariable body).1
          match values.resolve name component mode.encode with
          | .error error => .error error
          | .ok (found, remaining) =>
              match found, mode.asTemplate with
              | none, false => .error (.missing name)
              | _, _ =>
                  match substitute whole component mode remaining after with
                  | .error error => .error error
                  | .ok (more, final) =>
                      .ok (literal ++ found.getD (placeholder name) ++ more, final)
termination_by rest.length
decreasing_by
  have inner := Template.length_closeBrace _closed
  have outer : (rest.dropWhile isPlain).length ≤ rest.length :=
    List.IsSuffix.length_le (List.dropWhile_suffix _)
  rw [_next] at outer
  simp only [List.length_cons] at outer
  omega

/-- A URI that is being assembled. -/
structure Draft where
  /-- The text so far. -/
  text : Text
  /-- The values that remain. -/
  values : Values

namespace Draft

/-- Writes some text. -/
def write (draft : Draft) (text : Text) : Draft :=
  { draft with text := draft.text ++ text }

/-- Writes a part with its placeholders substituted. -/
def fill
    (draft : Draft)
    (component : Component)
    (mode : BuildMode)
    (part : Text) :
    Except BuildError Draft :=
  (substitute part component mode draft.values part).map fun (text, values) =>
    ⟨draft.text ++ text, values⟩

/-- Writes the scheme, which is never encoded, and its colon. -/
def fillScheme (draft : Draft) (mode : BuildMode) (parts : Parts) : Except BuildError Draft :=
  match parts.scheme with
  | none => .ok draft
  | some scheme =>
      (draft.fill .scheme { mode with encode := false } scheme).map (·.write [':'])

/-- Writes the user information before the host, unless it is empty. -/
def fillUserInfo (draft : Draft) (mode : BuildMode) (parts : Parts) : Except BuildError Draft :=
  match parts.userInfo with
  | none => .ok draft
  | some [] => .ok draft
  | some userInfo => (draft.fill .userInfo mode userInfo).map (·.write ['@'])

/-- Writes the host. -/
def fillHost (draft : Draft) (mode : BuildMode) (parts : Parts) : Except BuildError Draft :=
  match parts.host with
  | none => .ok draft
  | some host => draft.fill .host mode host

/-- Writes the port behind its colon. -/
def fillPort (draft : Draft) (mode : BuildMode) (parts : Parts) : Except BuildError Draft :=
  match parts.port with
  | none => .ok draft
  | some port => (draft.write [':']).fill .port mode port

/-- Writes the authority behind its two slashes, if any of its parts is set. -/
def fillAuthority (draft : Draft) (mode : BuildMode) (parts : Parts) : Except BuildError Draft :=
  if parts.userInfo.isSome || parts.host.isSome || parts.port.isSome then
    (((draft.write ['/', '/']).fillUserInfo mode parts).bind (·.fillHost mode parts)).bind
      (·.fillPort mode parts)
  else
    .ok draft

/-- Writes the path, with a slash between it and what stands before it. -/
def fillPath (draft : Draft) (mode : BuildMode) (parts : Parts) : Except BuildError Draft :=
  match parts.path with
  | none => .ok draft
  | some [] => .ok draft
  | some path =>
      if draft.text.isEmpty || path.head? = some '/' then
        draft.fill .path mode path
      else
        (draft.write ['/']).fill .path mode path

/-- Writes the query behind its question mark, unless it is empty. -/
def fillQuery (draft : Draft) (mode : BuildMode) (parts : Parts) : Except BuildError Draft :=
  match parts.query with
  | none => .ok draft
  | some [] => .ok draft
  | some query => (draft.write ['?']).fill .query mode query

/-- Writes the fragment behind its number sign, unless it is empty. -/
def fillFragment (draft : Draft) (mode : BuildMode) (parts : Parts) : Except BuildError Draft :=
  match parts.fragment with
  | none => .ok draft
  | some [] => .ok draft
  | some fragment => (draft.write ['#']).fill .fragment mode fragment

end Draft

namespace Parts

/-- Assembles a URI from its parts in order. -/
def build (parts : Parts) (values : Values) (mode : BuildMode) : Except BuildError Text := do
  let scheme ← Draft.fillScheme ⟨[], values⟩ mode parts
  let authority ← scheme.fillAuthority mode parts
  let path ← authority.fillPath mode parts
  let query ← path.fillQuery mode parts
  let fragment ← query.fillFragment mode parts
  return fragment.text

/-- A path with one more segment, joined by exactly one slash. -/
def joinSegment (path segment : Text) : Text :=
  match path.getLast? == some '/', segment.head? == some '/' with
  | true, true => path ++ segment.tail
  | false, false => path ++ '/' :: segment
  | _, _ => path ++ segment

/-- The parts with one more segment at the end of the path. -/
def addSegment (parts : Parts) (segment : Text) : Parts :=
  { parts with path := some (joinSegment (parts.path.getD []) segment) }

/-- The parts of a path alone. -/
def ofPath (path : Text) : Parts :=
  { path := some path }

end Parts
end Uri
end ResourceRouting
