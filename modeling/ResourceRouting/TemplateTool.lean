import ResourceRouting.Json
import ResourceRouting.Uri.Build
import ResourceRouting.Uri.Pattern

/-!
# The template tool

A command-line tool that compiles, matches, ranks and expands templates.  Arguments are read into
a command, and a command is run to a document.
-/

namespace ResourceRouting
namespace TemplateTool

/-- What the tool can do. -/
inductive Command
  /-- Shows how a template is compiled. -/
  | compile (template : Text)
  /-- Matches a path. -/
  | matchPath (template path : Text)
  /-- Expands a template with values, by name if any names are given. -/
  | expand (template : Text) (values : List Text) (named : List (Text × Text))
      (mode : Uri.BuildMode)
  /-- Orders templates by preference. -/
  | rank (templates : List Text)
  deriving DecidableEq, Repr

/-- Why a command leads to no document. -/
inductive Failure
  /-- A template is invalid. -/
  | template (error : Uri.TemplateError)
  /-- A template cannot be expanded. -/
  | build (error : Uri.BuildError)
  deriving DecidableEq, Repr

/-- What went wrong, in words. -/
def Failure.message : Failure → String
  | template error => error.message
  | build error => error.message

/-- An object of some members. -/
def record (members : List (String × Json)) : Json :=
  .object (members.map fun (key, value) => (key.toList, value))

/-- A natural number. -/
def natural (value : Nat) : Json := .number (.ofNat value)

/-- A text that may be absent. -/
def optional (text : Option Text) : Json := text.elim .null .string

/-- How a template was compiled. -/
def showTemplate (template : Uri.Template) : Json :=
  record
    [("group_indexes", .array (template.groups.map natural)),
      ("literal_chars", natural template.literalCount),
      ("parameters", .array (template.names.map .string)),
      ("regex", .string template.expression), ("template", .string template.text)]

/-- What a pattern matched. -/
def showMatch (pattern : Uri.Pattern) : Option Uri.PathMatch → Json
  | none => record [("matched", .bool false)]
  | some found =>
      record
        [("matched", .bool true), ("remainder", optional found.remainder),
          ("terminal", .bool (Uri.PathMatch.isTerminal found.remainder)),
          ("values", .array ((pattern.names.zip found.values).map fun (name, value) =>
            record [("name", .string name), ("value", optional value)]))]

/-- The rank of a pattern. -/
def showRanked (pattern : Uri.Pattern) : Json :=
  record
    [("literal_chars", natural pattern.literalCount),
      ("parameters", natural pattern.names.length), ("regex", .string pattern.expression),
      ("template", .string pattern.text)]

/-- Runs a command. -/
def Command.run : Command → Except Failure Json
  | compile template =>
      ((Uri.Template.compile template).mapError .template).map showTemplate
  | matchPath template path =>
      ((Uri.Pattern.compile template).mapError .template).map fun pattern =>
        showMatch pattern (pattern.match? path)
  | expand template values named mode =>
      let source : Uri.Values := if named.isEmpty then .ofList values else .named named.reverse
      (((Uri.Parts.ofPath template).build source mode).mapError .build).map fun uri =>
        record [("uri", .string uri)]
  | rank templates =>
      ((templates.mapM Uri.Pattern.compile).mapError .template).map fun patterns =>
        .array ((Uri.Pattern.sort patterns).map showRanked)

/-- The commands by their names. -/
inductive Verb
  /-- Shows how a template is compiled. -/
  | compile
  /-- Matches a path. -/
  | matchPath
  /-- Expands a template. -/
  | expand
  /-- Orders templates. -/
  | rank
  deriving DecidableEq, Repr

namespace Verb

/-- All commands. -/
def all : List Verb := [.compile, .matchPath, .expand, .rank]

/-- The name of a command. -/
def name : Verb → String
  | compile => "compile"
  | matchPath => "match"
  | expand => "build"
  | rank => "rank"

/-- What a command does, in words. -/
def summary : Verb → String
  | compile => "Show the regex, literal count and parameters of a template"
  | matchPath => "Match a path against a template"
  | expand => "Expand a template"
  | rank => "Order templates from most to least specific"

/-- The least number of texts that a command takes. -/
def least : Verb → Nat
  | compile => 1
  | matchPath => 2
  | expand => 1
  | rank => 0

/-- The greatest number of texts that a command takes, if there is one. -/
def greatest : Verb → Option Nat
  | compile => some 1
  | matchPath => some 2
  | expand => none
  | rank => none

/-- The lines that explain the arguments of a command. -/
def explanation : Verb → List String
  | compile =>
      ["Usage: uri-tool compile <TEMPLATE>", "", "Arguments:", "  <TEMPLATE>  ", "", "Options:",
        "  -h, --help  Print help"]
  | matchPath =>
      ["Usage: uri-tool match <TEMPLATE> <PATH>", "", "Arguments:", "  <TEMPLATE>  ",
        "  <PATH>      ", "", "Options:", "  -h, --help  Print help"]
  | expand =>
      ["Usage: uri-tool build [OPTIONS] <TEMPLATE> [VALUES]...", "", "Arguments:",
        "  <TEMPLATE>   ",
        "  [VALUES]...  Positional values, bound to parameters in order of first occurrence", "",
        "Options:",
        "  -n, --named <NAMED>    Named values as name=value (repeatable); overrides positional values",
        "      --encode <ENCODE>  Percent-encode characters that are illegal in the path [default: true] [possible values: true, false]",
        "      --as-template      Keep placeholders without a value as \x7bname\x7d",
        "  -h, --help             Print help"]
  | rank =>
      ["Usage: uri-tool rank [TEMPLATES]...", "", "Arguments:", "  [TEMPLATES]...  ", "",
        "Options:", "  -h, --help  Print help"]

end Verb

/-- The lines that explain the tool. -/
def explanation : List String :=
  ["Compile, match, rank and expand URI templates", "",
    "Usage: uri-tool [OPTIONS] <COMMAND>", "", "Commands:",
    "  compile  Show the regex, literal count and parameters of a template",
    "  match    Match a path against a template", "  build    Expand a template",
    "  rank     Order templates from most to least specific",
    "  help     Print this message or the help of the given subcommand(s)", "", "Options:",
    "  -p, --pretty  Pretty-print JSON output", "  -h, --help    Print help"]

/-- The lines that explain a command. -/
def Verb.help (verb : Verb) : List String :=
  verb.summary :: "" :: verb.explanation

/-- Why arguments lead to no command. -/
inductive Stop
  /-- Help was asked for. -/
  | help (lines : List String)
  /-- The arguments are wrong. -/
  | usage
  deriving DecidableEq, Repr

/-- The arguments of a command as they are read. -/
structure Arguments where
  /-- The texts. -/
  texts : List Text := []
  /-- The named values. -/
  named : List (Text × Text) := []
  /-- Whether values are encoded, if that was said. -/
  encode : Option Bool := none
  /-- Whether placeholders without a value are kept. -/
  asTemplate : Bool := false
  deriving DecidableEq, Repr

namespace Arguments

/-- Adds a text, if the command takes one more. -/
def addText (verb : Verb) (arguments : Arguments) (text : Text) : Except Stop Arguments :=
  if verb.greatest.any (· ≤ arguments.texts.length) then .error .usage
  else .ok { arguments with texts := arguments.texts ++ [text] }

/-- Adds a named value, which is written with an equals sign. -/
def addNamed (arguments : Arguments) (text : Text) : Except Stop Arguments :=
  match Text.cut '=' text with
  | none => .error .usage
  | some binding => .ok { arguments with named := arguments.named ++ [binding] }

/-- Says whether values are encoded, which may be said once. -/
def setEncode (arguments : Arguments) (text : Text) : Except Stop Arguments :=
  match arguments.encode, String.ofList text with
  | none, "true" => .ok { arguments with encode := some true }
  | none, "false" => .ok { arguments with encode := some false }
  | _, _ => .error .usage

/-- Says that placeholders are kept, which may be said once. -/
def setAsTemplate (arguments : Arguments) : Except Stop Arguments :=
  if arguments.asTemplate then .error .usage
  else .ok { arguments with asTemplate := true }

end Arguments

/-- Whether a text is an option, or the mark behind which there are none. -/
def isOption : Text → Bool
  | '-' :: _ :: _ => true
  | _ => false

/-- A text without the equals sign that it may begin with. -/
def afterEquals : Text → Text
  | '=' :: rest => rest
  | text => text

/--
Reads an option that says all it has to say; for one whose value is the next argument there is
no result.
-/
def readOption (verb : Verb) (arguments : Arguments) (option : Text) :
    Option (Except Stop Arguments) :=
  match option with
  | '-' :: '-' :: long =>
      let name := String.ofList (long.takeWhile (· ≠ '='))
      let value : Option Text := (Text.cut '=' long).map Prod.snd
      match name, value, verb with
      | "help", none, _ => some (.error (.help verb.help))
      | "as-template", none, .expand => some arguments.setAsTemplate
      | "named", none, .expand => none
      | "encode", none, .expand => none
      | "named", some text, .expand => some (arguments.addNamed text)
      | "encode", some text, .expand => some (arguments.setEncode text)
      | _, _, _ => some (.error .usage)
  | '-' :: 'h' :: _ => some (.error (.help verb.help))
  | '-' :: 'n' :: rest =>
      if verb ≠ .expand then some (.error .usage)
      else if rest.isEmpty then none
      else some (arguments.addNamed (afterEquals rest))
  | _ => some (.error .usage)

/-- Gives an option the value in the next argument. -/
def giveValue (arguments : Arguments) (option value : Text) : Except Stop Arguments :=
  if isOption value then .error .usage
  else if option = "--encode".toList then arguments.setEncode value
  else arguments.addNamed value

/-- Reads the arguments of a command. -/
def readArguments (verb : Verb) : Arguments → List Text → Except Stop Arguments
  | arguments, [] => .ok arguments
  | arguments, first :: rest =>
      if first = ['-', '-'] then
        rest.foldlM (Arguments.addText verb) arguments
      else if isOption first then
        match readOption verb arguments first with
        | some (.error stop) => .error stop
        | some (.ok more) => readArguments verb more rest
        | none =>
            match rest with
            | [] => .error .usage
            | value :: others =>
                match giveValue arguments first value with
                | .error stop => .error stop
                | .ok more => readArguments verb more others
      else
        match arguments.addText verb first with
        | .error stop => .error stop
        | .ok more => readArguments verb more rest

/-- The command of a name and its arguments. -/
def Arguments.toCommand (arguments : Arguments) (verb : Verb) : Except Stop Command :=
  if arguments.texts.length < verb.least then
    .error .usage
  else
    match verb, arguments.texts with
    | .compile, template :: _ => .ok (.compile template)
    | .matchPath, template :: path :: _ => .ok (.matchPath template path)
    | .expand, template :: values =>
        .ok (.expand template values arguments.named
          ⟨arguments.encode.getD true, arguments.asTemplate⟩)
    | .rank, templates => .ok (.rank templates)
    | _, _ => .error .usage

/-- What the tool was asked to do. -/
structure Invocation where
  /-- Whether the document is printed over several lines. -/
  pretty : Bool
  /-- The command. -/
  command : Command
  deriving DecidableEq, Repr

/-- The command of a name. -/
def verb? (name : Text) : Option Verb :=
  Verb.all.find? (·.name.toList = name)

/-- Explains the command that is named, or the tool. -/
def help : List Text → Stop
  | [] => .help explanation
  | [name] => ((verb? name).map fun verb => Stop.help verb.help).getD .usage
  | _ => .usage

/-- Reads short options of the tool: whether its output is pretty. -/
def readFlags : Bool → Text → Except Stop Bool
  | pretty, [] => .ok pretty
  | pretty, 'p' :: rest => if pretty then .error .usage else readFlags true rest
  | _, 'h' :: _ => .error (.help explanation)
  | _, _ => .error .usage

/-- Reads the arguments of the tool. -/
def readInvocation : Bool → List Text → Except Stop Invocation
  | _, [] => .error .usage
  | pretty, first :: rest =>
      if first = "--help".toList then .error (.help explanation)
      else if first = "--pretty".toList then
        if pretty then .error .usage else readInvocation true rest
      else if isOption first then
        match readFlags pretty first.tail with
        | .error stop => .error stop
        | .ok flags => readInvocation flags rest
      else if first = "help".toList then .error (help rest)
      else
        match verb? first with
        | none => .error .usage
        | some verb =>
            (readArguments verb {} rest).bind fun arguments =>
              (arguments.toCommand verb).map fun command => ⟨pretty, command⟩

/-- What the tool leaves behind. -/
structure Outcome where
  /-- The exit code: one if the command failed, and two if the arguments were wrong. -/
  exitCode : Nat
  /-- The text on standard output. -/
  output : Text
  /-- The text on standard error. -/
  complaint : String
  deriving DecidableEq, Repr

/-- A text of some lines. -/
def unlines (lines : List String) : Text :=
  lines.flatMap fun line => line.toList ++ ['\n']

/-- Runs the tool. -/
def run (arguments : List Text) : Outcome :=
  match readInvocation false arguments with
  | .error (.help lines) => ⟨0, unlines lines, ""⟩
  | .error .usage => ⟨2, [], String.ofList (unlines explanation)⟩
  | .ok invocation =>
      match invocation.command.run with
      | .error failure => ⟨1, [], s!"Error: {failure.message}"⟩
      | .ok document =>
          let text := if invocation.pretty then document.renderPretty 0 else document.render
          ⟨0, text ++ ['\n'], ""⟩

end TemplateTool
end ResourceRouting
