import ResourceRouting.Percent

/-!
# Form-encoded pairs

The text of a query: pairs between ampersands, each a name and a value around the first equals
sign, with plus signs for spaces and escapes for bytes.
-/

namespace ResourceRouting
namespace Form

/-- The text of a name or a value: plus signs are spaces, and escapes are read as UTF-8. -/
def decode (text : Text) : Text :=
  Utf8.decodeLossy (Percent.decode (text.map fun character =>
    if character = '+' then ' ' else character))

/-- The name and the value of one pair; without an equals sign the value is empty. -/
def readPair (text : Text) : Text × Text :=
  match Text.cut '=' text with
  | none => (decode text, [])
  | some (name, value) => (decode name, decode value)

/-- The pairs of a query; nothing between two ampersands is no pair. -/
def read (query : Text) : List (Text × Text) :=
  ((Text.pieces '&' query).filter (!·.isEmpty)).map readPair

end Form
end ResourceRouting
