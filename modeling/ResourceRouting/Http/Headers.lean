import ResourceRouting.MediaType

/-!
# Header fields

The fields of a request or of a response.  Names are kept in lower case, and a name may have
several values.
-/

namespace ResourceRouting

/-- Header fields, in the order in which they were added. -/
structure Headers where
  /-- The names, in lower case, and the values. -/
  fields : List (Text × Text) := []
  deriving DecidableEq, Repr

namespace Headers

/-- No fields. -/
def empty : Headers := {}

/-- The name of the field that gives the media type of an entity. -/
def contentType : Text := "content-type".toList

/-- The name of the field that gives the length of an entity. -/
def contentLength : Text := "content-length".toList

/-- The name of the field that lists the accepted media ranges. -/
def accept : Text := "accept".toList

/-- The name of the field that lists the allowed methods. -/
def allow : Text := "allow".toList

/-- The name of the field that says where a new resource is. -/
def location : Text := "location".toList

/-- The name of the field that identifies a request. -/
def requestId : Text := "x-request-id".toList

/-- Whether a text can be the name of a field. -/
def isName (name : Text) : Bool :=
  !name.isEmpty && name.all MediaType.isTokenChar

/-- Whether a text can be the value of a field: only the tab of all control characters may occur. -/
def isValue (value : Text) : Bool :=
  value.all fun character =>
    character = '\t' || (32 ≤ character.toNat && character.toNat ≠ 127)

/-- Whether a value is plain text: visible ASCII characters, spaces and tabs. -/
def isPlain (value : Text) : Bool :=
  value.all fun character =>
    character = '\t' || (32 ≤ character.toNat && character.toNat < 127)

/-- The first value of a name. -/
def get? (headers : Headers) (name : Text) : Option Text :=
  headers.fields.lookup (Text.lowerAscii name)

/-- The first value of a name, if it is plain text. -/
def plain? (headers : Headers) (name : Text) : Option Text :=
  (headers.get? name).filter isPlain

/-- Whether there is a field of a name. -/
def contains (headers : Headers) (name : Text) : Bool :=
  (headers.get? name).isSome

/-- Adds a value to those of a name. -/
def append (headers : Headers) (name value : Text) : Headers :=
  ⟨headers.fields ++ [(Text.lowerAscii name, value)]⟩

/-- Removes all values of a name. -/
def erase (headers : Headers) (name : Text) : Headers :=
  ⟨headers.fields.filter fun field => field.1 ≠ Text.lowerAscii name⟩

/-- Makes a value the only one of a name. -/
def insert (headers : Headers) (name value : Text) : Headers :=
  (headers.erase name).append name value

/-- A name whose values have been replaced has the new one. -/
@[simp]
theorem get?_insert (headers : Headers) (name value : Text) :
    (headers.insert name value).get? name = some value := by
  have erased : (headers.erase name).get? name = none := by
    rw [get?, List.lookup_eq_none_iff]
    intro field present
    have other : field.1 ≠ Text.lowerAscii name := by simpa using (List.mem_filter.mp present).2
    exact bne_iff_ne.mpr other.symm
  rw [get?] at erased
  rw [get?, insert, append, List.lookup_append, erased, List.lookup_cons_self]
  rfl

end Headers
end ResourceRouting
