import ResourceRouting.Dispatch.Error
import ResourceRouting.Request
import ResourceRouting.Text.Scalar

/-!
# Reading path parameters

Path parameters are texts; here they are read as values of other types, and so is the entity.
-/

namespace ResourceRouting
namespace Request

/-- The greatest natural number of 64 bits. -/
def greatestNatural : Nat := 18446744073709551615

/-- A path parameter as a value of another type. -/
def read {α : Type} (request : Request) (reader : Text → Option α) (name : Text) :
    Except DispatchError α :=
  match request.parameter? name with
  | none => .error (.parameterMissing name)
  | some value =>
      match reader value with
      | none => .error (.parameterInvalid name value)
      | some result => .ok result

/-- A path parameter as a natural number of 64 bits. -/
def readNatural (request : Request) (name : Text) : Except DispatchError Nat :=
  request.read (Text.natural? greatestNatural) name

/-- The entity as a document. -/
def document (request : Request) : Except DispatchError Json :=
  (Json.ofBytes request.body).mapError .entity

end Request
end ResourceRouting
