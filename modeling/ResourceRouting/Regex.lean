import ResourceRouting.Regex.Reader
import ResourceRouting.Regex.Sharing
import ResourceRouting.Regex.Size

/-!
# Regular expressions in use

Reading an expression from its text, and finding the first place of a text where it matches.
-/

namespace ResourceRouting

/-- An expression that has been read. -/
structure Regex where
  /-- The expression. -/
  expr : Regex.Expr
  deriving DecidableEq, Repr

namespace Regex

/--
Reads an expression, when the text is one and the engine admits it.  An engine compiles only what
takes no more room than some limit; all that is known here of the limit is what it admits.
-/
def ofTextWithin? (admits : Expr → Bool) (text : Text) : Option Regex :=
  ((Reader.read text).filter admits).map fun expr => ⟨expr⟩

theorem ofTextWithin?_eq_some_iff
    {admits : Expr → Bool}
    {text : Text}
    {regex : Regex} :
    ofTextWithin? admits text = some regex ↔
      Reader.read text = some regex.expr ∧ admits regex.expr = true := by
  rw [ofTextWithin?, Option.map_eq_some_iff]
  constructor
  · rintro ⟨_, found, rfl⟩
    exact Option.filter_eq_some_iff.mp found
  · intro found
    exact ⟨regex.expr, Option.filter_eq_some_iff.mpr found, rfl⟩

/-- Reads an expression, when the text is one and takes no more room than there is by default. -/
def ofText? (text : Text) : Option Regex :=
  ofTextWithin? Expr.fits text

/-- The number of groups whose text can be noted. -/
def groupCount (regex : Regex) : Nat :=
  regex.expr.groupCount

/-- Matches at a place and notes the texts of the groups. -/
def matchAt? (regex : Regex) (place : Place) : Option Notes :=
  regex.expr.runShared (fun _ => some []) place

/-- Matches at the first place of a text where that is possible. -/
def search? (regex : Regex) (text : Text) : Option Notes :=
  (Place.start text).onward.findSome? regex.matchAt?

end Regex
end ResourceRouting
