import ResourceRouting.MediaType

/-!
# Accepted media ranges

The ranges that a client lists in an `Accept` header, the preferred ones first.
-/

namespace ResourceRouting
namespace MediaType

/--
The order of preference: by greater quality, and then by greater specificity.  Qualities that do not
compare count as equal.
-/
def preference (first second : MediaType) : Ordering :=
  ((second.quality.compare? first.quality).getD .eq).then
    (compare second.specificity first.specificity)

/-- Whether a range may stand before another one. -/
def ranksBefore (first second : MediaType) : Bool :=
  (preference first second).isLE

/-- Puts a range behind all ranges that may stand before it. -/
def insertRange (range : MediaType) : List MediaType → List MediaType
  | [] => [range]
  | other :: rest =>
      if ranksBefore range other then range :: other :: rest
      else other :: insertRange range rest

/-- Ranges in order of preference; ranges of equal rank keep their order. -/
def sortRanges : List MediaType → List MediaType
  | [] => []
  | range :: rest => insertRange range (sortRanges rest)

/-- The media types of some texts, or the error of the first text that is none. -/
def readAll : List Text → Except MediaTypeError (List MediaType)
  | [] => .ok []
  | text :: rest =>
      match read text with
      | .error error => .error error
      | .ok media => (readAll rest).map (media :: ·)

/-- The texts between the commas of a header, without white space around them and without blanks. -/
def headerPieces (header : Text) : List Text :=
  ((Text.pieces ',' header).map Text.trim).filter (!·.isEmpty)

/--
The ranges of an `Accept` header.  Without a header, or with a blank one, every media type is
accepted; ranges of no positive quality are left out.
-/
def accepted (header : Option Text) : Except MediaTypeError (List MediaType) :=
  match header with
  | none => .ok [wildcard]
  | some text =>
      if (Text.trim text).isEmpty then
        .ok [wildcard]
      else
        (readAll (headerPieces text)).map fun ranges =>
          sortRanges (ranges.filter (·.quality.isPositive))

end MediaType
end ResourceRouting
