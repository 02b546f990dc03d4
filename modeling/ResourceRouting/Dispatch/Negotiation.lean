import ResourceRouting.Choice
import ResourceRouting.MediaType.Accept
import ResourceRouting.Resource.Declaration

/-!
# Negotiation

Pairs the media ranges that a client accepts with the media types that a handler writes, and rates
each pair.
-/

namespace ResourceRouting
namespace Negotiation

/-- How good a pair is; of two scores the first number that differs decides. -/
structure Score where
  /-- The quality of the range in thousandths. -/
  quality : Nat
  /-- How specific the range is. -/
  range : Nat
  /-- How specific the produced type is. -/
  produced : Nat
  deriving DecidableEq, Repr

namespace Score

/-- The order of scores. -/
def order (first second : Score) : Ordering :=
  (compare first.quality second.quality).then
    ((compare first.range second.range).then (compare first.produced second.produced))

/-- Whether a score is better than another one. -/
def exceeds (first second : Score) : Bool :=
  first.order second = .gt

end Score

/-- A range that the client accepts with a type that the handler writes. -/
structure Pairing where
  /-- The range. -/
  range : MediaType
  /-- The produced type. -/
  produced : MediaType
  deriving DecidableEq, Repr

namespace Pairing

/-- How good a pair is. -/
def score (pairing : Pairing) : Score :=
  ⟨pairing.range.quality.thousandths, pairing.range.specificity, pairing.produced.specificity⟩

/-- The media type that a pair settles on, unless both are ranges. -/
def mediaType? (pairing : Pairing) : Option MediaType :=
  if pairing.produced.isConcrete then some pairing.produced
  else if pairing.range.isConcrete then some pairing.range.withoutParameters
  else none

end Pairing

/-- The pairs that fit, in the order of the ranges, and of the produced types for each of them. -/
def pairings (produced accepted : List MediaType) : List Pairing :=
  accepted.flatMap fun range =>
    ((Operation.orWildcard produced).filter fun media => media.isCompatible range).map fun media =>
      ⟨range, media⟩

/-- The best pair, the first one of equals. -/
def negotiate (produced accepted : List MediaType) : Option Pairing :=
  Choice.firstBest (fun next held => next.score.exceeds held.score) (pairings produced accepted)

end Negotiation
end ResourceRouting
