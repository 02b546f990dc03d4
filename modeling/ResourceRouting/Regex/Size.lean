import ResourceRouting.Regex.Expr
import ResourceRouting.Regex.Ranges

/-!
# The size of compiled expressions

An expression is compiled to two automata over bytes.  One reads a text forwards and notes where
groups begin and end; the other one reads it backwards and notes nothing.  A state takes 32 bytes,
each range of bytes that leads on from it 8 more, and each of several ways on 4 more.

The size stops where the engine looks for states that alternatives have in common: here each
alternative has its own.  Nor are the few states of a large class counted that the engine makes
anew because its table of the states of a class is full.
-/

namespace ResourceRouting
namespace Regex

/-- The automata that an expression is compiled to. -/
inductive Automaton
  /-- The one that reads forwards and notes the texts of groups. -/
  | forward
  /-- The one that reads backwards. -/
  | backward
  deriving DecidableEq, Repr

namespace Automaton

/-- The room of a state, in bytes. -/
def state : Nat := 32

/-- A state with a number of ways on, of which the first possible one is preferred. -/
def branching (ways : Nat) : Nat := state + 4 * ways

/-- A state with a number of ranges of bytes that lead on. -/
def ranging (ranges : Nat) : Nat := state + 8 * ranges

/-- What some sizes come to. -/
def total (sizes : List Nat) : Nat := sizes.foldr (· + ·) 0

/-- The states that note where a group begins and ends. -/
def noting : Automaton → Nat
  | forward => 2 * state
  | backward => 0

/-- The states before an expression: a loop over any bytes, unless it can begin in one place only. -/
def leading (fixed : Bool) : Nat :=
  if fixed then state else branching 2 + state + ranging 1

/--
The states of a repetition of something of a given size.  What may consume nothing is repeated in a
loop that can be passed over.
-/
def repeating (least : Nat) (most : Option Nat) (consumes : Bool) (size : Nat) : Nat :=
  let exactly := if least = 0 then state else least * size
  match most with
  | none =>
      if least = 0 then
        if consumes then branching 2 + size else 2 * branching 2 + state + size
      else
        exactly + branching 2
  | some bound =>
      if bound = least then exactly
      else if bound = 1 then branching 2 + state + size
      else exactly + state + (bound - least) * (branching 2 + size)

end Automaton

namespace ByteRanges

/-- Whether some sequences are that of one character. -/
def areCharacter : List ByteRanges → Bool
  | [sequence] => sequence.all fun range => range.first = range.last
  | _ => false

end ByteRanges

namespace CharSet

open Automaton

/-- The sequences of the characters of a set in UTF-8, in order. -/
def byteSequences (set : CharSet) : List ByteRanges :=
  set.toRuns.flatMap ByteRanges.ofCharacters

/--
The states of a class.  A character is written out, and ASCII characters are told apart by one
state.  Otherwise the forward automaton has a state for each way to go on after the beginnings of
sequences, and the backward one a state for each byte range that goes on.
-/
def size (automaton : Automaton) (set : CharSet) : Nat :=
  let sequences := set.byteSequences
  let endings := ByteRanges.endings 4 sequences
  if ByteRanges.areCharacter sequences then
    total (sequences.map fun sequence => state * sequence.length)
  else if sequences.all fun sequence => sequence.length = 1 then
    state + ranging sequences.length
  else
    match automaton with
    | .forward =>
        state + total (endings.eraseDups.map fun ending => ranging (ByteRanges.fork ending).length)
    | .backward =>
        branching sequences.length + state +
          total (endings.map fun ending => state * (ByteRanges.fork ending).length)

end CharSet

namespace Expr

open Automaton

/-- Whether the expression consumes something however it matches. -/
def consumesAlways : Expr → Bool
  | empty => false
  | chars _ => true
  | anchor _ => false
  | seq first second => first.consumesAlways || second.consumesAlways
  | alt first second => first.consumesAlways && second.consumesAlways
  | group _ inner => inner.consumesAlways
  | repeated least _ _ inner => 0 < least && inner.consumesAlways

/-- Whether the expression can begin at the beginning of a text alone. -/
def beginsText : Expr → Bool
  | empty => false
  | chars _ => false
  | anchor condition => condition = .textStart
  | seq first second => first.beginsText || first.consumesNothing && second.beginsText
  | alt first second => first.beginsText && second.beginsText
  | group _ inner => inner.beginsText
  | repeated least _ _ inner => 0 < least && inner.beginsText

/-- Whether the expression can end at the end of a text alone. -/
def endsText : Expr → Bool
  | empty => false
  | chars _ => false
  | anchor condition => condition = .textEnd
  | seq first second => second.endsText || second.consumesNothing && first.endsText
  | alt first second => first.endsText && second.endsText
  | group _ inner => inner.endsText
  | repeated least _ _ inner => 0 < least && inner.endsText

/--
What an alternative of a given size adds to the two states around all of them.  Alternatives of an
alternative stand beside it.
-/
def adding (alternative : Expr) (size : Nat) : Nat :=
  match alternative with
  | alt _ _ => size - 2 * state
  | _ => 4 + max state size

/-- The states of an expression; what is empty has one only where nothing else stands beside it. -/
def size (automaton : Automaton) : Expr → Nat
  | empty => 0
  | chars set => set.size automaton
  | anchor _ => state
  | seq first second => first.size automaton + second.size automaton
  | alt first second =>
      2 * state + first.adding (first.size automaton) + second.adding (second.size automaton)
  | group _ inner => automaton.noting + max state (inner.size automaton)
  | repeated least most _ inner =>
      repeating least most inner.consumesAlways (max state (inner.size automaton))

/--
The room that an automaton of a whole expression takes, in bytes.  The whole text is noted like a
group, and a last state says that there is a match.
-/
def compiledSize (automaton : Automaton) (expr : Expr) : Nat :=
  let fixed :=
    match automaton with
    | .forward => expr.beginsText
    | .backward => expr.endsText
  leading fixed + automaton.noting + max state (expr.size automaton) + state

/-- The room that a compiled expression may take by default, in bytes. -/
def maximalSize : Nat := 10485760

/-- Whether both automata of an expression take no more room than there is by default. -/
def fits (expr : Expr) : Bool :=
  expr.compiledSize .forward ≤ maximalSize && expr.compiledSize .backward ≤ maximalSize

end Expr
end Regex
end ResourceRouting
