import ResourceRouting.Regex.CharSet

/-!
# The byte sequences of a set

A set of characters as runs of code points in order, and the sequences of byte ranges that these
runs have in UTF-8.  An engine that reads bytes compiles a class to them.
-/

namespace ResourceRouting
namespace Unicode
namespace Run

/-- The greatest code point. -/
def greatest : Nat := 0x10ffff

/-- Puts a run into a list of runs that are in order and do not touch, and joins those that do. -/
def insert (run : Run) : List Run → List Run
  | [] => [run]
  | other :: rest =>
      if run.last + 1 < other.first then run :: other :: rest
      else if other.last + 1 < run.first then other :: insert run rest
      else insert ⟨min run.first other.first, max run.last other.last⟩ rest

/-- The code points of some runs as runs that are in order and do not touch. -/
def ordered (runs : List Run) : List Run :=
  runs.foldr insert []

/-- The runs between some runs that are in order, from a code point on. -/
def gaps (start : Nat) : List Run → List Run
  | [] => if start ≤ greatest then [⟨start, greatest⟩] else []
  | run :: rest =>
      if start < run.first then ⟨start, run.first - 1⟩ :: gaps (run.last + 1) rest
      else gaps (run.last + 1) rest

/-- What two lists of runs that are in order have in common. -/
def common (first second : List Run) : List Run :=
  gaps 0 (ordered (gaps 0 first ++ gaps 0 second))

end Run

namespace Shift

/-- The code points of a run that move. -/
def moving (shift : Shift) (run : Run) : List Nat :=
  let low := max shift.first run.first
  let start := low + (shift.step - (low - shift.first) % shift.step) % shift.step
  let stop := min shift.last run.last
  if start ≤ stop then
    (List.range ((stop - start) / shift.step + 1)).map fun index => start + index * shift.step
  else
    []

/-- What the code points of a run are moved to. -/
def targets (shift : Shift) (run : Run) : List Nat :=
  (shift.moving run).map fun (code : Nat) => ((code : Int) + shift.offset).toNat

/-- The code points that are moved into a run. -/
def sources (shift : Shift) (run : Run) : List Nat :=
  shift.moving ⟨((run.first : Int) - shift.offset).toNat, ((run.last : Int) - shift.offset).toNat⟩

end Shift
end Unicode

namespace Regex

open Unicode (Run)

namespace CharSet

/-- Some runs with further code points, which are given for each run. -/
def withCodes (codes : Run → List Nat) (runs : List Run) : List Run :=
  Run.ordered (runs ++ (runs.flatMap codes).map fun code => ⟨code, code⟩)

/-- The code points of a set as runs that are in order and do not touch. -/
def toRuns : CharSet → List Run
  | runs table => Run.ordered table
  | union left right => Run.ordered (left.toRuns ++ right.toRuns)
  | inter left right => Run.common left.toRuns right.toRuns
  | diff left right => Run.common left.toRuns (Run.gaps 0 right.toRuns)
  | compl set => Run.gaps 0 set.toRuns
  | anyCase set =>
      let folded := withCodes (fun run => Unicode.foldShifts.flatMap (·.targets run)) set.toRuns
      withCodes (fun run => Unicode.foldShifts.flatMap (·.sources run)) folded
  | anyAsciiCase set =>
      let upper : Unicode.Shift := ⟨65, 90, 1, 32⟩
      withCodes (fun run => upper.targets run ++ upper.sources run) set.toRuns

end CharSet

/-- A sequence of ranges of bytes. -/
abbrev ByteRanges := List Run

namespace ByteRanges

/-- The byte that goes on a character, with no bit set. -/
def continuation : Nat := 0x80

/--
The sequences of the numbers of a run that are written with one byte, whose mark is given, and
`count` bytes behind it with six bits each.  The first byte of a sequence is a range only where any
bytes may follow.
-/
def ofRun : Nat → Nat → Run → List ByteRanges
  | 0, mark, run => [[⟨mark + run.first, mark + run.last⟩]]
  | count + 1, mark, run =>
      let block := Nat.pow 64 (count + 1)
      let low := run.first / block
      let high := run.last / block
      let under (byte : Nat) (inner : Run) : List ByteRanges :=
        (ofRun count continuation inner).map (⟨mark + byte, mark + byte⟩ :: ·)
      if low = high then
        under low ⟨run.first % block, run.last % block⟩
      else
        let before := run.first % block = 0
        let behind := run.last % block = block - 1
        let first := if before then low else low + 1
        let last := if behind then high + 1 else high
        (if before then [] else under low ⟨run.first % block, block - 1⟩) ++
          (if first < last then
            [⟨mark + first, mark + last - 1⟩ ::
              List.replicate (count + 1) ⟨continuation, continuation + 63⟩]
          else
            []) ++
          if behind then [] else under high ⟨0, run.last % block⟩

/-- The code points of each length in UTF-8, with the number of further bytes and the first mark. -/
def lengths : List (Run × Nat × Nat) :=
  [(⟨0, 0x7f⟩, 0, 0), (⟨0x80, 0x7ff⟩, 1, 0xc0), (⟨0x800, 0xd7ff⟩, 2, 0xe0),
    (⟨0xe000, 0xffff⟩, 2, 0xe0), (⟨0x10000, Run.greatest⟩, 3, 0xf0)]

/-- The sequences of the characters of a run in UTF-8, in order. -/
def ofCharacters (run : Run) : List ByteRanges :=
  lengths.flatMap fun (all, count, mark) =>
    let first := max run.first all.first
    let last := min run.last all.last
    if first ≤ last then ofRun count mark ⟨first, last⟩ else []

/-- The first ranges of some sequences, each with what follows it; neighbours share a range. -/
def fork : List ByteRanges → List (Run × List ByteRanges)
  | [] => []
  | [] :: others => fork others
  | (range :: rest) :: others =>
      match fork others with
      | (next, behind) :: forks =>
          if next = range then (range, rest :: behind) :: forks
          else (range, [rest]) :: (next, behind) :: forks
      | [] => [(range, [rest])]

/-- Whatever has to follow the beginnings of some sequences, of at most a number of bytes. -/
def endings : Nat → List ByteRanges → List (List ByteRanges)
  | 0, _ => []
  | count + 1, sequences =>
      sequences :: (fork sequences).flatMap fun (_, rest) =>
        if rest.all List.isEmpty then [] else endings count rest

end ByteRanges
end Regex
end ResourceRouting
