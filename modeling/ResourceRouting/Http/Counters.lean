import ResourceRouting.Http.Method

/-!
# Counters

How many requests were answered, by method and status code, and how many paths led to no
resource.
-/

namespace ResourceRouting

/-- What a request is counted under. -/
structure RequestLabel where
  /-- The request method. -/
  method : Method
  /-- The status code of the response. -/
  status : Nat
  deriving DecidableEq, Repr

/-- The counters. -/
structure Counters where
  /-- The label of every request that was answered, in order. -/
  answered : List RequestLabel := []
  /-- How many paths led to no resource. -/
  unmatched : Nat := 0
  deriving DecidableEq, Repr

namespace Counters

/-- Nothing has been counted. -/
def zero : Counters := {}

/-- How many requests were answered under a label. -/
def requests (counters : Counters) (label : RequestLabel) : Nat :=
  counters.answered.count label

/-- How many requests were answered. -/
def total (counters : Counters) : Nat :=
  counters.answered.length

/-- Counts an answered request. -/
def countRequest (counters : Counters) (label : RequestLabel) : Counters :=
  { counters with answered := counters.answered ++ [label] }

/-- Counts a path that led to no resource. -/
def countUnmatched (counters : Counters) : Counters :=
  { counters with unmatched := counters.unmatched + 1 }

@[simp]
theorem requests_zero (label : RequestLabel) : zero.requests label = 0 := rfl

@[simp]
theorem requests_countRequest (counters : Counters) (counted label : RequestLabel) :
    (counters.countRequest counted).requests label =
      counters.requests label + if counted = label then 1 else 0 := by
  simp [requests, countRequest, List.count_cons]

@[simp]
theorem unmatched_countRequest (counters : Counters) (label : RequestLabel) :
    (counters.countRequest label).unmatched = counters.unmatched := rfl

@[simp]
theorem requests_countUnmatched (counters : Counters) (label : RequestLabel) :
    counters.countUnmatched.requests label = counters.requests label := rfl

@[simp]
theorem unmatched_countUnmatched (counters : Counters) :
    counters.countUnmatched.unmatched = counters.unmatched + 1 := rfl

/-- The line of one label, in the exposition format. -/
def requestLine (counters : Counters) (label : RequestLabel) : Text :=
  "dispatch_requests_total\x7bmethod=\"".toList ++ label.method.name ++ "\",status=\"".toList ++
    Text.decimal label.status ++ "\"\x7d ".toList ++ Text.decimal (counters.requests label)

/-- The line of the paths that led to no resource, unless there were none. -/
def unmatchedLines (counters : Counters) : List Text :=
  if counters.unmatched = 0 then []
  else ["dispatch_unmatched_total ".toList ++ Text.decimal counters.unmatched]

/-- The counters that are not zero, one a line, in the exposition format. -/
def lines (counters : Counters) : List Text :=
  counters.answered.eraseDups.map counters.requestLine ++ counters.unmatchedLines

end Counters
end ResourceRouting
