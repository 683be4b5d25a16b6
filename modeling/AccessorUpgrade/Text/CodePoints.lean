/-!
# Sets of code points

A property of characters is a sorted list of code point ranges. `CodeRanges.has` looks a code point
up, and stops at the first range that starts above it. `CodeRuns` is the same for properties that
hold of every second code point, as upper and lower case do in many scripts.
-/

namespace AccessorUpgrade.Text

/-- Code point ranges, both ends included, in ascending order. -/
abbrev CodeRanges := List (Nat × Nat)

/-- Whether a code point lies in one of the ranges. -/
def CodeRanges.has : CodeRanges → Nat → Bool
  | [], _ => false
  | (first, last) :: rest, n => if n < first then false else n ≤ last || CodeRanges.has rest n

/-- The code points `first`, `first + step`, … up to `last`. -/
structure CodeRun where
  first : Nat
  last : Nat
  step : Nat
deriving Repr, DecidableEq

/-- Whether a code point belongs to the run. -/
def CodeRun.has (run : CodeRun) (n : Nat) : Bool :=
  run.first ≤ n && n ≤ run.last && (n - run.first) % run.step == 0

/-- Runs of code points in ascending order of their starts. -/
abbrev CodeRuns := List CodeRun

/-- Whether a code point belongs to one of the runs. -/
def CodeRuns.has (runs : CodeRuns) (n : Nat) : Bool := runs.any (·.has n)

end AccessorUpgrade.Text
