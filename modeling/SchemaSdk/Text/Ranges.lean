/-!
# Ranges and runs of code points

Character properties beyond ASCII are tables of code points. A table is a list of closed ranges,
or of runs with a step, since upper and lower case letters often alternate.
-/
namespace SchemaSdk.Text

/-- Whether a code point lies in one of the closed ranges. -/
def inRanges (table : List (Nat × Nat)) (n : Nat) : Bool :=
  table.any fun r => r.1 ≤ n && n ≤ r.2

/-- The code points from `first` to `last` in steps of `step`. -/
structure Run where
  first : Nat
  last : Nat
  step : Nat

/-- Whether a code point is one of the run. -/
def Run.contains (r : Run) (n : Nat) : Bool :=
  r.first ≤ n && n ≤ r.last && (n - r.first) % r.step == 0

/-- Whether a code point is in one of the runs. -/
def inRuns (table : List Run) (n : Nat) : Bool :=
  table.any (·.contains n)

/-- A run whose code points are all moved by the same distance, the first of them to `image`. -/
structure Shift where
  run : Run
  image : Nat

/-- Where the first run that holds the code point moves it. -/
def shifted? (table : List Shift) (n : Nat) : Option Nat :=
  (table.find? (·.run.contains n)).map fun s => s.image + (n - s.run.first)

end SchemaSdk.Text
