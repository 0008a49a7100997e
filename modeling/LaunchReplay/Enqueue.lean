import LaunchReplay.Text.Numeral

/-!
# Enqueue indices

A capture belongs to one enqueue of the captured program, known by its counter. File names carry
the counter with at least four digits.
-/

namespace LaunchReplay

/-- The counter that identifies one captured enqueue. -/
structure Enqueue where
  /-- The value of the counter. -/
  index : Nat
deriving DecidableEq, Repr

namespace Enqueue

/-- The counter as it is reported. -/
def describe (enqueue : Enqueue) : String :=
  Text.decimal enqueue.index

/-- The counter with zeros up to four digits. -/
def padded (enqueue : Enqueue) : String :=
  Text.decimalPadded 4 enqueue.index

/-- What the names of the files of one enqueue start with. -/
def fileStart (enqueue : Enqueue) : String :=
  "Enqueue_" ++ enqueue.padded ++ "_"

end Enqueue

end LaunchReplay
