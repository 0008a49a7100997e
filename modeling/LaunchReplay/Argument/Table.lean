import LaunchReplay.Argument.Basic
import LaunchReplay.PositionMap

/-!
# Argument tables

All arguments of one launch by position. The first to take a position keeps it: a claim of a taken
position is a conflict, and an offered scalar gives way silently.
-/

namespace LaunchReplay

/-- The arguments of one launch. -/
abbrev ArgumentTable := PositionMap Argument

namespace ArgumentTable

/-- Takes a position for an argument, unless it is taken. -/
def claim (table : ArgumentTable) (position : Nat) (argument : Argument) :
    Except DecodeError ArgumentTable :=
  match table.get? position with
  | some holder => .error (.conflictingKind position holder.kind argument.kind)
  | none => .ok (table.insert position argument)

/-- Whether an offered scalar would be taken. -/
def accepts (table : ArgumentTable) (position : Nat) : Bool :=
  !table.contains position

/-- Takes a position for a scalar, or leaves the table alone if it is taken. -/
def offer (table : ArgumentTable) (position : Nat) (bytes : Bytes) : ArgumentTable :=
  if table.accepts position then table.insert position (.scalar bytes) else table

/-- The content before the launch at a position, empty if there is none. -/
def preState (table : ArgumentTable) (position : Nat) : Bytes :=
  ((table.get? position).bind Argument.preState?).getD []

/-- The positions of the outputs, ascending. -/
def outputPositions (table : ArgumentTable) : List Nat :=
  (table.entries.filter fun entry => entry.2.hasOutput).map (·.1)

end ArgumentTable

end LaunchReplay
