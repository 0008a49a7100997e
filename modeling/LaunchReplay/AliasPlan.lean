import LaunchReplay.Argument.Table
import LaunchReplay.Notice

/-!
# Alias plans

Arguments that shared an allocation when the launch was captured carry the same identity token. A
plan partitions the buffers, and apart from them the shared-memory regions, by token; each group
becomes one allocation. An argument without a token is a group of its own.
-/

namespace LaunchReplay

/-- Buffers that share one allocation. -/
structure BufferGroup where
  /-- Member positions, ascending. -/
  positions : List Nat
deriving DecidableEq, Repr

namespace BufferGroup

/-- The lowest member, whose content seeds the allocation. -/
def representative? (group : BufferGroup) : Option Nat :=
  group.positions.head?

/-- Whether several members share the allocation. -/
def isAliased (group : BufferGroup) : Bool :=
  decide (1 < group.positions.length)

end BufferGroup

/-- Shared-memory arguments that share one region, each at its own offset. -/
structure SvmGroup where
  /-- Member positions, ascending, with their offsets. -/
  members : List (Nat × Nat)
deriving DecidableEq, Repr

namespace SvmGroup

/-- The member positions. -/
def positions (group : SvmGroup) : List Nat :=
  group.members.map (·.1)

/-- The lowest member, whose content seeds the region. -/
def representative? (group : SvmGroup) : Option Nat :=
  group.positions.head?

/-- Whether several members share the region. -/
def isAliased (group : SvmGroup) : Bool :=
  decide (1 < group.members.length)

end SvmGroup

/-- The allocations for all buffers and regions of a launch. -/
structure AliasPlan where
  /-- Groups of buffers. -/
  bufferGroups : List BufferGroup
  /-- Groups of shared-memory regions. -/
  svmGroups : List SvmGroup
  /-- One notice per group with several members. -/
  notices : List Notice
deriving DecidableEq, Repr

namespace AliasPlan

/-- Groups under construction: the token that each was founded with, and its members. -/
abbrev Founded (α : Type) := List (Option Bytes × List α)

/-- Adds a member to the group with its token, or founds a group with it at the end. -/
def join {α : Type} (token : Option Bytes) (member : α) : Founded α → Founded α
  | [] => [(token, [member])]
  | (founder, members) :: rest =>
    if token.isSome ∧ founder = token then (founder, members ++ [member]) :: rest
    else (founder, members) :: join token member rest

/-- Groups members by token, in the order of their first members. -/
def group {α : Type} (members : List (Option Bytes × α)) : List (List α) :=
  (members.foldl (fun groups member => join member.1 member.2 groups) []).map (·.2)

/-- The token and position of an entry that holds a buffer. -/
def bufferMember? : Nat × Argument → Option (Option Bytes × Nat)
  | (position, .buffer identity _) => some (identity, position)
  | _ => none

/-- The token, position and offset of an entry that holds a shared-memory region. -/
def svmMember? : Nat × Argument → Option (Option Bytes × (Nat × Nat))
  | (position, .svm identity _ offset) => some (identity, (position, offset))
  | _ => none

/-- Partitions the buffers and regions of a table by identity token. -/
def resolve (table : ArgumentTable) : AliasPlan :=
  let bufferGroups := (group (table.entries.filterMap bufferMember?)).map BufferGroup.mk
  let svmGroups := (group (table.entries.filterMap svmMember?)).map SvmGroup.mk
  { bufferGroups
    svmGroups
    notices :=
      (bufferGroups.filter BufferGroup.isAliased).map (fun group => .aliasGroup group.positions) ++
        (svmGroups.filter SvmGroup.isAliased).map (fun group => .aliasGroup group.positions) }

/-- The number of allocations that the plan makes. -/
def allocationCount (plan : AliasPlan) : Nat :=
  plan.bufferGroups.length + plan.svmGroups.length

end AliasPlan

end LaunchReplay
