import LaunchReplay.Argument.Table
import LaunchReplay.Proofs.PositionMap

/-!
# First come, first served

A table is filled by claims and offers. Whatever their order, a position belongs to the first call
that names it: each later call at that position is turned down and changes nothing, and calls at
other positions have no part in it.
-/

namespace LaunchReplay.ArgumentTable

/-- A call that would take a position. -/
inductive Call
  /-- A claim for an argument of any kind. -/
  | claim (position : Nat) (argument : Argument)
  /-- An offer of a scalar. -/
  | offer (position : Nat) (bytes : Bytes)

/-- What a call returns. -/
inductive Answer
  /-- The outcome of a claim. -/
  | claimed (outcome : Except DecodeError Unit)
  /-- Whether an offered scalar was taken. -/
  | offered (taken : Bool)

namespace Call

/-- The position that a call names. -/
def position : Call → Nat
  | claim position _ => position
  | offer position _ => position

/-- The argument that a call would put at its position. -/
def argument : Call → Argument
  | claim _ argument => argument
  | offer _ bytes => .scalar bytes

/-- What a call returns if it took its position. -/
def accepted : Call → Answer
  | claim _ _ => .claimed (.ok ())
  | offer _ _ => .offered true

/-- What a call returns if its position has a holder. -/
def refused (holder : Argument) : Call → Answer
  | claim position argument =>
    .claimed (.error (.conflictingKind position holder.kind argument.kind))
  | offer _ _ => .offered false

end Call

/-- What a call returns, and the table that it leaves. -/
def serve (table : ArgumentTable) : Call → Answer × ArgumentTable
  | .claim position argument =>
    match table.claim position argument with
    | .ok claimed => (.claimed (.ok ()), claimed)
    | .error conflict => (.claimed (.error conflict), table)
  | .offer position bytes => (.offered (table.accepts position), table.offer position bytes)

/-- The table that calls leave, one after the other. -/
def serveAll (table : ArgumentTable) (calls : List Call) : ArgumentTable :=
  calls.foldl (fun served call => (serve served call).2) table

/-- The calls at a position, in order. -/
def callsAt (calls : List Call) (position : Nat) : List Call :=
  calls.filter fun call => call.position == position

/-- The first call at a position. -/
def firstAt? (calls : List Call) (position : Nat) : Option Call :=
  calls.find? fun call => call.position == position

variable {table : ArgumentTable} {call : Call} {calls others : List Call} {position : Nat}

/-! ## One call -/

/-- A call at a free position takes it. -/
theorem serve_free (free : table.get? call.position = none) :
    serve table call = (call.accepted, table.insert call.position call.argument) := by
  cases call with
  | claim position argument =>
      change table.get? position = none at free
      simp only [serve, claim, free, Call.accepted, Call.position, Call.argument]
  | offer position bytes =>
      change table.get? position = none at free
      have accepts : table.accepts position = true := by
        simp [ArgumentTable.accepts, PositionMap.contains, free]
      simp only [serve, offer, accepts, if_true, Call.accepted, Call.position, Call.argument]

/-- A call at a taken position is refused, and the table stays as it is. -/
theorem serve_taken {holder : Argument} (held : table.get? call.position = some holder) :
    serve table call = (call.refused holder, table) := by
  cases call with
  | claim position argument =>
      change table.get? position = some holder at held
      simp only [serve, claim, held, Call.refused]
  | offer position bytes =>
      change table.get? position = some holder at held
      have refuses : table.accepts position = false := by
        simp [ArgumentTable.accepts, PositionMap.contains, held]
      simp [serve, offer, refuses, Call.refused]

theorem get?_serve (table : ArgumentTable) (call : Call) (position : Nat) :
    PositionMap.get? (serve table call).2 position =
      (table.get? position).or (if call.position = position then some call.argument else none) := by
  cases held : table.get? call.position with
  | none =>
      rw [serve_free held, PositionMap.get?_insert]
      split
      · subst position
        simp [held]
      · simp
  | some holder =>
      rw [serve_taken held]
      split
      · subst position
        simp [held]
      · simp

/-! ## All calls -/

theorem mem_of_firstAt? {first : Call} (found : firstAt? calls position = some first) :
    first ∈ calls ∧ first.position = position := by
  have here := List.find?_some found
  exact ⟨List.mem_of_find?_eq_some found, eq_of_beq here⟩

theorem exists_firstAt? (listed : call ∈ calls) :
    ∃ first, firstAt? calls call.position = some first :=
  Option.isSome_iff_exists.mp (List.find?_isSome.mpr ⟨call, listed, beq_self_eq_true _⟩)

/-- The first call at a position decides, unless the position was taken before. -/
theorem get?_serveAll (table : ArgumentTable) (calls : List Call) (position : Nat) :
    PositionMap.get? (serveAll table calls) position =
      (table.get? position).or ((firstAt? calls position).map Call.argument) := by
  induction calls generalizing table with
  | nil => simp [serveAll, firstAt?]
  | cons call rest induction =>
      rw [serveAll, List.foldl_cons, ← serveAll, induction, get?_serve, Option.or_assoc, firstAt?,
        firstAt?]
      by_cases here : call.position = position <;> simp [here]

theorem get?_serveAll_empty (calls : List Call) (position : Nat) :
    PositionMap.get? (serveAll .empty calls) position =
      (firstAt? calls position).map Call.argument := by
  rw [get?_serveAll, PositionMap.get?_empty, Option.none_or]

theorem serve_serveAll (calls : List Call) (call : Call) :
    serve (serveAll .empty calls) call =
      match firstAt? calls call.position with
      | some first => (call.refused first.argument, serveAll .empty calls)
      | none => (call.accepted, (serveAll .empty calls).insert call.position call.argument) := by
  have held := get?_serveAll_empty calls call.position
  cases first : firstAt? calls call.position with
  | none => exact serve_free (by rw [held, first, Option.map_none])
  | some earlier => exact serve_taken (by rw [held, first, Option.map_some])

theorem mem_positions_serveAll_iff :
    position ∈ PositionMap.positions (serveAll .empty calls) ↔
      ∃ call ∈ calls, call.position = position := by
  rw [PositionMap.mem_positions_iff]
  simp only [get?_serveAll_empty, Option.map_eq_some_iff]
  constructor
  · rintro ⟨_, first, found, _⟩
    exact ⟨first, mem_of_firstAt? found⟩
  · rintro ⟨call, listed, rfl⟩
    obtain ⟨first, found⟩ := exists_firstAt? listed
    exact ⟨first.argument, first, found, rfl⟩

/-! ## Other orders -/

theorem serveAll_congr (alike : ∀ position, firstAt? others position = firstAt? calls position) :
    serveAll .empty others = serveAll .empty calls := by
  apply PositionMap.ext_get?
  intro position
  rw [get?_serveAll_empty, get?_serveAll_empty, alike]

theorem firstAt?_of_callsAt (alike : callsAt others position = callsAt calls position) :
    firstAt? others position = firstAt? calls position := by
  rw [firstAt?, firstAt?, ← List.head?_filter, ← List.head?_filter]
  exact congrArg List.head? alike

theorem firstAt?_eq_some_iff (distinct : (calls.map Call.position).Nodup) :
    firstAt? calls position = some call ↔ call ∈ calls ∧ call.position = position := by
  refine ⟨mem_of_firstAt?, ?_⟩
  rintro ⟨listed, rfl⟩
  obtain ⟨first, found⟩ := exists_firstAt? listed
  obtain ⟨first_listed, same⟩ := mem_of_firstAt? found
  rwa [List.inj_on_of_nodup_map distinct first_listed listed same] at found

/-- Where no two calls are at one position, the first at a position is the only one. -/
theorem firstAt?_of_perm (distinct : (calls.map Call.position).Nodup)
    (reordered : others.Perm calls) (position : Nat) :
    firstAt? others position = firstAt? calls position := by
  have others_distinct : (others.map Call.position).Nodup :=
    (reordered.map Call.position).nodup_iff.mpr distinct
  ext call
  rw [firstAt?_eq_some_iff others_distinct, firstAt?_eq_some_iff distinct, reordered.mem_iff]

/-! ## The whole table -/

/-- After any calls on an empty table, each position holds what the first call that names it put
there. A further call is refused if its position is taken, which leaves the table as it is and
tells a claim the two kinds that are in conflict, and is accepted otherwise. The entries are in
strictly ascending order, one for each position that a call names; the table is the same for all
orders of the calls that keep the order at each position, and so for all orders of calls at distinct
positions; and it has no gap exactly if the calls name the positions below its size and no other. -/
theorem first_call_decides (calls : List Call) :
    (∀ position, PositionMap.get? (serveAll .empty calls) position =
      (firstAt? calls position).map Call.argument) ∧
    (∀ call, serve (serveAll .empty calls) call =
      match firstAt? calls call.position with
      | some first => (call.refused first.argument, serveAll .empty calls)
      | none => (call.accepted, (serveAll .empty calls).insert call.position call.argument)) ∧
    ((serveAll .empty calls).entries.Pairwise fun entry later => entry.1 < later.1) ∧
    (∀ position argument, (position, argument) ∈ (serveAll .empty calls).entries ↔
      (firstAt? calls position).map Call.argument = some argument) ∧
    (∀ others, (∀ position, callsAt others position = callsAt calls position) →
      serveAll .empty others = serveAll .empty calls) ∧
    (∀ others, (calls.map Call.position).Nodup → others.Perm calls →
      serveAll .empty others = serveAll .empty calls) ∧
    ((serveAll .empty calls).isContiguous = true ↔
      ∀ position, (∃ call ∈ calls, call.position = position) ↔
        position < (serveAll .empty calls).size) := by
  refine ⟨get?_serveAll_empty calls, serve_serveAll calls, PositionMap.ascending _,
    fun position argument => ?_,
    fun others alike => serveAll_congr fun position => firstAt?_of_callsAt (alike position),
    fun others distinct reordered => serveAll_congr (firstAt?_of_perm distinct reordered), ?_⟩
  · rw [← PositionMap.get?_eq_some_iff, get?_serveAll_empty]
  · rw [PositionMap.isContiguous_iff_mem_positions]
    exact forall_congr' fun position => iff_congr mem_positions_serveAll_iff Iff.rfl

/-- A claim, an offer at another position, and an offer that comes too late. -/
def lateOffer : List Call := [.claim 1 (.buffer none [0]), .offer 0 [1], .offer 1 [9]]

/-- The buffer keeps its position against a later claim, the first two calls can change places, and
there is no gap. -/
theorem lateOffer_refused :
    PositionMap.get? (serveAll .empty lateOffer) 1 = some (.buffer none [0]) ∧
      serve (serveAll .empty lateOffer) (.claim 1 (.localMemory 64)) =
        (.claimed (.error (.conflictingKind 1 .buffer .localMemory)), serveAll .empty lateOffer) ∧
      serveAll .empty [.offer 0 [1], .claim 1 (.buffer none [0]), .offer 1 [9]] =
        serveAll .empty lateOffer ∧
      (serveAll .empty lateOffer).isContiguous = true := by
  obtain ⟨held, served, _, _, alike, _, contiguous⟩ := first_call_decides lateOffer
  refine ⟨held 1, served (.claim 1 (.localMemory 64)), alike _ fun position => ?_,
    contiguous.mpr fun position => ?_⟩
  · rcases position with _ | _ | position <;> simp [callsAt, lateOffer, Call.position]
  · have size_eq : (serveAll .empty lateOffer).size = 2 := by decide
    rw [size_eq]
    rcases position with _ | _ | position <;> simp [lateOffer, Call.position]

end LaunchReplay.ArgumentTable
