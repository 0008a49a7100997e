import LaunchReplay.AliasPlan
import LaunchReplay.Proofs.PositionMap
import Mathlib.Data.List.Induction

/-!
# Alias plans partition by token

Two arguments share an allocation if they are of one kind and carry one token. Grouping collects the
members of each token in their order, and the groups of a resolved plan are exactly the classes of
arguments that share.
-/

namespace LaunchReplay

namespace Argument

/-- Two arguments that shared an allocation when the launch was captured. -/
inductive Aliases : Argument → Argument → Prop
  /-- Buffers with one token. -/
  | buffer (token left right : Bytes) :
      Aliases (.buffer (some token) left) (.buffer (some token) right)
  /-- Regions of shared memory with one token. -/
  | svm (token left right : Bytes) (offset other : Nat) :
      Aliases (.svm (some token) left offset) (.svm (some token) right other)

/-- The token of an argument with the kind within which it counts. -/
def token? : Argument → Option (ArgumentKind × Bytes)
  | .buffer (some token) _ => some (.buffer, token)
  | .svm (some token) _ _ => some (.svm, token)
  | _ => none

theorem aliases_iff {left right : Argument} :
    left.Aliases right ↔ ∃ token, left.token? = some token ∧ right.token? = some token := by
  constructor
  · rintro (_ | _) <;> exact ⟨_, rfl, rfl⟩
  · rintro ⟨token, left_token, right_token⟩
    unfold token? at left_token right_token
    split at left_token <;> split at right_token <;> cases left_token <;> cases right_token
    · exact .buffer _ _ _
    · exact .svm _ _ _ _ _

instance (left right : Argument) : Decidable (left.Aliases right) :=
  decidable_of_iff (left.token?.isSome ∧ left.token? = right.token?) <| by
    rw [aliases_iff, Option.isSome_iff_exists]
    constructor
    · rintro ⟨⟨token, carried⟩, same⟩
      exact ⟨token, carried, same ▸ carried⟩
    · rintro ⟨token, left_token, right_token⟩
      exact ⟨⟨token, left_token⟩, left_token.trans right_token.symm⟩

end Argument

namespace ArgumentTable

/-- Whether the arguments at two positions shared an allocation. -/
def Aliased (table : ArgumentTable) (left right : Nat) : Prop :=
  ∃ argument other, table.get? left = some argument ∧ table.get? right = some other ∧
    argument.Aliases other

/-- Whether two positions are bound to one allocation: the same position, or aliased ones. -/
def Shares (table : ArgumentTable) (left right : Nat) : Prop :=
  right = left ∨ table.Aliased left right

theorem aliased_iff {table : ArgumentTable} {left right : Nat} :
    table.Aliased left right ↔
      ∃ token, (table.get? left).bind Argument.token? = some token ∧
        (table.get? right).bind Argument.token? = some token := by
  simp only [Aliased, Argument.aliases_iff, Option.bind_eq_some_iff]
  constructor
  · rintro ⟨argument, other, held, other_held, token, carried, other_carried⟩
    exact ⟨token, ⟨argument, held, carried⟩, other, other_held, other_carried⟩
  · rintro ⟨token, ⟨argument, held, carried⟩, other, other_held, other_carried⟩
    exact ⟨argument, other, held, other_held, token, carried, other_carried⟩

theorem Aliased.symm {table : ArgumentTable} {left right : Nat}
    (aliased : table.Aliased left right) : table.Aliased right left := by
  obtain ⟨token, left_token, right_token⟩ := aliased_iff.mp aliased
  exact aliased_iff.mpr ⟨token, right_token, left_token⟩

/-- Positions that are exactly one class of sharing arguments, in ascending order. -/
structure IsAliasClass (table : ArgumentTable) (positions : List Nat) : Prop where
  /-- No position occurs twice or out of order. -/
  ascending : positions.Pairwise (· < ·)
  /-- There is a position. -/
  nonempty : positions ≠ []
  /-- With a position come all that share its allocation, and no other. -/
  closed : ∀ position ∈ positions, ∀ other, other ∈ positions ↔ table.Shares position other

end ArgumentTable

namespace AliasPlan

variable {α : Type}

/-! ## Grouping by token -/

/-- A member that finds no group with its token founds one at the end. -/
theorem join_of_fresh (token : Option Bytes) (member : α) {groups : Founded α}
    (fresh : ∀ founded ∈ groups, token.isSome → founded.1 ≠ token) :
    join token member groups = groups ++ [(token, [member])] := by
  induction groups with
  | nil => rfl
  | cons founded rest induction =>
      obtain ⟨founder, group⟩ := founded
      have elsewhere : ¬ (token.isSome ∧ founder = token) := fun ⟨present, same⟩ =>
        fresh (founder, group) (by simp) present same
      have later := induction fun other other_mem => fresh other (by simp [other_mem])
      rw [join, if_neg elsewhere, later]
      rfl

/-- A member that finds a group with its token becomes the last of the first such group. -/
theorem join_of_found (token : Bytes) (member : α) {groups : Founded α}
    (found : ∃ founded ∈ groups, founded.1 = some token) :
    ∃ before group after,
      groups = before ++ (some token, group) :: after ∧
        (∀ founded ∈ before, founded.1 ≠ some token) ∧
          join (some token) member groups = before ++ (some token, group ++ [member]) :: after := by
  induction groups with
  | nil => simp at found
  | cons founded rest induction =>
      obtain ⟨founder, group⟩ := founded
      by_cases here : founder = some token
      · subst here
        exact ⟨[], group, rest, rfl, by simp, by simp [join]⟩
      · have later : ∃ founded ∈ rest, founded.1 = some token := by
          obtain ⟨founded, founded_mem, carries⟩ := found
          rcases List.mem_cons.mp founded_mem with rfl | founded_mem
          · exact absurd carries here
          · exact ⟨founded, founded_mem, carries⟩
        obtain ⟨before, held, after, split, absent, joined⟩ := induction later
        refine ⟨(founder, group) :: before, held, after, by simp [split], ?_, ?_⟩
        · simpa [here] using absent
        · rw [join, if_neg (by simp [here]), joined]
          rfl

/-- The members that carry a token, in order. -/
def membersWith (token : Bytes) (members : List (Option Bytes × α)) : List α :=
  (members.filter fun member => member.1 == some token).map (·.2)

theorem mem_membersWith {token : Bytes} {members : List (Option Bytes × α)} {member : α} :
    member ∈ membersWith token members ↔ (some token, member) ∈ members := by
  simp only [membersWith, List.mem_map, List.mem_filter, beq_iff_eq, Prod.exists]
  constructor
  · rintro ⟨_, _, ⟨carried, rfl⟩, rfl⟩
    exact carried
  · intro carried
    exact ⟨some token, member, ⟨carried, rfl⟩, rfl⟩

@[simp]
theorem membersWith_append_same (token : Bytes) (members : List (Option Bytes × α)) (member : α) :
    membersWith token (members ++ [(some token, member)]) =
      membersWith token members ++ [member] := by
  simp [membersWith]

theorem membersWith_append_other {token : Bytes} {other : Option Bytes}
    (differs : other ≠ some token) (members : List (Option Bytes × α)) (member : α) :
    membersWith token (members ++ [(other, member)]) = membersWith token members := by
  simp [membersWith, differs]

/-- What holds of the groups while members are added one by one. -/
structure Grouping (members : List (Option Bytes × α)) (groups : Founded α) : Prop where
  /-- No group is empty. -/
  inhabited : ∀ founded ∈ groups, founded.2 ≠ []
  /-- A group without a token has one member. -/
  alone : ∀ group, (none, group) ∈ groups → ∃ member, (none, member) ∈ members ∧ group = [member]
  /-- A group with a token has all members that carry it, in order. -/
  shared : ∀ token group, (some token, group) ∈ groups → group = membersWith token members
  /-- Every member is in a group with its token. -/
  covered : ∀ token member, (token, member) ∈ members →
    ∃ group, (token, group) ∈ groups ∧ member ∈ group
  /-- No two groups have the same token. -/
  distinct : groups.Pairwise fun left right => left.1.isSome → left.1 ≠ right.1

theorem Grouping.found {token : Option Bytes} {member : α} {members : List (Option Bytes × α)}
    {groups : Founded α} (grouping : Grouping members groups)
    (fresh : ∀ founded ∈ groups, token.isSome → founded.1 ≠ token) :
    Grouping (members ++ [(token, member)]) (groups ++ [(token, [member])]) where
  inhabited founded founded_mem := by
    rcases List.mem_append.mp founded_mem with old | new
    · exact grouping.inhabited founded old
    · obtain rfl : founded = (token, [member]) := by simpa using new
      simp
  alone group group_mem := by
    rcases List.mem_append.mp group_mem with old | new
    · obtain ⟨only, only_mem, rfl⟩ := grouping.alone group old
      exact ⟨only, by simp [only_mem], rfl⟩
    · obtain ⟨rfl, rfl⟩ : none = token ∧ group = [member] := by simpa using new
      exact ⟨member, by simp, rfl⟩
  shared carried group group_mem := by
    rcases List.mem_append.mp group_mem with old | new
    · have differs : token ≠ some carried := fun same =>
        fresh (some carried, group) old (by simp [same]) same.symm
      rw [membersWith_append_other differs]
      exact grouping.shared carried group old
    · obtain ⟨rfl, rfl⟩ : some carried = token ∧ group = [member] := by simpa using new
      have absent : membersWith carried members = [] := by
        apply List.eq_nil_iff_forall_not_mem.mpr
        intro earlier earlier_mem
        obtain ⟨held, held_mem, _⟩ :=
          grouping.covered (some carried) earlier (mem_membersWith.mp earlier_mem)
        exact fresh (some carried, held) held_mem rfl rfl
      simp [absent]
  covered carried earlier earlier_mem := by
    rcases List.mem_append.mp earlier_mem with old | new
    · obtain ⟨group, group_mem, inside⟩ := grouping.covered carried earlier old
      exact ⟨group, by simp [group_mem], inside⟩
    · obtain ⟨rfl, rfl⟩ : carried = token ∧ earlier = member := by simpa using new
      exact ⟨[earlier], by simp, by simp⟩
  distinct := by
    refine List.pairwise_append.mpr ⟨grouping.distinct, by simp, ?_⟩
    intro founded founded_mem newest newest_mem present same
    obtain rfl : newest = (token, [member]) := by simpa using newest_mem
    have carried : founded.1 = token := same
    exact fresh founded founded_mem (carried ▸ present) carried

theorem Grouping.extend {token : Bytes} {member : α} {members : List (Option Bytes × α)}
    {before after : Founded α} {held : List α}
    (grouping : Grouping members (before ++ (some token, held) :: after)) :
    Grouping (members ++ [(some token, member)])
      (before ++ (some token, held ++ [member]) :: after) := by
  obtain ⟨_, rest_distinct, before_distinct⟩ := List.pairwise_append.mp grouping.distinct
  have after_distinct := (List.pairwise_cons.mp rest_distinct).1
  -- A group with another token is untouched, and so are the members that carry it.
  have others : ∀ founded, founded ∈ before ∨ founded ∈ after → founded.1 ≠ some token := by
    rintro founded (early | late) same
    · exact before_distinct founded early (some token, held) (by simp) (by simp [same]) same
    · exact after_distinct founded late rfl same.symm
  refine ⟨?_, ?_, ?_, ?_, ?_⟩
  · intro founded founded_mem
    rcases List.mem_append.mp founded_mem with early | late
    · exact grouping.inhabited founded (by simp [early])
    · rcases List.mem_cons.mp late with rfl | late
      · simp
      · exact grouping.inhabited founded (by simp [late])
  · intro group group_mem
    have old : (none, group) ∈ before ++ (some token, held) :: after := by
      simpa using group_mem
    obtain ⟨only, only_mem, rfl⟩ := grouping.alone group old
    exact ⟨only, by simp [only_mem], rfl⟩
  · intro carried group group_mem
    rcases List.mem_append.mp group_mem with early | late
    · rw [membersWith_append_other fun same => others _ (.inl early) same.symm]
      exact grouping.shared carried group (by simp [early])
    · rcases List.mem_cons.mp late with here | late
      · obtain ⟨rfl, rfl⟩ : carried = token ∧ group = held ++ [member] := by simpa using here
        rw [membersWith_append_same, ← grouping.shared carried held (by simp)]
      · rw [membersWith_append_other fun same => others _ (.inr late) same.symm]
        exact grouping.shared carried group (by simp [late])
  · intro carried earlier earlier_mem
    rcases List.mem_append.mp earlier_mem with old | new
    · obtain ⟨group, group_mem, inside⟩ := grouping.covered carried earlier old
      rcases List.mem_append.mp group_mem with early | late
      · exact ⟨group, by simp [early], inside⟩
      · rcases List.mem_cons.mp late with here | late
        · obtain ⟨rfl, rfl⟩ : carried = some token ∧ group = held := by simpa using here
          exact ⟨group ++ [member], by simp, by simp [inside]⟩
        · exact ⟨group, by simp [late], inside⟩
    · obtain ⟨rfl, rfl⟩ : carried = some token ∧ earlier = member := by simpa using new
      exact ⟨held ++ [earlier], by simp, by simp⟩
  · refine List.pairwise_append.mpr ⟨(List.pairwise_append.mp grouping.distinct).1, ?_, ?_⟩
    · exact List.pairwise_cons.mpr
        ⟨fun founded late => after_distinct founded late, (List.pairwise_cons.mp rest_distinct).2⟩
    · intro founded early other other_mem
      rcases List.mem_cons.mp other_mem with rfl | late
      · exact before_distinct founded early (some token, held) (by simp)
      · exact before_distinct founded early other (by simp [late])

theorem Grouping.join {token : Option Bytes} {member : α} {members : List (Option Bytes × α)}
    {groups : Founded α} (grouping : Grouping members groups) :
    Grouping (members ++ [(token, member)]) (join token member groups) := by
  by_cases fresh : ∀ founded ∈ groups, token.isSome → founded.1 ≠ token
  · rw [join_of_fresh token member fresh]
    exact grouping.found fresh
  · push Not at fresh
    obtain ⟨founded, founded_mem, present, carries⟩ := fresh
    obtain ⟨token, rfl⟩ := Option.isSome_iff_exists.mp present
    obtain ⟨before, held, after, rfl, _, joined⟩ :=
      join_of_found token member ⟨founded, founded_mem, carries⟩
    rw [joined]
    exact grouping.extend

/-- Adding members one by one keeps the grouping of all members so far. -/
theorem grouping_foldl (members : List (Option Bytes × α)) :
    Grouping members
      (members.foldl (fun groups member => join member.1 member.2 groups) []) := by
  induction members using List.reverseRecOn with
  | nil => exact ⟨by simp, by simp, by simp, by simp, .nil⟩
  | append_singleton members member induction =>
      rw [List.foldl_append]
      exact induction.join

/-! ## Groups of a resolved plan -/

/-- How the groups of one kind of argument are made from the entries of a table. -/
structure Selection (kind : ArgumentKind) (select : Nat × Argument → Option (Option Bytes × α))
    (place : α → Nat) : Prop where
  /-- A member stands for the position of its entry and carries its token. -/
  sound : ∀ entry token member, select entry = some (token, member) →
    entry.2.kind = kind ∧ place member = entry.1 ∧ entry.2.token? = token.map (kind, ·)
  /-- Every argument of the kind is selected. -/
  complete : ∀ entry : Nat × Argument, entry.2.kind = kind → (select entry).isSome

variable {kind : ArgumentKind} {select : Nat × Argument → Option (Option Bytes × α)}
  {place : α → Nat}

theorem Selection.ascending (selection : Selection kind select place) (table : ArgumentTable) :
    ((table.entries.filterMap select).map fun member => place member.2).Pairwise (· < ·) := by
  rw [List.pairwise_map, List.pairwise_filterMap]
  apply table.ascending.imp
  rintro left right below ⟨leftToken, leftMember⟩ leftSelected ⟨rightToken, rightMember⟩
    rightSelected
  rw [(selection.sound _ _ _ leftSelected).2.1, (selection.sound _ _ _ rightSelected).2.1]
  exact below

/-- The argument for which a member stands. -/
theorem Selection.entry (selection : Selection kind select place) {table : ArgumentTable}
    {token : Option Bytes} {member : α}
    (selected : (token, member) ∈ table.entries.filterMap select) :
    ∃ argument, table.get? (place member) = some argument ∧
      select (place member, argument) = some (token, member) ∧ argument.kind = kind ∧
        argument.token? = token.map (kind, ·) := by
  obtain ⟨⟨position, argument⟩, entry_mem, chosen⟩ := List.mem_filterMap.mp selected
  obtain ⟨of_kind, rfl, carries⟩ := selection.sound _ _ _ chosen
  exact ⟨argument, PositionMap.get?_eq_some_iff.mpr entry_mem, chosen, of_kind, carries⟩

/-- The member that stands for an argument with a token. -/
theorem Selection.member (selection : Selection kind select place) {table : ArgumentTable}
    {position : Nat} {token : Bytes}
    (carries : (table.get? position).bind Argument.token? = some (kind, token)) :
    ∃ member, place member = position ∧ (some token, member) ∈ table.entries.filterMap select := by
  obtain ⟨argument, held, argument_token⟩ := Option.bind_eq_some_iff.mp carries
  have of_kind : argument.kind = kind := by
    unfold Argument.token? at argument_token
    split at argument_token <;> cases argument_token <;> rfl
  obtain ⟨⟨found, member⟩, chosen⟩ :=
    Option.isSome_iff_exists.mp (selection.complete (position, argument) of_kind)
  obtain ⟨_, place_eq, found_token⟩ := selection.sound _ _ _ chosen
  obtain rfl : found = some token := by
    rw [argument_token] at found_token
    simpa using found_token.symm
  exact ⟨member, place_eq,
    List.mem_filterMap.mpr ⟨_, PositionMap.get?_eq_some_iff.mp held, chosen⟩⟩

/-- Each group of one kind is a class of sharing arguments. -/
theorem Selection.isAliasClass (selection : Selection kind select place) {table : ArgumentTable}
    {members : List α} (grouped : members ∈ group (table.entries.filterMap select)) :
    table.IsAliasClass (members.map place) := by
  obtain ⟨⟨founder, members⟩, founded, rfl⟩ := List.mem_map.mp grouped
  have grouping := grouping_foldl (table.entries.filterMap select)
  cases founder with
  | none =>
      obtain ⟨member, selected, rfl⟩ := grouping.alone members founded
      obtain ⟨argument, held, _, _, tokenless⟩ := selection.entry selected
      refine ⟨by simp, by simp, ?_⟩
      intro position position_mem other
      obtain rfl : position = place member := by simpa using position_mem
      have unaliased : ¬ table.Aliased (place member) other := by
        rw [ArgumentTable.aliased_iff, held]
        simp [tokenless]
      simp [ArgumentTable.Shares, unaliased]
  | some token =>
      have members_eq := grouping.shared token members founded
      have carries : ∀ position, position ∈ members.map place ↔
          (table.get? position).bind Argument.token? = some (kind, token) := by
        intro position
        constructor
        · intro position_mem
          obtain ⟨member, member_mem, rfl⟩ := List.mem_map.mp position_mem
          rw [members_eq] at member_mem
          obtain ⟨argument, held, _, _, argument_token⟩ :=
            selection.entry (mem_membersWith.mp member_mem)
          rw [held]
          exact argument_token
        · intro position_token
          obtain ⟨member, rfl, selected⟩ := selection.member position_token
          rw [members_eq]
          exact List.mem_map_of_mem (mem_membersWith.mpr selected)
      refine ⟨?_, ?_, ?_⟩
      · rw [members_eq, membersWith, List.map_map]
        exact (selection.ascending table).sublist (List.filter_sublist.map _)
      · simpa using grouping.inhabited _ founded
      · intro position position_mem other
        have position_token := (carries position).mp position_mem
        rw [carries other, ArgumentTable.Shares, ArgumentTable.aliased_iff, position_token]
        constructor
        · intro other_token
          exact .inr ⟨_, rfl, other_token⟩
        · rintro (rfl | ⟨_, same, other_token⟩)
          · exact position_token
          · exact same ▸ other_token

/-- Every argument of a kind is in a group of that kind. -/
theorem Selection.grouped (selection : Selection kind select place) {table : ArgumentTable}
    {position : Nat} {argument : Argument} (held : table.get? position = some argument)
    (of_kind : argument.kind = kind) :
    ∃ members ∈ group (table.entries.filterMap select), position ∈ members.map place := by
  obtain ⟨⟨token, member⟩, chosen⟩ :=
    Option.isSome_iff_exists.mp (selection.complete (position, argument) of_kind)
  obtain ⟨_, rfl, _⟩ := selection.sound _ _ _ chosen
  have selected : (token, member) ∈ table.entries.filterMap select :=
    List.mem_filterMap.mpr ⟨_, PositionMap.get?_eq_some_iff.mp held, chosen⟩
  obtain ⟨members, founded, inside⟩ :=
    (grouping_foldl (table.entries.filterMap select)).covered token member selected
  exact ⟨members, List.mem_map.mpr ⟨_, founded, rfl⟩, List.mem_map_of_mem inside⟩

theorem bufferSelection : Selection .buffer bufferMember? id where
  sound entry token member selected := by
    unfold bufferMember? at selected
    split at selected <;> cases selected
    cases token <;> exact ⟨rfl, rfl, rfl⟩
  complete entry of_kind := by
    obtain ⟨position, argument⟩ := entry
    cases argument <;> cases of_kind
    rfl

theorem svmSelection : Selection .svm svmMember? Prod.fst where
  sound entry token member selected := by
    unfold svmMember? at selected
    split at selected <;> cases selected
    cases token <;> exact ⟨rfl, rfl, rfl⟩
  complete entry of_kind := by
    obtain ⟨position, argument⟩ := entry
    cases argument <;> cases of_kind
    rfl

variable {table : ArgumentTable}

/-- Each buffer group of a resolved plan is a class of sharing arguments. -/
theorem isAliasClass_bufferGroup {group : BufferGroup}
    (group_mem : group ∈ (resolve table).bufferGroups) : table.IsAliasClass group.positions := by
  obtain ⟨members, grouped, rfl⟩ := List.mem_map.mp group_mem
  simpa using bufferSelection.isAliasClass grouped

/-- Each region group of a resolved plan is a class of sharing arguments. -/
theorem isAliasClass_svmGroup {group : SvmGroup}
    (group_mem : group ∈ (resolve table).svmGroups) : table.IsAliasClass group.positions := by
  obtain ⟨members, grouped, rfl⟩ := List.mem_map.mp group_mem
  exact svmSelection.isAliasClass grouped

/-- A member of some group was selected from the table. -/
theorem exists_selected_of_mem_group {members : List (Option Bytes × α)} {grouped : List α}
    {member : α} (grouped_mem : grouped ∈ group members) (member_mem : member ∈ grouped) :
    ∃ token, (token, member) ∈ members := by
  obtain ⟨⟨founder, _⟩, founded, rfl⟩ := List.mem_map.mp grouped_mem
  have grouping := grouping_foldl members
  cases founder with
  | none =>
      obtain ⟨only, only_mem, rfl⟩ := grouping.alone _ founded
      obtain rfl : member = only := by simpa using member_mem
      exact ⟨none, only_mem⟩
  | some token =>
      have grouped_eq := grouping.shared token _ founded
      exact ⟨some token, mem_membersWith.mp (grouped_eq ▸ member_mem)⟩

theorem buffer_of_mem_bufferGroup {group : BufferGroup} {position : Nat}
    (group_mem : group ∈ (resolve table).bufferGroups) (inside : position ∈ group.positions) :
    ∃ identity preState, table.get? position = some (.buffer identity preState) := by
  obtain ⟨members, grouped, rfl⟩ := List.mem_map.mp group_mem
  obtain ⟨token, selected⟩ := exists_selected_of_mem_group grouped inside
  obtain ⟨argument, held, _, of_kind, _⟩ := bufferSelection.entry selected
  cases argument <;> cases of_kind
  exact ⟨_, _, held⟩

/-- A member of a region group is bound at its own offset. -/
theorem svm_of_mem_svmGroup {group : SvmGroup} {position offset : Nat}
    (group_mem : group ∈ (resolve table).svmGroups) (inside : (position, offset) ∈ group.members) :
    ∃ identity preState, table.get? position = some (.svm identity preState offset) := by
  obtain ⟨members, grouped, rfl⟩ := List.mem_map.mp group_mem
  obtain ⟨token, selected⟩ := exists_selected_of_mem_group grouped inside
  obtain ⟨argument, held, chosen, of_kind, _⟩ := svmSelection.entry selected
  cases argument <;> cases of_kind
  cases chosen
  exact ⟨_, _, held⟩

theorem exists_bufferGroup {position : Nat} {identity : Option Bytes} {preState : Bytes}
    (held : table.get? position = some (.buffer identity preState)) :
    ∃ group ∈ (resolve table).bufferGroups, position ∈ group.positions := by
  obtain ⟨members, grouped, inside⟩ := bufferSelection.grouped held rfl
  exact ⟨⟨members⟩, List.mem_map.mpr ⟨members, grouped, rfl⟩, by simpa using inside⟩

theorem exists_svmGroup {position offset : Nat} {identity : Option Bytes} {preState : Bytes}
    (held : table.get? position = some (.svm identity preState offset)) :
    ∃ group ∈ (resolve table).svmGroups, position ∈ group.positions := by
  obtain ⟨members, grouped, inside⟩ := svmSelection.grouped held rfl
  exact ⟨⟨members⟩, List.mem_map.mpr ⟨members, grouped, rfl⟩, inside⟩

end AliasPlan

end LaunchReplay
