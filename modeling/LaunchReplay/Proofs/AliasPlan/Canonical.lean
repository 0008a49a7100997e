import LaunchReplay.Proofs.AliasPlan

/-!
# The canonical plan

A table has exactly one plan whose groups are the classes of arguments of one kind with one token,
in canonical order: members ascending within a group, groups ascending by their first members. This
is the plan into which the table is resolved.
-/

namespace LaunchReplay

namespace ArgumentTable

/-- Whether the argument at a position is of a kind. -/
def HasKind (table : ArgumentTable) (kind : ArgumentKind) (position : Nat) : Prop :=
  (table.get? position).map Argument.kind = some kind

/-- The identity token that the argument at a position carries, if any. -/
def identity? (table : ArgumentTable) (position : Nat) : Option Bytes :=
  match table.get? position with
  | some (.buffer identity _) => identity
  | some (.svm identity _ _) => identity
  | _ => none

theorem hasKind_iff {table : ArgumentTable} {kind : ArgumentKind} {position : Nat} :
    table.HasKind kind position ↔
      ∃ argument, table.get? position = some argument ∧ argument.kind = kind :=
  Option.map_eq_some_iff

/-- Within one kind a token is told by its bytes alone. -/
theorem HasKind.bind_token? {table : ArgumentTable} {kind : ArgumentKind} {position : Nat}
    (of_kind : table.HasKind kind position) :
    (table.get? position).bind Argument.token? = (table.identity? position).map (kind, ·) := by
  obtain ⟨argument, held, rfl⟩ := hasKind_iff.mp of_kind
  rw [identity?, held]
  rcases argument with _ | ⟨identity, _⟩ | ⟨identity, _, _⟩ | _ | _ | _
  case buffer | svm => cases identity <;> rfl
  all_goals rfl

/-- Two arguments of one kind share an allocation exactly if they are one or carry one token. -/
theorem shares_iff {table : ArgumentTable} {kind : ArgumentKind} {left right : Nat}
    (left_kind : table.HasKind kind left) (right_kind : table.HasKind kind right) :
    table.Shares left right ↔ left = right ∨
      ∃ token, table.identity? left = some token ∧ table.identity? right = some token := by
  rw [Shares, aliased_iff, left_kind.bind_token?, right_kind.bind_token?]
  refine or_congr eq_comm ⟨?_, ?_⟩
  · rintro ⟨token, left_token, right_token⟩
    obtain ⟨bytes, left_bytes, rfl⟩ := Option.map_eq_some_iff.mp left_token
    obtain ⟨same, right_bytes, pair⟩ := Option.map_eq_some_iff.mp right_token
    cases pair
    exact ⟨bytes, left_bytes, right_bytes⟩
  · rintro ⟨bytes, left_bytes, right_bytes⟩
    exact ⟨(kind, bytes), by rw [left_bytes]; rfl, by rw [right_bytes]; rfl⟩

/-- The offset at which the region at a position is bound, if there is one. -/
def offset? (table : ArgumentTable) (position : Nat) : Option Nat :=
  match table.get? position with
  | some (.svm _ _ offset) => some offset
  | _ => none

/-- Whether groups of positions are the identity partition of the arguments of one kind, in
canonical form. -/
structure Partitions (table : ArgumentTable) (kind : ArgumentKind) (groups : List (List Nat)) :
    Prop where
  /-- No group is empty. -/
  nonempty : ∀ group ∈ groups, group ≠ []
  /-- The members of a group ascend. -/
  ascending : ∀ group ∈ groups, group.Pairwise (· < ·)
  /-- The members of all groups are the positions of the arguments of the kind. -/
  members : ∀ position, position ∈ groups.flatten ↔ table.HasKind kind position
  /-- No position occurs twice. -/
  once : groups.flatten.Nodup
  /-- Two positions are in one group exactly if they are the same or carry the same token. -/
  together : ∀ left right, table.HasKind kind left → table.HasKind kind right →
    ((∃ group ∈ groups, left ∈ group ∧ right ∈ group) ↔
      left = right ∨
        ∃ token, table.identity? left = some token ∧ table.identity? right = some token)
  /-- The first members of the groups ascend. -/
  ordered : groups.Pairwise fun left right =>
    ∀ first ∈ left.head?, ∀ second ∈ right.head?, first < second

namespace Partitions

variable {table : ArgumentTable} {kind : ArgumentKind} {groups others : List (List Nat)}
  {group : List Nat}

/-- The members of a group are known from any one of them. -/
theorem mem_iff (partition : table.Partitions kind groups) (group_mem : group ∈ groups)
    {position : Nat} (inside : position ∈ group) (other : Nat) :
    other ∈ group ↔ table.HasKind kind other ∧ (position = other ∨
      ∃ token, table.identity? position = some token ∧ table.identity? other = some token) := by
  have of_kind : ∀ member ∈ group, table.HasKind kind member := fun member member_mem =>
    (partition.members member).mp (List.mem_flatten_of_mem group_mem member_mem)
  constructor
  · intro other_mem
    exact ⟨of_kind other other_mem, (partition.together _ _ (of_kind _ inside)
      (of_kind _ other_mem)).mp ⟨group, group_mem, inside, other_mem⟩⟩
  · rintro ⟨other_kind, shared⟩
    obtain ⟨found, found_mem, position_mem, other_mem⟩ :=
      (partition.together _ _ (of_kind _ inside) other_kind).mpr shared
    have symmetric : Std.Symm fun left right : List Nat => left.Disjoint right :=
      ⟨fun _ _ apart _ there here => apart here there⟩
    have same : found = group := by
      by_contra different
      exact (List.nodup_flatten.mp partition.once).2.forall found_mem group_mem different
        position_mem inside
    exact same ▸ other_mem

theorem mem_of_mem (partition : table.Partitions kind groups)
    (other_partition : table.Partitions kind others) (group_mem : group ∈ groups) :
    group ∈ others := by
  obtain ⟨position, inside⟩ := List.exists_mem_of_ne_nil _ (partition.nonempty group group_mem)
  have listed : position ∈ others.flatten := (other_partition.members position).mpr
    ((partition.members position).mp (List.mem_flatten_of_mem group_mem inside))
  obtain ⟨other, other_mem, other_inside⟩ := List.mem_flatten.mp listed
  have same : group = other := by
    apply (partition.ascending group group_mem).eq_of_mem_iff
      (other_partition.ascending other other_mem)
    intro member
    rw [partition.mem_iff group_mem inside, other_partition.mem_iff other_mem other_inside]
  exact same ▸ other_mem

theorem nodup (partition : table.Partitions kind groups) : groups.Nodup := by
  refine partition.ordered.imp_of_mem fun {left right} left_mem _ below same => ?_
  subst same
  obtain ⟨first, rest, rfl⟩ := List.exists_cons_of_ne_nil (partition.nonempty left left_mem)
  exact Nat.lt_irrefl first (below first rfl first rfl)

/-- The arguments of a kind have one partition in canonical form. -/
theorem unique (partition : table.Partitions kind groups)
    (other_partition : table.Partitions kind others) : groups = others := by
  have same : groups.Perm others :=
    (List.perm_ext_iff_of_nodup partition.nodup other_partition.nodup).mpr fun group =>
      ⟨partition.mem_of_mem other_partition, other_partition.mem_of_mem partition⟩
  refine List.Perm.eq_of_pairwise (fun left right left_mem right_mem before after => ?_)
    partition.ordered other_partition.ordered same
  obtain ⟨first, _, rfl⟩ := List.exists_cons_of_ne_nil (partition.nonempty left left_mem)
  obtain ⟨second, _, rfl⟩ := List.exists_cons_of_ne_nil (other_partition.nonempty right right_mem)
  exact absurd (before first rfl second rfl) (Nat.lt_asymm (after second rfl first rfl))

end Partitions

end ArgumentTable

namespace AliasPlan

variable {α : Type} {table : ArgumentTable}

/-! ## Grouping keeps the order of members -/

/-- A member is added to the groups, and nothing else. -/
theorem perm_join (token : Option Bytes) (member : α) (groups : Founded α) :
    ((join token member groups).map (·.2)).flatten.Perm
      ((groups.map (·.2)).flatten ++ [member]) := by
  induction groups with
  | nil => exact List.Perm.refl _
  | cons founded rest induction =>
      obtain ⟨founder, group⟩ := founded
      rw [join]
      split
      · simp only [List.map_cons, List.flatten_cons, List.append_assoc]
        exact List.perm_append_comm.append_left group
      · simp only [List.map_cons, List.flatten_cons, List.append_assoc]
        exact induction.append_left group

/-- Every member is in one group. -/
theorem perm_group (members : List (Option Bytes × α)) :
    (group members).flatten.Perm (members.map (·.2)) := by
  unfold group
  induction members using List.reverseRecOn with
  | nil => exact List.Perm.refl _
  | append_singleton members member induction =>
      rw [List.foldl_append, List.map_append]
      exact (perm_join member.1 member.2 _).trans (induction.append_right _)

/-- The first members of the groups are in the order of the members. -/
theorem heads_sublist (members : List (Option Bytes × α)) :
    ((group members).filterMap List.head?).Sublist (members.map (·.2)) := by
  unfold group
  induction members using List.reverseRecOn with
  | nil => exact List.Sublist.refl _
  | append_singleton members added induction =>
      obtain ⟨token, member⟩ := added
      have grouping := grouping_foldl members
      rw [List.foldl_append, List.map_append]
      generalize members.foldl (fun groups member => join member.1 member.2 groups) [] = groups
        at grouping induction
      change (((join token member groups).map (·.2)).filterMap List.head?).Sublist
        (members.map (·.2) ++ [member])
      by_cases fresh : ∀ founded ∈ groups, token.isSome → founded.1 ≠ token
      · rw [join_of_fresh token member fresh, List.map_append, List.filterMap_append]
        exact induction.append (List.Sublist.refl _)
      · push Not at fresh
        obtain ⟨founded, founded_mem, present, carries⟩ := fresh
        obtain ⟨token, rfl⟩ := Option.isSome_iff_exists.mp present
        obtain ⟨before, held, after, rfl, _, joined⟩ :=
          join_of_found token member ⟨founded, founded_mem, carries⟩
        -- The group that takes the member has a first member already.
        have head_eq : (held ++ [member]).head? = held.head? :=
          List.head?_append_of_ne_nil _ (grouping.inhabited (some token, held) (by simp))
        have heads_eq :
            ((before ++ (some token, held ++ [member]) :: after).map (·.2)).filterMap List.head? =
              ((before ++ (some token, held) :: after).map (·.2)).filterMap List.head? := by
          simp only [List.map_append, List.map_cons, List.filterMap_append, List.filterMap_cons,
            head_eq]
        rw [joined, heads_eq]
        exact induction.trans (List.sublist_append_left _ _)

/-! ## The groups of a plan -/

section Classes

variable {kind : ArgumentKind} {select : Nat × Argument → Option (Option Bytes × α)}
  {place : α → Nat}

/-- The groups that are made of the arguments of one kind, as positions. -/
def classes (select : Nat × Argument → Option (Option Bytes × α)) (place : α → Nat)
    (table : ArgumentTable) : List (List Nat) :=
  (group (table.entries.filterMap select)).map fun members => members.map place

theorem Selection.isAliasClass_of_mem (selection : Selection kind select place)
    {positions : List Nat} (positions_mem : positions ∈ classes select place table) :
    table.IsAliasClass positions := by
  obtain ⟨members, grouped, rfl⟩ := List.mem_map.mp positions_mem
  exact selection.isAliasClass grouped

theorem Selection.mem_flatten_classes_iff (selection : Selection kind select place)
    {position : Nat} :
    position ∈ (classes select place table).flatten ↔ table.HasKind kind position := by
  rw [ArgumentTable.hasKind_iff]
  constructor
  · intro inside
    obtain ⟨positions, positions_mem, inside⟩ := List.mem_flatten.mp inside
    obtain ⟨members, grouped, rfl⟩ := List.mem_map.mp positions_mem
    obtain ⟨member, member_mem, rfl⟩ := List.mem_map.mp inside
    obtain ⟨token, selected⟩ := exists_selected_of_mem_group grouped member_mem
    obtain ⟨argument, held, _, of_kind, _⟩ := selection.entry selected
    exact ⟨argument, held, of_kind⟩
  · rintro ⟨argument, held, of_kind⟩
    obtain ⟨members, grouped, inside⟩ := selection.grouped held of_kind
    exact List.mem_flatten_of_mem (List.mem_map_of_mem grouped) inside

theorem Selection.nodup_flatten_classes (selection : Selection kind select place)
    (table : ArgumentTable) : (classes select place table).flatten.Nodup := by
  have reordered := (perm_group (table.entries.filterMap select)).map place
  rw [List.map_flatten, List.map_map] at reordered
  exact reordered.nodup_iff.mpr ((selection.ascending table).imp Nat.ne_of_lt)

theorem Selection.ordered_classes (selection : Selection kind select place)
    (table : ArgumentTable) :
    (classes select place table).Pairwise fun left right =>
      ∀ first ∈ left.head?, ∀ second ∈ right.head?, first < second := by
  have heads := (heads_sublist (table.entries.filterMap select)).map place
  rw [List.map_filterMap, List.map_map] at heads
  have ascending := (selection.ascending table).sublist heads
  rw [List.pairwise_filterMap] at ascending
  refine List.pairwise_map.mpr (ascending.imp fun {left right} below => ?_)
  simpa only [List.head?_map, Option.mem_def] using below

/-- The groups of one kind partition the arguments of the kind. -/
theorem Selection.partitions (selection : Selection kind select place) (table : ArgumentTable) :
    table.Partitions kind (classes select place table) where
  nonempty _ positions_mem := (selection.isAliasClass_of_mem positions_mem).nonempty
  ascending _ positions_mem := (selection.isAliasClass_of_mem positions_mem).ascending
  members _ := selection.mem_flatten_classes_iff
  once := selection.nodup_flatten_classes table
  together left right left_kind right_kind := by
    rw [← ArgumentTable.shares_iff left_kind right_kind]
    constructor
    · rintro ⟨positions, positions_mem, left_mem, right_mem⟩
      have is_class := selection.isAliasClass_of_mem positions_mem
      exact (is_class.closed left left_mem right).mp right_mem
    · intro shares
      obtain ⟨positions, positions_mem, left_mem⟩ :=
        List.mem_flatten.mp (selection.mem_flatten_classes_iff.mpr left_kind)
      have is_class := selection.isAliasClass_of_mem positions_mem
      exact ⟨positions, positions_mem, left_mem,
        (is_class.closed left left_mem right).mpr shares⟩
  ordered := selection.ordered_classes table

end Classes

/-- A plan that partitions a table by identity token, in canonical form. -/
structure IsCanonical (table : ArgumentTable) (plan : AliasPlan) : Prop where
  /-- The buffers are partitioned. -/
  buffers : table.Partitions .buffer (plan.bufferGroups.map BufferGroup.positions)
  /-- The regions are partitioned, apart from the buffers. -/
  regions : table.Partitions .svm (plan.svmGroups.map SvmGroup.positions)
  /-- Every member of a region group has its own offset. -/
  offsets : ∀ group ∈ plan.svmGroups, ∀ member ∈ group.members,
    ∃ identity preState, table.get? member.1 = some (.svm identity preState member.2)
  /-- There is one notice per group with several members, buffers first. -/
  notices : plan.notices =
    ((plan.bufferGroups.map BufferGroup.positions ++
      plan.svmGroups.map SvmGroup.positions).filter fun positions =>
        decide (2 ≤ positions.length)).map Notice.aliasGroup

/-- The plan into which a table is resolved is canonical. -/
theorem isCanonical_resolve (table : ArgumentTable) : IsCanonical table (resolve table) where
  buffers := by
    have partition := bufferSelection.partitions table
    simpa [resolve, classes, Function.comp_def] using partition
  regions := by
    have partition := svmSelection.partitions table
    simpa [resolve, classes, Function.comp_def, SvmGroup.positions] using partition
  offsets _ group_mem _ member_mem := svm_of_mem_svmGroup group_mem member_mem
  notices := by
    have buffers : BufferGroup.isAliased =
        (fun positions => decide (2 ≤ positions.length)) ∘ BufferGroup.positions := rfl
    have regions : SvmGroup.isAliased =
        (fun positions => decide (2 ≤ positions.length)) ∘ SvmGroup.positions := by
      funext group
      simp [SvmGroup.isAliased, SvmGroup.positions, Nat.succ_le_iff]
    rw [List.filter_append, List.filter_map, List.filter_map, List.map_append, List.map_map,
      List.map_map, ← buffers, ← regions]
    rfl

namespace IsCanonical

variable {plan other : AliasPlan}

/-- The groups of regions are known from the positions of their members. -/
theorem svmGroups_eq (canonical : IsCanonical table plan) :
    plan.svmGroups = (plan.svmGroups.map SvmGroup.positions).map fun positions =>
      ⟨positions.filterMap fun position => (table.offset? position).map (position, ·)⟩ := by
  rw [List.map_map]
  refine (List.map_id' plan.svmGroups).symm.trans (List.map_congr_left fun group group_mem => ?_)
  have own : ∀ member ∈ group.members,
      (table.offset? member.1).map (member.1, ·) = some member := by
    intro member member_mem
    obtain ⟨identity, preState, held⟩ := canonical.offsets group group_mem member member_mem
    rw [ArgumentTable.offset?, held]
    rfl
  have members_eq : group.positions.filterMap
      (fun position => (table.offset? position).map (position, ·)) = group.members := by
    rw [SvmGroup.positions, List.filterMap_map]
    exact (List.filterMap_congr own).trans List.filterMap_some
  exact congrArg SvmGroup.mk members_eq.symm

/-- A table has one canonical plan. -/
theorem unique (canonical : IsCanonical table plan) (other_canonical : IsCanonical table other) :
    plan = other := by
  have positions_injective : Function.Injective BufferGroup.positions :=
    fun ⟨_⟩ ⟨_⟩ same => congrArg BufferGroup.mk same
  have buffers_eq : plan.bufferGroups = other.bufferGroups :=
    List.map_injective_iff.mpr positions_injective
      (canonical.buffers.unique other_canonical.buffers)
  have regions_eq : plan.svmGroups = other.svmGroups := by
    rw [canonical.svmGroups_eq, other_canonical.svmGroups_eq,
      canonical.regions.unique other_canonical.regions]
  have notices_eq : plan.notices = other.notices := by
    rw [canonical.notices, other_canonical.notices, buffers_eq, regions_eq]
  cases plan
  cases other
  cases buffers_eq
  cases regions_eq
  cases notices_eq
  rfl

end IsCanonical

/-- The plan into which a table is resolved is its one canonical plan. -/
theorem eq_resolve_iff (table : ArgumentTable) (plan : AliasPlan) :
    plan = resolve table ↔ IsCanonical table plan := by
  constructor
  · rintro rfl
    exact isCanonical_resolve table
  · intro canonical
    exact canonical.unique (isCanonical_resolve table)

/-- An empty token is a token, and a region never joins a buffer. -/
example :
    let plan := resolve (.ofList [(0, .buffer (some []) []), (1, .svm (some []) [] 8),
      (2, .buffer none []), (3, .buffer (some []) []), (4, .buffer none [])])
    plan.bufferGroups = [⟨[0, 3]⟩, ⟨[2]⟩, ⟨[4]⟩] ∧ plan.svmGroups = [⟨[(1, 8)]⟩] ∧
      plan.notices = [.aliasGroup [0, 3]] := by
  decide

end AliasPlan

end LaunchReplay
