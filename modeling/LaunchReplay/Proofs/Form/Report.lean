import LaunchReplay.Form.Validation
import LaunchReplay.Proofs.Json.RoundTrip

/-!
# Reports are read back from their text

A record is read back from its form because its fields have different names, and each field is read
back in turn. So the text of a report denotes the report, whatever it holds and whatever its verdict
is.
-/

namespace LaunchReplay

open Text

namespace Json

variable {α : Type}

/-! ## Numbers, lists and records -/

theorem natural?_natural {number bound : Nat} (below : number < bound) :
    (natural number).natural? bound = some number :=
  natural?_toDigits below

theorem list?_list {write : α → Json} {read : Json → Option α} {values : List α}
    (back : ∀ value ∈ values, read (write value) = some value) :
    list? read (list write values) = some values := by
  change (values.map write).mapM read = some values
  induction values with
  | nil => rfl
  | cons value values induction =>
      rw [List.map_cons, List.mapM_cons, back value (by simp),
        induction fun other other_mem => back other (by simp [other_mem])]
      rfl

theorem naturals?_naturals {numbers : List Nat} {bound : Nat}
    (below : ∀ number ∈ numbers, number < bound) :
    (naturals numbers).naturals? bound = some numbers :=
  list?_list fun number number_mem => natural?_natural (below number number_mem)

/-- The fields of a record are added one by one, since no name was there before. -/
theorem foldlM_addField {names : List String} {members : List (String × Json)}
    (fields : List (String × Json)) (named : ∀ member ∈ members, member.1 ∈ names)
    (distinct : ((fields ++ members).map (·.1)).Nodup) :
    (members.map fun member => (escape member.1.toList, member.2)).foldlM (addField names) fields =
      some (members.reverse ++ fields) := by
  induction members generalizing fields with
  | nil => rfl
  | cons member members induction =>
      have absent : fields.lookup member.1 = none := by
        rw [List.map_append, List.map_cons] at distinct
        have apart := (List.nodup_append.mp distinct).2.2
        refine List.lookup_eq_none_iff.mpr fun field field_mem => bne_iff_ne.mpr fun same => ?_
        exact apart field.1 (List.mem_map_of_mem field_mem) member.1 List.mem_cons_self same.symm
      have added : addField names fields (escape member.1.toList, member.2) =
          some (member :: fields) := by
        simp [addField, named member List.mem_cons_self, absent]
      have shifted : ((member :: fields ++ members).map (·.1)).Nodup :=
        (List.perm_middle.map _).nodup_iff.mp distinct
      rw [List.map_cons, List.foldlM_cons, added]
      change List.foldlM (addField names) (member :: fields) _ = _
      rw [induction (member :: fields) (fun other other_mem =>
        named other (List.mem_cons_of_mem _ other_mem)) shifted]
      simp

/-- A record is read back from its form, its fields in the reverse order. -/
@[simp]
theorem record?_record {names : List String} {members : List (String × Json)}
    (named : members.map (·.1) = names) (distinct : names.Nodup) :
    record? names (record members) = some ⟨members.reverse⟩ := by
  subst named
  have named : ∀ member ∈ members, member.1 ∈ members.map (·.1) := fun member member_mem =>
    List.mem_map_of_mem member_mem
  have added := foldlM_addField [] named distinct
  rw [List.append_nil] at added
  rw [record, record?, added]
  rfl

@[simp]
theorem Record.get?_cons (key name : String) (json : Json) (fields : List (String × Json)) :
    (Record.mk ((key, json) :: fields)).get? name =
      if name = key then some json else (Record.mk fields).get? name := by
  by_cases same : name = key
  · simp [get?, same]
  · simp [get?, List.lookup_cons, same, beq_false_of_ne same]

@[simp]
theorem variant?_variant (name : String) (payload : Json) :
    variant? (variant name payload) = some (name, some payload) := by
  simp [variant, record, variant?]

/-- The name of an alternative denotes its value. -/
theorem alternative?_text (alternatives : List (String × α)) (name : String) :
    alternative? alternatives (text name) = alternatives.lookup name := by
  simp [alternative?, text, variant?, nothing?]

@[simp]
theorem optional?_toJson (value : Option String) :
    optional? ofJson? (toJson value) = some value := by
  cases value with
  | none => rfl
  | some value => exact congrArg (Option.map some) (text?_text value)

/-! ## What forms write -/

attribute [simp] Written.null Written.bool Written.natural Written.text

@[simp]
theorem Written.record {members : List (String × Json)}
    (each : ∀ member ∈ members, member.2.Written) : (record members).Written := by
  refine .object (fun member member_mem => ?_) fun member member_mem => ?_
  · obtain ⟨named, _, rfl⟩ := List.mem_map.mp member_mem
    exact ⟨named.1.toList, rfl⟩
  · obtain ⟨named, named_mem, rfl⟩ := List.mem_map.mp member_mem
    exact each named named_mem

theorem Written.list {write : α → Json} {values : List α}
    (each : ∀ value ∈ values, (write value).Written) : (list write values).Written := by
  refine .array fun item item_mem => ?_
  obtain ⟨value, value_mem, rfl⟩ := List.mem_map.mp item_mem
  exact each value value_mem

@[simp]
theorem written_naturals (numbers : List Nat) : (naturals numbers).Written :=
  .list fun number _ => .natural number

@[simp]
theorem written_optional (value : Option String) : (toJson value).Written := by
  cases value with
  | none => exact .null
  | some value => exact .text value

end Json

@[simp]
theorem written_text (text : String) : (toJson text).Written := .text text

@[simp]
theorem written_bool (value : Bool) : (toJson value).Written := .bool value

@[simp]
theorem ofJson?_toJson_text (text : String) : ofJson? (toJson text) = some text :=
  Json.text?_text text

@[simp]
theorem ofJson?_toJson_bool (value : Bool) : ofJson? (toJson value) = some value := rfl

/-! ## Notices -/

namespace Notice

/-- Whether the numbers of a notice are in their range. -/
def InWords : Notice → Prop
  | aliasGroup positions | svmForced positions => ∀ position ∈ positions, position < word32
  | imageTypeFallback position code => position < word32 ∧ code < word32
  | validationMismatch position _ => position < word32
  | binaryRejected _ _ | optionalMetadataAbsent _ => True

theorem readPositions?_positionsForm {positions : List Nat}
    (inWords : ∀ position ∈ positions, position < word32) :
    readPositions? (positionsForm positions) = some positions := by
  simp [readPositions?, positionsForm, Json.Record.required, Json.naturals?_naturals inWords]

/-- A notice is read back from its form. -/
theorem ofJson?_toJson {notice : Notice} (inWords : notice.InWords) :
    ofJson? (toJson notice) = some notice := by
  cases notice
  -- Only the form of the notice is opened here, those of its fields are not.
  all_goals change Option.bind (Json.variant? (Json.variant _ _)) _ = _
  case aliasGroup | svmForced => simp [readPositions?_positionsForm inWords]
  case imageTypeFallback position code =>
    have position_back := Json.natural?_natural inWords.1
    have code_back := Json.natural?_natural inWords.2
    simp [Json.Record.required, position_back, code_back]
  case binaryRejected | optionalMetadataAbsent => simp [Json.Record.required]
  case validationMismatch position dataType =>
    have position_back := Json.natural?_natural inWords
    simp [Json.Record.required, Json.Record.optional, position_back]

theorem written (notice : Notice) : (toJson notice).Written := by
  cases notice <;> change Json.Written (Json.record _) <;> simp [positionsForm]

end Notice

/-! ## Reports -/

theorem PositionCheck.written (check : PositionCheck) : (toJson check).Written := by
  change Json.Written (Json.record _)
  simp

theorem PositionCheck.ofJson?_toJson {check : PositionCheck} (inWords : check.position < word32) :
    ofJson? (toJson check) = some check := by
  change Option.bind (Json.record? _ (Json.record _)) _ = _
  simp [Json.Record.required, Json.Record.optional, Json.natural?_natural inWords]

namespace ValidationReport

/-- Whether the numbers of a report are in their ranges. -/
structure InWords (report : ValidationReport) : Prop where
  /-- The enqueue index is a 64-bit word. -/
  enqueue : report.enqueue.index < word64
  /-- The positions of the checks are 32-bit words. -/
  checks : ∀ check ∈ report.checks, check.position < word32
  /-- So are the numbers of the notices. -/
  notices : ∀ notice ∈ report.notices, notice.InWords

/-- A report is read back from its form. -/
theorem ofJson?_toJson {report : ValidationReport} (inWords : report.InWords) :
    ofJson? (toJson report) = some report := by
  have enqueue : ofJson? (toJson report.enqueue) = some report.enqueue :=
    congrArg (Option.map Enqueue.mk) (Json.natural?_natural inWords.enqueue)
  have checks : ofJson? (toJson report.checks) = some report.checks :=
    Json.list?_list fun check check_mem =>
      PositionCheck.ofJson?_toJson (inWords.checks check check_mem)
  have verdict : ofJson? (toJson report.verdict) = some report.verdict := by
    cases report.verdict <;> exact Json.alternative?_text _ _
  have log : ofJson? (toJson report.notices) = some report.notices :=
    Json.list?_list fun notice notice_mem =>
      Notice.ofJson?_toJson (inWords.notices notice notice_mem)
  have notices : Notice.readLog? (Notice.logForm report.notices) = some report.notices := by
    simp [Notice.readLog?, Notice.logForm, Json.Record.required, log]
  change Option.bind (Json.record? _ (Json.record _)) _ = _
  simp [Json.Record.required, enqueue, checks, verdict, notices]

theorem written (report : ValidationReport) : (toJson report).Written := by
  have enqueue : (toJson report.enqueue).Written := .natural _
  have checks : (toJson report.checks).Written := .list fun check _ => check.written
  have verdict : (toJson report.verdict).Written := by cases report.verdict <;> exact .text _
  have notices : (toJson report.notices).Written := .list fun notice _ => notice.written
  change Json.Written (Json.record _)
  simp [enqueue, checks, verdict, Notice.logForm, notices]

/-- A report is read back from its text as it is, with the verdict that it was written with. -/
theorem read_jsonText (report : ValidationReport) (inWords : report.InWords) :
    (Json.read report.jsonText).bind ofJson? = some report := by
  rw [jsonText, report.written.read_indentedText]
  exact ofJson?_toJson inWords

/-- A report on the last enqueue with every kind of notice and with texts that need escapes. Its
verdict is not the one that its checks give. -/
def crowded : ValidationReport where
  enqueue := ⟨word64 - 1⟩
  checks :=
    [⟨0, some "aa", none, false, some "float \"*\"\t"⟩, ⟨word32 - 1, none, some "", true, none⟩]
  verdict := .allEqual
  notices :=
    [.aliasGroup [], .svmForced [0, word32 - 1], .imageTypeFallback 3 (word32 - 1),
      .binaryRejected "a\\b/\x7f.bin" "line\r\n\x00\x1f \u20ac \ud7ff",
      .optionalMetadataAbsent "", .validationMismatch 0 none,
      .validationMismatch 1 (some "null")]

theorem read_jsonText_crowded :
    crowded.InWords ∧ (Json.read crowded.jsonText).bind ofJson? = some crowded := by
  have inWords : crowded.InWords := by
    refine ⟨by decide, by decide, ?_⟩
    simp [crowded, Notice.InWords, word32]
  exact ⟨inWords, read_jsonText crowded inWords⟩

end ValidationReport

end LaunchReplay
