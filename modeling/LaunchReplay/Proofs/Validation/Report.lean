import LaunchReplay.Proofs.Capture.Scan
import LaunchReplay.Proofs.Validation.Compare

/-!
# What a report says of the files

A comparison that ends without an error is exactly that of the digests of all files on both sides:
one check for each position that either side has, a digest in it for the one file that matches
there, and notices, mismatches and verdict that follow from the checks.
-/

namespace LaunchReplay

/-! ## Digests as text -/

theorem Bytes.hexPair_injective : Function.Injective Bytes.hexPair := by
  intro byte other same
  have digits : ∀ left < 16, ∀ right < 16, Nat.digitChar left = Nat.digitChar right →
      left = right := by decide
  have below := byte.toNat_lt
  have other_below := other.toNat_lt
  simp only [hexPair, List.cons.injEq, and_true] at same
  have high := digits _ (by omega) _ (by omega) same.1
  have low := digits _ (by omega) _ (by omega) same.2
  apply UInt8.toNat_inj.mp
  omega

theorem Bytes.hex_injective : Function.Injective Bytes.hex := by
  intro bytes other same
  replace same : bytes.flatMap hexPair = other.flatMap hexPair := String.ofList_inj.mp same
  induction bytes generalizing other with
  | nil =>
      cases other with
      | nil => rfl
      | cons byte rest => simp [hexPair] at same
  | cons byte rest induction =>
      cases other with
      | nil => simp [hexPair] at same
      | cons byte' rest' =>
          rw [List.flatMap_cons, List.flatMap_cons] at same
          obtain ⟨pair_eq, rest_eq⟩ := List.append_inj same rfl
          rw [hexPair_injective pair_eq, induction rest_eq]

theorem Digest.hex_injective : Function.Injective Digest.hex := by
  rintro ⟨bytes, _⟩ ⟨other, _⟩ same
  cases Bytes.hex_injective same
  rfl

/-! ## Argument types -/

/-- A line has tokens exactly if it is not blank. -/
theorem Text.tokens_ne_nil_iff {line : List Char} :
    tokens line ≠ [] ↔ ∃ letter ∈ line, isBlank letter = false := by
  fun_induction tokens line with
  | case1 => simp
  | case2 letter rest blank induction => simp [induction, blank]
  | case3 letter visible => simp [visible]
  | case4 => simp_all
  | case5 => simp_all
  | case6 => simp_all

namespace ArgumentTypes

theorem get?_parse {text type : String} {position : Nat} :
    (parse text).get? position = some type ↔
      ∃ line, (Text.lines text.toList)[position]? = some line ∧
        (∃ letter ∈ line, Text.isBlank letter = false) ∧
          String.intercalate " " ((Text.tokens line).map String.ofList) = type := by
  simp only [← Text.tokens_ne_nil_iff, get?, parse, List.getElem?_map]
  cases (Text.lines text.toList)[position]? with
  | none => simp
  | some line =>
      cases tokens_eq : Text.tokens line with
      | nil => simp [tokens_eq]
      | cons token rest => simp [tokens_eq]

theorem lookup_of_readText_notFound {tree : FileTree} {path : Path}
    (absent : tree.readText path = .error .notFound) : tree.lookup path = .error .notFound := by
  rcases Outcome.bind_error.mp absent with absent | ⟨content, _, absent⟩
  · rcases Outcome.bind_error.mp absent with absent | ⟨entry, _, absent⟩
    · exact absent
    · cases entry <;> cases absent
  · split at absent <;> cases absent

theorem lookup_ne_notFound_of_readText {tree : FileTree} {path : Path} {text : String}
    (read : tree.readText path = .ok text) : tree.lookup path ≠ .error .notFound := by
  obtain ⟨_, read, _⟩ := Outcome.bind_ok.mp read
  obtain ⟨_, found, _⟩ := Outcome.bind_ok.mp read
  rw [found]
  exact nofun

/-- The file of argument types is not there, or it is read as text. -/
theorem read_ok {tree : FileTree} {path : Path} {types : Option ArgumentTypes}
    (run : read tree path = .ok types) :
    (types = none ∧ tree.lookup path = .error .notFound) ∨
      ∃ text, types = some (parse text) ∧ tree.readText path = .ok text := by
  rw [read, Artifact.text] at run
  cases found : tree.readText path with
  | ok text =>
      rw [found] at run
      cases run
      exact .inr ⟨text, rfl, rfl⟩
  | error reason =>
      rw [found] at run
      cases reason with
      | notFound =>
          cases run
          exact .inl ⟨rfl, lookup_of_readText_notFound found⟩
      | _ => cases run

end ArgumentTypes

/-! ## One side of a comparison -/

open Artifact

variable {tree : FileTree} {directory : Path} {pattern : OutputKind → FilePattern}

/-- Whether a digest at a position is that of the one file which matches there, of either kind. -/
structure DigestsFile (tree : FileTree) (directory : Path) (pattern : OutputKind → FilePattern)
    (position : Nat) (digest : Option String) : Prop where
  /-- There is a digest exactly if there is one such file and no other. -/
  present : digest.isSome ↔ ∃! file, ∃ kind, Matches tree directory (pattern kind) position file
  /-- It is the digest of what is in the file. -/
  content : ∀ file kind, Matches tree directory (pattern kind) position file →
    ∃ content, tree.readFile (directory.child file) = .ok content ∧
      digest = some (Digest.ofContent content).hex

namespace DigestSet

/-- The entry that a file gives. -/
def entryOf (tree : FileTree) (kind : OutputKind) (_ : Nat) (path : Path) :
    Except FileError DigestEntry :=
  (tree.readFile path).map fun content => ⟨path, kind, .ofContent content⟩

theorem addFiles_ok {set grown : DigestSet} {kind : OutputKind}
    (run : addFiles tree directory pattern set kind = .ok grown) :
    ∃ files, Artifact.scan tree directory (pattern kind) = .ok files ∧
      PositionMap.Filled (entryOf tree kind) files set grown := by
  obtain ⟨files, scanned, run⟩ := Outcome.bind_ok.mp run
  refine ⟨files, Outcome.mapError_ok.mp scanned, PositionMap.filled_of_foldlM ?_ run⟩
  intro entry map next added
  obtain ⟨content, read, added⟩ := Outcome.bind_ok.mp added
  split at added
  · cases added
  · rename_i unset
    cases added
    refine ⟨⟨entry.2, kind, .ofContent content⟩, ?_, unset, rfl⟩
    rw [entryOf, Outcome.mapError_ok.mp read]
    rfl

/-- A scan goes through the files of both kinds, of which no two match one position. -/
theorem scan_parts {set : DigestSet} (run : scan tree directory pattern = .ok set) :
    ∃ files : OutputKind → PositionMap Path,
      (∀ kind, Artifact.scan tree directory (pattern kind) = .ok (files kind)) ∧
      (∀ position path other, (files .buffer).get? position = some path →
        (files .image).get? position ≠ some other) ∧
      (∀ position entry, set.get? position = some entry ↔
        ∃ kind path, (files kind).get? position = some path ∧
          entryOf tree kind position path = .ok entry) ∧
      ∀ kind position path, (files kind).get? position = some path →
        ∃ entry, entryOf tree kind position path = .ok entry := by
  obtain ⟨withBuffers, buffers_added, run⟩ := Outcome.bind_ok.mp run
  obtain ⟨withImages, images_added, run⟩ := Outcome.bind_ok.mp run
  obtain rfl := Except.ok.inj run
  obtain ⟨buffers, buffers_scanned, buffers_filled⟩ := addFiles_ok buffers_added
  obtain ⟨images, images_scanned, images_filled⟩ := addFiles_ok images_added
  refine ⟨OutputKind.rec buffers images, ?_, ?_, ?_, ?_⟩
  · rintro (_ | _)
    · exact buffers_scanned
    · exact images_scanned
  · intro position path other held image_held
    obtain ⟨entry, decoded⟩ := buffers_filled.decodes position path held
    have taken := (buffers_filled.answers position entry).mpr (.inr ⟨path, held, decoded⟩)
    cases taken.symm.trans (images_filled.free position other image_held)
  · intro position entry
    rw [images_filled.answers, buffers_filled.answers, PositionMap.get?_empty]
    constructor
    · rintro ((empty | ⟨path, held⟩) | ⟨path, held⟩)
      · cases empty
      · exact ⟨.buffer, path, held⟩
      · exact ⟨.image, path, held⟩
    · rintro ⟨_ | _, path, held⟩
      · exact .inl (.inr ⟨path, held⟩)
      · exact .inr ⟨path, held⟩
  · rintro (_ | _)
    · exact buffers_filled.decodes
    · exact images_filled.decodes

theorem mem_positions_scan_iff {set : DigestSet} {position : Nat}
    (run : scan tree directory pattern = .ok set) :
    position ∈ set.positions ↔
      ∃ file kind, Matches tree directory (pattern kind) position file := by
  obtain ⟨files, scanned, _, answers, decodes⟩ := scan_parts run
  rw [PositionMap.mem_positions_iff]
  constructor
  · rintro ⟨entry, held⟩
    obtain ⟨kind, path, found, _⟩ := (answers position entry).mp held
    obtain ⟨file, hit, _⟩ := (scan_get?_iff (scanned kind)).mp found
    exact ⟨file, kind, hit⟩
  · rintro ⟨file, kind, hit⟩
    have found := (scan_get?_iff (scanned kind)).mpr ⟨file, hit, rfl⟩
    obtain ⟨entry, decoded⟩ := decodes kind position _ found
    exact ⟨entry, (answers position entry).mpr ⟨kind, _, found, decoded⟩⟩

theorem digestsFile_of_scan {set : DigestSet} (run : scan tree directory pattern = .ok set)
    (position : Nat) :
    DigestsFile tree directory pattern position
      ((set.get? position).map fun entry => entry.digest.hex) := by
  obtain ⟨files, scanned, apart, answers, decodes⟩ := scan_parts run
  have content : ∀ file kind, Matches tree directory (pattern kind) position file →
      ∃ content, tree.readFile (directory.child file) = .ok content ∧
        (set.get? position).map (fun entry => entry.digest.hex) =
          some (Digest.ofContent content).hex := by
    intro file kind hit
    have found := (scan_get?_iff (scanned kind)).mpr ⟨file, hit, rfl⟩
    obtain ⟨entry, decoded⟩ := decodes kind position _ found
    have held := (answers position entry).mpr ⟨kind, _, found, decoded⟩
    obtain ⟨content, read, rfl⟩ := Outcome.map_ok.mp decoded
    exact ⟨content, read, by rw [held]; rfl⟩
  have unique : ∀ file kind other otherKind, Matches tree directory (pattern kind) position file →
      Matches tree directory (pattern otherKind) position other → file = other := by
    intro file kind other otherKind hit other_hit
    have found := (scan_get?_iff (scanned kind)).mpr ⟨file, hit, rfl⟩
    have other_found := (scan_get?_iff (scanned otherKind)).mpr ⟨other, other_hit, rfl⟩
    cases kind <;> cases otherKind
    · exact hit.unique (scanned .buffer) other_hit
    · exact (apart position _ _ found other_found).elim
    · exact (apart position _ _ other_found found).elim
    · exact hit.unique (scanned .image) other_hit
  refine ⟨⟨fun present => ?_, ?_⟩, content⟩
  · rw [Option.isSome_map] at present
    obtain ⟨entry, held⟩ := Option.isSome_iff_exists.mp present
    obtain ⟨kind, path, found, _⟩ := (answers position entry).mp held
    obtain ⟨file, hit, _⟩ := (scan_get?_iff (scanned kind)).mp found
    exact ⟨file, ⟨kind, hit⟩, fun other ⟨otherKind, other_hit⟩ =>
      unique other otherKind file kind other_hit hit⟩
  · rintro ⟨file, ⟨kind, hit⟩, _⟩
    obtain ⟨_, _, digest_eq⟩ := content file kind hit
    rw [digest_eq]
    rfl

end DigestSet

/-! ## The report -/

/-- The position in a notice about outputs that differ. -/
def Notice.mismatchPosition? : Notice → Option Nat
  | .validationMismatch position _ => some position
  | _ => none

namespace Validation

/-- Whether a data type is that of the argument at a position: the tokens of its line in the file of
argument types, which is not blank. -/
def TypeAt (tree : FileTree) (root : Path) (position : Nat) (type : String) : Prop :=
  ∃ text line, tree.readText (root.child Naming.argumentTypesFile) = .ok text ∧
    (Text.lines text.toList)[position]? = some line ∧
    (∃ letter ∈ line, Text.isBlank letter = false) ∧
    String.intercalate " " ((Text.tokens line).map String.ofList) = type

/-- Whether a report is the comparison of the files of an enqueue on both sides. -/
structure Reports (config : ValidationConfig) (root : Path) (tree : FileTree) (enqueue : Enqueue)
    (report : ValidationReport) : Prop where
  /-- It is about the enqueue. -/
  same_enqueue : report.enqueue = enqueue
  /-- No position is checked twice or out of order. -/
  ascending : (report.checks.map (·.position)).Pairwise (· < ·)
  /-- The positions are those of the files on either side. -/
  positions : ∀ position, position ∈ report.checks.map (·.position) ↔ ∃ file kind,
    Matches tree (root.join config.testDirectory) (.test enqueue kind) position file ∨
      Matches tree (root.join config.postDirectory) (.post enqueue kind) position file
  /-- The first digest of a check is that of the replayed file. -/
  replayed : ∀ check ∈ report.checks, DigestsFile tree (root.join config.testDirectory)
    (.test enqueue) check.position check.replayed
  /-- The second is that of the captured file. -/
  captured : ∀ check ∈ report.checks, DigestsFile tree (root.join config.postDirectory)
    (.post enqueue) check.position check.captured
  /-- A check is equal exactly if both digests are there and the same. -/
  equal : ∀ check ∈ report.checks, check.equal = true ↔
    ∃ digest, check.replayed = some digest ∧ check.captured = some digest
  /-- Exactly the checks that are not equal have the data types of their arguments. -/
  dataType : ∀ check ∈ report.checks, ∀ type, check.dataType = some type ↔
    check.equal = false ∧ TypeAt tree root check.position type
  /-- A notice says that there are no data types, and one for each check that it is not equal. -/
  notices : report.notices =
    (if tree.lookup (root.child Naming.argumentTypesFile) = .error .notFound then
      [.optionalMetadataAbsent Naming.argumentTypesFile] else []) ++
    (report.checks.filter (!·.equal)).map fun check =>
      .validationMismatch check.position check.dataType
  /-- The mismatches are those of the notices. -/
  mismatches : report.mismatches = report.notices.filterMap Notice.mismatchPosition?
  /-- The verdict is over all checks. -/
  verdict : report.verdict = .allEqual ↔ ∀ check ∈ report.checks, check.equal = true
  /-- It is that all are equal exactly if there are no mismatches. -/
  verdict_mismatches : report.verdict = .allEqual ↔ report.mismatches = []

variable {root : Path} {config : ValidationConfig} {enqueue : Enqueue}
  {replayed captured : DigestSet} {position : Nat}

theorem check_equal_iff (types : Option ArgumentTypes) :
    (check types replayed captured position).equal = true ↔
      ∃ digest, (check types replayed captured position).replayed = some digest ∧
        (check types replayed captured position).captured = some digest := by
  simp only [check]
  rcases replayed.get? position with _ | ours
  · simp [agree]
  · rcases captured.get? position with _ | theirs
    · simp [agree]
    · simpa [agree, Digest.hex_injective.eq_iff] using eq_comm

theorem compare_ok {report : ValidationReport}
    (run : compare config root tree enqueue = .ok report) :
    ∃ replayed captured types,
      DigestSet.replayed tree (root.join config.testDirectory) enqueue = .ok replayed ∧
      DigestSet.captured tree (root.join config.postDirectory) enqueue = .ok captured ∧
      ArgumentTypes.read tree (root.child Naming.argumentTypesFile) = .ok types ∧
      report = Validation.report enqueue types replayed captured := by
  obtain ⟨replayed, replayed_read, run⟩ := Outcome.bind_ok.mp run
  obtain ⟨captured, captured_read, run⟩ := Outcome.bind_ok.mp run
  obtain ⟨types, types_read, run⟩ := Outcome.bind_ok.mp run
  cases run
  exact ⟨replayed, captured, types, replayed_read, captured_read, Outcome.mapError_ok.mp types_read,
    rfl⟩

theorem typeAt_iff {types : Option ArgumentTypes} {type : String}
    (read : ArgumentTypes.read tree (root.child Naming.argumentTypesFile) = .ok types) :
    types.bind (·.get? position) = some type ↔ TypeAt tree root position type := by
  rcases ArgumentTypes.read_ok read with ⟨rfl, absent⟩ | ⟨text, rfl, text_read⟩
  · refine ⟨nofun, ?_⟩
    rintro ⟨text, _, text_read, _⟩
    exact (ArgumentTypes.lookup_ne_notFound_of_readText text_read absent).elim
  · rw [Option.bind_some, ArgumentTypes.get?_parse, TypeAt, text_read]
    simp

theorem typesNotices_eq {types : Option ArgumentTypes}
    (read : ArgumentTypes.read tree (root.child Naming.argumentTypesFile) = .ok types) :
    typesNotices types =
      if tree.lookup (root.child Naming.argumentTypesFile) = .error .notFound then
        [.optionalMetadataAbsent Naming.argumentTypesFile] else [] := by
  rcases ArgumentTypes.read_ok read with ⟨rfl, absent⟩ | ⟨text, rfl, text_read⟩
  · rw [if_pos absent]
    rfl
  · rw [if_neg (ArgumentTypes.lookup_ne_notFound_of_readText text_read)]
    rfl

theorem mismatches_eq (types : Option ArgumentTypes) :
    (report enqueue types replayed captured).mismatches =
      (report enqueue types replayed captured).notices.filterMap Notice.mismatchPosition? := by
  have silent : (typesNotices types).filterMap Notice.mismatchPosition? = [] := by
    cases types <;> rfl
  simp only [report, ValidationReport.ofChecks, ValidationReport.mismatches, List.filterMap_append,
    silent, List.nil_append, List.filterMap_map]
  exact (congrFun List.filterMap_eq_map _).symm

theorem verdict_eq_allEqual_iff (types : Option ArgumentTypes) :
    (report enqueue types replayed captured).verdict = .allEqual ↔
      (report enqueue types replayed captured).mismatches = [] := by
  rw [report, ValidationReport.ofChecks, verdictOf_eq_allEqual_iff]
  simp [ValidationReport.mismatches]

/-- A comparison that ends without an error reports exactly on the files of both sides. -/
theorem compare_reports {report : ValidationReport}
    (run : compare config root tree enqueue = .ok report) :
    Reports config root tree enqueue report := by
  obtain ⟨replayed, captured, types, replayed_read, captured_read, types_read, rfl⟩ :=
    compare_ok run
  have positions_eq : (Validation.report enqueue types replayed captured).checks.map
      (·.position) = positionsOfEither replayed captured := by
    simp [Validation.report, ValidationReport.ofChecks, Function.comp_def, check]
  have checked : ∀ found ∈ (Validation.report enqueue types replayed captured).checks,
      ∃ position, check types replayed captured position = found := by
    intro found found_mem
    obtain ⟨position, _, found_eq⟩ := List.mem_map.mp found_mem
    exact ⟨position, found_eq⟩
  refine
    { same_enqueue := rfl
      ascending := positions_eq ▸ positionsOfEither_ascending replayed captured
      positions := fun position => ?_
      replayed := fun found found_mem => ?_
      captured := fun found found_mem => ?_
      equal := fun found found_mem => ?_
      dataType := fun found found_mem type => ?_
      notices := ?_
      mismatches := mismatches_eq types
      verdict := verdictOf_eq_allEqual_iff
      verdict_mismatches := verdict_eq_allEqual_iff types }
  · rw [positions_eq, mem_positionsOfEither_iff, DigestSet.mem_positions_scan_iff replayed_read,
      DigestSet.mem_positions_scan_iff captured_read]
    simp only [exists_or]
  · obtain ⟨position, rfl⟩ := checked found found_mem
    simpa [check, Function.comp_def] using DigestSet.digestsFile_of_scan replayed_read position
  · obtain ⟨position, rfl⟩ := checked found found_mem
    simpa [check, Function.comp_def] using DigestSet.digestsFile_of_scan captured_read position
  · obtain ⟨position, rfl⟩ := checked found found_mem
    exact check_equal_iff types
  · obtain ⟨position, rfl⟩ := checked found found_mem
    rw [← typeAt_iff types_read]
    simp [check]
  · rw [← typesNotices_eq types_read]
    rfl

/-- A capture directory after a replay: one output is equal, one is only replayed, and one is only
captured. -/
def partlyReplayed : FileTree where
  entries :=
    [(["cap"], .directory),
      (["cap", "ArgumentDataTypes.txt"], .file (Bytes.ofText "float*\nconst  int\n \n")),
      (["cap", "Test"], .directory),
      (["cap", "Test", "Enqueue_0001_Kernel_f_Arg_0_Buffer.bin"], .file [1, 2]),
      (["cap", "Test", "Enqueue_0001_Kernel_f_Arg_1_Image.raw"], .file [4]),
      (["cap", "Post"], .directory),
      (["cap", "Post", "Enqueue_0001_Kernel_f_Arg_0.bin"], .file [1, 2]),
      (["cap", "Post", "Enqueue_0001_Kernel_f_Arg_2.raw"], .file [4])]
  unique := by decide
  workingDirectory := []

theorem partlyReplayed_reports :
    ∃ report, compare {} ⟨"cap"⟩ partlyReplayed ⟨1⟩ = .ok report ∧
      report.notices = [.validationMismatch 1 (some "const int"), .validationMismatch 2 none] ∧
        Reports {} ⟨"cap"⟩ partlyReplayed ⟨1⟩ report := by
  have reported : (compare {} ⟨"cap"⟩ partlyReplayed ⟨1⟩).toOption.map (·.notices) =
      some [.validationMismatch 1 (some "const int"), .validationMismatch 2 none] := by
    decide +kernel
  obtain ⟨report, run, notices_eq⟩ := Option.map_eq_some_iff.mp reported
  have run := Outcome.toOption_eq_some_iff.mp run
  exact ⟨report, run, notices_eq, compare_reports run⟩

end Validation

end LaunchReplay
