import LaunchReplay.Proofs.Capture.Frame
import LaunchReplay.Proofs.Replay.Files
import LaunchReplay.Proofs.Replay.Independence
import LaunchReplay.Proofs.Validation.IdleReplay

/-!
# Replaying again

A replay writes nothing that is read when its capture directory is read again, and what it writes is
there already when it is written again. So on a device like the first, with host kernels that keep
nothing in mind, another replay does what the first did and changes nothing.
-/

namespace LaunchReplay

open FileTree Simulator

/-- A capture directory that has not changed but below its directory of outputs is read as it
was. -/
theorem Capture.sameCapture_of_confined {tree written : FileTree} {root : Path} {base : Location}
    (formed : tree.WellFormed) (reached : tree.Reaches root base)
    (confined : Confined (base ++ [Naming.testDirectory]) tree written) :
    SameCapture written tree root := by
  have unlike : ∀ name, Naming.Matters name → name ≠ Naming.testDirectory := by
    rintro name matters rfl
    obtain ⟨letter, listed, rest, shape⟩ := matters.exists_letter
    obtain rfl : 'T' = letter := (List.cons.inj shape).1
    exact absurd listed (by decide)
  refine sameCapture_of_entries formed (confined.toKeeps.reaches reached) reached
    (fun name matters => confined.entry?_beside (unlike name matters).symm (List.prefix_refl _))
    fun enqueue _ name _ => ?_
  have apart : Naming.testDirectory ≠ Naming.preDirectory := by decide
  exact confined.entry?_beside apart (List.prefix_append _ _)

namespace Replay

/-- To write outputs again that were written changes nothing. -/
theorem write_again {config : ReplayConfig} {capture : Capture} {outputs : List Output}
    {tree written : FileTree} {paths : List (Option Path)}
    (apart : (outputs.map (·.position)).Nodup)
    (wrote : write config capture outputs tree = (.ok paths, written)) :
    write config capture outputs written = (.ok paths, written) := by
  rw [write] at wrote ⊢
  split at wrote
  · rename_i asked
    rw [if_pos asked]
    split at wrote
    · rename_i wrote_all
      cases wrote
      rw [Output.writeAll_again apart wrote_all]
    · cases wrote
  · rename_i unasked
    rw [if_neg unasked]
    cases wrote
    rfl

variable {κ : Type} {setup : Setup κ} {config : ReplayConfig} {capture : Capture} {root : Path}
  {tree written : FileTree} {memo : κ} {after : Simulator κ} {summary : ReplaySummary}
  (stateless : ∀ name host, setup.hostKernel? name = some host → Stateless host)

include stateless

/-- The devices go in step, so the same outputs are written, where they are already. -/
theorem replay_again
    (replayed : replay config capture tree (new setup memo) = (.ok summary, written, after))
    (other : κ) :
    ∃ used, replay config capture written (new setup other) = (.ok summary, written, used) := by
  obtain ⟨work, performed, paths, wrote, rfl⟩ := perform_of_replay_ok replayed
  have ascending := capture.arguments.positions_ascending.sublist
    (DeviceReplay.outputs_sublist performed)
  have wrote_again := write_again (ascending.imp Nat.ne_of_lt) wrote
  have first_device : replay config capture written (new setup memo) =
      (.ok (work.summary capture.launch paths), written, after) := by
    rw [replay, performed]
    dsimp only
    rw [wrote_again]
  have alike : Beside (new setup other) (new setup memo) (new setup other) := beside_new rfl memo
  obtain ⟨outcome_eq, tree_eq⟩ := replay_inStep alike
    (fun name host registered => (stateless name host registered).actsBeside_new setup other)
    config capture written
  rw [first_device] at outcome_eq tree_eq
  exact ⟨(replay config capture written (new setup other)).2.2,
    Prod.ext outcome_eq (Prod.ext tree_eq rfl)⟩

/-- After a replay into the usual directory of outputs, a replay on another new device gives the
same summary and leaves all files as they are, as long as the name of the kernel does not lead
upwards and what the host kernels write does not depend on what they keep in mind. -/
theorem run_again (usual : config.testDirectory = ⟨Naming.testDirectory⟩)
    (formed : tree.WellFormed) (tame : ¬ Path.Climbs summary.kernelName)
    (replayed : run config root tree (new setup memo) = (.ok summary, written, after))
    (other : κ) :
    ∃ used, run config root written (new setup other) = (.ok summary, written, used) := by
  obtain ⟨capture, read, replay_eq⟩ := run_ok replayed
  obtain ⟨used, again⟩ := replay_again stateless replay_eq other
  obtain ⟨work, _, paths, _, rfl⟩ := perform_of_replay_ok replay_eq
  obtain ⟨rfl, _⟩ := Capture.read_ok read
  obtain ⟨base, reached⟩ := Capture.exists_reaches_of_read read
  have confined : Confined (base ++ [Naming.testDirectory]) tree written := by
    have within : Confined (base ++ config.testDirectory.names) tree
        (replay config capture tree (new setup memo)).2.1 :=
      replay_confined reached (by rw [usual]; decide) (by rw [usual]; decide) tame
    rw [replay_eq, usual] at within
    exact within
  have same := Capture.sameCapture_of_confined formed reached confined
  have read_again : Capture.read written capture.root ⟨config.forceSvm⟩ = .ok capture :=
    (same.read_eq _).trans read
  refine ⟨used, ?_⟩
  unfold run
  rw [read_again]
  exact again

omit stateless

theorem run_again_halfChanged :
    let first := run {} ⟨"cap"⟩ Validation.halfChanged addingDevice
    let second := run {} ⟨"cap"⟩ first.2.1 addingDevice
    first.1.isOk ∧ first.2.1 ≠ Validation.halfChanged ∧
      second.1 = first.1 ∧ second.2.1 = first.2.1 := by
  intro first second
  have computed : first.1.toOption.map (·.kernelName) = some "f" ∧
      first.2.1 ≠ Validation.halfChanged := by decide +kernel
  obtain ⟨named, changed⟩ := computed
  obtain ⟨summary, outcome, name_eq⟩ := Option.map_eq_some_iff.mp named
  have outcome := Outcome.toOption_eq_some_iff.mp outcome
  have plain : '/' ∉ summary.kernelName.toList := by
    rw [name_eq]
    decide
  have stateless : ∀ name host, addingDevice.setup.hostKernel? name = some host →
      Stateless host := by
    intro name host registered
    obtain rfl := Option.some.inj registered
    exact (oblivious_scripted _).stateless
  obtain ⟨used, again⟩ := run_again stateless rfl (by decide)
    (Path.not_climbs_of_plain plain) (Prod.ext outcome rfl : first = (.ok summary, first.2)) []
  have second_eq : second = (.ok summary, first.2.1, used) := again
  rw [outcome, second_eq]
  exact ⟨rfl, changed, rfl, rfl⟩

end Replay

end LaunchReplay
