import LaunchReplay.Simulator.Store
import Mathlib.Data.List.Forall2

/-!
# Simulated memory by object

A store is looked at through the objects that have memory. A write through a bound value reaches one
object only, keeps the length of every object, and leaves all bytes of the others as they are.
-/

namespace LaunchReplay

/-- An object of a device that has memory. -/
inductive MemoryObject
  /-- A buffer or an image. -/
  | memory (handle : Handle .memory)
  /-- A region of shared virtual memory. -/
  | region (handle : Handle .region)
deriving DecidableEq, Repr

/-- The object that is read back. -/
def ReadSource.object : ReadSource → MemoryObject
  | .buffer handle | .image handle => .memory handle
  | .svm handle => .region handle

/-- The object behind a bound value, if it has memory. -/
def BoundValue.object? : BoundValue → Option MemoryObject
  | .buffer handle | .image handle => some (.memory handle)
  | .svm handle _ => some (.region handle)
  | _ => none

namespace Simulator

namespace Store

/-- The content of an object. -/
def bytes? (store : Store) : MemoryObject → Option Bytes
  | .memory handle => (store.memory? handle).map (·.bytes)
  | .region handle => store.region? handle

/-- Two stores with the same objects, of the same lengths and sorts, whatever their content. -/
structure SameShape (before after : Store) : Prop where
  /-- Buffers and images. -/
  memories : after.memories.map (fun memory => (memory.bytes.length, memory.descriptor)) =
    before.memories.map fun memory => (memory.bytes.length, memory.descriptor)
  /-- Shared regions. -/
  regions : after.regions.map List.length = before.regions.map List.length

theorem SameShape.refl (store : Store) : SameShape store store := ⟨rfl, rfl⟩

theorem SameShape.trans {first second third : Store} (early : SameShape first second)
    (late : SameShape second third) : SameShape first third :=
  ⟨late.memories.trans early.memories, late.regions.trans early.regions⟩

/-- Stores of one shape have objects of the same lengths. -/
theorem SameShape.length {before after : Store} (same : SameShape before after)
    (object : MemoryObject) :
    (after.bytes? object).map List.length = (before.bytes? object).map List.length := by
  cases object with
  | memory handle =>
      have answers := congrArg (fun shapes => (shapes[handle.index]?).map Prod.fst) same.memories
      simpa [bytes?, memory?, Function.comp_def] using answers
  | region handle =>
      have answers := congrArg (fun lengths => lengths[handle.index]?) same.regions
      simpa [bytes?, region?] using answers

/-! ## Writing -/

theorem map_modify_of_comp_eq {α β : Type} {image : α → β} {change : α → α}
    (kept : ∀ item, image (change item) = image item) (items : List α) (index : Nat) :
    (items.modify index change).map image = items.map image := by
  apply List.ext_getElem?
  intro place
  rw [List.getElem?_map, List.getElem?_map, List.getElem?_modify]
  cases items[place]? with
  | none => rfl
  | some item => by_cases here : index = place <;> simp [here, kept]

theorem write_sameShape (store : Store) (value : BoundValue) (start : Nat) (patch : Bytes) :
    SameShape store (store.write value start patch) := by
  cases value with
  | buffer handle => exact ⟨map_modify_of_comp_eq (by simp) _ _, rfl⟩
  | image handle => exact ⟨map_modify_of_comp_eq (by simp) _ _, rfl⟩
  | svm handle offset => exact ⟨rfl, map_modify_of_comp_eq (by simp) _ _⟩
  | scalar bytes => exact .refl store
  | localMemory size => exact .refl store
  | sampler handle => exact .refl store

/-- A write leaves a buffer or image alone, unless it is the one behind the value. -/
theorem memory?_write_of_ne (store : Store) {value : BoundValue} {handle : Handle .memory}
    (apart : value.object? ≠ some (.memory handle)) (start : Nat) (patch : Bytes) :
    (store.write value start patch).memory? handle = store.memory? handle := by
  cases value with
  | buffer other | image other =>
      obtain ⟨index⟩ := other
      have elsewhere : index ≠ handle.index := by
        rintro rfl
        exact apart rfl
      simp [write, memory?, elsewhere]
  | scalar _ | svm _ _ | localMemory _ | sampler _ => rfl

/-- A write leaves a region alone, unless it is the one behind the value. -/
theorem region?_write_of_ne (store : Store) {value : BoundValue} {handle : Handle .region}
    (apart : value.object? ≠ some (.region handle)) (start : Nat) (patch : Bytes) :
    (store.write value start patch).region? handle = store.region? handle := by
  cases value with
  | svm other offset =>
      obtain ⟨index⟩ := other
      have elsewhere : index ≠ handle.index := by
        rintro rfl
        exact apart rfl
      simp [write, region?, elsewhere]
  | scalar _ | buffer _ | image _ | localMemory _ | sampler _ => rfl

/-- A write leaves the bytes of every object alone but of the one behind the value. -/
theorem bytes?_write_of_ne (store : Store) {value : BoundValue} {object : MemoryObject}
    (apart : value.object? ≠ some object) (start : Nat) (patch : Bytes) :
    (store.write value start patch).bytes? object = store.bytes? object := by
  cases object with
  | memory handle =>
      exact congrArg (Option.map (·.bytes)) (store.memory?_write_of_ne apart start patch)
  | region handle => exact store.region?_write_of_ne apart start patch

/-! ## Reading back -/

theorem source_of_bytes? {store : Store} {source : ReadSource} {bytes : Bytes}
    (held : store.bytes? source.object = some bytes) : store.source source = .ok bytes := by
  cases source with
  | buffer handle | image handle =>
      obtain ⟨memory, found, rfl⟩ := Option.map_eq_some_iff.mp held
      simp [Store.source, found]
  | svm handle =>
      have found : store.region? handle = some bytes := held
      simp [Store.source, found]

/-- A read of no more bytes than an object has gives its leading bytes. -/
theorem read_of_bytes? {store : Store} {request : ReadRequest} {bytes : Bytes}
    (held : store.bytes? request.source.object = some bytes)
    (fits : request.length ≤ bytes.length) :
    store.read request = .ok (bytes.take request.length) := by
  rw [read, source_of_bytes? held]
  exact if_pos fits

/-- Requests that can all be read are all filled. -/
theorem fill_of_forall_read {store : Store} {requests : List ReadRequest} {contents : List Bytes}
    (reads : List.Forall₂ (fun request content => store.read request = .ok content) requests
      contents) :
    store.fill requests = (contents, .ok ()) := by
  induction reads with
  | nil => rfl
  | cons first _ induction => simp [fill, first, induction]

end Store

end Simulator

end LaunchReplay
