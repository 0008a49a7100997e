/-!
# Bytes

File contents and memory are lists of bytes. Text is stored in UTF-8, and digests are shown in
hexadecimal.
-/

namespace LaunchReplay

/-- A sequence of bytes. -/
abbrev Bytes := List UInt8

namespace Bytes

/-- The text that the bytes encode in UTF-8, if they are well formed. -/
def text? (bytes : Bytes) : Option String :=
  String.fromUTF8? ⟨bytes.toArray⟩

/-- The bytes that encode a text in UTF-8. -/
def ofText (text : String) : Bytes :=
  text.toByteArray.data.toList

/-- The two hexadecimal digits of a byte. -/
def hexPair (byte : UInt8) : List Char :=
  [Nat.digitChar (byte.toNat / 16), Nat.digitChar (byte.toNat % 16)]

/-- Bytes in hexadecimal, two digits each. -/
def hex (bytes : Bytes) : String :=
  String.ofList (bytes.flatMap hexPair)

/-- Bytes zero-extended to a length; longer ones are kept whole. -/
def extendTo (length : Nat) (bytes : Bytes) : Bytes :=
  bytes ++ List.replicate (length - bytes.length) 0

@[simp]
theorem length_extendTo (length : Nat) (bytes : Bytes) :
    (bytes.extendTo length).length = max length bytes.length := by
  simp only [extendTo, List.length_append, List.length_replicate]
  omega

/-- Content with a patch written over it from a start on, cut to the length of the content. -/
def overwrite (content : Bytes) (start : Nat) (patch : Bytes) : Bytes :=
  content.take start ++ patch.take (content.length - start) ++ content.drop (start + patch.length)

@[simp]
theorem length_overwrite (content : Bytes) (start : Nat) (patch : Bytes) :
    (content.overwrite start patch).length = content.length := by
  simp only [overwrite, List.length_append, List.length_take, List.length_drop]
  omega

end Bytes

end LaunchReplay
