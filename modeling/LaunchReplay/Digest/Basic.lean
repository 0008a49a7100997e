import LaunchReplay.Digest.Blake3

/-!
# Digests

A digest is the 256-bit BLAKE3 hash of some content. Two outputs are compared by their digests.
-/

namespace LaunchReplay

/-- A digest of 32 bytes. -/
structure Digest where
  /-- The bytes of the digest. -/
  bytes : Bytes
  /-- There are 32 of them. -/
  length_bytes : bytes.length = 32
deriving DecidableEq

namespace Digest

/-- The digest whose words are given. -/
def ofWords (words : Vector UInt32 8) : Digest where
  bytes := words.toList.flatMap Blake3.bytesOfWord
  length_bytes := by
    simp [List.length_flatMap, Blake3.bytesOfWord, List.map_const']

/-- The digest of some content. -/
def ofContent (content : Bytes) : Digest :=
  ofWords (Blake3.hash content)

/-- The digest in hexadecimal. -/
def hex (digest : Digest) : String :=
  digest.bytes.hex

/-- The first six bytes of the digest in hexadecimal. -/
def short (digest : Digest) : String :=
  Bytes.hex (digest.bytes.take 6)

end Digest

end LaunchReplay
