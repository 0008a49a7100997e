import LaunchReplay.Text.Bytes

/-!
# BLAKE3

The BLAKE3 hash with 256 bits of output. The input is cut into chunks of 1024 bytes and each chunk
into blocks of 64; the blocks of a chunk are compressed one after the other, and neighbouring
chunks are joined in pairs, level by level, up to the root.
-/

namespace LaunchReplay.Blake3

/-- The initial chaining value. -/
def initial : Vector UInt32 8 :=
  #v[0x6A09E667, 0xBB67AE85, 0x3C6EF372, 0xA54FF53A, 0x510E527F, 0x9B05688C, 0x1F83D9AB, 0x5BE0CD19]

/-- Where each word of a message block comes from in the next round. -/
def schedule : Vector (Fin 16) 16 :=
  #v[2, 6, 3, 10, 7, 0, 4, 13, 1, 11, 12, 5, 9, 14, 15, 8]

/-- The flag of the first block of a chunk. -/
def chunkStart : UInt32 := 1

/-- The flag of the last block of a chunk. -/
def chunkEnd : UInt32 := 2

/-- The flag of a block that joins two nodes. -/
def parentNode : UInt32 := 4

/-- The flag of the last compression of all. -/
def rootNode : UInt32 := 8

/-- Rotation to the right by fewer than 32 bits. -/
def rotateRight (word amount : UInt32) : UInt32 :=
  (word >>> amount) ||| (word <<< (32 - amount))

/-- Mixes two message words into four words of the state. -/
def mix (state : Vector UInt32 16) (a b c d : Fin 16) (x y : UInt32) : Vector UInt32 16 :=
  let state := state.set a (state[a] + state[b] + x)
  let state := state.set d (rotateRight (state[d] ^^^ state[a]) 16)
  let state := state.set c (state[c] + state[d])
  let state := state.set b (rotateRight (state[b] ^^^ state[c]) 12)
  let state := state.set a (state[a] + state[b] + y)
  let state := state.set d (rotateRight (state[d] ^^^ state[a]) 8)
  let state := state.set c (state[c] + state[d])
  state.set b (rotateRight (state[b] ^^^ state[c]) 7)

/-- One round: the columns of the state, then its diagonals. -/
def round (state block : Vector UInt32 16) : Vector UInt32 16 :=
  let state := mix state 0 4 8 12 block[0] block[1]
  let state := mix state 1 5 9 13 block[2] block[3]
  let state := mix state 2 6 10 14 block[4] block[5]
  let state := mix state 3 7 11 15 block[6] block[7]
  let state := mix state 0 5 10 15 block[8] block[9]
  let state := mix state 1 6 11 12 block[10] block[11]
  let state := mix state 2 7 8 13 block[12] block[13]
  mix state 3 4 9 14 block[14] block[15]

/-- A number of rounds, with the message permuted from one to the next. -/
def rounds : Nat → Vector UInt32 16 → Vector UInt32 16 → Vector UInt32 16
  | 0, state, _ => state
  | count + 1, state, block =>
    rounds count (round state block) (schedule.map fun source => block[source])

/-- A compression that has not been done yet, because its flags depend on its place in the tree. -/
structure Node where
  /-- The chaining value that goes in. -/
  chaining : Vector UInt32 8
  /-- The message block. -/
  block : Vector UInt32 16
  /-- The number of the chunk. -/
  counter : Nat
  /-- The number of message bytes in the block. -/
  length : Nat
  /-- The flags known so far. -/
  flags : UInt32

namespace Node

/-- The chaining value that comes out of a node, with further flags. -/
def compress (node : Node) (flags : UInt32) : Vector UInt32 8 :=
  let state : Vector UInt32 16 :=
    #v[node.chaining[0], node.chaining[1], node.chaining[2], node.chaining[3], node.chaining[4],
      node.chaining[5], node.chaining[6], node.chaining[7], initial[0], initial[1], initial[2],
      initial[3], UInt32.ofNat node.counter, UInt32.ofNat (node.counter >>> 32),
      UInt32.ofNat node.length, node.flags ||| flags]
  let mixed := rounds 7 state node.block
  Vector.ofFn fun word : Fin 8 => mixed[word.val] ^^^ mixed[word.val + 8]

/-- The node above two neighbours. -/
def parent (left right : Node) : Node where
  chaining := initial
  block := left.compress 0 ++ right.compress 0
  counter := 0
  length := 64
  flags := parentNode

end Node

/-- Cuts a list into pieces of a positive size, the last of which may be shorter. -/
def pieces (size : Nat) (positive : 0 < size) : Bytes → List Bytes
  | [] => []
  | first :: rest =>
    (first :: rest).take size :: pieces size positive ((first :: rest).drop size)
termination_by bytes => bytes.length
decreasing_by
  simp only [List.length_drop, List.length_cons]
  omega

/-- The word whose four bytes are given from the least significant up. -/
def wordOfBytes (first second third fourth : UInt8) : UInt32 :=
  first.toUInt32 ||| (second.toUInt32 <<< 8) ||| (third.toUInt32 <<< 16) |||
    (fourth.toUInt32 <<< 24)

/-- The words of a block, with zeros for missing bytes. -/
def wordsOfBytes (bytes : Bytes) : Vector UInt32 16 :=
  let padded := (bytes.extendTo 64).toArray
  Vector.ofFn fun word : Fin 16 =>
    let byte (offset : Nat) : UInt8 := padded.getD (4 * word.val + offset) 0
    wordOfBytes (byte 0) (byte 1) (byte 2) (byte 3)

/-- The four bytes of a word from the least significant up. -/
def bytesOfWord (word : UInt32) : Bytes :=
  [word.toUInt8, (word >>> 8).toUInt8, (word >>> 16).toUInt8, (word >>> 24).toUInt8]

/-- The node of the blocks of one chunk that remain, after the given chaining value. -/
def chunkNode (counter : Nat) (chaining : Vector UInt32 8) (flags : UInt32) : List Bytes → Node
  | [] => ⟨chaining, wordsOfBytes [], counter, 0, flags ||| chunkEnd⟩
  | [block] => ⟨chaining, wordsOfBytes block, counter, block.length, flags ||| chunkEnd⟩
  | block :: rest =>
    let node : Node := ⟨chaining, wordsOfBytes block, counter, block.length, flags⟩
    chunkNode counter (node.compress 0) 0 rest

/-- The nodes of the chunks of an input. -/
def chunkNodes (input : Bytes) : List Node :=
  (pieces 1024 (by decide) input).mapIdx fun counter chunk =>
    chunkNode counter initial chunkStart (pieces 64 (by decide) chunk)

/-- Joins neighbouring nodes in pairs; a last one without a neighbour is kept. -/
def joinPairs : List Node → List Node
  | left :: right :: rest => left.parent right :: joinPairs rest
  | rest => rest

theorem length_joinPairs_le (nodes : List Node) : (joinPairs nodes).length ≤ nodes.length := by
  fun_induction joinPairs nodes with
  | case1 left right rest induction => simp only [List.length_cons]; omega
  | case2 => exact Nat.le_refl _

/-- The root above a list of nodes. -/
def root (nodes : List Node) : Node :=
  match nodes with
  | [] => chunkNode 0 initial chunkStart []
  | [node] => node
  | left :: right :: rest => root (left.parent right :: joinPairs rest)
termination_by nodes.length
decreasing_by
  have := length_joinPairs_le rest
  simp only [List.length_cons]
  omega

/-- The words of the hash of an input. -/
def hash (input : Bytes) : Vector UInt32 8 :=
  (root (chunkNodes input)).compress rootNode

end LaunchReplay.Blake3
