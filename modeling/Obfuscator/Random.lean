/-!
# Random draws

Renaming takes 16-bit draws one after another from a random number generator. Whatever the
generator, what renaming sees of it is the stream of values it yields, so renaming reads
`Draws`, any stream of 16-bit values with a count of those used, and every statement about it
holds for every stream. The pipeline's stream is the one a seed gives (`Draws.ofSeed`).

## The ChaCha block function

ChaCha turns a 256-bit key and a 64-bit block counter into 16 words of keystream. The state is
the four constant words of "expand 32-byte k", the eight key words, the counter as two words
(low word first) and two zero words. A number of rounds, alternating between the columns and
the diagonals of the state seen as a 4 by 4 matrix, mixes it, and the block is the mixed state
added word by word to the state it started from. Twelve rounds, six of each kind, give the
keystream used here.
-/

namespace Obfuscator
namespace ChaCha

abbrev State := Vector UInt32 16

abbrev Key := Vector UInt32 8

def rotl (x : UInt32) (n : UInt32) : UInt32 := (x <<< n) ||| (x >>> (32 - n))

def quarterRound (s : State) (a b c d : Fin 16) : State :=
  let s := s.set a (s[a] + s[b])
  let s := s.set d (rotl (s[d] ^^^ s[a]) 16)
  let s := s.set c (s[c] + s[d])
  let s := s.set b (rotl (s[b] ^^^ s[c]) 12)
  let s := s.set a (s[a] + s[b])
  let s := s.set d (rotl (s[d] ^^^ s[a]) 8)
  let s := s.set c (s[c] + s[d])
  s.set b (rotl (s[b] ^^^ s[c]) 7)

/-- A column round followed by a diagonal round. -/
def doubleRound (s : State) : State :=
  let s := quarterRound s 0 4 8 12
  let s := quarterRound s 1 5 9 13
  let s := quarterRound s 2 6 10 14
  let s := quarterRound s 3 7 11 15
  let s := quarterRound s 0 5 10 15
  let s := quarterRound s 1 6 11 12
  let s := quarterRound s 2 7 8 13
  quarterRound s 3 4 9 14

def initial (key : Key) (counter : UInt64) : State :=
  #v[0x61707865, 0x3320646e, 0x79622d32, 0x6b206574,
    key[0], key[1], key[2], key[3], key[4], key[5], key[6], key[7],
    counter.toUInt32, (counter >>> 32).toUInt32, 0, 0]

/-- The keystream block for a key and a counter, after `doubleRounds` double rounds. -/
def block (doubleRounds : Nat) (key : Key) (counter : UInt64) : State :=
  let start := initial key counter
  let mixed := (List.range doubleRounds).foldl (fun s _ => doubleRound s) start
  Vector.zipWith (· + ·) mixed start

def word (key : Key) (i : Nat) : UInt32 :=
  (block 6 key (i / 16).toUInt64).get ⟨i % 16, Nat.mod_lt _ (by decide)⟩

end ChaCha

/-!
## Seeded draws

A seed of 64 bits becomes a ChaCha key through eight steps of a permuted congruential
generator: each step advances a 64-bit linear congruential state and outputs 32 bits of it,
shifted and rotated by its top bits; the eight outputs are the key words. The draws are the
keystream words of ChaCha with twelve rounds, in order, cut to their low 16 bits.
-/

def pcgStep (s : UInt64) : UInt64 × UInt32 :=
  let s := s * 6364136223846793005 + 11634580027462260723
  let x := (((s >>> 18) ^^^ s) >>> 27).toUInt32
  let r := (s >>> 59).toUInt32
  (s, (x >>> r) ||| (x <<< ((32 - r) % 32)))

def pcgWords : Nat → UInt64 → List UInt32
  | 0, _ => []
  | n + 1, s => let (s, w) := pcgStep s; w :: pcgWords n s

def seedKey (seed : UInt64) : ChaCha.Key :=
  Vector.ofFn fun i => (pcgWords 8 seed).getD i.val 0

/-- A stream of 16-bit draws, and how many of them have been used. -/
structure Draws where
  stream : Nat → UInt16
  used : Nat := 0

namespace Draws

def next (d : Draws) : UInt16 × Draws := (d.stream d.used, { d with used := d.used + 1 })

def take (d : Draws) : Nat → List UInt16
  | 0 => []
  | n + 1 => let (x, d) := d.next; x :: d.take n

/-- The draws a seed gives: the ChaCha keystream of its key, each word cut to 16 bits. -/
def ofSeed (seed : UInt64) : Draws := { stream := fun i => (ChaCha.word (seedKey seed) i).toUInt16 }

end Draws

end Obfuscator
