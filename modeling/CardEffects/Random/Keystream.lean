/-!
# The keystream

A stream of 32-bit words: blocks of sixteen, the block at `counter` a mix of a key of eight words
and the counter in eight rounds of ChaCha. Any word can be found from the key and its index alone.
-/

namespace CardEffects.Random

abbrev Key := Vector UInt32 8
abbrev Block := Vector UInt32 16

def rotateLeft (x : UInt32) (n : UInt32) : UInt32 := (x <<< n) ||| (x >>> (32 - n))

def rotateRight (x : UInt32) (n : UInt32) : UInt32 := (x >>> n) ||| (x <<< (32 - n))

def quarterRound (s : Block) (a b c d : Fin 16) : Block :=
  let s := s.set a (s[a] + s[b])
  let s := s.set d (rotateLeft (s[d] ^^^ s[a]) 16)
  let s := s.set c (s[c] + s[d])
  let s := s.set b (rotateLeft (s[b] ^^^ s[c]) 12)
  let s := s.set a (s[a] + s[b])
  let s := s.set d (rotateLeft (s[d] ^^^ s[a]) 8)
  let s := s.set c (s[c] + s[d])
  s.set b (rotateLeft (s[b] ^^^ s[c]) 7)

def doubleRound (s : Block) : Block :=
  let s := quarterRound s 0 4 8 12
  let s := quarterRound s 1 5 9 13
  let s := quarterRound s 2 6 10 14
  let s := quarterRound s 3 7 11 15
  let s := quarterRound s 0 5 10 15
  let s := quarterRound s 1 6 11 12
  let s := quarterRound s 2 7 8 13
  quarterRound s 3 4 9 14

def initialBlock (key : Key) (counter : Nat) : Block :=
  #v[0x61707865, 0x3320646e, 0x79622d32, 0x6b206574,
    key[0], key[1], key[2], key[3], key[4], key[5], key[6], key[7],
    UInt32.ofNat counter, UInt32.ofNat (counter / UInt32.size), 0, 0]

def block (key : Key) (counter : Nat) : Block :=
  let start := initialBlock key counter
  let mixed := doubleRound (doubleRound (doubleRound (doubleRound start)))
  Vector.zipWith (· + ·) mixed start

def streamWord (key : Key) (index : Nat) : UInt32 :=
  (block key (index / 16)).get (Fin.ofNat 16 index)

def nextSeedState (s : UInt64) : UInt64 := s * 6364136223846793005 + 11634580027462260723

def seedWord (s : UInt64) : UInt32 :=
  rotateRight (((s >>> 18) ^^^ s) >>> 27).toUInt32 (s >>> 59).toUInt32

def seedState (seed : UInt64) : Nat → UInt64
  | 0 => nextSeedState seed
  | i + 1 => nextSeedState (seedState seed i)

def keyOfSeed (seed : UInt64) : Key := Vector.ofFn fun i => seedWord (seedState seed i)

end CardEffects.Random
