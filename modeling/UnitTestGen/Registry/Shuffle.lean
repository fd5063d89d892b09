/-! Seeded shuffling. A seed is stretched to a key by a linear congruential generator with permuted
output; the key drives a stream of 32-bit words of the twelve-round ChaCha block function; and the
words choose in-range swaps from the end of the list to its front. -/

namespace UnitTestGen.Shuffle

def rotateRight (x : UInt32) (n : UInt32) : UInt32 := (x >>> n) ||| (x <<< (32 - n))

def rotateLeft (x : UInt32) (n : UInt32) : UInt32 := (x <<< n) ||| (x >>> (32 - n))

/-- The next state of the generator that stretches a seed. -/
def advance (state : UInt64) : UInt64 := state * 6364136223846793005 + 11634580027462260723

def output (state : UInt64) : UInt32 :=
  rotateRight (((state >>> 18) ^^^ state) >>> 27).toUInt32 (state >>> 59).toUInt32

def stretch : Nat → UInt64 → List UInt32
  | 0, _ => []
  | n + 1, state => output (advance state) :: stretch n (advance state)

def key (seed : UInt64) : List UInt32 := stretch 8 seed

abbrev Block := Vector UInt32 16

def quarterRound (b : Block) (i j k l : Fin 16) : Block :=
  let b := b.set i (b[i] + b[j])
  let b := b.set l (rotateLeft (b[l] ^^^ b[i]) 16)
  let b := b.set k (b[k] + b[l])
  let b := b.set j (rotateLeft (b[j] ^^^ b[k]) 12)
  let b := b.set i (b[i] + b[j])
  let b := b.set l (rotateLeft (b[l] ^^^ b[i]) 8)
  let b := b.set k (b[k] + b[l])
  b.set j (rotateLeft (b[j] ^^^ b[k]) 7)

def doubleRound (b : Block) : Block :=
  let b := quarterRound b 0 4 8 12
  let b := quarterRound b 1 5 9 13
  let b := quarterRound b 2 6 10 14
  let b := quarterRound b 3 7 11 15
  let b := quarterRound b 0 5 10 15
  let b := quarterRound b 1 6 11 12
  let b := quarterRound b 2 7 8 13
  quarterRound b 3 4 9 14

def initialBlock (key : List UInt32) (counter : Nat) : Block :=
  let word (i : Nat) : UInt32 := key.getD i 0
  #v[0x61707865, 0x3320646e, 0x79622d32, 0x6b206574,
    word 0, word 1, word 2, word 3, word 4, word 5, word 6, word 7,
    UInt32.ofNat counter, UInt32.ofNat (counter / UInt32.size), 0, 0]

def streamBlock (key : List UInt32) (counter : Nat) : Block :=
  let start := initialBlock key counter
  let mixed := Nat.repeat doubleRound 6 start
  Vector.ofFn fun i => start[i] + mixed[i]

def streamWord (key : List UInt32) (index : Nat) : UInt32 :=
  have h : index % 16 < 16 := Nat.mod_lt _ (by decide)
  (streamBlock key (index / 16))[index % 16]

/-- The greatest low half for which a product is accepted as fair among `n` values. -/
def zone (n : UInt32) : UInt32 := (n <<< (UInt32.ofNat (31 - n.toNat.log2))) - 1

/-- A number below `n` drawn from the stream at a position, and the position after it. A word that
would favour some values is passed over, at most `tries` times. -/
def draw (key : List UInt32) (n : UInt32) : Nat → Nat → Nat × Nat
  | 0, position => (0, position)
  | tries + 1, position =>
    let product := (streamWord key position).toNat * n.toNat
    if product % UInt32.size ≤ (zone n).toNat then (product / UInt32.size, position + 1)
    else draw key n tries (position + 1)

def swaps {α : Type} (key : List UInt32) : Nat → Nat → Array α → Array α
  | 0, _, xs => xs
  | i + 1, position, xs =>
    let (j, position) := draw key (UInt32.ofNat (i + 2)) 1000 position
    swaps key i position (xs.swapIfInBounds (i + 1) j)

def shuffle {α : Type} (seed : UInt64) (xs : List α) : List α :=
  (swaps (key seed) (xs.length - 1) 0 xs.toArray).toList

theorem swaps_perm {α : Type} (key : List UInt32) (i position : Nat) (xs : Array α) :
    (swaps key i position xs).Perm xs := by
  induction i generalizing position xs with
  | zero => exact .rfl
  | succ i ih =>
    refine (ih _ _).trans ?_
    rw [Array.swapIfInBounds_def]
    split
    · split
      · exact Array.swap_perm _ _
      · exact .rfl
    · exact .rfl

theorem shuffle_perm {α : Type} (seed : UInt64) (xs : List α) : (shuffle seed xs).Perm xs :=
  Array.perm_iff_toList_perm.1 (swaps_perm (key seed) (xs.length - 1) 0 xs.toArray)

end UnitTestGen.Shuffle
