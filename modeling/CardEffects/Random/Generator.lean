import CardEffects.Random.Keystream

/-!
# The generator and the shuffle

A generator is a seed and the index of the next word of its keystream. A shuffle draws its swaps
from the generator first, knowing only how many items there are, and then carries them out; so what
the items are has no part in where they go.
-/

namespace CardEffects.Random

structure Generator where
  seed : UInt64
  position : Nat
  deriving DecidableEq, Repr

namespace Generator

def ofSeed (seed : UInt64) : Generator := ⟨seed, 0⟩

def word (g : Generator) : UInt32 := streamWord (keyOfSeed g.seed) g.position

def advance (g : Generator) : Generator := { g with position := g.position + 1 }

def evenBound (r : Nat) : Nat := (r <<< (31 - r.log2)) - 1

def index? (r : Nat) (w : UInt32) : Option Nat :=
  if w.toNat * r % UInt32.size ≤ evenBound r then some (w.toNat * r / UInt32.size) else none

theorem lt_of_index? {r j : Nat} {w : UInt32} (hr : 0 < r) (h : index? r w = some j) : j < r := by
  unfold index? at h
  split at h
  · have hw : w.toNat < UInt32.size := w.toNat_lt_size
    injection h with h
    rw [← h]
    exact Nat.div_lt_of_lt_mul (Nat.mul_lt_mul_of_pos_right hw hr)
  · cases h

/-- The number of words after which a keystream repeats: sixteen for each value of the counter. -/
def period : Nat := 16 * UInt64.size

def drawFrom (r : Nat) : Nat → Generator → Nat × Generator
  | 0, g => (0, g)
  | words + 1, g =>
    match index? r g.word with
    | some j => (j, g.advance)
    | none => drawFrom r words g.advance

/-- An index below `r`, every one as likely as the others. A stream without a usable word in a whole
period would never give one. -/
def below (g : Generator) (r : Nat) : Nat × Generator := drawFrom r period g

theorem drawFrom_lt {r : Nat} (hr : 0 < r) (words : Nat) (g : Generator) :
    (drawFrom r words g).1 < r := by
  induction words generalizing g with
  | zero => exact hr
  | succ words ih =>
    unfold drawFrom
    split
    · rename_i h
      exact lt_of_index? hr h
    · exact ih g.advance

theorem below_lt (g : Generator) {r : Nat} (hr : 0 < r) : (g.below r).1 < r := drawFrom_lt hr _ g

/-- The swaps of a shuffle of `last + 1` items: from the last place down to the second, each with a
place not behind it. -/
def swaps : Nat → Generator → List (Nat × Nat) × Generator
  | 0, g => ([], g)
  | i + 1, g =>
    let (j, g) := g.below (i + 2)
    let (rest, g) := swaps i g
    ((i + 1, j) :: rest, g)

end Generator

def swapped {α : Type} (items : Array α) (swaps : List (Nat × Nat)) : Array α :=
  swaps.foldl (fun items swap => items.swapIfInBounds swap.1 swap.2) items

def Generator.shuffle {α : Type} (g : Generator) (items : List α) : List α × Generator :=
  let (swaps, g) := g.swaps (items.length - 1)
  ((swapped items.toArray swaps).toList, g)

theorem swapIfInBounds_perm {α : Type} (items : Array α) (i j : Nat) :
    (items.swapIfInBounds i j).Perm items := by
  unfold Array.swapIfInBounds
  split
  · split
    · exact Array.swap_perm _ _
    · exact Array.Perm.rfl
  · exact Array.Perm.rfl

theorem swapped_perm {α : Type} (items : Array α) (swaps : List (Nat × Nat)) :
    (swapped items swaps).Perm items := by
  induction swaps generalizing items with
  | nil => exact Array.Perm.rfl
  | cons swap rest ih => exact (ih _).trans (swapIfInBounds_perm items swap.1 swap.2)

theorem Generator.shuffle_perm {α : Type} (g : Generator) (items : List α) :
    (g.shuffle items).1.Perm items := (swapped_perm items.toArray _).toList

theorem Generator.shuffle_snd {α : Type} (g : Generator) (items : List α) :
    (g.shuffle items).2 = (g.swaps (items.length - 1)).2 := rfl

theorem map_swapIfInBounds {α β : Type} (f : α → β) (items : Array α) (i j : Nat) :
    (items.swapIfInBounds i j).map f = (items.map f).swapIfInBounds i j := by
  by_cases hi : i < items.size
  · by_cases hj : j < items.size
    · ext k
      · simp
      · simp only [Array.swapIfInBounds, hi, hj, dite_true, Array.size_map, Array.getElem_map,
          Array.getElem_swap]
        split
        · rfl
        · split <;> rfl
    · simp [Array.swapIfInBounds, hj]
  · simp [Array.swapIfInBounds, hi]

theorem swapped_map {α β : Type} (f : α → β) (items : Array α) (swaps : List (Nat × Nat)) :
    swapped (items.map f) swaps = (swapped items swaps).map f := by
  induction swaps generalizing items with
  | nil => rfl
  | cons swap rest ih =>
    simp only [swapped, List.foldl_cons] at ih ⊢
    rw [← map_swapIfInBounds, ih]

theorem Generator.shuffle_map {α β : Type} (g : Generator) (f : α → β) (items : List α) :
    g.shuffle (items.map f) = ((g.shuffle items).1.map f, (g.shuffle items).2) := by
  simp only [Generator.shuffle, List.length_map]
  rw [← List.map_toArray, swapped_map, Array.toList_map]

end CardEffects.Random
