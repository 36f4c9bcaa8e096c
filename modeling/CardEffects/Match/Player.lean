/-!
# Players

A player is known by a seat, counted from zero. Scripts count players from one, and the round of
turns goes from each seat to the next and from the last back to the first.
-/

namespace CardEffects

structure PlayerId where
  index : UInt8
  deriving DecidableEq, Repr

namespace PlayerId

def number (p : PlayerId) : Nat := p.index.toNat + 1

def label (p : PlayerId) : String := "Player " ++ toString p.number

/-- The player with a number among `seats` players; a seat count is read as a signed word. -/
def ofNumber? (number : Int) (seats : Nat) : Option PlayerId :=
  if 1 ≤ number ∧ number ≤ Int.bmod seats UInt64.size ∧ number ≤ 256 then
    some ⟨UInt8.ofNat (number - 1).toNat⟩
  else none

def all (seats : Nat) : List PlayerId := (List.range (seats % 256)).map fun i => ⟨UInt8.ofNat i⟩

def next? (p : PlayerId) (seats : Nat) : Option PlayerId :=
  if seats = 0 then none else some ⟨UInt8.ofNat (p.number % seats)⟩

theorem length_all (seats : Nat) : (all seats).length = seats % 256 := by simp [all]

theorem next?_index {p q : PlayerId} {seats : Nat} (h : p.next? seats = some q)
    (small : seats ≤ 256) :
    q.index.toNat = (p.index.toNat + 1) % seats := by
  unfold next? number at h
  split at h
  · cases h
  · rename_i pos
    injection h with h
    have lt : (p.index.toNat + 1) % seats < seats := Nat.mod_lt _ (Nat.pos_of_ne_zero pos)
    rw [← h]
    simp only [UInt8.toNat_ofNat']
    omega

end PlayerId

def maxPlayers : Nat := 255

inductive Refusal where
  | noPlayers
  | tooManyPlayers
  | notSeated (p : PlayerId)
  | noSeat (seats : Nat) (p : PlayerId)
  | emptyRound
  deriving DecidableEq, Repr

def Refusal.message : Refusal → String
  | noPlayers => "Must have at least 1 player"
  | tooManyPlayers => "At most " ++ toString maxPlayers ++ " players supported"
  | notSeated p => "No such player: " ++ p.label
  | noSeat seats p =>
    "index out of bounds: the len is " ++ toString seats ++ " but the index is "
      ++ toString p.index.toNat
  | emptyRound => "attempt to calculate the remainder with a divisor of zero"

def checkSeats (count : Nat) : Except Refusal Unit :=
  if count = 0 then .error .noPlayers
  else if maxPlayers < count then .error .tooManyPlayers
  else .ok ()

theorem checkSeats_eq_ok {count : Nat} :
    checkSeats count = .ok () ↔ 1 ≤ count ∧ count ≤ maxPlayers := by
  unfold checkSeats
  split
  · simp_all
  · split
    · simp only [reduceCtorEq, false_iff]
      omega
    · simp only [true_iff]
      omega

end CardEffects
