import CardEffects.Match.Player

/-!
# Seat maps

One value for each player, in seat order.
-/

namespace CardEffects

structure SeatMap (α : Type) where
  values : Array α
  deriving DecidableEq, Repr

namespace SeatMap

variable {α : Type}

def generate (count : Nat) (f : PlayerId → α) : Except Refusal (SeatMap α) := do
  checkSeats count
  return ⟨((PlayerId.all count).map f).toArray⟩

def size (m : SeatMap α) : Nat := m.values.size

def get (m : SeatMap α) (p : PlayerId) : Except Refusal α :=
  match m.values[p.index.toNat]? with
  | some value => .ok value
  | none => .error (.noSeat m.size p)

def modify (m : SeatMap α) (p : PlayerId) (f : α → α) : Except Refusal (SeatMap α) :=
  (m.get p).map fun value => ⟨m.values.setIfInBounds p.index.toNat (f value)⟩

/-- The values with their players, in seat order; a seat is named by a byte. -/
def toList (m : SeatMap α) : List (PlayerId × α) :=
  m.values.toList.zipIdx.map fun entry => (⟨UInt8.ofNat entry.2⟩, entry.1)

theorem size_of_generate {count : Nat} {f : PlayerId → α} {m : SeatMap α}
    (h : generate count f = .ok m) : m.size = count ∧ 1 ≤ count ∧ count ≤ maxPlayers := by
  unfold generate at h
  cases checked : checkSeats count with
  | error r => simp [checked, bind, Except.bind] at h
  | ok u =>
    have range : 1 ≤ count ∧ count ≤ maxPlayers := checkSeats_eq_ok.mp checked
    have small : count % 256 = count := Nat.mod_eq_of_lt (Nat.lt_succ_of_le range.2)
    simp only [checked, bind, Except.bind, pure, Except.pure, Except.ok.injEq] at h
    subst h
    exact ⟨by simp [size, PlayerId.length_all, small], range⟩

theorem length_toList (m : SeatMap α) : m.toList.length = m.size := by simp [toList, size]

end SeatMap

end CardEffects
