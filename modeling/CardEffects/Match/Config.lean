import CardEffects.Match.Player

/-!
# Configuration

What a match starts from, and the limit on the nesting of scripts.
-/

namespace CardEffects

structure MatchConfig where
  playerCount : Nat
  seed : UInt64
  deriving DecidableEq, Repr

structure SeatCountError where
  count : Nat
  deriving DecidableEq, Repr

def SeatCountError.message (e : SeatCountError) : String :=
  "player count must be between 1 and " ++ toString maxPlayers ++ ", got " ++ toString e.count

namespace MatchConfig

def new (count : Nat) : Except Refusal MatchConfig := do
  checkSeats count
  return ⟨count, 0⟩

def tryNew (count : Nat) : Except SeatCountError MatchConfig :=
  if 1 ≤ count ∧ count ≤ maxPlayers then .ok ⟨count, 0⟩ else .error ⟨count⟩

def withSeed (c : MatchConfig) (seed : UInt64) : MatchConfig := { c with seed }

def default : MatchConfig := ⟨2, 0⟩

end MatchConfig

structure EvalConfig where
  maxDepth : Nat
  deriving DecidableEq, Repr

def EvalConfig.default : EvalConfig := ⟨256⟩

end CardEffects
