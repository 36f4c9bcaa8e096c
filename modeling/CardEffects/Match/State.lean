import CardEffects.Match.Card
import CardEffects.Match.Config
import CardEffects.Random.Generator
import Std.Data.TreeMap

/-!
# The state of a match

Seats, zones, cards, turn and generator. The zones are laid out by a fixed rule: the board first,
then for each seat its hand, field, graveyard and deck; so a zone's handle follows from its kind and
its seat.
-/

namespace CardEffects

structure MatchState where
  seats : Nat
  activePlayer : PlayerId
  zones : ZoneStore
  cards : Std.TreeMap UInt32 CardInstance
  rng : Random.Generator
  nextCard : CardId

namespace MatchState

def board : ZoneHandle := ⟨0⟩

def seatZones (p : PlayerId) : List Zone := ZoneKind.perPlayer.map fun kind => ⟨kind, some p, []⟩

def layout (seats : Nat) : ZoneStore :=
  ⟨(⟨.board, none, []⟩ :: (PlayerId.all seats).flatMap seatZones).toArray⟩

/-- The handle of a zone in the layout. A shared zone has one handle for all players. -/
def handleOf (kind : ZoneKind) (p : PlayerId) : ZoneHandle :=
  match kind.place? with
  | some place => ⟨UInt32.ofNat (1 + ZoneKind.perPlayer.length * p.index.toNat + place)⟩
  | none => board

def start (config : MatchConfig) : Except Refusal MatchState := do
  checkSeats config.playerCount
  return {
    seats := config.playerCount
    activePlayer := ⟨0⟩
    zones := layout config.playerCount
    cards := ∅
    rng := .ofSeed config.seed
    nextCard := ⟨1⟩ }

def new (seats : Nat) (seed : UInt64) : Except Refusal MatchState := do
  start ((← MatchConfig.new seats).withSeed seed)

def setActive (s : MatchState) (p : PlayerId) : Except Refusal MatchState :=
  if p.index.toNat < s.seats then .ok { s with activePlayer := p } else .error (.notSeated p)

def passTurn (s : MatchState) : Except Refusal MatchState :=
  match s.activePlayer.next? s.seats with
  | some p => .ok { s with activePlayer := p }
  | none => .error .emptyRound

def zoneHandle (s : MatchState) (kind : ZoneKind) (p : PlayerId) : Except Refusal ZoneHandle :=
  if p.index.toNat < s.seats then .ok (handleOf kind p) else .error (.noSeat s.seats p)

theorem zoneHandle_eq_ok {s : MatchState} {kind : ZoneKind} {p : PlayerId} {h : ZoneHandle} :
    s.zoneHandle kind p = .ok h ↔ p.index.toNat < s.seats ∧ handleOf kind p = h := by
  unfold zoneHandle
  by_cases seated : p.index.toNat < s.seats <;> simp [seated]

def zoneCards (s : MatchState) (kind : ZoneKind) (p : PlayerId) : Except Refusal (List CardId) :=
  (s.zoneHandle kind p).map fun h => (s.zones.cards? h).getD []

def playerZones (s : MatchState) (p : PlayerId) : Except Refusal (List ZoneHandle) :=
  ZoneKind.perPlayer.mapM (s.zoneHandle · p)

def locate? (s : MatchState) (c : CardId) : Option ZoneHandle := s.zones.locate? c

def withCards (s : MatchState) (h : ZoneHandle) (cards : List CardId) : MatchState :=
  { s with zones := s.zones.setCards h cards }

def card? (s : MatchState) (c : CardId) : Option CardInstance := s.cards[c.raw]?

def setPower (s : MatchState) (c : CardId) (power : Int64) : MatchState :=
  match s.card? c with
  | some card => { s with cards := s.cards.insert c.raw (card.withPower power) }
  | none => s

def place (s : MatchState) (name : String) (owner : Option PlayerId) (power : Int64)
    (h : ZoneHandle) :
    CardId × MatchState :=
  let id := s.nextCard
  (id, { s with
    zones := s.zones.setCards h ((s.zones.cards? h).getD [] ++ [id])
    cards := s.cards.insert id.raw ⟨id, name, owner, power⟩
    nextCard := id.next })

def spawn (s : MatchState) (name : String) (owner : PlayerId) (kind : ZoneKind) (power : Int64) :
    Except Refusal (CardId × MatchState) :=
  (s.zoneHandle kind owner).map (s.place name (some owner) power)

def spawnNeutral (s : MatchState) (name : String) : CardId × MatchState := s.place name none 0 board

end MatchState

end CardEffects
