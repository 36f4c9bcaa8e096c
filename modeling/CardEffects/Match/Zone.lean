import CardEffects.Match.Player

/-!
# Zones

The places where cards lie. A store holds every zone of a match in one array, and a handle is a
place in it; so whoever holds a handle reads and changes the zone itself. The first card of a zone
is at its front, the last at its bottom.
-/

namespace CardEffects

structure CardId where
  raw : UInt32
  deriving DecidableEq, Repr

namespace CardId

def label (c : CardId) : String := "Card#" ++ toString c.raw

def next (c : CardId) : CardId := ⟨c.raw + 1⟩

end CardId

inductive ZoneKind where
  | board
  | hand
  | field
  | graveyard
  | deck
  deriving DecidableEq, Repr

namespace ZoneKind

def name : ZoneKind → String
  | board => "Board"
  | hand => "Hand"
  | field => "Field"
  | graveyard => "Graveyard"
  | deck => "Deck"

def perPlayer : List ZoneKind := [hand, field, graveyard, deck]

def all : List ZoneKind := board :: perPlayer

def isShared (k : ZoneKind) : Bool := k == board

def place? (k : ZoneKind) : Option Nat := perPlayer.findIdx? (· == k)

def ofName? (name : String) : Option ZoneKind := all.find? (·.name == name)

theorem ofName?_name (k : ZoneKind) : ofName? k.name = some k := by cases k <;> decide

end ZoneKind

structure ZoneHandle where
  raw : UInt32
  deriving DecidableEq, Repr

def ZoneHandle.label (h : ZoneHandle) : String := "Zone(" ++ toString h.raw ++ ")"

structure Zone where
  kind : ZoneKind
  owner : Option PlayerId
  cards : List CardId
  deriving DecidableEq, Repr

structure ZoneStore where
  zones : Array Zone
  deriving DecidableEq, Repr

namespace ZoneStore

def empty : ZoneStore := ⟨#[]⟩

def size (s : ZoneStore) : Nat := s.zones.size

def zone? (s : ZoneStore) (h : ZoneHandle) : Option Zone := s.zones[h.raw.toNat]?

def cards? (s : ZoneStore) (h : ZoneHandle) : Option (List CardId) := (s.zone? h).map (·.cards)

def kind? (s : ZoneStore) (h : ZoneHandle) : Option ZoneKind := (s.zone? h).map (·.kind)

def owner? (s : ZoneStore) (h : ZoneHandle) : Option PlayerId := (s.zone? h).bind (·.owner)

def create (s : ZoneStore) (kind : ZoneKind) (owner : Option PlayerId) : ZoneHandle × ZoneStore :=
  (⟨UInt32.ofNat s.size⟩, ⟨s.zones.push ⟨kind, owner, []⟩⟩)

def setCards (s : ZoneStore) (h : ZoneHandle) (cards : List CardId) : ZoneStore :=
  match s.zone? h with
  | some zone => ⟨s.zones.setIfInBounds h.raw.toNat { zone with cards }⟩
  | none => s

def pushFront? (s : ZoneStore) (h : ZoneHandle) (c : CardId) : Option ZoneStore :=
  (s.cards? h).map fun cards => s.setCards h (c :: cards)

def pushBack? (s : ZoneStore) (h : ZoneHandle) (c : CardId) : Option ZoneStore :=
  (s.cards? h).map fun cards => s.setCards h (cards ++ [c])

def popFront? (s : ZoneStore) (h : ZoneHandle) : Option (Option CardId × ZoneStore) :=
  (s.cards? h).map fun cards => (cards.head?, s.setCards h cards.tail)

def locate? (s : ZoneStore) (c : CardId) : Option ZoneHandle :=
  (s.zones.findIdx? (·.cards.contains c)).map fun i => ⟨UInt32.ofNat i⟩

def allCards (s : ZoneStore) : List CardId := s.zones.toList.flatMap (·.cards)

def totalCards (s : ZoneStore) : Nat := s.allCards.length

theorem zone?_setCards (s : ZoneStore) (h i : ZoneHandle) (cards : List CardId) :
    (s.setCards h cards).zone? i
      = if i = h then (s.zone? i).map fun zone => { zone with cards } else s.zone? i := by
  unfold setCards
  by_cases same : i = h
  · subst same
    cases found : s.zone? i with
    | none => simp [found]
    | some zone =>
      have lt : i.raw.toNat < s.zones.size := (Array.getElem?_eq_some_iff.mp found).1
      simp [zone?, lt]
  · have other : h.raw.toNat ≠ i.raw.toNat := by
      intro eq
      exact same (by cases h; cases i; simp_all [UInt32.toNat_inj])
    cases s.zone? h <;> simp [zone?, same, other]

theorem cards?_setCards (s : ZoneStore) (h i : ZoneHandle) (cards : List CardId) :
    (s.setCards h cards).cards? i =
      if i = h then (s.cards? i).map fun _ => cards else s.cards? i := by
  simp only [cards?, zone?_setCards]
  split <;> simp [Function.comp_def]

theorem size_setCards (s : ZoneStore) (h : ZoneHandle) (cards : List CardId) :
    (s.setCards h cards).size = s.size := by
  unfold setCards size
  cases s.zone? h <;> simp

theorem zone?_create (s : ZoneStore) (kind : ZoneKind) (owner : Option PlayerId) (i : ZoneHandle) :
    (s.create kind owner).2.zone? i
      = if i.raw.toNat = s.size then some ⟨kind, owner, []⟩ else s.zone? i := by
  simp only [zone?, create, size, Array.getElem?_push]
  rfl

end ZoneStore

end CardEffects
