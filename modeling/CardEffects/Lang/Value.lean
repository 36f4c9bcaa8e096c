import CardEffects.Match.Zone
import CardEffects.Number.Numeral

/-!
# Values

What expressions evaluate to. No value turns into one of another kind by itself. A card and a card
list are names for what the match holds, so that a copy of the value is no copy of the cards.
-/

namespace CardEffects

inductive ValueKind where
  | number
  | text
  | boolean
  | card
  | cardList
  | null
  deriving DecidableEq, Repr

def ValueKind.name : ValueKind → String
  | number => "number"
  | text => "text"
  | boolean => "boolean"
  | card => "card"
  | cardList => "card list"
  | null => "null"

inductive Value where
  | number (x : Float)
  | text (s : String)
  | boolean (b : Bool)
  | card (c : CardId)
  | cardList (zone : ZoneHandle)
  | null

namespace Value

def kind : Value → ValueKind
  | number _ => .number
  | text _ => .text
  | boolean _ => .boolean
  | card _ => .card
  | cardList _ => .cardList
  | null => .null

def isNull (v : Value) : Bool := v.kind == .null

def number? : Value → Option Float
  | number x => some x
  | _ => none

def text? : Value → Option String
  | text s => some s
  | _ => none

def boolean? : Value → Option Bool
  | boolean b => some b
  | _ => none

def card? : Value → Option CardId
  | card c => some c
  | _ => none

def cardList? : Value → Option ZoneHandle
  | cardList zone => some zone
  | _ => none

/-- The same value: numbers by their own comparison, for which no NaN is the same as another, and
card lists by name. -/
def same : Value → Value → Bool
  | number x, number y => x == y
  | text s, text t => s == t
  | boolean a, boolean b => a == b
  | card c, card d => c == d
  | cardList y, cardList z => y == z
  | null, null => true
  | _, _ => false

def label : Value → String
  | number x => Number.numeral x
  | text s => s
  | boolean b => if b then "true" else "false"
  | card c => c.label
  | cardList zone => zone.label
  | null => "null"

end Value

end CardEffects
