import CardEffects.Lang.Operator
import CardEffects.Lang.Run

/-!
# Methods of card lists

What each method does to the cards of a zone, what it says about it and what it yields, and the run
that does so in a context.
-/

namespace CardEffects

namespace CardMethod

def apply (c : CardId) (cards : List CardId) : CardMethod → List CardId
  | push => c :: cards
  | sendBottom => cards ++ [c]
  | remove => cards.erase c

def change (c : CardId) (cards : List CardId) : CardMethod → ZoneChange
  | push => .pushed c
  | sendBottom => .sentBottom c
  | remove => .removed c (cards.contains c)

def result (zone : ZoneHandle) (c : CardId) (cards : List CardId) : CardMethod → Value
  | push | sendBottom => .cardList zone
  | remove => .boolean (cards.contains c)

end CardMethod

namespace Run

variable {χ : Type} [ScriptContext χ]

def cardsOf (zone : ZoneHandle) (pos : SourcePos) : Run χ RuntimeError (List CardId) := do
  match ScriptContext.cards? (← getContext) zone with
  | some cards => return cards
  | none => fail ⟨.unknownZone zone, pos⟩

def editOf (zone : ZoneHandle) (pos : SourcePos) : Run χ RuntimeError (ZoneEdit χ) := do
  match ScriptContext.edit? (← getContext) zone with
  | some edit => return edit
  | none => fail ⟨.unknownZone zone, pos⟩

def applyCard (m : CardMethod) (zone : ZoneHandle) (c : CardId) (pos : SourcePos) :
    Run χ RuntimeError Value := do
  let edit ← editOf zone pos
  setContext (edit.put (m.apply c edit.cards))
  emit (.changed zone (m.change c edit.cards))
  return m.result zone c edit.cards

def pop (zone : ZoneHandle) (pos : SourcePos) : Run χ RuntimeError Value := do
  let edit ← editOf zone pos
  setContext (edit.put edit.cards.tail)
  emit (.changed zone (.popped edit.cards.head?))
  return poppedValue edit.cards.head?

/-- The order is drawn before the zone is opened for the change. -/
def shuffle (zone : ZoneHandle) (pos : SourcePos) : Run χ RuntimeError Value := do
  let cards ← cardsOf zone pos
  let context ← getContext
  let (order, rng) := (ScriptContext.rng context).shuffle cards
  setContext (ScriptContext.withRng context rng)
  let edit ← editOf zone pos
  setContext (edit.put order)
  emit (.changed zone .shuffled)
  return .cardList zone

def applyPile (m : PileMethod) (zone : ZoneHandle) (pos : SourcePos) : Run χ RuntimeError Value :=
  match m with
  | .pop => pop zone pos
  | .shuffle => shuffle zone pos

end Run

end CardEffects
