import CardEffects.Lang.Failure
import CardEffects.Lang.Value

/-!
# Events

What a run leaves in the log of the match: each change of a zone, each argument turned down, and the
start and end of each effect.
-/

namespace CardEffects

inductive ZoneChange where
  | pushed (card : CardId)
  | sentBottom (card : CardId)
  | removed (card : CardId) (found : Bool)
  | popped (card : Option CardId)
  | shuffled
  deriving DecidableEq, Repr

inductive Event where
  | changed (zone : ZoneHandle) (change : ZoneChange)
  | playerRejected (zone : ZoneKind) (found : ValueKind)
  | receiverRejected (method : String) (found : ValueKind)
  | argumentRejected (found : ValueKind)
  | effectInvoked (effect : String) (length : Nat)
  | effectAborted (effect : String) (error : RuntimeError)
  | effectFinished (effect : String) (result : Value)

inductive Level where
  | trace
  | debug
  | warn
  deriving DecidableEq, Repr

def Level.name : Level → String
  | trace => "TRACE"
  | debug => "DEBUG"
  | warn => "WARN"

structure Record where
  level : Level
  message : String
  fields : List (String × String)
  deriving DecidableEq, Repr

def boolText (b : Bool) : String := if b then "true" else "false"

def poppedText : Option CardId → String
  | some card => "Some(EntityId(" ++ toString card.raw ++ "))"
  | none => "None"

def poppedValue (card : Option CardId) : Value := (card.map Value.card).getD .null

def ZoneChange.record (zone : ZoneHandle) : ZoneChange → Record
  | pushed card => ⟨.trace, "pushed card to front", [("zone", zone.label), ("card", card.label)]⟩
  | sentBottom card => ⟨.trace, "sent card to bottom", [("zone", zone.label), ("card", card.label)]⟩
  | removed card found =>
    ⟨.trace, "remove", [("zone", zone.label), ("card", card.label), ("removed", boolText found)]⟩
  | popped card =>
    ⟨.trace, "popped front card",
      [("zone", zone.label), ("card", poppedText card), ("kind", (poppedValue card).kind.name)]⟩
  | shuffled => ⟨.trace, "shuffled", [("zone", zone.label)]⟩

def Event.record : Event → Record
  | changed zone change => change.record zone
  | playerRejected zone found =>
    ⟨.trace, "rejected player ID", [("zone", zone.name), ("found", found.name)]⟩
  | receiverRejected method found =>
    ⟨.trace, "rejected receiver", [("method", method), ("found", found.name)]⟩
  | argumentRejected found => ⟨.trace, "rejected method argument", [("found", found.name)]⟩
  | effectInvoked effect length =>
    ⟨.debug, "invoking effect", [("effect", effect), ("exprs", toString length)]⟩
  | effectAborted effect error =>
    ⟨.warn, "effect aborted", [("effect", effect), ("error", error.label)]⟩
  | effectFinished effect result =>
    ⟨.debug, "effect finished",
      [("effect", effect), ("result", result.label), ("kind", result.kind.name)]⟩

end CardEffects
