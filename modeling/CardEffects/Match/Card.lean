import CardEffects.Match.Zone

/-!
# Cards

What a match knows of a card in play. Scripts see only its id.
-/

namespace CardEffects

structure CardInstance where
  id : CardId
  name : String
  owner : Option PlayerId
  power : Int64
  deriving DecidableEq, Repr

namespace CardInstance

def isNeutral (c : CardInstance) : Bool := c.owner.isNone

def withPower (c : CardInstance) (power : Int64) : CardInstance := { c with power }

end CardInstance

end CardEffects
