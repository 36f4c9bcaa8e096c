import CardEffects.Match.Card
import CardEffects.Match.Config
import CardEffects.Match.SeatMap
import CardEffects.Stored.Zones

/-!
# Stored cards, seat maps and configurations
-/

namespace CardEffects

def Json.ofInt64 (n : Int64) : Json := .int n.toInt

namespace CardInstance

def toJson (c : CardInstance) : Json :=
  .obj [("entity_id", c.id.toJson), ("name", .str c.name),
    ("owner", .ofOption PlayerId.toJson c.owner), ("power", .ofInt64 c.power)]

def ofJson? (j : Json) : Option CardInstance := do
  let record ← j.record? ["entity_id", "name", "owner", "power"]
  let id ← CardId.ofJson? (← record.field? "entity_id")
  let name ← (← record.field? "name").str?
  let owner ← Json.optional? PlayerId.ofJson? (record.field? "owner")
  let power ← (← record.field? "power").int64?
  return ⟨id, name, owner, power⟩

end CardInstance

namespace SeatMap

variable {α : Type}

def toJson (write : α → Json) (m : SeatMap α) : Json :=
  .obj [("data", .arr (m.values.toList.map write))]

def ofJson? (read : Json → Option α) (j : Json) : Option (SeatMap α) := do
  let record ← j.record? ["data"]
  let values ← (← (← record.field? "data").arr?).mapM read
  return ⟨values.toArray⟩

end SeatMap

namespace MatchConfig

def toJson (c : MatchConfig) : Json :=
  .obj [("player_count", .int c.playerCount), ("seed", .int c.seed.toNat)]

def fieldsOfJson? (j : Json) : Option (Nat × UInt64) := do
  let record ← j.record? ["player_count", "seed"]
  let count ← (← record.field? "player_count").natBelow? UInt64.size
  match record.field? "seed" with
  | some seed => return (count, ← seed.uint64?)
  | none => return (count, 0)

/-- A configuration if the value has the form of one; the seat count is checked last. -/
def ofJson? (j : Json) : Option (Except SeatCountError MatchConfig) :=
  (fieldsOfJson? j).map fun (count, seed) => (tryNew count).map (·.withSeed seed)

end MatchConfig

namespace EvalConfig

def toJson (c : EvalConfig) : Json := .obj [("max_depth", .int c.maxDepth)]

def ofJson? (j : Json) : Option EvalConfig := do
  let record ← j.record? ["max_depth"]
  return ⟨← (← record.field? "max_depth").natBelow? UInt64.size⟩

end EvalConfig

end CardEffects
