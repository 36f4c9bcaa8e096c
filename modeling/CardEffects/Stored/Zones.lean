import CardEffects.Match.Zone
import CardEffects.Stored.Syntax

/-!
# Stored zones

A store of zones as the list of its zones, in the order of their handles. A shared zone has null for
its owner; when a store is read the owner may also be left out.
-/

namespace CardEffects

def PlayerId.toJson (p : PlayerId) : Json := .ofUInt8 p.index

def PlayerId.ofJson? (j : Json) : Option PlayerId := j.uint8?.map (⟨·⟩)

def CardId.toJson (c : CardId) : Json := .ofUInt32 c.raw

def CardId.ofJson? (j : Json) : Option CardId := j.uint32?.map (⟨·⟩)

namespace Zone

def toJson (z : Zone) : Json :=
  .obj [("kind", .str z.kind.name), ("owner", .ofOption PlayerId.toJson z.owner),
    ("cards", .arr (z.cards.map CardId.toJson))]

def ofJson? (j : Json) : Option Zone := do
  let record ← j.record? ["kind", "owner", "cards"]
  let kind ← ZoneKind.ofJson? (← record.field? "kind")
  let owner ← Json.optional? PlayerId.ofJson? (record.field? "owner")
  let cards ← (← (← record.field? "cards").arr?).mapM CardId.ofJson?
  return ⟨kind, owner, cards⟩

end Zone

namespace ZoneStore

def toJson (s : ZoneStore) : Json := .obj [("slots", .arr (s.zones.toList.map Zone.toJson))]

def ofJson? (j : Json) : Option ZoneStore := do
  let record ← j.record? ["slots"]
  let zones ← (← (← record.field? "slots").arr?).mapM Zone.ofJson?
  return ⟨zones.toArray⟩

end ZoneStore

end CardEffects
