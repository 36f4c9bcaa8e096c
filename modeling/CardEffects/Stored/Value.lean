import CardEffects.Lang.Value
import CardEffects.Stored.Zones

/-!
# Stored values

A value is stored as an object with one field, named for its kind; null as the bare name.
-/

namespace CardEffects

def ZoneHandle.toJson (h : ZoneHandle) : Json := .ofUInt32 h.raw

def ZoneHandle.ofJson? (j : Json) : Option ZoneHandle := j.uint32?.map (⟨·⟩)

def Value.ofJson? : Json → Option Value
  | .obj [("Number", j)] => j.number?.map number
  | .obj [("Text", j)] => j.str?.map text
  | .obj [("Boolean", j)] => j.bool?.map boolean
  | .obj [("Card", j)] => (CardId.ofJson? j).map card
  | .obj [("CardList", j)] => (ZoneHandle.ofJson? j).map cardList
  | .obj [("Null", .null)] => some null
  | .str "Null" => some null
  | _ => none

end CardEffects
