import CardEffects.Effect.Script
import CardEffects.Stored.Syntax

/-!
# Stored effect scripts
-/

namespace CardEffects.EffectScript

def toJson (s : EffectScript) : Json :=
  .obj [("name", .str s.name), ("body", .arr (s.body.map Expr.toJson))]

def ofJson? (j : Json) : Option EffectScript := do
  let record ← j.record? ["name", "body"]
  let name ← (← record.field? "name").str?
  let body ← (← (← record.field? "body").arr?).mapM Expr.ofJson?
  return ⟨name, body⟩

end CardEffects.EffectScript
