import CardEffects.Match.State

/-!
# Contexts

What a script can ask of a match and do to it. A context may show a zone and yet refuse to have it
changed; `Frozen` is such a view of any other.
-/

namespace CardEffects

/-- A zone opened for a change: its cards, and the context with other cards in their place. -/
structure ZoneEdit (χ : Type) where
  cards : List CardId
  put : List CardId → χ

class ScriptContext (χ : Type) where
  activePlayer : χ → PlayerId
  player? : χ → Int → Option PlayerId
  zone : χ → ZoneKind → PlayerId → Except Refusal ZoneHandle
  cards? : χ → ZoneHandle → Option (List CardId)
  edit? : χ → ZoneHandle → Option (ZoneEdit χ)
  rng : χ → Random.Generator
  withRng : χ → Random.Generator → χ

instance : ScriptContext MatchState where
  activePlayer s := s.activePlayer
  player? s number := PlayerId.ofNumber? number s.seats
  zone := MatchState.zoneHandle
  cards? s h := s.zones.cards? h
  edit? s h := (s.zones.cards? h).map fun cards => ⟨cards, s.withCards h⟩
  rng s := s.rng
  withRng s g := { s with rng := g }

structure Frozen (χ : Type) where
  base : χ

instance {χ : Type} [ScriptContext χ] : ScriptContext (Frozen χ) where
  activePlayer c := ScriptContext.activePlayer c.base
  player? c := ScriptContext.player? c.base
  zone c := ScriptContext.zone c.base
  cards? c := ScriptContext.cards? c.base
  edit? _ _ := none
  rng c := ScriptContext.rng c.base
  withRng c g := ⟨ScriptContext.withRng c.base g⟩

end CardEffects
