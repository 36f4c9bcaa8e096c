import CardEffects.Effect.Registry
import CardEffects.Proofs.Methods

/-!
# Reachable sessions

What a host can make of a match that has just started: it brings cards into play, changes their
power, gives the turn to a player, sets variables and runs scripts, in any order. A session is
reached along with the cards that were brought into play on the way, the latest first.
-/

open scoped List
namespace CardEffects

/-- The sessions of a match that the host can reach if it hands scripts only values that are
allowed. Scripts may end in any way, and a request that the match refuses leads nowhere. -/
inductive Reachable (Allowed : List CardId → MatchState → Value → Prop) (config : MatchConfig) :
    List CardId → Session MatchState → Prop
  | start {m : MatchState} :
      MatchState.start config = .ok m → Reachable Allowed config [] ⟨.empty, m⟩
  | spawn {ids : List CardId} {s : Session MatchState} {id : CardId} {m : MatchState}
      (name : String) (owner : PlayerId) (kind : ZoneKind) (power : Int64) :
      Reachable Allowed config ids s → s.context.spawn name owner kind power = .ok (id, m) →
      Reachable Allowed config (id :: ids) { s with context := m }
  | spawnNeutral {ids : List CardId} {s : Session MatchState} {id : CardId} {m : MatchState}
      (name : String) :
      Reachable Allowed config ids s → s.context.spawnNeutral name = (id, m) →
      Reachable Allowed config (id :: ids) { s with context := m }
  | setPower {ids : List CardId} {s : Session MatchState} (c : CardId) (power : Int64) :
      Reachable Allowed config ids s →
      Reachable Allowed config ids { s with context := s.context.setPower c power }
  | setActive {ids : List CardId} {s : Session MatchState} {m : MatchState} (p : PlayerId) :
      Reachable Allowed config ids s → s.context.setActive p = .ok m →
      Reachable Allowed config ids { s with context := m }
  | passTurn {ids : List CardId} {s : Session MatchState} {m : MatchState} :
      Reachable Allowed config ids s → s.context.passTurn = .ok m →
      Reachable Allowed config ids { s with context := m }
  | assign {ids : List CardId} {s : Session MatchState} (name : String) (v : Value) :
      Reachable Allowed config ids s → Allowed ids s.context v →
      Reachable Allowed config ids { s with env := s.env.assign name v }
  | evaluate {ids : List CardId} {s : Session MatchState} (limit : EvalConfig) (e : Expr) :
      Reachable Allowed config ids s → Reachable Allowed config ids (limit.run e s).session
  | invoke {ids : List CardId} {s : Session MatchState} (r : EffectRegistry) (name : String)
      (vars : Environment) :
      Reachable Allowed config ids s →
      (∀ x v, vars.lookup? x = some v → Allowed ids s.context v) →
      Reachable Allowed config ids
        { s with context := (r.invoke name vars s.context).session.context }

/-- A card is new to the match, and afterwards it lies in one zone and there once. -/
structure Brought (before : MatchState) (c : CardId) (after : MatchState) (zone : ZoneHandle) :
    Prop where
  not_in_play : c.raw ∉ before.cards
  not_in_zones : c ∉ before.zones.allCards
  once : after.zones.allCards.count c = 1
  located : after.locate? c = some zone

namespace MatchState

theorem locate?_eq (s : MatchState) (c : CardId) :
    s.locate? c = (s.piles.lists.findIdx? (·.contains c)).map fun i => ⟨UInt32.ofNat i⟩ := by
  obtain ⟨seats, active, ⟨⟨zones⟩⟩, cards, rng, next⟩ := s
  simp only [locate?, ZoneStore.locate?, piles, List.findIdx?_map, List.findIdx?_toArray]
  rfl

theorem locate?_withCards {s : MatchState} {zone : ZoneHandle} {cards : List CardId} {c : CardId}
    (known : zone.raw.toNat < s.zones.size) (fresh : c ∉ s.zones.allCards) (there : c ∈ cards) :
    (s.withCards zone cards).locate? c = some zone := by
  have length : zone.raw.toNat < s.piles.lists.length := by
    simpa [piles, ZoneStore.size] using known
  have first : (s.withCards zone cards).piles.lists.findIdx? (·.contains c) =
      some zone.raw.toNat := by
    rw [lists_withCards, List.findIdx?_eq_some_iff_getElem]
    refine ⟨by simpa using length, by simpa using there, fun j before held => ?_⟩
    have other : zone.raw.toNat ≠ j := by omega
    rw [List.getElem_set_ne other] at held
    apply fresh
    rw [allCards_eq_flatten]
    exact List.mem_flatten.mpr ⟨_, List.getElem_mem _, by simpa using held⟩
  rw [locate?_eq, first]
  simp

theorem spawn_eq_ok {s : MatchState} {name : String} {owner : PlayerId} {kind : ZoneKind}
    {power : Int64} {r : CardId × MatchState} : s.spawn name owner kind power = .ok r ↔
      owner.index.toNat < s.seats ∧ s.place name (some owner) power (handleOf kind owner) = r := by
  simp only [spawn, zoneHandle]
  by_cases seated : owner.index.toNat < s.seats <;> simp [seated, Except.map]

theorem frame_place (s : MatchState) (name : String) (owner : Option PlayerId) (power : Int64)
    (zone : ZoneHandle) :
    (s.place name owner power zone).2.frame =
      { s.frame with
        cards := s.frame.cards.insert s.frame.nextCard.raw ⟨s.frame.nextCard, name, owner, power⟩
        nextCard := s.frame.nextCard.next } := by
  have zones := congrArg Frame.zones
    (s.frame_withCards zone ((s.zones.cards? zone).getD [] ++ [s.nextCard]))
  simp only [frame, withCards] at zones
  simp only [frame, place, zones]

theorem allCards_place {s : MatchState} {zone : ZoneHandle} (known : zone.raw.toNat < s.zones.size)
    (name : String) (owner : Option PlayerId) (power : Int64) :
    (s.place name owner power zone).2.zones.allCards ~ s.nextCard :: s.zones.allCards := by
  have found : (s.zones.cards? zone).isSome := by
    rw [cards?_isSome_iff, length_frame_zones]
    exact known
  obtain ⟨cards, found⟩ := Option.isSome_iff_exists.mp found
  obtain ⟨others, before, after⟩ := exists_others found
  have moved : (s.place name owner power zone).2.zones
      = (s.withCards zone (cards ++ [s.nextCard])).zones := by
    simp only [place, withCards, found, Option.getD_some]
  calc (s.place name owner power zone).2.zones.allCards
    _ = (s.withCards zone (cards ++ [s.nextCard])).zones.allCards := by rw [moved]
    _ ~ cards ++ [s.nextCard] ++ others := after _
    _ ~ s.nextCard :: cards ++ others := List.perm_append_comm.append_right others
    _ ~ s.nextCard :: s.zones.allCards := before.symm.cons _

theorem brought_place {s : MatchState} {zone : ZoneHandle} (known : zone.raw.toNat < s.zones.size)
    (unused : s.nextCard.raw ∉ s.cards) (nowhere : s.nextCard ∉ s.zones.allCards) (name : String)
    (owner : Option PlayerId) (power : Int64) :
    Brought s s.nextCard (s.place name owner power zone).2 zone where
  not_in_play := unused
  not_in_zones := nowhere
  once := by
    rw [(allCards_place known name owner power).count_eq, List.count_cons_self,
      List.count_eq_zero.mpr nowhere]
  located := locate?_withCards known nowhere (by simp)

end MatchState

end CardEffects
