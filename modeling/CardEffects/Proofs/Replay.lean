import CardEffects.Proofs.Methods

/-!
# Replaying the events of a run

The events of a run tell all that it did to the match: carried out again in order on the piles of
the match before, they give the piles of the match after, and outside its piles the match is the
same. This holds however the run ends, so that a run which fails half way is as fully told.
-/

namespace CardEffects

/-- The cards of a zone and the generator after a change, if the cards were such as it says. -/
def ZoneChange.replay (cards : List CardId) (rng : Random.Generator) :
    ZoneChange → Option (List CardId × Random.Generator)
  | pushed c => some (c :: cards, rng)
  | sentBottom c => some (cards ++ [c], rng)
  | removed c true => if c ∈ cards then some (cards.erase c, rng) else none
  | removed c false => if c ∈ cards then none else some (cards, rng)
  | popped (some c) => if cards.head? = some c then some (cards.tail, rng) else none
  | popped none => if cards = [] then some (cards, rng) else none
  | shuffled => some (rng.shuffle cards)

def Event.replay (p : Piles) : Event → Option Piles
  | changed zone change => do
    let cards ← p.lists[zone.raw.toNat]?
    let (moved, rng) ← change.replay cards p.rng
    return ⟨p.lists.set zone.raw.toNat moved, rng⟩
  | playerRejected _ _ | receiverRejected _ _ | argumentRejected _ => some p
  | effectInvoked _ _ | effectAborted _ _ | effectFinished _ _ => some p

def Piles.replay (p : Piles) (events : List Event) : Option Piles := events.foldlM Event.replay p

theorem Piles.replay_append {p q : Piles} {events : List Event} (h : p.replay events = some q)
    (later : List Event) : p.replay (events ++ later) = q.replay later := by
  simp only [Piles.replay] at h ⊢
  rw [List.foldlM_append, h]
  rfl

theorem Event.replay_rejection (p : Piles) {event : Event} (h : event.isRejection = true) :
    event.replay p = some p := by
  cases event <;> first | rfl | cases h

theorem CardMethod.replay_change (m : CardMethod) (c : CardId) (cards : List CardId)
    (rng : Random.Generator) :
    (m.change c cards).replay cards rng = some (m.apply c cards, rng) := by
  cases m with
  | push => rfl
  | sendBottom => rfl
  | remove =>
    by_cases h : c ∈ cards
    · simp [CardMethod.change, CardMethod.apply, ZoneChange.replay, h]
    · simp [CardMethod.change, CardMethod.apply, ZoneChange.replay, h, List.erase_of_not_mem]

theorem ZoneChange.replay_popped (cards : List CardId) (rng : Random.Generator) :
    (ZoneChange.popped cards.head?).replay cards rng = some (cards.tail, rng) := by
  cases cards <;> simp [ZoneChange.replay]

def Replays (s : Session MatchState) (events : List Event) (t : Session MatchState) : Prop :=
  s.context.piles.replay events = some t.context.piles ∧ t.context.frame = s.context.frame

theorem replays_changed {s : Session MatchState} {zone : ZoneHandle} {cards moved : List CardId}
    {change : ZoneChange} {rng : Random.Generator}
    (known : s.context.zones.cards? zone = some cards)
    (told : change.replay cards s.context.rng = some (moved, rng)) :
    Replays s [.changed zone change]
      { s with context := { s.context.withCards zone moved with rng } } := by
  refine ⟨?_, s.context.frame_withCards zone moved⟩
  have there := s.context.piles_getElem? zone
  rw [known] at there
  have step : Event.replay s.context.piles (.changed zone change)
      = some ⟨s.context.piles.lists.set zone.raw.toNat moved, rng⟩ := by
    simp only [Event.replay, there, Option.bind_eq_bind, Option.bind_some]
    rw [show s.context.piles.rng = s.context.rng from rfl, told]
    rfl
  simp only [Piles.replay, List.foldlM_cons, List.foldlM_nil, step, Option.bind_eq_bind,
    Option.bind_some]
  rw [← s.context.lists_withCards zone moved]
  rfl

theorem leaves_replays_card (m : CardMethod) (zone : ZoneHandle) (c : CardId) (pos : SourcePos) :
    Run.Leaves Replays (Run.applyCard m zone c pos) := by
  intro s
  rw [Run.applyCard_apply]
  cases known : s.context.zones.cards? zone with
  | none => exact ⟨rfl, rfl⟩
  | some cards => exact replays_changed known (m.replay_change c cards s.context.rng)

theorem leaves_replays_pile (m : PileMethod) (zone : ZoneHandle) (pos : SourcePos) :
    Run.Leaves Replays (Run.applyPile m zone pos) := by
  intro s
  cases m with
  | pop =>
    rw [Run.applyPile, Run.pop_apply]
    cases known : s.context.zones.cards? zone with
    | none => exact ⟨rfl, rfl⟩
    | some cards => exact replays_changed known (ZoneChange.replay_popped cards s.context.rng)
  | shuffle =>
    rw [Run.applyPile, Run.shuffle_apply]
    cases known : s.context.zones.cards? zone with
    | none => exact ⟨rfl, rfl⟩
    | some cards => exact replays_changed known rfl

theorem replays_isScriptTrace : Run.IsScriptTrace Replays where
  nil _ := ⟨rfl, rfl⟩
  append h later := by
    refine ⟨?_, later.2.trans h.2⟩
    rw [Piles.replay_append h.1]
    exact later.1
  assigned _ _ _ _ := ⟨rfl, rfl⟩
  rejected s _ h := by
    refine ⟨?_, rfl⟩
    simp only [Piles.replay, List.foldlM_cons, List.foldlM_nil, Event.replay_rejection _ h]
    rfl
  card := leaves_replays_card
  pile := leaves_replays_pile

theorem run_replays (config : EvalConfig) (e : Expr) (s : Session MatchState) :
    Replays s (config.run e s).events (config.run e s).session := by
  rw [EvalConfig.run_eq]
  exact Run.evaluate_leaves replays_isScriptTrace _ _ e s

/-- The events of a run, replayed on the piles that it found, give the piles that it left, and the
rest of the match is as it was: turn, seats and their zones, cards in play and the next id. -/
theorem run_events_replay (config : EvalConfig) (e : Expr) (s : Session MatchState) :
    let before := s.context
    let after := (config.run e s).session.context
    before.piles.replay (config.run e s).events = some after.piles ∧
      after.frame = before.frame ∧
      after.activePlayer = before.activePlayer ∧
      after.zoneHandle = before.zoneHandle ∧
      after.zones.size = before.zones.size ∧
      (∀ h, after.zones.kind? h = before.zones.kind? h ∧
        after.zones.owner? h = before.zones.owner? h) ∧
      after.cards = before.cards ∧
      after.nextCard = before.nextCard := by
  intro before after
  obtain ⟨replayed, same⟩ := run_replays config e s
  exact ⟨replayed, same, congrArg Frame.activePlayer same, MatchState.zoneHandle_of_frame same,
    MatchState.size_of_frame same,
    fun h => ⟨MatchState.kind?_of_frame same h, MatchState.owner?_of_frame same h⟩,
    congrArg Frame.cards same, congrArg Frame.nextCard same⟩

end CardEffects
