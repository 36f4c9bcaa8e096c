import CardEffects.Proofs.Seating
import CardEffects.Proofs.TwoRuns

/-!
# Confinement

Without the number of a player a script reaches the zones of the active player and the board, and no
others: it reads nothing of them, and it leaves them alone. So in two matches which differ only
there it takes the same course.
-/

namespace CardEffects

def MatchState.Foreign (m : MatchState) (zone : ZoneHandle) : Prop :=
  ∃ kind p, kind ≠ .board ∧ p ≠ m.activePlayer ∧ m.zoneHandle kind p = .ok zone

/-- Two matches with the same seats, turn and generator, and the same cards on the board and in the
zones of the active player. -/
structure SameInSight (m m' : MatchState) : Prop where
  seats : m.seats = m'.seats
  active : m.activePlayer = m'.activePlayer
  rng : m.rng = m'.rng
  cards (kind : ZoneKind) : m.zoneCards kind m.activePlayer = m'.zoneCards kind m'.activePlayer

section

variable {m m' : MatchState}

theorem SameInSight.zoneHandle (h : SameInSight m m') : m.zoneHandle = m'.zoneHandle := by
  funext kind p
  simp only [MatchState.zoneHandle, h.seats]

theorem MatchState.Foreign.ne_activeZone {zone : ZoneHandle} (foreign : m.Foreign zone)
    (kind : ZoneKind) :
    zone ≠ handleOf kind m.activePlayer := by
  rintro rfl
  obtain ⟨kind', p, own, other, found⟩ := foreign
  obtain ⟨-, same⟩ := zoneHandle_eq_ok.mp found
  exact other (handleOf_inj own same.symm).2.symm

theorem MatchState.zoneCards_of_seated (m : MatchState) (kind : ZoneKind) {p : PlayerId}
    (seated : p.index.toNat < m.seats) :
    m.zoneCards kind p = .ok ((m.zones.cards? (handleOf kind p)).getD []) := by
  rw [zoneCards, zoneHandle_eq_ok.mpr ⟨seated, rfl⟩]
  rfl

theorem MatchState.zoneCards_congr {kind : ZoneKind} {p p' : PlayerId}
    (handles : m.zoneHandle kind p = m'.zoneHandle kind p')
    (cards : ∀ zone, m.zoneHandle kind p = .ok zone → m.zones.cards? zone = m'.zones.cards? zone) :
    m.zoneCards kind p = m'.zoneCards kind p' := by
  simp only [zoneCards, ← handles]
  cases found : m.zoneHandle kind p with
  | error r => rfl
  | ok zone => simp only [Except.map, cards zone found]

theorem MatchState.inSight_or_unknown (seated : m.frame.Seated) {zone : ZoneHandle}
    (visible : ¬ m.Foreign zone) :
    (∃ kind, zone = handleOf kind m.activePlayer) ∨ m.zones.size ≤ zone.raw.toNat := by
  rcases Nat.lt_or_ge zone.raw.toNat m.zones.size with known | unknown
  · refine .inl ?_
    rw [← length_frame_zones, seated.zones] at known
    rcases exists_handleOf seated.few known with rfl | ⟨kind, p, own, sits, rfl⟩
    · exact ⟨.board, rfl⟩
    · by_cases active : p = m.activePlayer
      · exact ⟨kind, by rw [active]⟩
      · exact absurd ⟨kind, p, own, active, zoneHandle_eq_ok.mpr ⟨sits, rfl⟩⟩ visible
  · exact .inr unknown

theorem SameInSight.cards?_eq (h : SameInSight m m') (seated : m.frame.Seated)
    (seated' : m'.frame.Seated) {zone : ZoneHandle} (visible : ¬ m.Foreign zone) :
    m.zones.cards? zone = m'.zones.cards? zone := by
  rcases MatchState.inSight_or_unknown seated visible with ⟨kind, rfl⟩ | unknown
  · have sits : m.activePlayer.index.toNat < m.seats := seated.active
    have sits' : m.activePlayer.index.toNat < m'.seats := h.seats ▸ sits
    have same := h.cards kind
    rw [← h.active, m.zoneCards_of_seated kind sits, m'.zoneCards_of_seated kind sits'] at same
    obtain ⟨cards, left⟩ := MatchState.exists_cards seated kind sits
    obtain ⟨cards', right⟩ := MatchState.exists_cards seated' kind sits'
    rw [left, right] at same ⊢
    injection same with same
    exact congrArg some same
  · -- the matches have equally many zones, so that what is no zone of one is none of the other
    have size : m.zones.size = m'.zones.size := by
      rw [← MatchState.length_frame_zones, ← MatchState.length_frame_zones, seated.zones,
        seated'.zones]
      exact congrArg (fun n => 1 + 4 * n) h.seats
    rw [ZoneStore.cards?_eq_none unknown, ZoneStore.cards?_eq_none (size ▸ unknown)]

end

/-- Two sessions on the way from two matches: what is in sight is the same, and what is not has
stayed as it was. -/
structure Confined (m m' : MatchState) (s t : Session MatchState) : Prop where
  env : s.env = t.env
  bound (name : String) (zone : ZoneHandle) : s.env.lookup? name = some (.cardList zone) →
      ¬ m.Foreign zone
  rng : s.context.rng = t.context.rng
  left : s.context.frame = m.frame
  right : t.context.frame = m'.frame
  shown (zone : ZoneHandle) : ¬ m.Foreign zone →
      s.context.zones.cards? zone = t.context.zones.cards? zone
  kept (zone : ZoneHandle) : m.Foreign zone → s.context.zones.cards? zone = m.zones.cards? zone ∧
    t.context.zones.cards? zone = m'.zones.cards? zone

section

variable {m m' : MatchState} {s t : Session MatchState}

theorem Confined.withCards (h : Confined m m' s t) {zone : ZoneHandle} (visible : ¬ m.Foreign zone)
    (moved : List CardId) {g g' : Random.Generator} (same : g = g') :
    Confined m m' { s with context := { s.context.withCards zone moved with rng := g } }
      { t with context := { t.context.withCards zone moved with rng := g' } } where
  env := h.env
  bound := h.bound
  rng := same
  left := (s.context.frame_withCards zone moved).trans h.left
  right := (t.context.frame_withCards zone moved).trans h.right
  shown other hidden := by
    simp only [MatchState.withCards, ZoneStore.cards?_setCards, h.shown other hidden]
  kept other foreign := by
    have ne : other ≠ zone := fun same => visible (same ▸ foreign)
    simp only [MatchState.withCards, ZoneStore.cards?_setCards, ne, if_false]
    exact h.kept other foreign

variable (seated : m.frame.Seated) (same : SameInSight m m')
include seated same

theorem Confined.activeZone (h : Confined m m' s t) (kind : ZoneKind) :
    s.context.zoneHandle kind s.context.activePlayer =
      .ok (MatchState.handleOf kind m.activePlayer) ∧
      t.context.zoneHandle kind t.context.activePlayer =
        .ok (MatchState.handleOf kind m.activePlayer) := by
  have found : m.zoneHandle kind m.activePlayer = .ok (MatchState.handleOf kind m.activePlayer) :=
    MatchState.zoneHandle_eq_ok.mpr ⟨seated.active, rfl⟩
  have left : s.context.activePlayer = m.activePlayer := congrArg Frame.activePlayer h.left
  have right : t.context.activePlayer = m'.activePlayer := congrArg Frame.activePlayer h.right
  rw [MatchState.zoneHandle_of_frame h.left, MatchState.zoneHandle_of_frame h.right, left, right,
    ← same.zoneHandle, ← same.active]
  exact ⟨found, found⟩

theorem confined_isScriptRelation :
    Run.IsScriptRelation (Confined m m') Eq Eq fun zone => ¬ m.Foreign zone where
  distinguishes _ _ _ _ hc hd := by rw [hc, hd]
  bound := by
    intro s t name h
    rw [← h.env]
    cases found : s.env.lookup? name with
    | none => exact .none
    | some v => exact .some (Value.alike_self fun zone list => h.bound name zone (list ▸ found))
  assigned := by
    intro s t name v w h hv
    cases hv.eq
    refine ⟨by rw [h.env], fun other zone found => ?_, h.rng, h.left, h.right, h.shown, h.kept⟩
    rw [Environment.lookup?_assign] at found
    split at found
    · cases found
      cases hv with
      | cardList visible => exact visible
    · exact h.bound other zone found
  active h := by
    have left : _ = m.activePlayer := congrArg Frame.activePlayer h.left
    have right : _ = m'.activePlayer := congrArg Frame.activePlayer h.right
    exact left.trans (same.active.trans right.symm)
  shows := by
    intro s t h zone visible
    have shown := h.shown zone visible
    cases found : t.context.zones.cards? zone with
    | none => exact .inl ⟨shown.trans found, found⟩
    | some cards => exact .inr ⟨cards, cards, shown.trans found, found, List.forall₂_refl cards⟩
  rejected _ := rfl
  activeZone kind := by
    intro s t h
    obtain ⟨left, right⟩ := h.activeZone seated same kind
    have visible : ¬ m.Foreign (MatchState.handleOf kind m.activePlayer) :=
      fun foreign => foreign.ne_activeZone kind rfl
    simp only [Run.activeZone, Run.getContext_bind, ScriptContext.zone, ScriptContext.activePlayer,
      left, right]
    exact ⟨.cardList visible, h, .nil⟩
  card m zone c d pos visible same := by
    intro s t h
    cases same
    rw [Run.applyCard_apply, Run.applyCard_apply, h.shown zone visible]
    cases t.context.zones.cards? zone with
    | none => exact ⟨rfl, h, .nil⟩
    | some cards =>
      refine ⟨?_, h.withCards visible _ h.rng, .cons rfl .nil⟩
      cases m with
      | push => exact .cardList visible
      | sendBottom => exact .cardList visible
      | remove => exact .boolean _
  pile m zone pos visible := by
    intro s t h
    cases m with
    | pop =>
      rw [Run.applyPile, Run.pop_apply, Run.pop_apply, h.shown zone visible]
      cases t.context.zones.cards? zone with
      | none => exact ⟨rfl, h, .nil⟩
      | some cards =>
        refine ⟨?_, h.withCards visible _ h.rng, .cons rfl .nil⟩
        cases cards with
        | nil => exact .null
        | cons c rest => exact .card rfl
    | shuffle =>
      rw [Run.applyPile, Run.shuffle_apply, Run.shuffle_apply, h.shown zone visible, h.rng]
      cases t.context.zones.cards? zone with
      | none => exact ⟨rfl, h, .nil⟩
      | some cards => exact ⟨.cardList visible, h.withCards visible _ rfl, .cons rfl .nil⟩

end

/-- A match that a host can reach, whatever values it hands to scripts. -/
def MatchState.Reached (m : MatchState) : Prop :=
  ∃ config ids env, Reachable (fun _ _ _ => True) config ids ⟨env, m⟩

theorem Confined.sameInSight {m m' : MatchState} {s t : Session MatchState} (h : Confined m m' s t)
    (seated : m.frame.Seated) (same : SameInSight m m') : SameInSight s.context t.context where
  seats :=
  (congrArg Frame.seats h.left).trans (same.seats.trans (congrArg Frame.seats h.right).symm)
  active := (congrArg Frame.activePlayer h.left).trans
    (same.active.trans (congrArg Frame.activePlayer h.right).symm)
  rng := h.rng
  cards kind := by
    obtain ⟨left, right⟩ := h.activeZone seated same kind
    refine MatchState.zoneCards_congr (left.trans right.symm) fun zone found => ?_
    cases left.symm.trans found
    exact h.shown _ fun foreign => foreign.ne_activeZone kind rfl

/-- A script without the number of a player is confined to the zones of the active player and the
board, if no variable lists cards elsewhere. Two matches that are the same there give the same
result and events and are the same there afterwards, and all other zones are left as they were. -/
theorem sugared_scripts_are_confined {m m' : MatchState} (reached : m.Reached)
    (reached' : m'.Reached) (same : SameInSight m m') {env : Environment}
    (own : ∀ name zone, env.lookup? name = some (.cardList zone) → ¬ m.Foreign zone)
    (config : EvalConfig) {e : Expr} (sugared : e.namesPlayer = false) :
    let o := config.run e ⟨env, m⟩
    let o' := config.run e ⟨env, m'⟩
    (∀ r, o.verdict ≠ .refused r) ∧ o.verdict = o'.verdict ∧ o.events = o'.events ∧
      o.session.env = o'.session.env ∧
      o.session.context.activePlayer = m.activePlayer ∧
      SameInSight o.session.context o'.session.context ∧
      ∀ kind p, kind ≠ .board → p ≠ m.activePlayer →
        o.session.context.zoneCards kind p = m.zoneCards kind p ∧
        o'.session.context.zoneCards kind p = m'.zoneCards kind p := by
  intro o o'
  obtain ⟨_, _, _, reached⟩ := reached
  obtain ⟨_, _, _, reached'⟩ := reached'
  have seated : m.frame.Seated := reachable_seated reached
  have seated' : m'.frame.Seated := reachable_seated reached'
  have start : Confined m m' ⟨env, m⟩ ⟨env, m'⟩ :=
    ⟨rfl, own, same.rng, rfl, rfl, fun zone => same.cards?_eq seated seated', fun _ _ => ⟨rfl, rfl⟩⟩
  have alike := (confined_isScriptRelation seated same).run config e
    (fun named => nomatch named.symm.trans sugared)
  obtain ⟨verdict, session, events⟩ := alike _ _ start
  refine ⟨run_not_refused (s := ⟨env, m⟩) seated config e, verdict.eq fun v w hv => hv.eq, ?_,
    session.env, congrArg Frame.activePlayer session.left, session.sameInSight seated same,
    fun kind p own other => ?_⟩
  · exact List.forall₂_eq_eq_eq ▸ events
  · have left := MatchState.zoneHandle_of_frame session.left
    have right := (MatchState.zoneHandle_of_frame session.right).trans same.zoneHandle.symm
    constructor
    · refine MatchState.zoneCards_congr (by rw [left]) fun zone found => ?_
      rw [left] at found
      exact (session.kept zone ⟨kind, p, own, other, found⟩).1
    · refine MatchState.zoneCards_congr (by rw [right, same.zoneHandle]) fun zone found => ?_
      rw [right] at found
      exact (session.kept zone ⟨kind, p, own, other, found⟩).2

theorem sugared_scripts_are_confined_draw :
    let deck := MatchState.handleOf .deck ⟨0⟩
    let started : MatchState := ⟨2, ⟨0⟩, MatchState.layout 2, ∅, .ofSeed 0, ⟨1⟩⟩
    let dealt := (started.place "Wolf" (some ⟨0⟩) 4 deck).2
    let held := (dealt.place "Fox" (some ⟨1⟩) 2 (MatchState.handleOf .hand ⟨1⟩)).2
    let env := Environment.empty.assign "own" (.cardList deck)
    let draw := Expr.ofCallWith (.ofZone .hand) (.card .push) (.ofCall (.ofVar "own") (.pile .pop))
    let o := EvalConfig.default.run draw ⟨env, held⟩
    held.Reached ∧ dealt.Reached ∧ SameInSight held dealt ∧
      (∀ name zone, env.lookup? name = some (.cardList zone) → ¬ held.Foreign zone) ∧
      draw.namesPlayer = false ∧
      o.verdict = (EvalConfig.default.run draw ⟨env, dealt⟩).verdict ∧
      SameInSight o.session.context (EvalConfig.default.run draw ⟨env, dealt⟩).session.context ∧
      o.session.context.zoneCards .hand ⟨0⟩ = .ok [⟨1⟩] ∧
      o.session.context.zoneCards .hand ⟨1⟩ = .ok [⟨2⟩] := by
  intro deck started dealt held env draw o
  have start : Reachable (fun _ _ _ => True) ⟨2, 0⟩ [] ⟨.empty, started⟩ := .start rfl
  have wolf : Reachable (fun _ _ _ => True) ⟨2, 0⟩ [⟨1⟩] ⟨.empty, dealt⟩ :=
    start.spawn "Wolf" ⟨0⟩ .deck 4 rfl
  have fox : Reachable (fun _ _ _ => True) ⟨2, 0⟩ [⟨2⟩, ⟨1⟩] ⟨.empty, held⟩ :=
    wolf.spawn "Fox" ⟨1⟩ .hand 2 rfl
  have same : SameInSight held dealt :=
    ⟨rfl, rfl, rfl, fun kind => by cases kind <;> decide +kernel⟩
  have own (name : String) (zone : ZoneHandle) (found : env.lookup? name = some (.cardList zone)) :
      ¬ held.Foreign zone := by
    rw [Environment.lookup?_assign, Environment.lookup?_empty] at found
    split at found
    · cases found
      exact fun foreign => foreign.ne_activeZone .deck rfl
    · cases found
  have confined :=
    sugared_scripts_are_confined ⟨_, _, _, fox⟩ ⟨_, _, _, wolf⟩ same own .default (e := draw) rfl
  obtain ⟨-, verdict, -, -, -, after, kept⟩ := confined
  have hand : o.session.context.zoneCards .hand ⟨0⟩ = .ok [⟨1⟩] := by decide +kernel
  have other : held.zoneCards .hand ⟨1⟩ = .ok [⟨2⟩] := by decide +kernel
  exact ⟨⟨_, _, _, fox⟩, ⟨_, _, _, wolf⟩, same, own, rfl, verdict, after, hand,
    (kept .hand ⟨1⟩ nofun nofun).1.trans other⟩

end CardEffects
