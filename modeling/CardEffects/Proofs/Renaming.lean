import CardEffects.Proofs.Methods
import CardEffects.Proofs.TwoRuns

/-!
# Renaming cards

To scripts a card is no more than itself: they compare cards, look for them and move them, but
neither their ids nor what the table says of them is theirs to see. So a match whose cards go by
other ids, different ones by different ids, takes the same course, and all that comes out of it goes
by these ids.
-/

namespace CardEffects

section

variable (f : CardId → CardId)

def Value.rename : Value → Value
  | card c => card (f c)
  | v => v

def Environment.rename (env : Environment) : Environment :=
  ⟨env.bindings.map fun _ v => v.rename f⟩

def ZoneStore.rename (s : ZoneStore) : ZoneStore :=
  ⟨s.zones.map fun zone => { zone with cards := zone.cards.map f }⟩

def MatchState.recast (table : Std.TreeMap UInt32 CardInstance) (next : CardId) (m : MatchState) :
    MatchState :=
  { m with zones := m.zones.rename f, cards := table, nextCard := next }

def ZoneChange.rename : ZoneChange → ZoneChange
  | pushed c => pushed (f c)
  | sentBottom c => sentBottom (f c)
  | removed c found => removed (f c) found
  | popped c => popped (c.map f)
  | shuffled => shuffled

def Event.rename : Event → Event
  | changed zone change => changed zone (change.rename f)
  | effectFinished effect result => effectFinished effect (result.rename f)
  | event => event

end

def Verdict.map {ε α β : Type} (g : α → β) : Verdict ε α → Verdict ε β
  | done a => done (g a)
  | failed e => failed e
  | refused r => refused r

section

variable {f : CardId → CardId}

theorem Environment.lookup?_rename (env : Environment) (name : String) :
    (env.rename f).lookup? name = (env.lookup? name).map (Value.rename f) := by
  simp [Environment.rename, Environment.lookup?]

theorem Environment.toList_congr {env env' : Environment}
    (h : ∀ name, env.lookup? name = env'.lookup? name) :
    env.toList = env'.toList :=
  (Std.TreeMap.Equiv.of_forall_constGet?_eq h).toList_eq

theorem ZoneStore.cards?_rename (s : ZoneStore) (zone : ZoneHandle) :
    (s.rename f).cards? zone = (s.cards? zone).map (List.map f) := by
  simp [ZoneStore.rename, ZoneStore.cards?, ZoneStore.zone?, Function.comp_def]

theorem ZoneStore.setCards_rename (s : ZoneStore) (zone : ZoneHandle) (cards : List CardId) :
    (s.rename f).setCards zone (cards.map f) = (s.setCards zone cards).rename f := by
  have there : (s.rename f).zone? zone = (s.zone? zone).map fun z =>
      { z with cards := z.cards.map f } := by
    simp [ZoneStore.rename, ZoneStore.zone?]
  simp only [ZoneStore.setCards, there]
  cases s.zone? zone with
  | none => rfl
  | some z => simp [ZoneStore.rename, Array.map_setIfInBounds]

theorem MatchState.withCards_recast (m : MatchState) (table : Std.TreeMap UInt32 CardInstance)
    (next : CardId) (zone : ZoneHandle) (cards : List CardId) :
    (m.recast f table next).withCards zone (cards.map f) =
      (m.withCards zone cards).recast f table next := by
  simp only [recast, withCards, ZoneStore.setCards_rename]

theorem MatchState.cards?_recast (m : MatchState) (table : Std.TreeMap UInt32 CardInstance)
    (next : CardId) (zone : ZoneHandle) :
    (m.recast f table next).zones.cards? zone = (m.zones.cards? zone).map (List.map f) :=
  m.zones.cards?_rename zone

theorem contains_map (inj : Function.Injective f) (c : CardId) (cards : List CardId) :
    (cards.map f).contains (f c) = cards.contains c := by
  rw [Bool.eq_iff_iff, List.contains_iff_mem, List.contains_iff_mem]
  exact List.mem_map_of_injective inj

theorem CardMethod.apply_map (inj : Function.Injective f) (m : CardMethod) (c : CardId)
    (cards : List CardId) :
    m.apply (f c) (cards.map f) = (m.apply c cards).map f := by
  cases m with
  | push => rfl
  | sendBottom => simp [CardMethod.apply]
  | remove => exact (List.map_erase inj cards).symm

theorem CardMethod.change_map (inj : Function.Injective f) (m : CardMethod) (c : CardId)
    (cards : List CardId) :
    m.change (f c) (cards.map f) = (m.change c cards).rename f := by
  cases m with
  | remove => exact congrArg (ZoneChange.removed (f c)) (contains_map inj c cards)
  | _ => rfl

theorem CardMethod.result_map (inj : Function.Injective f) (m : CardMethod) (zone : ZoneHandle)
    (c : CardId) (cards : List CardId) :
    m.result zone (f c) (cards.map f) = (m.result zone c cards).rename f := by
  cases m with
  | remove => exact congrArg Value.boolean (contains_map inj c cards)
  | _ => rfl

theorem poppedValue_map (card : Option CardId) :
    poppedValue (card.map f) = (poppedValue card).rename f := by
  cases card <;> rfl

end

/-- The second session is the first with other ids for the cards. -/
structure Recast (f : CardId → CardId) (table : Std.TreeMap UInt32 CardInstance) (next : CardId)
    (s t : Session MatchState) : Prop where
  env (name : String) : t.env.lookup? name = (s.env.rename f).lookup? name
  context : t.context = s.context.recast f table next

section

variable {f : CardId → CardId} {table : Std.TreeMap UInt32 CardInstance} {next : CardId}

abbrev Value.Renamed (f : CardId → CardId) : Value → Value → Prop :=
  Value.Alike (fun c d => f c = d) fun _ => True

theorem Value.renamed_rename (v : Value) : Value.Renamed f v (v.rename f) := by
  cases v with
  | number x => exact .number x
  | text s => exact .text s
  | boolean b => exact .boolean b
  | card c => exact .card rfl
  | cardList zone => exact .cardList trivial
  | null => exact .null

theorem Value.Renamed.eq_rename {v w : Value} (h : Value.Renamed f v w) : w = v.rename f := by
  cases h with
  | card same => exact congrArg Value.card same.symm
  | _ => rfl

theorem Verdict.Matches.eq_map {ε : Type} {v w : Verdict ε Value}
    (h : v.Matches (Value.Renamed f) w) : w = v.map (Value.rename f) := by
  cases v <;> cases w <;> first
    | exact h.elim
    | exact congrArg _ h.symm
    | exact congrArg _ (Value.Renamed.eq_rename h)

theorem Recast.cards? {s t : Session MatchState} (h : Recast f table next s t) (zone : ZoneHandle) :
    t.context.zones.cards? zone = (s.context.zones.cards? zone).map (List.map f) := by
  rw [h.context, MatchState.cards?_recast]

theorem Recast.rng {s t : Session MatchState} (h : Recast f table next s t) :
    s.context.rng = t.context.rng := by
  rw [h.context]
  rfl

theorem Recast.withCards {s t : Session MatchState} (h : Recast f table next s t)
    (zone : ZoneHandle) (moved : List CardId) {g g' : Random.Generator} (same : g = g') :
    Recast f table next { s with context := { s.context.withCards zone moved with rng := g } }
      { t with context := { t.context.withCards zone (moved.map f) with rng := g' } } where
  env := h.env
  context := by
    simp only [h.context, MatchState.withCards_recast, same]
    rfl

theorem recast_listOf (kind : ZoneKind) (p : PlayerId) {s t : Session MatchState}
    (h : Recast f table next s t) :
    let list (m : MatchState) : Run MatchState RuntimeError Value := do
      return .cardList (← Run.ofContext (m.zoneHandle kind p))
    (list s.context s).Alike (Recast f table next) (fun event event' => event.rename f = event')
      (Value.Renamed f) (list t.context t) := by
  intro list
  have same : t.context.zoneHandle = s.context.zoneHandle := by rw [h.context]; rfl
  simp only [list, same]
  cases s.context.zoneHandle kind p with
  | ok zone => exact ⟨.cardList trivial, h, .nil⟩
  | error r => exact ⟨rfl, h, .nil⟩

theorem recast_isScriptRelation (inj : Function.Injective f) :
    Run.IsScriptRelation (Recast f table next) (fun event event' => event.rename f = event')
      (fun c d => f c = d) fun _ => True where
  distinguishes c d c' d' hd hd' := by rw [← hd, ← hd', inj.eq_iff]
  bound := by
    intro s t name h
    rw [h.env, Environment.lookup?_rename]
    cases s.env.lookup? name with
    | none => exact .none
    | some v => exact .some v.renamed_rename
  assigned := by
    intro s t name v w h hv
    refine ⟨fun other => ?_, h.context⟩
    simp only [Environment.lookup?_rename, Environment.lookup?_assign, h.env,
      Value.Renamed.eq_rename hv]
    split <;> rfl
  active h := by rw [h.context]; rfl
  shows := by
    intro s t h zone _
    simp only [ShowsAlike, ScriptContext.cards?, h.cards?]
    cases s.context.zones.cards? zone with
    | none => exact .inl ⟨rfl, rfl⟩
    | some cards =>
      exact .inr ⟨cards, cards.map f, rfl, rfl,
        List.forall₂_map_right_iff.mpr (List.forall₂_same.mpr fun _ _ => rfl)⟩
  rejected {event} h := by cases event <;> first | rfl | cases h
  activeZone kind := by
    intro s t h
    have same : t.context.activePlayer = s.context.activePlayer := by rw [h.context]; rfl
    simp only [Run.activeZone, Run.getContext_bind, ScriptContext.zone,
      ScriptContext.activePlayer, same]
    exact recast_listOf kind _ h
  card m zone c d pos _ same := by
    intro s t h
    rw [← same, Run.applyCard_apply, Run.applyCard_apply, h.cards?]
    cases s.context.zones.cards? zone with
    | none => exact ⟨rfl, h, .nil⟩
    | some cards =>
      simp only [Option.map_some, m.apply_map inj, m.change_map inj, m.result_map inj]
      exact ⟨Value.renamed_rename _, h.withCards zone _ h.rng, .cons rfl .nil⟩
  pile m zone pos _ := by
    intro s t h
    cases m with
    | pop =>
      rw [Run.applyPile, Run.pop_apply, Run.pop_apply, h.cards?]
      cases s.context.zones.cards? zone with
      | none => exact ⟨rfl, h, .nil⟩
      | some cards =>
        simp only [Option.map_some, List.head?_map, poppedValue_map, ← List.map_tail]
        exact ⟨Value.renamed_rename _, h.withCards zone _ h.rng, .cons rfl .nil⟩
    | shuffle =>
      rw [Run.applyPile, Run.shuffle_apply, Run.shuffle_apply, h.cards?, ← h.rng]
      cases s.context.zones.cards? zone with
      | none => exact ⟨rfl, h, .nil⟩
      | some cards =>
        simp only [Option.map_some, Random.Generator.shuffle_map]
        exact ⟨.cardList trivial, h.withCards zone _ rfl, .cons rfl .nil⟩

theorem run_recast (inj : Function.Injective f) (config : EvalConfig) (e : Expr) :
    (config.run e).Alike (Recast f table next) (fun event event' => event.rename f = event')
      (Value.Renamed f) (config.run e) := by
  have relation : Run.IsScriptRelation (Recast f table next)
      (fun event event' => event.rename f = event')
    (fun c d => f c = d) fun _ => True := recast_isScriptRelation inj
  refine relation.run config e fun _ kind access v w hv => ?_
  cases hv with
  | number x =>
    intro s t h
    have same : ScriptContext.player? t.context = ScriptContext.player? s.context := by
      rw [h.context]; rfl
    simp only [Run.numberedZone, Run.getContext_bind, same]
    cases ScriptContext.player? s.context (Number.toInt64 x) with
    | some p => exact recast_listOf kind p h
    | none => exact ⟨rfl, h, .nil⟩
  | _ => exact Run.alike_rejected (relation.rejected rfl) _

end

/-- Cards are opaque to scripts. If the cards in zones and variables go by other ids, different ones
by different ids, an expression takes the same course whatever the table says of them: it yields the
same value under these ids or fails for the same reason, and leaves the same match and variables
under these ids, with the same generator. -/
theorem cards_are_opaque {f : CardId → CardId} (inj : Function.Injective f)
    (table : Std.TreeMap UInt32 CardInstance) (next : CardId) (config : EvalConfig) (e : Expr)
    (env : Environment) (m : MatchState) :
    let o := config.run e ⟨env, m⟩
    let o' := config.run e ⟨env.rename f, m.recast f table next⟩
    o'.verdict = o.verdict.map (Value.rename f) ∧
      (∀ name, o'.session.env.lookup? name = (o.session.env.rename f).lookup? name) ∧
      o'.session.env.toList = (o.session.env.rename f).toList ∧
      o'.session.context = o.session.context.recast f table next ∧
      o'.session.context.rng = o.session.context.rng ∧
      o'.events = o.events.map (Event.rename f) := by
  intro o o'
  have start : Recast f table next ⟨env, m⟩ ⟨env.rename f, m.recast f table next⟩ :=
    ⟨fun _ => rfl, rfl⟩
  obtain ⟨verdict, session, events⟩ := run_recast inj config e _ _ start
  refine ⟨verdict.eq_map, session.env, Environment.toList_congr session.env, session.context,
    session.rng.symm, ?_⟩
  rw [← List.forall₂_map_left_iff (f := Event.rename f) (R := Eq), List.forall₂_eq_eq_eq] at events
  exact events.symm

theorem cards_are_opaque_remove :
    let f : CardId → CardId := fun c => ⟨c.raw + 10⟩
    let deck := MatchState.handleOf .deck ⟨0⟩
    let dealt : MatchState :=
      ⟨1, ⟨0⟩, (MatchState.layout 1).setCards deck [⟨1⟩, ⟨2⟩, ⟨3⟩], ∅, .ofSeed 42, ⟨4⟩⟩
    let env := Environment.empty.assign "wolf" (.card ⟨2⟩)
    let e := Expr.ofCallWith (.ofCall (.ofZone .deck) (.pile .shuffle)) (.card .remove)
      (.ofVar "wolf")
    let o := EvalConfig.default.run e ⟨env, dealt⟩
    let o' := EvalConfig.default.run e ⟨env.rename f, dealt.recast f ∅ ⟨9⟩⟩
    Function.Injective f ∧
      o.session.context.zones.cards? deck = some [⟨3⟩, ⟨1⟩] ∧
      o'.verdict = o.verdict.map (Value.rename f) ∧
      o'.session.context.zones.cards? deck = some [⟨13⟩, ⟨11⟩] ∧
      o'.session.context.rng = o.session.context.rng := by
  intro f deck dealt env e o o'
  have inj : Function.Injective f := by
    rintro ⟨c⟩ ⟨d⟩ same
    exact congrArg CardId.mk ((UInt32.add_left_inj 10).mp (congrArg CardId.raw same))
  have left : o.session.context.zones.cards? deck = some [⟨3⟩, ⟨1⟩] := by decide +kernel
  obtain ⟨verdict, -, -, context, rng, -⟩ := cards_are_opaque inj ∅ ⟨9⟩ .default e env dealt
  have left' : o'.session.context.zones.cards? deck = some [⟨13⟩, ⟨11⟩] := by
    rw [context, MatchState.cards?_recast, left]
    rfl
  exact ⟨inj, left, verdict, left', rng⟩

end CardEffects
