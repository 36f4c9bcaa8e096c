import CardEffects.Proofs.Layout
import CardEffects.Stored.Match

/-!
# Requests of a host

A host brings cards into play, moves the turn, asks for zones and runs scripts, in any order and as
often as it likes. A match turns down only what it is asked for a player who has no seat, and then
nothing of it has changed; whatever else happens, it keeps its seats and its layout.
-/

namespace CardEffects

/-- Steps of a host on a match. What was changed before one is refused stays changed. -/
abbrev Host := ExceptT Refusal (StateM MatchState)

namespace Host

variable {α β ε : Type}

def on (x : Host α) (s : MatchState) : Except Refusal α × MatchState := (ExceptT.run x).run s

def ask (f : MatchState → Except Refusal α) : Host α := do
  MonadExcept.ofExcept (f (← get))

def placeCard (card : CardInstance) (zone : ZoneHandle) : Host CardId := do
  modify fun s => { s with nextCard := card.id.next }
  match (← get).zones.cards? zone with
  | some cards => modify (·.withCards zone (cards ++ [card.id]))
  | none => pure ()
  modify fun s => { s with cards := s.cards.insert card.id.raw card }
  return card.id

def spawn (name : String) (owner : PlayerId) (kind : ZoneKind) (power : Int64) : Host CardId := do
  let card : CardInstance := ⟨(← get).nextCard, name, some owner, power⟩
  let zone ← ask (·.zoneHandle kind owner)
  placeCard card zone

def spawnNeutral (name : String) : Host CardId := do
  placeCard ⟨(← get).nextCard, name, none, 0⟩ MatchState.board

def script (run : MatchState → Outcome MatchState ε α) : Host Unit := do
  let o := run (← get)
  set o.session.context
  match o.verdict with
  | .refused r => throw r
  | _ => return ()

@[simp] theorem on_pure (a : α) (s : MatchState) : (pure a : Host α).on s = (.ok a, s) := rfl

@[simp] theorem on_get (s : MatchState) : (get : Host MatchState).on s = (.ok s, s) := rfl

@[simp] theorem on_set (s t : MatchState) : (set t : Host PUnit).on s = (.ok (), t) := rfl

@[simp] theorem on_modify (f : MatchState → MatchState) (s : MatchState) :
    (modify f : Host PUnit).on s = (.ok (), f s) := rfl

@[simp] theorem on_bind (x : Host α) (f : α → Host β) (s : MatchState) :
    (x >>= f).on s = match x.on s with
      | (.ok a, t) => (f a).on t
      | (.error r, t) => (.error r, t) := by
  simp only [on, ExceptT.run_bind, StateT.run_bind]
  rcases x.run.run s with ⟨_ | _, t⟩ <;> rfl

@[simp] theorem on_discard (x : Host α) (s : MatchState) :
    (discard x).on s = match x.on s with
      | (.ok _, t) => (.ok (), t)
      | (.error r, t) => (.error r, t) := by
  rw [show discard x = x >>= fun _ => pure () from rfl, on_bind]
  rfl

@[simp] theorem on_ask (f : MatchState → Except Refusal α) (s : MatchState) :
    (ask f).on s = (f s, s) := by
  simp only [ask, on_bind, on_get]
  cases f s <;> rfl

theorem setCards_of_unknown {zones : ZoneStore} {zone : ZoneHandle}
    (unknown : zones.cards? zone = none) (cards : List CardId) :
    zones.setCards zone cards = zones := by
  have none : zones.zone? zone = none := Option.map_eq_none_iff.mp unknown
  rw [ZoneStore.setCards, none]

theorem on_placeCard (name : String) (owner : Option PlayerId) (power : Int64) (zone : ZoneHandle)
    (s : MatchState) :
    (placeCard ⟨s.nextCard, name, owner, power⟩ zone).on s =
      (.ok (s.place name owner power zone).1, (s.place name owner power zone).2) := by
  simp only [placeCard, on_bind, on_modify, on_get, MatchState.place]
  cases found : s.zones.cards? zone with
  | some cards => simp only [on_modify, on_bind, on_pure, MatchState.withCards, Option.getD_some]
  | none => simp only [on_modify, on_bind, on_pure, setCards_of_unknown found]

theorem on_spawn (name : String) (owner : PlayerId) (kind : ZoneKind) (power : Int64)
    (s : MatchState) :
    (spawn name owner kind power).on s = match s.spawn name owner kind power with
      | .ok (id, t) => (.ok id, t)
      | .error r => (.error r, s) := by
  simp only [spawn, on_bind, on_get, on_ask, MatchState.spawn]
  cases s.zoneHandle kind owner with
  | ok zone => exact on_placeCard name (some owner) power zone s
  | error r => rfl

theorem on_spawnNeutral (name : String) (s : MatchState) :
    (spawnNeutral name).on s = (.ok (s.spawnNeutral name).1, (s.spawnNeutral name).2) := by
  simp only [spawnNeutral, on_bind, on_get]
  exact on_placeCard name none 0 MatchState.board s

theorem on_script {run : MatchState → Outcome MatchState ε α} {s : MatchState}
    (answered : ∀ r, (run s).verdict ≠ .refused r) :
    (script run).on s = (.ok (), (run s).session.context) := by
  simp only [script, on_bind, on_get, on_set]
  cases ended : (run s).verdict with
  | refused r => exact absurd ended (answered r)
  | _ => rfl

end Host

inductive Request where
  | spawn (name : String) (owner : PlayerId) (kind : ZoneKind) (power : Int64)
  | spawnNeutral (name : String)
  | setPower (card : CardId) (power : Int64)
  | setActive (p : PlayerId)
  | passTurn
  | zoneHandle (kind : ZoneKind) (p : PlayerId)
  | zoneCards (kind : ZoneKind) (p : PlayerId)
  | playerZones (p : PlayerId)
  | evaluate (config : EvalConfig) (e : Expr) (vars : Environment)
  | invoke (registry : EffectRegistry) (effect : String) (vars : Environment)

namespace Request

def perform : Request → Host Unit
  | spawn name owner kind power => discard (Host.spawn name owner kind power)
  | spawnNeutral name => discard (Host.spawnNeutral name)
  | setPower card power => modify (·.setPower card power)
  | setActive p => do set (← Host.ask (·.setActive p))
  | passTurn => do set (← Host.ask MatchState.passTurn)
  | zoneHandle kind p => discard (Host.ask (·.zoneHandle kind p))
  | zoneCards kind p => discard (Host.ask (·.zoneCards kind p))
  | playerZones p => discard (Host.ask (·.playerZones p))
  | evaluate config e vars => Host.script fun s => config.run e ⟨vars, s⟩
  | invoke registry effect vars => Host.script (registry.invoke effect vars)

def player? : Request → Option PlayerId
  | spawn _ p _ _ | setActive p | zoneHandle _ p | zoneCards _ p | playerZones p => some p
  | spawnNeutral _ | setPower _ _ | passTurn | evaluate _ _ _ | invoke _ _ _ => none

def spawns : Request → Bool
  | spawn _ _ _ _ | spawnNeutral _ => true
  | _ => false

def passesTurn : Request → Bool
  | passTurn => true
  | _ => false

def setsTurn : Request → Bool
  | setActive _ => true
  | _ => false

end Request

def MatchState.play (s : MatchState) (requests : List Request) : MatchState :=
  requests.foldl (fun s q => (q.perform.on s).2) s

theorem invoke_not_refused {m : MatchState} (seated : m.frame.Seated) (r : EffectRegistry)
    (name : String) (vars : Environment) (reason : Refusal) :
    (r.invoke name vars m).verdict ≠ .refused reason := by
  intro refused
  let Answered : Option EffectError → Prop := fun e => m.frame.Seated → e ≠ none
  have aborted (effect : String) (e : Option RuntimeError) (h : m.frame.Seated → e ≠ none) :
      Answered (e.map (.aborted effect)) :=
    fun seated none => h seated (Option.map_eq_none_iff.mp none)
  have ends := (frame_isScriptInvariant m.frame).invoke (fun _ _ _ => nofun)
    (fun _ _ => nofun) aborted r name vars m rfl
  rw [refused] at ends
  exact ends.1 seated rfl

/-- What a request that is granted may change of the frame. -/
structure Request.Changes (q : Request) (f g : Frame) : Prop where
  seats : g.seats = f.seats
  zones : g.zones = f.zones
  seated : g.activePlayer.index.toNat < f.seats
  active : q.setsTurn = false →
    g.activePlayer.index.toNat =
      (f.activePlayer.index.toNat + if q.passesTurn then 1 else 0) % f.seats
  nextCard : g.nextCard = if q.spawns then f.nextCard.next else f.nextCard

/-- A request is turned down that is made for a player without a seat, and any other is granted. -/
inductive Request.Answered (q : Request) (s : MatchState) : Prop
  | turnedDown {p : PlayerId} {r : Refusal} : q.player? = some p → s.seats ≤ p.index.toNat →
      q.perform.on s = (.error r, s) → Answered q s
  | granted {t : MatchState} : (∀ p, q.player? = some p → p.index.toNat < s.seats) →
      q.perform.on s = (.ok (), t) → q.Changes s.frame t.frame → Answered q s

section

variable {q : Request} {s : MatchState}

theorem Request.answered_of_player {p : PlayerId} (mine : q.player? = some p)
    (turnedDown : ¬ p.index.toNat < s.seats → ∃ r, q.perform.on s = (.error r, s))
    (granted : p.index.toNat < s.seats →
      ∃ t, q.perform.on s = (.ok (), t) ∧ q.Changes s.frame t.frame) :
    q.Answered s := by
  by_cases sits : p.index.toNat < s.seats
  · obtain ⟨t, done, changes⟩ := granted sits
    exact .granted (by rintro _ other; cases mine.symm.trans other; exact sits) done changes
  · obtain ⟨r, done⟩ := turnedDown sits
    exact .turnedDown mine (Nat.le_of_not_lt sits) done

theorem Request.answered_of_none {t : MatchState} (nobody : q.player? = none)
    (done : q.perform.on s = (.ok (), t)) (changes : q.Changes s.frame t.frame) : q.Answered s :=
  .granted (by rw [nobody]; rintro _ ⟨⟩) done changes

theorem Request.changes_of_same (seated : s.frame.Seated) {g : Frame} (seats : g.seats = s.seats)
    (zones : g.zones = s.frame.zones) (active : g.activePlayer = s.activePlayer)
    (stays : q.passesTurn = false)
    (nextCard : g.nextCard = if q.spawns then s.nextCard.next else s.nextCard) :
    q.Changes s.frame g := by
  have lt : s.activePlayer.index.toNat < s.seats := seated.active
  refine ⟨seats, zones, by rw [active]; exact lt, fun _ => ?_, nextCard⟩
  rw [active, stays]
  exact (Nat.mod_eq_of_lt lt).symm

theorem Request.changes_refl (seated : s.frame.Seated) (stays : q.passesTurn = false)
    (none : q.spawns = false) : q.Changes s.frame s.frame :=
  changes_of_same seated rfl rfl rfl stays (by rw [none]; rfl)

theorem Request.changes_place (seated : s.frame.Seated) (stays : q.passesTurn = false)
    (spawns : q.spawns = true) (name : String) (owner : Option PlayerId) (power : Int64)
    (zone : ZoneHandle) : q.Changes s.frame (s.place name owner power zone).2.frame := by
  rw [MatchState.frame_place]
  exact changes_of_same seated rfl rfl rfl stays (by rw [spawns]; rfl)

theorem Request.answered_of_ask {α : Type} {f : MatchState → Except Refusal α} {p : PlayerId}
    (seated : s.frame.Seated) (mine : q.player? = some p) (looks : q.perform = discard (Host.ask f))
    (stays : q.passesTurn = false) (none : q.spawns = false)
    (answer : (f s).isOk = true ↔ p.index.toNat < s.seats) : q.Answered s := by
  refine answered_of_player mine (fun absent => ?_) fun sits =>
    ⟨s, ?_, changes_refl seated stays none⟩
  all_goals
    rw [looks, Host.on_discard, Host.on_ask]
    cases found : f s with
    | ok a => simp_all [Except.isOk, Except.toBool]
    | error r => simp_all [Except.isOk, Except.toBool]

theorem MatchState.zoneHandle_isOk_iff {kind : ZoneKind} {p : PlayerId} :
    (s.zoneHandle kind p).isOk = true ↔ p.index.toNat < s.seats := by
  by_cases sits : p.index.toNat < s.seats <;>
    simp [zoneHandle, sits, Except.isOk, Except.toBool]

theorem MatchState.zoneCards_isOk_iff {kind : ZoneKind} {p : PlayerId} :
    (s.zoneCards kind p).isOk = true ↔ p.index.toNat < s.seats := by
  rw [← zoneHandle_isOk_iff, zoneCards]
  cases s.zoneHandle kind p <;> rfl

theorem MatchState.playerZones_isOk_iff {p : PlayerId} :
    (s.playerZones p).isOk = true ↔ p.index.toNat < s.seats := by
  by_cases sits : p.index.toNat < s.seats <;>
    simp [playerZones, ZoneKind.perPlayer, zoneHandle, sits, Except.isOk, Except.toBool, bind,
      Except.bind, pure, Except.pure]

theorem Request.answered (seated : s.frame.Seated) (q : Request) : q.Answered s := by
  cases q with
  | spawn name owner kind power =>
    refine answered_of_player rfl (fun absent => ?_) fun sits =>
      ⟨_, ?_, changes_place seated rfl rfl name (some owner) power (MatchState.handleOf kind owner)⟩
    · simp [perform, Host.on_spawn, MatchState.spawn, MatchState.zoneHandle, absent, Except.map]
    · rw [perform, Host.on_discard, Host.on_spawn, MatchState.spawn_eq_ok.mpr ⟨sits, rfl⟩]
  | spawnNeutral name =>
    refine answered_of_none rfl ?_ (changes_place seated rfl rfl name none 0 MatchState.board)
    rw [perform, Host.on_discard, Host.on_spawnNeutral]
    rfl
  | setPower card power =>
    refine answered_of_none rfl (Host.on_modify _ s) ?_
    simp only [MatchState.setPower]
    cases s.card? card with
    | none => exact changes_refl seated rfl rfl
    | some found => exact changes_of_same seated rfl rfl rfl rfl rfl
  | setActive p =>
    refine answered_of_player rfl (fun absent => ?_) fun sits =>
      ⟨{ s with activePlayer := p }, ?_, ⟨rfl, rfl, sits, by rintro ⟨⟩, rfl⟩⟩
    · simp [perform, MatchState.setActive, absent]
    · simp [perform, MatchState.setActive, sits]
  | passTurn =>
    have some : s.seats ≠ 0 := Nat.ne_of_gt seated.one_le
    have few : s.seats ≤ 256 := Nat.le_succ_of_le seated.few
    cases next : s.activePlayer.next? s.seats with
    | none => simp [PlayerId.next?, some] at next
    | some p =>
      have index := PlayerId.next?_index next few
      have lt : p.index.toNat < s.seats := by
        rw [index]
        exact Nat.mod_lt _ seated.one_le
      refine answered_of_none (t := { s with activePlayer := p }) rfl ?_
        ⟨rfl, rfl, lt, fun _ => index, rfl⟩
      simp [perform, MatchState.passTurn, next]
  | zoneHandle kind p => exact answered_of_ask seated rfl rfl rfl rfl MatchState.zoneHandle_isOk_iff
  | zoneCards kind p => exact answered_of_ask seated rfl rfl rfl rfl MatchState.zoneCards_isOk_iff
  | playerZones p => exact answered_of_ask seated rfl rfl rfl rfl MatchState.playerZones_isOk_iff
  | evaluate config e vars =>
    refine answered_of_none rfl
      (Host.on_script (run_not_refused (s := ⟨vars, s⟩) seated config e)) ?_
    rw [frame_run]
    exact changes_refl seated rfl rfl
  | invoke registry effect vars =>
    refine answered_of_none rfl (Host.on_script (invoke_not_refused seated registry effect vars)) ?_
    rw [frame_invoke]
    exact changes_refl seated rfl rfl

end

theorem Frame.LaidOut.of_changes {n : Nat} {q : Request} {f g : Frame} (laid : f.LaidOut n)
    (changes : q.Changes f g) : g.LaidOut n := by
  obtain ⟨seated, rfl, plan⟩ := laid
  have seats := changes.seats
  have zones := changes.zones
  refine ⟨⟨?_, ?_, ?_, ?_⟩, seats, zones.trans plan⟩
  · rw [seats]
    exact seated.one_le
  · rw [seats]
    exact seated.few
  · rw [seats]
    exact changes.seated
  · rw [seats, zones]
    exact seated.zones

namespace MatchState

theorem laidOut_start {config : MatchConfig} {m : MatchState} (started : start config = .ok m) :
    m.frame.LaidOut config.playerCount := by
  have seated := seated_start started
  obtain ⟨-, -, rfl⟩ := start_eq_ok started
  refine ⟨seated, rfl, ?_⟩
  simp [frame, layout_eq_created, ZoneStore.createAll_eq, ZoneStore.empty, Function.comp_def]

variable {n : Nat} {s : MatchState}

theorem laidOut_perform (laid : s.frame.LaidOut n) (q : Request) :
    (q.perform.on s).2.frame.LaidOut n := by
  cases q.answered laid.toSeated with
  | turnedDown _ _ done => rwa [done]
  | granted _ done changes =>
    rw [done]
    exact laid.of_changes changes

theorem play_cons (s : MatchState) (q : Request) (requests : List Request) :
    s.play (q :: requests) = (q.perform.on s).2.play requests := rfl

theorem play_append (s : MatchState) (requests more : List Request) :
    s.play (requests ++ more) = (s.play requests).play more := List.foldl_append

theorem laidOut_play (laid : s.frame.LaidOut n) (requests : List Request) :
    (s.play requests).frame.LaidOut n := by
  induction requests generalizing s with
  | nil => exact laid
  | cons q rest ih => exact ih (laidOut_perform laid q)

theorem activePlayer_play (laid : s.frame.LaidOut n) {requests : List Request}
    (unset : ∀ q ∈ requests, q.setsTurn = false) :
    (s.play requests).activePlayer.index.toNat =
      (s.activePlayer.index.toNat + requests.countP Request.passesTurn) % n := by
  induction requests generalizing s with
  | nil =>
    have lt := laid.active
    rw [laid.seats_eq] at lt
    exact (Nat.mod_eq_of_lt lt).symm
  | cons q rest ih =>
    obtain ⟨first, others⟩ := List.forall_mem_cons.mp unset
    rw [play_cons, ih (laidOut_perform laid q) others, List.countP_cons]
    cases q.answered laid.toSeated with
    | turnedDown mine _ done =>
      have stays : q.passesTurn = false := by cases q <;> first | rfl | cases mine
      rw [done, stays]
      rfl
    | @granted t _ done changes =>
      have moved : t.activePlayer.index.toNat = _ := changes.active first
      rw [done, moved, show s.frame.seats = n from laid.seats_eq, Nat.mod_add_mod,
        Nat.add_right_comm, Nat.add_assoc]
      rfl

theorem nextCard_play (laid : s.frame.LaidOut n) (requests : List Request) :
    (s.play requests).nextCard.raw.toNat ≤
      s.nextCard.raw.toNat + requests.countP Request.spawns := by
  induction requests generalizing s with
  | nil => exact Nat.le_refl _
  | cons q rest ih =>
    have step : (q.perform.on s).2.nextCard.raw.toNat ≤
        s.nextCard.raw.toNat + if q.spawns then 1 else 0 := by
      cases q.answered laid.toSeated with
      | turnedDown _ _ done =>
        rw [done]
        exact Nat.le_add_right _ _
      | @granted t _ done changes =>
        have counted : t.nextCard = _ := changes.nextCard
        rw [done, counted]
        cases q.spawns with
        | false => exact Nat.le_refl _
        | true =>
          exact Nat.le_trans (Nat.le_of_eq (UInt32.toNat_add s.nextCard.raw 1)) (Nat.mod_le _ _)
    have later := ih (laidOut_perform laid q)
    rw [play_cons, List.countP_cons]
    omega

theorem turned_down_iff (laid : s.frame.LaidOut n) (q : Request) :
    ((∃ r, (q.perform.on s).1 = .error r) ↔ ∃ p, q.player? = some p ∧ n ≤ p.index.toNat) ∧
      ∀ r, (q.perform.on s).1 = .error r → (q.perform.on s).2 = s := by
  obtain rfl : s.seats = n := laid.seats_eq
  cases q.answered laid.toSeated with
  | @turnedDown p r mine absent done =>
    rw [done]
    exact ⟨iff_of_true ⟨r, rfl⟩ ⟨p, mine, absent⟩, fun _ _ => rfl⟩
  | granted sits done changes =>
    rw [done]
    refine ⟨iff_of_false (by rintro ⟨_, ⟨⟩⟩) ?_, by rintro _ ⟨⟩⟩
    rintro ⟨p, mine, absent⟩
    exact Nat.not_lt.mpr absent (sits p mine)

end MatchState

theorem Reachable.exists_play {Allowed : List CardId → MatchState → Value → Prop}
    {config : MatchConfig} {ids : List CardId} {s : Session MatchState}
    (reached : Reachable Allowed config ids s) :
    ∃ m requests, MatchState.start config = .ok m ∧ m.play requests = s.context := by
  have next {t u : MatchState} (q : Request) (done : (q.perform.on t).2 = u) :
      (∃ m requests, MatchState.start config = .ok m ∧ m.play requests = t) →
        ∃ m requests, MatchState.start config = .ok m ∧ m.play requests = u := by
    rintro ⟨m, requests, started, rfl⟩
    exact ⟨m, requests ++ [q], started, by rw [MatchState.play_append, ← done]; rfl⟩
  induction reached with
  | @start m started => exact ⟨m, [], started, rfl⟩
  | spawn name owner kind power _ spawned ih =>
    refine next (.spawn name owner kind power) ?_ ih
    rw [Request.perform, Host.on_discard, Host.on_spawn, spawned]
  | spawnNeutral name _ spawned ih =>
    refine next (.spawnNeutral name) ?_ ih
    rw [Request.perform, Host.on_discard, Host.on_spawnNeutral, spawned]
  | setPower c power _ ih => exact next (.setPower c power) rfl ih
  | setActive p _ set ih => exact next (.setActive p) (by simp [Request.perform, set]) ih
  | passTurn _ passed ih => exact next .passTurn (by simp [Request.perform, passed]) ih
  | assign name v _ _ ih => exact ih
  | @evaluate ids s limit e before ih =>
    have seated := reachable_seated before
    refine next (.evaluate limit e s.env) ?_ ih
    rw [Request.perform, Host.on_script (run_not_refused (s := s) seated limit e)]
  | @invoke ids s r name vars before _ ih =>
    have seated := reachable_seated before
    refine next (.invoke r name vars) ?_ ih
    rw [Request.perform, Host.on_script (invoke_not_refused seated r name vars)]

/-- Configurations that the program makes: of a count that it takes or from a stored form. -/
def MatchConfig.Accepted (config : MatchConfig) : Prop :=
  (∃ count c seed, MatchConfig.tryNew count = .ok c ∧ c.withSeed seed = config) ∨
    ∃ j, MatchConfig.ofJson? j = some (.ok config)

theorem MatchConfig.tryNew_eq_ok {count : Nat} {config : MatchConfig}
    (made : MatchConfig.tryNew count = .ok config) :
    1 ≤ config.playerCount ∧ config.playerCount ≤ maxPlayers := by
  simp only [MatchConfig.tryNew] at made
  split at made
  · rename_i range
    cases made
    exact range
  · cases made

theorem MatchConfig.Accepted.range {config : MatchConfig} (accepted : config.Accepted) :
    1 ≤ config.playerCount ∧ config.playerCount ≤ maxPlayers := by
  rcases accepted with ⟨count, c, seed, made, rfl⟩ | ⟨j, read⟩
  · have range := MatchConfig.tryNew_eq_ok made
    exact range
  · obtain ⟨⟨count, seed⟩, -, made⟩ := Option.map_eq_some_iff.mp read
    cases checked : MatchConfig.tryNew count with
    | error e => simp [checked, Except.map] at made
    | ok c =>
      simp only [checked, Except.map, Except.ok.injEq] at made
      subst made
      have range := MatchConfig.tryNew_eq_ok checked
      exact range

theorem MatchConfig.Accepted.exists_start {config : MatchConfig} (accepted : config.Accepted) :
    ∃ m, MatchState.start config = .ok m := by
  have checked := checkSeats_eq_ok.mpr accepted.range
  simp only [MatchState.start, checked]
  exact ⟨_, rfl⟩

/-- Every accepted configuration starts a match, and whatever is asked of the match, it keeps its
layout. It turns down what it is asked for a player without a seat, with no change, and nothing
else. The turn goes round by as many seats as it is passed, and the counter of ids does not run over
before as many cards were brought into play as there are ids. -/
theorem hosts_keep_layout {config : MatchConfig} (accepted : config.Accepted) :
    let n := config.playerCount
    ∃ m, MatchState.start config = .ok m ∧ ∀ requests : List Request,
      let s := m.play requests
      s.HasLayout n ∧
      (∀ q : Request,
        ((∃ r, (q.perform.on s).1 = .error r) ↔ ∃ p, q.player? = some p ∧ n ≤ p.index.toNat) ∧
        ∀ r, (q.perform.on s).1 = .error r → (q.perform.on s).2 = s) ∧
      (∀ more : List Request, (∀ q ∈ more, q.setsTurn = false) →
        (s.play more).activePlayer.index.toNat =
          (s.activePlayer.index.toNat + more.countP Request.passesTurn) % n) ∧
      (requests.countP Request.spawns + 2 < UInt32.size →
        s.nextCard.raw.toNat + 1 < UInt32.size) := by
  intro n
  obtain ⟨m, started⟩ := accepted.exists_start
  refine ⟨m, started, fun requests => ?_⟩
  have laid := MatchState.laidOut_play (MatchState.laidOut_start started) requests
  refine ⟨MatchState.hasLayout_of_frame laid, MatchState.turned_down_iff laid,
    fun more => MatchState.activePlayer_play laid, fun few => ?_⟩
  have counted := MatchState.nextCard_play (MatchState.laidOut_start started) requests
  obtain ⟨-, -, rfl⟩ := MatchState.start_eq_ok started
  have first : (⟨1⟩ : CardId).raw.toNat = 1 := rfl
  simp only [first] at counted
  omega

theorem hosts_keep_layout_two :
    let config : MatchConfig := ⟨2, 42⟩
    let draw := Expr.ofCallWith (.ofZone .hand) (.card .push) (.ofCall (.ofZone .deck) (.pile .pop))
    let requests : List Request :=
      [.spawn "Ciri" ⟨1⟩ .deck 4, .setActive ⟨5⟩, .setActive ⟨1⟩, .evaluate .default draw .empty]
    let stray : Request := .spawn "Biting Frost" ⟨2⟩ .board 0
    config.Accepted ∧ ∃ m, MatchState.start config = .ok m ∧
      let s := m.play requests
      s.HasLayout 2 ∧ (∃ r, (stray.perform.on s).1 = .error r) ∧ (stray.perform.on s).2 = s ∧
      s.activePlayer = ⟨1⟩ ∧
      (s.play [.passTurn, .passTurn, .passTurn]).activePlayer.index.toNat = 0 ∧
      s.zoneCards .hand ⟨1⟩ = .ok [⟨1⟩] ∧ s.nextCard.raw.toNat + 1 < UInt32.size := by
  intro config draw requests stray
  have accepted : config.Accepted := .inl ⟨2, ⟨2, 0⟩, 42, rfl, rfl⟩
  obtain ⟨m, started, kept⟩ := hosts_keep_layout accepted
  obtain ⟨layout, answers, turns, ids⟩ := kept requests
  obtain ⟨r, turnedDown⟩ := (answers stray).1.mpr ⟨⟨2⟩, rfl, by decide⟩
  have passed := turns [.passTurn, .passTurn, .passTurn] (by simp [Request.setsTurn])
  obtain ⟨-, -, begun⟩ := MatchState.start_eq_ok started
  have turn : (m.play requests).activePlayer = ⟨1⟩ := by
    rw [begun]
    decide +kernel
  have drawn : (m.play requests).zoneCards .hand ⟨1⟩ = .ok [⟨1⟩] := by
    rw [begun]
    decide +kernel
  have around : ((⟨1⟩ : PlayerId).index.toNat +
      [Request.passTurn, .passTurn, .passTurn].countP Request.passesTurn) % 2 = 0 := rfl
  rw [turn] at passed
  exact ⟨accepted, m, started, layout, ⟨r, turnedDown⟩, (answers stray).2 r turnedDown, turn,
    passed.trans around, drawn, ids (by decide)⟩

end CardEffects
