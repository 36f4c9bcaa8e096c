import CardEffects.Proofs.Invariants
import CardEffects.Proofs.Reachable
import CardEffects.Proofs.Seating

/-!
# Where cards and zones come from

Scripts forge neither cards nor zones. Every card that a zone or a variable holds was brought into
play by the host, and every list that a variable holds is a zone of the match. The invariant speaks
of the variables and the zones only; what evaluation passes on in between follows from the rule for
script invariants.
-/

namespace CardEffects

def Frame.Knows (f : Frame) : Value → Prop
  | .card c => c.raw ∈ f.cards
  | .cardList zone => zone.raw.toNat < f.zones.length
  | _ => True

theorem Frame.knows_plain (f : Frame) {v : Value} (plain : v.isPlain = true) : f.Knows v := by
  cases v with
  | card c => cases plain
  | cardList zone => cases plain
  | _ => trivial

/-- A session of a match with the frame, in which all that is named is known. -/
structure Genuine (f : Frame) (s : Session MatchState) : Prop where
  frame : s.context.frame = f
  bound (name : String) (v : Value) : s.env.lookup? name = some v → f.Knows v
  cards : ∀ c ∈ s.context.zones.allCards, f.Knows (.card c)

theorem mem_allCards_withCards {s : MatchState} {zone : ZoneHandle} {moved : List CardId}
    {c : CardId} (h : c ∈ (s.withCards zone moved).zones.allCards) :
    c ∈ moved ∨ c ∈ s.zones.allCards := by
  rw [MatchState.allCards_eq_flatten, MatchState.lists_withCards] at h
  obtain ⟨pile, mem, hc⟩ := List.mem_flatten.mp h
  rcases List.mem_or_eq_of_mem_set mem with old | rfl
  · rw [MatchState.allCards_eq_flatten]
    exact .inr (List.mem_flatten.mpr ⟨pile, old, hc⟩)
  · exact .inl hc

theorem mem_allCards_of_cards? {s : MatchState} {zone : ZoneHandle} {cards : List CardId}
    {c : CardId} (known : s.zones.cards? zone = some cards) (h : c ∈ cards) :
    c ∈ s.zones.allCards := by
  rw [← MatchState.piles_getElem?] at known
  rw [MatchState.allCards_eq_flatten]
  exact List.mem_flatten.mpr ⟨cards, List.mem_of_getElem? known, h⟩

section

variable {f : Frame} {s : Session MatchState} {zone : ZoneHandle}

theorem Genuine.exists_cards (h : Genuine f s) (known : f.Knows (.cardList zone)) :
    ∃ cards, s.context.zones.cards? zone = some cards := by
  have found : (s.context.zones.cards? zone).isSome := by
    rw [MatchState.cards?_isSome_iff, h.frame]
    exact known
  exact Option.isSome_iff_exists.mp found

theorem Genuine.withCards (h : Genuine f s) (zone : ZoneHandle) {moved : List CardId}
    (known : ∀ c ∈ moved, f.Knows (.card c)) (rng : Random.Generator) :
    Genuine f { s with context := { s.context.withCards zone moved with rng } } where
  frame := (s.context.frame_withCards zone moved).trans h.frame
  bound := h.bound
  cards c hc := by
    rcases mem_allCards_withCards hc with new | old
    · exact known c new
    · exact h.cards c old

theorem Genuine.assign (h : Genuine f s) (name : String) {v : Value} (known : f.Knows v) :
    Genuine f { s with env := s.env.assign name v } where
  frame := h.frame
  bound other w found := by
    rw [Environment.lookup?_assign] at found
    split at found
    · cases found
      exact known
    · exact h.bound other w found
  cards := h.cards

end

/-- A failure that no zone of the match is missing for; a refusal is none. -/
def NoUnknownZone (e : Option RuntimeError) : Prop :=
  ∃ err, e = some err ∧ ∀ zone, err.cause ≠ .unknownZone zone

theorem noUnknownZone_tooDeep (m : Nat) (pos : SourcePos) :
    NoUnknownZone (some ⟨.tooDeep m, pos⟩) :=
  ⟨_, rfl, fun _ => nofun⟩

def EffectError.NoUnknownZone (e : Option EffectError) : Prop :=
  ∃ err, e = some err ∧ ∀ inner zone, err.runtimeError? = some inner →
    inner.cause ≠ .unknownZone zone

section

variable {f : Frame}

theorem genuine_zone (seated : f.Seated) {s : Session MatchState} (hs : Genuine f s) {p : PlayerId}
    (player : Run.MayAskFor s p) (kind : ZoneKind) :
    s.context.zoneHandle kind p = .ok (MatchState.handleOf kind p) ∧
      f.Knows (.cardList (MatchState.handleOf kind p)) := by
  have seated' : s.context.frame.Seated := hs.frame ▸ seated
  have sits := MatchState.seated_of_mayAskFor seated' player
  refine ⟨MatchState.zoneHandle_eq_ok.mpr ⟨sits, rfl⟩, ?_⟩
  show (MatchState.handleOf kind p).raw.toNat < f.zones.length
  rw [← hs.frame, MatchState.length_frame_zones]
  exact MatchState.handleOf_lt_size seated' kind sits

theorem genuine_applyCard (m : CardMethod) {zone : ZoneHandle} {c : CardId} (pos : SourcePos)
    (hz : f.Knows (.cardList zone)) (hc : f.Knows (.card c)) :
    (Run.applyCard m zone c pos).Within (Genuine f) NoUnknownZone f.Knows := by
  intro s hs
  obtain ⟨cards, found⟩ := hs.exists_cards hz
  have old (d : CardId) (hd : d ∈ cards) : f.Knows (.card d) :=
    hs.cards d (mem_allCards_of_cards? found hd)
  rw [Run.applyCard_apply, found]
  refine ⟨?_, hs.withCards zone (fun d hd => ?_) s.context.rng⟩
  · cases m with
    | push => exact hz
    | sendBottom => exact hz
    | remove => trivial
  · cases m with
    | push =>
      rcases List.mem_cons.mp hd with rfl | hd
      · exact hc
      · exact old d hd
    | sendBottom =>
      rcases List.mem_append.mp hd with hd | hd
      · exact old d hd
      · rw [List.mem_singleton.mp hd]
        exact hc
    | remove => exact old d (List.mem_of_mem_erase hd)

theorem genuine_applyPile (m : PileMethod) {zone : ZoneHandle} (pos : SourcePos)
    (hz : f.Knows (.cardList zone)) :
    (Run.applyPile m zone pos).Within (Genuine f) NoUnknownZone f.Knows := by
  intro s hs
  obtain ⟨cards, found⟩ := hs.exists_cards hz
  have old (d : CardId) (hd : d ∈ cards) : f.Knows (.card d) :=
    hs.cards d (mem_allCards_of_cards? found hd)
  cases m with
  | pop =>
    rw [Run.applyPile, Run.pop_apply, found]
    refine ⟨?_, hs.withCards zone (fun d hd => old d (List.mem_of_mem_tail hd)) s.context.rng⟩
    cases cards with
    | nil => trivial
    | cons c rest => exact old c List.mem_cons_self
  | shuffle =>
    rw [Run.applyPile, Run.shuffle_apply, found]
    have order := s.context.rng.shuffle_perm cards
    exact ⟨hz, hs.withCards zone (fun d hd => old d (order.mem_iff.mp hd)) _⟩

theorem genuine_isScriptInvariant (seated : f.Seated) :
    Run.IsScriptInvariant (Genuine f) f.Knows NoUnknownZone where
  plain := f.knows_plain
  ordinary {cause} pos h := by
    refine ⟨_, rfl, fun zone unknown => ?_⟩
    simp only at unknown
    rw [unknown] at h
    cases h
  bound hs found := hs.bound _ _ found
  assigned := by
    intro s name v hs hv
    exact hs.assign name hv
  zone hs player found := by
    obtain ⟨answer, known⟩ := genuine_zone seated hs player _
    cases answer.symm.trans found
    exact known
  refused hs player found := by
    obtain ⟨answer, -⟩ := genuine_zone seated hs player _
    cases answer.symm.trans found
  unknown pos hs known missing := by
    obtain ⟨cards, found⟩ := hs.exists_cards known
    exact nomatch found.symm.trans missing
  card m zone c pos := genuine_applyCard m pos
  pile m zone pos := genuine_applyPile m pos

end

/-- The cards brought into play are those in the table, each under its own id, and their ids are all
from one up to the next. -/
structure Frame.Counts (f : Frame) (ids : List CardId) : Prop where
  next : f.nextCard.raw.toNat = ids.length + 1
  mem_ids (c : CardId) : c ∈ ids ↔ 1 ≤ c.raw.toNat ∧ c.raw.toNat ≤ ids.length
  mem_cards (k : UInt32) : k ∈ f.cards ↔ 1 ≤ k.toNat ∧ k.toNat ≤ ids.length
  id_eq (k : UInt32) (card : CardInstance) : f.cards[k]? = some card → card.id = ⟨k⟩

section

variable {f : Frame} {ids : List CardId}

theorem Frame.Counts.unused (h : f.Counts ids) : f.nextCard.raw ∉ f.cards := by
  rw [h.mem_cards, h.next]
  omega

theorem Frame.Counts.insert (h : f.Counts ids) (few : ids.length + 2 < UInt32.size)
    {card : CardInstance} (same : card.id = f.nextCard) :
    ({ f with cards := f.cards.insert f.nextCard.raw card, nextCard := f.nextCard.next } :
      Frame).Counts (f.nextCard :: ids) where
  next := by
    have next := h.next
    have size : UInt32.size = 4294967296 := rfl
    simp only [CardId.next, UInt32.toNat_add, UInt32.toNat_one, List.length_cons]
    omega
  mem_ids c := by
    have next := h.next
    have old := h.mem_ids c
    have eq_iff : c = f.nextCard ↔ c.raw.toNat = f.nextCard.raw.toNat := by
      rw [UInt32.toNat_inj]
      exact ⟨congrArg CardId.raw, fun same => by cases c; cases hn : f.nextCard; simp_all⟩
    simp only [List.mem_cons, List.length_cons, eq_iff, old]
    omega
  mem_cards k := by
    have next := h.next
    have old := h.mem_cards k
    have eq_iff : f.nextCard.raw = k ↔ f.nextCard.raw.toNat = k.toNat := UInt32.toNat_inj.symm
    simp only [Std.TreeMap.mem_insert, Std.LawfulEqOrd.compare_eq_iff_eq, List.length_cons,
      eq_iff, old]
    omega
  id_eq k entry found := by
    rw [Std.TreeMap.getElem?_insert] at found
    split at found
    · rename_i here
      rw [Std.LawfulEqOrd.compare_eq_iff_eq] at here
      cases found
      rw [same, ← here]
    · exact h.id_eq k entry found

theorem Frame.Counts.replace (h : f.Counts ids) {k : UInt32} {card new : CardInstance}
    (found : f.cards[k]? = some card) (same : new.id = card.id) :
    ({ f with cards := f.cards.insert k new } : Frame).Counts ids where
  next := h.next
  mem_ids := h.mem_ids
  mem_cards j := by
    rw [← h.mem_cards j, Std.TreeMap.mem_insert, Std.LawfulEqOrd.compare_eq_iff_eq]
    constructor
    · rintro (rfl | old)
      · rw [Std.TreeMap.mem_iff_isSome_getElem?, found]
        rfl
      · exact old
    · exact .inr
  id_eq j entry there := by
    rw [Std.TreeMap.getElem?_insert] at there
    split at there
    · rename_i here
      rw [Std.LawfulEqOrd.compare_eq_iff_eq] at here
      cases there
      rw [same, h.id_eq k card found, here]
    · exact h.id_eq j entry there

end

/-- What a host may hand to scripts: the cards that it brought into play and the zones of the match,
and all that names neither. -/
def Nameable (ids : List CardId) (m : MatchState) : Value → Prop
  | .card c => c ∈ ids
  | .cardList zone => (m.zones.zone? zone).isSome
  | _ => True

structure Tracked (ids : List CardId) (s : Session MatchState) : Prop where
  seated : s.context.frame.Seated
  counts : s.context.frame.Counts ids
  genuine : Genuine s.context.frame s

section

variable {ids : List CardId} {s t : Session MatchState}

theorem Tracked.of_genuine (h : Tracked ids s) (kept : Genuine s.context.frame t) :
    Tracked ids t where
  seated := by
    rw [kept.frame]
    exact h.seated
  counts := by
    rw [kept.frame]
    exact h.counts
  genuine := by
    rw [kept.frame]
    exact kept

theorem Tracked.knows (h : Tracked ids s) {v : Value} (nameable : Nameable ids s.context v) :
    s.context.frame.Knows v := by
  cases v with
  | card c =>
    show c.raw ∈ s.context.frame.cards
    rw [h.counts.mem_cards, ← h.counts.mem_ids]
    exact nameable
  | cardList zone =>
    show zone.raw.toNat < s.context.frame.zones.length
    rw [← MatchState.cards?_isSome_iff, ZoneStore.cards?, Option.isSome_map]
    exact nameable
  | _ => trivial

theorem Tracked.place (h : Tracked ids s) (few : ids.length + 2 < UInt32.size) {zone : ZoneHandle}
    (known : zone.raw.toNat < s.context.zones.size) (name : String) (owner : Option PlayerId)
    (power : Int64) :
    Tracked (s.context.nextCard :: ids)
      { s with context := (s.context.place name owner power zone).2 } := by
  have frame := s.context.frame_place name owner power zone
  have more (v : Value) (old : s.context.frame.Knows v) :
      (s.context.place name owner power zone).2.frame.Knows v := by
    rw [frame]
    cases v with
    | card c => exact Std.TreeMap.mem_insert.mpr (.inr old)
    | _ => exact old
  refine ⟨?_, ?_, rfl, fun x v found => more v (h.genuine.bound x v found), fun c hc => ?_⟩
  · exact MatchState.seated_place h.seated name owner power zone
  · simp only [frame]
    exact h.counts.insert few rfl
  · have all := MatchState.allCards_place known name owner power
    rcases List.mem_cons.mp (all.mem_iff.mp hc) with rfl | old
    · simp only [frame]
      exact Std.TreeMap.mem_insert_self
    · exact more (.card c) (h.genuine.cards c old)

theorem Tracked.setPower (h : Tracked ids s) (c : CardId) (power : Int64) :
    Tracked ids { s with context := s.context.setPower c power } := by
  simp only [MatchState.setPower]
  cases found : s.context.card? c with
  | none => exact h
  | some card =>
    have more (v : Value) (old : s.context.frame.Knows v) :
        ({ s.context.frame with cards := s.context.cards.insert c.raw (card.withPower power) } :
          Frame).Knows v := by
      cases v with
      | card c => exact Std.TreeMap.mem_insert.mpr (.inr old)
      | _ => exact old
    exact ⟨h.seated.withCards _ _, h.counts.replace found rfl, rfl,
      fun x v bound => more v (h.genuine.bound x v bound),
        fun d hd => more (.card d) (h.genuine.cards d hd)⟩

theorem Tracked.run (h : Tracked ids s) (limit : EvalConfig) (e : Expr) :
    (limit.run e s).verdict.Meets
      (fun v => s.context.frame.Knows v ∧ Genuine s.context.frame (limit.run e s).session)
      fun e' => NoUnknownZone e' ∧ Genuine s.context.frame (limit.run e s).session :=
  (genuine_isScriptInvariant h.seated).run noUnknownZone_tooDeep limit e s h.genuine

theorem Tracked.invoke (h : Tracked ids s) (r : EffectRegistry) (name : String) {vars : Environment}
    (allowed : ∀ x v, vars.lookup? x = some v → Nameable ids s.context v) :
    (r.invoke name vars s.context).verdict.Meets
      (fun v => s.context.frame.Knows v ∧
        Genuine s.context.frame (r.invoke name vars s.context).session)
      fun e => EffectError.NoUnknownZone e ∧
        Genuine s.context.frame (r.invoke name vars s.context).session := by
  refine (genuine_isScriptInvariant h.seated).invoke noUnknownZone_tooDeep ?_ ?_ r name vars
    s.context ⟨rfl, fun x v found => h.knows (allowed x v found), h.genuine.cards⟩
  · exact fun effect => ⟨_, rfl, fun inner zone none => nomatch none⟩
  · rintro effect e ⟨err, rfl, known⟩
    refine ⟨_, rfl, fun inner zone same => ?_⟩
    cases same
    exact known zone

theorem Tracked.withActive (h : Tracked ids s) {p : PlayerId}
    (seated : p.index.toNat < s.context.seats) :
    Tracked ids { s with context := { s.context with activePlayer := p } } where
  seated := h.seated.withActive seated
  counts := ⟨h.counts.next, h.counts.mem_ids, h.counts.mem_cards, h.counts.id_eq⟩
  genuine := ⟨rfl, h.genuine.bound, h.genuine.cards⟩

theorem tracked_start {config : MatchConfig} {m : MatchState}
    (started : MatchState.start config = .ok m) :
    Tracked [] ⟨.empty, m⟩ := by
  have seated := MatchState.seated_start started
  obtain ⟨-, -, rfl⟩ := MatchState.start_eq_ok started
  refine ⟨seated, ⟨rfl, ?_, ?_, ?_⟩, rfl, ?_, ?_⟩
  · intro c
    simp only [List.not_mem_nil, List.length_nil, false_iff]
    omega
  · intro k
    have absent : k ∉ (∅ : Std.TreeMap UInt32 CardInstance) := Std.TreeMap.not_mem_emptyc
    simp only [MatchState.frame, absent, List.length_nil, false_iff]
    omega
  · intro k card found
    simp [MatchState.frame] at found
  · intro x v found
    rw [Environment.lookup?_empty] at found
    cases found
  · intro c hc
    rw [MatchState.allCards_layout] at hc
    cases hc

end

theorem reachable_tracked {config : MatchConfig} {ids : List CardId} {s : Session MatchState}
    (reached : Reachable Nameable config ids s) (few : ids.length + 1 < UInt32.size) :
    Tracked ids s := by
  induction reached with
  | start started => exact tracked_start started
  | spawn name owner kind power _ spawned ih =>
    simp only [List.length_cons] at few
    have h := ih (by omega)
    obtain ⟨seated, placed⟩ := MatchState.spawn_eq_ok.mp spawned
    cases placed
    exact h.place few (MatchState.handleOf_lt_size h.seated kind seated) name (some owner) power
  | spawnNeutral name _ spawned ih =>
    simp only [List.length_cons] at few
    have h := ih (by omega)
    cases spawned
    exact h.place few (MatchState.board_lt_size h.seated) name none 0
  | setPower c power _ ih => exact (ih few).setPower c power
  | setActive p _ set ih =>
    obtain ⟨seated, rfl⟩ := MatchState.setActive_eq_ok set
    exact (ih few).withActive seated
  | passTurn _ passed ih =>
    obtain ⟨p, seated, rfl⟩ := MatchState.passTurn_eq_ok (ih few).seated passed
    exact (ih few).withActive seated
  | assign name v _ allowed ih =>
    have h := ih few
    exact h.of_genuine (h.genuine.assign name (h.knows allowed))
  | evaluate limit e _ ih =>
    have h := ih few
    exact h.of_genuine (h.run limit e).and_right
  | invoke r name vars _ allowed ih =>
    have h := ih few
    have after := (h.invoke r name allowed).and_right
    exact h.of_genuine ⟨after.frame, h.genuine.bound, after.cards⟩

/-- All cards of a session were brought into play. The table has just the ids up to the next, each
with its own card, and what lies in zones or is named by variables is known to the match. -/
structure Unforged (s : Session MatchState) : Prop where
  keys (k : UInt32) : k ∈ s.context.cards ↔ 1 ≤ k.toNat ∧ k.toNat < s.context.nextCard.raw.toNat
  entries (k : UInt32) (card : CardInstance) : s.context.cards[k]? = some card → card.id = ⟨k⟩
  zones : ∀ c ∈ s.context.zones.allCards, c.raw ∈ s.context.cards
  bound (name : String) (v : Value) : s.env.lookup? name = some v → s.context.frame.Knows v

theorem Tracked.unforged {ids : List CardId} {s : Session MatchState} (h : Tracked ids s) :
    Unforged s where
  keys k := by
    have next : s.context.nextCard.raw.toNat = ids.length + 1 := h.counts.next
    have table : k ∈ s.context.cards ↔ _ := h.counts.mem_cards k
    rw [table]
    omega
  entries := h.counts.id_eq
  zones := h.genuine.cards
  bound := h.genuine.bound

theorem Tracked.brought {ids : List CardId} {s : Session MatchState} (h : Tracked ids s)
    {zone : ZoneHandle} (known : zone.raw.toNat < s.context.zones.size) (name : String)
    (owner : Option PlayerId) (power : Int64) :
    Brought s.context s.context.nextCard (s.context.place name owner power zone).2 zone := by
  have unused : s.context.nextCard.raw ∉ s.context.cards := h.counts.unused
  have nowhere : s.context.nextCard ∉ s.context.zones.allCards := fun there =>
    unused (h.genuine.cards _ there)
  exact MatchState.brought_place known unused nowhere name owner power

/-- Scripts forge no cards and no zones: in every reachable session all cards and lists are genuine,
evaluations and effects yield none that the match does not know and fail for no unknown zone, and a
card brought into play is new. -/
theorem scripts_forge_nothing {config : MatchConfig} {ids : List CardId} {s : Session MatchState}
    (reached : Reachable Nameable config ids s) (few : ids.length < UInt32.size - 1) :
    Unforged s ∧
    (∀ (limit : EvalConfig) (e : Expr), (limit.run e s).verdict.Meets
      (fun v => (limit.run e s).session.context.frame.Knows v) NoUnknownZone) ∧
    (∀ (r : EffectRegistry) (name : String) (vars : Environment),
      (∀ x v, vars.lookup? x = some v → Nameable ids s.context v) →
      (r.invoke name vars s.context).verdict.Meets
        (fun v => (r.invoke name vars s.context).session.context.frame.Knows v)
        EffectError.NoUnknownZone) ∧
    (ids.length + 1 < UInt32.size - 1 →
      (∀ (name : String) (owner : PlayerId) (kind : ZoneKind) (power : Int64),
        owner.index.toNat < s.context.seats →
        ∃ id m, s.context.spawn name owner kind power = .ok (id, m) ∧
          Brought s.context id m (MatchState.handleOf kind owner)) ∧
      ∀ name, Brought s.context (s.context.spawnNeutral name).1 (s.context.spawnNeutral name).2
        MatchState.board) := by
  have h := reachable_tracked reached (by omega)
  refine ⟨h.unforged, fun limit e => ?_, fun r name vars allowed => ?_,
    fun _ => ⟨?_, fun name => ?_⟩⟩
  · have run := h.run limit e
    rw [run.and_right.frame]
    exact run.and_left
  · have invoked := h.invoke r name allowed
    rw [invoked.and_right.frame]
    exact invoked.and_left
  · intro name owner kind power seated
    have known := MatchState.handleOf_lt_size h.seated kind seated
    refine ⟨_, _, MatchState.spawn_eq_ok.mpr ⟨seated, rfl⟩, ?_⟩
    exact h.brought known name (some owner) power
  · exact h.brought (MatchState.board_lt_size h.seated) name none 0

theorem scripts_forge_nothing_behind_draw :
    let config : MatchConfig := ⟨2, 0⟩
    let started : MatchState := ⟨2, ⟨0⟩, MatchState.layout 2, ∅, .ofSeed 0, ⟨1⟩⟩
    let dealt := (started.place "Wolf" (some ⟨0⟩) 4 (MatchState.handleOf .deck ⟨0⟩)).2
    let draw := Expr.ofCallWith (.ofZone .hand) (.card .push) (.ofCall (.ofZone .deck) (.pile .pop))
    let s := (EvalConfig.default.run draw ⟨.assign .empty "wolf" (.card ⟨1⟩), dealt⟩).session
    Reachable Nameable config [⟨1⟩] s ∧
      s.context.zones.cards? (MatchState.handleOf .hand ⟨0⟩) = some [⟨1⟩] ∧
      Unforged s ∧
      (EvalConfig.default.run (.ofVar "wolf") s).verdict.Meets
        (fun v => (EvalConfig.default.run (.ofVar "wolf") s).session.context.frame.Knows v)
        NoUnknownZone ∧
      ∃ id m, s.context.spawn "Fox" ⟨1⟩ .field 2 = .ok (id, m) ∧
        Brought s.context id m (MatchState.handleOf .field ⟨1⟩) := by
  intro config started dealt draw s
  have start : Reachable Nameable config [] ⟨.empty, started⟩ := .start rfl
  have spawned : Reachable Nameable config [⟨1⟩] ⟨.empty, dealt⟩ :=
    start.spawn "Wolf" ⟨0⟩ .deck 4 rfl
  have named := spawned.assign "wolf" (.card ⟨1⟩) List.mem_cons_self
  have reached : Reachable Nameable config [⟨1⟩] s := named.evaluate .default draw
  have drawn : s.context.zones.cards? (MatchState.handleOf .hand ⟨0⟩) = some [⟨1⟩] := by
    decide +kernel
  obtain ⟨unforged, evaluated, -, brought⟩ := scripts_forge_nothing reached (by decide)
  have fox := (brought (by decide)).1 "Fox" ⟨1⟩ .field 2 (by decide +kernel)
  exact ⟨reached, drawn, unforged, evaluated .default (.ofVar "wolf"), fox⟩

end CardEffects
