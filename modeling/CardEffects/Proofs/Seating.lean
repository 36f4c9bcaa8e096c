import CardEffects.Proofs.Invariants
import CardEffects.Proofs.Reachable

/-!
# Seats and zones

A match keeps the seats and the zones that it started with. The player whose turn it is has a seat,
every number by which scripts can call a player is that of a seat, and every zone of a seated player
has a place of its own in the store; so a script never asks for a zone that the match has to refuse.
-/

namespace CardEffects

namespace PlayerId

variable {seats : Nat} {p : PlayerId}

theorem bmod_seats (few : seats ≤ maxPlayers) : Int.bmod seats UInt64.size = seats := by
  apply Int.bmod_eq_of_le
  · omega
  · simp only [maxPlayers] at few
    have : ((UInt64.size : Int) + 1) / 2 = 9223372036854775808 := by decide
    omega

theorem index_of_ofNumber? {number : Int} (few : seats ≤ maxPlayers)
    (h : ofNumber? number seats = some p) : 1 ≤ number ∧ (p.index.toNat : Int) = number - 1 ∧
      p.index.toNat < seats := by
  simp only [ofNumber?] at h
  rw [bmod_seats few] at h
  split at h
  · rename_i range
    injection h with h
    have index : p.index.toNat = (number - 1).toNat := by
      rw [← h]
      simp only [UInt8.toNat_ofNat']
      omega
    omega
  · cases h

theorem ofNumber?_number (few : seats ≤ maxPlayers) (seated : p.index.toNat < seats) :
    ofNumber? p.number seats = some p := by
  have byte : seats ≤ 255 := few
  have range : (1 : Int) ≤ p.number ∧ (p.number : Int) ≤ seats ∧ (p.number : Int) ≤ 256 := by
    simp only [number]
    omega
  have index : ((p.number : Int) - 1).toNat = p.index.toNat := by
    simp only [number]
    omega
  simp only [ofNumber?, bmod_seats few, range, and_self, if_true, index, UInt8.ofNat_toNat]

end PlayerId

theorem ZoneStore.cards?_eq_none {s : ZoneStore} {zone : ZoneHandle} (h : s.size ≤ zone.raw.toNat) :
    s.cards? zone = none := by
  rw [cards?, zone?, Array.getElem?_eq_none h]
  rfl

namespace MatchState

theorem length_flatMap_seatZones (players : List PlayerId) :
    (players.flatMap seatZones).length = 4 * players.length := by
  induction players with
  | nil => rfl
  | cons p rest ih =>
    have four : (seatZones p).length = 4 := rfl
    simp only [List.flatMap_cons, List.length_append, List.length_cons, ih, four]
    omega

theorem size_layout {seats : Nat} (few : seats ≤ maxPlayers) :
    (layout seats).size = 1 + 4 * seats := by
  have small : seats % 256 = seats := Nat.mod_eq_of_lt (Nat.lt_succ_of_le few)
  simp only [layout, ZoneStore.size, List.size_toArray, List.length_cons, length_flatMap_seatZones,
    PlayerId.length_all, small]
  omega

theorem allCards_layout (seats : Nat) : (layout seats).allCards = [] := by
  have empty : ∀ zone ∈ (layout seats).zones.toList, zone.cards = [] := by
    intro zone mem
    rcases List.mem_cons.mp mem with rfl | own
    · rfl
    · obtain ⟨p, -, own⟩ := List.mem_flatMap.mp own
      obtain ⟨kind, -, rfl⟩ := List.mem_map.mp own
      rfl
  rw [ZoneStore.allCards, List.flatMap_eq_nil_iff]
  exact empty

theorem place?_lt {kind : ZoneKind} {place : Nat} (h : kind.place? = some place) : place < 4 :=
  (List.findIdx?_eq_some_iff_getElem.mp h).1

theorem handleOf_lt {seats : Nat} (kind : ZoneKind) {p : PlayerId}
    (seated : p.index.toNat < seats) :
    (handleOf kind p).raw.toNat < 1 + 4 * seats := by
  have byte := p.index.toNat_lt
  simp only [handleOf]
  cases placed : kind.place? with
  | none =>
    simp only [board, UInt32.toNat_zero]
    omega
  | some place =>
    have four : ZoneKind.perPlayer.length = 4 := rfl
    have lt := place?_lt placed
    simp only [four, UInt32.toNat_ofNat']
    omega

theorem place?_perPlayer (i : Fin 4) : ZoneKind.perPlayer[i].place? = some i.val := by
  revert i
  decide

theorem exists_place {kind : ZoneKind} (own : kind ≠ .board) :
    ∃ place, kind.place? = some place := by
  cases kind with
  | board => exact absurd rfl own
  | _ => exact ⟨_, rfl⟩

theorem place?_inj {kind kind' : ZoneKind} {place : Nat} (h : kind.place? = some place)
    (h' : kind'.place? = some place) : kind = kind' := by
  obtain ⟨_, same, -⟩ := List.findIdx?_eq_some_iff_getElem.mp h
  obtain ⟨_, same', -⟩ := List.findIdx?_eq_some_iff_getElem.mp h'
  exact (beq_iff_eq.mp same).symm.trans (beq_iff_eq.mp same')

theorem handleOf_toNat {kind : ZoneKind} {place : Nat} (placed : kind.place? = some place)
    (p : PlayerId) :
    (handleOf kind p).raw.toNat = 1 + 4 * p.index.toNat + place := by
  have byte := p.index.toNat_lt
  have lt := place?_lt placed
  have four : ZoneKind.perPlayer.length = 4 := rfl
  simp only [handleOf, placed, four, UInt32.toNat_ofNat']
  omega

theorem handleOf_inj {kind kind' : ZoneKind} {p p' : PlayerId} (own : kind' ≠ .board)
    (same : handleOf kind p = handleOf kind' p') : kind = kind' ∧ p = p' := by
  obtain ⟨place', placed'⟩ := exists_place own
  have there := congrArg (·.raw.toNat) same
  simp only [handleOf_toNat placed'] at there
  have lt' := place?_lt placed'
  cases placed : kind.place? with
  | none =>
    simp only [handleOf, placed, board, UInt32.toNat_zero] at there
    omega
  | some place =>
    rw [handleOf_toNat placed] at there
    have lt := place?_lt placed
    have places : place = place' := by omega
    have seats : p.index.toNat = p'.index.toNat := by omega
    refine ⟨place?_inj placed (places ▸ placed'), ?_⟩
    cases p
    cases p'
    exact congrArg PlayerId.mk (UInt8.toNat_inj.mp seats)

theorem exists_handleOf {seats : Nat} (few : seats ≤ maxPlayers) {zone : ZoneHandle}
    (known : zone.raw.toNat < 1 + 4 * seats) : zone = board ∨
      ∃ kind p, kind ≠ ZoneKind.board ∧ p.index.toNat < seats ∧ handleOf kind p = zone := by
  have byte : seats ≤ 255 := few
  by_cases first : zone.raw.toNat = 0
  · refine .inl ?_
    cases zone
    exact congrArg ZoneHandle.mk (UInt32.toNat_inj.mp first)
  · -- behind the board, the handles count through the four zones of a seat, then through the seats
    let place : Fin 4 := ⟨(zone.raw.toNat - 1) % 4, Nat.mod_lt _ (by decide)⟩
    let p : PlayerId := ⟨UInt8.ofNat ((zone.raw.toNat - 1) / 4)⟩
    have placed := place?_perPlayer place
    have index : p.index.toNat = (zone.raw.toNat - 1) / 4 := by
      simp only [p, UInt8.toNat_ofNat']
      omega
    refine .inr ⟨ZoneKind.perPlayer[place], p, fun shared => ?_, by omega, ?_⟩
    · rw [shared] at placed
      cases placed
    · have there := handleOf_toNat placed p
      rw [index] at there
      cases same : handleOf ZoneKind.perPlayer[place] p
      cases zone
      rw [same] at there
      refine congrArg ZoneHandle.mk (UInt32.toNat_inj.mp ?_)
      simp only [place] at there first
      omega

theorem start_eq_ok {config : MatchConfig} {s : MatchState} (h : start config = .ok s) :
    1 ≤ config.playerCount ∧ config.playerCount ≤ maxPlayers ∧
      s = ⟨config.playerCount, ⟨0⟩, layout config.playerCount, ∅, .ofSeed config.seed, ⟨1⟩⟩ := by
  simp only [start] at h
  cases checked : checkSeats config.playerCount with
  | error r => simp [checked, bind, Except.bind] at h
  | ok u =>
    obtain ⟨some, few⟩ := checkSeats_eq_ok.mp checked
    simp only [checked, bind, Except.bind, pure, Except.pure, Except.ok.injEq] at h
    exact ⟨some, few, h.symm⟩

end MatchState

/-- The seats are as many as allowed, the turn is that of one of them, and there are a board and
four zones a seat. -/
structure Frame.Seated (f : Frame) : Prop where
  one_le : 1 ≤ f.seats
  few : f.seats ≤ maxPlayers
  active : f.activePlayer.index.toNat < f.seats
  zones : f.zones.length = 1 + 4 * f.seats

namespace MatchState

theorem seated_start {config : MatchConfig} {s : MatchState} (h : start config = .ok s) :
    s.frame.Seated := by
  obtain ⟨one_le, few, rfl⟩ := start_eq_ok h
  exact ⟨one_le, few, one_le, by rw [length_frame_zones]; exact size_layout few⟩

theorem handleOf_lt_size {s : MatchState} (h : s.frame.Seated) (kind : ZoneKind) {p : PlayerId}
    (seated : p.index.toNat < s.seats) : (handleOf kind p).raw.toNat < s.zones.size := by
  rw [← length_frame_zones, h.zones]
  exact handleOf_lt kind seated

theorem board_lt_size {s : MatchState} (h : s.frame.Seated) : board.raw.toNat < s.zones.size := by
  rw [← length_frame_zones, h.zones]
  exact Nat.zero_lt_of_lt (Nat.lt_add_of_pos_right (Nat.mul_pos (by decide) h.one_le))

theorem exists_cards {s : MatchState} (h : s.frame.Seated) (kind : ZoneKind) {p : PlayerId}
    (seated : p.index.toNat < s.seats) :
    ∃ cards, s.zones.cards? (handleOf kind p) = some cards := by
  rw [← Option.isSome_iff_exists, cards?_isSome_iff, length_frame_zones]
  exact handleOf_lt_size h kind seated

theorem setActive_eq_ok {s t : MatchState} {p : PlayerId} (h : s.setActive p = .ok t) :
    p.index.toNat < s.seats ∧ t = { s with activePlayer := p } := by
  simp only [setActive] at h
  split at h
  · rename_i seated
    injection h with h
    exact ⟨seated, h.symm⟩
  · cases h

theorem passTurn_eq_ok {s t : MatchState} (h : s.frame.Seated) (passed : s.passTurn = .ok t) :
    ∃ p : PlayerId, p.index.toNat < s.seats ∧ t = { s with activePlayer := p } := by
  simp only [passTurn] at passed
  split at passed
  · rename_i p next
    injection passed with passed
    have few : s.seats ≤ 256 := Nat.le_succ_of_le h.few
    have seated : p.index.toNat < s.seats := by
      rw [PlayerId.next?_index next few]
      exact Nat.mod_lt _ h.one_le
    exact ⟨p, seated, passed.symm⟩
  · cases passed

theorem seated_of_mayAskFor {s : Session MatchState} (h : s.context.frame.Seated) {p : PlayerId}
    (asked : Run.MayAskFor s p) : p.index.toNat < s.context.seats := by
  rcases asked with rfl | ⟨number, called⟩
  · exact h.active
  · exact (PlayerId.index_of_ofNumber? h.few called).2.2

end MatchState

theorem frame_isScriptInvariant (f : Frame) :
    Run.IsScriptInvariant (χ := MatchState) (·.context.frame = f) (fun _ => True)
      fun e => f.Seated → e ≠ none where
  plain _ := trivial
  ordinary _ _ := nofun
  bound _ _ := trivial
  assigned := by
    intro s name v hs _
    exact hs
  zone _ _ _ := trivial
  refused {s kind p r} hs asked found seated := by
    subst hs
    have known : ScriptContext.zone s.context kind p = .ok (MatchState.handleOf kind p) :=
      MatchState.zoneHandle_eq_ok.mpr ⟨MatchState.seated_of_mayAskFor seated asked, rfl⟩
    cases known.symm.trans found
  unknown _ _ _ _ := nofun
  card m zone c pos _ _ := by
    intro s hs
    rw [Run.applyCard_apply]
    cases s.context.zones.cards? zone with
    | none => exact ⟨nofun, hs⟩
    | some cards => exact ⟨trivial, (s.context.frame_withCards zone _).trans hs⟩
  pile m zone pos _ := by
    intro s hs
    cases m with
    | pop =>
      rw [Run.applyPile, Run.pop_apply]
      cases s.context.zones.cards? zone with
      | none => exact ⟨nofun, hs⟩
      | some cards => exact ⟨trivial, (s.context.frame_withCards zone _).trans hs⟩
    | shuffle =>
      rw [Run.applyPile, Run.shuffle_apply]
      cases s.context.zones.cards? zone with
      | none => exact ⟨nofun, hs⟩
      | some cards => exact ⟨trivial, (s.context.frame_withCards zone _).trans hs⟩

theorem frame_evaluate (limit : Option Nat) (level : Nat) (e : Expr) (s : Session MatchState) :
    (evaluate limit level e s).session.context.frame = s.context.frame :=
  ((frame_isScriptInvariant s.context.frame).evaluate (fun _ _ _ _ => nofun) level e s
    rfl).and_right

theorem frame_run (config : EvalConfig) (e : Expr) (s : Session MatchState) :
    (config.run e s).session.context.frame = s.context.frame := by
  rw [EvalConfig.run_eq]
  exact frame_evaluate (some config.maxDepth) 0 e s

theorem frame_invoke (r : EffectRegistry) (name : String) (vars : Environment) (m : MatchState) :
    (r.invoke name vars m).session.context.frame = m.frame := by
  let Any : Option EffectError → Prop := fun _ => True
  have unregistered (effect : String) : Any (some (.unknown effect)) := trivial
  exact ((frame_isScriptInvariant m.frame).invoke (fun _ _ _ => nofun) unregistered
    (fun _ _ _ => trivial) r name vars m rfl).and_right

theorem run_not_refused {s : Session MatchState} (seated : s.context.frame.Seated)
    (config : EvalConfig) (e : Expr) (r : Refusal) : (config.run e s).verdict ≠ .refused r := by
  intro refused
  have ends := (frame_isScriptInvariant s.context.frame).run (fun _ _ _ => nofun) config e s rfl
  rw [refused] at ends
  exact ends.1 seated rfl

theorem Frame.Seated.withCards {f : Frame} (h : f.Seated) (cards : Std.TreeMap UInt32 CardInstance)
    (nextCard : CardId) : ({ f with cards, nextCard } : Frame).Seated :=
  ⟨h.one_le, h.few, h.active, h.zones⟩

theorem Frame.Seated.withActive {f : Frame} (h : f.Seated) {p : PlayerId}
    (seated : p.index.toNat < f.seats) :
    ({ f with activePlayer := p } : Frame).Seated :=
  ⟨h.one_le, h.few, seated, h.zones⟩

theorem MatchState.seated_place {m : MatchState} (h : m.frame.Seated) (name : String)
    (owner : Option PlayerId) (power : Int64) (zone : ZoneHandle) :
    (m.place name owner power zone).2.frame.Seated := by
  rw [frame_place]
  exact h.withCards _ _

theorem reachable_seated {Allowed : List CardId → MatchState → Value → Prop} {config : MatchConfig}
    {ids : List CardId} {s : Session MatchState} (reached : Reachable Allowed config ids s) :
    s.context.frame.Seated := by
  induction reached with
  | start started => exact MatchState.seated_start started
  | spawn name owner kind power _ spawned ih =>
    obtain ⟨-, placed⟩ := MatchState.spawn_eq_ok.mp spawned
    cases placed
    exact MatchState.seated_place ih name (some owner) power (MatchState.handleOf kind owner)
  | spawnNeutral name _ spawned ih =>
    cases spawned
    exact MatchState.seated_place ih name none 0 MatchState.board
  | @setPower ids s c power _ ih =>
    simp only [MatchState.setPower]
    cases s.context.card? c with
    | none => exact ih
    | some card => exact ih.withCards _ s.context.nextCard
  | setActive p _ set ih =>
    obtain ⟨seated, rfl⟩ := MatchState.setActive_eq_ok set
    exact ih.withActive seated
  | passTurn _ passed ih =>
    obtain ⟨p, seated, rfl⟩ := MatchState.passTurn_eq_ok ih passed
    exact ih.withActive seated
  | assign name v _ _ ih => exact ih
  | @evaluate ids s limit e _ ih =>
    rw [frame_run]
    exact ih
  | @invoke ids s r name vars _ _ ih =>
    simp only [frame_invoke]
    exact ih

end CardEffects
