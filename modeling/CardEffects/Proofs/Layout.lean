import CardEffects.Proofs.Confinement

/-!
# The layout of zones

The zones of a match are made one after another in a store that is empty at first: the board, and
then the zones of each seat. A handle is the place at which its zone was made, so a zone is found
where the layout says, and it stays there, for nothing makes or removes a zone later.
-/

namespace CardEffects

def ZoneStore.createAll (s : ZoneStore) :
    List (ZoneKind × Option PlayerId) → List ZoneHandle × ZoneStore
  | [] => ([], s)
  | (kind, owner) :: rest =>
    let (handle, s) := s.create kind owner
    let (handles, s) := s.createAll rest
    (handle :: handles, s)

theorem ZoneStore.createAll_eq (s : ZoneStore) (plan : List (ZoneKind × Option PlayerId)) :
    s.createAll plan = ((List.range plan.length).map fun i => ⟨UInt32.ofNat (s.size + i)⟩,
      ⟨s.zones ++ (plan.map fun (kind, owner) => ⟨kind, owner, []⟩).toArray⟩) := by
  induction plan generalizing s with
  | nil => simp [createAll]
  | cons first rest ih =>
    obtain ⟨kind, owner⟩ := first
    simp only [createAll, create, ih, size, Array.size_push, List.length_cons,
      List.range_succ_eq_map, List.map_cons, List.map_map, Function.comp_def, Nat.add_zero,
      Prod.mk.injEq, List.cons.injEq, true_and]
    refine ⟨List.map_congr_left fun i _ => ?_, by simp⟩
    rw [Nat.add_assoc, Nat.add_comm 1 i]

theorem getElem?_flatMap_of_length {α β : Type} {f : α → List β} {k : Nat}
    (length : ∀ a, (f a).length = k) (xs : List α) (i : Nat) {j : Nat} (lt : j < k) :
    (xs.flatMap f)[k * i + j]? = xs[i]?.bind fun a => (f a)[j]? := by
  induction xs generalizing i with
  | nil => simp
  | cons a xs ih =>
    rw [List.flatMap_cons]
    cases i with
    | zero =>
      rw [List.getElem?_append_left (by rw [length]; omega)]
      simp
    | succ i =>
      rw [List.getElem?_append_right (by rw [length, Nat.mul_succ]; omega), length,
        show k * (i + 1) + j - k = k * i + j by rw [Nat.mul_succ]; omega]
      simpa using ih i

namespace MatchState

def zonePlan (seats : Nat) : List (ZoneKind × Option PlayerId) :=
  (.board, none) :: (PlayerId.all seats).flatMap fun p => ZoneKind.perPlayer.map fun kind =>
    (kind, some p)

theorem zonePlan_getElem? {seats : Nat} (few : seats ≤ maxPlayers) {kind : ZoneKind} {place : Nat}
    (placed : kind.place? = some place) {p : PlayerId} (seated : p.index.toNat < seats) :
    (zonePlan seats)[1 + 4 * p.index.toNat + place]? = some (kind, some p) := by
  obtain ⟨lt, same, -⟩ := List.findIdx?_eq_some_iff_getElem.mp placed
  have small : seats % 256 = seats := Nat.mod_eq_of_lt (Nat.lt_succ_of_le few)
  have player : (PlayerId.all seats)[p.index.toNat]? = some p := by
    simp [PlayerId.all, small, seated]
  rw [zonePlan, show 1 + 4 * p.index.toNat + place = 4 * p.index.toNat + place + 1 by omega,
    List.getElem?_cons_succ, getElem?_flatMap_of_length (k := 4) (fun _ => rfl) _ _ lt, player]
  simp [beq_iff_eq.mp same, lt]

theorem layout_eq_created (seats : Nat) :
    layout seats = (ZoneStore.empty.createAll (zonePlan seats)).2 := by
  simp [ZoneStore.createAll_eq, layout, zonePlan, ZoneStore.empty, List.map_flatMap,
    Function.comp_def]
  rfl

theorem handleOf_ne_board {kind : ZoneKind} (own : kind ≠ .board) (p : PlayerId) :
    handleOf kind p ≠ board := by
  intro same
  have shared : handleOf .board p = handleOf kind p := same.symm
  exact own (handleOf_inj own shared).1.symm

theorem created_handle {seats : Nat} (few : seats ≤ maxPlayers) {kind : ZoneKind}
    (own : kind ≠ .board) {p : PlayerId} (seated : p.index.toNat < seats) :
    (zonePlan seats)[(handleOf kind p).raw.toNat]? = some (kind, some p) ∧
      (ZoneStore.empty.createAll (zonePlan seats)).1[(handleOf kind p).raw.toNat]? =
        some (handleOf kind p) := by
  obtain ⟨place, placed⟩ := exists_place own
  have there := zonePlan_getElem? few placed seated
  rw [← handleOf_toNat placed p] at there
  have lt := (List.getElem?_eq_some_iff.mp there).1
  refine ⟨there, ?_⟩
  simp [ZoneStore.createAll_eq, ZoneStore.empty, ZoneStore.size, lt]

end MatchState

structure Frame.LaidOut (n : Nat) (f : Frame) : Prop extends f.Seated where
  seats_eq : f.seats = n
  plan : f.zones = MatchState.zonePlan n

namespace MatchState

/-- What a host finds in a match of `n` seats, whoever asks and whatever has happened in it. -/
structure HasLayout (n : Nat) (s : MatchState) : Prop where
  seats : s.seats = n
  active : s.activePlayer.index.toNat < n
  size : s.zones.size = 1 + 4 * n
  board : MatchState.board = ⟨0⟩ ∧ s.zones.kind? MatchState.board = some .board ∧
    s.zones.owner? MatchState.board = none
  shared (p : PlayerId) : p.index.toNat < n → s.zoneHandle .board p = .ok MatchState.board
  own (kind : ZoneKind) (p : PlayerId) : kind ≠ .board → p.index.toNat < n →
    ∃ h, s.zoneHandle kind p = .ok h ∧ h ≠ MatchState.board ∧ s.zones.kind? h = some kind ∧
      s.zones.owner? h = some p
  distinct (kind kind' : ZoneKind) (p p' : PlayerId) (h : ZoneHandle) : kind ≠ .board →
    s.zoneHandle kind p = .ok h → s.zoneHandle kind' p' = .ok h → kind = kind' ∧ p = p'
  cards (kind : ZoneKind) (p : PlayerId) : p.index.toNat < n →
    ∃ h cards, s.zoneHandle kind p = .ok h ∧ s.zones.cards? h = some cards ∧
      s.zoneCards kind p = .ok cards

theorem zone?_of_frame_zones {s : MatchState} {h : ZoneHandle} {kind : ZoneKind}
    {owner : Option PlayerId} (there : s.frame.zones[h.raw.toNat]? = some (kind, owner)) :
    s.zones.kind? h = some kind ∧ s.zones.owner? h = owner := by
  simp only [frame, List.getElem?_map, Array.getElem?_toList, Option.map_eq_some_iff] at there
  obtain ⟨zone, found, same⟩ := there
  cases same
  have zone? : s.zones.zone? h = some zone := found
  simp [ZoneStore.kind?, ZoneStore.owner?, zone?]

theorem hasLayout_of_frame {n : Nat} {s : MatchState} (laid : s.frame.LaidOut n) :
    s.HasLayout n := by
  obtain ⟨seated, rfl, plan⟩ := laid
  have few : s.seats ≤ maxPlayers := seated.few
  have handle {kind : ZoneKind} {p : PlayerId} (sits : p.index.toNat < s.seats) :
      s.zoneHandle kind p = .ok (handleOf kind p) := zoneHandle_eq_ok.mpr ⟨sits, rfl⟩
  refine ⟨rfl, seated.active, ?_, ⟨rfl, ?_⟩, fun p sits => handle sits, fun kind p own sits => ?_,
    fun kind kind' p p' h own found found' => ?_, fun kind p sits => ?_⟩
  · rw [← length_frame_zones]
    exact seated.zones
  · apply zone?_of_frame_zones
    rw [plan]
    rfl
  · have there := (created_handle few own sits).1
    rw [show s.seats = s.frame.seats from rfl, ← plan] at there
    exact ⟨_, handle sits, handleOf_ne_board own p, zone?_of_frame_zones there⟩
  · obtain ⟨-, rfl⟩ := zoneHandle_eq_ok.mp found
    obtain ⟨-, same⟩ := zoneHandle_eq_ok.mp found'
    have both := handleOf_inj own same
    exact ⟨both.1.symm, both.2.symm⟩
  · obtain ⟨cards, lies⟩ := exists_cards seated kind sits
    exact ⟨_, cards, handle sits, lies, by rw [zoneCards_of_seated s kind sits, lies]; rfl⟩

end MatchState

end CardEffects
