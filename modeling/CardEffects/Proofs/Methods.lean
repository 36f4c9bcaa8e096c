import CardEffects.Proofs.Runs

/-!
# Methods on a match

A match is its piles, which scripts move, and its frame, which they never touch. On a match, unlike
on contexts that may refuse, a method fails for one reason only: no zone has the handle.
-/

namespace CardEffects

structure Piles where
  lists : List (List CardId)
  rng : Random.Generator
  deriving DecidableEq

structure Frame where
  seats : Nat
  activePlayer : PlayerId
  zones : List (ZoneKind × Option PlayerId)
  cards : Std.TreeMap UInt32 CardInstance
  nextCard : CardId

namespace MatchState

def piles (s : MatchState) : Piles := ⟨s.zones.zones.toList.map (·.cards), s.rng⟩

def frame (s : MatchState) : Frame :=
  ⟨s.seats, s.activePlayer, s.zones.zones.toList.map fun zone => (zone.kind, zone.owner), s.cards,
    s.nextCard⟩

theorem eq_of_piles_of_frame {s t : MatchState} (hp : s.piles = t.piles) (hf : s.frame = t.frame) :
    s = t := by
  obtain ⟨seats, active, ⟨⟨zones⟩⟩, cards, rng, next⟩ := s
  obtain ⟨seats', active', ⟨⟨zones'⟩⟩, cards', rng', next'⟩ := t
  simp only [piles, Piles.mk.injEq] at hp
  simp only [frame, Frame.mk.injEq] at hf
  obtain ⟨lists, rfl⟩ := hp
  obtain ⟨rfl, rfl, kinds, rfl, rfl⟩ := hf
  have same : zones = zones' := by
    apply List.ext_getElem?
    intro i
    have hl := congrArg (·[i]?) lists
    have hk := congrArg (·[i]?) kinds
    simp only [List.getElem?_map] at hl hk
    cases hz : zones[i]? <;> cases hz' : zones'[i]? <;> simp_all
    rename_i zone zone'
    cases zone
    cases zone'
    simp_all
  rw [same]

theorem piles_getElem? (s : MatchState) (h : ZoneHandle) :
    s.piles.lists[h.raw.toNat]? = s.zones.cards? h := by
  simp [piles, ZoneStore.cards?, ZoneStore.zone?]

theorem lists_withCards (s : MatchState) (h : ZoneHandle) (cards : List CardId) :
    (s.withCards h cards).piles.lists = s.piles.lists.set h.raw.toNat cards := by
  simp only [piles, withCards, ZoneStore.setCards, ZoneStore.zone?]
  cases found : s.zones.zones[h.raw.toNat]? with
  | none =>
    have out : s.zones.zones.size ≤ h.raw.toNat := by simpa using found
    simp [List.set_eq_of_length_le, out]
  | some zone => simp [List.map_set]

theorem frame_withCards (s : MatchState) (h : ZoneHandle) (cards : List CardId) :
    (s.withCards h cards).frame = s.frame := by
  simp only [frame, withCards, ZoneStore.setCards, ZoneStore.zone?]
  cases found : s.zones.zones[h.raw.toNat]? with
  | none => rfl
  | some zone =>
    simp only [Array.toList_setIfInBounds, List.map_set, Frame.mk.injEq, true_and, and_true]
    apply List.ext_getElem?
    intro i
    by_cases hi : h.raw.toNat = i
    · subst hi
      simp [List.getElem?_set_self', found]
    · rw [List.getElem?_set_ne hi]

theorem withCards_withCards (s : MatchState) (h : ZoneHandle) (before cards : List CardId) :
    (s.withCards h before).withCards h cards = s.withCards h cards := by
  have lists : ((s.withCards h before).withCards h cards).piles.lists =
      (s.withCards h cards).piles.lists := by
    simp only [lists_withCards, List.set_set]
  exact eq_of_piles_of_frame (congrArg (Piles.mk · s.rng) lists) (by simp only [frame_withCards])

theorem withCards_self {s : MatchState} {h : ZoneHandle} {cards : List CardId}
    (known : s.zones.cards? h = some cards) : s.withCards h cards = s := by
  rw [← piles_getElem?] at known
  obtain ⟨lt, there⟩ := List.getElem?_eq_some_iff.mp known
  have lists : (s.withCards h cards).piles.lists = s.piles.lists := by
    rw [lists_withCards, ← there, List.set_getElem_self]
  exact eq_of_piles_of_frame (congrArg (Piles.mk · s.rng) lists) (s.frame_withCards h cards)

/-- The zone holds the cards, and besides it nothing is changed but perhaps the generator. -/
structure Redealt (s : MatchState) (zone : ZoneHandle) (cards : List CardId) (t : MatchState) :
    Prop where
  here : t.zones.cards? zone = some cards
  elsewhere : ∀ other, other ≠ zone → t.zones.cards? other = s.zones.cards? other
  frame : t.frame = s.frame

theorem redealt_withCards {s : MatchState} {zone : ZoneHandle} {before : List CardId}
    (known : s.zones.cards? zone = some before) (cards : List CardId) (rng : Random.Generator) :
    s.Redealt zone cards { s.withCards zone cards with rng } where
  here := by simp only [withCards, ZoneStore.cards?_setCards, known, if_true, Option.map_some]
  elsewhere other ne := by simp only [withCards, ZoneStore.cards?_setCards, ne, if_false]
  frame := s.frame_withCards zone cards

theorem length_frame_zones (s : MatchState) : s.frame.zones.length = s.zones.size := by
  simp [frame, ZoneStore.size]

theorem cards?_isSome_iff (s : MatchState) (h : ZoneHandle) :
    (s.zones.cards? h).isSome ↔ h.raw.toNat < s.frame.zones.length := by
  simp [frame, ZoneStore.cards?, ZoneStore.zone?]

theorem allCards_eq_flatten (s : MatchState) : s.zones.allCards = s.piles.lists.flatten := by
  simp [ZoneStore.allCards, piles, List.flatMap]

theorem exists_others {s : MatchState} {zone : ZoneHandle} {cards : List CardId}
    (known : s.zones.cards? zone = some cards) :
    ∃ others, s.zones.allCards.Perm (cards ++ others) ∧
      ∀ moved, (s.withCards zone moved).zones.allCards.Perm (moved ++ others) := by
  rw [← piles_getElem?] at known
  obtain ⟨lt, there⟩ := List.getElem?_eq_some_iff.mp known
  refine ⟨(s.piles.lists.take zone.raw.toNat).flatten
    ++ (s.piles.lists.drop (zone.raw.toNat + 1)).flatten, ?_, fun moved => ?_⟩
  · rw [allCards_eq_flatten]
    conv => lhs; rw [← List.take_append_drop zone.raw.toNat s.piles.lists]
    rw [List.drop_eq_getElem_cons lt, there, List.flatten_append, List.flatten_cons]
    exact List.perm_append_comm_assoc _ _ _
  · rw [allCards_eq_flatten, lists_withCards, List.set_eq_take_append_cons_drop, if_pos lt,
      List.flatten_append, List.flatten_cons]
    exact List.perm_append_comm_assoc _ _ _

section

variable {s t : MatchState} (h : s.frame = t.frame)
include h

theorem zoneHandle_of_frame : s.zoneHandle = t.zoneHandle := by
  have seats : s.seats = t.seats := congrArg Frame.seats h
  funext kind p
  simp only [zoneHandle, seats]

theorem size_of_frame : s.zones.size = t.zones.size := by
  rw [← length_frame_zones, ← length_frame_zones, h]

theorem zone_of_frame (zone : ZoneHandle) :
    (s.zones.zone? zone).map (fun z => (z.kind, z.owner))
      = (t.zones.zone? zone).map fun z => (z.kind, z.owner) := by
  have there := congrArg (fun f => f.zones[zone.raw.toNat]?) h
  simpa [frame, ZoneStore.zone?] using there

theorem kind?_of_frame (zone : ZoneHandle) : s.zones.kind? zone = t.zones.kind? zone := by
  simpa [ZoneStore.kind?, Function.comp_def] using
    congrArg (Option.map Prod.fst) (zone_of_frame h zone)

theorem owner?_of_frame (zone : ZoneHandle) : s.zones.owner? zone = t.zones.owner? zone := by
  have there := congrArg (Option.bind · Prod.snd) (zone_of_frame h zone)
  simpa [ZoneStore.owner?, Option.bind_map, Function.comp_def] using there

end

end MatchState

namespace Run

variable (s : Session MatchState) (zone : ZoneHandle) (pos : SourcePos)

theorem applyCard_apply (m : CardMethod) (c : CardId) :
    applyCard m zone c pos s = match s.context.zones.cards? zone with
      | some cards =>
        ⟨.done (m.result zone c cards),
          { s with context := s.context.withCards zone (m.apply c cards) },
          [.changed zone (m.change c cards)]⟩
      | none => ⟨.failed ⟨.unknownZone zone, pos⟩, s, []⟩ := by
  simp only [applyCard, editOf, bind_bind, getContext_bind, ScriptContext.edit?]
  cases s.context.zones.cards? zone <;> rfl

theorem pop_apply :
    pop zone pos s = match s.context.zones.cards? zone with
      | some cards =>
        ⟨.done (poppedValue cards.head?), { s with context := s.context.withCards zone cards.tail },
          [.changed zone (.popped cards.head?)]⟩
      | none => ⟨.failed ⟨.unknownZone zone, pos⟩, s, []⟩ := by
  simp only [pop, editOf, bind_bind, getContext_bind, ScriptContext.edit?]
  cases s.context.zones.cards? zone <;> rfl

theorem shuffle_apply :
    shuffle zone pos s = match s.context.zones.cards? zone with
      | some cards =>
        ⟨.done (.cardList zone),
          { s with context :=
            { s.context.withCards zone (s.context.rng.shuffle cards).1 with
              rng := (s.context.rng.shuffle cards).2 } },
          [.changed zone .shuffled]⟩
      | none => ⟨.failed ⟨.unknownZone zone, pos⟩, s, []⟩ := by
  simp only [shuffle, cardsOf, bind_bind, getContext_bind, ScriptContext.cards?]
  cases known : s.context.zones.cards? zone with
  | none => rfl
  | some cards =>
    simp only [pure_bind, getContext_bind, setContext_bind, editOf, bind_bind, ScriptContext.edit?,
      ScriptContext.rng, ScriptContext.withRng, known]
    rfl

end Run

end CardEffects
