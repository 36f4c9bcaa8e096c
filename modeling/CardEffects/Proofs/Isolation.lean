import Mathlib.Algebra.BigOperators.Group.List.Basic
import Mathlib.Algebra.GroupWithZero.Nat
import CardEffects.Proofs.Histories
import CardEffects.Stored.Zones

/-!
# Isolated zones

A store of zones under the calls of a host, from any store on. All zones lie in one array, and yet
each is as it would be on its own: only what is addressed to its handle changes it, and a new zone
takes a handle that no other has had.
-/

namespace CardEffects

inductive PileEdit where
  | pushFront (c : CardId)
  | pushBack (c : CardId)
  | popFront
  deriving DecidableEq

inductive ZoneQuery where
  | cards (zone : ZoneHandle)
  | kind (zone : ZoneHandle)
  | owner (zone : ZoneHandle)
  | locate (c : CardId)
  | size
  | totalCards

inductive ZoneCall where
  | create (kind : ZoneKind) (owner : Option PlayerId)
  | edit (zone : ZoneHandle) (e : PileEdit)
  | ask (query : ZoneQuery)

inductive ZoneReply where
  | created (zone : ZoneHandle)
  | pushed
  | popped (card : Option CardId)
  | refused
  | cards (cards : Option (List CardId))
  | kind (kind : Option ZoneKind)
  | owner (owner : Option PlayerId)
  | located (zone : Option ZoneHandle)
  | counted (n : Nat)
  deriving DecidableEq

namespace ZoneReply

def isPush : ZoneReply → Bool
  | pushed => true
  | _ => false

def isTake : ZoneReply → Bool
  | popped (some _) => true
  | _ => false

end ZoneReply

namespace PileEdit

def apply (cards : List CardId) : PileEdit → List CardId
  | pushFront c => c :: cards
  | pushBack c => cards ++ [c]
  | popFront => cards.tail

def reply (cards : List CardId) : PileEdit → ZoneReply
  | pushFront _ | pushBack _ => .pushed
  | popFront => .popped cards.head?

theorem length_apply (cards : List CardId) (e : PileEdit) :
    (e.apply cards).length + (if (e.reply cards).isTake then 1 else 0) =
      cards.length + if (e.reply cards).isPush then 1 else 0 := by
  cases e with
  | pushFront c => rfl
  | pushBack c => exact List.length_append
  | popFront => cases cards <;> rfl

end PileEdit

namespace ZoneCall

def editOf? (zone : ZoneHandle) : ZoneCall → Option PileEdit
  | edit other e => if other = zone then some e else none
  | _ => none

/-- The cards of a zone on its own, after those of the calls that are addressed to it. -/
def alone (zone : ZoneHandle) (calls : List ZoneCall) (cards : List CardId) : List CardId :=
  (calls.filterMap (editOf? zone)).foldl PileEdit.apply cards

theorem alone_append (zone : ZoneHandle) (before later : List ZoneCall) (cards : List CardId) :
    alone zone (before ++ later) cards = alone zone later (alone zone before cards) := by
  rw [alone, List.filterMap_append, List.foldl_append]
  rfl

end ZoneCall

namespace ZoneStore

def answer (s : ZoneStore) : ZoneQuery → ZoneReply
  | .cards zone => .cards (s.cards? zone)
  | .kind zone => .kind (s.kind? zone)
  | .owner zone => .owner (s.owner? zone)
  | .locate c => .located (s.locate? c)
  | .size => .counted s.size
  | .totalCards => .counted s.totalCards

def serve (s : ZoneStore) : ZoneCall → ZoneReply × ZoneStore
  | .create kind owner =>
    let (zone, s) := s.create kind owner
    (.created zone, s)
  | .edit zone (.pushFront c) =>
    match s.pushFront? zone c with
    | some t => (.pushed, t)
    | none => (.refused, s)
  | .edit zone (.pushBack c) =>
    match s.pushBack? zone c with
    | some t => (.pushed, t)
    | none => (.refused, s)
  | .edit zone .popFront =>
    match s.popFront? zone with
    | some (card, t) => (.popped card, t)
    | none => (.refused, s)
  | .ask query => (s.answer query, s)

def after (s : ZoneStore) (calls : List ZoneCall) : ZoneStore := History.after serve s calls

def replies (s : ZoneStore) (calls : List ZoneCall) : List ZoneReply :=
  History.replies serve s calls

def Holds (s : ZoneStore) (zone : ZoneHandle) (c : CardId) : Prop :=
  ∃ cards, s.cards? zone = some cards ∧ c ∈ cards

variable {s : ZoneStore} {zone : ZoneHandle} {z : Zone}

theorem serve_edit_of_known (known : s.zone? zone = some z) (e : PileEdit) :
    s.serve (.edit zone e) = (e.reply z.cards, s.setCards zone (e.apply z.cards)) := by
  have held : s.cards? zone = some z.cards := by rw [cards?, known, Option.map_some]
  cases e <;> simp [serve, pushFront?, pushBack?, popFront?, held, PileEdit.reply, PileEdit.apply]

theorem serve_edit_of_unknown (unknown : s.zone? zone = none) (e : PileEdit) :
    s.serve (.edit zone e) = (.refused, s) := by
  have unheld : s.cards? zone = none := by rw [cards?, unknown, Option.map_none]
  cases e <;> simp [serve, pushFront?, pushBack?, popFront?, unheld]

theorem zone?_eq_none_iff : s.zone? zone = none ↔ s.size ≤ zone.raw.toNat :=
  Array.getElem?_eq_none_iff

theorem zone?_setCards_self (known : s.zone? zone = some z) (cards : List CardId) :
    (s.setCards zone cards).zone? zone = some { z with cards } := by
  rw [zone?_setCards, if_pos rfl, known, Option.map_some]

theorem zone?_setCards_other {other : ZoneHandle} (ne : other ≠ zone) (cards : List CardId) :
    (s.setCards zone cards).zone? other = s.zone? other := by
  rw [zone?_setCards, if_neg ne]

theorem size_create (s : ZoneStore) (kind : ZoneKind) (owner : Option PlayerId) :
    (s.create kind owner).2.size = s.size + 1 := Array.size_push _

theorem totalCards_eq_sum (s : ZoneStore) :
    s.totalCards = (s.zones.toList.map (·.cards.length)).sum := List.length_flatMap

theorem totalCards_create (s : ZoneStore) (kind : ZoneKind) (owner : Option PlayerId) :
    (s.create kind owner).2.totalCards = s.totalCards := by
  simp [totalCards_eq_sum, create]

theorem totalCards_setCards (known : s.zone? zone = some z) (cards : List CardId) :
    (s.setCards zone cards).totalCards + z.cards.length = s.totalCards + cards.length := by
  obtain ⟨lt, there⟩ := Array.getElem?_eq_some_iff.mp known
  let lengths := s.zones.toList.map (·.cards.length)
  have inside : zone.raw.toNat < lengths.length := by simpa [lengths] using lt
  have here : lengths[zone.raw.toNat] = z.cards.length := by simp [lengths, there]
  have after : (s.setCards zone cards).totalCards =
      (lengths.set zone.raw.toNat cards.length).sum := by
    simp [totalCards_eq_sum, setCards, known, lengths, List.map_set]
  have before : s.totalCards = (lengths.set zone.raw.toNat z.cards.length).sum := by
    rw [totalCards_eq_sum, ← here, List.set_getElem_self]
  rw [after, before, List.sum_set, List.sum_set, if_pos inside, if_pos inside]
  omega

theorem holds_iff (s : ZoneStore) (zone : ZoneHandle) (c : CardId) :
    s.Holds zone c ↔ ∃ used : zone.raw.toNat < s.zones.size,
      s.zones[zone.raw.toNat].cards.contains c = true := by
  simp only [Holds, cards?, zone?, Option.map_eq_some_iff, Array.getElem?_eq_some_iff,
    List.contains_iff_mem]
  constructor
  · rintro ⟨_, ⟨_, ⟨used, rfl⟩, rfl⟩, held⟩
    exact ⟨used, held⟩
  · rintro ⟨used, held⟩
    exact ⟨_, ⟨_, ⟨used, rfl⟩, rfl⟩, held⟩

theorem locate?_eq_some_iff (few : s.size < UInt32.size) {c : CardId} :
    s.locate? c = some zone ↔ s.Holds zone c ∧ ∀ other, s.Holds other c → zone.raw ≤ other.raw := by
  simp only [locate?, Option.map_eq_some_iff, Array.findIdx?_eq_some_iff_getElem, holds_iff,
    UInt32.le_iff_toNat_le]
  constructor
  · rintro ⟨i, ⟨used, held, first⟩, rfl⟩
    have index : (UInt32.ofNat i).toNat = i := UInt32.toNat_ofNat_of_lt' (Nat.lt_trans used few)
    simp only [index]
    refine ⟨⟨used, held⟩, fun other ⟨_, holds⟩ => Nat.le_of_not_lt fun lower => ?_⟩
    exact first other.raw.toNat lower holds
  · rintro ⟨⟨used, held⟩, lowest⟩
    refine ⟨zone.raw.toNat, ⟨used, held, fun j lower holds => ?_⟩, by rw [UInt32.ofNat_toNat]⟩
    have index : (UInt32.ofNat j).toNat = j :=
      UInt32.toNat_ofNat_of_lt' (Nat.lt_trans (Nat.lt_trans lower used) few)
    -- a place before the zone's would have a handle of its own
    have between := lowest ⟨.ofNat j⟩
    simp only [index] at between
    exact Nat.not_le_of_lt lower (between ⟨Nat.lt_trans lower used, holds⟩)

theorem locate?_eq_none_iff (few : s.size < UInt32.size) {c : CardId} :
    s.locate? c = none ↔ ∀ zone, ¬ s.Holds zone c := by
  constructor
  · intro nowhere zone holds
    obtain ⟨used, held⟩ := (holds_iff s zone c).mp holds
    rw [locate?, Option.map_eq_none_iff, Array.findIdx?_eq_none_iff] at nowhere
    rw [nowhere _ (Array.getElem_mem used)] at held
    exact Bool.false_ne_true held
  · intro bare
    refine Option.eq_none_iff_forall_not_mem.mpr fun zone located => ?_
    exact bare zone ((locate?_eq_some_iff few).mp located).1

end ZoneStore

/-- What a store makes of a call: its reply, and the store that it leaves. -/
inductive ZoneCall.Served (s : ZoneStore) : ZoneCall → ZoneReply → ZoneStore → Prop
  | created {kind : ZoneKind} {owner : Option PlayerId} {zone : ZoneHandle} {t : ZoneStore} :
      zone.raw.toNat = s.size → s.zone? zone = none → t.zone? zone = some ⟨kind, owner, []⟩ →
      (∀ other, other ≠ zone → t.zone? other = s.zone? other) → t.size = s.size + 1 →
      Served s (.create kind owner) (.created zone) t
  | edited {zone : ZoneHandle} {z : Zone} {t : ZoneStore} (e : PileEdit) :
      s.zone? zone = some z → t.zone? zone = some { z with cards := e.apply z.cards } →
      (∀ other, other ≠ zone → t.zone? other = s.zone? other) → t.size = s.size →
      Served s (.edit zone e) (e.reply z.cards) t
  | refused {zone : ZoneHandle} (e : PileEdit) :
      s.zone? zone = none → Served s (.edit zone e) .refused s
  | answered (query : ZoneQuery) : Served s (.ask query) (s.answer query) s

theorem ZoneHandle.eq_of_toNat {zone other : ZoneHandle} (same : zone.raw.toNat = other.raw.toNat) :
    zone = other :=
  congrArg mk (UInt32.toNat_inj.mp same)

theorem ZoneCall.Served.eq_created_iff {s t : ZoneStore} {call : ZoneCall} {reply : ZoneReply}
    {zone : ZoneHandle} (served : call.Served s reply t) :
    reply = .created zone ↔ s.size ≤ zone.raw.toNat ∧ zone.raw.toNat < t.size := by
  cases served with
  | @created kind owner minted _ next unused new kept grown =>
    rw [ZoneReply.created.injEq]
    constructor
    · rintro rfl
      omega
    · intro between
      exact ZoneHandle.eq_of_toNat (by omega)
  | edited e known changed kept same => cases e <;> simp [PileEdit.reply, same]
  | refused e unknown => simp
  | answered query => cases query <;> simp [ZoneStore.answer]

namespace ZoneStore

variable {s : ZoneStore} {zone : ZoneHandle} {z : Zone}

theorem served (few : s.size < UInt32.size) (call : ZoneCall) :
    call.Served s (s.serve call).1 (s.serve call).2 := by
  cases call with
  | create kind owner =>
    have next : (s.create kind owner).1.raw.toNat = s.size := UInt32.toNat_ofNat_of_lt' few
    refine .created next (zone?_eq_none_iff.mpr (Nat.le_of_eq next.symm)) ?_ (fun other ne => ?_)
      (size_create s kind owner)
    · exact (zone?_create s kind owner _).trans (if_pos next)
    · refine (zone?_create s kind owner other).trans (if_neg fun same => ne ?_)
      exact ZoneHandle.eq_of_toNat (same.trans next.symm)
  | edit zone e =>
    cases known : s.zone? zone with
    | none =>
      rw [serve_edit_of_unknown known]
      exact .refused e known
    | some z =>
      rw [serve_edit_of_known known]
      exact .edited e known (zone?_setCards_self known _) (fun _ ne => zone?_setCards_other ne _)
        (size_setCards s zone _)
  | ask query => exact .answered query

theorem size_le_serve (s : ZoneStore) (call : ZoneCall) : s.size ≤ (s.serve call).2.size := by
  cases call with
  | create kind owner =>
    show s.size ≤ (s.create kind owner).2.size
    rw [size_create]
    exact Nat.le_succ _
  | edit zone e =>
    cases known : s.zone? zone with
    | none => exact Nat.le_of_eq (by rw [serve_edit_of_unknown known])
    | some z => exact Nat.le_of_eq (by rw [serve_edit_of_known known, size_setCards])
  | ask query => exact Nat.le_refl _

theorem totalCards_serve (s : ZoneStore) (call : ZoneCall) :
    (s.serve call).2.totalCards + (if (s.serve call).1.isTake then 1 else 0) =
      s.totalCards + if (s.serve call).1.isPush then 1 else 0 := by
  cases call with
  | create kind owner => exact s.totalCards_create kind owner
  | edit zone e =>
    cases known : s.zone? zone with
    | none =>
      rw [serve_edit_of_unknown known]
      rfl
    | some z =>
      rw [serve_edit_of_known known]
      have counted := totalCards_setCards known (e.apply z.cards)
      have grown := e.length_apply z.cards
      dsimp only
      omega
  | ask query => cases query <;> rfl

theorem zone?_serve (known : s.zone? zone = some z) (call : ZoneCall) :
    (s.serve call).2.zone? zone = some { z with cards := ZoneCall.alone zone [call] z.cards } := by
  cases call with
  | create kind owner =>
    have old : zone.raw.toNat ≠ s.size := Nat.ne_of_lt (Array.getElem?_eq_some_iff.mp known).1
    exact (zone?_create s kind owner zone).trans ((if_neg old).trans known)
  | edit other e =>
    by_cases same : other = zone
    · subst same
      rw [serve_edit_of_known known, zone?_setCards_self known]
      simp [ZoneCall.alone, ZoneCall.editOf?]
    · have passed : ZoneCall.alone zone [.edit other e] z.cards = z.cards := by
        simp [ZoneCall.alone, ZoneCall.editOf?, same]
      rw [passed]
      cases found : s.zone? other with
      | none => rw [serve_edit_of_unknown found, known]
      | some z' => rw [serve_edit_of_known found, zone?_setCards_other (Ne.symm same), known]
  | ask query => exact known

theorem after_append (s : ZoneStore) (before later : List ZoneCall) :
    s.after (before ++ later) = (s.after before).after later :=
  History.after_append serve s before later

theorem after_concat (s : ZoneStore) (calls : List ZoneCall) (call : ZoneCall) :
    s.after (calls ++ [call]) = ((s.after calls).serve call).2 :=
  History.after_concat serve s calls call

theorem replies_concat (s : ZoneStore) (calls : List ZoneCall) (call : ZoneCall) :
    s.replies (calls ++ [call]) = s.replies calls ++ [((s.after calls).serve call).1] :=
  History.replies_concat serve s calls call

theorem size_le_after (s : ZoneStore) (calls : List ZoneCall) : s.size ≤ (s.after calls).size := by
  induction calls generalizing s with
  | nil => exact Nat.le_refl _
  | cons call rest ih => exact Nat.le_trans (size_le_serve s call) (ih (s.serve call).2)

theorem size_after_le (s : ZoneStore) (before later : List ZoneCall) :
    (s.after before).size ≤ (s.after (before ++ later)).size := by
  rw [after_append]
  exact size_le_after _ later

theorem zone?_after (known : s.zone? zone = some z) (calls : List ZoneCall) :
    (s.after calls).zone? zone = some { z with cards := ZoneCall.alone zone calls z.cards } := by
  induction calls using List.reverseRecOn with
  | nil => exact known
  | append_singleton calls call ih =>
    rw [ZoneCall.alone_append, after_concat]
    exact zone?_serve ih call

theorem totalCards_after (s : ZoneStore) (calls : List ZoneCall) :
    (s.after calls).totalCards + (s.replies calls).countP ZoneReply.isTake =
      s.totalCards + (s.replies calls).countP ZoneReply.isPush := by
  induction calls using List.reverseRecOn with
  | nil => rfl
  | append_singleton calls call ih =>
    have step := totalCards_serve (s.after calls) call
    rw [after_concat, replies_concat, List.countP_append, List.countP_append, List.countP_singleton,
      List.countP_singleton]
    omega

theorem created_mem_replies {calls : List ZoneCall} (few : (s.after calls).size < UInt32.size) :
    .created zone ∈ s.replies calls ↔
      s.size ≤ zone.raw.toNat ∧ zone.raw.toNat < (s.after calls).size := by
  induction calls using List.reverseRecOn with
  | nil =>
    show ZoneReply.created zone ∈ [] ↔ s.size ≤ zone.raw.toNat ∧ zone.raw.toNat < s.size
    rw [iff_false_left List.not_mem_nil]
    omega
  | append_singleton calls call ih =>
    have fewer : (s.after calls).size < UInt32.size :=
      Nat.lt_of_le_of_lt (size_after_le s calls [call]) few
    have started := size_le_after s calls
    have grown := size_le_serve (s.after calls) call
    rw [replies_concat, List.mem_append, List.mem_singleton, ih fewer, eq_comm,
      (served fewer call).eq_created_iff, after_concat]
    omega

theorem zone?_after_eq_none_iff {calls : List ZoneCall} (few : (s.after calls).size < UInt32.size) :
    (s.after calls).zone? zone = none ↔
      s.size ≤ zone.raw.toNat ∧ .created zone ∉ s.replies calls := by
  have started := size_le_after s calls
  rw [zone?_eq_none_iff, created_mem_replies few]
  omega

end ZoneStore

open ZoneStore

/-- The zones of a store do not meet, whatever is called on it, be it a new store or one that was
read, as long as the handles do not run out. A call finds the zones that were there at the start and
those created since, and does to the one that it is addressed to what it says, and to the others
nothing; so a zone keeps its kind and its owner, and its cards are those of a list on its own. The
cards of all zones are as many as were put in and not taken out, and a card is located in the first
zone that holds it. -/
theorem zones_are_isolated (start : ZoneStore) (calls : List ZoneCall)
    (few : (start.after calls).size < UInt32.size) :
    let s := start.after calls
    let replies := start.replies calls
    (∀ before call later, calls = before ++ call :: later →
      let found := start.after before
      (∀ zone, found.zone? zone = none ↔
        start.size ≤ zone.raw.toNat ∧ .created zone ∉ start.replies before) ∧
      ∃ reply, replies[before.length]? = some reply ∧
        call.Served found reply (start.after (before ++ [call]))) ∧
    (∀ before later, calls = before ++ later → ∀ zone z, (start.after before).zone? zone = some z →
      s.kind? zone = some z.kind ∧ s.owner? zone = z.owner ∧
        s.cards? zone = some (ZoneCall.alone zone later z.cards)) ∧
    s.totalCards + replies.countP ZoneReply.isTake =
      start.totalCards + replies.countP ZoneReply.isPush ∧
    (∀ c zone, s.locate? c = some zone ↔
      s.Holds zone c ∧ ∀ other, s.Holds other c → zone.raw ≤ other.raw) ∧
    ∀ c, s.locate? c = none ↔ ∀ zone, ¬ s.Holds zone c := by
  intro s replies
  refine ⟨?called, ?kept, totalCards_after start calls, fun c zone => locate?_eq_some_iff few,
    fun c => locate?_eq_none_iff few⟩
  case called =>
    rintro before call later rfl found
    have fewer : found.size < UInt32.size := Nat.lt_of_le_of_lt (size_after_le start before _) few
    refine ⟨fun zone => zone?_after_eq_none_iff fewer, _,
      History.getElem?_replies serve start before later call, ?_⟩
    rw [after_concat]
    exact served fewer call
  case kept =>
    rintro before later rfl zone z there
    have left : s.zone? zone = some { z with cards := ZoneCall.alone zone later z.cards } := by
      rw [← zone?_after there later, ← after_append]
    refine ⟨?_, ?_, ?_⟩
    · rw [kind?, left, Option.map_some]
    · rw [owner?, left, Option.bind_some]
    · rw [cards?, left, Option.map_some]

theorem zones_are_isolated_deck_and_hand :
    let stored : Json := .obj [("slots", .arr [.obj [("kind", .str "Deck"), ("owner", .ofUInt8 0),
      ("cards", .arr [.ofUInt32 7, .ofUInt32 8])]])]
    let start : ZoneStore := ⟨#[⟨.deck, some ⟨0⟩, [⟨7⟩, ⟨8⟩]⟩]⟩
    let deck : ZoneHandle := ⟨0⟩
    let hand : ZoneHandle := ⟨1⟩
    let calls : List ZoneCall :=
      [.edit hand (.pushBack ⟨9⟩), .create .hand (some ⟨1⟩), .edit hand .popFront,
        .edit deck .popFront, .edit hand (.pushFront ⟨7⟩), .edit deck (.pushBack ⟨7⟩),
        .ask (.cards deck)]
    let s := start.after calls
    ofJson? stored = some start ∧ s.size < UInt32.size ∧
      start.replies calls =
        [.refused, .created hand, .popped none, .popped (some ⟨7⟩), .pushed, .pushed,
        .cards (some [⟨8⟩, ⟨7⟩])] ∧
      s.cards? deck = some [⟨8⟩, ⟨7⟩] ∧ s.cards? hand = some [⟨7⟩] ∧ s.kind? hand = some .hand ∧
      s.owner? hand = some ⟨1⟩ ∧ s.totalCards = 3 ∧ s.locate? ⟨7⟩ = some deck := by
  intro stored start deck hand calls s
  have few : s.size < UInt32.size := by decide
  obtain ⟨-, kept, total, located, -⟩ := zones_are_isolated start calls few
  obtain ⟨-, -, deckCards⟩ := kept [] calls rfl deck _ rfl
  obtain ⟨handKind, handOwner, handCards⟩ := kept (calls.take 2) (calls.drop 2) rfl hand _ rfl
  have told : start.replies calls =
      [.refused, .created hand, .popped none, .popped (some ⟨7⟩), .pushed, .pushed,
      .cards (some [⟨8⟩, ⟨7⟩])] := by decide +kernel
  refine ⟨by rfl, few, told, deckCards, handCards, handKind, handOwner, ?_, ?_⟩
  · rw [told] at total
    exact Nat.add_right_cancel (total : s.totalCards + 1 = 3 + 1)
  · exact (located ⟨7⟩ deck).mpr ⟨⟨_, deckCards, by decide⟩, fun _ _ => UInt32.zero_le⟩

end CardEffects
