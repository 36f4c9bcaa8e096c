import Mathlib.Data.List.Pairwise
import CardEffects.Proofs.StoredForms
import CardEffects.Stored.Match

/-!
# Proper seat maps

A seat map names its seats with bytes, so it can tell them apart only up to 256 of them. A map that
is made for a number of players has at most 255; one that is read from storage has as many as were
written.
-/

namespace CardEffects

namespace SeatMap

variable {α : Type} {m m' : SeatMap α} {p : PlayerId} {value : α} {count i : Nat} {f : PlayerId → α}

/-- The map has a seat and no more than are supported, and lists each seat once, in order, with the
value that is found under its name. -/
structure Proper (m : SeatMap α) : Prop where
  seated : 1 ≤ m.size
  supported : m.size ≤ maxPlayers
  length : m.toList.length = m.size
  ordered : m.toList.Pairwise fun a b => a.1.index < b.1.index
  held : ∀ p value, (p, value) ∈ m.toList → m.get p = .ok value

theorem get_eq_ok : m.get p = .ok value ↔ m.values[p.index.toNat]? = some value := by
  unfold get
  cases found : m.values[p.index.toNat]? <;> simp

theorem getElem?_toList (m : SeatMap α) (i : Nat) :
    m.toList[i]? = m.values[i]?.map fun value => (⟨UInt8.ofNat i⟩, value) := by
  simp [toList, Option.map_map, Function.comp_def]

theorem index_of_getElem?_toList (h : m.toList[i]? = some (p, value)) :
    p.index.toNat = i % 256 ∧ m.values[i]? = some value := by
  rw [getElem?_toList, Option.map_eq_some_iff] at h
  obtain ⟨found, at_place, named⟩ := h
  injection named with seat same
  subst seat same
  exact ⟨UInt8.toNat_ofNat', at_place⟩

theorem get_of_getElem?_toList (h : m.toList[i]? = some (p, value)) :
    ∃ first, m.values[i % 256]? = some first ∧ m.get p = .ok first := by
  obtain ⟨index, at_place⟩ := index_of_getElem?_toList h
  have below : i < m.values.size := (Array.getElem?_eq_some_iff.mp at_place).1
  have first : i % 256 < m.values.size := Nat.lt_of_le_of_lt (Nat.mod_le i 256) below
  have found : m.values[i % 256]? = some m.values[i % 256] := Array.getElem?_eq_getElem first
  exact ⟨_, found, get_eq_ok.mpr (by rw [index, found])⟩

theorem held_of_le (few : m.size ≤ 256) (h : (p, value) ∈ m.toList) : m.get p = .ok value := by
  obtain ⟨i, listed⟩ := List.mem_iff_getElem?.mp h
  obtain ⟨index, at_place⟩ := index_of_getElem?_toList listed
  have below : i < m.size := (Array.getElem?_eq_some_iff.mp at_place).1
  rw [get_eq_ok, index, Nat.mod_eq_of_lt (by omega), at_place]

theorem ordered_iff (m : SeatMap α) :
    (m.toList.Pairwise fun a b => a.1.index < b.1.index) ↔ m.size ≤ 256 := by
  have name (i : Nat) (h : i < m.toList.length) : m.toList[i].1.index.toNat = i % 256 :=
    (index_of_getElem?_toList (List.getElem?_eq_getElem h)).1
  rw [List.pairwise_iff_getElem, ← length_toList]
  constructor
  · intro ordered
    by_contra many
    -- the seats at the places 0 and 256 have one name
    have strict := ordered 0 256 (by omega) (by omega) (by omega)
    rw [UInt8.lt_iff_toNat_lt, name 0, name 256] at strict
    omega
  · intro few i j hi hj lt
    rw [UInt8.lt_iff_toNat_lt, name i, name j, Nat.mod_eq_of_lt (by omega),
      Nat.mod_eq_of_lt (by omega)]
    exact lt

theorem proper_iff (m : SeatMap α) : m.Proper ↔ 1 ≤ m.size ∧ m.size ≤ maxPlayers := by
  constructor
  · intro proper
    exact ⟨proper.seated, proper.supported⟩
  · intro ⟨seated, supported⟩
    have few : m.size ≤ 256 := Nat.le_succ_of_le supported
    exact ⟨seated, supported, length_toList m, (ordered_iff m).mpr few, fun _ _ => held_of_le few⟩

theorem listed_behind {first last : α} {rest : List α} (h : rest.length = 255) :
    let m : SeatMap α := ⟨(first :: (rest ++ [last])).toArray⟩
    m.size = 257 ∧ m.toList[256]? = some (⟨0⟩, last) ∧ m.get ⟨0⟩ = .ok first := by
  intro m
  refine ⟨by simp [m, size, h], ?_, get_eq_ok.mpr rfl⟩
  have behind : m.values[256]? = some last := by
    rw [List.getElem?_toArray, List.getElem?_cons_succ, ← h, List.getElem?_concat_length]
  rw [getElem?_toList, behind]
  rfl

theorem generate_eq_ok : generate count f = .ok m ↔
    (1 ≤ count ∧ count ≤ maxPlayers) ∧ m = ⟨((PlayerId.all count).map f).toArray⟩ := by
  rw [← checkSeats_eq_ok, generate]
  cases checkSeats count <;> simp [bind, Except.bind, pure, Except.pure, eq_comm]

theorem get_of_generate (made : generate count f = .ok m) (held : m.get p = .ok value) :
    value = f p := by
  obtain ⟨-, rfl⟩ := generate_eq_ok.mp made
  rw [get_eq_ok] at held
  simp only [PlayerId.all, List.map_map, List.getElem?_toArray, List.getElem?_map,
    Option.map_eq_some_iff, List.getElem?_eq_some_iff, List.getElem_range] at held
  obtain ⟨_, ⟨_, rfl⟩, rfl⟩ := held
  simp

theorem size_of_modify {g : α → α} (h : m.modify p g = .ok m') : m'.size = m.size := by
  unfold modify at h
  cases held : m.get p with
  | error r => simp [held, Except.map] at h
  | ok value =>
    simp only [held, Except.map, Except.ok.injEq] at h
    subst h
    exact Array.size_setIfInBounds

/-- The maps that come from a number of players by updates of single seats. -/
inductive Made : SeatMap α → Prop where
  | generated {count : Nat} {f : PlayerId → α} {m : SeatMap α} (h : generate count f = .ok m) :
      Made m
  | modified {m m' : SeatMap α} {p : PlayerId} {g : α → α} (before : Made m)
      (h : m.modify p g = .ok m') : Made m'

theorem Made.proper (made : Made m) : m.Proper := by
  induction made with
  | generated h =>
    obtain ⟨size, range⟩ := size_of_generate h
    exact (proper_iff _).mpr (size ▸ range)
  | modified before h ih =>
    rw [proper_iff] at ih ⊢
    rwa [size_of_modify h]

section

variable {read : Json → Option α} {j : Json} {items : List Json} {values : List α}

theorem ofJson?_eq_some : ofJson? read j = some m ↔
    ∃ record items, j.record? ["data"] = some record ∧ record.field? "data" = some (.arr items) ∧
      items.mapM read = some m.values.toList := by
  constructor
  · intro h
    simp only [ofJson?, bind, Option.bind_eq_some_iff, pure, Option.some.injEq] at h
    obtain ⟨record, whole, field, found, items, listed, values, each, rfl⟩ := h
    cases field <;> simp only [Json.arr?, reduceCtorEq, Option.some.injEq] at listed
    subst listed
    exact ⟨record, _, whole, found, each⟩
  · rintro ⟨record, items, whole, found, each⟩
    simp [ofJson?, whole, found, Json.arr?, each]

theorem ofJson?_data (each : items.mapM read = some values) :
    ofJson? read (.obj [("data", .arr items)]) = some ⟨values.toArray⟩ :=
  ofJson?_eq_some.mpr ⟨_, items, Json.record?_obj _ _, rfl, each⟩

end

end SeatMap

theorem Json.int64?_ofInt64 (n : Int64) : (Json.ofInt64 n).int64? = some n := by
  have low : Number.least64 ≤ n.toInt := n.le_toInt
  have high : n.toInt ≤ Number.greatest64 := n.toInt_le
  rw [ofInt64, int64?, if_pos ⟨low, high⟩, Int64.ofInt_toInt]

open SeatMap

/-- A map made for a number of players is proper, with or without updates, and is made exactly when
the number is in range. One that is read is as long as what was written. Wherever a map comes from,
it is proper exactly when its length is in range: a seat is known by the remainder of its place by
256, and what is found under that name is the value of the first seat that has it. -/
theorem seat_maps_in_range_are_proper {α : Type} (read : Json → Option α) :
    (∀ count (f : PlayerId → α), (∃ m, generate count f = .ok m) ↔ 1 ≤ count ∧ count ≤ maxPlayers) ∧
    (∀ count (f : PlayerId → α) m, generate count f = .ok m →
      m.size = count ∧ ∀ p value, (p, value) ∈ m.toList → value = f p) ∧
    (∀ m : SeatMap α, m.Made → m.Proper) ∧
    (∀ items values, items.mapM read = some values →
      ofJson? read (.obj [("data", .arr items)]) = some ⟨values.toArray⟩) ∧
    ∀ m : SeatMap α,
      (m.Proper ↔ 1 ≤ m.size ∧ m.size ≤ maxPlayers) ∧
      m.toList.length = m.size ∧
      ((m.toList.Pairwise fun a b => a.1.index < b.1.index) ↔ m.size ≤ 256) ∧
      ∀ i p value, m.toList[i]? = some (p, value) →
        p.index.toNat = i % 256 ∧ ∃ first, m.values[i % 256]? = some first ∧
          m.get p = .ok first := by
  refine ⟨fun count f => ⟨?range, ?made⟩, fun count f m made => ⟨(size_of_generate made).1, ?value⟩,
    fun m => Made.proper, fun items values => ofJson?_data,
      fun m => ⟨proper_iff m, length_toList m, ordered_iff m, fun i p value listed =>
        ⟨(index_of_getElem?_toList listed).1, get_of_getElem?_toList listed⟩⟩⟩
  case range =>
    intro ⟨m, made⟩
    exact (generate_eq_ok.mp made).1
  case made =>
    intro range
    exact ⟨_, generate_eq_ok.mpr ⟨range, rfl⟩⟩
  case value =>
    intro p value listed
    exact get_of_generate made ((Made.generated made).proper.held p value listed)

theorem seat_maps_in_range_are_proper_two :
    ∃ made raised : SeatMap Int64,
      generate 2 (fun p => .ofNat (10 * p.number)) = .ok made ∧
      made.modify ⟨1⟩ (· + 1) = .ok raised ∧
      ofJson? Json.int64? (.obj [("data", .arr [.int 10, .int 21])]) = some raised ∧
      made.size = 2 ∧ raised.Proper ∧ raised.toList[1]? = some (⟨1⟩, 21) ∧
      raised.get ⟨1⟩ = .ok 21 := by
  obtain ⟨exist, hold, kept, stored, known⟩ := seat_maps_in_range_are_proper Json.int64?
  have made : generate 2 (fun p => .ofNat (10 * p.number)) = .ok (⟨#[10, 20]⟩ : SeatMap Int64) :=
    rfl
  have raised : (⟨#[10, 20]⟩ : SeatMap Int64).modify ⟨1⟩ (· + 1) = .ok ⟨#[10, 21]⟩ := rfl
  have proper := kept _ (.modified (.generated made) raised)
  have listed : (⟨#[10, 21]⟩ : SeatMap Int64).toList[1]? = some (⟨1⟩, 21) := by decide
  obtain ⟨-, first, found, held⟩ := (known _).2.2.2 1 _ _ listed
  cases found
  exact ⟨_, _, made, raised, stored [.int 10, .int 21] [10, 21] (by decide), (hold _ _ _ made).1,
    proper, listed, held⟩

/-- Storage gives a map with no seat at all, and one whose last seat is called the first: looked up
under that name, the seven is a zero. -/
theorem stored_seat_maps_may_be_improper :
    (∃ m, ofJson? Json.int64? (.obj [("data", .arr [])]) = some m ∧ ¬ m.Proper) ∧
    ∃ m, ofJson? Json.int64? (.obj [("data", .arr (List.replicate 256 (.int 0) ++ [.int 7]))]) =
      some m ∧
      ¬ m.Proper ∧ m.toList[256]? = some (⟨0⟩, 7) ∧ m.get ⟨0⟩ = .ok 0 := by
  have written : List.replicate 256 (.int 0) ++ [.int 7]
      = ((0 : Int64) :: (List.replicate 255 0 ++ [7])).map Json.ofInt64 := by
    rw [List.map_cons, List.map_append, List.map_replicate, List.replicate_succ]
    rfl
  have many : ofJson? Json.int64? (.obj [("data", .arr (List.replicate 256 (.int 0) ++ [.int 7]))])
      = some ⟨((0 : Int64) :: (List.replicate 255 0 ++ [7])).toArray⟩ := by
    rw [written]
    exact ofJson?_data (Json.mapM_written Json.int64?_ofInt64 _)
  have zeros : (List.replicate 255 (0 : Int64)).length = 255 := List.length_replicate
  obtain ⟨size, listed, held⟩ := @listed_behind Int64 0 7 _ zeros
  refine ⟨⟨⟨#[]⟩, ofJson?_data rfl, ?_⟩, _, many, ?_, listed, held⟩
  · rw [proper_iff]
    decide
  · rw [proper_iff, size]
    decide

end CardEffects
