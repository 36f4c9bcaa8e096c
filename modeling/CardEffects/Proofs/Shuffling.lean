import CardEffects.Proofs.NumberedZones
import Mathlib.GroupTheory.Perm.Basic
import Mathlib.Logic.Equiv.Basic

/-!
# Shuffling

A shuffle is a permutation of places: the product of the transpositions that the generator draws,
one for each place from the last down to the second. Which permutation it is, and where the
generator stands afterwards, depend on the generator and on the number of items.
-/

namespace CardEffects

namespace Random

section

variable {α : Type}

theorem getElem?_swapIfInBounds {items : Array α} {i j : Nat} (hi : i < items.size)
    (hj : j < items.size) (k : Nat) :
    (items.swapIfInBounds i j)[k]? = items[Equiv.swap i j k]? := by
  simp only [Array.swapIfInBounds, hi, hj, dite_true, Array.getElem?_swap, Equiv.swap_apply_def]
  by_cases left : k = i
  · subst left
    by_cases same : j = k <;> simp [same, hi, hj]
  · by_cases right : k = j
    · subst right
      simp [left, hi]
    · simp [left, right, Ne.symm left, Ne.symm right]

theorem getElem?_swapped {items : Array α} {swaps : List (Nat × Nat)}
    (inside : ∀ swap ∈ swaps, swap.1 < items.size ∧ swap.2 < items.size) (k : Nat) :
    (swapped items swaps)[k]? =
      items[(swaps.map fun swap => Equiv.swap swap.1 swap.2).prod k]? := by
  induction swaps generalizing items with
  | nil => rfl
  | cons swap rest ih =>
    obtain ⟨first, second⟩ := inside swap List.mem_cons_self
    have later : ∀ other ∈ rest, other.1 < (items.swapIfInBounds swap.1 swap.2).size ∧
        other.2 < (items.swapIfInBounds swap.1 swap.2).size := by
      intro other mem
      rw [Array.size_swapIfInBounds]
      exact inside other (List.mem_cons_of_mem _ mem)
    rw [List.map_cons, List.prod_cons, Equiv.Perm.mul_apply, ← getElem?_swapIfInBounds first second]
    exact ih later

end

theorem prod_swaps_of_notMem {swaps : List (Nat × Nat)} {k : Nat}
    (other : ∀ swap ∈ swaps, k ≠ swap.1 ∧ k ≠ swap.2) :
    (swaps.map fun swap => Equiv.swap swap.1 swap.2).prod k = k := by
  induction swaps with
  | nil => rfl
  | cons swap rest ih =>
    obtain ⟨first, second⟩ := other swap List.mem_cons_self
    rw [List.map_cons, List.prod_cons, Equiv.Perm.mul_apply,
      ih fun later mem => other later (List.mem_cons_of_mem _ mem),
      Equiv.swap_apply_of_ne_of_ne first second]

namespace Generator

theorem swaps_succ (i : Nat) (g : Generator) :
    g.swaps (i + 1) = ((i + 1, (g.below (i + 2)).1) :: ((g.below (i + 2)).2.swaps i).1,
      ((g.below (i + 2)).2.swaps i).2) := by
  simp only [swaps]

theorem map_fst_swaps (i : Nat) (g : Generator) :
    (g.swaps i).1.map Prod.fst = (List.range' 1 i).reverse := by
  induction i generalizing g with
  | zero => rfl
  | succ i ih =>
    rw [swaps_succ, List.map_cons, ih, List.range'_1_concat, List.reverse_append, Nat.add_comm 1 i]
    rfl

theorem snd_le_of_mem_swaps {i : Nat} {g : Generator} {swap : Nat × Nat}
    (mem : swap ∈ (g.swaps i).1) :
    swap.2 ≤ swap.1 := by
  induction i generalizing g with
  | zero => cases mem
  | succ i ih =>
    rw [swaps_succ] at mem
    rcases List.mem_cons.mp mem with rfl | later
    · exact Nat.le_of_lt_succ (g.below_lt (Nat.succ_pos _))
    · exact ih later

theorem lt_of_mem_swaps {n : Nat} {g : Generator} {swap : Nat × Nat}
    (mem : swap ∈ (g.swaps (n - 1)).1) :
    swap.1 < n ∧ swap.2 < n := by
  have place : swap.1 ∈ (g.swaps (n - 1)).1.map Prod.fst := List.mem_map_of_mem mem
  rw [map_fst_swaps, List.mem_reverse, List.mem_range'_1] at place
  have le := snd_le_of_mem_swaps mem
  omega

/-- The place from which the item at each place comes when `n` items are shuffled. -/
def order (g : Generator) (n : Nat) : Equiv.Perm Nat :=
  ((g.swaps (n - 1)).1.map fun swap => Equiv.swap swap.1 swap.2).prod

def afterShuffle (g : Generator) (n : Nat) : Generator := (g.swaps (n - 1)).2

theorem order_of_le {n k : Nat} (g : Generator) (le : n ≤ k) : g.order n k = k := by
  refine prod_swaps_of_notMem fun swap mem => ?_
  have lt := lt_of_mem_swaps mem
  omega

theorem order_of_few {n : Nat} (g : Generator) (few : n < 2) :
    g.order n = 1 ∧ g.afterShuffle n = g := by
  have none : n - 1 = 0 := by omega
  simp only [order, afterShuffle, none]
  exact ⟨rfl, rfl⟩

variable {α : Type}

theorem getElem?_shuffle (g : Generator) (items : List α) (k : Nat) :
    (g.shuffle items).1[k]? = items[g.order items.length k]? := by
  have moved : (swapped items.toArray (g.swaps (items.length - 1)).1)[k]? = _ :=
    getElem?_swapped (fun _ => lt_of_mem_swaps) k
  rw [shuffle, Array.getElem?_toList]
  exact moved.trans List.getElem?_toArray

end Generator

end Random

def MatchState.shuffled (m : MatchState) (zone : ZoneHandle) (cards : List CardId) : MatchState :=
  { m.withCards zone (m.rng.shuffle cards).1 with rng := m.rng.afterShuffle cards.length }

namespace Run

variable {s t u : Session MatchState} {zone : ZoneHandle} {cards : List CardId} {limit : Option Nat}
  {level : Nat} {receiver : Expr} {name : Token} {told events : List Event} {v : Value}

theorem shuffle_of_known (known : s.context.zones.cards? zone = some cards) (pos : SourcePos) :
    shuffle zone pos s =
      ⟨.done (.cardList zone), ⟨s.env, s.context.shuffled zone cards⟩,
        [.changed zone .shuffled]⟩ := by
  rw [shuffle_apply, known]
  rfl

theorem evaluate_shuffle_of_known
    (first : evaluate limit (level + 1) receiver s = ⟨.done (.cardList zone), u, told⟩)
    (known : u.context.zones.cards? zone = some cards) :
    evaluate limit level (.call receiver (.pile .shuffle) name) s =
      ⟨.done (.cardList zone), ⟨u.env, u.context.shuffled zone cards⟩,
        told ++ [.changed zone .shuffled]⟩ := by
  have received : receiverOf name (.cardList zone) u = ⟨.done zone, u, []⟩ :=
    receiverOf_done_iff.mpr ⟨rfl, Option.ne_none_iff_exists'.mpr ⟨cards, known⟩, rfl, rfl⟩
  have whole : callOn (.pile .shuffle) zone name u = _ := shuffle_of_known known name.pos
  rw [evaluate, checkLevel_of_done first, pure_bind, bind_of_done first,
    bind_of_silent received, whole]

theorem evaluate_shuffle_done
    (ran : evaluate limit level (.call receiver (.pile .shuffle) name) s = ⟨.done v, t, events⟩) :
    ∃ zone cards u told, evaluate limit (level + 1) receiver s = ⟨.done (.cardList zone), u, told⟩ ∧
      u.context.zones.cards? zone = some cards ∧ v = .cardList zone ∧
      t = ⟨u.env, u.context.shuffled zone cards⟩ := by
  have done : (evaluate limit level (.call receiver (.pile .shuffle) name) s).verdict =
      .done v := by rw [ran]
  rw [evaluate] at done
  obtain ⟨list, u, told, first, done⟩ := bind_done_iff.mp (checked_done done)
  obtain ⟨zone, u', none, received, done⟩ := bind_done_iff.mp done
  obtain ⟨rfl, shown, rfl, rfl⟩ := receiverOf_done_iff.mp received
  obtain ⟨cards, known⟩ := Option.ne_none_iff_exists'.mp shown
  rw [evaluate_shuffle_of_known first known] at ran
  cases ran
  exact ⟨zone, cards, u, told, first, known, rfl, rfl⟩

end Run

/-- A `Shuffle` that finishes leaves the cards of its zone in another order, and the order and the
generator afterwards are those for so many items, whatever they are. So another zone with as many
cards, shuffled by an equal generator, changes in the same way. Fewer than two cards are left alone,
and nothing is drawn. -/
theorem shuffles_reorder {limit : Option Nat} {level : Nat} {receiver : Expr} {name : Token}
    {s t : Session MatchState} {v : Value} {events : List Event}
    (ran : evaluate limit level (.call receiver (.pile .shuffle) name) s = ⟨.done v, t, events⟩) :
    ∃ zone cards moved u told,
      evaluate limit (level + 1) receiver s = ⟨.done (.cardList zone), u, told⟩ ∧
      u.context.zones.cards? zone = some cards ∧
      let g := u.context.rng
      let n := cards.length
      v = .cardList zone ∧ t.env = u.env ∧ u.context.Redealt zone moved t.context ∧
      moved.Perm cards ∧
      (∀ k, moved[k]? = cards[g.order n k]?) ∧ (∀ k, n ≤ k → g.order n k = k) ∧
      t.context.rng = g.afterShuffle n ∧ (n < 2 → moved = cards ∧ t.context.rng = g) ∧
      ∀ (s' : Session MatchState) (zone' : ZoneHandle) (cards' : List CardId) (pos : SourcePos),
        s'.context.rng = g → s'.context.zones.cards? zone' = some cards' → cards'.length = n →
        let o := Run.shuffle zone' pos s'
        o.verdict = .done (.cardList zone') ∧ o.session.context.rng = t.context.rng ∧
        ∃ moved', s'.context.Redealt zone' moved' o.session.context ∧
          ∀ k, moved'[k]? = cards'[g.order n k]? := by
  obtain ⟨zone, cards, u, told, first, known, rfl, rfl⟩ := Run.evaluate_shuffle_done ran
  refine ⟨zone, cards, (u.context.rng.shuffle cards).1, u, told, first, known, rfl, rfl,
    MatchState.redealt_withCards known _ _, u.context.rng.shuffle_perm cards,
    u.context.rng.getElem?_shuffle cards, fun _ => u.context.rng.order_of_le, rfl, fun few => ?_,
    fun s' zone' cards' pos same known' length => ?_⟩
  · obtain ⟨order, after⟩ := u.context.rng.order_of_few few
    refine ⟨List.ext_getElem? fun k => ?_, after⟩
    rw [u.context.rng.getElem?_shuffle, order, Equiv.Perm.one_apply]
  · rw [Run.shuffle_of_known known' pos]
    refine ⟨rfl, ?_, (s'.context.rng.shuffle cards').1, MatchState.redealt_withCards known' _ _,
      fun k => ?_⟩
    · simp only [MatchState.shuffled, same, length]
    · rw [Random.Generator.getElem?_shuffle, same, length]

theorem shuffles_reorder_deck :
    let deck := MatchState.handleOf .deck ⟨0⟩
    let hand := MatchState.handleOf .hand ⟨0⟩
    let cards : List CardId := [⟨1⟩, ⟨2⟩, ⟨3⟩]
    let zones := ((MatchState.layout 1).setCards deck cards).setCards hand [⟨7⟩, ⟨7⟩, ⟨8⟩]
    let s : Session MatchState := ⟨.empty, ⟨1, ⟨0⟩, zones, ∅, .ofSeed 42, ⟨9⟩⟩⟩
    let t : Session MatchState := ⟨.empty, s.context.shuffled deck cards⟩
    let t' := (Run.shuffle hand .zero s).session
    evaluate (some 2) 0 (.ofCall (.ofZone .deck) (.pile .shuffle)) s =
      ⟨.done (.cardList deck), t, [.changed deck .shuffled]⟩ ∧
    ∃ moved moved', t.context.zones.cards? deck = some moved ∧ moved.Perm cards ∧
      t'.context.zones.cards? hand = some moved' ∧ t'.context.rng = t.context.rng ∧
      t.context.zones.cards? hand = s.context.zones.cards? hand ∧
      moved[0]? = some ⟨3⟩ ∧ moved'[0]? = some ⟨8⟩ := by
  intro deck hand cards zones s t t'
  have known : s.context.zones.cards? deck = some cards := rfl
  have receiver : evaluate (some 2) 1 (.ofZone .deck) s = ⟨.done (.cardList deck), s, []⟩ := rfl
  have ran : evaluate (some 2) 0 (.ofCall (.ofZone .deck) (.pile .shuffle)) s =
      ⟨.done (.cardList deck), t, [.changed deck .shuffled]⟩ :=
    Run.evaluate_shuffle_of_known receiver known
  have first : s.context.rng.order 3 0 = 2 := by decide +kernel
  obtain ⟨zone, found, moved, u, told, entered, there, -, -, redealt, perm, placed, -, -, -,
    alike⟩ :=
    shuffles_reorder ran
  cases receiver.symm.trans entered
  cases known.symm.trans there
  obtain ⟨-, rng, moved', redealt', placed'⟩ := alike s hand _ .zero rfl rfl rfl
  refine ⟨ran, moved, moved', redealt.here, perm, redealt'.here, rng,
    redealt.elsewhere hand (by decide), ?_, ?_⟩
  · rw [placed 0, show cards.length = 3 from rfl, first]
    rfl
  · rw [placed' 0, show cards.length = 3 from rfl, first]
    rfl

end CardEffects
