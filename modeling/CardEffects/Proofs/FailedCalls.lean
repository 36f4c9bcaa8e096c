import CardEffects.Proofs.Runs

/-!
# Calls that fail

A method acts in one step behind all of its checks, so that a call which fails leaves the session as
its receiver and its argument left it. `Shuffle` is the exception: it draws the order before it asks
for the zone to be opened, and where a context shows the zone and yet does not open it, the draw is
spent. A run in a context that opens no zone changes nothing of the context but by one such draw.
-/

namespace CardEffects

/-- Whether a call of `Shuffle` that can be carried out occurs; with an argument it has no
overload. -/
def Expr.shuffles : Expr → Bool
  | .number _ | .text _ | .boolean _ | .var _ | .step _ _ _ | .trigger _ | .zone _ _ => false
  | .group inner => inner.shuffles
  | .unary _ _ operand => operand.shuffles
  | .binary _ _ left right => left.shuffles || right.shuffles
  | .assign _ value => value.shuffles
  | .zoneOf _ player _ => player.shuffles
  | .call receiver method _ => method == .pile .shuffle || receiver.shuffles
  | .callWith receiver (.card _) _ arg => receiver.shuffles || arg.shuffles
  | .callWith receiver (.pile _) _ _ => receiver.shuffles

namespace Run

section

variable {χ α β ε : Type}

def Atomic (x : Run χ ε α) : Prop := ∀ s, x.Ensures (· = s) (fun _ _ => True) fun _ t => t = s

theorem ReadOnly.atomic {x : Run χ ε α} (hx : x.ReadOnly) : x.Atomic :=
  fun _ => hx.keeps.mono (fun _ hs => hs) fun _ _ _ => trivial

theorem ReadOnly.bind_atomic {x : Run χ ε α} {f : α → Run χ ε β} (hx : x.ReadOnly)
    (hf : ∀ a, (f a).Atomic) : (x >>= f).Atomic := fun s => hx.keeps.bind fun a => hf a s

theorem Ensures.weaken {x : Run χ ε α} {P : Session χ → Prop} {Q : α → Session χ → Prop}
    {E E' : Option ε → Session χ → Prop} (hx : x.Ensures P Q E) (hE : ∀ e s, E e s → E' e s) :
    x.Ensures P Q E' := by
  intro s hs
  have h := hx s hs
  cases hv : (x s).verdict with
  | done a =>
    rw [hv] at h
    exact h
  | failed e =>
    rw [hv] at h
    exact hE (some e) _ h
  | refused r =>
    rw [hv] at h
    exact hE none _ h

theorem Ensures.of_done {x : Run χ ε α} {f : α → Run χ ε β} {s t : Session χ} {a : α}
    {events : List Event} {Q : β → Session χ → Prop} {E : Option ε → Session χ → Prop}
    (done : x s = ⟨.done a, t, events⟩) (hf : (f a).Ensures (· = t) Q E) :
    (x >>= f).Ensures (· = s) Q E := by
  intro _ same
  rw [same, bind_of_done done]
  exact hf t rfl

end

variable {χ : Type} [ScriptContext χ]

theorem readOnly_editOf (zone : ZoneHandle) (pos : SourcePos) :
    (editOf (χ := χ) zone pos).ReadOnly := by
  refine readOnly_getContext fun context => ?_
  cases ScriptContext.edit? context zone with
  | some edit => exact readOnly_pure edit
  | none => exact readOnly_fail _

theorem atomic_applyCard (m : CardMethod) (zone : ZoneHandle) (c : CardId) (pos : SourcePos) :
    (applyCard (χ := χ) m zone c pos).Atomic :=
  (readOnly_editOf zone pos).bind_atomic fun _ _ _ _ => trivial

theorem atomic_pop (zone : ZoneHandle) (pos : SourcePos) : (pop (χ := χ) zone pos).Atomic :=
  (readOnly_editOf zone pos).bind_atomic fun _ _ _ _ => trivial

def drawn (context : χ) (cards : List CardId) : χ :=
  ScriptContext.withRng context ((ScriptContext.rng context).shuffle cards).2

/-- A zone that the context shows was not opened to put the shuffled cards in, and the draw is
spent. -/
def Spent (zone : ZoneHandle) (pos : SourcePos) (before : χ) (e : Option RuntimeError) (after : χ) :
    Prop :=
  e = some ⟨.unknownZone zone, pos⟩ ∧ ∃ cards, ScriptContext.cards? before zone = some cards ∧
    after = drawn before cards ∧ ScriptContext.edit? after zone = none

theorem shuffle_of_shown {s : Session χ} {zone : ZoneHandle} {cards : List CardId}
    (shown : ScriptContext.cards? s.context zone = some cards) (pos : SourcePos) :
    shuffle zone pos s = match ScriptContext.edit? (drawn s.context cards) zone with
      | some edit =>
        ⟨.done (.cardList zone),
          { s with context := edit.put ((ScriptContext.rng s.context).shuffle cards).1 },
          [.changed zone .shuffled]⟩
      | none =>
        ⟨.failed ⟨.unknownZone zone, pos⟩, { s with context := drawn s.context cards }, []⟩ := by
  simp only [shuffle, cardsOf, bind_bind, getContext_bind, shown, pure_bind,
    setContext_bind, editOf]
  rw [drawn]
  cases ScriptContext.edit? (ScriptContext.withRng s.context
    ((ScriptContext.rng s.context).shuffle cards).2) zone <;> rfl

theorem shuffle_ensures (zone : ZoneHandle) (pos : SourcePos) (s : Session χ) :
    (shuffle zone pos).Ensures (· = s) (fun _ _ => True) fun e t =>
      t = s ∨ t.env = s.env ∧ Spent zone pos s.context e t.context := by
  intro t same
  subst same
  cases shown : ScriptContext.cards? t.context zone with
  | none =>
    simp only [shuffle, cardsOf, bind_bind, getContext_bind, shown]
    exact .inl rfl
  | some cards =>
    rw [shuffle_of_shown shown]
    cases opened : ScriptContext.edit? (drawn t.context cards) zone with
    | some edit => trivial
    | none => exact .inr ⟨rfl, rfl, cards, shown, rfl, opened⟩

theorem callOn_ensures (method : ListMethod) (zone : ZoneHandle) (name : Token) (s : Session χ) :
    (callOn method zone name).Ensures (· = s) (fun _ _ => True) fun e t =>
      t = s ∨ method = .pile .shuffle ∧ t.env = s.env ∧
      Spent zone name.pos s.context e t.context := by
  rcases method with m | (_ | _)
  · exact ((readOnly_noOverload name 0).atomic s).weaken fun _ _ => .inl
  · exact (atomic_pop zone name.pos s).weaken fun _ _ => .inl
  · exact (shuffle_ensures zone name.pos s).weaken fun _ _ h => h.imp id fun spent => ⟨rfl, spent⟩

theorem exists_checked (limit : Option Nat) (level : Nat) (e : Expr) :
    ∃ x, evaluate (χ := χ) limit level e = checkLevel limit level e.pos >>= fun _ => x := by
  cases e <;> exact ⟨_, rfl⟩

theorem evaluate_of_deep {m level : Nat} (deep : m ≤ level) (e : Expr) (s : Session χ) :
    evaluate (some m) level e s = ⟨.failed ⟨.tooDeep m, e.pos⟩, s, []⟩ := by
  obtain ⟨x, checked⟩ := exists_checked (χ := χ) (some m) level e
  rw [checked]
  simp only [checkLevel, deep, if_true]
  rfl

theorem checkLevel_of_done {limit : Option Nat} {level : Nat} {e : Expr} {s t : Session χ}
    {v : Value} {events : List Event} (done : evaluate limit (level + 1) e s = ⟨.done v, t, events⟩)
    (pos : SourcePos) : checkLevel (χ := χ) limit level pos = pure () := by
  cases limit with
  | none => rfl
  | some m =>
    -- where the guard strikes above the node, it has struck at the node, which did not finish then
    by_cases deep : m ≤ level + 1
    · rw [evaluate_of_deep deep] at done
      cases done
    · have above : ¬ m ≤ level := by omega
      simp only [checkLevel, above, if_false]

/-- The operands of the call, run from the session `s`, have left the session `t`, and the method is
next: the receiver and, behind a receiver that is a known list, the argument of a method that takes
one. -/
inductive OperandsRun (limit : Option Nat) (level : Nat) : Expr → Session χ → Session χ → Prop
  | receiver {receiver : Expr} {method : ListMethod} {name : Token} {s t : Session χ} {v : Value}
      {events : List Event} :
      evaluate limit (level + 1) receiver s = ⟨.done v, t, events⟩ →
      OperandsRun limit level (.call receiver method name) s t
  | unwanted {receiver arg : Expr} {m : PileMethod} {name : Token} {s t : Session χ} {v : Value}
      {events : List Event} :
      evaluate limit (level + 1) receiver s = ⟨.done v, t, events⟩ →
      OperandsRun limit level (.callWith receiver (.pile m) name arg) s t
  | rejected {receiver arg : Expr} {m : CardMethod} {name : Token} {s t : Session χ} {v : Value}
      {events : List Event} :
      evaluate limit (level + 1) receiver s = ⟨.done v, t, events⟩ →
      (∀ zone, (receiverOf name v t).verdict ≠ .done zone) →
      OperandsRun limit level (.callWith receiver (.card m) name arg) s t
  | argument {receiver arg : Expr} {m : CardMethod} {name : Token} {s t u : Session χ}
      {v given : Value} {zone : ZoneHandle} {events later : List Event} :
      evaluate limit (level + 1) receiver s = ⟨.done v, t, events⟩ →
      (receiverOf name v t).verdict = .done zone →
      evaluate limit (level + 1) arg t = ⟨.done given, u, later⟩ →
      OperandsRun limit level (.callWith receiver (.card m) name arg) s u

theorem OperandsRun.ensures {limit : Option Nat} {level : Nat} {e : Expr} {s t : Session χ}
    (ready : OperandsRun limit level e s t) :
    (evaluate limit level e).Ensures (· = s) (fun _ _ => True) fun err u =>
      u = t ∨ (∃ receiver name, e = .call receiver (.pile .shuffle) name) ∧ u.env = t.env ∧
        ∃ zone, Spent zone e.pos t.context err u.context := by
  cases ready with
  | @receiver receiver method name _ _ v _ done =>
    rw [evaluate, checkLevel_of_done done, pure_bind]
    refine .of_done done
      (((readOnly_receiverOf name v).keeps.weaken fun _ _ => .inl).bind fun zone => ?_)
    refine (callOn_ensures method zone name t).weaken fun err u h => h.imp id ?_
    rintro ⟨rfl, env, spent⟩
    exact ⟨⟨receiver, name, rfl⟩, env, zone, spent⟩
  | @unwanted _ _ _ name _ _ v _ done =>
    rw [evaluate, checkLevel_of_done done, pure_bind]
    have last := (readOnly_receiverOf (χ := χ) name v).bind_atomic fun _ =>
      (readOnly_noOverload name 1).atomic
    exact .of_done done ((last t).weaken fun _ _ => .inl)
  | @rejected _ _ _ name _ _ v _ done unknown =>
    rw [evaluate, checkLevel_of_done done, pure_bind]
    have stops : (receiverOf name v).Ensures (· = t) (fun _ _ => False) fun _ u => u = t := by
      refine (readOnly_receiverOf name v).ensures fun u same => ?_
      rw [same]
      cases ended : (receiverOf name v t).verdict with
      | done zone => exact unknown zone ended
      | failed e => rfl
      | refused r => rfl
    exact .of_done done ((stops.weaken fun _ _ => .inl).bind fun zone u none => none.elim)
  | @argument _ _ m name _ r _ v given zone _ _ done known ran =>
    have shown : receiverOf name v r = ⟨.done zone, r, (receiverOf name v r).events⟩ := by
      have same := (readOnly_receiverOf name v r).1
      rcases run : receiverOf name v r with ⟨verdict, u, events⟩
      rw [run] at known same
      rw [show verdict = .done zone from known, show u = r from same]
    have last := (readOnly_cardArgument (χ := χ) name given).bind_atomic fun c =>
      atomic_applyCard m zone c name.pos
    rw [evaluate, checkLevel_of_done done, pure_bind]
    exact .of_done done (.of_done shown (.of_done ran ((last t).weaken fun _ _ => .inl)))

def Shut (context : χ) : Prop :=
  ∀ zone, ScriptContext.edit? context zone = none ∧
    ∀ g, ScriptContext.edit? (ScriptContext.withRng context g) zone = none

theorem shut_frozen (context : Frozen χ) : Shut context := fun _ => ⟨rfl, fun _ => rfl⟩

theorem evaluate_ensures {P : Session χ → Prop} {E : Option RuntimeError → Session χ → Prop}
    (ends : ∀ err s, P s → E err s) (assigned : ∀ s env, P s → P { s with env })
    (card : ∀ m zone c pos, (applyCard m zone c pos).Keeps P)
    (popped : ∀ zone pos, (pop zone pos).Keeps P) (limit : Option Nat) (level : Nat) (e : Expr)
    (shuffled : e.shuffles = true → ∀ zone pos, (shuffle zone pos).Ensures P (fun _ => P) E) :
    (evaluate limit level e).Ensures P (fun _ => P) E := by
  have keeps {α : Type} {x : Run χ RuntimeError α} (hx : x.Keeps P) : x.Ensures P (fun _ => P) E :=
    hx.weaken ends
  have enter (level : Nat) (pos : SourcePos) {x : Run χ RuntimeError Value}
      (hx : x.Ensures P (fun _ => P) E) :
      (checkLevel limit level pos >>= fun _ => x).Ensures P (fun _ => P) E :=
    (keeps (readOnly_checkLevel limit level pos).keeps).bind fun _ => hx
  induction e generalizing level with
  | number token => exact enter _ _ (keeps (readOnly_literal _ _).keeps)
  | text token => exact enter _ _ (keeps (readOnly_literal _ _).keeps)
  | boolean token => exact enter _ _ (keeps (readOnly_literal _ _).keeps)
  | var name => exact enter _ _ (keeps (readOnly_variableOf _).keeps)
  | group inner ih => exact enter _ _ (ih (level + 1) shuffled)
  | unary op operator operand ih =>
    exact enter _ _ ((ih (level + 1) shuffled).bind fun v => keeps (readOnly_located _ _).keeps)
  | binary op operator left right ihl ihr =>
    simp only [Expr.shuffles, Bool.or_eq_true] at shuffled
    exact enter _ _ ((ihl (level + 1) fun h => shuffled (.inl h)).bind fun a =>
      (ihr (level + 1) fun h => shuffled (.inr h)).bind fun b =>
        keeps (readOnly_applyBinary _ _ _ _).keeps)
  | assign name value ih =>
    exact enter _ _ ((ih (level + 1) shuffled).bind fun v =>
      keeps (keeps_assignTo _ _ fun s _ => assigned s _))
  | step op name operator => exact enter _ _ (keeps (keeps_stepOn _ _ _ fun s _ => assigned s _))
  | trigger token => exact enter _ _ (keeps readOnly_triggerPlayer.keeps)
  | zone kind access => exact enter _ _ (keeps (readOnly_activeZone _).keeps)
  | zoneOf kind player access ih =>
    exact enter _ _ ((ih (level + 1) shuffled).bind fun v =>
      keeps (readOnly_numberedZone _ _ _).keeps)
  | call receiver method name ih =>
    simp only [Expr.shuffles, Bool.or_eq_true, beq_iff_eq] at shuffled
    refine enter _ _ ((ih (level + 1) fun h => shuffled (.inr h)).bind fun v =>
      (keeps (readOnly_receiverOf _ _).keeps).bind fun zone => ?_)
    rcases method with m | (_ | _)
    · exact keeps (readOnly_noOverload name 0).keeps
    · exact keeps (popped zone name.pos)
    · exact shuffled (.inl rfl) zone name.pos
  | callWith receiver method name arg ihr iha =>
    cases method with
    | card m =>
      simp only [Expr.shuffles, Bool.or_eq_true] at shuffled
      exact enter _ _ ((ihr (level + 1) fun h => shuffled (.inl h)).bind fun v =>
        (keeps (readOnly_receiverOf _ _).keeps).bind fun zone =>
          (iha (level + 1) fun h => shuffled (.inr h)).bind fun given =>
            (keeps (readOnly_cardArgument _ _).keeps).bind fun c => keeps (card m zone c name.pos))
    | pile m =>
      exact enter _ _ ((ihr (level + 1) shuffled).bind fun v =>
        (keeps (readOnly_receiverOf _ _).keeps).bind fun zone =>
          keeps (readOnly_noOverload name 1).keeps)

theorem editOf_shut {context : χ} (shut : Shut context) (zone : ZoneHandle) (pos : SourcePos) :
    (editOf zone pos).Ensures (·.context = context) (fun _ _ => False) fun _ s =>
      s.context = context := by
  intro s same
  simp only [editOf, getContext_bind, same, (shut zone).1]
  exact same

theorem evaluate_shut {context : χ} (shut : Shut context) (limit : Option Nat) (level : Nat)
    (e : Expr) :
    (evaluate limit level e).Ensures (·.context = context)
    (fun _ s => s.context = context) fun err s =>
      s.context = context ∨ e.shuffles = true ∧
      ∃ zone pos, Spent zone pos context err s.context := by
  refine evaluate_ensures (fun _ _ => .inl) (fun _ _ => id)
    (fun m zone c pos => (editOf_shut shut zone pos).bind fun _ _ none => none.elim)
    (fun zone pos => (editOf_shut shut zone pos).bind fun _ _ none => none.elim) limit level e
    fun shuffles zone pos s same => ?_
  subst same
  cases shown : ScriptContext.cards? s.context zone with
  | none =>
    simp only [shuffle, cardsOf, bind_bind, getContext_bind, shown]
    exact .inl rfl
  | some cards =>
    have closed : ScriptContext.edit? (drawn s.context cards) zone = none := (shut zone).2 _
    rw [shuffle_of_shown shown, closed]
    exact .inr ⟨shuffles, zone, pos, rfl, cards, shown, rfl, closed⟩

end Run

namespace Random.Generator

theorem position_lt_drawFrom (r words : Nat) (g : Generator) :
    g.position < (drawFrom r (words + 1) g).2.position := by
  have next : g.position < g.advance.position := Nat.lt_succ_self _
  induction words generalizing g with
  | zero =>
    unfold drawFrom
    split <;> exact next
  | succ words ih =>
    unfold drawFrom
    split
    · exact next
    · exact Nat.lt_trans next (ih g.advance (Nat.lt_succ_self _))

theorem position_lt_below (g : Generator) (r : Nat) : g.position < (g.below r).2.position :=
  position_lt_drawFrom r (period - 1) g

theorem position_le_swaps (i : Nat) (g : Generator) : g.position ≤ (g.swaps i).2.position := by
  induction i generalizing g with
  | zero => exact Nat.le_refl _
  | succ i ih => exact Nat.le_trans (Nat.le_of_lt (position_lt_below g (i + 2))) (ih _)

theorem position_lt_shuffle {α : Type} (g : Generator) {items : List α}
    (several : 2 ≤ items.length) :
    g.position < (g.shuffle items).2.position := by
  obtain ⟨i, length⟩ := Nat.exists_eq_add_of_le several
  rw [shuffle_snd, length, show 2 + i - 1 = i + 1 by omega]
  exact Nat.lt_of_lt_of_le (position_lt_below g (i + 2)) (position_le_swaps i _)

end Random.Generator

open Run

theorem frozen_shuffle_spends {m : MatchState} {zone : ZoneHandle} {cards : List CardId}
    (shown : m.zones.cards? zone = some cards) (several : 2 ≤ cards.length) (env : Environment)
    (pos : SourcePos) :
    ∃ rng : Random.Generator, m.rng.position < rng.position ∧
      shuffle zone pos ⟨env, (⟨m⟩ : Frozen MatchState)⟩ =
        ⟨.failed ⟨.unknownZone zone, pos⟩, ⟨env, ⟨{ m with rng }⟩⟩, []⟩ :=
  ⟨(m.rng.shuffle cards).2, m.rng.position_lt_shuffle several,
    shuffle_of_shown (s := (⟨env, ⟨m⟩⟩ : Session (Frozen MatchState))) shown pos⟩

variable {χ : Type} [ScriptContext χ]

/-- A call that fails behind its operands leaves the session as they left it, unless it is a
`Shuffle`: where the context shows the zone and does not open it, the draw is spent, and nothing
else is touched. So an expression leaves a context that opens no zone as it was, but for one draw of
a `Shuffle` in it. -/
theorem failed_calls_spend_at_most_a_draw (limit : Option Nat) (level : Nat) (e : Expr)
    (s : Session χ) :
    let after := (evaluate limit level e s).session
    (∀ t, OperandsRun limit level e s t → ∀ err, (evaluate limit level e s).verdict = .failed err →
      after = t ∨ (∃ receiver name, e = .call receiver (.pile .shuffle) name) ∧ after.env = t.env ∧
        ∃ zone, Spent zone e.pos t.context (some err) after.context) ∧
    (Shut s.context → after.context = s.context ∨ e.shuffles = true ∧
      ∃ err zone pos, (evaluate limit level e s).verdict = .failed err ∧
        Spent zone pos s.context (some err) after.context) := by
  intro after
  refine ⟨fun t ready err failed => ?_, fun shut => ?_⟩
  · have ends := ready.ensures s rfl
    rwa [failed] at ends
  · have ends := evaluate_shut shut limit level e s rfl
    cases verdict : (evaluate limit level e s).verdict with
    | done v =>
      rw [verdict] at ends
      exact .inl ends
    | failed err =>
      rw [verdict] at ends
      rcases ends with same | ⟨shuffles, zone, pos, spent⟩
      · exact .inl same
      · exact .inr ⟨shuffles, err, zone, pos, rfl, spent⟩
    | refused r =>
      rw [verdict] at ends
      exact .inl (Or.resolve_right ends fun ⟨_, _, _, failed, _⟩ => nomatch failed)

theorem failed_calls_spend_at_most_a_draw_frozen_pop :
    let deck := MatchState.handleOf .deck ⟨0⟩
    let dealt : MatchState :=
      ⟨1, ⟨0⟩, (MatchState.layout 1).setCards deck [⟨1⟩, ⟨2⟩], ∅, .ofSeed 0, ⟨3⟩⟩
    let pop := Expr.ofCall (.group (.ofAssign "x" (.ofZone .deck))) (.pile .pop)
    let s : Session (Frozen MatchState) := ⟨.empty, ⟨dealt⟩⟩
    let t : Session (Frozen MatchState) := ⟨.assign .empty "x" (.cardList deck), ⟨dealt⟩⟩
    OperandsRun (some 9) 0 pop s t ∧
      (evaluate (some 9) 0 pop s).verdict = .failed ⟨.unknownZone deck, .zero⟩ ∧
      (evaluate (some 9) 0 pop s).session = t ∧
      Shut s.context ∧ (evaluate (some 9) 0 pop s).session.context = s.context := by
  intro deck dealt pop s t
  have done : evaluate (some 9) 1 (.group (.ofAssign "x" (.ofZone .deck))) s =
    ⟨.done (.cardList deck), t, []⟩ := rfl
  have ready : OperandsRun (some 9) 0 pop s t := .receiver done
  have failed : (evaluate (some 9) 0 pop s).verdict = .failed ⟨.unknownZone deck, .zero⟩ := rfl
  have shut : Shut s.context := shut_frozen _
  obtain ⟨call, whole⟩ := failed_calls_spend_at_most_a_draw (some 9) 0 pop s
  have left : (evaluate (some 9) 0 pop s).session = t := by
    refine (call t ready _ failed).resolve_right fun ⟨⟨_, _, shuffles⟩, _⟩ => ?_
    injection shuffles with _ method
    cases method
  have same := (whole shut).resolve_right fun ⟨shuffles, _⟩ => nomatch shuffles
  exact ⟨ready, failed, left, shut, same⟩

/-- `Deck.Shuffle()` in a match that may only be looked at fails behind a receiver that changes
nothing, and the generator is another one. -/
theorem failed_shuffle_spends_words :
    let deck := MatchState.handleOf .deck ⟨0⟩
    let dealt : MatchState :=
      ⟨1, ⟨0⟩, (MatchState.layout 1).setCards deck [⟨1⟩, ⟨2⟩], ∅, .ofSeed 0, ⟨3⟩⟩
    let shuffle := Expr.ofCall (.ofZone .deck) (.pile .shuffle)
    let s : Session (Frozen MatchState) := ⟨.empty, ⟨dealt⟩⟩
    OperandsRun (some 9) 0 shuffle s s ∧
      (evaluate (some 9) 0 shuffle s).verdict = .failed ⟨.unknownZone deck, .zero⟩ ∧
      Shut s.context ∧
      (evaluate (some 9) 0 shuffle s).session.context.base.rng ≠ dealt.rng := by
  intro deck dealt shuffle s
  have shown : dealt.zones.cards? deck = some [⟨1⟩, ⟨2⟩] := rfl
  obtain ⟨rng, moved, spent⟩ := frozen_shuffle_spends shown (Nat.le_refl 2) .empty .zero
  have left : (evaluate (some 9) 0 shuffle s).session = (Run.shuffle deck .zero s).session := rfl
  have done : evaluate (some 9) 1 (.ofZone .deck) s = ⟨.done (.cardList deck), s, []⟩ := rfl
  refine ⟨.receiver done, rfl, shut_frozen _, fun same => ?_⟩
  rw [left, spent] at same
  have still : rng = dealt.rng := same
  rw [still] at moved
  exact Nat.lt_irrefl _ moved

end CardEffects
