import CardEffects.Proofs.Methods

/-!
# Conservation of cards

An expression that pops cards only to put them into another zone loses and doubles none, wherever
its run is cut short: between the pop and the insertion nothing can fail, since the receiver was
checked before the argument was run. The invariant counts the cards of all zones together with the
one in hand.
-/

open scoped List
namespace CardEffects

mutual

/-- Cards are popped only as arguments of `Push` and `SendBottom`, which take no other arguments,
and none is removed. -/
def Expr.conserving : Expr → Bool
  | .number _ | .text _ | .boolean _ | .var _ | .step _ _ _ | .trigger _ | .zone _ _ => true
  | .group inner => inner.conserving
  | .unary _ _ operand => operand.conserving
  | .binary _ _ left right => left.conserving && right.conserving
  | .assign _ value => value.conserving
  | .zoneOf _ player _ => player.conserving
  | .call receiver method _ =>
    method != .pile .pop && method != .card .remove && receiver.conserving
  | .callWith receiver (.card .push) _ arg | .callWith receiver (.card .sendBottom) _ arg =>
    receiver.conserving && arg.pops
  | .callWith receiver (.pile .shuffle) _ arg => receiver.conserving && arg.conserving
  | .callWith _ (.card .remove) _ _ | .callWith _ (.pile .pop) _ _ => false

def Expr.pops : Expr → Bool
  | .group inner => inner.pops
  | .call receiver (.pile .pop) _ => receiver.conserving
  | .callWith receiver (.pile .pop) _ arg => receiver.conserving && arg.conserving
  | _ => false

end

def Value.inHand : Value → List CardId
  | .card c => [c]
  | _ => []

/-- The match has a frame, and its zones hold just the given cards less those in hand. -/
def Balanced (f : Frame) (cards hand : List CardId) (s : Session MatchState) : Prop :=
  s.context.frame = f ∧ hand ++ s.context.zones.allCards ~ cards

theorem CardMethod.apply_perm {m : CardMethod} (h : m ≠ .remove) (c : CardId) (pile : List CardId) :
    m.apply c pile ~ c :: pile := by
  cases m with
  | push => exact .rfl
  | sendBottom => exact List.perm_append_comm
  | remove => exact absurd rfl h

theorem inHand_poppedValue (pile : List CardId) :
    (poppedValue pile.head?).inHand ++ pile.tail = pile := by
  cases pile <;> rfl

namespace Run

variable {f : Frame} {cards : List CardId}

theorem balanced_receiverOf (name : Token) (v : Value) :
    (receiverOf name v).Ensures (Balanced f cards [])
      (fun zone s => Balanced f cards [] s ∧ zone.raw.toNat < f.zones.length)
      fun _ => Balanced f cards [] := by
  refine (readOnly_receiverOf name v).ensures fun s hs => ?_
  cases v with
  | cardList zone =>
    simp only [receiverOf, cardsOf, bind_bind, getContext_bind, ScriptContext.cards?]
    cases known : s.context.zones.cards? zone with
    | none => exact hs
    | some cards =>
      refine ⟨hs, ?_⟩
      rw [← hs.1, ← MatchState.cards?_isSome_iff, known]
      rfl
  | _ => exact hs

theorem balanced_cardArgument (name : Token) (v : Value) :
    (cardArgument name v).Ensures (Balanced f cards v.inHand) (fun c => Balanced f cards [c])
      fun _ => Balanced f cards [] := by
  refine (readOnly_cardArgument name v).ensures fun s hs => ?_
  cases v with
  | card c => exact hs
  | _ => exact hs

theorem balanced_pop (zone : ZoneHandle) (pos : SourcePos) :
    (pop zone pos).Ensures (Balanced f cards []) (fun v => Balanced f cards v.inHand)
      fun _ => Balanced f cards [] := by
  intro s hs
  rw [pop_apply]
  cases known : s.context.zones.cards? zone with
  | none => exact hs
  | some pile =>
    obtain ⟨others, before, after⟩ := MatchState.exists_others known
    refine ⟨(s.context.frame_withCards zone pile.tail).trans hs.1, ?_⟩
    calc (poppedValue pile.head?).inHand ++ (s.context.withCards zone pile.tail).zones.allCards
      _ ~ (poppedValue pile.head?).inHand ++ (pile.tail ++ others) :=
      (after pile.tail).append_left _
      _ = pile ++ others := by rw [← List.append_assoc, inHand_poppedValue]
      _ ~ s.context.zones.allCards := before.symm
      _ ~ cards := hs.2

theorem balanced_shuffle (zone : ZoneHandle) (pos : SourcePos) :
    (shuffle zone pos).Keeps (Balanced f cards []) := by
  intro s hs
  rw [shuffle_apply]
  cases known : s.context.zones.cards? zone with
  | none => exact hs
  | some pile =>
    obtain ⟨others, before, after⟩ := MatchState.exists_others known
    have order : (s.context.rng.shuffle pile).1 ~ pile := s.context.rng.shuffle_perm pile
    refine ⟨(s.context.frame_withCards zone _).trans hs.1, ?_⟩
    calc (s.context.withCards zone (s.context.rng.shuffle pile).1).zones.allCards
      _ ~ (s.context.rng.shuffle pile).1 ++ others := after _
      _ ~ pile ++ others := order.append_right others
      _ ~ s.context.zones.allCards := before.symm
      _ ~ cards := hs.2

theorem balanced_callOn {method : ListMethod} (h : method ≠ .pile .pop) (zone : ZoneHandle)
    (name : Token) : (callOn method zone name).Keeps (Balanced f cards []) := by
  cases method with
  | card m => exact (readOnly_noOverload name 0).keeps
  | pile m =>
    cases m with
    | pop => exact absurd rfl h
    | shuffle => exact balanced_shuffle zone name.pos

theorem balanced_applyCard {m : CardMethod} (h : m ≠ .remove) {zone : ZoneHandle}
    (lt : zone.raw.toNat < f.zones.length) (c : CardId) (pos : SourcePos) :
    (applyCard m zone c pos).Ensures (Balanced f cards [c]) (fun _ => Balanced f cards [])
      fun _ => Balanced f cards [] := by
  intro s hs
  rw [← hs.1, ← MatchState.cards?_isSome_iff] at lt
  rw [applyCard_apply]
  cases known : s.context.zones.cards? zone with
  | none => simp [known] at lt
  | some pile =>
    obtain ⟨others, before, after⟩ := MatchState.exists_others known
    refine ⟨(s.context.frame_withCards zone _).trans hs.1, ?_⟩
    calc (s.context.withCards zone (m.apply c pile)).zones.allCards
      _ ~ m.apply c pile ++ others := after _
      _ ~ c :: (pile ++ others) := (CardMethod.apply_perm h c pile).append_right others
      _ ~ c :: s.context.zones.allCards := before.symm.cons c
      _ ~ cards := hs.2

theorem balanced_receiver {limit : Option Nat} {level : Nat} {receiver : Expr} {name : Token}
    {x : ZoneHandle → Run MatchState RuntimeError Value} {Q : Value → Session MatchState → Prop}
    (hr : (evaluate limit (level + 1) receiver).Keeps (Balanced f cards []))
    (hx : ∀ zone, zone.raw.toNat < f.zones.length →
      (x zone).Ensures (Balanced f cards []) Q fun _ => Balanced f cards []) :
    (evaluate limit (level + 1) receiver >>= fun v => receiverOf name v >>= x).Ensures
      (Balanced f cards []) Q fun _ => Balanced f cards [] :=
  hr.bind fun v => (balanced_receiverOf name v).bind fun zone s hs => hx zone hs.2 s hs.1

theorem balanced_insertion {limit : Option Nat} {level : Nat} {receiver arg : Expr} {m : CardMethod}
    {name : Token} (h : m ≠ .remove)
    (hr : (evaluate limit (level + 1) receiver).Keeps (Balanced f cards []))
    (ha : (evaluate limit (level + 1) arg).Ensures (Balanced f cards [])
      (fun v => Balanced f cards v.inHand) fun _ => Balanced f cards []) :
    (evaluate limit level (.callWith receiver (.card m) name arg)).Keeps (Balanced f cards []) :=
  (balanced_receiver hr fun _ lt => ha.bind fun given =>
    (balanced_cardArgument name given).bind fun c =>
      balanced_applyCard h lt c name.pos).checked _ _ _

theorem balanced_noOverload {limit : Option Nat} {level : Nat} {receiver arg : Expr}
    {m : PileMethod} {name : Token}
    (hr : (evaluate limit (level + 1) receiver).Keeps (Balanced f cards []))
    (Q : Value → Session MatchState → Prop) :
    (evaluate limit level (.callWith receiver (.pile m) name arg)).Ensures (Balanced f cards []) Q
      fun _ => Balanced f cards [] :=
  (balanced_receiver hr fun _ _ =>
    (readOnly_noOverload name 1).ensures fun _ hs => hs).checked _ _ _

theorem balanced_evaluate (limit : Option Nat) (level : Nat) (e : Expr) :
    (e.conserving = true → (evaluate limit level e).Keeps (Balanced f cards [])) ∧
    (e.pops = true → (evaluate limit level e).Ensures (Balanced f cards [])
      (fun v => Balanced f cards v.inHand) fun _ => Balanced f cards []) := by
  have assigned (s : Session MatchState) (env : Environment) (hs : Balanced f cards [] s) :
    Balanced f cards [] { s with env } := hs
  induction e generalizing level with
  | number token => exact ⟨fun _ => (readOnly_literal _ _).keeps.checked _ _ _, fun h => nomatch h⟩
  | text token => exact ⟨fun _ => (readOnly_literal _ _).keeps.checked _ _ _, fun h => nomatch h⟩
  | boolean token => exact ⟨fun _ => (readOnly_literal _ _).keeps.checked _ _ _, fun h => nomatch h⟩
  | var name => exact ⟨fun _ => (readOnly_variableOf _).keeps.checked _ _ _, fun h => nomatch h⟩
  | step op name operator =>
    exact ⟨fun _ => (keeps_stepOn _ _ _ fun s _ => assigned s _).checked _ _ _, fun h => nomatch h⟩
  | trigger token => exact ⟨fun _ => readOnly_triggerPlayer.keeps.checked _ _ _, fun h => nomatch h⟩
  | zone kind access =>
    exact ⟨fun _ => (readOnly_activeZone _).keeps.checked _ _ _, fun h => nomatch h⟩
  | group inner ih =>
    exact ⟨fun h => ((ih (level + 1)).1 h).checked _ _ _,
      fun h => ((ih (level + 1)).2 h).checked _ _ _⟩
  | unary op operator operand ih =>
    refine ⟨fun h => ?_, fun h => nomatch h⟩
    exact (((ih (level + 1)).1 h).bind fun v => (readOnly_located _ _).keeps).checked _ _ _
  | binary op operator left right ihl ihr =>
    refine ⟨fun h => ?_, fun h => nomatch h⟩
    obtain ⟨hl, hr⟩ := Bool.and_eq_true_iff.mp h
    exact (((ihl (level + 1)).1 hl).bind fun a => ((ihr (level + 1)).1 hr).bind fun b =>
      (readOnly_applyBinary _ _ _ _).keeps).checked _ _ _
  | assign name value ih =>
    refine ⟨fun h => ?_, fun h => nomatch h⟩
    exact (((ih (level + 1)).1 h).bind fun v =>
      keeps_assignTo _ _ fun s _ => assigned s _).checked _ _ _
  | zoneOf kind player access ih =>
    refine ⟨fun h => ?_, fun h => nomatch h⟩
    exact (((ih (level + 1)).1 h).bind fun v => (readOnly_numberedZone _ _ _).keeps).checked _ _ _
  | call receiver method name ih =>
    refine ⟨fun h => ?_, fun h => ?_⟩
    · obtain ⟨⟨pop, remove⟩, hr⟩ :
          (method ≠ .pile .pop ∧ method ≠ .card .remove) ∧ receiver.conserving = true := by
        simpa [Expr.conserving] using h
      exact (balanced_receiver ((ih (level + 1)).1 hr) fun zone _ =>
        balanced_callOn pop zone name).checked _ _ _
    · rcases method with m | (_ | _)
      · cases h
      · exact (balanced_receiver ((ih (level + 1)).1 h) fun zone _ =>
          balanced_pop zone name.pos).checked _ _ _
      · cases h
  | callWith receiver method name arg ihr iha =>
    have ihr := (ihr (level + 1)).1
    have iha := (iha (level + 1)).2
    refine ⟨fun h => ?_, fun h => ?_⟩
    · rcases method with (_ | _ | _) | (_ | _)
      · obtain ⟨hr, ha⟩ := Bool.and_eq_true_iff.mp h
        exact balanced_insertion (by decide) (ihr hr) (iha ha)
      · obtain ⟨hr, ha⟩ := Bool.and_eq_true_iff.mp h
        exact balanced_insertion (by decide) (ihr hr) (iha ha)
      · cases h
      · cases h
      · exact balanced_noOverload (ihr (Bool.and_eq_true_iff.mp h).1) _
    · rcases method with m | (_ | _)
      · cases h
      · exact balanced_noOverload (ihr (Bool.and_eq_true_iff.mp h).1) _
      · cases h

theorem balanced_run {e : Expr} (h : e.conserving = true) (config : EvalConfig) :
    (config.run e).Keeps (Balanced f cards []) := by
  rw [EvalConfig.run_eq]
  exact (balanced_evaluate _ 0 e).1 h

end Run

theorem runEach_perm {config : EvalConfig} {es : List Expr} (h : ∀ e ∈ es, e.conserving = true)
    (s : Session MatchState) :
    ∀ o ∈ config.runEach es s, o.session.context.zones.allCards ~ s.context.zones.allCards := by
  induction es generalizing s with
  | nil => exact fun o ho => nomatch ho
  | cons e rest ih =>
    have first : Balanced s.context.frame s.context.zones.allCards [] (config.run e s).session :=
      (Run.balanced_run (h e List.mem_cons_self) config).session ⟨rfl, .rfl⟩
    intro o ho
    rw [EvalConfig.runEach_cons, List.mem_cons] at ho
    rcases ho with rfl | later
    · exact first.2
    · exact (ih (fun e he => h e (List.mem_cons_of_mem _ he)) _ o later).trans first.2

theorem invoke_perm {r : EffectRegistry} {name : String} {script : EffectScript}
    (found : r.get? name = some script) (h : ∀ e ∈ script.body, e.conserving = true)
    (vars : Environment) (context : MatchState) :
    (r.invoke name vars context).session.context.zones.allCards ~ context.zones.allCards := by
  have kept := EffectRegistry.invoke_ensures
    (F := fun _ => Balanced context.frame context.zones.allCards []) found
    (fun e he => Run.balanced_run (h e he) r.config) (fun _ _ => id) (fun _ _ => id) vars context
    ⟨rfl, .rfl⟩
  exact kept.const.2

/-- Scripts of conserving expressions only move cards: as effects, and one expression after another,
they leave the zones with the same cards as before, each as often, whatever errors stop them. -/
theorem conserving_scripts_keep_cards {body : List Expr} (h : ∀ e ∈ body, e.conserving = true)
    (vars : Environment) (context : MatchState) :
    (∀ (r : EffectRegistry) (name : String) (script : EffectScript),
      r.get? name = some script → script.body = body →
        (r.invoke name vars context).session.context.zones.allCards ~ context.zones.allCards) ∧
    ∀ (config : EvalConfig), ∀ o ∈ config.runEach body ⟨vars, context⟩,
      o.session.context.zones.allCards ~ context.zones.allCards := by
  refine ⟨fun r name script found same => ?_, fun config => runEach_perm h ⟨vars, context⟩⟩
  exact invoke_perm found (same ▸ h) vars context

theorem conserving_scripts_keep_cards_draw_twice :
    let draw := Expr.ofCallWith (.ofZone .hand) (.card .push)
      (.group (.ofCall (.ofZone .deck) (.pile .pop)))
    let deck := MatchState.handleOf .deck ⟨0⟩
    let dealt : MatchState :=
      ⟨1, ⟨0⟩, (MatchState.layout 1).setCards deck [⟨1⟩], ∅, .ofSeed 0, ⟨2⟩⟩
    let effect : EffectScript := ⟨"Draw twice", [draw, draw]⟩
    let r := (EffectRegistry.empty.register effect).2
    let after := (r.invoke "Draw twice" .empty dealt).session.context
    (∀ e ∈ [draw, draw], e.conserving = true) ∧
      r.get? "Draw twice" = some effect ∧
      after.zones.cards? (MatchState.handleOf .hand ⟨0⟩) = some [⟨1⟩] ∧
      after.zones.cards? deck = some [] ∧
      after.zones.allCards ~ dealt.zones.allCards ∧
      ∀ o ∈ EvalConfig.default.runEach [draw, draw] ⟨.empty, dealt⟩,
        o.session.context.zones.allCards ~ dealt.zones.allCards := by
  intro draw deck dealt effect r after
  have conserving : ∀ e ∈ [draw, draw], e.conserving = true := by decide
  have found : r.get? "Draw twice" = some effect := by
    rw [EffectRegistry.get?_register]
    rfl
  obtain ⟨invoked, evaluated⟩ := conserving_scripts_keep_cards conserving .empty dealt
  have hand : after.zones.cards? (MatchState.handleOf .hand ⟨0⟩) = some [⟨1⟩] := by decide +kernel
  have empty : after.zones.cards? deck = some [] := by decide +kernel
  exact ⟨conserving, found, hand, empty, invoked r _ effect found rfl, evaluated .default⟩

end CardEffects
