import CardEffects.Proofs.NumberedZones
import CardEffects.Proofs.ZoneNames
import Mathlib.Data.List.Rotate

/-!
# Cycling a zone

A method works on the zone as its argument left it. So `Z.SendBottom(Z.Pop())` turns the zone `Z` by
one card, `Z.Push(Z.Pop())` leaves it alone, and a card that was pushed is the one to be popped or
removed.
-/

namespace CardEffects

def Session.holding (s : Session MatchState) (zone : ZoneHandle) (cards : List CardId) :
    Session MatchState :=
  { s with context := s.context.withCards zone cards }

def Outcome.ending {χ ε α : Type} (o : Outcome χ ε α) : Verdict ε α × Session χ :=
  (o.verdict, o.session)

namespace Expr

/-- The expression is a single node and a number: a literal, a variable or the player whose turn it
is. -/
inductive IsNumber (s : Session MatchState) : Expr → Float → Prop
  | literal {token : Token} {x : Float} :
      numberLiteral token.lexeme = .ok (.number x) → IsNumber s (.number (some token)) x
  | var {name : Token} {x : Float} :
      s.env.lookup? name.lexeme = some (.number x) → IsNumber s (.var name) x
  | trigger (token : Token) : IsNumber s (.trigger token) s.context.activePlayer.number.toFloat

/-- The expression asks for the zone, by its kind if it is one of the active player, or by its kind
and the number of a player. -/
inductive Accesses (s : Session MatchState) : Expr → ZoneHandle → Prop
  | active (kind : ZoneKind) (access : Token) :
      Accesses s (.zone kind access) (MatchState.handleOf kind s.context.activePlayer)
  | numbered (kind : ZoneKind) (access : Token) {player : Expr} {x : Float} {p : PlayerId} :
      IsNumber s player x → p.number = Number.toInt64 x → p.index.toNat < s.context.seats →
      Accesses s (.zoneOf kind player access) (MatchState.handleOf kind p)

theorem height_cycle_le {z z' : Expr} {limit : Nat} (low : z.height + 2 ≤ limit)
    (low' : z'.height + 2 ≤ limit) (m : CardMethod) (call pop : Token) :
    (Expr.callWith z (.card m) call (.call z' (.pile .pop) pop)).height ≤ limit := by
  simp only [height]
  omega

end Expr

section

variable {s t : Session MatchState} {z z' arg : Expr} {zone : ZoneHandle} {l cards : List CardId}
  {c : CardId}

theorem Expr.Accesses.of_frame (access : z.Accesses s zone) (env : t.env = s.env)
    (frame : t.context.frame = s.context.frame) : z.Accesses t zone := by
  have active : t.context.activePlayer = s.context.activePlayer := congrArg Frame.activePlayer frame
  have seats : t.context.seats = s.context.seats := congrArg Frame.seats frame
  cases access with
  | active kind access =>
    rw [← active]
    exact .active kind access
  | numbered kind access number called seated =>
    refine .numbered kind access ?_ called (seats ▸ seated)
    cases number with
    | literal read => exact .literal read
    | var bound => exact .var (env ▸ bound)
    | trigger token =>
      rw [← active]
      exact .trigger token

theorem Expr.Accesses.holding (access : z.Accesses s zone) (cards : List CardId) :
    z.Accesses (s.holding zone cards) zone :=
  access.of_frame rfl (s.context.frame_withCards zone cards)

theorem Session.seated_holding (seated : s.context.frame.Seated) (zone : ZoneHandle)
    (cards : List CardId) :
    (s.holding zone cards).context.frame.Seated := by
  simp only [Session.holding, MatchState.frame_withCards, seated]

theorem Session.cards?_holding (known : s.context.zones.cards? zone = some l)
    (cards : List CardId) :
    (s.holding zone cards).context.zones.cards? zone = some cards :=
  (MatchState.redealt_withCards known cards s.context.rng).here

theorem Session.holding_holding (s : Session MatchState) (zone : ZoneHandle)
    (before cards : List CardId) :
    (s.holding zone before).holding zone cards = s.holding zone cards :=
  congrArg (Session.mk s.env) (s.context.withCards_withCards zone before cards)

theorem Session.holding_self (known : s.context.zones.cards? zone = some l) :
    s.holding zone l = s :=
  congrArg (Session.mk s.env) (MatchState.withCards_self known)

namespace Run

theorem evaluate_number {x : Float} (number : arg.IsNumber s x) (level : Nat) :
    evaluate none level arg s = ⟨.done (.number x), s, []⟩ := by
  cases number with
  | literal read => simp only [evaluate, checkLevel, pure_bind, literal, read, located, pure_apply]
  | var bound =>
    simp only [evaluate, checkLevel, pure_bind]
    exact variableOf_done_iff.mpr ⟨bound, rfl, rfl⟩
  | trigger token => rfl

theorem evaluate_access (seated : s.context.frame.Seated) (access : z.Accesses s zone)
    (level : Nat) :
    evaluate none level z s = ⟨.done (.cardList zone), s, []⟩ := by
  cases access with
  | active kind access =>
    simp only [evaluate, checkLevel, pure_bind]
    exact activeZone_of_ok (MatchState.zoneHandle_eq_ok.mpr ⟨seated.active, rfl⟩)
  | numbered kind access number called known =>
    simp only [evaluate, checkLevel, pure_bind]
    rw [bind_of_silent (evaluate_number number (level + 1))]
    exact numberedZone_of_seated seated.few called known

section

variable (pop call : Token) (m : CardMethod) (level : Nat) (seated : s.context.frame.Seated)
include seated

theorem evaluate_receiver (access : z.Accesses s zone)
    (known : s.context.zones.cards? zone = some l) :
    (evaluate none level z >>= receiverOf call) s = ⟨.done zone, s, []⟩ := by
  rw [bind_of_silent (evaluate_access seated access level)]
  exact receiverOf_of_shown call
    (by rw [show ScriptContext.cards? s.context zone = some l from known]; nofun)

theorem evaluate_pop (access : z.Accesses s zone) (known : s.context.zones.cards? zone = some l) :
    evaluate none level (.call z (.pile .pop) pop) s =
      ⟨.done (poppedValue l.head?), s.holding zone l.tail, [.changed zone (.popped l.head?)]⟩ := by
  simp only [evaluate, checkLevel, pure_bind]
  rw [← bind_bind, bind_of_silent (evaluate_receiver pop (level + 1) seated access known)]
  simp only [callOn, applyPile, pop_apply, known, Session.holding]

theorem evaluate_callWith (access : z.Accesses s zone)
    (known : s.context.zones.cards? zone = some l) {given : Value} {events : List Event}
    (ran : evaluate none (level + 1) arg s = ⟨.done given, t, events⟩) :
    let o := (cardArgument call given >>= fun c => applyCard m zone c call.pos) t
    evaluate none level (.callWith z (.card m) call arg) s =
      ⟨o.verdict, o.session, events ++ o.events⟩ := by
  simp only [evaluate, checkLevel, pure_bind]
  rw [← bind_bind, bind_of_silent (evaluate_receiver call (level + 1) seated access known),
    bind_of_done ran]

theorem evaluate_callWith_card (access : z.Accesses s zone)
    (known : s.context.zones.cards? zone = some l) {events : List Event}
    (ran : evaluate none (level + 1) arg s = ⟨.done (.card c), t, events⟩)
    (left : t.context.zones.cards? zone = some cards) :
    evaluate none level (.callWith z (.card m) call arg) s =
      ⟨.done (m.result zone c cards), t.holding zone (m.apply c cards),
        events ++ [.changed zone (m.change c cards)]⟩ := by
  have card : cardArgument call (.card c) t = ⟨.done c, t, []⟩ := rfl
  rw [evaluate_callWith call m level seated access known ran, bind_of_silent card,
    applyCard_apply, left]
  rfl

theorem evaluate_cycle (here : z.Accesses s zone) (there : z'.Accesses s zone)
    (known : s.context.zones.cards? zone = some (c :: l)) :
    evaluate none level (.callWith z (.card m) call (.call z' (.pile .pop) pop)) s =
      ⟨.done (m.result zone c l), s.holding zone (m.apply c l),
        [.changed zone (.popped (some c)), .changed zone (m.change c l)]⟩ := by
  have popped := evaluate_pop pop (level + 1) seated there known
  rw [evaluate_callWith_card call m level seated here known popped (Session.cards?_holding known l),
    Session.holding_holding]
  rfl

theorem evaluate_cycle_nil (here : z.Accesses s zone) (there : z'.Accesses s zone)
    (known : s.context.zones.cards? zone = some []) :
    evaluate none level (.callWith z (.card m) call (.call z' (.pile .pop) pop)) s =
      ⟨.failed ⟨.argumentNotACard, call.pos⟩, s,
        [.changed zone (.popped none), .argumentRejected .null]⟩ := by
  have popped := evaluate_pop pop (level + 1) seated there known
  rw [show s.holding zone ([] : List CardId).tail = s from Session.holding_self known] at popped
  exact evaluate_callWith call m level seated here known popped

end

end Run

end

namespace EvalConfig

theorem runEach_replicate {χ : Type} [ScriptContext χ] (config : EvalConfig) {e : Expr}
    {session : Nat → Session χ} (left : ∀ i, (config.run e (session i)).session = session (i + 1))
    (k : Nat) :
    config.runEach (List.replicate k e) (session 0) = (List.range k).map fun i =>
      config.run e (session i) := by
  induction k generalizing session with
  | zero => rfl
  | succ k ih =>
    have rest := ih fun i => left (i + 1)
    rw [List.replicate_succ, runEach_cons, left 0, rest, List.range_succ_eq_map, List.map_cons,
      List.map_map]
    rfl

theorem endings_replicate {χ : Type} [ScriptContext χ] (config : EvalConfig) {e : Expr}
    {s : Session χ} {v : Verdict RuntimeError Value} (same : (config.run e s).ending = (v, s))
    (k : Nat) :
    (config.runEach (List.replicate k e) s).map Outcome.ending = List.replicate k (v, s) := by
  have left : ∀ i : Nat, (config.run e s).session = s := fun _ => congrArg Prod.snd same
  have all := List.map_congr_left (l := List.range k) fun _ _ => same
  rw [config.runEach_replicate left k, List.map_map]
  exact all.trans (by rw [List.map_const', List.length_range])

section

variable (config : EvalConfig) {s : Session MatchState} {z z' : Expr} {zone : ZoneHandle}
  {l : List CardId} {c : CardId} (pop call : Token) (seated : s.context.frame.Seated)
include seated

theorem run_cycle (here : z.Accesses s zone) (there : z'.Accesses s zone)
    (low : z.height + 2 ≤ config.maxDepth) (low' : z'.height + 2 ≤ config.maxDepth)
    (known : s.context.zones.cards? zone = some (c :: l)) (m : CardMethod) :
    (config.run (.callWith z (.card m) call (.call z' (.pile .pop) pop)) s).ending =
      (.done (m.result zone c l), s.holding zone (m.apply c l)) := by
  rw [run_eq_of_height_le (Expr.height_cycle_le low low' m call pop),
    Run.evaluate_cycle pop call m 0 seated here there known]
  rfl

theorem run_cycle_nil (here : z.Accesses s zone) (there : z'.Accesses s zone)
    (low : z.height + 2 ≤ config.maxDepth) (low' : z'.height + 2 ≤ config.maxDepth)
    (known : s.context.zones.cards? zone = some []) (m : CardMethod) :
    (config.run (.callWith z (.card m) call (.call z' (.pile .pop) pop)) s).ending =
      (.failed ⟨.argumentNotACard, call.pos⟩, s) := by
  rw [run_eq_of_height_le (Expr.height_cycle_le low low' m call pop),
    Run.evaluate_cycle_nil pop call m 0 seated here there known]
  rfl

theorem run_pop (there : z'.Accesses s zone) (low' : z'.height + 2 ≤ config.maxDepth)
    (known : s.context.zones.cards? zone = some l) :
    (config.run (.call z' (.pile .pop) pop) s).ending =
      (.done (poppedValue l.head?), s.holding zone l.tail) := by
  have height : (Expr.call z' (.pile .pop) pop).height ≤ config.maxDepth := by
    simp only [Expr.height]
    omega
  rw [run_eq_of_height_le height, Run.evaluate_pop pop 0 seated there known]
  rfl

theorem run_callWith_var (here : z.Accesses s zone) (low : z.height + 2 ≤ config.maxDepth)
    (known : s.context.zones.cards? zone = some l) {name : Token}
    (bound : s.env.lookup? name.lexeme = some (.card c)) (m : CardMethod) :
    (config.run (.callWith z (.card m) call (.var name)) s).ending =
      (.done (m.result zone c l), s.holding zone (m.apply c l)) := by
  have height : (Expr.callWith z (.card m) call (.var name)).height ≤ config.maxDepth := by
    simp only [Expr.height]
    omega
  have given : evaluate none 1 (.var name) s = ⟨.done (.card c), s, []⟩ := by
    simp only [evaluate, Run.checkLevel, pure_bind]
    exact Run.variableOf_done_iff.mpr ⟨bound, rfl, rfl⟩
  rw [run_eq_of_height_le height, Run.evaluate_callWith_card call m 0 seated here known given known]
  rfl

theorem endings_rotate (here : z.Accesses s zone) (there : z'.Accesses s zone)
    (low : z.height + 2 ≤ config.maxDepth) (low' : z'.height + 2 ≤ config.maxDepth)
    (known : s.context.zones.cards? zone = some l) (full : l ≠ []) (k : Nat) :
    (config.runEach
      (List.replicate k (.callWith z (.card .sendBottom) call (.call z' (.pile .pop) pop))) s).map
        Outcome.ending =
      (List.range k).map fun i => (.done (.cardList zone), s.holding zone (l.rotate (i + 1))) := by
  have step (i : Nat) :
      (config.run (.callWith z (.card .sendBottom) call (.call z' (.pile .pop) pop))
          (s.holding zone (l.rotate i))).ending =
        (.done (.cardList zone), s.holding zone (l.rotate (i + 1))) := by
    obtain ⟨c, rest, turned⟩ := List.exists_cons_of_ne_nil (mt List.rotate_eq_nil_iff.mp full)
    have held := (Session.cards?_holding known (l.rotate i)).trans (congrArg some turned)
    rw [config.run_cycle pop call (Session.seated_holding seated zone _) (here.holding _)
      (there.holding _) low low' held, Session.holding_holding, ← List.rotate_rotate, turned,
      List.rotate_cons_succ, List.rotate_zero]
    rfl
  have turned := config.runEach_replicate (fun i => congrArg Prod.snd (step i)) k
  rw [List.rotate_zero, Session.holding_self known] at turned
  rw [turned, List.map_map]
  exact List.map_congr_left fun i _ => step i

theorem run_cycle_push (here : z.Accesses s zone) (there : z'.Accesses s zone)
    (low : z.height + 2 ≤ config.maxDepth) (low' : z'.height + 2 ≤ config.maxDepth)
    (known : s.context.zones.cards? zone = some l) (full : l ≠ []) :
    (config.run (.callWith z (.card .push) call (.call z' (.pile .pop) pop)) s).ending =
      (.done (.cardList zone), s) := by
  obtain ⟨c, rest, rfl⟩ := List.exists_cons_of_ne_nil full
  rw [config.run_cycle pop call seated here there low low' known]
  exact congrArg (Prod.mk _) (Session.holding_self known)

end

end EvalConfig

/-- To cycle a zone is to rotate it. In a match that a host can reach, whatever accesses stand for
the zone, to send its front card to its bottom time after time turns it by one card each time, to
push its front card leaves it as it was, and both fail on an empty zone. A card that is pushed is
the next to be popped and the first to be removed, wherever else it lies in the zone. All else stays
as it was. -/
theorem cycling_rotates {m : MatchState} (reached : m.Reached) (env : Environment) {z z' : Expr}
    {zone : ZoneHandle} (here : z.Accesses ⟨env, m⟩ zone) (there : z'.Accesses ⟨env, m⟩ zone)
    (config : EvalConfig) (low : z.height + 2 ≤ config.maxDepth)
    (low' : z'.height + 2 ≤ config.maxDepth) (call pop : Token) :
    let s : Session MatchState := ⟨env, m⟩
    let draw := Expr.call z' (.pile .pop) pop
    let give (method : CardMethod) (arg : Expr) := Expr.callWith z (.card method) call arg
    let endings (es : List Expr) := (config.runEach es s).map Outcome.ending
    ∃ l, m.zones.cards? zone = some l ∧ s.holding zone l = s ∧
      (∀ cards, (s.holding zone cards).env = env ∧
        m.Redealt zone cards (s.holding zone cards).context ∧
        (s.holding zone cards).context.rng = m.rng) ∧
      (l ≠ [] → ∀ k,
        endings (List.replicate k (give .sendBottom draw)) =
          (List.range k).map
            (fun i => (.done (.cardList zone), s.holding zone (l.rotate ((i + 1) % l.length)))) ∧
        endings (List.replicate k (give .push draw)) =
          List.replicate k (.done (.cardList zone), s)) ∧
      (l = [] → ∀ method k, endings (List.replicate k (give method draw)) =
        List.replicate k (.failed ⟨.argumentNotACard, call.pos⟩, s)) ∧
      ∀ c name, env.lookup? name.lexeme = some (.card c) →
        endings [give .push (.var name), draw] =
          [(.done (.cardList zone), s.holding zone (c :: l)), (.done (.card c), s)] ∧
        endings [give .push (.var name), .callWith z' (.card .remove) pop (.var name)] =
          [(.done (.cardList zone), s.holding zone (c :: l)), (.done (.boolean true), s)] := by
  intro s draw give endings
  have seated : s.context.frame.Seated := reached.laidOut.toSeated
  obtain ⟨l, known⟩ : ∃ l, s.context.zones.cards? zone = some l := by
    cases here with
    | active kind access => exact MatchState.exists_cards seated kind seated.active
    | numbered kind access number called seat => exact MatchState.exists_cards seated kind seat
  refine ⟨l, known, Session.holding_self known,
    fun cards => ⟨rfl, MatchState.redealt_withCards known cards m.rng, rfl⟩,
      fun full k => ⟨?turned, ?kept⟩, ?failed, fun c name bound => ?pushed⟩
  case turned =>
    simp only [List.rotate_mod]
    exact config.endings_rotate pop call seated here there low low' known full k
  case kept =>
    exact config.endings_replicate
      (config.run_cycle_push pop call seated here there low low' known full) k
  case failed =>
    rintro rfl method k
    exact config.endings_replicate
      (config.run_cycle_nil pop call seated here there low low' known method) k
  case pushed =>
    have push := config.run_callWith_var call seated here low known bound .push
    have after : (config.run (give .push (.var name)) s).session = s.holding zone (c :: l) :=
      congrArg Prod.snd push
    have back : (s.holding zone (c :: l)).holding zone l = s := by
      rw [Session.holding_holding, Session.holding_self known]
    have seated' := Session.seated_holding seated zone (c :: l)
    have there' := there.holding (c :: l)
    have held := Session.cards?_holding known (c :: l)
    have popped := config.run_pop pop seated' there' low' held
    have removed := config.run_callWith_var pop seated' there' low' held bound .remove
    have two (e e' : Expr) : endings [e, e'] =
        [(config.run e s).ending, (config.run e' (config.run e s).session).ending] := by
      simp only [endings, EvalConfig.runEach_cons]
      rfl
    constructor
    · rw [two, push, after, popped]
      exact congrArg (fun t => [_, (Verdict.done (Value.card c), t)]) back
    · have found : CardMethod.remove.result zone c (c :: l) = .boolean true := by
        simp [CardMethod.result]
      have first : CardMethod.remove.apply c (c :: l) = l := List.erase_cons_head c l
      rw [two, push, after, removed, found, first]
      exact congrArg (fun t => [_, (Verdict.done (Value.boolean true), t)]) back

theorem cycling_rotates_deck :
    let deck := MatchState.handleOf .deck ⟨0⟩
    let started : MatchState := ⟨2, ⟨0⟩, MatchState.layout 2, ∅, .ofSeed 0, ⟨1⟩⟩
    let spawned (m : MatchState) := (m.place "Wolf" (some ⟨0⟩) 4 deck).2
    let m := spawned (spawned (spawned started))
    let env := Environment.empty.assign "x" (.card ⟨2⟩)
    let s : Session MatchState := ⟨env, m⟩
    let z := Expr.ofZone .deck
    let z' := Expr.ofZoneOf .deck (.ofNumber "1")
    let turn := Expr.ofCallWith z (.card .sendBottom) (.call z' (.pile .pop) (.synthetic "Remove"))
    let push := Expr.callWith z (.card .push) (.synthetic "SendBottom") (.ofVar "x")
    let remove := Expr.ofCallWith z' (.card .remove) (.ofVar "x")
    let endings (es : List Expr) := ((EvalConfig.mk 4).runEach es s).map Outcome.ending
    let deal (cards : List CardId) := (Verdict.done (Value.cardList deck), s.holding deck cards)
    m.Reached ∧ z.Accesses s deck ∧ z'.Accesses s deck ∧ z.height + 2 ≤ 4 ∧ z'.height + 2 ≤ 4 ∧
      m.zones.cards? deck = some [⟨1⟩, ⟨2⟩, ⟨3⟩] ∧ env.lookup? "x" = some (.card ⟨2⟩) ∧
      endings (List.replicate 4 turn) =
        [deal [⟨2⟩, ⟨3⟩, ⟨1⟩], deal [⟨3⟩, ⟨1⟩, ⟨2⟩], deal [⟨1⟩, ⟨2⟩, ⟨3⟩], deal [⟨2⟩, ⟨3⟩, ⟨1⟩]] ∧
      endings [push, remove] = [deal [⟨2⟩, ⟨1⟩, ⟨2⟩, ⟨3⟩], (.done (.boolean true), s)] := by
  intro deck started spawned m env s z z' turn push remove endings deal
  have start : Reachable (fun _ _ _ => True) ⟨2, 0⟩ [] ⟨.empty, started⟩ := .start rfl
  have wolf := start.spawn "Wolf" ⟨0⟩ .deck 4 rfl
  have reached : m.Reached :=
    ⟨_, _, _, (wolf.spawn "Wolf" ⟨0⟩ .deck 4 rfl).spawn "Wolf" ⟨0⟩ .deck 4 rfl⟩
  have one : ((⟨0⟩ : PlayerId).number : Int) = Number.toInt64 1 := by decide +kernel
  have here : z.Accesses s deck := .active .deck _
  have there : z'.Accesses s deck := .numbered .deck _ (.literal rfl) one (by decide)
  have known : m.zones.cards? deck = some [⟨1⟩, ⟨2⟩, ⟨3⟩] := rfl
  obtain ⟨l, cards, -, -, turned, -, pushed⟩ :=
    cycling_rotates reached env here there ⟨4⟩ (by decide) (by decide)
    (.synthetic "SendBottom") (.synthetic "Remove")
  cases known.symm.trans cards
  obtain ⟨-, removed⟩ := pushed ⟨2⟩ (.synthetic "x") rfl
  exact ⟨reached, here, there, by decide, by decide, known, rfl, (turned nofun 4).1, removed⟩

end CardEffects
