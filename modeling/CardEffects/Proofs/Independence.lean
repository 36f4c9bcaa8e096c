import CardEffects.Proofs.Seating
import CardEffects.Proofs.Variables

/-!
# Independent expressions

An expression that calls no method and tests nothing for equality has no part in the cards. It
leaves the match alone and reads only what no script can change of it. Such an expression may be run
before or after any other, if neither sets a variable that the other mentions.
-/

namespace CardEffects

/-- Whether the node itself reads or moves cards. Equality reads them, for it compares card lists by
what they hold. -/
def Expr.looksAtCards : Expr → Bool
  | .call _ _ _ | .callWith _ _ _ _ => true
  | .binary op _ _ _ => op == .equal || op == .notEqual
  | _ => false

theorem BinaryOp.apply_congr {op : BinaryOp} (plain : (op == .equal || op == .notEqual) = false)
    (cards? cards?' : ZoneHandle → Option (List CardId)) (a b : Value) :
    op.apply cards? a b = op.apply cards?' a b := by
  cases op with
  | equal | notEqual => cases plain
  | _ => rfl

namespace Run

section

variable {S : Session MatchState → Session MatchState → Prop}
  (framed : ∀ {s t}, S s t → s.context.frame = t.context.frame)
include framed

theorem framed_triggerPlayer : Alike S Eq Eq triggerPlayer triggerPlayer := by
  intro s t h
  have active : s.context.activePlayer = t.context.activePlayer :=
    congrArg Frame.activePlayer (framed h)
  simp only [triggerPlayer, getContext_bind, ScriptContext.activePlayer, active]
  exact alike_pure rfl s t h

theorem framed_activeZone (kind : ZoneKind) :
    Alike S Eq Eq (activeZone kind) (activeZone kind) := by
  intro s t h
  have active : s.context.activePlayer = t.context.activePlayer :=
    congrArg Frame.activePlayer (framed h)
  simp only [activeZone, getContext_bind, ScriptContext.activePlayer, ScriptContext.zone, active,
    MatchState.zoneHandle_of_frame (framed h)]
  exact alike_listOf _ s t h

theorem framed_numberedZone (kind : ZoneKind) (access : Token) (player : Value) :
    Alike S Eq Eq (numberedZone kind access player) (numberedZone kind access player) := by
  cases player with
  | number x =>
    intro s t h
    have seats : s.context.seats = t.context.seats := congrArg Frame.seats (framed h)
    simp only [numberedZone, getContext_bind, ScriptContext.player?, ScriptContext.zone, seats,
      MatchState.zoneHandle_of_frame (framed h)]
    cases PlayerId.ofNumber? (Number.toInt64 x) t.context.seats with
    | some p => exact alike_listOf _ s t h
    | none => exact alike_fail _ s t h
  | _ => exact alike_rejected rfl _

theorem framed_operatesAlike {node : Expr} (blind : node.ownName? = none)
    (apart : node.looksAtCards = false) : OperatesAlike S Eq Eq Eq node := by
  cases node with
  | var | assign | step => cases blind
  | call | callWith => cases apart
  | number token => exact alike_literal (fun _ _ => rfl) numberLiteral_plain token
  | text token => exact alike_literal (fun _ _ => rfl) textLiteral_plain token
  | boolean token => exact alike_literal (fun _ _ => rfl) booleanLiteral_plain token
  | group inner => trivial
  | unary op operator operand =>
    rintro v _ rfl
    exact alike_located (fun _ _ => rfl) _
  | binary op operator left right =>
    rintro v _ w _ rfl rfl s t h
    simp only [applyBinary, getContext_bind,
      op.apply_congr apart _ (ScriptContext.cards? t.context)]
    exact alike_located (fun _ _ => rfl) _ s t h
  | trigger token => exact framed_triggerPlayer framed
  | zone kind access => exact framed_activeZone framed kind
  | zoneOf kind player access =>
    rintro v _ rfl
    exact framed_numberedZone framed kind access v

end

theorem run_apart {m m' : MatchState} (frames : m.frame = m'.frame) {env env' : Environment}
    (config : EvalConfig) {e : Expr} (apart : ∀ node ∈ e.nodes, node.looksAtCards = false) :
    let K (c c' : MatchState) : Prop := c = m ∧ c' = m'
    Alike (Beside K e.names e.targets env env') Eq Eq (config.run e) (config.run e) := by
  intro K
  rw [EvalConfig.run_eq]
  refine evaluate_alike (Z := Eq) (fun node mem => beside_operatesAlike mem fun blind => ?_) 0
  refine framed_operatesAlike (fun h => ?_) blind (apart node mem)
  rw [h.context.1, h.context.2, frames]

end Run

/-- Two expressions of which the first is apart from the cards may be run in either order by one
evaluator, if neither sets what the other mentions: each ends in the same way, be it with an error,
and what they leave together is the same. -/
theorem independent_expressions_commute (config : EvalConfig) {e₁ e₂ : Expr}
    (apart : ∀ node ∈ e₁.nodes, node.looksAtCards = false)
    (first : ∀ name ∈ e₁.targets, name ∉ e₂.names) (second : ∀ name ∈ e₂.targets, name ∉ e₁.names)
    (s : Session MatchState) :
    ∃ o₁ o₂ o₁' o₂', config.runEach [e₁, e₂] s = [o₁, o₂] ∧ config.runEach [e₂, e₁] s = [o₂', o₁'] ∧
      o₁.verdict = o₁'.verdict ∧ o₁.events = o₁'.events ∧
      o₂.verdict = o₂'.verdict ∧ o₂.events = o₂'.events ∧
      (∀ name, o₂.session.env.lookup? name = o₁'.session.env.lookup? name) ∧
      o₂.session.context = o₁'.session.context := by
  let o₁ := config.run e₁ s
  let o₂ := config.run e₂ o₁.session
  let o₂' := config.run e₂ s
  let o₁' := config.run e₁ o₂'.session
  have each (e e' : Expr) : config.runEach [e, e'] s =
      [config.run e s, config.run e' (config.run e s).session] := by
    rw [EvalConfig.runEach_cons, EvalConfig.runEach_cons]
    rfl
  have kept₁ (name : String) (no : name ∉ e₁.targets) : o₁.session.env.lookup? name =
      s.env.lookup? name :=
    Run.lookup?_run config e₁ s no
  have kept₂ (name : String) (no : name ∉ e₂.targets) : o₂'.session.env.lookup? name =
      s.env.lookup? name :=
    Run.lookup?_run config e₂ s no
  -- the first expression from the start and behind the second one
  have mentioned₁ (name : String) (mem : name ∈ e₁.names) :
      s.env.lookup? name = o₂'.session.env.lookup? name :=
    (kept₂ name fun target => second name target mem).symm
  obtain ⟨verdict₁, session₁, events₁⟩ :=
    Run.run_apart (frame_run config e₂ s).symm config apart s o₂'.session
    ⟨⟨rfl, rfl⟩, mentioned₁, fun _ _ => rfl, fun _ _ => rfl⟩
  obtain ⟨unchanged, moved⟩ := session₁.context
  -- the second expression from the start and behind the first one
  have mentioned₂ (name : String) (mem : name ∈ e₂.names) :
      s.env.lookup? name = o₁.session.env.lookup? name :=
    (kept₁ name fun target => first name target mem).symm
  obtain ⟨verdict₂, session₂, events₂⟩ := Run.run_beside config e₂ s o₁.session
    ⟨unchanged.symm, mentioned₂, fun _ _ => rfl, fun _ _ => rfl⟩
  refine ⟨o₁, o₂, o₁', o₂', each e₁ e₂, each e₂ e₁, verdict₁.eq fun _ _ => id,
    List.forall₂_eq_eq_eq ▸ events₁, (verdict₂.eq fun _ _ => id).symm,
    (List.forall₂_eq_eq_eq ▸ events₂ : o₂'.events = o₂.events).symm, fun name => ?_, ?_⟩
  · by_cases target₁ : name ∈ e₁.targets
    · have no : name ∉ e₂.targets := fun target₂ =>
        first name target₁ (e₂.targets_subset_names target₂)
      calc o₂.session.env.lookup? name
        _ = o₁.session.env.lookup? name := session₂.right name no
        _ = o₁'.session.env.lookup? name := session₁.common name (e₁.targets_subset_names target₁)
    · have right : o₁'.session.env.lookup? name = o₂'.session.env.lookup? name :=
        session₁.right name target₁
      rw [right]
      by_cases mentioned : name ∈ e₂.names
      · exact (session₂.common name mentioned).symm
      · have no : name ∉ e₂.targets := fun target₂ => mentioned (e₂.targets_subset_names target₂)
        calc o₂.session.env.lookup? name
          _ = o₁.session.env.lookup? name := session₂.right name no
          _ = s.env.lookup? name := kept₁ name target₁
          _ = o₂'.session.env.lookup? name := (kept₂ name no).symm
  · exact session₂.context.symm.trans moved.symm

theorem independent_expressions_commute_draw :
    let deck := MatchState.handleOf .deck ⟨0⟩
    let dealt : MatchState := ⟨1, ⟨0⟩, (MatchState.layout 1).setCards deck [⟨1⟩], ∅, .ofSeed 0, ⟨2⟩⟩
    let e₁ := Expr.ofBinary .and (.group (.ofAssign "a" (.ofZone .hand))) (.ofBool true)
    let e₂ := Expr.ofAssign "b" (.ofCall (.ofZone .deck) (.pile .pop))
    (∀ node ∈ e₁.nodes, node.looksAtCards = false) ∧ (∀ name ∈ e₁.targets, name ∉ e₂.names) ∧
      (∀ name ∈ e₂.targets, name ∉ e₁.names) ∧
      ∃ o₁ o₂ o₁' o₂', EvalConfig.default.runEach [e₁, e₂] ⟨.empty, dealt⟩ = [o₁, o₂] ∧
        EvalConfig.default.runEach [e₂, e₁] ⟨.empty, dealt⟩ = [o₂', o₁'] ∧
        o₁'.verdict = .failed ⟨.operands .boolean, .zero⟩ ∧ o₂'.verdict = .done (.card ⟨1⟩) ∧
        o₁'.session.env.lookup? "a" = some (.cardList (MatchState.handleOf .hand ⟨0⟩)) ∧
        o₁'.session.env.lookup? "b" = some (.card ⟨1⟩) ∧
        o₁'.session.context = dealt.withCards deck [] := by
  intro deck dealt e₁ e₂
  have apart : ∀ node ∈ e₁.nodes, node.looksAtCards = false := by decide +kernel
  have first : ∀ name ∈ e₁.targets, name ∉ e₂.names := by decide
  have second : ∀ name ∈ e₂.targets, name ∉ e₁.names := by decide
  obtain ⟨o₁, o₂, o₁', o₂', runs, runs', verdict₁, -, verdict₂, -, env, context⟩ :=
    independent_expressions_commute .default apart first second ⟨.empty, dealt⟩
  refine ⟨apart, first, second, o₁, o₂, o₁', o₂', runs, runs', ?_⟩
  cases runs
  exact ⟨verdict₁.symm, verdict₂.symm, (env "a").symm, (env "b").symm, context.symm⟩

end CardEffects
