import CardEffects.Effect.Registry

/-!
# Sequences of expressions

An evaluator hands on nothing from one expression to the next but the session, also behind a
failure: its count of open nodes is back at zero after each. So expressions that one evaluator runs
one after another do as if each had a new one, and the invocation of an effect is told by such runs
alone.
-/

namespace CardEffects

variable {χ : Type} [ScriptContext χ]

def EvalConfig.runApart (config : EvalConfig) :
    List Expr → Session χ → List (Outcome χ RuntimeError Value)
  | [], _ => []
  | e :: rest, s => config.run e s :: config.runApart rest (config.run e s).session

theorem EvalConfig.runEach_eq_runApart (config : EvalConfig) (es : List Expr) (s : Session χ) :
    config.runEach es s = config.runApart es s := by
  induction es generalizing s with
  | nil => rfl
  | cons e rest ih => rw [EvalConfig.runEach_cons, EvalConfig.runApart, ih]

inductive Completes (config : EvalConfig) :
    List Expr → Session χ → List Value → List Event → Session χ → Prop
  | nil (s : Session χ) : Completes config [] s [] [] s
  | cons {e : Expr} {rest : List Expr} {s t u : Session χ} {v : Value} {vs : List Value}
      {events later : List Event} :
      config.run e s = ⟨.done v, t, events⟩ → Completes config rest t vs later u →
      Completes config (e :: rest) s (v :: vs) (events ++ later) u

/-- What becomes of the body of an effect if new evaluators run its expressions one after another,
up to the first that does not finish. -/
inductive Performs (config : EvalConfig) (effect : String) (body : List Expr) (s : Session χ) :
    Outcome χ EffectError Value → Prop
  | finished {vs : List Value} {events : List Event} {t : Session χ} :
      Completes config body s vs events t →
      Performs config effect body s
        ⟨.done (vs.getLastD .null), t,
          .effectInvoked effect body.length ::
            (events ++ [.effectFinished effect (vs.getLastD .null)])⟩
  | aborted {before rest : List Expr} {e : Expr} {vs : List Value} {events last : List Event}
      {t u : Session χ} {err : RuntimeError} :
      body = before ++ e :: rest → Completes config before s vs events t →
      config.run e t = ⟨.failed err, u, last⟩ →
      Performs config effect body s
        ⟨.failed (.aborted effect err), u,
          .effectInvoked effect body.length :: (events ++ (last ++ [.effectAborted effect err]))⟩
  | refused {before rest : List Expr} {e : Expr} {vs : List Value} {events last : List Event}
      {t u : Session χ} {r : Refusal} :
      body = before ++ e :: rest → Completes config before s vs events t →
      config.run e t = ⟨.refused r, u, last⟩ →
      Performs config effect body s
        ⟨.refused r, u, .effectInvoked effect body.length :: (events ++ last)⟩

namespace EffectRegistry

variable {config : EvalConfig} {effect : String} {es rest : List Expr} {e : Expr} {vs : List Value}
  {events last : List Event} {s t u : Session χ}

theorem runBody_of_done {v : Value} (run : config.run e s = ⟨.done v, t, events⟩) (before : Value)
    (rest : List Expr) :
    (runBody config effect before (e :: rest)).atLevel 0 s =
      let o := (runBody config effect v rest).atLevel 0 t
      ⟨o.verdict, o.session, events ++ o.events⟩ := by
  rw [runBody_cons]
  exact Run.bind_of_done (by simp only [Run.onFailure, run])

theorem runBody_of_failed {err : RuntimeError} (run : config.run e s = ⟨.failed err, t, events⟩)
    (before : Value) (rest : List Expr) :
    (runBody config effect before (e :: rest)).atLevel 0 s =
      ⟨.failed (.aborted effect err), t, events ++ [.effectAborted effect err]⟩ := by
  rw [runBody_cons]
  exact Run.bind_of_failed (by simp only [Run.onFailure, run])

theorem runBody_of_refused {r : Refusal} (run : config.run e s = ⟨.refused r, t, events⟩)
    (before : Value) (rest : List Expr) :
    (runBody config effect before (e :: rest)).atLevel 0 s = ⟨.refused r, t, events⟩ := by
  rw [runBody_cons]
  exact Run.bind_of_refused (by simp only [Run.onFailure, run])

theorem runBody_append (h : Completes config es s vs events t) (before : Value) (rest : List Expr) :
    (runBody config effect before (es ++ rest)).atLevel 0 s =
      let o := (runBody config effect (vs.getLastD before) rest).atLevel 0 t
      ⟨o.verdict, o.session, events ++ o.events⟩ := by
  induction h generalizing before with
  | nil s => rfl
  | cons run _ ih =>
    rw [List.cons_append, runBody_of_done run, ih, List.getLastD_cons]
    simp only [List.append_assoc]

theorem runBody_of_completes (h : Completes config es s vs events t) (before : Value) :
    (runBody config effect before es).atLevel 0 s = ⟨.done (vs.getLastD before), t, events⟩ := by
  calc (runBody config effect before es).atLevel 0 s
    _ = (runBody config effect before (es ++ [])).atLevel 0 s := by rw [List.append_nil]
    _ = ⟨.done (vs.getLastD before), t, events ++ []⟩ := runBody_append h before []
    _ = ⟨.done (vs.getLastD before), t, events⟩ := by rw [List.append_nil]

theorem completes_or_stops (config : EvalConfig) (es : List Expr) (s : Session χ) :
    (∃ vs events t, Completes config es s vs events t) ∨
      ∃ before e rest vs events t, es = before ++ e :: rest ∧
        Completes config before s vs events t ∧
        ∀ v, (config.run e t).verdict ≠ .done v := by
  induction es generalizing s with
  | nil => exact .inl ⟨[], [], s, .nil s⟩
  | cons e rest ih =>
    rcases run : config.run e s with ⟨verdict, t, events⟩
    cases verdict with
    | done v =>
      rcases ih t with
        ⟨vs, later, u, completes⟩ | ⟨before, e', rest', vs, later, u, split, completes, stops⟩
      · exact .inl ⟨_, _, u, .cons run completes⟩
      · refine .inr ⟨e :: before, e', rest', _, _, u, ?_, .cons run completes, stops⟩
        rw [split, List.cons_append]
    | failed err =>
      refine .inr ⟨[], e, rest, [], [], s, rfl, .nil s, fun v done => ?_⟩
      rw [run] at done
      cases done
    | refused r =>
      refine .inr ⟨[], e, rest, [], [], s, rfl, .nil s, fun v done => ?_⟩
      rw [run] at done
      cases done

theorem exists_performs (config : EvalConfig) (effect : String) (body : List Expr) (s : Session χ) :
    ∃ o, Performs config effect body s o := by
  rcases completes_or_stops config body s with
    ⟨vs, events, t, completes⟩ | ⟨before, e, rest, vs, events, t, split, completes, stops⟩
  · exact ⟨_, .finished completes⟩
  · rcases run : config.run e t with ⟨verdict, u, last⟩
    cases verdict with
    | done v => exact absurd (congrArg Outcome.verdict run) (stops v)
    | failed err => exact ⟨_, .aborted split completes run⟩
    | refused r => exact ⟨_, .refused split completes run⟩

theorem runScript_of_performs {body : List Expr} {o : Outcome χ EffectError Value}
    (h : Performs config effect body s o) : runScript config effect body s = o := by
  have invoked : runScript config effect body s =
      let o := ((runBody config effect .null body).atLevel 0 >>= fun v => do
        Run.emit (.effectFinished effect v)
        return v) s
      ⟨o.verdict, o.session, .effectInvoked effect body.length :: o.events⟩ := rfl
  rw [invoked]
  cases h with
  | finished completes => rw [Run.bind_of_done (runBody_of_completes completes .null)]; rfl
  | aborted split completes run =>
    rw [Run.bind_of_failed (by rw [split, runBody_append completes, runBody_of_failed run])]
  | refused split completes run =>
    rw [Run.bind_of_refused (by rw [split, runBody_append completes, runBody_of_refused run])]

theorem performs_iff {body : List Expr} {o : Outcome χ EffectError Value} :
    Performs config effect body s o ↔ runScript config effect body s = o := by
  refine ⟨runScript_of_performs, fun same => ?_⟩
  obtain ⟨o', performs⟩ := exists_performs config effect body s
  rwa [← same, runScript_of_performs performs]

end EffectRegistry

/-- Evaluations depend on nothing but the session that they find: one evaluator gives to each of
several expressions the outcome that a new one would, and an effect, if it is registered, is the
sequence of such evaluations up to the first that does not finish, between the events that tell of
its start and its end. An effect that is not registered leaves no trace. -/
theorem evaluations_are_independent (config : EvalConfig) (registry : EffectRegistry)
    (name : String) (vars : Environment) (context : χ) :
    (∀ (es : List Expr) (s : Session χ), config.runEach es s = config.runApart es s) ∧
    (registry.get? name = none →
      registry.invoke name vars context = ⟨.failed (.unknown name), ⟨vars, context⟩, []⟩) ∧
    ∀ script, registry.get? name = some script → ∀ o : Outcome χ EffectError Value,
      Performs registry.config name script.body ⟨vars, context⟩ o ↔
        registry.invoke name vars context = o := by
  refine ⟨config.runEach_eq_runApart, fun absent => ?_, fun script found o => ?_⟩
  · simp only [EffectRegistry.invoke, absent]
    rfl
  · simp only [EffectRegistry.invoke, found]
    exact EffectRegistry.performs_iff

theorem evaluations_are_independent_behind_depth :
    let deck := MatchState.handleOf .deck ⟨0⟩
    let dealt : MatchState :=
      ⟨1, ⟨0⟩, (MatchState.layout 1).setCards deck [⟨1⟩, ⟨2⟩], ∅, .ofSeed 0, ⟨3⟩⟩
    let deep := Expr.ofBinary .equal (.ofCall (.ofZone .deck) (.pile .pop))
      (.group (.group (.ofNumber "7")))
    let flat := Expr.ofBinary .equal (.ofCall (.ofZone .deck) (.pile .pop)) (.group (.ofNumber "7"))
    let effect : EffectScript := ⟨"Peek", [flat, deep, flat]⟩
    let registry := (EffectRegistry.empty.register effect).2.withConfig ⟨3⟩
    let s : Session MatchState := ⟨.empty, dealt⟩
    let after (cards : List CardId) : Session MatchState := ⟨.empty, dealt.withCards deck cards⟩
    let popped (c : CardId) : Event := .changed deck (.popped (some c))
    let struck : RuntimeError := ⟨.tooDeep 3, .zero⟩
    (EvalConfig.mk 3).runEach [deep, flat] s = (EvalConfig.mk 3).runApart [deep, flat] s ∧
      (EvalConfig.mk 3).runApart [deep, flat] s =
        [⟨.failed struck, after [⟨2⟩], [popped ⟨1⟩]⟩,
          ⟨.done (.boolean false), after [], [popped ⟨2⟩]⟩] ∧
      registry.get? "Peek" = some effect ∧
      registry.invoke "Peek" .empty dealt =
        ⟨.failed (.aborted "Peek" struck), after [],
          [.effectInvoked "Peek" 3, popped ⟨1⟩, popped ⟨2⟩, .effectAborted "Peek" struck]⟩ ∧
      registry.invoke "Poke" .empty dealt = ⟨.failed (.unknown "Poke"), s, []⟩ := by
  intro deck dealt deep flat effect registry s after popped struck
  have known (name : String) :
      registry.get? name =
        if effect.name = name then some effect else EffectRegistry.empty.get? name :=
    EffectRegistry.empty.get?_register effect name
  have found : registry.get? "Peek" = some effect := known "Peek"
  have absent : registry.get? "Poke" = none :=
    (known "Poke").trans (EffectRegistry.get?_empty "Poke")
  have first : (EvalConfig.mk 3).run flat s =
      ⟨.done (.boolean false), after [⟨2⟩], [popped ⟨1⟩]⟩ := rfl
  have second : (EvalConfig.mk 3).run deep (after [⟨2⟩]) =
      ⟨.failed struck, after [], [popped ⟨2⟩]⟩ := rfl
  obtain ⟨apart, -, invoked⟩ :=
    evaluations_are_independent (EvalConfig.mk 3) registry "Peek" .empty dealt
  have unknown :=
    (evaluations_are_independent (EvalConfig.mk 3) registry "Poke" .empty dealt).2.1 absent
  have performs : Performs ⟨3⟩ "Peek" effect.body s _ := .aborted rfl (.cons first (.nil _)) second
  have alone : (EvalConfig.mk 3).runApart [deep, flat] s =
      [⟨.failed struck, after [⟨2⟩], [popped ⟨1⟩]⟩,
        ⟨.done (.boolean false), after [], [popped ⟨2⟩]⟩] := by
    have deepFirst : (EvalConfig.mk 3).run deep s =
        ⟨.failed struck, after [⟨2⟩], [popped ⟨1⟩]⟩ := rfl
    have flatSecond : (EvalConfig.mk 3).run flat (after [⟨2⟩]) =
      ⟨.done (.boolean false), after [], [popped ⟨2⟩]⟩ := rfl
    simp only [EvalConfig.runApart, deepFirst, flatSecond]
  exact ⟨apart [deep, flat] s, alone, found, (invoked effect found _).mp performs, unknown⟩

end CardEffects
