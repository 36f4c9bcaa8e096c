import CardEffects.Lang.Evaluate

/-!
# Evaluators

An evaluator counts the nodes that are open and goes no deeper than it is allowed. The count goes up
when a node is entered and down again when it is left, also on a failure, so that an evaluator which
runs one expression after another has its whole depth for each. `evaluateCounting_eq` says that it
does what `evaluate` does with the level of a node in place of the count.
-/

namespace CardEffects

def Counting (χ ε α : Type) : Type := Nat → Session χ → Nat × Outcome χ ε α

namespace Counting

variable {χ ε ε' α β : Type}

protected def pure (a : α) : Counting χ ε α := fun depth s => (depth, Run.pure a s)

protected def bind (x : Counting χ ε α) (f : α → Counting χ ε β) : Counting χ ε β := fun depth s =>
  match x depth s with
  | (depth, ⟨.done a, s, events⟩) =>
    match f a depth s with
    | (depth, ⟨verdict, s, later⟩) => (depth, ⟨verdict, s, events ++ later⟩)
  | (depth, ⟨.failed e, s, events⟩) => (depth, ⟨.failed e, s, events⟩)
  | (depth, ⟨.refused r, s, events⟩) => (depth, ⟨.refused r, s, events⟩)

instance : Monad (Counting χ ε) where
  pure := Counting.pure
  bind := Counting.bind

def ofRun (x : Run χ ε α) : Counting χ ε α := fun depth s => (depth, x s)

def onFailure (x : Counting χ ε α) (note : ε → Event) (f : ε → ε') :
    Counting χ ε' α := fun depth s =>
  match x depth s with
  | (depth, o) => (depth, Run.onFailure (fun _ => o) note f s)

/-- Enter a node and leave it, unless as many nodes as allowed are open. -/
def node (limit : Nat) (pos : SourcePos) (x : Counting χ RuntimeError α) :
    Counting χ RuntimeError α := fun depth s =>
  if limit ≤ depth then (depth, Run.fail ⟨.tooDeep limit, pos⟩ s)
  else
    match x (depth + 1) s with
    | (depth, o) => (depth - 1, o)

def atLevel (x : Counting χ ε α) (level : Nat) : Run χ ε α := fun s => (x level s).2

/-- The count is after the run what it was before, and the rest is a run that knows its level. -/
def Restores (x : Counting χ ε α) (y : Nat → Run χ ε α) : Prop :=
  ∀ depth s, x depth s = (depth, y depth s)

theorem restores_pure (a : α) : (pure a : Counting χ ε α).Restores fun _ => pure a := fun _ _ => rfl

theorem restores_ofRun (x : Run χ ε α) : (ofRun x).Restores fun _ => x := fun _ _ => rfl

theorem Restores.bind {x : Counting χ ε α} {y : Nat → Run χ ε α} {f : α → Counting χ ε β}
    {g : α → Nat → Run χ ε β} (hx : x.Restores y) (hf : ∀ a, (f a).Restores (g a)) :
    (x >>= f).Restores fun level => y level >>= fun a => g a level := by
  intro depth s
  show Counting.bind x f depth s = (depth, Run.bind (y depth) (fun a => g a depth) s)
  rcases h : y depth s with ⟨v, t, events⟩
  cases v with
  | done a => simp [Counting.bind, Run.bind, hx depth s, h, hf a depth t]
  | failed e => simp [Counting.bind, Run.bind, hx depth s, h]
  | refused r => simp [Counting.bind, Run.bind, hx depth s, h]

theorem Restores.onFailure {x : Counting χ ε α} {y : Nat → Run χ ε α} (hx : x.Restores y)
    (note : ε → Event) (f : ε → ε') :
    (x.onFailure note f).Restores fun level => (y level).onFailure note f := by
  intro depth s
  simp [Counting.onFailure, hx depth s, Run.onFailure]

theorem Restores.node {x : Counting χ RuntimeError α} {y : Nat → Run χ RuntimeError α}
    (hx : x.Restores y) (limit : Nat) (pos : SourcePos) :
    (node limit pos x).Restores fun level =>
      Run.checkLevel (some limit) level pos >>= fun _ => y (level + 1) := by
  intro depth s
  by_cases h : limit ≤ depth
  · simp only [Counting.node, Run.checkLevel, h, if_true]
    rfl
  · simp only [Counting.node, Run.checkLevel, h, if_false, hx (depth + 1) s, Nat.add_sub_cancel]
    exact congrArg (fun run => (depth, run s)) (Run.pure_bind_apply () fun _ => y (depth + 1)).symm

theorem Restores.atLevel_eq {x : Counting χ ε α} {y : Nat → Run χ ε α} (hx : x.Restores y) :
    x.atLevel = y := by
  funext level s
  exact congrArg Prod.snd (hx level s)

theorem Restores.self {x : Counting χ ε α} {y : Nat → Run χ ε α} (hx : x.Restores y) :
    x.Restores x.atLevel := by
  rwa [hx.atLevel_eq]

end Counting

open Run

variable {χ : Type} [ScriptContext χ]

def evaluateCounting (limit : Nat) (e : Expr) : Counting χ RuntimeError Value :=
  .node limit e.pos <| match e with
  | .number token => .ofRun (literal token numberLiteral)
  | .text token => .ofRun (literal token fun lexeme => .ok (textLiteral lexeme))
  | .boolean token => .ofRun (literal token booleanLiteral)
  | .var name => .ofRun (variableOf name)
  | .group inner => evaluateCounting limit inner
  | .unary op operator operand => do
    let v ← evaluateCounting limit operand
    .ofRun (located operator.pos (op.apply v))
  | .binary op operator left right => do
    let a ← evaluateCounting limit left
    let b ← evaluateCounting limit right
    .ofRun (applyBinary op operator a b)
  | .assign name value => do
    let v ← evaluateCounting limit value
    .ofRun (assignTo name v)
  | .step op name operator => .ofRun (stepOn op name operator)
  | .trigger _ => .ofRun triggerPlayer
  | .zone kind _ => .ofRun (activeZone kind)
  | .zoneOf kind player access => do
    let v ← evaluateCounting limit player
    .ofRun (numberedZone kind access v)
  | .call receiver method name => do
    let v ← evaluateCounting limit receiver
    let zone ← .ofRun (receiverOf name v)
    .ofRun (callOn method zone name)
  | .callWith receiver method name arg => do
    let v ← evaluateCounting limit receiver
    let zone ← .ofRun (receiverOf name v)
    match method with
    | .card m => do
      let given ← evaluateCounting limit arg
      let c ← .ofRun (cardArgument name given)
      .ofRun (applyCard m zone c name.pos)
    | .pile _ => .ofRun (noOverload name 1)

theorem evaluateCounting_restores (limit : Nat) (e : Expr) :
    (evaluateCounting (χ := χ) limit e).Restores fun level => evaluate (some limit) level e := by
  induction e with
  | number token => exact (Counting.restores_ofRun _).node limit _
  | text token => exact (Counting.restores_ofRun _).node limit _
  | boolean token => exact (Counting.restores_ofRun _).node limit _
  | var name => exact (Counting.restores_ofRun _).node limit _
  | step op name operator => exact (Counting.restores_ofRun _).node limit _
  | trigger token => exact (Counting.restores_ofRun _).node limit _
  | zone kind access => exact (Counting.restores_ofRun _).node limit _
  | group inner ih => exact ih.node limit _
  | unary op operator operand ih =>
    exact (ih.bind fun v => Counting.restores_ofRun _).node limit _
  | binary op operator left right ihl ihr =>
    exact (ihl.bind fun a => ihr.bind fun b => Counting.restores_ofRun _).node limit _
  | assign name value ih => exact (ih.bind fun v => Counting.restores_ofRun _).node limit _
  | zoneOf kind player access ih => exact (ih.bind fun v => Counting.restores_ofRun _).node limit _
  | call receiver method name ih =>
    exact (ih.bind fun v => (Counting.restores_ofRun _).bind fun zone =>
      Counting.restores_ofRun _).node limit _
  | callWith receiver method name arg ihr iha =>
    cases method with
    | card m =>
      exact (ihr.bind fun v => (Counting.restores_ofRun _).bind fun zone => iha.bind fun given =>
        (Counting.restores_ofRun _).bind fun c => Counting.restores_ofRun _).node limit _
    | pile m =>
      exact (ihr.bind fun v => (Counting.restores_ofRun _).bind fun zone =>
        Counting.restores_ofRun _).node limit _

theorem evaluateCounting_eq (limit : Nat) (e : Expr) (depth : Nat) (s : Session χ) :
    evaluateCounting limit e depth s = (depth, evaluate (some limit) depth e s) :=
  evaluateCounting_restores limit e depth s

def EvalConfig.run (config : EvalConfig) (e : Expr) : Run χ RuntimeError Value :=
  (evaluateCounting config.maxDepth e).atLevel 0

theorem EvalConfig.run_eq (config : EvalConfig) (e : Expr) :
    config.run (χ := χ) e = evaluate (some config.maxDepth) 0 e :=
  congrFun (evaluateCounting_restores config.maxDepth e).atLevel_eq 0

def evaluateEach (limit : Nat) : List Expr → Nat → Session χ → List (Outcome χ RuntimeError Value)
  | [], _, _ => []
  | e :: rest, depth, s =>
    match evaluateCounting limit e depth s with
    | (depth, o) => o :: evaluateEach limit rest depth o.session

def EvalConfig.runEach (config : EvalConfig) (es : List Expr) (s : Session χ) :
    List (Outcome χ RuntimeError Value) :=
  evaluateEach config.maxDepth es 0 s

theorem EvalConfig.runEach_cons (config : EvalConfig) (e : Expr) (rest : List Expr)
    (s : Session χ) :
    config.runEach (e :: rest) s =
      config.run e s :: config.runEach rest (config.run e s).session := by
  simp only [EvalConfig.runEach, evaluateEach, evaluateCounting_eq, EvalConfig.run_eq]

end CardEffects
