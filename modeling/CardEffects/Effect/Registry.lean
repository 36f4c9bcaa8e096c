import CardEffects.Effect.Script
import CardEffects.Lang.Evaluator

/-!
# The effect registry

Effect scripts by name. An invocation runs the expressions of the script one after another in an
environment of its own; the first that fails ends it, and what was done until then stays done.
-/

namespace CardEffects

structure EffectRegistry where
  scripts : Std.TreeMap String EffectScript
  config : EvalConfig

namespace EffectRegistry

def empty : EffectRegistry := ⟨∅, .default⟩

def withConfig (r : EffectRegistry) (config : EvalConfig) : EffectRegistry := { r with config }

def get? (r : EffectRegistry) (name : String) : Option EffectScript := r.scripts[name]?

def register (r : EffectRegistry) (script : EffectScript) : Option EffectScript × EffectRegistry :=
  (r.get? script.name, { r with scripts := r.scripts.insert script.name script })

def contains (r : EffectRegistry) (name : String) : Bool := r.scripts.contains name

def size (r : EffectRegistry) : Nat := r.scripts.size

def isEmpty (r : EffectRegistry) : Bool := r.scripts.isEmpty

def names (r : EffectRegistry) : List String := r.scripts.keys

theorem get?_empty (name : String) : empty.get? name = none := by
  simp [get?, empty]

theorem get?_register (r : EffectRegistry) (script : EffectScript) (name : String) :
    (r.register script).2.get? name = if script.name = name then some script else r.get? name := by
  simp [get?, register, Std.TreeMap.getElem?_insert]

variable {χ : Type} [ScriptContext χ]

def runBody (config : EvalConfig) (effect : String) :
    Value → List Expr → Counting χ EffectError Value
  | last, [] => return last
  | _, e :: rest => do
    let v ← (evaluateCounting config.maxDepth e).onFailure (.effectAborted effect) (.aborted effect)
    runBody config effect v rest

def runScript (config : EvalConfig) (effect : String) (body : List Expr) :
    Run χ EffectError Value := do
  Run.emit (.effectInvoked effect body.length)
  let v ← (runBody config effect .null body).atLevel 0
  Run.emit (.effectFinished effect v)
  return v

def invoke (r : EffectRegistry) (name : String) (vars : Environment) (context : χ) :
    Outcome χ EffectError Value :=
  match r.get? name with
  | some script => runScript r.config name script.body ⟨vars, context⟩
  | none => Run.fail (.unknown name) ⟨vars, context⟩

theorem runBody_restores (config : EvalConfig) (effect : String) (last : Value) (body : List Expr) :
    (runBody (χ := χ) config effect last body).Restores
      (runBody config effect last body).atLevel := by
  induction body generalizing last with
  | nil => exact Counting.restores_pure last
  | cons e rest ih =>
    exact (((evaluateCounting_restores config.maxDepth e).onFailure _ _).bind ih).self

theorem runBody_cons (config : EvalConfig) (effect : String) (last : Value) (e : Expr)
    (rest : List Expr) :
    (runBody (χ := χ) config effect last (e :: rest)).atLevel 0 =
      (config.run e).onFailure (.effectAborted effect) (.aborted effect) >>= fun v =>
        (runBody config effect v rest).atLevel 0 := by
  have h := ((evaluateCounting_restores (χ := χ) config.maxDepth e).onFailure
    (.effectAborted effect) (.aborted effect)).bind fun v => runBody_restores config effect v rest
  rw [EvalConfig.run_eq]
  exact congrFun h.atLevel_eq 0

end EffectRegistry

end CardEffects
