import CardEffects.Lang.Expr
import CardEffects.Lang.Failure

/-!
# Effect scripts

The body of an effect under its name, and the two ways in which an effect fails.
-/

namespace CardEffects

structure EffectScript where
  name : String
  body : List Expr
  deriving DecidableEq, Repr

inductive EffectError where
  | unknown (effect : String)
  | aborted (effect : String) (error : RuntimeError)
  deriving DecidableEq, Repr

namespace EffectError

def effect : EffectError → String
  | unknown effect | aborted effect _ => effect

def runtimeError? : EffectError → Option RuntimeError
  | unknown _ => none
  | aborted _ error => some error

def message : EffectError → String
  | unknown effect => "Unknown effect '" ++ effect ++ "'"
  | aborted effect error => "Effect '" ++ effect ++ "' aborted: " ++ error.label

end EffectError

end CardEffects
