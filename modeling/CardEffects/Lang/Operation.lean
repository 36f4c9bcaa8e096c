import CardEffects.Lang.Context
import CardEffects.Lang.Expr
import CardEffects.Lang.Failure
import CardEffects.Lang.Value

/-!
# Operations

The values of literals and the results of operators, apart from any run. Each operator but equality
takes operands of one kind; equality compares any two values and looks at the cards of two lists.
-/

namespace CardEffects

def unquoted (cs : List Char) : List Char :=
  match cs with
  | '"' :: rest => if rest.getLast? = some '"' then rest.dropLast else cs
  | _ => cs

def numberLiteral (lexeme : String) : Except Cause Value :=
  match Number.read? (Text.trimmed lexeme.toList) with
  | some x => .ok (.number x)
  | none => .error (.badNumber lexeme)

def textLiteral (lexeme : String) : Value := .text (String.ofList (unquoted lexeme.toList))

def booleanLiteral (lexeme : String) : Except Cause Value :=
  let word := Text.trimmed lexeme.toList
  if Text.sameIgnoringCase word "true".toList then .ok (.boolean true)
  else if Text.sameIgnoringCase word "false".toList then .ok (.boolean false)
  else .error (.badBoolean lexeme)

def UnaryOp.apply : UnaryOp → Value → Except Cause Value
  | not, .boolean b => .ok (.boolean !b)
  | not, _ => .error (.operand .boolean)
  | negate, .number x => .ok (.number (-x))
  | negate, _ => .error (.operand .numeric)

def onBooleans (f : Bool → Bool → Bool) : Value → Value → Except Cause Value
  | .boolean a, .boolean b => .ok (.boolean (f a b))
  | _, _ => .error (.operands .boolean)

def onTexts (f : String → String → String) : Value → Value → Except Cause Value
  | .text s, .text t => .ok (.text (f s t))
  | _, _ => .error (.operands .string)

def comparing (f : Float → Float → Bool) : Value → Value → Except Cause Value
  | .number x, .number y => .ok (.boolean (f x y))
  | _, _ => .error (.operands .numeric)

def onNumbers (f : Float → Float → Float) : Value → Value → Except Cause Value
  | .number x, .number y => .ok (.number (f x y))
  | _, _ => .error (.operands .numeric)

def knownCards (cards? : ZoneHandle → Option (List CardId)) (zone : ZoneHandle) :
    Except Cause (List CardId) :=
  match cards? zone with
  | some cards => .ok cards
  | none => .error (.unknownZone zone)

/-- Equality in scripts: any NaN equals any other, and card lists are equal that hold the same cards
in the same order. -/
def Value.equal (cards? : ZoneHandle → Option (List CardId)) : Value → Value → Except Cause Bool
  | .number x, .number y => .ok (x == y || (x.isNaN && y.isNaN))
  | .cardList y, .cardList z => do
    let left ← knownCards cards? y
    let right ← knownCards cards? z
    return left == right
  | a, b => .ok (a.same b)

def BinaryOp.apply (cards? : ZoneHandle → Option (List CardId)) (op : BinaryOp) (a b : Value) :
    Except Cause Value :=
  match op with
  | and => onBooleans (· && ·) a b
  | or => onBooleans (· || ·) a b
  | equal => (Value.equal cards? a b).map Value.boolean
  | notEqual => (Value.equal cards? a b).map fun same => .boolean !same
  | concat => onTexts (· ++ ·) a b
  | concatSpaced => onTexts (fun s t => s ++ " " ++ t) a b
  | greater => comparing (fun x y => x > y) a b
  | greaterEqual => comparing (fun x y => x ≥ y) a b
  | less => comparing (fun x y => x < y) a b
  | lessEqual => comparing (fun x y => x ≤ y) a b
  | add => onNumbers (· + ·) a b
  | subtract => onNumbers (· - ·) a b
  | multiply => onNumbers (· * ·) a b
  | divide => onNumbers (· / ·) a b
  | power => onNumbers Float.pow a b

end CardEffects
