import CardEffects.Lang.Expr
import CardEffects.Lang.Method
import CardEffects.Lang.Operation

/-!
# Evaluation

The run of an expression. Operands are run from left to right and always both; the receiver of a
method is checked before its argument is run. `level` is the number of nodes above the expression,
and no node is entered below as many as `limit`.
-/

namespace CardEffects

namespace Run

variable {χ : Type} [ScriptContext χ]

def checkLevel (limit : Option Nat) (level : Nat) (pos : SourcePos) : Run χ RuntimeError Unit :=
  match limit with
  | some limit => if limit ≤ level then fail ⟨.tooDeep limit, pos⟩ else pure ()
  | none => pure ()

def variableOf (name : Token) : Run χ RuntimeError Value := do
  match (← getEnv).lookup? name.lexeme with
  | some v => return v
  | none => fail ⟨.undefined name.lexeme, name.pos⟩

/-- Null is not stored: it leaves the variable as it was. -/
def assignTo (name : Token) (v : Value) : Run χ RuntimeError Value := do
  unless v.isNull do assign name.lexeme v
  return v

def stepOn (op : StepOp) (name operator : Token) : Run χ RuntimeError Value := do
  match ← variableOf name with
  | .number old =>
    assign name.lexeme (.number (old + op.delta))
    return .number (if op.isBefore then old + op.delta else old)
  | _ => fail ⟨.operand .numeric, operator.pos⟩

def triggerPlayer : Run χ RuntimeError Value := do
  return .number (ScriptContext.activePlayer (← getContext)).number.toFloat

def activeZone (kind : ZoneKind) : Run χ RuntimeError Value := do
  let context ← getContext
  return .cardList
    (← ofContext (ScriptContext.zone context kind (ScriptContext.activePlayer context)))

def numberedZone (kind : ZoneKind) (access : Token) (player : Value) :
    Run χ RuntimeError Value := do
  match player with
  | .number x =>
    let context ← getContext
    match ScriptContext.player? context (Number.toInt64 x) with
    | some p => return .cardList (← ofContext (ScriptContext.zone context kind p))
    | none => fail ⟨.noSuchPlayer (Number.toInt64 x), access.pos⟩
  | v =>
    emit (.playerRejected kind v.kind)
    fail ⟨.playerNotANumber, access.pos⟩

def receiverOf (name : Token) (receiver : Value) : Run χ RuntimeError ZoneHandle := do
  match receiver with
  | .cardList zone =>
    let _ ← cardsOf zone name.pos
    return zone
  | v =>
    emit (.receiverRejected name.lexeme v.kind)
    fail ⟨.receiverNotAList name.lexeme, name.pos⟩

def cardArgument (name : Token) (arg : Value) : Run χ RuntimeError CardId := do
  match arg with
  | .card c => return c
  | v =>
    emit (.argumentRejected v.kind)
    fail ⟨.argumentNotACard, name.pos⟩

def noOverload (name : Token) (given : Nat) : Run χ RuntimeError Value :=
  fail ⟨.noOverload name.lexeme given, name.pos⟩

def callOn (method : ListMethod) (zone : ZoneHandle) (name : Token) : Run χ RuntimeError Value :=
  match method with
  | .pile m => applyPile m zone name.pos
  | .card _ => noOverload name 0

def literal (token : Option Token) (read : String → Except Cause Value) :
    Run χ RuntimeError Value :=
  match token with
  | some token => located token.pos (read token.lexeme)
  | none => pure .null

def applyBinary (op : BinaryOp) (operator : Token) (a b : Value) : Run χ RuntimeError Value := do
  located operator.pos (op.apply (ScriptContext.cards? (← getContext)) a b)

end Run

open Run

variable {χ : Type} [ScriptContext χ]

def evaluate (limit : Option Nat) (level : Nat) (e : Expr) : Run χ RuntimeError Value := do
  checkLevel limit level e.pos
  match e with
  | .number token => literal token numberLiteral
  | .text token => literal token fun lexeme => .ok (textLiteral lexeme)
  | .boolean token => literal token booleanLiteral
  | .var name => variableOf name
  | .group inner => evaluate limit (level + 1) inner
  | .unary op operator operand => do
    let v ← evaluate limit (level + 1) operand
    located operator.pos (op.apply v)
  | .binary op operator left right => do
    let a ← evaluate limit (level + 1) left
    let b ← evaluate limit (level + 1) right
    applyBinary op operator a b
  | .assign name value => do
    let v ← evaluate limit (level + 1) value
    assignTo name v
  | .step op name operator => stepOn op name operator
  | .trigger _ => triggerPlayer
  | .zone kind _ => activeZone kind
  | .zoneOf kind player access => do
    let v ← evaluate limit (level + 1) player
    numberedZone kind access v
  | .call receiver method name => do
    let v ← evaluate limit (level + 1) receiver
    let zone ← receiverOf name v
    callOn method zone name
  | .callWith receiver method name arg => do
    let v ← evaluate limit (level + 1) receiver
    let zone ← receiverOf name v
    match method with
    | .card m => do
      let given ← evaluate limit (level + 1) arg
      let c ← cardArgument name given
      applyCard m zone c name.pos
    | .pile _ => noOverload name 1

end CardEffects
