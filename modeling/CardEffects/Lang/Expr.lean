import CardEffects.Lang.Operator
import CardEffects.Lang.Token
import CardEffects.Match.Zone

/-!
# Expressions

The syntax trees of card effects. Besides what a node means it carries the tokens it was read from;
a literal whose token is missing stands for a gap that the reader of the script left.
-/

namespace CardEffects

inductive Expr where
  | number (literal : Option Token)
  | text (literal : Option Token)
  | boolean (literal : Option Token)
  | var (name : Token)
  | group (inner : Expr)
  | unary (op : UnaryOp) (operator : Token) (operand : Expr)
  | binary (op : BinaryOp) (operator : Token) (left right : Expr)
  | assign (name : Token) (value : Expr)
  | step (op : StepOp) (name operator : Token)
  | trigger (token : Token)
  | zone (kind : ZoneKind) (access : Token)
  | zoneOf (kind : ZoneKind) (player : Expr) (access : Token)
  | call (receiver : Expr) (method : ListMethod) (name : Token)
  | callWith (receiver : Expr) (method : ListMethod) (name : Token) (arg : Expr)
  deriving DecidableEq, Repr

namespace Expr

def pos : Expr → SourcePos
  | number literal | text literal | boolean literal => (literal.map (·.pos)).getD .zero
  | var name => name.pos
  | group inner => inner.pos
  | unary _ operator _ | binary _ operator _ _ | step _ _ operator => operator.pos
  | assign name _ => name.pos
  | trigger token => token.pos
  | zone _ access | zoneOf _ _ access => access.pos
  | call _ _ name | callWith _ _ name _ => name.pos

def literalText (literal : Option Token) : String := (literal.map (·.lexeme)).getD "<missing>"

def script : Expr → String
  | number literal | text literal | boolean literal => literalText literal
  | var name => name.lexeme
  | group inner => "(" ++ inner.script ++ ")"
  | unary op _ operand => op.symbol ++ operand.script
  | binary op _ left right => "(" ++ left.script ++ " " ++ op.symbol ++ " " ++ right.script ++ ")"
  | assign name value => name.lexeme ++ " = " ++ value.script
  | step op name _ => if op.isBefore then op.symbol ++ name.lexeme else name.lexeme ++ op.symbol
  | trigger _ => "TriggerPlayer"
  | zone kind _ => kind.name
  | zoneOf kind player _ => kind.name ++ "OfPlayer(" ++ player.script ++ ")"
  | call receiver method _ => receiver.script ++ "." ++ method.name ++ "()"
  | callWith receiver method _ arg =>
    receiver.script ++ "." ++ method.name ++ "(" ++ arg.script ++ ")"

def ofNumber (lexeme : String) : Expr := number (some (.synthetic lexeme))

def ofText (lexeme : String) : Expr := text (some (.synthetic lexeme))

def ofBool (b : Bool) : Expr := boolean (some (.synthetic (if b then "true" else "false")))

def ofVar (name : String) : Expr := var (.synthetic name)

def ofUnary (op : UnaryOp) (operand : Expr) : Expr := unary op (.synthetic op.symbol) operand

def ofBinary (op : BinaryOp) (left right : Expr) : Expr :=
  binary op (.synthetic op.symbol) left right

def ofAssign (name : String) (value : Expr) : Expr := assign (.synthetic name) value

def ofStep (op : StepOp) (name : String) : Expr := step op (.synthetic name) (.synthetic op.symbol)

def ofTrigger : Expr := trigger (.synthetic "TriggerPlayer")

def ofZone (kind : ZoneKind) : Expr := zone kind (.synthetic kind.name)

def ofZoneOf (kind : ZoneKind) (player : Expr) : Expr :=
  zoneOf kind player (.synthetic (kind.name ++ "OfPlayer"))

def ofCall (receiver : Expr) (method : ListMethod) : Expr :=
  call receiver method (.synthetic method.name)

def ofCallWith (receiver : Expr) (method : ListMethod) (arg : Expr) : Expr :=
  callWith receiver method (.synthetic method.name) arg

end Expr

end CardEffects
