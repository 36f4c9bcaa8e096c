import CardEffects.Json.Basic
import CardEffects.Lang.Expr

/-!
# Stored expressions

Expressions as JSON values. A node is an object with one field, named for the kind of node; its
value holds the parts of the node under their names. All parts are written, and those that may be
missing are written as null. When a node is read, fields beyond its own are passed over. Tokens and
places are records, and may be read from lists as well.
-/

namespace CardEffects

open Json (field? part? optional? ofUInt32)

def SourcePos.toJson (p : SourcePos) : Json :=
  .obj [("line", ofUInt32 p.line), ("column", ofUInt32 p.column)]

def SourcePos.ofJson? (j : Json) : Option SourcePos := do
  let record ← j.record? ["line", "column"]
  let line ← (← record.field? "line").uint32?
  let column ← (← record.field? "column").uint32?
  return ⟨line, column⟩

def Token.toJson (t : Token) : Json := .obj [("lexeme", .str t.lexeme), ("pos", t.pos.toJson)]

def Token.ofJson? (j : Json) : Option Token := do
  let record ← j.record? ["lexeme", "pos"]
  let lexeme ← (← record.field? "lexeme").str?
  match record.field? "pos" with
  | some pos => return ⟨lexeme, ← SourcePos.ofJson? pos⟩
  | none => return ⟨lexeme, .zero⟩

/-- A literal whose token is missing is written as null; the null may not be left out. -/
def literalOfJson? (j : Json) : Option (Option Token) := optional? Token.ofJson? (some j)

def BinaryOp.ofJson? (j : Json) : Option BinaryOp := j.name? >>= ofName?

def UnaryOp.ofJson? (j : Json) : Option UnaryOp := j.name? >>= ofName?

def StepOp.ofJson? (j : Json) : Option StepOp := j.name? >>= ofName?

def ListMethod.ofJson? (j : Json) : Option ListMethod := j.name? >>= ofName?

def ZoneKind.ofJson? (j : Json) : Option ZoneKind := j.name? >>= ofName?

namespace Expr

def toJson : Expr → Json
  | number literal => .obj [("Number", .ofOption Token.toJson literal)]
  | text literal => .obj [("Text", .ofOption Token.toJson literal)]
  | boolean literal => .obj [("Boolean", .ofOption Token.toJson literal)]
  | var name => .obj [("Variable", name.toJson)]
  | group inner => .obj [("Group", inner.toJson)]
  | unary op operator operand =>
    .obj [("Unary", .obj
      [("op", .str op.name), ("operator", operator.toJson), ("operand", operand.toJson)])]
  | binary op operator left right =>
    .obj [("Binary", .obj
      [("op", .str op.name), ("operator", operator.toJson), ("left", left.toJson),
        ("right", right.toJson)])]
  | assign name value => .obj [("Assign", .obj [("name", name.toJson), ("value", value.toJson)])]
  | step op name operator =>
    .obj [("Step", .obj
      [("op", .str op.name), ("name", name.toJson), ("operator", operator.toJson)])]
  | trigger token => .obj [("TriggerPlayer", token.toJson)]
  | zone kind access =>
    .obj [("ZoneAccess", .obj
      [("zone", .str kind.name), ("player", .null), ("access", access.toJson)])]
  | zoneOf kind player access =>
    .obj [("ZoneAccess", .obj
      [("zone", .str kind.name), ("player", player.toJson), ("access", access.toJson)])]
  | call receiver method name =>
    .obj [("MethodCall", .obj
      [("receiver", receiver.toJson), ("method", .str method.name), ("name", name.toJson),
        ("arg", .null)])]
  | callWith receiver method name arg =>
    .obj [("MethodCall", .obj
      [("receiver", receiver.toJson), ("method", .str method.name), ("name", name.toJson),
        ("arg", arg.toJson)])]

def ofJson? (j : Json) : Option Expr :=
  match j with
  | .obj [("Number", body)] => number <$> literalOfJson? body
  | .obj [("Text", body)] => text <$> literalOfJson? body
  | .obj [("Boolean", body)] => boolean <$> literalOfJson? body
  | .obj [("Variable", body)] => var <$> Token.ofJson? body
  | .obj [("Group", body)] => group <$> ofJson? body
  | .obj [("Unary", body)] => do
    let op ← UnaryOp.ofJson? (← body.field? "op")
    let operator ← Token.ofJson? (← body.field? "operator")
    let ⟨operand, _⟩ ← body.part? "operand"
    return unary op operator (← ofJson? operand)
  | .obj [("Binary", body)] => do
    let op ← BinaryOp.ofJson? (← body.field? "op")
    let operator ← Token.ofJson? (← body.field? "operator")
    let ⟨left, _⟩ ← body.part? "left"
    let ⟨right, _⟩ ← body.part? "right"
    return binary op operator (← ofJson? left) (← ofJson? right)
  | .obj [("Assign", body)] => do
    let name ← Token.ofJson? (← body.field? "name")
    let ⟨value, _⟩ ← body.part? "value"
    return assign name (← ofJson? value)
  | .obj [("Step", body)] => do
    let op ← StepOp.ofJson? (← body.field? "op")
    let name ← Token.ofJson? (← body.field? "name")
    let operator ← Token.ofJson? (← body.field? "operator")
    return step op name operator
  | .obj [("TriggerPlayer", body)] => trigger <$> Token.ofJson? body
  | .obj [("ZoneAccess", body)] => do
    let kind ← ZoneKind.ofJson? (← body.field? "zone")
    let access ← Token.ofJson? (← body.field? "access")
    match body.part? "player" with
    | none | some ⟨.null, _⟩ => return zone kind access
    | some ⟨player, _⟩ => return zoneOf kind (← ofJson? player) access
  | .obj [("MethodCall", body)] => do
    let ⟨receiver, _⟩ ← body.part? "receiver"
    let receiver ← ofJson? receiver
    let method ← ListMethod.ofJson? (← body.field? "method")
    let name ← Token.ofJson? (← body.field? "name")
    match body.part? "arg" with
    | none | some ⟨.null, _⟩ => return call receiver method name
    | some ⟨arg, _⟩ => return callWith receiver method name (← ofJson? arg)
  | _ => none
termination_by sizeOf j

end Expr

end CardEffects
