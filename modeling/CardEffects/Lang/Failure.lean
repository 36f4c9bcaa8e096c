import CardEffects.Lang.Token
import CardEffects.Match.Zone

/-!
# Failures of scripts

Why an expression has no value. A failure is a cause with the place of the token to blame; its
wording follows from the cause.
-/

namespace CardEffects

inductive ErrorKind where
  | typeMismatch
  | undefinedVariable
  | invalidArgument
  | arityMismatch
  | notAList
  | unknownPlayer
  | invalidLiteral
  | depthExceeded
  deriving DecidableEq, Repr

def ErrorKind.name : ErrorKind → String
  | typeMismatch => "TypeMismatch"
  | undefinedVariable => "UndefinedVariable"
  | invalidArgument => "InvalidArgument"
  | arityMismatch => "ArityMismatch"
  | notAList => "NotAList"
  | unknownPlayer => "UnknownPlayer"
  | invalidLiteral => "InvalidLiteral"
  | depthExceeded => "DepthExceeded"

inductive OperandKind where
  | boolean
  | string
  | numeric
  deriving DecidableEq, Repr

def OperandKind.adjective : OperandKind → String
  | boolean => "boolean"
  | string => "string"
  | numeric => "numeric"

inductive Cause where
  | operand (wanted : OperandKind)
  | operands (wanted : OperandKind)
  | undefined (name : String)
  | playerNotANumber
  | argumentNotACard
  | unknownZone (zone : ZoneHandle)
  | noOverload (method : String) (given : Nat)
  | receiverNotAList (method : String)
  | noSuchPlayer (number : Int)
  | badNumber (lexeme : String)
  | badBoolean (lexeme : String)
  | tooDeep (limit : Nat)
  deriving DecidableEq, Repr

namespace Cause

def kind : Cause → ErrorKind
  | operand _ | operands _ => .typeMismatch
  | undefined _ => .undefinedVariable
  | playerNotANumber | argumentNotACard | unknownZone _ => .invalidArgument
  | noOverload _ _ => .arityMismatch
  | receiverNotAList _ => .notAList
  | noSuchPlayer _ => .unknownPlayer
  | badNumber _ | badBoolean _ => .invalidLiteral
  | tooDeep _ => .depthExceeded

def message : Cause → String
  | operand wanted => "The operand must be a " ++ wanted.adjective ++ " value"
  | operands wanted => "The operands must be " ++ wanted.adjective ++ " values"
  | undefined name => "Undefined variable '" ++ name ++ "'"
  | playerNotANumber => "Expect a numeric value as player ID"
  | argumentNotACard => "Expect a card as method argument"
  | unknownZone zone => "Unknown zone handle " ++ zone.label
  | noOverload method given =>
    "No overload for method '" ++ method ++ "' takes " ++ toString given ++ " arguments"
  | receiverNotAList method => "The method '" ++ method ++ "' is only accessible from card lists"
  | noSuchPlayer number => "No player with ID " ++ toString number
  | badNumber lexeme => "Invalid numeric literal '" ++ lexeme ++ "'"
  | badBoolean lexeme => "Invalid boolean literal '" ++ lexeme ++ "'"
  | tooDeep limit => "Expression nesting exceeds " ++ toString limit ++ " levels"

end Cause

structure RuntimeError where
  cause : Cause
  pos : SourcePos
  deriving DecidableEq, Repr

def RuntimeError.label (e : RuntimeError) : String :=
  "[" ++ e.pos.label ++ "] " ++ e.cause.message

end CardEffects
