/-!
# Tokens

A word of a script with the place where it stands.
-/

namespace CardEffects

/-- A place in the text of a script; both counts start at one, and `0:0` stands for no place. -/
structure SourcePos where
  line : UInt32
  column : UInt32
  deriving DecidableEq, Repr

namespace SourcePos

def zero : SourcePos := ⟨0, 0⟩

def label (p : SourcePos) : String := toString p.line ++ ":" ++ toString p.column

end SourcePos

structure Token where
  lexeme : String
  pos : SourcePos
  deriving DecidableEq, Repr

def Token.synthetic (lexeme : String) : Token := ⟨lexeme, .zero⟩

end CardEffects
