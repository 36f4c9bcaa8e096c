/-!
# Operators and methods

The operators of the script language and the methods of its card lists, with their spellings in
scripts (`symbol`) and the names under which they are stored (`name`).
-/

namespace CardEffects

inductive BinaryOp where
  | and
  | or
  | equal
  | notEqual
  | concat
  | concatSpaced
  | greater
  | greaterEqual
  | less
  | lessEqual
  | add
  | subtract
  | multiply
  | divide
  | power
  deriving DecidableEq, Repr

namespace BinaryOp

def symbol : BinaryOp → String
  | and => "&&"
  | or => "||"
  | equal => "=="
  | notEqual => "!="
  | concat => "@"
  | concatSpaced => "@@"
  | greater => ">"
  | greaterEqual => ">="
  | less => "<"
  | lessEqual => "<="
  | add => "+"
  | subtract => "-"
  | multiply => "*"
  | divide => "/"
  | power => "^"

def name : BinaryOp → String
  | and => "And"
  | or => "Or"
  | equal => "Equal"
  | notEqual => "NotEqual"
  | concat => "Concat"
  | concatSpaced => "ConcatSpaced"
  | greater => "Greater"
  | greaterEqual => "GreaterEqual"
  | less => "Less"
  | lessEqual => "LessEqual"
  | add => "Add"
  | subtract => "Subtract"
  | multiply => "Multiply"
  | divide => "Divide"
  | power => "Power"

def all : List BinaryOp :=
  [and, or, equal, notEqual, concat, concatSpaced, greater, greaterEqual, less, lessEqual, add,
    subtract, multiply, divide, power]

def ofName? (name : String) : Option BinaryOp := all.find? (·.name == name)

theorem ofName?_name (op : BinaryOp) : ofName? op.name = some op := by cases op <;> decide

end BinaryOp

inductive UnaryOp where
  | not
  | negate
  deriving DecidableEq, Repr

namespace UnaryOp

def symbol : UnaryOp → String
  | not => "!"
  | negate => "-"

def name : UnaryOp → String
  | not => "Not"
  | negate => "Negate"

def all : List UnaryOp := [not, negate]

def ofName? (name : String) : Option UnaryOp := all.find? (·.name == name)

theorem ofName?_name (op : UnaryOp) : ofName? op.name = some op := by cases op <;> decide

end UnaryOp

inductive StepOp where
  | preIncrement
  | preDecrement
  | postIncrement
  | postDecrement
  deriving DecidableEq, Repr

namespace StepOp

def delta : StepOp → Float
  | preIncrement | postIncrement => 1
  | preDecrement | postDecrement => -1

/-- The forms written before the variable yield its new value, the others its old one. -/
def isBefore : StepOp → Bool
  | preIncrement | preDecrement => true
  | postIncrement | postDecrement => false

def symbol : StepOp → String
  | preIncrement | postIncrement => "++"
  | preDecrement | postDecrement => "--"

def name : StepOp → String
  | preIncrement => "PreIncrement"
  | preDecrement => "PreDecrement"
  | postIncrement => "PostIncrement"
  | postDecrement => "PostDecrement"

def all : List StepOp := [preIncrement, preDecrement, postIncrement, postDecrement]

def ofName? (name : String) : Option StepOp := all.find? (·.name == name)

theorem ofName?_name (op : StepOp) : ofName? op.name = some op := by cases op <;> decide

end StepOp

inductive CardMethod where
  | push
  | sendBottom
  | remove
  deriving DecidableEq, Repr

inductive PileMethod where
  | pop
  | shuffle
  deriving DecidableEq, Repr

inductive ListMethod where
  | card (m : CardMethod)
  | pile (m : PileMethod)
  deriving DecidableEq, Repr

namespace ListMethod

def name : ListMethod → String
  | card .push => "Push"
  | card .sendBottom => "SendBottom"
  | pile .pop => "Pop"
  | card .remove => "Remove"
  | pile .shuffle => "Shuffle"

def takesCard : ListMethod → Bool
  | card _ => true
  | pile _ => false

def all : List ListMethod := [card .push, card .sendBottom, pile .pop, card .remove, pile .shuffle]

def ofName? (name : String) : Option ListMethod := all.find? (·.name == name)

theorem ofName?_name (m : ListMethod) : ofName? m.name = some m := by
  rcases m with m | m <;> cases m <;> decide

end ListMethod

end CardEffects
