import CardEffects.Lang.Value
import Std.Data.TreeMap

/-!
# Environments

The variables of a script, by name. There is one scope: to assign to a new name makes it.
-/

namespace CardEffects

structure Environment where
  bindings : Std.TreeMap String Value

namespace Environment

def empty : Environment := ⟨∅⟩

def lookup? (env : Environment) (name : String) : Option Value := env.bindings[name]?

def assign (env : Environment) (name : String) (v : Value) : Environment :=
  ⟨env.bindings.insert name v⟩

def contains (env : Environment) (name : String) : Bool := env.bindings.contains name

def size (env : Environment) : Nat := env.bindings.size

def isEmpty (env : Environment) : Bool := env.bindings.isEmpty

def toList (env : Environment) : List (String × Value) := env.bindings.toList

theorem lookup?_empty (name : String) : empty.lookup? name = none := by
  simp [lookup?, empty]

theorem lookup?_assign (env : Environment) (name other : String) (v : Value) :
    (env.assign name v).lookup? other = if name = other then some v else env.lookup? other := by
  simp [lookup?, assign, Std.TreeMap.getElem?_insert]

end Environment

end CardEffects
