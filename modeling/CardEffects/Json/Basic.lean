import CardEffects.Number.Dyadic

/-!
# JSON values

The data format in which scripts, zones and configurations are stored. An integer that fits a word
of 64 bits is kept as one, any other number as a double. Of two fields of one name the first counts.

A record is an object, its fields found by name, or the list of its fields in the order of their
names.
-/

namespace CardEffects

inductive Json where
  | null
  | bool (b : Bool)
  | int (n : Int)
  | float (x : Float)
  | str (s : String)
  | arr (items : List Json)
  | obj (fields : List (String × Json))

namespace Json

def field? (j : Json) (name : String) : Option Json :=
  match j with
  | obj fields => fields.lookup name
  | _ => none

theorem sizeOf_lookup_lt {fields : List (String × Json)} {name : String} {v : Json}
    (h : fields.lookup name = some v) : sizeOf v < sizeOf fields := by
  induction fields with
  | nil => cases h
  | cons entry rest ih =>
    obtain ⟨key, value⟩ := entry
    simp only [List.lookup_cons] at h
    split at h
    · injection h with h
      subst h
      simp only [List.cons.sizeOf_spec, Prod.mk.sizeOf_spec]
      omega
    · have := ih h
      simp only [List.cons.sizeOf_spec]
      omega

theorem sizeOf_field?_lt {j v : Json} {name : String} (h : j.field? name = some v) :
    sizeOf v < sizeOf j := by
  cases j <;> simp only [field?, reduceCtorEq] at h
  have := sizeOf_lookup_lt h
  simp only [obj.sizeOf_spec]
  omega

/-- A field with the fact that it is smaller than the whole, for decoders that call themselves. -/
def part? (j : Json) (name : String) : Option { v : Json // sizeOf v < sizeOf j } :=
  match h : j.field? name with
  | some v => some ⟨v, sizeOf_field?_lt h⟩
  | none => none

/-- The object that a value stands for where a record with fields of these names is wanted. A list
may end early, and lacks the fields of the remaining names; it may not go on after the last. -/
def record? (names : List String) : Json → Option Json
  | obj fields => some (obj fields)
  | arr items => if items.length ≤ names.length then some (obj (names.zip items)) else none
  | _ => none

/-- A bare name: a string, or an object whose only field has that name and is null. -/
def name? : Json → Option String
  | str s => some s
  | obj [(s, null)] => some s
  | _ => none

theorem record?_obj (names : List String) (fields : List (String × Json)) :
    (obj fields).record? names = some (obj fields) := rfl

def str? : Json → Option String
  | str s => some s
  | _ => none

def bool? : Json → Option Bool
  | bool b => some b
  | _ => none

def arr? : Json → Option (List Json)
  | arr items => some items
  | _ => none

def natBelow? (bound : Nat) : Json → Option Nat
  | int (.ofNat n) => if n < bound then some n else none
  | _ => none

def uint8? (j : Json) : Option UInt8 := (j.natBelow? UInt8.size).map UInt8.ofNat

def uint32? (j : Json) : Option UInt32 := (j.natBelow? UInt32.size).map UInt32.ofNat

def uint64? (j : Json) : Option UInt64 := (j.natBelow? UInt64.size).map UInt64.ofNat

def int64? : Json → Option Int64
  | int n => if Number.least64 ≤ n ∧ n ≤ Number.greatest64 then some (Int64.ofInt n) else none
  | _ => none

def number? : Json → Option Float
  | int n => some (Float.ofInt n)
  | float x => some x
  | _ => none

def optional? {α : Type} (read : Json → Option α) : Option Json → Option (Option α)
  | none | some null => some none
  | some j => (read j).map some

def ofOption {α : Type} (write : α → Json) : Option α → Json
  | none => null
  | some a => write a

def ofUInt8 (n : UInt8) : Json := int n.toNat

def ofUInt32 (n : UInt32) : Json := int n.toNat

theorem natBelow?_int {bound n : Nat} (h : n < bound) : (int n).natBelow? bound = some n :=
  if_pos h

theorem uint8?_ofUInt8 (n : UInt8) : (ofUInt8 n).uint8? = some n := by
  unfold ofUInt8 uint8?
  rw [natBelow?_int n.toNat_lt]
  simp

theorem uint32?_ofUInt32 (n : UInt32) : (ofUInt32 n).uint32? = some n := by
  unfold ofUInt32 uint32?
  rw [natBelow?_int n.toNat_lt]
  simp

end Json

end CardEffects
