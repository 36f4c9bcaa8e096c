import CardEffects.Json.Basic
import CardEffects.Number.Numeral

/-!
# Writing JSON

One line of ASCII without spaces; any other character is written as its UTF-16 units.
-/

namespace CardEffects.Json

def hexDigit (n : Nat) : Char := Nat.digitChar (n % 16)

def escapedUnit (n : Nat) : List Char :=
  ['\\', 'u', hexDigit (n / 4096), hexDigit (n / 256), hexDigit (n / 16), hexDigit n]

def escaped (c : Char) : List Char :=
  let n := c.toNat
  if c = '"' ∨ c = '\\' then ['\\', c]
  else if 0x20 ≤ n ∧ n < 0x7F then [c]
  else if n < 0x10000 then escapedUnit n
  else escapedUnit (0xD800 + (n - 0x10000) / 0x400) ++ escapedUnit (0xDC00 + (n - 0x10000) % 0x400)

def quoted (s : String) : String := String.ofList ('"' :: s.toList.flatMap escaped ++ ['"'])

def floatText (x : Float) : String := if x.isFinite then Number.numeral x else "null"

mutual

def writeTo (out : String) : Json → String
  | null => out ++ "null"
  | bool b => out ++ if b then "true" else "false"
  | int n => out ++ toString n
  | float x => out ++ floatText x
  | str s => out ++ quoted s
  | arr items => writeItems (out.push '[') true items |>.push ']'
  | obj fields => writeFields (out.push '\x7b') true fields |>.push '\x7d'

def writeItems (out : String) (first : Bool) : List Json → String
  | [] => out
  | j :: rest => writeItems (writeTo (if first then out else out.push ',') j) false rest

def writeFields (out : String) (first : Bool) : List (String × Json) → String
  | [] => out
  | (name, j) :: rest =>
    writeFields (writeTo ((if first then out else out.push ',') ++ quoted name |>.push ':') j)
      false rest

end

def write (j : Json) : String := writeTo "" j

end CardEffects.Json
