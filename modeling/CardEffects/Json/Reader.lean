import CardEffects.Json.Basic
import CardEffects.Number.Numeral

/-!
# Reading JSON

A reader takes a value off the front of a text and leaves the rest. Of two fields of one name the
later replaces the earlier.
-/

namespace CardEffects.Json

def isSpace (c : Char) : Bool := c = ' ' || c = '\t' || c = '\n' || c = '\r'

def skipSpace (cs : List Char) : List Char := cs.dropWhile isSpace

def hexValue? (c : Char) : Option Nat :=
  if c.isDigit then some (c.toNat - '0'.toNat)
  else if 'a' ≤ c ∧ c ≤ 'f' then some (c.toNat - 'a'.toNat + 10)
  else if 'A' ≤ c ∧ c ≤ 'F' then some (c.toNat - 'A'.toNat + 10)
  else none

def hexNumber? (cs : List Char) : Option Nat :=
  cs.foldlM (fun n c => (hexValue? c).map (16 * n + ·)) 0

def unescape? : Char → Option Char
  | '"' => some '"'
  | '\\' => some '\\'
  | '/' => some '/'
  | 'b' => some '\x08'
  | 'f' => some '\x0c'
  | 'n' => some '\n'
  | 'r' => some '\r'
  | 't' => some '\t'
  | _ => none

def isHighSurrogate (n : Nat) : Bool := 0xD800 ≤ n && n < 0xDC00

def isLowSurrogate (n : Nat) : Bool := 0xDC00 ≤ n && n < 0xE000

def joinSurrogates (high low : Nat) : Char :=
  Char.ofNat (0x10000 + (high - 0xD800) * 0x400 + (low - 0xDC00))

/-- A UTF-16 unit after the first half of a pair, if there is one: the character that is complete
with it, or the half that waits for the next unit. -/
def takeUnit? (high : Option Nat) (n : Nat) : Option (Option Char × Option Nat) :=
  match high with
  | some high => if isLowSurrogate n then some (some (joinSurrogates high n), none) else none
  | none =>
    if isHighSurrogate n then some (none, some n)
    else if isLowSurrogate n then none
    else some (some (Char.ofNat n), none)

def readChars (high : Option Nat) (done : List Char) : List Char → Option (String × List Char)
  | '\\' :: 'u' :: a :: b :: c :: d :: rest => do
    let (complete, high) ← takeUnit? high (← hexNumber? [a, b, c, d])
    readChars high (complete.toList ++ done) rest
  | '\\' :: c :: rest => do
    if high.isSome then none else readChars none ((← unescape? c) :: done) rest
  | c :: rest =>
    if high.isSome ∨ c.toNat < 0x20 then none
    else if c = '"' then some (String.ofList done.reverse, rest)
    else readChars none (c :: done) rest
  | [] => none

def takeFraction? : List Char → Option (List Char × List Char)
  | '.' :: rest =>
    let digits := rest.takeWhile Char.isDigit
    if digits.isEmpty then none else some (digits, rest.dropWhile Char.isDigit)
  | cs => some ([], cs)

/-- A number without point and exponent is an integer if it fits a word of 64 bits, with a sign or
without; a negative zero does not. -/
def readNumber? (cs : List Char) : Option (Json × List Char) := do
  let (negative, cs) := match cs with
    | '-' :: rest => (true, rest)
    | cs => (false, cs)
  let whole := cs.takeWhile Char.isDigit
  if whole.isEmpty ∨ (1 < whole.length ∧ whole.head? = some '0') then none
  else
    let (fraction, cs) ← takeFraction? (cs.dropWhile Char.isDigit)
    let (exponent, rest) ← Number.takeExponent? cs
    let magnitude := Number.ofDigits whole
    let n : Int := if negative then -magnitude else magnitude
    if fraction.isEmpty ∧ exponent.isNone ∧ Number.least64 ≤ n ∧ n < UInt64.size
        ∧ ¬(negative ∧ magnitude = 0) then
      some (.int n, rest)
    else
      let x := Number.ofDecimal (Number.ofDigits (whole ++ fraction))
        (exponent.getD 0 - fraction.length)
      if x.isFinite then some (.float (if negative then -x else x), rest) else none

def putField (fields : List (String × Json)) (name : String) (v : Json) : List (String × Json) :=
  if fields.any (·.1 == name) then fields.map fun f => if f.1 == name then (name, v) else f
  else fields ++ [(name, v)]

def dropWord? (word : String) (cs : List Char) : Option (List Char) :=
  if word.toList.isPrefixOf cs then some (cs.drop word.length) else none

mutual

def readValue (fuel : Nat) (cs : List Char) : Option (Json × List Char) :=
  match fuel with
  | 0 => none
  | fuel + 1 =>
    match skipSpace cs with
    | '"' :: rest => (readChars none [] rest).map fun (s, rest) => (.str s, rest)
    | '[' :: rest =>
      match skipSpace rest with
      | ']' :: rest => some (.arr [], rest)
      | rest => readItems fuel [] rest
    | '\x7b' :: rest =>
      match skipSpace rest with
      | '\x7d' :: rest => some (.obj [], rest)
      | rest => readFields fuel [] rest
    | 't' :: rest => (dropWord? "rue" rest).map (.bool true, ·)
    | 'f' :: rest => (dropWord? "alse" rest).map (.bool false, ·)
    | 'n' :: rest => (dropWord? "ull" rest).map (.null, ·)
    | cs => readNumber? cs

def readItems (fuel : Nat) (done : List Json) (cs : List Char) : Option (Json × List Char) :=
  match fuel with
  | 0 => none
  | fuel + 1 =>
    match readValue fuel cs with
    | none => none
    | some (j, rest) =>
      match skipSpace rest with
      | ',' :: rest => readItems fuel (j :: done) rest
      | ']' :: rest => some (.arr (j :: done).reverse, rest)
      | _ => none

def readFields (fuel : Nat) (done : List (String × Json)) (cs : List Char) :
    Option (Json × List Char) :=
  match fuel with
  | 0 => none
  | fuel + 1 =>
    match skipSpace cs with
    | '"' :: rest =>
      match readChars none [] rest with
      | none => none
      | some (name, rest) =>
        match skipSpace rest with
        | ':' :: rest =>
          match readValue fuel rest with
          | none => none
          | some (j, rest) =>
            match skipSpace rest with
            | ',' :: rest => readFields fuel (putField done name j) rest
            | '\x7d' :: rest => some (.obj (putField done name j), rest)
            | _ => none
        | _ => none
    | _ => none

end

/-- The value that a whole text stands for. Every call of a reader takes a character or gives one
level up, so twice the length of the text bounds them. -/
def read? (text : String) : Option Json :=
  let cs := text.toList
  match readValue (2 * cs.length + 1) cs with
  | some (j, rest) => if (skipSpace rest).isEmpty then some j else none
  | none => none

end CardEffects.Json
