import Anastom.Core.JsonText
import Anastom.Engine.SnapshotState

/-! `JSON.parse`. A number keeps the decimal of its text, so digits past those of a double
are not rounded away and no exponent is too large; a lone surrogate is read as the replacement
character. Reading the canonical text of a value gives the value back, in the property order of
its objects. -/
namespace Anastom

theorem JsonNumber.zero_normal : 0 % 10 ≠ 0 ∨ (0 = 0 ∧ (0 : Int) = 0) := .inr ⟨rfl, rfl⟩

/-- The number that a decimal stands for. -/
def JsonNumber.ofDecimal (negative : Bool) (digits : Nat) (exponent : Int) : JsonNumber :=
  if zero : digits = 0 then ⟨negative, 0, 0, zero_normal⟩
  else ⟨negative, (trim digits digits 0).1, exponent + (trim digits digits 0).2,
    .inl (trim_normal digits digits 0 (Nat.pos_of_ne_zero zero) (Nat.le_refl digits))⟩

namespace Json

def isWhitespace (c : Char) : Bool := c == ' ' || c == '\t' || c == '\n' || c == '\r'

def skipSpace (s : List Char) : List Char := s.dropWhile isWhitespace

def spanDigits (s : List Char) : List Char × List Char :=
  (s.takeWhile Char.isDigit, s.dropWhile Char.isDigit)

/-- The digits after a decimal point, if there is one. -/
def readFraction : List Char → Option (List Char × List Char)
  | '.' :: s => if (spanDigits s).1.isEmpty then none else some (spanDigits s)
  | s => some ([], s)

/-- An exponent, after its letter. -/
def readScale (negative : Bool) (s : List Char) : Option (Int × List Char) :=
  if (spanDigits s).1.isEmpty then none
  else
    let scale : Int := Nat.ofDigitChars 10 (spanDigits s).1 0
    some (if negative then -scale else scale, (spanDigits s).2)

def readExponent : List Char → Option (Int × List Char)
  | c :: s =>
    if c = 'e' ∨ c = 'E' then
      match s with
      | '+' :: rest => readScale false rest
      | '-' :: rest => readScale true rest
      | rest => readScale false rest
    else some (0, c :: s)
  | [] => some (0, [])

def leadingZero (whole : List Char) : Bool := whole.head? == some '0' && decide (1 < whole.length)

/-- A number without its sign. -/
def readMagnitude (negative : Bool) (s : List Char) : Option (JsonNumber × List Char) :=
  let whole := (spanDigits s).1
  if whole.isEmpty || leadingZero whole then none
  else do
    let (fraction, afterFraction) ← readFraction (spanDigits s).2
    let (exponent, rest) ← readExponent afterFraction
    some (.ofDecimal negative (Nat.ofDigitChars 10 (whole ++ fraction) 0)
      (exponent - fraction.length), rest)

def readNumber : List Char → Option (JsonNumber × List Char)
  | '-' :: s => readMagnitude true s
  | s => readMagnitude false s

def hexDigit? (c : Char) : Option Nat :=
  if c.isDigit then some (c.toNat - 48)
  else if 97 ≤ c.toNat ∧ c.toNat ≤ 102 then some (c.toNat - 87)
  else if 65 ≤ c.toNat ∧ c.toNat ≤ 70 then some (c.toNat - 55)
  else none

def codeUnit? (a b c d : Char) : Option Nat := do
  let first ← hexDigit? a
  let second ← hexDigit? b
  let third ← hexDigit? c
  let fourth ← hexDigit? d
  some (((first * 16 + second) * 16 + third) * 16 + fourth)

/-- What one element of a string literal stands for. -/
inductive StringUnit where
  | char (c : Char)
  | surrogate (unit : Nat)
  deriving DecidableEq, Repr

def StringUnit.ofCode (unit : Nat) : StringUnit :=
  if 0xD800 ≤ unit ∧ unit ≤ 0xDFFF then .surrogate unit else .char (Char.ofNat unit)

/-- Pairs up surrogates. -/
def joinUnits : List StringUnit → List Char
  | [] => []
  | .surrogate high :: .surrogate low :: rest =>
    if high < 0xDC00 ∧ 0xDC00 ≤ low then
      Char.ofNat (0x10000 + (high - 0xD800) * 0x400 + (low - 0xDC00)) :: joinUnits rest
    else Char.ofNat 0xFFFD :: joinUnits (.surrogate low :: rest)
  | .surrogate _ :: rest => Char.ofNat 0xFFFD :: joinUnits rest
  | .char c :: rest => c :: joinUnits rest

/-- The character of a two-character escape. -/
def escaped? (c : Char) : Option Char :=
  if c = '"' ∨ c = '\\' ∨ c = '/' then some c
  else if c = 'n' ∨ c = 'r' ∨ c = 't' ∨ c = 'b' ∨ c = 'f' then some (unescape c)
  else none

/-- The elements of a string literal, after its opening quote. -/
def readUnits : List Char → Option (List StringUnit × List Char)
  | [] => none
  | '\\' :: 'u' :: a :: b :: c :: d :: s => do
    let unit ← codeUnit? a b c d
    let (units, rest) ← readUnits s
    some (.ofCode unit :: units, rest)
  | '\\' :: c :: s => do
    let char ← escaped? c
    let (units, rest) ← readUnits s
    some (.char char :: units, rest)
  | c :: s =>
    if c = '"' then some ([], s)
    else if c.val < 32 then none
    else do
      let (units, rest) ← readUnits s
      some (.char c :: units, rest)

def readString (s : List Char) : Option (String × List Char) := do
  let (units, rest) ← readUnits s
  some (String.ofList (joinUnits units), rest)

/-- `object[key] = value` -/
def setKey (key : String) (value : JsonValue) (fields : List (String × JsonValue)) :
    List (String × JsonValue) :=
  if fields.any (·.1 == key) then
    fields.map fun entry => if entry.1 = key then (key, value) else entry
  else fields ++ [(key, value)]

/-- The object of these members. -/
def ofMembers (members : List (String × JsonValue)) : JsonValue :=
  .object (Js.objectOrder Prod.fst
    (members.foldl (fun fields entry => setKey entry.1 entry.2 fields) []))

mutual
def readValue : Nat → List Char → Option (JsonValue × List Char)
  | 0, _ => none
  | fuel + 1, text =>
    match skipSpace text with
    | 'n' :: 'u' :: 'l' :: 'l' :: s => some (.null, s)
    | 't' :: 'r' :: 'u' :: 'e' :: s => some (.bool true, s)
    | 'f' :: 'a' :: 'l' :: 's' :: 'e' :: s => some (.bool false, s)
    | '"' :: s => (readString s).map fun (value, rest) => (.string value, rest)
    | '[' :: s =>
      match skipSpace s with
      | ']' :: rest => some (.array [], rest)
      | items => (readItems fuel items).map fun (values, rest) => (.array values, rest)
    | '{' :: s =>
      match skipSpace s with
      | '}' :: rest => some (.object [], rest)
      | members => (readMembers fuel members).map fun (entries, rest) => (ofMembers entries, rest)
    | s => (readNumber s).map fun (value, rest) => (.number value, rest)
def readItems : Nat → List Char → Option (List JsonValue × List Char)
  | 0, _ => none
  | fuel + 1, text => do
    let (item, s) ← readValue fuel text
    match skipSpace s with
    | ',' :: more => (readItems fuel more).map fun (items, rest) => (item :: items, rest)
    | ']' :: rest => some ([item], rest)
    | _ => none
def readMembers : Nat → List Char → Option (List (String × JsonValue) × List Char)
  | 0, _ => none
  | fuel + 1, text => do
    let (key, value, s) ← readMember fuel text
    match skipSpace s with
    | ',' :: more => (readMembers fuel more).map fun (members, rest) => ((key, value) :: members, rest)
    | '}' :: rest => some ([(key, value)], rest)
    | _ => none
def readMember : Nat → List Char → Option (String × JsonValue × List Char)
  | 0, _ => none
  | fuel + 1, text =>
    match skipSpace text with
    | '"' :: afterQuote => do
      let (key, s) ← readString afterQuote
      match skipSpace s with
      | ':' :: afterColon => (readValue fuel afterColon).map fun (value, rest) => (key, value, rest)
      | _ => none
    | _ => none
end

/-- `JSON.parse(text)`. Between two characters of the text it descends three times at most. -/
def parse (text : String) : Option JsonValue :=
  match readValue (3 * text.toList.length + 1) text.toList with
  | some (value, rest) => if (skipSpace rest).isEmpty then some value else none
  | none => none

example : parse " \x7b\"b\": [1, -0.50e1, \"\\u0041\\n\"], \"2\": null, \"1\": true\x7d " =
    some (.object [("1", .bool true), ("2", .null), ("b", .array [.nat 1,
      .number (.ofInt (-5)), .string "A\n"])]) := by
  decide +kernel

end Json
end Anastom
