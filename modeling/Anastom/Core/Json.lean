import Mathlib.Algebra.Ring.Nat
import Mathlib.Data.List.Lex
import Mathlib.Data.List.Sort

/-! JSON values and their canonical text. A finite number is the decimal that
`Number.prototype.toString` prints for it, with the sign of zero kept; strings
hold no lone surrogates, so `JSON.stringify` escapes quotes, backslashes and
control characters only. -/
namespace Anastom

/-- A finite number: the shortest significant digits scaled by a power of ten.
Trailing zeros belong to the exponent, so each number has one representation. -/
structure JsonNumber where
  negative : Bool
  digits : Nat
  exponent : Int
  normal : digits % 10 ≠ 0 ∨ (digits = 0 ∧ exponent = 0)
  deriving DecidableEq, Repr

namespace JsonNumber

/-- Moves trailing zeros of `digits` into the exponent. -/
def trim : Nat → Nat → Nat → Nat × Nat
  | 0, digits, exponent => (digits, exponent)
  | fuel + 1, digits, exponent =>
    if digits % 10 = 0 then trim fuel (digits / 10) (exponent + 1) else (digits, exponent)

theorem trim_normal (fuel digits exponent : Nat) (positive : 0 < digits)
    (enough : digits ≤ fuel) : (trim fuel digits exponent).1 % 10 ≠ 0 := by
  induction fuel generalizing digits exponent with
  | zero => omega
  | succ fuel ih =>
    simp only [trim]
    split
    · exact ih _ _ (by omega) (by omega)
    · assumption

def ofNat (n : Nat) : JsonNumber :=
  if zero : n = 0 then ⟨false, 0, 0, .inr ⟨rfl, rfl⟩⟩
  else ⟨false, (trim n n 0).1, (trim n n 0).2,
    .inl (trim_normal n n 0 (Nat.pos_of_ne_zero zero) (Nat.le_refl n))⟩

def ofInt (n : Int) : JsonNumber := { ofNat n.natAbs with negative := n < 0 }

/-- The number read back from its text, which carries no sign for zero. -/
def parsed (value : JsonNumber) : JsonNumber :=
  { value with negative := value.negative && value.digits != 0 }

end JsonNumber

inductive JsonValue where
  | null
  | bool (value : Bool)
  | number (value : JsonNumber)
  | string (value : String)
  | array (items : List JsonValue)
  | object (fields : List (String × JsonValue))
  deriving Repr, Inhabited

namespace JsonValue

mutual
def decEq : (a b : JsonValue) → Decidable (a = b)
  | .null, b => by cases b <;> first | exact isTrue rfl | exact isFalse (by simp)
  | .bool x, .bool y => decidable_of_iff (x = y) (by simp)
  | .number x, .number y => decidable_of_iff (x = y) (by simp)
  | .string x, .string y => decidable_of_iff (x = y) (by simp)
  | .array xs, .array ys =>
    letI := decEqItems xs ys
    decidable_of_iff (xs = ys) (by simp)
  | .object xs, .object ys =>
    letI := decEqFields xs ys
    decidable_of_iff (xs = ys) (by simp)
  | .bool _, .null | .bool _, .number _ | .bool _, .string _ | .bool _, .array _
  | .bool _, .object _ | .number _, .null | .number _, .bool _ | .number _, .string _
  | .number _, .array _ | .number _, .object _ | .string _, .null | .string _, .bool _
  | .string _, .number _ | .string _, .array _ | .string _, .object _ | .array _, .null
  | .array _, .bool _ | .array _, .number _ | .array _, .string _ | .array _, .object _
  | .object _, .null | .object _, .bool _ | .object _, .number _ | .object _, .string _
  | .object _, .array _ => isFalse (by simp)
def decEqItems : (xs ys : List JsonValue) → Decidable (xs = ys)
  | [], [] => isTrue rfl
  | [], _ :: _ | _ :: _, [] => isFalse (by simp)
  | x :: xs, y :: ys =>
    letI := decEq x y
    letI := decEqItems xs ys
    decidable_of_iff (x = y ∧ xs = ys) (by simp)
def decEqFields : (xs ys : List (String × JsonValue)) → Decidable (xs = ys)
  | [], [] => isTrue rfl
  | [], _ :: _ | _ :: _, [] => isFalse (by simp)
  | (k, x) :: xs, (l, y) :: ys =>
    letI := decEq x y
    letI := decEqFields xs ys
    decidable_of_iff ((k = l ∧ x = y) ∧ xs = ys) (by simp)
end

instance : DecidableEq JsonValue := decEq

def nat (n : Nat) : JsonValue := .number (JsonNumber.ofNat n)

def optional (key : String) (value : Option JsonValue) : List (String × JsonValue) :=
  match value with
  | none => []
  | some value => [(key, value)]

/-- `value.map f` for an optional field of an object. -/
def field (key : String) (f : α → JsonValue) (value : Option α) : List (String × JsonValue) :=
  optional key (value.map f)

def strings (values : List String) : JsonValue := .array (values.map .string)

mutual
/-- The value that `JSON.parse` reads back from the canonical text, up to the
order of object keys. -/
def parsed : JsonValue → JsonValue
  | .null => .null
  | .bool value => .bool value
  | .number value => .number value.parsed
  | .string value => .string value
  | .array items => .array (parsedItems items)
  | .object fields => .object (parsedFields fields)
def parsedItems : List JsonValue → List JsonValue
  | [] => []
  | item :: rest => parsed item :: parsedItems rest
def parsedFields : List (String × JsonValue) → List (String × JsonValue)
  | [] => []
  | (key, value) :: rest => (key, parsed value) :: parsedFields rest
end

end JsonValue

namespace Json

/-- `Number.prototype.toString` for radix ten: plain digits up to 10^21, a
decimal point down to 10^-6, and exponent notation outside that range. -/
def numberChars (value : JsonNumber) : List Char :=
  if value.digits = 0 then ['0']
  else
    let digits := Nat.toDigits 10 value.digits
    let k := digits.length
    let n : Int := k + value.exponent
    let sign := if value.negative then ['-'] else []
    let body :=
      if k ≤ n ∧ n ≤ 21 then digits ++ List.replicate (n - k).toNat '0'
      else if 0 < n ∧ n ≤ 21 then digits.take n.toNat ++ '.' :: digits.drop n.toNat
      else if -6 < n ∧ n ≤ 0 then '0' :: '.' :: List.replicate (-n).toNat '0' ++ digits
      else
        let fraction := if k = 1 then [] else '.' :: digits.drop 1
        let scale := if 0 < n then '+' :: Nat.toDigits 10 (n - 1).toNat
          else '-' :: Nat.toDigits 10 (1 - n).toNat
        digits.take 1 ++ fraction ++ 'e' :: scale
    sign ++ body

def escapeChar (c : Char) : List Char :=
  match c with
  | '"' => ['\\', '"']
  | '\\' => ['\\', '\\']
  | '\n' => ['\\', 'n']
  | '\r' => ['\\', 'r']
  | '\t' => ['\\', 't']
  | c =>
    if c.val = 8 then ['\\', 'b']
    else if c.val = 12 then ['\\', 'f']
    else if c.val < 32 then
      '\\' :: 'u' :: '0' :: '0' :: Nat.digitChar (c.toNat / 16) :: [Nat.digitChar (c.toNat % 16)]
    else [c]

def stringChars (s : String) : List Char :=
  '"' :: s.toList.flatMap escapeChar ++ ['"']

/-- The UTF-16 code units of a string, the order of `Array.prototype.sort`. -/
def codeUnits (s : String) : List Nat :=
  s.toList.flatMap fun c =>
    if c.toNat < 0x10000 then [c.toNat]
    else [0xD800 + (c.toNat - 0x10000) / 0x400, 0xDC00 + (c.toNat - 0x10000) % 0x400]

def keyLe (a b : String) : Bool := decide (codeUnits a ≤ codeUnits b)

def sortFields (fields : List (String × List Char)) : List (String × List Char) :=
  fields.insertionSort fun a b => keyLe a.1 b.1

def commaSeparated : List (List Char) → List Char
  | [] => []
  | [text] => text
  | text :: next :: rest => text ++ ',' :: commaSeparated (next :: rest)

mutual
def canonicalChars : JsonValue → List Char
  | .null => ['n', 'u', 'l', 'l']
  | .bool true => ['t', 'r', 'u', 'e']
  | .bool false => ['f', 'a', 'l', 's', 'e']
  | .number value => numberChars value
  | .string value => stringChars value
  | .array items => '[' :: commaSeparated (itemTexts items) ++ [']']
  | .object fields =>
    '{' :: commaSeparated ((sortFields (fieldTexts fields)).map
      fun (key, text) => stringChars key ++ ':' :: text) ++ ['}']
def itemTexts : List JsonValue → List (List Char)
  | [] => []
  | item :: rest => canonicalChars item :: itemTexts rest
def fieldTexts : List (String × JsonValue) → List (String × List Char)
  | [] => []
  | (key, value) :: rest => (key, canonicalChars value) :: fieldTexts rest
end

/-- Text with sorted object keys and preserved array order. -/
def canonicalJson (value : JsonValue) : String := String.ofList (canonicalChars value)

end Json
end Anastom
