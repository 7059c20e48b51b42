import Anastom.Core.JsonText
import Anastom.Data.Outcomes
import Mathlib.Order.Fin.Basic

/-! JavaScript values as `canonicalJson` meets them: strings are UTF-16 code units, lone
surrogates included, and a value may hold what JSON has no text for. Of such a value there
is no canonical text; a JSON value is printed with sorted keys. -/
namespace Anastom

abbrev CodeUnit := Fin 0x10000

abbrev JsString := List CodeUnit

/-- What a value is, to `typeof`, `Array.isArray` and `Object.getPrototypeOf`. An element that
an array lacks is a hole. Other numbers than these finite ones are NaN and the infinities. -/
inductive JsValue where
  | undefined
  | hole
  | function
  | symbol
  | bigint (value : Int)
  | nonFinite
  | null
  | bool (value : Bool)
  | number (value : JsonNumber)
  | string (value : JsString)
  | array (items : List JsValue)
  | object (plain : Bool) (fields : List (JsString × JsValue))
  deriving Repr, Inhabited

namespace JsValue
open Json

def isHigh (unit : CodeUnit) : Bool := decide (0xD800 ≤ unit.val ∧ unit.val < 0xDC00)

def isLow (unit : CodeUnit) : Bool := decide (0xDC00 ≤ unit.val ∧ unit.val ≤ 0xDFFF)

/-- The code point of a surrogate pair. -/
def pairChar (high low : CodeUnit) : Char :=
  Char.ofNat (0x10000 + (high.val - 0xD800) * 0x400 + (low.val - 0xDC00))

/-- `\u` and four hexadecimal digits. -/
def unicodeEscape (n : Nat) : List Char :=
  ['\\', 'u', Nat.digitChar (n / 4096), Nat.digitChar (n / 256 % 16), Nat.digitChar (n / 16 % 16),
    Nat.digitChar (n % 16)]

/-- A unit outside a surrogate pair. -/
def unitText (unit : CodeUnit) : List Char :=
  if isHigh unit || isLow unit then unicodeEscape unit.val else escapeChar (Char.ofNat unit.val)

/-- The text of a string between its quotes, as `JSON.stringify` prints it. -/
def quoteUnits : JsString → List Char
  | [] => []
  | high :: low :: rest =>
    if isHigh high && isLow low then pairChar high low :: quoteUnits rest
    else unitText high ++ quoteUnits (low :: rest)
  | [unit] => unitText unit

def stringText (s : JsString) : List Char := '"' :: quoteUnits s ++ ['"']

/-- The order of `Array.prototype.sort`. -/
def unitsLe (a b : JsString × α) : Prop := a.1 ≤ b.1

instance : DecidableRel (@unitsLe α) := fun a b => inferInstanceAs (Decidable (a.1 ≤ b.1))

def sortKeys (fields : List (JsString × α)) : List (JsString × α) := fields.insertionSort unitsLe

def memberChars (member : JsString × List Char) : List Char := stringText member.1 ++ ':' :: member.2

/-- The message of the error thrown for a value without canonical text. -/
def notJson : String := "Canonical JSON requires finite JSON values"

mutual
/-- `canonicalJson`. Members are printed before they are sorted, which shows in no result. -/
def canonicalJson : JsValue → Except String (List Char)
  | .null => .ok ['n', 'u', 'l', 'l']
  | .bool true => .ok ['t', 'r', 'u', 'e']
  | .bool false => .ok ['f', 'a', 'l', 's', 'e']
  | .number value => .ok (numberChars value)
  | .string value => .ok (stringText value)
  | .array items => do
    let texts ← itemTexts items
    pure ('[' :: commaSeparated texts ++ [']'])
  | .object true fields => do
    let members ← fieldTexts fields
    pure ('{' :: commaSeparated ((sortKeys members).map memberChars) ++ ['}'])
  | .object false _ | .undefined | .hole | .function | .symbol | .bigint _ | .nonFinite =>
    .error notJson
def itemTexts : List JsValue → Except String (List (List Char))
  | [] => .ok []
  | item :: rest => do
    let text ← canonicalJson item
    let texts ← itemTexts rest
    pure (text :: texts)
def fieldTexts : List (JsString × JsValue) → Except String (List (JsString × List Char))
  | [] => .ok []
  | (key, value) :: rest => do
    let text ← canonicalJson value
    let texts ← fieldTexts rest
    pure ((key, text) :: texts)
end

mutual
/-- Finite JSON data; an object has one member under each of its keys. -/
def json : JsValue → Bool
  | .null | .bool _ | .number _ | .string _ => true
  | .array items => jsonItems items
  | .object plain fields => plain && decide (fields.map Prod.fst).Nodup && jsonFields fields
  | .undefined | .hole | .function | .symbol | .bigint _ | .nonFinite => false
def jsonItems : List JsValue → Bool
  | [] => true
  | item :: rest => item.json && jsonItems rest
def jsonFields : List (JsString × JsValue) → Bool
  | [] => true
  | (_, value) :: rest => value.json && jsonFields rest
end

mutual
/-- The value with the keys of its objects sorted and no sign for zero. -/
def normal : JsValue → JsValue
  | .number value => .number value.parsed
  | .array items => .array (normalItems items)
  | .object plain fields => .object plain (sortKeys (normalFields fields))
  | value => value
def normalItems : List JsValue → List JsValue
  | [] => []
  | item :: rest => item.normal :: normalItems rest
def normalFields : List (JsString × JsValue) → List (JsString × JsValue)
  | [] => []
  | (key, value) :: rest => (key, value.normal) :: normalFields rest
end

/-- Equal up to the order of keys and the sign of zero. -/
def Alike (x y : JsValue) : Prop := x.normal = y.normal

/-- What `canonicalJson` throws for where it stands. -/
def foreign : JsValue → Bool
  | .undefined | .hole | .function | .symbol | .bigint _ | .nonFinite => true
  | .object plain _ => !plain
  | .null | .bool _ | .number _ | .string _ | .array _ => false

/-- A part of a value, at any depth. -/
inductive Within (part : JsValue) : JsValue → Prop where
  | self : Within part part
  | item {items : List JsValue} {item : JsValue} (member : item ∈ items)
      (within : Within part item) : Within part (.array items)
  | field {plain : Bool} {fields : List (JsString × JsValue)} {entry : JsString × JsValue}
      (member : entry ∈ fields) (within : Within part entry.2) :
      Within part (.object plain fields)

theorem bind_error_or {α β : Type} {first : Except String α} {next : α → Except String β}
    (head : ∀ e, first = .error e → e = notJson)
    (tail : ∀ a e, first = .ok a → next a = .error e → e = notJson) :
    ∀ e, (first >>= next) = .error e → e = notJson := by
  intro e thrown
  cases result : first with
  | error e' =>
    rw [result] at thrown
    obtain rfl := Except.error.inj thrown
    exact head _ result
  | ok a =>
    rw [result] at thrown
    exact tail a e result thrown

mutual
theorem canonicalJson_message : (value : JsValue) → ∀ e, value.canonicalJson = .error e → e = notJson
  | .null, _, thrown | .bool true, _, thrown | .bool false, _, thrown | .number _, _, thrown
  | .string _, _, thrown => by rw [canonicalJson] at thrown; cases thrown
  | .array items, e, thrown => by
    rw [canonicalJson] at thrown
    exact bind_error_or (itemTexts_message items) (fun _ _ _ thrown => by cases thrown) e thrown
  | .object true fields, e, thrown => by
    rw [canonicalJson] at thrown
    exact bind_error_or (fieldTexts_message fields) (fun _ _ _ thrown => by cases thrown) e thrown
  | .object false _, _, thrown | .undefined, _, thrown | .hole, _, thrown | .function, _, thrown
  | .symbol, _, thrown | .bigint _, _, thrown | .nonFinite, _, thrown => by
    rw [canonicalJson] at thrown
    exact (Except.error.inj thrown).symm
theorem itemTexts_message : (items : List JsValue) → ∀ e, itemTexts items = .error e → e = notJson
  | [], _, thrown => by rw [itemTexts] at thrown; cases thrown
  | item :: rest, e, thrown => by
    rw [itemTexts] at thrown
    refine bind_error_or (canonicalJson_message item) (fun _ e _ thrown => ?_) e thrown
    exact bind_error_or (itemTexts_message rest) (fun _ _ _ thrown => by cases thrown) e thrown
theorem fieldTexts_message : (fields : List (JsString × JsValue)) →
    ∀ e, fieldTexts fields = .error e → e = notJson
  | [], _, thrown => by rw [fieldTexts] at thrown; cases thrown
  | (_, value) :: rest, e, thrown => by
    rw [fieldTexts] at thrown
    refine bind_error_or (canonicalJson_message value) (fun _ e _ thrown => ?_) e thrown
    exact bind_error_or (fieldTexts_message rest) (fun _ _ _ thrown => by cases thrown) e thrown
end

theorem itemTexts_mapM (items : List JsValue) : itemTexts items = items.mapM canonicalJson := by
  induction items with
  | nil => rw [itemTexts, List.mapM_nil]; rfl
  | cons item rest ih => rw [itemTexts, List.mapM_cons, ih]

theorem fieldTexts_mapM (fields : List (JsString × JsValue)) : fieldTexts fields =
    fields.mapM fun entry => entry.2.canonicalJson.map (Prod.mk entry.1) := by
  induction fields with
  | nil => rw [fieldTexts, List.mapM_nil]; rfl
  | cons entry rest ih =>
    rw [fieldTexts, List.mapM_cons, ih]
    cases entry.2.canonicalJson <;> rfl

theorem itemTexts_ok {items : List JsValue} {texts : List (List Char)} :
    itemTexts items = .ok texts ↔
      List.Forall₂ (fun item text => item.canonicalJson = .ok text) items texts := by
  rw [itemTexts_mapM]
  exact mapM_ok

theorem fieldTexts_ok {fields : List (JsString × JsValue)} {texts : List (JsString × List Char)} :
    fieldTexts fields = .ok texts ↔
      List.Forall₂ (fun entry text => text.1 = entry.1 ∧ entry.2.canonicalJson = .ok text.2)
        fields texts := by
  have one (entry : JsString × JsValue) (text : JsString × List Char) :
      entry.2.canonicalJson.map (Prod.mk entry.1) = .ok text ↔
        text.1 = entry.1 ∧ entry.2.canonicalJson = .ok text.2 := by
    cases entry.2.canonicalJson with
    | error e =>
      constructor
      · intro done
        cases done
      · rintro ⟨_, printed⟩
        cases printed
    | ok chars =>
      obtain ⟨key, other⟩ := text
      simp only [Except.map, Except.ok.injEq, Prod.mk.injEq, eq_comm]
  rw [fieldTexts_mapM, mapM_ok]
  simp only [one]

theorem canonicalJson_array {items : List JsValue} {text : List Char}
    (printed : canonicalJson (.array items) = .ok text) : ∃ texts, itemTexts items = .ok texts ∧
      text = '[' :: commaSeparated texts ++ [']'] := by
  rw [canonicalJson] at printed
  obtain ⟨texts, done, same⟩ := bind_ok.mp printed
  exact ⟨texts, done, (Except.ok.inj same).symm⟩

theorem canonicalJson_object {plain : Bool} {fields : List (JsString × JsValue)} {text : List Char}
    (printed : canonicalJson (.object plain fields) = .ok text) :
    plain = true ∧ ∃ members, fieldTexts fields = .ok members ∧
      text = '{' :: commaSeparated ((sortKeys members).map memberChars) ++ ['}'] := by
  cases plain with
  | false => rw [canonicalJson] at printed; cases printed
  | true =>
    rw [canonicalJson] at printed
    obtain ⟨members, done, same⟩ := bind_ok.mp printed
    exact ⟨rfl, members, done, (Except.ok.inj same).symm⟩

/-- A value that is printed prints all its parts. -/
theorem Within.printed {part value : JsValue} (within : Within part value) {text : List Char}
    (printed : value.canonicalJson = .ok text) : ∃ partText, part.canonicalJson = .ok partText := by
  induction within generalizing text with
  | self => exact ⟨text, printed⟩
  | item member _ ih =>
    obtain ⟨texts, done, _⟩ := canonicalJson_array printed
    obtain ⟨itemText, _, itemPrinted⟩ := forall₂_left (itemTexts_ok.mp done) member
    exact ih itemPrinted
  | field member _ ih =>
    obtain ⟨_, members, done, _⟩ := canonicalJson_object printed
    obtain ⟨memberText, _, _, valuePrinted⟩ := forall₂_left (fieldTexts_ok.mp done) member
    exact ih valuePrinted

theorem foreign_thrown {value : JsValue} (stranger : value.foreign = true) :
    value.canonicalJson = .error notJson := by
  cases value with
  | object plain fields =>
    cases plain with
    | false => rw [canonicalJson]
    | true => cases stranger
  | null | bool _ | number _ | string _ | array _ => cases stranger
  | undefined | hole | function | symbol | bigint _ | nonFinite => rw [canonicalJson]

/-- Nothing that JSON has no text for is dropped or changed, wherever it stands. -/
theorem canonicalJson_foreign {part value : JsValue} (within : Within part value)
    (stranger : part.foreign = true) : value.canonicalJson = .error notJson := by
  cases printed : value.canonicalJson with
  | error e => rw [canonicalJson_message value e printed]
  | ok text =>
    obtain ⟨partText, done⟩ := within.printed printed
    rw [foreign_thrown stranger] at done
    cases done

mutual
theorem canonicalJson_json : (value : JsValue) → value.json = true →
    ∃ text, value.canonicalJson = .ok text
  | .null, _ | .bool true, _ | .bool false, _ | .number _, _ | .string _, _ =>
    ⟨_, by rw [canonicalJson]⟩
  | .array items, data => by
    rw [json] at data
    obtain ⟨texts, done⟩ := itemTexts_json items data
    exact ⟨_, by rw [canonicalJson, done]; rfl⟩
  | .object true fields, data => by
    rw [json, Bool.and_eq_true] at data
    obtain ⟨members, done⟩ := fieldTexts_json fields data.2
    exact ⟨_, by rw [canonicalJson, done]; rfl⟩
  | .object false _, data | .undefined, data | .hole, data | .function, data | .symbol, data
  | .bigint _, data | .nonFinite, data => by rw [json] at data; cases data
theorem itemTexts_json : (items : List JsValue) → jsonItems items = true →
    ∃ texts, itemTexts items = .ok texts
  | [], _ => ⟨[], by rw [itemTexts]⟩
  | item :: rest, data => by
    rw [jsonItems, Bool.and_eq_true] at data
    obtain ⟨text, printed⟩ := canonicalJson_json item data.1
    obtain ⟨texts, done⟩ := itemTexts_json rest data.2
    exact ⟨text :: texts, by rw [itemTexts, printed, done]; rfl⟩
theorem fieldTexts_json : (fields : List (JsString × JsValue)) → jsonFields fields = true →
    ∃ members, fieldTexts fields = .ok members
  | [], _ => ⟨[], by rw [fieldTexts]⟩
  | (key, value) :: rest, data => by
    rw [jsonFields, Bool.and_eq_true] at data
    obtain ⟨text, printed⟩ := canonicalJson_json value data.1
    obtain ⟨members, done⟩ := fieldTexts_json rest data.2
    exact ⟨(key, text) :: members, by rw [fieldTexts, printed, done]; rfl⟩
end

end JsValue
end Anastom
