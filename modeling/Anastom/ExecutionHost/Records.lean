import Anastom.Core.JsonText
import Anastom.Engine.EventValidation
import Anastom.Engine.SnapshotState
import Mathlib.Algebra.Ring.Int.Defs

/-! Reading records of unknown shape: the properties of a JSON value, exact key sets and
number ranges. None of these checks sees what a round trip through text loses, the order
of keys and the sign of zero. -/
namespace Anastom

namespace JsonNumber

/-- The integer a number is, if it is one. -/
def toInt? (value : JsonNumber) : Option Int :=
  if value.exponent < 0 then none
  else
    let magnitude : Int := value.digits * 10 ^ value.exponent.toNat
    some (if value.negative then -magnitude else magnitude)

theorem toInt?_ofNat (n : Nat) : (ofNat n).toInt? = some (n : Int) := by
  by_cases zero : n = 0
  · subst zero
    rfl
  · obtain ⟨digits, exponent, normal, form, _, value⟩ := Json.ofNat_form zero
    have whole : ¬ ((exponent : Int) < 0) := by omega
    simp only [form, toInt?, whole, Bool.false_eq_true, if_false, Int.toNat_natCast,
      Option.some.injEq]
    exact_mod_cast value

theorem ofNat_negative (n : Nat) : (ofNat n).negative = false := by
  unfold ofNat
  split <;> rfl

theorem toInt?_ofInt (n : Int) : (ofInt n).toInt? = some n := by
  have magnitude := toInt?_ofNat n.natAbs
  rw [toInt?, ofNat_negative] at magnitude
  rw [toInt?, ofInt]
  simp only [Bool.false_eq_true, if_false] at magnitude
  split at magnitude
  case isTrue => cases magnitude
  case isFalse whole =>
    have value := Option.some.inj magnitude
    rw [if_neg whole, value]
    by_cases below : n < 0
    · simp only [below, decide_true, if_true, Option.some.injEq]
      omega
    · simp only [below, decide_false, Bool.false_eq_true, if_false, Option.some.injEq]
      omega

theorem toInt?_parsed (value : JsonNumber) : value.parsed.toInt? = value.toInt? := by
  obtain ⟨sign, digits, exponent, normal⟩ := value
  unfold parsed toInt?
  by_cases zero : digits = 0
  · subst zero
    cases sign <;> simp
  · cases sign <;> simp [zero]

end JsonNumber

namespace JsonValue

/-- `!!value && typeof value === "object" && !Array.isArray(value)` -/
def isRecord : JsonValue → Bool
  | .object _ => true
  | _ => false

/-- `Object.keys(value)` -/
def keys : JsonValue → List String
  | .object fields => fields.map Prod.fst
  | _ => []

/-- `value[key]`; an absent property is `undefined`. -/
def get? (value : JsonValue) (key : String) : Option JsonValue :=
  match value with
  | .object fields => fields.lookup key
  | _ => none

def sortKeys (keys : List String) : List String := keys.insertionSort (Json.entryLe id)

def exactKeys (value : JsonValue) (keys : List String) : Bool :=
  sortKeys value.keys == sortKeys keys

def hasOnlyKeys (value : JsonValue) (required allowed : List String) : Bool :=
  required.all (fun key => (value.get? key).isSome) &&
    value.keys.all fun key => (required ++ allowed).contains key

def isString : JsonValue → Bool
  | .string _ => true
  | _ => false

def isBoolean : JsonValue → Bool
  | .bool _ => true
  | _ => false

def asBool? : JsonValue → Option Bool
  | .bool value => some value
  | _ => none

def asString? : JsonValue → Option String
  | .string value => some value
  | _ => none

def asNumber? : JsonValue → Option JsonNumber
  | .number value => some value
  | _ => none

def asInt? (value : JsonValue) : Option Int := value.asNumber?.bind JsonNumber.toInt?

def asNullable? {α : Type} (read : JsonValue → Option α) : JsonValue → Option (Option α)
  | .null => some none
  | value => (read value).map some

/-- The property is the string that `text` accepts. -/
def stringIn (texts : List String) : JsonValue → Bool
  | .string text => texts.contains text
  | _ => false

/-- An integer within bounds. -/
def integerIn (minimum maximum : Int) : JsonValue → Bool
  | .number value => value.toInt?.any fun n => decide (minimum ≤ n ∧ n ≤ maximum)
  | _ => false

/-- `Number.isSafeInteger(value)` -/
def isSafeInteger : JsonValue → Bool := integerIn (-maxSafeInteger) maxSafeInteger

/-- `Number.isSafeInteger(value) && value > 0` -/
def isPositive : JsonValue → Bool := integerIn 1 maxSafeInteger

theorem integerIn_nat {minimum maximum : Int} (n : Nat) :
    integerIn minimum maximum (nat n) = decide (minimum ≤ n ∧ (n : Int) ≤ maximum) := by
  rw [nat, integerIn, JsonNumber.toInt?_ofNat, Option.any_some]

theorem isPositive_nat (n : Nat) : isPositive (nat n) = positive n := by
  rw [isPositive, integerIn_nat, positive]
  congr 1
  simp only [eq_iff_iff]
  omega

@[simp] theorem lookup_field {α : Type} (k key : String) (f : α → JsonValue) (value : Option α) :
    (field key f value).lookup k = if k = key then value.map f else none := by
  cases value with
  | none => simp [field, optional]
  | some a =>
    by_cases same : k = key
    · subst same
      simp [field, optional]
    · have other : (k == key) = false := by simpa using same
      simp [field, optional, List.lookup_cons, other, same]

@[simp] theorem all_field {α : Type} (key : String) (f : α → JsonValue) (value : Option α)
    (check : String × JsonValue → Bool) :
    (field key f value).all check = value.all fun a => check (key, f a) := by
  cases value <;> simp [field, optional]

theorem keys_reread (value : JsonValue) : value.reread.keys.Perm value.keys := by
  cases value with
  | object fields =>
    have texts : ∀ fields : List (String × JsonValue),
        (rereadFields fields).map Prod.fst = fields.map Prod.fst := by
      intro fields
      induction fields with
      | nil => rfl
      | cons entry rest ih => rw [rereadFields, List.map_cons, List.map_cons, ih]
    have moved := (Js.parsedOrder_perm Prod.fst (rereadFields fields)).map Prod.fst
    rw [texts] at moved
    simpa only [reread, keys] using moved
  | _ => simp [reread, keys]

theorem rereadFields_lookup (fields : List (String × JsonValue)) (key : String) :
    (rereadFields fields).lookup key = (fields.lookup key).map reread := by
  induction fields with
  | nil => rfl
  | cons entry rest ih =>
    obtain ⟨name, value⟩ := entry
    rw [rereadFields, List.lookup_cons, List.lookup_cons, ih]
    cases key == name <;> rfl

theorem lookup_filter (fields : List (String × JsonValue)) (key : String) :
    fields.lookup key =
      ((fields.filter fun entry => decide (entry.1 = key)).head?).map Prod.snd := by
  induction fields with
  | nil => rfl
  | cons entry rest ih =>
    obtain ⟨name, value⟩ := entry
    by_cases same : name = key
    · subst same
      simp
    · have other : (key == name) = false := by simpa using Ne.symm same
      rw [List.lookup_cons, other, List.filter_cons_of_neg (by simpa using same)]
      exact ih

theorem get?_reread (value : JsonValue) (key : String) :
    value.reread.get? key = (value.get? key).map reread := by
  cases value with
  | object fields =>
    rw [reread, get?, get?, ← rereadFields_lookup, lookup_filter, lookup_filter,
      Js.parsedOrder_filter]
  | _ => rfl

theorem sortKeys_perm {left right : List String} (moved : left.Perm right) :
    sortKeys left = sortKeys right := by
  unfold sortKeys
  refine Json.sort_congr id fun key => ?_
  have counts := moved.count_eq key
  simp only [List.count_eq_length_filter] at counts
  have copies (texts : List String) : texts.filter (fun text => decide (text = key)) =
      List.replicate (texts.filter (· == key)).length key := by
    induction texts with
    | nil => rfl
    | cons text rest ih =>
      by_cases same : text = key
      · simp [same, ih, List.replicate_succ]
      · simp [same, ih]
  simp only [id]
  rw [copies, copies, counts]

theorem exactKeys_object {fields : List (String × JsonValue)} (observed keys : List String)
    (read : fields.map Prod.fst = observed) (same : observed.Perm keys) :
    (JsonValue.object fields).exactKeys keys = true := by
  rw [exactKeys, JsonValue.keys, read, sortKeys_perm same, beq_self_eq_true]

theorem exactKeys_reread (value : JsonValue) (keys : List String) :
    value.reread.exactKeys keys = value.exactKeys keys := by
  rw [exactKeys, exactKeys, sortKeys_perm value.keys_reread]

theorem hasOnlyKeys_reread (value : JsonValue) (required allowed : List String) :
    value.reread.hasOnlyKeys required allowed = value.hasOnlyKeys required allowed := by
  rw [hasOnlyKeys, hasOnlyKeys, value.keys_reread.all_eq]
  simp only [get?_reread, Option.isSome_map]

theorem isRecord_reread (value : JsonValue) : value.reread.isRecord = value.isRecord := by
  cases value <;> rfl

theorem isString_reread (value : JsonValue) : value.reread.isString = value.isString := by
  cases value <;> rfl

theorem isBoolean_reread (value : JsonValue) : value.reread.isBoolean = value.isBoolean := by
  cases value <;> rfl

theorem stringIn_reread (texts : List String) (value : JsonValue) :
    value.reread.stringIn texts = value.stringIn texts := by
  cases value <;> rfl

theorem integerIn_reread (minimum maximum : Int) (value : JsonValue) :
    value.reread.integerIn minimum maximum = value.integerIn minimum maximum := by
  cases value with
  | number value => rw [reread, integerIn, integerIn, JsonNumber.toInt?_parsed]
  | _ => rfl

end JsonValue

/-- A field that may be absent. -/
def readField {α : Type} (read : JsonValue → Option α) : Option JsonValue → Option (Option α)
  | none => some none
  | some value => (read value).map some

end Anastom
