import Anastom.Core.JsValue
import Anastom.Engine.JsonRoundTrip

/-! `JSON.parse` on strings of UTF-16 code units. A quoted string is read back unit by unit,
and a list of texts element by element. -/
namespace Anastom.JsValue
open Json

/-- The UTF-16 code units of a character. -/
def charUnits (c : Char) : JsString :=
  if c.toNat < 0x10000 then [Fin.ofNat 0x10000 c.toNat]
  else [Fin.ofNat 0x10000 (0xD800 + (c.toNat - 0x10000) / 0x400),
    Fin.ofNat 0x10000 (0xDC00 + (c.toNat - 0x10000) % 0x400)]

def elementUnits : StringUnit → JsString
  | .char c => charUnits c
  | .surrogate unit => [Fin.ofNat 0x10000 unit]

/-- A string literal after its opening quote. -/
def readString (s : List Char) : Option (JsString × List Char) :=
  (readUnits s).map fun read => (read.1.flatMap elementUnits, read.2)

/-- Elements separated by commas, the last one followed by the closing bracket. -/
def readSeparated (read : List Char → Option (α × List Char)) (close : Char) :
    Nat → List Char → Option (List α × List Char)
  | 0, _ => none
  | fuel + 1, text => do
    let (first, s) ← read text
    match skipSpace s with
    | c :: more =>
      if c = ',' then
        (readSeparated read close fuel more).map fun read => (first :: read.1, read.2)
      else if c = close then some ([first], more) else none
    | [] => none

/-- A key and a value around a colon. -/
def readMember (read : List Char → Option (JsValue × List Char)) (text : List Char) :
    Option ((JsString × JsValue) × List Char) :=
  match skipSpace text with
  | '"' :: afterQuote => do
    let (key, s) ← readString afterQuote
    match skipSpace s with
    | ':' :: afterColon => (read afterColon).map fun read => ((key, read.1), read.2)
    | _ => none
  | _ => none

/-- `object[key] = value` -/
def setKey (fields : List (JsString × JsValue)) (member : JsString × JsValue) :
    List (JsString × JsValue) :=
  if fields.any (·.1 == member.1) then
    fields.map fun entry => if entry.1 = member.1 then member else entry
  else fields ++ [member]

/-- A value inside as many brackets as there is fuel. -/
def readValue : Nat → List Char → Option (JsValue × List Char)
  | 0, _ => none
  | fuel + 1, text =>
    match skipSpace text with
    | 'n' :: 'u' :: 'l' :: 'l' :: s => some (.null, s)
    | 't' :: 'r' :: 'u' :: 'e' :: s => some (.bool true, s)
    | 'f' :: 'a' :: 'l' :: 's' :: 'e' :: s => some (.bool false, s)
    | '"' :: s => (readString s).map fun read => (.string read.1, read.2)
    | '[' :: s =>
      match skipSpace s with
      | ']' :: rest => some (.array [], rest)
      | items => (readSeparated (readValue fuel) ']' items.length items).map fun read =>
        (.array read.1, read.2)
    | '{' :: s =>
      match skipSpace s with
      | '}' :: rest => some (.object true [], rest)
      | members =>
        (readSeparated (readMember (readValue fuel)) '}' members.length members).map fun read =>
          (.object true (read.1.foldl setKey []), read.2)
    | s => (readNumber s).map fun read => (.number read.1, read.2)

/-- `JSON.parse`, with members in the order of the text. -/
def parse (text : List Char) : Option JsValue :=
  match readValue (text.length + 1) text with
  | some (value, rest) => if (skipSpace rest).isEmpty then some value else none
  | none => none

theorem surrogate_iff {unit : CodeUnit} :
    (isHigh unit || isLow unit) = true ↔ 0xD800 ≤ unit.val ∧ unit.val ≤ 0xDFFF := by
  simp only [isHigh, isLow, Bool.or_eq_true, decide_eq_true_iff]
  omega

theorem toNat_ofNat {n : Nat} (valid : n < 0xD800 ∨ 0xDFFF < n ∧ n < 0x110000) :
    (Char.ofNat n).toNat = n := by
  have isValid : n.isValidChar := valid
  rw [Char.ofNat, dif_pos isValid]
  show (UInt32.ofNatLT n _).toNat = n
  exact UInt32.toNat_ofNatLT

theorem ofNat_val (unit : CodeUnit) : Fin.ofNat 0x10000 unit.val = unit := Fin.ofNat_val_eq_self unit

/-- One unit is read as itself. -/
theorem readUnits_unitText (unit : CodeUnit) (s : List Char) :
    ∃ element, readUnits (unitText unit ++ s) = (readUnits s).map (fun read =>
      (element :: read.1, read.2)) ∧ elementUnits element = [unit] := by
  have bound := unit.isLt
  unfold unitText
  by_cases surrogate : (isHigh unit || isLow unit) = true
  · rw [if_pos surrogate]
    refine ⟨.surrogate unit.val, ?_, by rw [elementUnits, ofNat_val]⟩
    have code : codeUnit? (Nat.digitChar (unit.val / 4096)) (Nat.digitChar (unit.val / 256 % 16))
        (Nat.digitChar (unit.val / 16 % 16)) (Nat.digitChar (unit.val % 16)) = some unit.val := by
      simp only [codeUnit?, hexDigit?_digitChar (n := unit.val / 4096) (by omega),
        hexDigit?_digitChar (n := unit.val / 256 % 16) (by omega),
        hexDigit?_digitChar (n := unit.val / 16 % 16) (by omega),
        hexDigit?_digitChar (n := unit.val % 16) (by omega), Option.bind_eq_bind,
        Option.bind_some, Option.some.injEq]
      omega
    have element : StringUnit.ofCode unit.val = .surrogate unit.val :=
      if_pos (surrogate_iff.mp surrogate)
    simp only [unicodeEscape, List.cons_append, List.nil_append]
    rw [readUnits, code, Option.bind_eq_bind, Option.bind_some, element]
    cases readUnits s <;> rfl
  · rw [if_neg surrogate]
    refine ⟨.char (Char.ofNat unit.val), readUnits_escapeChar _ s, ?_⟩
    have valid : (Char.ofNat unit.val).toNat = unit.val := by
      refine toNat_ofNat ?_
      rw [surrogate_iff] at surrogate
      omega
    rw [elementUnits, charUnits, valid, if_pos bound, ofNat_val]

theorem pairChar_toNat {high low : CodeUnit} (pair : (isHigh high && isLow low) = true) :
    (pairChar high low).toNat =
      0x10000 + (high.val - 0xD800) * 0x400 + (low.val - 0xDC00) := by
  simp only [isHigh, isLow, Bool.and_eq_true, decide_eq_true_iff] at pair
  exact toNat_ofNat (by omega)

theorem charUnits_pairChar {high low : CodeUnit} (pair : (isHigh high && isLow low) = true) :
    charUnits (pairChar high low) = [high, low] := by
  rw [charUnits, pairChar_toNat pair]
  simp only [isHigh, isLow, Bool.and_eq_true, decide_eq_true_iff] at pair
  rw [if_neg (by omega)]
  have first : 0xD800 + (0x10000 + (high.val - 0xD800) * 0x400 + (low.val - 0xDC00) - 0x10000) /
      0x400 = high.val := by omega
  have second : 0xDC00 + (0x10000 + (high.val - 0xD800) * 0x400 + (low.val - 0xDC00) - 0x10000) %
      0x400 = low.val := by omega
  rw [first, second, ofNat_val, ofNat_val]

theorem readUnits_pairChar {high low : CodeUnit} (pair : (isHigh high && isLow low) = true)
    (s : List Char) : readUnits (pairChar high low :: s) =
      (readUnits s).map fun read => (.char (pairChar high low) :: read.1, read.2) := by
  have large : 0x10000 ≤ (pairChar high low).toNat := by
    rw [pairChar_toNat pair]
    omega
  refine readUnits_plain ?_ ?_ ?_ s
  · rintro same
    rw [same] at large
    exact absurd large (by decide)
  · rintro same
    rw [same] at large
    exact absurd large (by decide)
  · intro small
    have := UInt32.lt_iff_toNat_lt.mp small
    have same : (pairChar high low).val.toNat = (pairChar high low).toNat := rfl
    rw [same] at this
    exact absurd (Nat.lt_of_le_of_lt large this) (by decide)

/-- A quoted string is read back unit by unit, lone surrogates included. -/
theorem readString_quoteUnits (text : JsString) (s : List Char) :
    readString (quoteUnits text ++ '"' :: s) = some (text, s) := by
  have units : ∃ elements, readUnits (quoteUnits text ++ '"' :: s) = some (elements, s) ∧
      elements.flatMap elementUnits = text := by
    induction text using quoteUnits.induct with
    | case1 => exact ⟨[], rfl, rfl⟩
    | case2 high low rest pair ih =>
      obtain ⟨elements, read, same⟩ := ih
      refine ⟨.char (pairChar high low) :: elements, ?_, ?_⟩
      · rw [quoteUnits, if_pos pair, List.cons_append, readUnits_pairChar pair, read,
          Option.map_some]
      · rw [List.flatMap_cons, elementUnits, charUnits_pairChar pair, same]
        rfl
    | case3 high low rest pair ih =>
      obtain ⟨elements, read, same⟩ := ih
      obtain ⟨element, reads, unit⟩ :=
        readUnits_unitText high (quoteUnits (low :: rest) ++ '"' :: s)
      refine ⟨element :: elements, ?_, ?_⟩
      · rw [quoteUnits, if_neg pair, List.append_assoc, reads, read, Option.map_some]
      · rw [List.flatMap_cons, unit, same]
        rfl
    | case4 unit =>
      obtain ⟨element, reads, same⟩ := readUnits_unitText unit ('"' :: s)
      refine ⟨[element], ?_, ?_⟩
      · rw [quoteUnits, reads]
        rfl
      · rw [List.flatMap_singleton, same]
  obtain ⟨elements, read, same⟩ := units
  rw [readString, read, Option.map_some, same]

theorem length_commaSeparated_cons (text : List Char) (texts : List (List Char)) :
    text.length ≤ (commaSeparated (text :: texts)).length ∧
      (commaSeparated texts).length ≤ (commaSeparated (text :: texts)).length := by
  cases texts with
  | nil => exact ⟨Nat.le_refl _, Nat.zero_le _⟩
  | cons next rest =>
    rw [commaSeparated, List.length_append, List.length_cons]
    omega

/-- Where each text is read as its element, so is the list between its brackets. -/
theorem readSeparated_texts {read : List Char → Option (α × List Char)} {close : Char}
    (closes : close = ']' ∨ close = '}') {elements : List α} {texts : List (List Char)} {size : Nat}
    (each : List.Forall₂ (fun element text => text.length ≤ size → ∀ s, Delimited s →
      read (text ++ s) = some (element, s)) elements texts) (nonempty : elements ≠ [])
    (inside : (commaSeparated texts).length ≤ size) {fuel : Nat} (enough : elements.length ≤ fuel)
    (s : List Char) :
    readSeparated read close fuel (commaSeparated texts ++ close :: s) = some (elements, s) := by
  have closing (s : List Char) : skipSpace (close :: s) = close :: s := by
    rcases closes with rfl | rfl <;> rfl
  have ends (s : List Char) : Delimited (close :: s) := delimited_cons (.inr closes)
  have apart : close ≠ ',' := by rcases closes with rfl | rfl <;> decide
  induction each generalizing fuel with
  | nil => exact absurd rfl nonempty
  | @cons element text elements texts head tail ih =>
    obtain ⟨first, others⟩ := length_commaSeparated_cons text texts
    obtain ⟨fuel, rfl⟩ : ∃ n, fuel = n + 1 := ⟨fuel - 1, by
      rw [List.length_cons] at enough
      omega⟩
    cases tail with
    | nil =>
      rw [commaSeparated, readSeparated, head (first.trans inside) _ (ends s)]
      simp only [Option.bind_eq_bind, Option.bind_some, closing, apart, if_false, if_true]
    | @cons next nextText elements texts nextHead tail =>
      have comma (s : List Char) : skipSpace (',' :: s) = ',' :: s := rfl
      have more := @ih (List.cons_ne_nil _ _) (others.trans inside) fuel
        (Nat.le_of_succ_le_succ enough)
      rw [commaSeparated, List.append_assoc, List.cons_append, readSeparated,
        head (first.trans inside) _ (delimited_cons (.inl rfl))]
      simp only [Option.bind_eq_bind, Option.bind_some, comma, if_true, more, Option.map_some]

theorem foldl_setKey {members fields : List (JsString × JsValue)}
    (distinct : ((fields ++ members).map Prod.fst).Nodup) :
    members.foldl setKey fields = fields ++ members := by
  induction members generalizing fields with
  | nil => rw [List.foldl_nil, List.append_nil]
  | cons member rest ih =>
    have absent : fields.any (·.1 == member.1) = false := by
      rw [List.map_append, List.map_cons, List.nodup_append] at distinct
      rw [List.any_eq_false]
      intro entry inside same
      exact distinct.2.2 _ (List.mem_map_of_mem inside) _ List.mem_cons_self (beq_iff_eq.mp same)
    have added : setKey fields member = fields ++ [member] := by
      rw [setKey, absent]
      rfl
    rw [List.foldl_cons, added, ih, List.append_assoc, List.singleton_append]
    rwa [List.append_assoc, List.singleton_append]

end Anastom.JsValue
