import Anastom.Core.Json
import Mathlib.Data.List.TakeWhile

/-! The canonical text of a value is self-delimiting: what follows a value starts
with a delimiter, so two texts that agree with their continuations agree alone.
Hence equal texts of two objects have, key by key, equal field texts. -/
namespace Anastom.Json

/-- The character that a two-character escape stands for. -/
def unescape (c : Char) : Char :=
  match c with
  | 'n' => '\n'
  | 'r' => '\r'
  | 't' => '\t'
  | 'b' => Char.ofNat 8
  | 'f' => Char.ofNat 12
  | c => c

theorem escapeChar_shape (c : Char) :
    (escapeChar c = [c] ∧ c ≠ '"' ∧ c ≠ '\\') ∨
    (∃ x, escapeChar c = ['\\', x] ∧ x ≠ 'u' ∧ c = unescape x) ∨
    (escapeChar c = ['\\', 'u', '0', '0', Nat.digitChar (c.toNat / 16),
      Nat.digitChar (c.toNat % 16)] ∧ c.toNat < 32) := by
  unfold escapeChar
  split
  · exact .inr (.inl ⟨'"', rfl, by decide, rfl⟩)
  · exact .inr (.inl ⟨'\\', rfl, by decide, rfl⟩)
  · exact .inr (.inl ⟨'n', rfl, by decide, rfl⟩)
  · exact .inr (.inl ⟨'r', rfl, by decide, rfl⟩)
  · exact .inr (.inl ⟨'t', rfl, by decide, rfl⟩)
  case _ quote backslash _ _ _ =>
    split
    case isTrue backspace =>
      exact .inr (.inl ⟨'b', rfl, by decide, Char.ext backspace⟩)
    case isFalse =>
      split
      case isTrue feed => exact .inr (.inl ⟨'f', rfl, by decide, Char.ext feed⟩)
      case isFalse =>
        split
        case isTrue control => exact .inr (.inr ⟨rfl, UInt32.lt_iff_toNat_lt.mp control⟩)
        case isFalse => exact .inl ⟨rfl, quote, backslash⟩

theorem digitChar_injective {m n : Nat} (small : m < 16) (small' : n < 16)
    (same : Nat.digitChar m = Nat.digitChar n) : m = n := by
  have table : ∀ i j : Fin 16, Nat.digitChar i = Nat.digitChar j → i = j := by decide
  exact congrArg Fin.val (table ⟨m, small⟩ ⟨n, small'⟩ same)

theorem escapeChar_prefix {c d : Char} {s t : List Char}
    (same : escapeChar c ++ s = escapeChar d ++ t) : c = d ∧ s = t := by
  rcases escapeChar_shape c with ⟨plain, _, notBackslash⟩ | ⟨x, two, notU, decoded⟩ | ⟨six, small⟩ <;>
    rcases escapeChar_shape d with ⟨plain', _, notBackslash'⟩ | ⟨y, two', notU', decoded'⟩ |
      ⟨six', small'⟩
  · simpa [plain, plain'] using same
  · simp [plain, two', notBackslash] at same
  · simp [plain, six', notBackslash] at same
  · simp [two, plain', Ne.symm notBackslash'] at same
  · simp only [two, two', List.cons_append, List.cons.injEq, List.nil_append] at same
    obtain ⟨_, rfl, rest⟩ := same
    exact ⟨decoded.trans decoded'.symm, rest⟩
  · simp [two, six', notU] at same
  · simp [six, plain', Ne.symm notBackslash'] at same
  · simp [six, two', Ne.symm notU'] at same
  · simp only [six, six', List.cons_append, List.cons.injEq, List.nil_append, true_and] at same
    obtain ⟨high, low, rest⟩ := same
    have highSame := digitChar_injective (by omega) (by omega) high
    have lowSame := digitChar_injective (by omega) (by omega) low
    refine ⟨Char.ext (UInt32.toNat_inj.mp ?_), rest⟩
    change c.toNat = d.toNat
    omega

theorem escapeChar_notQuote (c : Char) (s t : List Char) : escapeChar c ++ s ≠ '"' :: t := by
  intro same
  rcases escapeChar_shape c with ⟨plain, notQuote, _⟩ | ⟨x, two, _⟩ | ⟨six, _⟩
  · simp only [plain, List.cons_append, List.cons.injEq] at same
    exact notQuote same.1
  · simp [two] at same
  · simp [six] at same

theorem escaped_prefix {cs ds s t : List Char}
    (same : cs.flatMap escapeChar ++ '"' :: s = ds.flatMap escapeChar ++ '"' :: t) :
    cs = ds ∧ s = t := by
  induction cs generalizing ds with
  | nil =>
    cases ds with
    | nil => simpa using same
    | cons d ds =>
      simp only [List.flatMap_nil, List.nil_append, List.flatMap_cons, List.append_assoc] at same
      exact absurd same.symm (escapeChar_notQuote d _ _)
  | cons c cs ih =>
    cases ds with
    | nil =>
      simp only [List.flatMap_nil, List.nil_append, List.flatMap_cons, List.append_assoc] at same
      exact absurd same (escapeChar_notQuote c _ _)
    | cons d ds =>
      simp only [List.flatMap_cons, List.append_assoc] at same
      obtain ⟨rfl, rest⟩ := escapeChar_prefix same
      obtain ⟨rfl, tail⟩ := ih rest
      exact ⟨rfl, tail⟩

theorem stringChars_prefix {a b : String} {s t : List Char}
    (same : stringChars a ++ s = stringChars b ++ t) : a = b ∧ s = t := by
  simp only [stringChars, List.cons_append, List.append_assoc, List.cons.injEq, true_and,
    List.nil_append] at same
  obtain ⟨chars, rest⟩ := escaped_prefix same
  exact ⟨String.toList_inj.mp chars, rest⟩

theorem stringChars_injective {a b : String} (same : stringChars a = stringChars b) : a = b :=
  And.left <| stringChars_prefix (congrArg (· ++ []) same)

theorem toDigits_head {n : Nat} (positive : n ≠ 0) : (Nat.toDigits 10 n).head? ≠ some '0' := by
  induction n using Nat.strongRecOn with
  | ind n ih =>
    by_cases small : n < 10
    · have table : ∀ i : Fin 10, i.val ≠ 0 → (Nat.toDigits 10 i).head? ≠ some '0' := by decide
      exact table ⟨n, small⟩ positive
    · have split := Nat.toDigits_append_toDigits (b := 10) (n := n / 10) (d := n % 10) (by decide)
        (by omega) (by omega)
      have shorter := ih (n / 10) (by omega) (by omega)
      rw [Nat.div_add_mod] at split
      rw [← split, List.head?_append_of_ne_nil _ Nat.toDigits_ne_nil]
      exact shorter

def isNumberChar (c : Char) : Bool := c.isDigit || c == '-' || c == '.' || c == 'e' || c == '+'

theorem isNumberChar_digit {c : Char} (digit : c.isDigit = true) : isNumberChar c = true := by
  simp [isNumberChar, digit]

theorem isNumberChar_toDigits {n : Nat} {c : Char} (member : c ∈ Nat.toDigits 10 n) :
    isNumberChar c = true :=
  isNumberChar_digit (Nat.isDigit_of_mem_toDigits (by decide) (by decide) member)

theorem isNumberChar_replicate {n : Nat} {c : Char} (member : c ∈ List.replicate n '0') :
    isNumberChar c = true := by
  rw [(List.mem_replicate.mp member).2]
  decide

theorem numberChars_chars (value : JsonNumber) : ∀ c ∈ numberChars value, isNumberChar c := by
  intro c member
  have digits {c : Char} : c ∈ Nat.toDigits 10 value.digits → isNumberChar c = true :=
    isNumberChar_toDigits
  simp only [numberChars] at member
  split at member
  · rw [List.mem_singleton.mp member]; decide
  · rcases List.mem_append.mp member with sign | body
    · split at sign
      · rw [List.mem_singleton.mp sign]; decide
      · cases sign
    · split at body
      · rcases List.mem_append.mp body with digit | zeros
        · exact digits digit
        · exact isNumberChar_replicate zeros
      · split at body
        · rcases List.mem_append.mp body with whole | fraction
          · exact digits (List.mem_of_mem_take whole)
          · rcases List.mem_cons.mp fraction with rfl | fraction
            · decide
            · exact digits (List.mem_of_mem_drop fraction)
        · split at body
          · simp only [List.cons_append, List.mem_cons, List.mem_append] at body
            rcases body with rfl | rfl | zeros | digit
            · decide
            · decide
            · exact isNumberChar_replicate zeros
            · exact digits digit
          · simp only [List.append_assoc, List.mem_append, List.mem_cons] at body
            rcases body with first | fraction | rfl | scale
            · exact digits (List.mem_of_mem_take first)
            · split at fraction
              · cases fraction
              · rcases List.mem_cons.mp fraction with rfl | rest
                · decide
                · exact digits (List.mem_of_mem_drop rest)
            · decide
            · split at scale <;> rcases List.mem_cons.mp scale with rfl | digit
              · decide
              · exact isNumberChar_toDigits digit
              · decide
              · exact isNumberChar_toDigits digit

theorem numberChars_nonempty (value : JsonNumber) : numberChars value ≠ [] := by
  simp only [numberChars]
  have nonempty := @Nat.toDigits_ne_nil value.digits 10
  split
  · simp
  · intro empty
    have body := (List.append_eq_nil_iff.mp empty).2
    split at body
    · exact nonempty (List.append_eq_nil_iff.mp body).1
    · split at body
      · simp at body
      · split at body <;> simp at body

theorem trim_value (fuel digits exponent : Nat) :
    (JsonNumber.trim fuel digits exponent).1 * 10 ^ (JsonNumber.trim fuel digits exponent).2 =
      digits * 10 ^ exponent := by
  induction fuel generalizing digits exponent with
  | zero => rfl
  | succ fuel ih =>
    simp only [JsonNumber.trim]
    split
    case isTrue divisible =>
      have whole : digits / 10 * 10 = digits := by omega
      rw [ih, Nat.pow_succ, Nat.mul_comm (10 ^ exponent) 10, ← Nat.mul_assoc, whole]
    case isFalse => rfl

/-- The digits and the exponent of a positive natural. -/
theorem ofNat_form {n : Nat} (positive : n ≠ 0) : ∃ digits exponent : Nat, ∃ normal,
    JsonNumber.ofNat n = ⟨false, digits, exponent, normal⟩ ∧ digits ≠ 0 ∧
      digits * 10 ^ exponent = n := by
  have normal := JsonNumber.trim_normal n n 0 (Nat.pos_of_ne_zero positive) (Nat.le_refl n)
  refine ⟨(JsonNumber.trim n n 0).1, (JsonNumber.trim n n 0).2, .inl normal, ?_, ?_, ?_⟩
  · simp [JsonNumber.ofNat, positive]
  · intro zero
    rw [zero] at normal
    omega
  · rw [trim_value, Nat.pow_zero, Nat.mul_one]

/-- The digits of a scaled number, its zeros included. -/
theorem digits_le_iff {digits exponent k : Nat} (positive : digits ≠ 0) :
    (Nat.toDigits 10 digits).length + exponent ≤ k ↔ digits * 10 ^ exponent < 10 ^ k := by
  have scale := Nat.le_mul_of_pos_left (10 ^ exponent) (Nat.pos_of_ne_zero positive)
  have digitCount : 0 < (Nat.toDigits 10 digits).length := Nat.length_toDigits_pos
  by_cases small : exponent < k
  · have split : (10 : Nat) ^ k = 10 ^ (k - exponent) * 10 ^ exponent := by
      rw [← Nat.pow_add, Nat.sub_add_cancel (by omega)]
    rw [split, Nat.mul_lt_mul_right (Nat.pow_pos (by decide)),
      ← Nat.length_toDigits_le_iff (by decide) (by omega)]
    omega
  · have large := Nat.pow_le_pow_right (n := 10) (by decide) (Nat.le_of_not_lt small)
    omega

/-- The plain form ends at 10^21. -/
theorem plain_iff {digits exponent : Nat} (positive : digits ≠ 0) :
    (Nat.toDigits 10 digits).length + exponent ≤ 21 ↔ digits * 10 ^ exponent < 10 ^ 21 :=
  digits_le_iff positive

/-- A natural below 10^21 is printed with all its digits. -/
theorem numberChars_digits {digits exponent : Nat} {normal} (positive : digits ≠ 0)
    (small : (Nat.toDigits 10 digits).length + exponent ≤ 21) :
    numberChars ⟨false, digits, exponent, normal⟩ =
      Nat.toDigits 10 digits ++ List.replicate exponent '0' := by
  have plain : ((Nat.toDigits 10 digits).length : Int) ≤ (Nat.toDigits 10 digits).length + exponent ∧
      ((Nat.toDigits 10 digits).length : Int) + exponent ≤ 21 := by omega
  have zeros : (((Nat.toDigits 10 digits).length : Int) + exponent -
      (Nat.toDigits 10 digits).length).toNat = exponent := by omega
  simp only [numberChars, positive, if_false, plain, and_self, if_true, Bool.false_eq_true,
    List.nil_append, zeros]

/-- A natural below 10^21 is printed as its plain decimal digits. -/
theorem numberChars_plain {n : Nat} (small : n < 10 ^ 21) :
    Nat.ofDigitChars 10 (numberChars (JsonNumber.ofNat n)) 0 = n ∧
      'e' ∉ numberChars (JsonNumber.ofNat n) := by
  by_cases zero : n = 0
  · subst zero
    decide
  · obtain ⟨digits, exponent, normal, form, positive, value⟩ := ofNat_form zero
    rw [form]
    rw [← value, ← plain_iff positive] at small
    rw [numberChars_digits positive small, Nat.ofDigitChars_append, Nat.ofDigitChars_ten_toDigits,
      Nat.ofDigitChars_replicate_zero, Nat.mul_comm, value]
    refine ⟨rfl, ?_⟩
    intro member
    rcases List.mem_append.mp member with digit | zero
    · have := Nat.isDigit_of_mem_toDigits (by decide) (by decide) digit
      simp at this
    · have := (List.mem_replicate.mp zero).2
      simp at this

/-- A natural from 10^21 on is printed in exponent notation. -/
theorem numberChars_scientific {n : Nat} (large : 10 ^ 21 ≤ n) :
    'e' ∈ numberChars (JsonNumber.ofNat n) := by
  obtain ⟨digits, exponent, normal, form, positive, value⟩ := ofNat_form (n := n) (by omega)
  rw [form]
  have long : ¬ (Nat.toDigits 10 digits).length + exponent ≤ 21 := by
    rw [plain_iff positive, value]
    omega
  have notPlain : ¬ (((Nat.toDigits 10 digits).length : Int) + exponent ≤ 21) := by omega
  have notSmall : ¬ (((Nat.toDigits 10 digits).length : Int) + exponent ≤ 0) := by omega
  simp [numberChars, positive, notPlain, notSmall]

theorem numberChars_ofNat_injective {m n : Nat} (small : n < 10 ^ 21)
    (same : numberChars (JsonNumber.ofNat m) = numberChars (JsonNumber.ofNat n)) : m = n := by
  obtain ⟨value, noExponent⟩ := numberChars_plain small
  by_cases large : 10 ^ 21 ≤ m
  · exact absurd (same ▸ numberChars_scientific large) noExponent
  · rw [← (numberChars_plain (Nat.lt_of_not_le large)).1, same, value]

/-- What may follow a value inside a canonical text. -/
def Delimited (s : List Char) : Prop := ∀ c ∈ s.head?, c = ',' ∨ c = ']' ∨ c = '}'

theorem Delimited.notNumber {s : List Char} (delimited : Delimited s) {c : Char}
    (head : s.head? = some c) : isNumberChar c = false := by
  rcases delimited c head with rfl | rfl | rfl <;> decide

/-- A text that ends where it must, among texts of one kind, whatever follows. -/
def SelfDelimiting (kind : List Char → Prop) (text : List Char) : Prop :=
  ∀ other s t, kind other → Delimited s → Delimited t → text ++ s = other ++ t →
    text = other ∧ s = t

def ValueText (text : List Char) : Prop := ∃ value, text = canonicalChars value

def MemberText (text : List Char) : Prop :=
  ∃ key value, text = stringChars key ++ ':' :: canonicalChars value

/-- The first character tells the kind of a value. -/
def opening (c : Char) : Nat := if isNumberChar c then 0 else c.toNat

def openingOf : JsonValue → Nat
  | .null => opening 'n'
  | .bool true => opening 't'
  | .bool false => opening 'f'
  | .number _ => 0
  | .string _ => opening '"'
  | .array _ => opening '['
  | .object _ => opening '{'

theorem canonicalChars_opening (value : JsonValue) :
    ∃ c rest, canonicalChars value = c :: rest ∧ opening c = openingOf value := by
  cases value with
  | null => exact ⟨_, _, rfl, rfl⟩
  | bool value => cases value <;> exact ⟨_, _, rfl, rfl⟩
  | string value => exact ⟨_, _, rfl, rfl⟩
  | array items => exact ⟨_, _, rfl, rfl⟩
  | object fields => exact ⟨_, _, rfl, rfl⟩
  | number value =>
    obtain ⟨c, rest, split⟩ := List.exists_cons_of_ne_nil (numberChars_nonempty value)
    refine ⟨c, rest, split, ?_⟩
    have first := numberChars_chars value c (split ▸ List.mem_cons_self)
    simp [opening, openingOf, first]

theorem openingOf_same {a b : JsonValue} {s t : List Char}
    (same : canonicalChars a ++ s = canonicalChars b ++ t) : openingOf a = openingOf b := by
  obtain ⟨c, rest, left, opens⟩ := canonicalChars_opening a
  obtain ⟨d, rest', right, opens'⟩ := canonicalChars_opening b
  rw [left, right] at same
  rw [← opens, ← opens', (List.cons.inj same).1]

theorem valueText_opens {text s t : List Char} {c : Char} (value : ValueText text)
    (closes : c = ',' ∨ c = ']' ∨ c = '}') : text ++ s ≠ c :: t := by
  obtain ⟨value, rfl⟩ := value
  obtain ⟨d, rest, split, opens⟩ := canonicalChars_opening value
  rw [split]
  intro same
  rw [(List.cons.inj same).1] at opens
  rcases closes with rfl | rfl | rfl <;>
    cases value <;> first | (rename Bool => flag; cases flag <;> revert opens <;> decide) |
      (revert opens; simp [openingOf, opening, isNumberChar])

theorem memberText_opens {text s t : List Char} {c : Char} (member : MemberText text)
    (closes : c = ',' ∨ c = ']' ∨ c = '}') : text ++ s ≠ c :: t := by
  obtain ⟨key, value, rfl⟩ := member
  intro same
  have opens : '"' = c := (List.cons.inj same).1
  subst opens
  revert closes
  decide

theorem takeWhile_number {chars s : List Char} (all : ∀ c ∈ chars, isNumberChar c = true)
    (delimited : Delimited s) : (chars ++ s).takeWhile isNumberChar = chars := by
  rw [List.takeWhile_append_of_pos all]
  cases s with
  | nil => simp
  | cons c rest => simp [delimited.notNumber (c := c) rfl]

theorem number_selfDelimiting (value : JsonNumber) :
    SelfDelimiting ValueText (numberChars value) := by
  rintro other s t ⟨v, rfl⟩ before after same
  have kind : openingOf (.number value) = openingOf v := openingOf_same same
  cases v with
  | number w =>
    have left := takeWhile_number (numberChars_chars value) before
    have right := takeWhile_number (numberChars_chars w) after
    simp only [canonicalChars] at same ⊢
    rw [same, right] at left
    rw [left] at same
    exact ⟨left.symm, List.append_cancel_left same⟩
  | bool flag => cases flag <;> simp [openingOf, opening, isNumberChar] at kind
  | null | string | array | object => simp [openingOf, opening, isNumberChar] at kind

/-- Separated texts of one kind agree with their continuation only if they agree. -/
theorem separated_prefix {kind : List Char → Prop} {close : Char}
    (closes : close = ']' ∨ close = '}')
    (opens : ∀ {text s t c}, kind text → c = ',' ∨ c = ']' ∨ c = '}' → text ++ s ≠ c :: t)
    {texts others : List (List Char)} (each : ∀ text ∈ texts, SelfDelimiting kind text)
    (left : ∀ text ∈ texts, kind text) (right : ∀ text ∈ others, kind text) {s t : List Char}
    (same : commaSeparated texts ++ close :: s = commaSeparated others ++ close :: t) :
    texts = others ∧ s = t := by
  have closing : close = ',' ∨ close = ']' ∨ close = '}' := .inr closes
  have ends {u : List Char} : Delimited (close :: u) := by
    rintro c ⟨⟩
    exact closing
  have continues {u : List Char} : Delimited (',' :: u) := by
    rintro c ⟨⟩
    exact .inl rfl
  induction texts generalizing others with
  | nil =>
    cases others with
    | nil => simpa [commaSeparated] using same
    | cons other rest =>
      cases rest <;> simp only [commaSeparated, List.nil_append, List.append_assoc] at same <;>
        exact absurd same.symm (opens (right other List.mem_cons_self) closing)
  | cons text texts ih =>
    cases others with
    | nil =>
      cases texts <;> simp only [commaSeparated, List.nil_append, List.append_assoc] at same <;>
        exact absurd same (opens (left text List.mem_cons_self) closing)
    | cons other others =>
      have whole := each text List.mem_cons_self
      have tail := ih (fun text member => each text (List.mem_cons_of_mem _ member))
        (fun text member => left text (List.mem_cons_of_mem _ member))
        (fun text member => right text (List.mem_cons_of_mem _ member))
      have otherKind := right other List.mem_cons_self
      cases texts with
      | nil =>
        cases others with
        | nil =>
          simp only [commaSeparated] at same
          obtain ⟨rfl, rest⟩ := whole other _ _ otherKind ends ends same
          exact ⟨rfl, (List.cons.inj rest).2⟩
        | cons next others =>
          simp only [commaSeparated, List.append_assoc, List.cons_append] at same
          obtain ⟨_, rest⟩ := whole other _ _ otherKind ends continues same
          rcases closes with rfl | rfl <;> exact absurd (List.cons.inj rest).1 (by decide)
      | cons after texts =>
        cases others with
        | nil =>
          simp only [commaSeparated, List.append_assoc, List.cons_append] at same
          obtain ⟨_, rest⟩ := whole other _ _ otherKind continues ends same
          rcases closes with rfl | rfl <;> exact absurd (List.cons.inj rest).1 (by decide)
        | cons next others =>
          simp only [commaSeparated, List.append_assoc, List.cons_append] at same
          obtain ⟨rfl, rest⟩ := whole other _ _ otherKind continues continues same
          obtain ⟨equal, rest⟩ := tail (List.cons.inj rest).2
          exact ⟨by rw [equal], rest⟩

theorem member_selfDelimiting {key : String} {text : List Char}
    (value : SelfDelimiting ValueText text) :
    SelfDelimiting MemberText (stringChars key ++ ':' :: text) := by
  rintro other s t ⟨key', value', rfl⟩ before after same
  simp only [List.append_assoc, List.cons_append] at same
  obtain ⟨rfl, rest⟩ := stringChars_prefix same
  obtain ⟨equal, rest⟩ := value _ s t ⟨value', rfl⟩ before after (List.cons.inj rest).2
  exact ⟨by rw [equal], rest⟩

theorem itemTexts_value : ∀ (items : List JsonValue), ∀ text ∈ itemTexts items, ValueText text
  | [], _, member => by cases member
  | item :: rest, text, member => by
    rcases List.mem_cons.mp member with rfl | member
    · exact ⟨item, rfl⟩
    · exact itemTexts_value rest text member

/-- The texts of an object's members in the order of their sorted keys. -/
def memberTexts (fields : List (String × JsonValue)) : List (List Char) :=
  (sortFields (fieldTexts fields)).map fun (key, text) => stringChars key ++ ':' :: text

theorem mem_sortFields {fields : List (String × List Char)} {entry : String × List Char} :
    entry ∈ sortFields fields ↔ entry ∈ fields :=
  (List.perm_insertionSort _ fields).mem_iff

theorem fieldTexts_value : ∀ (fields : List (String × JsonValue)),
    ∀ entry ∈ fieldTexts fields, ValueText entry.2
  | [], _, member => by cases member
  | (key, value) :: rest, entry, member => by
    rcases List.mem_cons.mp member with rfl | member
    · exact ⟨value, rfl⟩
    · exact fieldTexts_value rest entry member

theorem memberTexts_member (fields : List (String × JsonValue)) :
    ∀ text ∈ memberTexts fields, MemberText text := by
  intro text member
  obtain ⟨⟨key, inner⟩, sorted, rfl⟩ := List.mem_map.mp member
  obtain ⟨value, same⟩ := fieldTexts_value fields _ (mem_sortFields.mp sorted)
  exact ⟨key, value, by rw [← same]⟩

theorem array_prefix {items : List JsonValue}
    (each : ∀ text ∈ itemTexts items, SelfDelimiting ValueText text) {others : List JsonValue}
    {s t : List Char} (same : canonicalChars (.array items) ++ s = canonicalChars (.array others) ++ t) :
    itemTexts items = itemTexts others ∧ s = t := by
  simp only [canonicalChars, List.cons_append, List.append_assoc, List.cons.injEq, true_and,
    List.nil_append] at same
  exact separated_prefix (.inl rfl) valueText_opens each (itemTexts_value items)
    (itemTexts_value others) same

theorem object_prefix {fields others : List (String × JsonValue)}
    (each : ∀ entry ∈ fieldTexts fields, SelfDelimiting ValueText entry.2) {s t : List Char}
    (same : canonicalChars (.object fields) ++ s = canonicalChars (.object others) ++ t) :
    memberTexts fields = memberTexts others ∧ s = t := by
  simp only [canonicalChars, List.cons_append, List.append_assoc, List.cons.injEq, true_and,
    List.nil_append] at same
  refine separated_prefix (.inr rfl) memberText_opens ?_ (memberTexts_member fields)
    (memberTexts_member others) same
  intro text member
  obtain ⟨⟨key, inner⟩, sorted, rfl⟩ := List.mem_map.mp member
  exact member_selfDelimiting (each _ (mem_sortFields.mp sorted))

/-- A value whose kind fixes its whole text. -/
theorem constant_selfDelimiting {value : JsonValue} {text : List Char}
    (printed : canonicalChars value = text)
    (unique : ∀ other, openingOf value = openingOf other → other = value) :
    SelfDelimiting ValueText text := by
  rintro other s t ⟨v, rfl⟩ _ _ same
  subst printed
  have equal := unique v (openingOf_same same)
  subst equal
  exact ⟨rfl, List.append_cancel_left same⟩

mutual
theorem canonicalChars_selfDelimiting : (value : JsonValue) →
    SelfDelimiting ValueText (canonicalChars value)
  | .null => constant_selfDelimiting rfl fun other kind => by
    cases other with
    | null => rfl
    | number => simp [openingOf, opening, isNumberChar] at kind
    | bool flag => cases flag <;> simp [openingOf, opening, isNumberChar] at kind
    | string | array | object => simp [openingOf, opening, isNumberChar] at kind
  | .bool flag => constant_selfDelimiting rfl fun other kind => by
    cases other with
    | bool other => cases flag <;> cases other <;>
        first | rfl | simp [openingOf, opening, isNumberChar] at kind
    | null | number | string | array | object =>
      cases flag <;> simp [openingOf, opening, isNumberChar] at kind
  | .number value => number_selfDelimiting value
  | .string value => by
    rintro other s t ⟨v, rfl⟩ _ _ same
    have kind : openingOf (.string value) = openingOf v := openingOf_same same
    cases v with
    | string other =>
      obtain ⟨rfl, rest⟩ := stringChars_prefix same
      exact ⟨rfl, rest⟩
    | bool flag => cases flag <;> simp [openingOf, opening, isNumberChar] at kind
    | null | number | array | object => simp [openingOf, opening, isNumberChar] at kind
  | .array items => by
    rintro other s t ⟨v, rfl⟩ _ _ same
    have kind : openingOf (.array items) = openingOf v := openingOf_same same
    cases v with
    | array others =>
      obtain ⟨texts, rest⟩ := array_prefix (itemTexts_selfDelimiting items) same
      exact ⟨by simp [canonicalChars, texts], rest⟩
    | bool flag => cases flag <;> simp [openingOf, opening, isNumberChar] at kind
    | null | number | string | object => simp [openingOf, opening, isNumberChar] at kind
  | .object fields => by
    rintro other s t ⟨v, rfl⟩ _ _ same
    have kind : openingOf (.object fields) = openingOf v := openingOf_same same
    cases v with
    | object others =>
      obtain ⟨texts, rest⟩ := object_prefix (fieldTexts_selfDelimiting fields) same
      unfold memberTexts at texts
      exact ⟨by simp only [canonicalChars, texts], rest⟩
    | bool flag => cases flag <;> simp [openingOf, opening, isNumberChar] at kind
    | null | number | string | array => simp [openingOf, opening, isNumberChar] at kind
theorem itemTexts_selfDelimiting : (items : List JsonValue) →
    ∀ text ∈ itemTexts items, SelfDelimiting ValueText text
  | [], _, member => by cases member
  | item :: rest, text, member => by
    rcases List.mem_cons.mp member with rfl | member
    · exact canonicalChars_selfDelimiting item
    · exact itemTexts_selfDelimiting rest text member
theorem fieldTexts_selfDelimiting : (fields : List (String × JsonValue)) →
    ∀ entry ∈ fieldTexts fields, SelfDelimiting ValueText entry.2
  | [], _, member => by cases member
  | (_, value) :: rest, entry, member => by
    rcases List.mem_cons.mp member with rfl | member
    · exact canonicalChars_selfDelimiting value
    · exact fieldTexts_selfDelimiting rest entry member
end

theorem array_injective {items others : List JsonValue}
    (same : canonicalChars (.array items) = canonicalChars (.array others)) :
    itemTexts items = itemTexts others :=
  And.left <| array_prefix (itemTexts_selfDelimiting items) (congrArg (· ++ []) same)

/-- Objects with one text have the same fields with the same texts, up to order. -/
theorem object_injective {fields others : List (String × JsonValue)}
    (same : canonicalChars (.object fields) = canonicalChars (.object others)) :
    (fieldTexts fields).Perm (fieldTexts others) := by
  obtain ⟨members, _⟩ :=
    object_prefix (fieldTexts_selfDelimiting fields) (congrArg (· ++ []) same)
  have sorted : sortFields (fieldTexts fields) = sortFields (fieldTexts others) := by
    refine List.map_injective_iff.mpr ?_ members
    rintro ⟨key, text⟩ ⟨key', text'⟩ equal
    obtain ⟨rfl, rest⟩ := stringChars_prefix equal
    rw [(List.cons.inj rest).2]
  have left : (fieldTexts fields).Perm (sortFields (fieldTexts fields)) :=
    (List.perm_insertionSort _ _).symm
  rw [sorted] at left
  exact left.trans (List.perm_insertionSort _ _)

theorem printable_of_mem {chars : List Char} {c : Char} (member : c ∈ chars)
    (all : chars.all (fun c => decide (32 ≤ c.toNat)) = true) : 32 ≤ c.toNat :=
  of_decide_eq_true (List.all_eq_true.mp all c member)

theorem escapeChar_printable {c d : Char} (member : d ∈ escapeChar c) : 32 ≤ d.toNat := by
  have hex : ∀ n, n < 16 → 32 ≤ (Nat.digitChar n).toNat := by decide
  have value : c.val.toNat = c.toNat := rfl
  unfold escapeChar at member
  split at member
  case h_6 =>
    split at member
    · exact printable_of_mem member (by decide)
    · split at member
      · exact printable_of_mem member (by decide)
      · split at member
        case isTrue small =>
          have small : c.toNat < 32 := small
          simp only [List.mem_cons, List.not_mem_nil, or_false] at member
          rcases member with rfl | rfl | rfl | rfl | rfl | rfl
          · decide
          · decide
          · decide
          · decide
          · exact hex _ (by omega)
          · exact hex _ (by omega)
        case isFalse large =>
          have large : ¬c.toNat < 32 := large
          rw [List.mem_singleton.mp member]
          omega
  all_goals exact printable_of_mem member (by decide)

theorem isNumberChar_printable {c : Char} (number : isNumberChar c = true) : 32 ≤ c.toNat := by
  unfold isNumberChar at number
  simp only [Bool.or_eq_true, beq_iff_eq] at number
  rcases number with (((digit | rfl) | rfl) | rfl) | rfl
  · have digit := Char.isDigit_iff_toNat.mp digit
    have zero : '0'.toNat = 48 := rfl
    omega
  all_goals decide

theorem mem_commaSeparated {texts : List (List Char)} {c : Char}
    (member : c ∈ commaSeparated texts) : c = ',' ∨ ∃ text ∈ texts, c ∈ text := by
  induction texts with
  | nil => cases member
  | cons text rest ih =>
    cases rest with
    | nil => exact .inr ⟨text, List.mem_cons_self, member⟩
    | cons next rest =>
      rw [commaSeparated, List.mem_append, List.mem_cons] at member
      rcases member with here | comma | later
      · exact .inr ⟨text, List.mem_cons_self, here⟩
      · exact .inl comma
      · exact (ih later).imp_right fun found => by
          obtain ⟨other, inside, member⟩ := found
          exact ⟨other, List.mem_cons_of_mem _ inside, member⟩

theorem stringChars_printable {s : String} {c : Char} (member : c ∈ stringChars s) :
    32 ≤ c.toNat := by
  rw [stringChars, List.cons_append, List.mem_cons, List.mem_append, List.mem_flatMap,
    List.mem_singleton] at member
  rcases member with rfl | ⟨d, _, member⟩ | rfl
  · decide
  · exact escapeChar_printable member
  · decide

mutual
theorem canonicalChars_printable : (value : JsonValue) →
    ∀ c ∈ canonicalChars value, 32 ≤ c.toNat
  | .null => by
    rw [canonicalChars]
    exact fun c member => printable_of_mem member (by decide)
  | .bool true => by
    rw [canonicalChars]
    exact fun c member => printable_of_mem member (by decide)
  | .bool false => by
    rw [canonicalChars]
    exact fun c member => printable_of_mem member (by decide)
  | .number value => by
    rw [canonicalChars]
    exact fun c member => isNumberChar_printable (numberChars_chars value c member)
  | .string value => by
    rw [canonicalChars]
    exact fun c member => stringChars_printable member
  | .array items => by
    intro c member
    rw [canonicalChars, List.cons_append, List.mem_cons, List.mem_append,
      List.mem_singleton] at member
    rcases member with rfl | inside | rfl
    · decide
    · rcases mem_commaSeparated inside with rfl | ⟨text, listed, member⟩
      · decide
      · exact itemTexts_printable items text listed c member
    · decide
  | .object fields => by
    intro c member
    rw [canonicalChars, List.cons_append, List.mem_cons, List.mem_append,
      List.mem_singleton] at member
    rcases member with rfl | inside | rfl
    · decide
    · rcases mem_commaSeparated inside with rfl | ⟨text, listed, member⟩
      · decide
      · obtain ⟨entry, sorted, rfl⟩ := List.mem_map.mp listed
        rcases List.mem_append.mp member with name | behind
        · exact stringChars_printable name
        · rcases List.mem_cons.mp behind with rfl | inner
          · decide
          · exact fieldTexts_printable fields entry (mem_sortFields.mp sorted) c inner
    · decide
theorem itemTexts_printable : (items : List JsonValue) →
    ∀ text ∈ itemTexts items, ∀ c ∈ text, 32 ≤ c.toNat
  | [], _, member => by cases member
  | item :: rest, text, member => by
    rcases List.mem_cons.mp member with rfl | member
    · exact canonicalChars_printable item
    · exact itemTexts_printable rest text member
theorem fieldTexts_printable : (fields : List (String × JsonValue)) →
    ∀ entry ∈ fieldTexts fields, ∀ c ∈ entry.2, 32 ≤ c.toNat
  | [], _, member => by cases member
  | (_, value) :: rest, entry, member => by
    rcases List.mem_cons.mp member with rfl | member
    · exact canonicalChars_printable value
    · exact fieldTexts_printable rest entry member
end

end Anastom.Json
