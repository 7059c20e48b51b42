import Anastom.Core.JsonSize
import Anastom.Engine.JsonParse

/-! Reading canonical text. What follows a value in such a text starts with a delimiter, so
a token ends where it was printed to end. -/
namespace Anastom

theorem JsonNumber.trim_scaled {digits : Nat} (normal : digits % 10 ≠ 0) (k fuel exponent : Nat)
    (enough : digits * 10 ^ k ≤ fuel) :
    trim fuel (digits * 10 ^ k) exponent = (digits, exponent + k) := by
  induction k generalizing fuel exponent with
  | zero =>
    cases fuel with
    | zero => rw [trim, Nat.pow_zero, Nat.mul_one, Nat.add_zero]
    | succ fuel => rw [trim, Nat.pow_zero, Nat.mul_one, if_neg normal, Nat.add_zero]
  | succ k ih =>
    have positive : 0 < digits * 10 ^ k :=
      Nat.mul_pos (Nat.pos_of_ne_zero fun zero => normal (by rw [zero])) (Nat.pow_pos (by decide))
    have shifted : digits * 10 ^ (k + 1) = digits * 10 ^ k * 10 := by
      rw [Nat.pow_succ, Nat.mul_assoc]
    rw [shifted] at enough ⊢
    cases fuel with
    | zero => omega
    | succ fuel =>
      rw [trim, if_pos (Nat.mul_mod_left _ _), Nat.mul_div_cancel _ (by decide),
        ih fuel (exponent + 1) (by omega), Nat.add_assoc, Nat.add_comm 1 k]

theorem JsonNumber.ofDecimal_scaled (negative : Bool) {digits : Nat} (normal : digits % 10 ≠ 0)
    (k : Nat) (exponent : Int) :
    ofDecimal negative (digits * 10 ^ k) exponent = ⟨negative, digits, exponent + k, .inl normal⟩ := by
  have nonzero : digits * 10 ^ k ≠ 0 :=
    Nat.ne_of_gt (Nat.mul_pos (Nat.pos_of_ne_zero fun zero => normal (by rw [zero]))
      (Nat.pow_pos (by decide)))
  have trimmed := trim_scaled normal k (digits * 10 ^ k) 0 (Nat.le_refl _)
  simp only [ofDecimal, nonzero, dif_neg, not_false_eq_true, trimmed, Nat.zero_add]

namespace Json

/-- Does not go on with a digit. -/
def NoDigit (s : List Char) : Prop := ∀ c ∈ s.head?, c.isDigit = false

theorem spanDigits_append {digits s : List Char} (all : ∀ c ∈ digits, c.isDigit = true)
    (ends : NoDigit s) : spanDigits (digits ++ s) = (digits, s) := by
  rw [spanDigits, List.takeWhile_append_of_pos all, List.dropWhile_append_of_pos all]
  cases s with
  | nil => simp
  | cons c rest =>
    have other : ¬ (c.isDigit = true) := by
      rw [ends c rfl]
      decide
    rw [List.takeWhile_cons_of_neg other, List.dropWhile_cons_of_neg other, List.append_nil]

theorem readMagnitude_text (negative : Bool) {whole fraction tail afterFraction s : List Char}
    {scale : Int} (all : ∀ c ∈ whole, c.isDigit = true) (some : whole ≠ [])
    (plain : leadingZero whole = false) (ends : NoDigit tail)
    (fractionRead : readFraction tail = .some (fraction, afterFraction))
    (exponentRead : readExponent afterFraction = .some (scale, s)) :
    readMagnitude negative (whole ++ tail) = .some (.ofDecimal negative
      (Nat.ofDigitChars 10 (whole ++ fraction) 0) (scale - fraction.length), s) := by
  have nonempty : whole.isEmpty = false := List.isEmpty_eq_false_iff.mpr some
  simp only [readMagnitude, spanDigits_append all ends, nonempty, plain, fractionRead,
    exponentRead, Bool.or_self, Bool.false_eq_true, if_false, Option.bind_eq_bind,
    Option.bind_some]

theorem Delimited.noDigit {s : List Char} (delimited : Delimited s) : NoDigit s := by
  intro c head
  have other := delimited.notNumber head
  cases digit : c.isDigit with
  | false => rfl
  | true =>
    rw [isNumberChar_digit digit] at other
    cases other

theorem readFraction_none {s : List Char} (other : s.head? ≠ some '.') :
    readFraction s = some ([], s) := by
  unfold readFraction
  split
  · exact absurd rfl other
  · rfl

theorem readFraction_digits {digits s : List Char} (all : ∀ c ∈ digits, c.isDigit = true)
    (some : digits ≠ []) (ends : NoDigit s) :
    readFraction ('.' :: (digits ++ s)) = .some (digits, s) := by
  rw [readFraction, spanDigits_append all ends]
  exact if_neg (by rwa [List.isEmpty_iff])

theorem readExponent_none {s : List Char} (delimited : Delimited s) :
    readExponent s = some (0, s) := by
  cases s with
  | nil => rfl
  | cons c rest =>
    have other : ¬ (c = 'e' ∨ c = 'E') := by
      rcases delimited c rfl with rfl | rfl | rfl <;> decide
    exact if_neg other

theorem readScale_digits (negative : Bool) (n : Nat) {s : List Char} (ends : NoDigit s) :
    readScale negative (Nat.toDigits 10 n ++ s) =
      some (if negative then -(n : Int) else n, s) := by
  have all : ∀ c ∈ Nat.toDigits 10 n, c.isDigit = true := fun c member =>
    Nat.isDigit_of_mem_toDigits (by decide) (by decide) member
  have nonempty : (Nat.toDigits 10 n).isEmpty = false :=
    List.isEmpty_eq_false_iff.mpr Nat.toDigits_ne_nil
  simp only [readScale, spanDigits_append all ends, nonempty, Bool.false_eq_true, if_false,
    Nat.ofDigitChars_ten_toDigits]

theorem leadingZero_head {whole : List Char} (head : whole.head? ≠ some '0') :
    leadingZero whole = false := by
  simp only [leadingZero, Bool.and_eq_false_iff, beq_eq_false_iff_ne]
  exact .inl head

theorem ofDecimal_digits (negative : Bool) {digits : Nat} {exponent scale : Int} {normal}
    (last : digits % 10 ≠ 0) (same : scale = exponent) :
    JsonNumber.ofDecimal negative digits scale = ⟨negative, digits, exponent, normal⟩ := by
  have scaled := JsonNumber.ofDecimal_scaled negative last 0 scale
  rw [Nat.pow_zero, Nat.mul_one] at scaled
  rw [scaled]
  congr 1
  omega

theorem noDigit_cons {c : Char} {s : List Char} (other : c.isDigit = false) : NoDigit (c :: s) := by
  rintro head ⟨⟩
  exact other

-- The four forms of a printed number, by its significant digits.
section
variable (negative : Bool) {digits : Nat} {exponent : Int} {normal} {chars s : List Char}
  (last : digits % 10 ≠ 0) (all : ∀ c ∈ chars, c.isDigit = true)
  (value : Nat.ofDigitChars 10 chars 0 = digits)
include last all value

theorem readMagnitude_plain {zeros : Nat} (head : chars.head? ≠ some '0') (some : chars ≠ [])
    (scale : exponent = zeros) (delimited : Delimited s) :
    readMagnitude negative (chars ++ List.replicate zeros '0' ++ s) =
      .some (⟨negative, digits, exponent, normal⟩, s) := by
  have allZeros : ∀ c ∈ chars ++ List.replicate zeros '0', c.isDigit = true := by
    intro c member
    rcases List.mem_append.mp member with digit | zero
    · exact all c digit
    · rw [List.eq_of_mem_replicate zero]
      rfl
  have nonempty : chars ++ List.replicate zeros '0' ≠ [] := List.append_ne_nil_of_left_ne_nil some _
  have plain : leadingZero (chars ++ List.replicate zeros '0') = false := by
    apply leadingZero_head
    rwa [List.head?_append_of_ne_nil _ some]
  have noFraction : readFraction s = .some ([], s) := by
    apply readFraction_none
    intro point
    rcases delimited '.' point with comma | bracket | brace <;> contradiction
  rw [readMagnitude_text negative allZeros nonempty plain delimited.noDigit noFraction
    (readExponent_none delimited), List.append_nil, Nat.ofDigitChars_append, value,
    Nat.ofDigitChars_replicate_zero, Nat.mul_comm, JsonNumber.ofDecimal_scaled negative last]
  congr 3
  simp only [List.length_nil]
  omega

theorem readMagnitude_point {n : Nat} (head : chars.head? ≠ some '0') (some : 0 < n)
    (inside : n < chars.length) (scale : exponent = n - chars.length) (delimited : Delimited s) :
    readMagnitude negative (chars.take n ++ '.' :: chars.drop n ++ s) =
      .some (⟨negative, digits, exponent, normal⟩, s) := by
  have nonempty : chars.take n ≠ [] := by
    intro empty
    have count := congrArg List.length empty
    rw [List.length_take, List.length_nil] at count
    omega
  have plain : leadingZero (chars.take n) = false := by
    apply leadingZero_head
    rwa [List.head?_take, if_neg (Nat.ne_of_gt some)]
  have dropped : chars.drop n ≠ [] := by
    intro empty
    have count := congrArg List.length empty
    rw [List.length_drop, List.length_nil] at count
    omega
  have fraction := readFraction_digits (fun c member => all c (List.mem_of_mem_drop member)) dropped
    delimited.noDigit
  rw [List.append_assoc, List.cons_append,
    readMagnitude_text negative (fun c member => all c (List.mem_of_mem_take member)) nonempty plain
      (noDigit_cons rfl) fraction (readExponent_none delimited),
    List.take_append_drop, value]
  congr 2
  apply ofDecimal_digits negative last
  rw [List.length_drop]
  omega

theorem readMagnitude_fraction {zeros : Nat} (some : chars ≠ [])
    (scale : exponent = -(zeros + chars.length)) (delimited : Delimited s) :
    readMagnitude negative ('0' :: '.' :: List.replicate zeros '0' ++ chars ++ s) =
      .some (⟨negative, digits, exponent, normal⟩, s) := by
  have allZeros : ∀ c ∈ List.replicate zeros '0' ++ chars, c.isDigit = true := by
    intro c member
    rcases List.mem_append.mp member with zero | digit
    · rw [List.eq_of_mem_replicate zero]
      rfl
    · exact all c digit
  have nonempty : List.replicate zeros '0' ++ chars ≠ [] :=
    List.append_ne_nil_of_right_ne_nil _ some
  have fraction := readFraction_digits allZeros nonempty delimited.noDigit
  have whole : ∀ c ∈ ['0'], c.isDigit = true := List.forall_mem_singleton.mpr rfl
  have text : '0' :: '.' :: List.replicate zeros '0' ++ chars ++ s =
      ['0'] ++ '.' :: (List.replicate zeros '0' ++ chars ++ s) := rfl
  have same : Nat.ofDigitChars 10 ('0' :: (List.replicate zeros '0' ++ chars)) 0 = digits := by
    rw [← List.cons_append, ← List.replicate_succ, Nat.ofDigitChars_append,
      Nat.ofDigitChars_replicate_zero, Nat.mul_zero, value]
  rw [text, readMagnitude_text negative whole (List.cons_ne_nil _ _) rfl (noDigit_cons rfl) fraction
      (readExponent_none delimited), List.singleton_append, same]
  congr 2
  apply ofDecimal_digits negative last
  rw [List.length_append, List.length_replicate]
  omega

theorem readMagnitude_scientific {scaleText : List Char} {shift : Int}
    (head : chars.head? ≠ some '0') (some : chars ≠ [])
    (scaled : readExponent ('e' :: scaleText ++ s) = .some (shift, s))
    (scale : exponent = shift - (chars.length - 1)) :
    readMagnitude negative (chars.take 1 ++
        (if chars.length = 1 then [] else '.' :: chars.drop 1) ++ 'e' :: scaleText ++ s) =
      .some (⟨negative, digits, exponent, normal⟩, s) := by
  have count : chars.length ≠ 0 := fun zero => some (List.eq_nil_of_length_eq_zero zero)
  have nonempty : chars.take 1 ≠ [] := by
    intro empty
    have length := congrArg List.length empty
    rw [List.length_take, List.length_nil] at length
    omega
  have plain : leadingZero (chars.take 1) = false := by
    apply leadingZero_head
    rwa [List.head?_take, if_neg (by decide)]
  have allTaken : ∀ c ∈ chars.take 1, c.isDigit = true := fun c member =>
    all c (List.mem_of_mem_take member)
  have letter : NoDigit ('e' :: scaleText ++ s) := noDigit_cons rfl
  by_cases one : chars.length = 1
  · have noFraction : readFraction ('e' :: scaleText ++ s) = .some ([], 'e' :: scaleText ++ s) :=
      readFraction_none (by simp)
    rw [if_pos one, List.append_nil, List.append_assoc,
      readMagnitude_text negative allTaken nonempty plain letter noFraction scaled,
      List.append_nil, List.take_of_length_le (Nat.le_of_eq one), value]
    congr 2
    apply ofDecimal_digits negative last
    rw [List.length_nil]
    omega
  · have dropped : chars.drop 1 ≠ [] := by
      intro empty
      have length := congrArg List.length empty
      rw [List.length_drop, List.length_nil] at length
      omega
    have fraction := readFraction_digits (fun c member => all c (List.mem_of_mem_drop member))
      dropped letter
    have text : chars.take 1 ++ '.' :: chars.drop 1 ++ 'e' :: scaleText ++ s =
        chars.take 1 ++ '.' :: (chars.drop 1 ++ ('e' :: scaleText ++ s)) := by
      simp only [List.append_assoc, List.cons_append]
    rw [if_neg one, text, readMagnitude_text negative allTaken nonempty plain (noDigit_cons rfl)
      fraction scaled, List.take_append_drop, value]
    congr 2
    apply ofDecimal_digits negative last
    rw [List.length_drop]
    omega

end

/-- A printed number is read back, whatever its form. -/
theorem readMagnitude_numberChars (negative : Bool) {digits : Nat} {exponent : Int} (normal)
    (nonzero : digits ≠ 0) {s : List Char} (delimited : Delimited s) :
    readMagnitude negative (numberChars ⟨false, digits, exponent, normal⟩ ++ s) =
      some (⟨negative, digits, exponent, normal⟩, s) := by
  have last : digits % 10 ≠ 0 := normal.resolve_right fun zero => nonzero zero.1
  have all : ∀ c ∈ Nat.toDigits 10 digits, c.isDigit = true := fun c member =>
    Nat.isDigit_of_mem_toDigits (by decide) (by decide) member
  have some : Nat.toDigits 10 digits ≠ [] := Nat.toDigits_ne_nil
  have count : 0 < (Nat.toDigits 10 digits).length := Nat.length_toDigits_pos
  have head := toDigits_head nonzero
  have value := Nat.ofDigitChars_ten_toDigits (n := digits)
  simp only [numberChars, nonzero, if_false, Bool.false_eq_true, List.nil_append]
  generalize Nat.toDigits 10 digits = chars at *
  split
  case isTrue plain =>
    exact readMagnitude_plain negative last all value head some (by omega) delimited
  case isFalse =>
    split
    case isTrue point =>
      exact readMagnitude_point negative last all value head (by omega) (by omega) (by omega)
        delimited
    case isFalse =>
      split
      case isTrue fraction =>
        exact readMagnitude_fraction negative last all value some (by omega) delimited
      case isFalse =>
        by_cases large : 0 < (chars.length : Int) + exponent
        · rw [if_pos large]
          have scale := readScale_digits false (chars.length + exponent - 1).toNat
            delimited.noDigit
          rw [if_neg Bool.false_ne_true, Int.toNat_of_nonneg (by omega)] at scale
          have scaled : readExponent
              ('e' :: '+' :: Nat.toDigits 10 (chars.length + exponent - 1).toNat ++ s) =
                .some (chars.length + exponent - 1, s) := scale
          exact readMagnitude_scientific negative last all value head some scaled (by omega)
        · rw [if_neg large]
          have scale := readScale_digits true (1 - (chars.length + exponent)).toNat
            delimited.noDigit
          rw [if_pos rfl, Int.toNat_of_nonneg (by omega)] at scale
          have scaled : readExponent
              ('e' :: '-' :: Nat.toDigits 10 (1 - (chars.length + exponent)).toNat ++ s) =
                .some (-(1 - (chars.length + exponent)), s) := scale
          exact readMagnitude_scientific negative last all value head some scaled (by omega)

theorem readNumber_magnitude {text : List Char} {read : JsonNumber × List Char}
    (found : readMagnitude false text = some read) : readNumber text = some read := by
  unfold readNumber
  split
  · cases found
  · exact found

theorem readNumber_numberChars (value : JsonNumber) {s : List Char} (delimited : Delimited s) :
    readNumber (numberChars value ++ s) = some (value.parsed, s) := by
  obtain ⟨negative, digits, exponent, normal⟩ := value
  by_cases zero : digits = 0
  · subst zero
    have same : exponent = 0 := by
      rcases normal with nonzero | zero
      · contradiction
      · exact zero.2
    subst same
    have noFraction : readFraction s = some ([], s) := by
      apply readFraction_none
      intro point
      rcases delimited '.' point with comma | bracket | brace <;> contradiction
    have digit : ∀ c ∈ ['0'], c.isDigit = true := List.forall_mem_singleton.mpr rfl
    have read := readMagnitude_text false digit (List.cons_ne_nil _ _) rfl delimited.noDigit
      noFraction (readExponent_none delimited)
    have printed : numberChars ⟨negative, 0, 0, .inr ⟨rfl, rfl⟩⟩ = ['0'] := rfl
    rw [printed]
    have parsed : JsonNumber.parsed ⟨negative, 0, 0, .inr ⟨rfl, rfl⟩⟩ =
        ⟨false, 0, 0, .inr ⟨rfl, rfl⟩⟩ := by
      rw [JsonNumber.parsed, bne_self_eq_false, Bool.and_false]
    rw [parsed]
    exact read
  · have read := readMagnitude_numberChars negative normal zero delimited
    have parsed : JsonNumber.parsed ⟨negative, digits, exponent, normal⟩ =
        ⟨negative, digits, exponent, normal⟩ := by
      rw [JsonNumber.parsed, bne_iff_ne.mpr zero, Bool.and_true]
    rw [parsed]
    cases negative with
    | true =>
      have printed : numberChars ⟨true, digits, exponent, normal⟩ =
          '-' :: numberChars ⟨false, digits, exponent, normal⟩ := by
        simp only [numberChars, zero, if_false, if_true, Bool.false_eq_true, List.nil_append]
        rfl
      rw [printed]
      exact read
    | false => exact readNumber_magnitude read

theorem hexDigit?_digitChar {n : Nat} (small : n < 16) : hexDigit? (Nat.digitChar n) = some n := by
  have table : ∀ i : Fin 16, hexDigit? (Nat.digitChar i) = some i.val := by decide
  exact table ⟨n, small⟩

theorem readUnits_escape {c x : Char} (escape : escaped? x = some c) (other : x ≠ 'u')
    (s : List Char) : readUnits ('\\' :: x :: s) =
      (readUnits s).map fun read => (.char c :: read.1, read.2) := by
  rw [readUnits]
  · rw [escape]
    cases readUnits s <;> rfl
  · rintro a b c d rest rfl
    exact fun _ => other rfl

theorem readUnits_control {c : Char} (control : c.toNat < 32) (s : List Char) :
    readUnits ('\\' :: 'u' :: '0' :: '0' :: Nat.digitChar (c.toNat / 16) ::
        Nat.digitChar (c.toNat % 16) :: s) =
      (readUnits s).map fun read => (.char c :: read.1, read.2) := by
  have code : codeUnit? '0' '0' (Nat.digitChar (c.toNat / 16)) (Nat.digitChar (c.toNat % 16)) =
      some c.toNat := by
    have zero : hexDigit? '0' = some 0 := rfl
    simp only [codeUnit?, zero, hexDigit?_digitChar (n := c.toNat / 16) (by omega),
      hexDigit?_digitChar (n := c.toNat % 16) (by omega), Option.bind_eq_bind, Option.bind_some,
      Option.some.injEq]
    omega
  have unit : StringUnit.ofCode c.toNat = .char c := by
    rw [StringUnit.ofCode, if_neg (by omega), Char.ofNat_toNat]
  rw [readUnits, code, Option.bind_eq_bind, Option.bind_some, unit]
  cases readUnits s <;> rfl

theorem readUnits_plain {c : Char} (quote : c ≠ '"') (backslash : c ≠ '\\')
    (printable : ¬ c.val < 32) (s : List Char) :
    readUnits (c :: s) = (readUnits s).map fun read => (.char c :: read.1, read.2) := by
  rw [readUnits]
  · rw [if_neg quote, if_neg printable]
    cases readUnits s <;> rfl
  · rintro a b d e rest rfl
    exact fun _ => backslash rfl
  · rintro d rest rfl
    exact fun _ => backslash rfl

theorem readUnits_escapeChar (c : Char) (s : List Char) :
    readUnits (escapeChar c ++ s) = (readUnits s).map fun read => (.char c :: read.1, read.2) := by
  unfold escapeChar
  split
  · exact readUnits_escape rfl (by decide) s
  · exact readUnits_escape rfl (by decide) s
  · exact readUnits_escape rfl (by decide) s
  · exact readUnits_escape rfl (by decide) s
  · exact readUnits_escape rfl (by decide) s
  case _ quote backslash _ _ _ =>
    split
    case isTrue backspace =>
      have same : Char.ofNat 8 = c := Char.ext backspace.symm
      have escape : escaped? 'b' = some c := congrArg some same
      exact readUnits_escape escape (by decide) s
    case isFalse =>
      split
      case isTrue feed =>
        have same : Char.ofNat 12 = c := Char.ext feed.symm
        have escape : escaped? 'f' = some c := congrArg some same
        exact readUnits_escape escape (by decide) s
      case isFalse =>
        split
        case isTrue control => exact readUnits_control (UInt32.lt_iff_toNat_lt.mp control) s
        case isFalse printable => exact readUnits_plain quote backslash printable s

theorem joinUnits_chars (chars : List Char) : joinUnits (chars.map StringUnit.char) = chars := by
  induction chars with
  | nil => rfl
  | cons c rest ih => rw [List.map_cons, joinUnits, ih]

theorem readString_stringChars (text : String) (s : List Char) :
    readString (text.toList.flatMap escapeChar ++ '"' :: s) = some (text, s) := by
  have units : readUnits (text.toList.flatMap escapeChar ++ '"' :: s) =
      some (text.toList.map StringUnit.char, s) := by
    induction text.toList with
    | nil => rfl
    | cons c rest ih =>
      rw [List.flatMap_cons, List.append_assoc, readUnits_escapeChar, ih, Option.map_some,
        List.map_cons]
  simp only [readString, units, Option.bind_eq_bind, Option.bind_some, joinUnits_chars,
    String.ofList_toList]

/-- Canonical text starts with no white space. -/
theorem skipSpace_opening {c : Char} (s : List Char) (text : isWhitespace c = false) :
    skipSpace (c :: s) = c :: s := by
  rw [skipSpace, List.dropWhile_cons_of_neg (by rw [text]; decide)]

theorem isWhitespace_number {c : Char} (number : isNumberChar c = true) :
    isWhitespace c = false := by
  rw [← Bool.not_eq_true]
  intro space
  simp only [isWhitespace, Bool.or_eq_true, beq_iff_eq] at space
  rcases space with ((rfl | rfl) | rfl) | rfl <;> cases number

theorem readValue_number {c : Char} (number : isNumberChar c = true) (fuel : Nat)
    (s : List Char) : readValue (fuel + 1) (c :: s) =
      (readNumber (c :: s)).map fun read => (.number read.1, read.2) := by
  rw [readValue, skipSpace_opening s (isWhitespace_number number)]
  split
  case _ text => cases text; cases number
  case _ text => cases text; cases number
  case _ text => cases text; cases number
  case _ text => cases text; cases number
  case _ text => cases text; cases number
  case _ text => cases text; cases number
  case _ => rfl

/-- The canonical text of this value is read back, with enough fuel for each of its characters. -/
def Reads (value : JsonValue) : Prop :=
  ∀ fuel s, 3 * (canonicalChars value).length ≤ fuel + 1 → Delimited s →
    readValue (fuel + 1) (canonicalChars value ++ s) = some (value.reread, s)

theorem number_reads (value : JsonNumber) : Reads (.number value) := by
  intro fuel s _ delimited
  have read := readNumber_numberChars value delimited
  have chars := numberChars_chars value
  have nonempty := numberChars_nonempty value
  rw [canonicalChars, JsonValue.reread]
  cases text : numberChars value with
  | nil => exact absurd text nonempty
  | cons c rest =>
    rw [text] at read chars
    rw [List.cons_append] at read ⊢
    rw [readValue_number (chars c List.mem_cons_self), read, Option.map_some]

theorem string_reads (value : String) : Reads (.string value) := by
  intro fuel s _ _
  have read := readString_stringChars value s
  rw [canonicalChars, JsonValue.reread, stringChars, List.cons_append, List.cons_append,
    List.append_assoc, List.singleton_append, readValue, skipSpace_opening _ rfl]
  simp only [read, Option.map_some]

theorem null_reads : Reads .null := by
  intro fuel s _ _
  rfl

theorem bool_reads (value : Bool) : Reads (.bool value) := by
  intro fuel s _ _
  cases value <;> rfl

/-- The first character of a value. -/
theorem canonicalChars_head (value : JsonValue) : ∃ c rest, canonicalChars value = c :: rest ∧
    isWhitespace c = false ∧ c ≠ ']' := by
  cases value with
  | null => exact ⟨_, _, by rw [canonicalChars], rfl, by decide⟩
  | bool value => cases value <;> exact ⟨_, _, by rw [canonicalChars], rfl, by decide⟩
  | number value =>
    have chars := numberChars_chars value
    have nonempty := numberChars_nonempty value
    rw [canonicalChars]
    cases text : numberChars value with
    | nil => exact absurd text nonempty
    | cons c rest =>
      rw [text] at chars
      have number := chars c List.mem_cons_self
      refine ⟨c, rest, rfl, isWhitespace_number number, ?_⟩
      rintro rfl
      cases number
  | string value => exact ⟨_, _, by rw [canonicalChars, stringChars]; rfl, rfl, by decide⟩
  | array items => exact ⟨_, _, by rw [canonicalChars]; rfl, rfl, by decide⟩
  | object fields => exact ⟨_, _, by rw [canonicalChars]; rfl, rfl, by decide⟩

theorem canonicalChars_ascii (value : JsonValue) :
    ∀ c ∈ (canonicalChars value).head?, c.val ≤ 127 := by
  intro c first
  cases value with
  | null =>
    rw [canonicalChars] at first
    cases first
    decide
  | bool value =>
    cases value
    all_goals
      rw [canonicalChars] at first
      cases first
      decide
  | number value =>
    rw [canonicalChars] at first
    exact isNumberChar_ascii (numberChars_chars value c (List.mem_of_mem_head? first))
  | string value =>
    rw [canonicalChars, stringChars] at first
    cases first
    decide
  | array items =>
    rw [canonicalChars] at first
    cases first
    decide
  | object fields =>
    rw [canonicalChars] at first
    cases first
    decide

theorem delimited_cons {c : Char} {s : List Char} (closes : c = ',' ∨ c = ']' ∨ c = '}') :
    Delimited (c :: s) := by
  rintro head ⟨⟩
  exact closes

/-- Every item of an array is followed by a comma or the end of the array. -/
theorem items_read {items : List JsonValue} (each : ∀ item ∈ items, Reads item)
    (some : items ≠ []) (fuel : Nat) (s : List Char)
    (enough : 3 * (commaSeparated (itemTexts items)).length + 1 ≤ fuel) :
    readItems fuel (commaSeparated (itemTexts items) ++ ']' :: s) =
      .some (JsonValue.rereadItems items, s) := by
  induction items generalizing fuel with
  | nil => exact absurd rfl some
  | cons item rest ih =>
    have first := each item List.mem_cons_self
    have opens : 0 < (canonicalChars item).length := by
      obtain ⟨c, chars, text, _⟩ := canonicalChars_head item
      rw [text]
      exact Nat.succ_pos _
    cases rest with
    | nil =>
      rw [itemTexts, itemTexts, commaSeparated] at enough ⊢
      obtain ⟨fuel, rfl⟩ : ∃ n, fuel = n + 2 := ⟨fuel - 2, by omega⟩
      have read := first fuel (']' :: s) (by omega) (delimited_cons (.inr (.inl rfl)))
      rw [readItems, read, Option.bind_eq_bind, Option.bind_some]
      rfl
    | cons next rest =>
      have text : commaSeparated (itemTexts (item :: next :: rest)) =
          canonicalChars item ++ ',' :: commaSeparated (itemTexts (next :: rest)) := by
        rw [itemTexts, itemTexts, commaSeparated]
      rw [text, List.length_append, List.length_cons] at enough
      obtain ⟨fuel, rfl⟩ : ∃ n, fuel = n + 2 := ⟨fuel - 2, by omega⟩
      have read := first fuel (',' :: (commaSeparated (itemTexts (next :: rest)) ++ ']' :: s))
        (by omega) (delimited_cons (.inl rfl))
      have more := ih (fun later member => each later (List.mem_cons_of_mem _ member))
        (List.cons_ne_nil _ _) (fuel + 1) (by omega)
      have comma (rest : List Char) : skipSpace (',' :: rest) = ',' :: rest := rfl
      rw [text, List.append_assoc, List.cons_append, readItems, read, Option.bind_eq_bind,
        Option.bind_some]
      simp only [comma, more, Option.map_some, JsonValue.rereadItems]

theorem items_head {items : List JsonValue} (some : items ≠ []) : ∃ c rest,
    commaSeparated (itemTexts items) = c :: rest ∧ isWhitespace c = false ∧ c ≠ ']' := by
  cases items with
  | nil => exact absurd rfl some
  | cons item rest =>
    obtain ⟨c, chars, text, head⟩ := canonicalChars_head item
    cases rest with
    | nil =>
      refine ⟨c, chars, ?_, head⟩
      rw [itemTexts, itemTexts, commaSeparated, text]
    | cons next rest =>
      refine ⟨c, chars ++ ',' :: commaSeparated (itemTexts (next :: rest)), ?_, head⟩
      rw [itemTexts, itemTexts, commaSeparated, text]
      rfl

theorem array_reads {items : List JsonValue} (each : ∀ item ∈ items, Reads item) :
    Reads (.array items) := by
  intro fuel s enough _
  rw [canonicalChars] at enough
  rw [canonicalChars, JsonValue.reread, List.cons_append, List.cons_append, List.append_assoc,
    List.singleton_append, readValue, skipSpace_opening _ rfl]
  by_cases empty : items = []
  · subst empty
    rfl
  · have read := items_read each empty fuel s (by
      simp only [List.cons_append, List.length_cons, List.length_append, List.length_nil] at enough
      omega)
    obtain ⟨c, rest, text, space, bracket⟩ := items_head empty
    rw [text, List.cons_append] at read
    rw [text]
    simp only [List.cons_append, skipSpace_opening _ space]
    split
    case _ closed => exact absurd (List.cons.inj closed).1 bracket
    case _ => rw [read, Option.map_some]

def memberText (entry : String × JsonValue) : List Char :=
  stringChars entry.1 ++ ':' :: canonicalChars entry.2

theorem member_read {entry : String × JsonValue} (reads : Reads entry.2) (fuel : Nat)
    {s : List Char} (enough : 3 * (memberText entry).length ≤ fuel + 2) (delimited : Delimited s) :
    readMember (fuel + 2) (memberText entry ++ s) = some (entry.1, entry.2.reread, s) := by
  have length : (memberText entry).length =
      (stringChars entry.1).length + 1 + (canonicalChars entry.2).length := by
    rw [memberText, List.length_append, List.length_cons]
    omega
  have value := reads fuel s (by omega) delimited
  have key := readString_stringChars entry.1 (':' :: (canonicalChars entry.2 ++ s))
  have text : memberText entry ++ s = '"' :: (entry.1.toList.flatMap escapeChar ++
      '"' :: ':' :: (canonicalChars entry.2 ++ s)) := by
    simp only [memberText, stringChars, List.cons_append, List.append_assoc, List.nil_append]
  have colon (rest : List Char) : skipSpace (':' :: rest) = ':' :: rest := rfl
  rw [text, readMember, skipSpace_opening _ rfl]
  simp only [key, Option.bind_eq_bind, Option.bind_some, colon, value, Option.map_some]

/-- Every member of an object is followed by a comma or the end of the object. -/
theorem members_read {members : List (String × JsonValue)}
    (each : ∀ entry ∈ members, Reads entry.2) (some : members ≠ []) (fuel : Nat) (s : List Char)
    (enough : 3 * (commaSeparated (members.map memberText)).length + 1 ≤ fuel) :
    readMembers fuel (commaSeparated (members.map memberText) ++ '}' :: s) =
      .some (members.map fun entry => (entry.1, entry.2.reread), s) := by
  induction members generalizing fuel with
  | nil => exact absurd rfl some
  | cons entry rest ih =>
    have first := each entry List.mem_cons_self
    have quotes : 2 ≤ (memberText entry).length := by
      rw [memberText, stringChars]
      simp only [List.cons_append, List.length_cons, List.length_append]
      omega
    cases rest with
    | nil =>
      rw [List.map_singleton, commaSeparated] at enough ⊢
      obtain ⟨fuel, rfl⟩ : ∃ n, fuel = n + 3 := ⟨fuel - 3, by omega⟩
      have read := member_read first fuel (s := '}' :: s) (by omega)
        (delimited_cons (.inr (.inr rfl)))
      rw [readMembers, read, Option.bind_eq_bind, Option.bind_some]
      rfl
    | cons next rest =>
      have text : commaSeparated ((entry :: next :: rest).map memberText) =
          memberText entry ++ ',' :: commaSeparated ((next :: rest).map memberText) := by
        rw [List.map_cons, List.map_cons, commaSeparated]
      rw [text, List.length_append, List.length_cons] at enough
      obtain ⟨fuel, rfl⟩ : ∃ n, fuel = n + 3 := ⟨fuel - 3, by omega⟩
      have read := member_read first fuel
        (s := ',' :: (commaSeparated ((next :: rest).map memberText) ++ '}' :: s)) (by omega)
        (delimited_cons (.inl rfl))
      have more := ih (fun later member => each later (List.mem_cons_of_mem _ member))
        (List.cons_ne_nil _ _) (fuel + 2) (by omega)
      have comma (rest : List Char) : skipSpace (',' :: rest) = ',' :: rest := rfl
      rw [text, List.append_assoc, List.cons_append, readMembers, read, Option.bind_eq_bind,
        Option.bind_some]
      simp only [comma, more, Option.map_some]
      rfl

theorem setKey_fresh {fields : List (String × JsonValue)} {key : String} (value : JsonValue)
    (fresh : key ∉ fields.map Prod.fst) : setKey key value fields = fields ++ [(key, value)] := by
  have absent : fields.any (·.1 == key) = false := by
    rw [List.any_eq_false]
    intro entry member same
    exact fresh (List.mem_map.mpr ⟨entry, member, beq_iff_eq.mp same⟩)
  rw [setKey, absent]
  rfl

/-- Members under distinct keys are the fields of the object as they come. -/
theorem foldl_setKey (members fields : List (String × JsonValue))
    (distinct : ((fields ++ members).map Prod.fst).Nodup) :
    members.foldl (fun fields entry => setKey entry.1 entry.2 fields) fields =
      fields ++ members := by
  induction members generalizing fields with
  | nil => rw [List.foldl_nil, List.append_nil]
  | cons entry rest ih =>
    have fresh : entry.1 ∉ fields.map Prod.fst := by
      rw [List.map_append, List.map_cons, List.nodup_append] at distinct
      exact fun member => distinct.2.2 _ member _ List.mem_cons_self rfl
    rw [List.foldl_cons, setKey_fresh entry.2 fresh, ih, List.append_assoc, List.singleton_append]
    rwa [List.append_assoc, List.singleton_append]

theorem ofMembers_distinct {members : List (String × JsonValue)}
    (distinct : (members.map Prod.fst).Nodup) :
    ofMembers members = .object (Js.objectOrder Prod.fst members) := by
  rw [ofMembers, foldl_setKey members [] (by rwa [List.nil_append]), List.nil_append]

theorem rereadFields_map (fields : List (String × JsonValue)) :
    JsonValue.rereadFields fields = fields.map fun entry => (entry.1, entry.2.reread) := by
  induction fields with
  | nil => rfl
  | cons entry rest ih => rw [JsonValue.rereadFields, ih, List.map_cons]

/-- The members of an object in the order of its canonical text. -/
def sortedMembers (fields : List (String × JsonValue)) : List (String × JsonValue) :=
  fields.insertionSort (entryLe Prod.fst)

theorem memberTexts_sorted (fields : List (String × JsonValue)) :
    memberTexts fields = (sortedMembers fields).map memberText := by
  have sorted : sortFields (fieldTexts fields) =
      (sortedMembers fields).map fun entry => (entry.1, canonicalChars entry.2) := by
    rw [fieldTexts_map, sortedMembers, List.map_insertionSort _ (entryLe Prod.fst)]
    · rfl
    · exact fun _ _ _ _ => Iff.rfl
  rw [memberTexts, sorted, List.map_map]
  rfl

theorem sortedMembers_reread (fields : List (String × JsonValue)) :
    (sortedMembers fields).map (fun entry => (entry.1, entry.2.reread)) =
      (JsonValue.rereadFields fields).insertionSort (entryLe Prod.fst) := by
  rw [rereadFields_map, sortedMembers, List.map_insertionSort _ (entryLe Prod.fst)]
  exact fun _ _ _ _ => Iff.rfl

theorem members_head {members : List (String × JsonValue)} (some : members ≠ []) :
    ∃ rest, commaSeparated (members.map memberText) = '"' :: rest := by
  cases members with
  | nil => exact absurd rfl some
  | cons entry rest =>
    cases rest with
    | nil => exact ⟨_, rfl⟩
    | cons next rest => exact ⟨_, rfl⟩

theorem object_reads {fields : List (String × JsonValue)}
    (distinct : (fields.map Prod.fst).Nodup) (each : ∀ entry ∈ fields, Reads entry.2) :
    Reads (.object fields) := by
  intro fuel s enough _
  have moved : (sortedMembers fields).Perm fields := List.perm_insertionSort _ fields
  have text : canonicalChars (.object fields) =
      '{' :: commaSeparated ((sortedMembers fields).map memberText) ++ ['}'] := by
    rw [← memberTexts_sorted, canonicalChars, memberTexts]
  have sorted : JsonValue.reread (.object fields) = ofMembers
      ((sortedMembers fields).map fun entry => (entry.1, entry.2.reread)) := by
    rw [ofMembers_distinct, sortedMembers_reread, JsonValue.reread, Js.parsedOrder]
    rw [List.map_map]
    exact (moved.map Prod.fst).nodup_iff.mpr distinct
  rw [text] at enough
  rw [text, sorted, List.cons_append, List.cons_append, List.append_assoc, List.singleton_append,
    readValue, skipSpace_opening _ rfl]
  by_cases empty : sortedMembers fields = []
  · rw [empty]
    rfl
  · have read := members_read (fun entry member => each entry (moved.mem_iff.mp member)) empty fuel s
      (by
        simp only [List.cons_append, List.length_cons, List.length_append, List.length_nil] at enough
        omega)
    obtain ⟨rest, head⟩ := members_head empty
    rw [head, List.cons_append] at read
    have quote (rest : List Char) : skipSpace ('"' :: rest) = '"' :: rest := rfl
    rw [head]
    simp only [List.cons_append, quote]
    split
    case _ closed => cases closed
    case _ => rw [read, Option.map_some]

end Json

mutual
/-- No object of the value has two members under one key. -/
def JsonValue.distinctKeys : JsonValue → Bool
  | .array items => distinctKeysItems items
  | .object fields => decide (fields.map Prod.fst).Nodup && distinctKeysFields fields
  | _ => true
def JsonValue.distinctKeysItems : List JsonValue → Bool
  | [] => true
  | item :: rest => item.distinctKeys && distinctKeysItems rest
def JsonValue.distinctKeysFields : List (String × JsonValue) → Bool
  | [] => true
  | (_, value) :: rest => value.distinctKeys && distinctKeysFields rest
end

open JsonValue in
theorem distinctKeys_object (keys : List String) {fields : List (String × JsonValue)}
    (names : fields.map Prod.fst = keys) (distinct : keys.Nodup)
    (each : distinctKeysFields fields = true) : (JsonValue.object fields).distinctKeys = true := by
  rw [distinctKeys, names, each, Bool.and_true]
  exact decide_eq_true distinct

namespace Json
open JsonValue

mutual
theorem value_reads : (value : JsonValue) → value.distinctKeys = true → Reads value
  | .null, _ => null_reads
  | .bool value, _ => bool_reads value
  | .number value, _ => number_reads value
  | .string value, _ => string_reads value
  | .array items, distinct => by
    rw [distinctKeys] at distinct
    exact array_reads (items_reads items distinct)
  | .object fields, distinct => by
    rw [distinctKeys, Bool.and_eq_true, decide_eq_true_iff] at distinct
    exact object_reads distinct.1 (fields_reads fields distinct.2)
theorem items_reads : (items : List JsonValue) → distinctKeysItems items = true →
    ∀ item ∈ items, Reads item
  | [], _, _, member => by cases member
  | item :: rest, distinct, other, member => by
    rw [distinctKeysItems, Bool.and_eq_true] at distinct
    rcases List.mem_cons.mp member with same | later
    · rw [same]
      exact value_reads item distinct.1
    · exact items_reads rest distinct.2 other later
theorem fields_reads : (fields : List (String × JsonValue)) → distinctKeysFields fields = true →
    ∀ entry ∈ fields, Reads entry.2
  | [], _, _, member => by cases member
  | (_, value) :: rest, distinct, other, member => by
    rw [distinctKeysFields, Bool.and_eq_true] at distinct
    rcases List.mem_cons.mp member with same | later
    · rw [same]
      exact value_reads value distinct.1
    · exact fields_reads rest distinct.2 other later
end

/-- `JSON.parse` reads canonical text as the value that was printed. -/
theorem parse_canonicalJson {value : JsonValue} (distinct : value.distinctKeys = true) :
    parse (canonicalJson value) = some value.reread := by
  have read := value_reads value distinct (3 * (canonicalChars value).length) [] (Nat.le_succ _)
    (fun c none => by cases none)
  rw [List.append_nil] at read
  rw [parse, canonicalJson, String.toList_ofList, read]
  rfl

end Json
end Anastom
