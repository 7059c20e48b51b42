import Anastom.Core.KeyOrder
import Anastom.Engine.JsValueParse

/-! Canonical JSON read back: the text of a value gives the value up to the order of its keys
and the sign of zero, so it is the text of no other value. -/
namespace Anastom.JsValue
open Json

instance : Std.Total (@unitsLe α) where
  total a b := le_total a.1 b.1

instance : IsTrans (JsString × α) unitsLe where
  trans _ _ _ first second := le_trans first second

/-- Sorting by key keeps lists related under the same keys. -/
theorem sortKeys_forall₂ {R : JsString × α → JsString × β → Prop}
    {left : List (JsString × α)} {right : List (JsString × β)}
    (related : List.Forall₂ (fun a b => b.1 = a.1 ∧ R a b) left right) :
    List.Forall₂ (fun a b => b.1 = a.1 ∧ R a b) (sortKeys left) (sortKeys right) := by
  have insert {a b} (head : b.1 = a.1 ∧ R a b) {left : List (JsString × α)}
      {right : List (JsString × β)}
      (related : List.Forall₂ (fun a b => b.1 = a.1 ∧ R a b) left right) :
      List.Forall₂ (fun a b => b.1 = a.1 ∧ R a b) (left.orderedInsert unitsLe a)
        (right.orderedInsert unitsLe b) := by
    induction related with
    | nil => exact .cons head .nil
    | @cons c d _ _ here rest ih =>
      rw [List.orderedInsert_cons, List.orderedInsert_cons]
      have same : unitsLe b d ↔ unitsLe a c := by
        unfold unitsLe
        rw [head.1, here.1]
      by_cases before : unitsLe a c
      · rw [if_pos before, if_pos (same.mpr before)]
        exact .cons head (.cons here rest)
      · rw [if_neg before, if_neg fun after => before (same.mp after)]
        exact .cons here ih
  induction related with
  | nil => exact .nil
  | cons head _ ih => exact insert head ih

theorem sortKeys_sorted (members : List (JsString × α)) :
    sortKeys (sortKeys members) = sortKeys members :=
  (List.pairwise_insertionSort unitsLe members).insertionSort_eq

theorem normalFields_map (fields : List (JsString × JsValue)) :
    normalFields fields = fields.map fun entry => (entry.1, entry.2.normal) := by
  induction fields with
  | nil => rw [normalFields, List.map_nil]
  | cons entry rest ih => rw [normalFields, ih, List.map_cons]

theorem normalFields_sortKeys (fields : List (JsString × JsValue)) :
    normalFields (sortKeys fields) = sortKeys (normalFields fields) := by
  rw [normalFields_map, normalFields_map, sortKeys, sortKeys,
    List.map_insertionSort _ unitsLe]
  exact fun _ _ _ _ => Iff.rfl

/-- A text is read as a value, with fuel for each of its characters. -/
def Reads (value : JsValue) (text : List Char) : Prop :=
  ∀ fuel s, text.length ≤ fuel → Delimited s → readValue fuel (text ++ s) = some (value, s)

theorem readValue_number {c : Char} (number : isNumberChar c = true) (fuel : Nat)
    (s : List Char) : readValue (fuel + 1) (c :: s) =
      (Json.readNumber (c :: s)).map fun read => (.number read.1, read.2) := by
  rw [readValue, skipSpace_opening s (isWhitespace_number number)]
  split
  case _ text => cases text; cases number
  case _ text => cases text; cases number
  case _ text => cases text; cases number
  case _ text => cases text; cases number
  case _ text => cases text; cases number
  case _ text => cases text; cases number
  case _ => rfl

theorem number_reads (value : JsonNumber) : Reads (.number value.parsed) (numberChars value) := by
  intro fuel s enough delimited
  have read := readNumber_numberChars value delimited
  have chars := numberChars_chars value
  have nonempty := numberChars_nonempty value
  cases text : numberChars value with
  | nil => exact absurd text nonempty
  | cons c rest =>
    rw [text] at read chars enough
    obtain ⟨fuel, rfl⟩ : ∃ n, fuel = n + 1 := ⟨fuel - 1, by
      rw [List.length_cons] at enough
      omega⟩
    rw [List.cons_append] at read ⊢
    rw [readValue_number (chars c List.mem_cons_self), read, Option.map_some]

theorem string_reads (value : JsString) : Reads (.string value) (stringText value) := by
  intro fuel s enough _
  obtain ⟨fuel, rfl⟩ : ∃ n, fuel = n + 1 := ⟨fuel - 1, by
    rw [stringText, List.cons_append, List.length_cons] at enough
    omega⟩
  have read := readString_quoteUnits value s
  rw [stringText, List.cons_append, List.cons_append, List.append_assoc, List.singleton_append,
    readValue, skipSpace_opening _ rfl]
  simp only [read, Option.map_some]

theorem canonicalJson_head {value : JsValue} {text : List Char}
    (printed : value.canonicalJson = .ok text) :
    ∃ c rest, text = c :: rest ∧ isWhitespace c = false ∧ c ≠ ']' := by
  cases value with
  | null =>
    rw [canonicalJson] at printed
    obtain rfl := Except.ok.inj printed
    exact ⟨_, _, rfl, rfl, by decide⟩
  | bool value =>
    cases value with
    | false =>
      rw [canonicalJson] at printed
      obtain rfl := Except.ok.inj printed
      exact ⟨_, _, rfl, rfl, by decide⟩
    | true =>
      rw [canonicalJson] at printed
      obtain rfl := Except.ok.inj printed
      exact ⟨_, _, rfl, rfl, by decide⟩
  | number value =>
    rw [canonicalJson] at printed
    obtain rfl := Except.ok.inj printed
    have chars := numberChars_chars value
    cases text : numberChars value with
    | nil => exact absurd text (numberChars_nonempty value)
    | cons c rest =>
      rw [text] at chars
      have number := chars c List.mem_cons_self
      refine ⟨c, rest, rfl, isWhitespace_number number, ?_⟩
      rintro rfl
      cases number
  | string value =>
    rw [canonicalJson] at printed
    obtain rfl := Except.ok.inj printed
    exact ⟨_, _, rfl, rfl, by decide⟩
  | array items =>
    obtain ⟨texts, _, rfl⟩ := canonicalJson_array printed
    exact ⟨_, _, rfl, rfl, by decide⟩
  | object plain fields =>
    obtain ⟨_, members, _, rfl⟩ := canonicalJson_object printed
    exact ⟨_, _, rfl, rfl, by decide⟩
  | undefined | hole | function | symbol | bigint _ | nonFinite =>
    rw [canonicalJson] at printed
    cases printed

theorem commaSeparated_head (texts : List (List Char)) {text rest : List Char} {c : Char}
    (head : text = c :: rest) :
    ∃ rest, commaSeparated (text :: texts) = c :: rest := by
  cases texts with
  | nil => exact ⟨rest, head⟩
  | cons next texts =>
    refine ⟨rest ++ ',' :: commaSeparated (next :: texts), ?_⟩
    rw [commaSeparated, head]
    rfl

theorem length_le_commaSeparated {texts : List (List Char)} (opens : ∀ text ∈ texts, text ≠ []) :
    texts.length ≤ (commaSeparated texts).length := by
  induction texts with
  | nil => exact Nat.zero_le _
  | cons text rest ih =>
    have first := List.length_pos_of_ne_nil (opens text List.mem_cons_self)
    have others := ih fun other member => opens other (List.mem_cons_of_mem _ member)
    cases rest with
    | nil => exact first
    | cons next rest =>
      simp only [commaSeparated, List.length_append, List.length_cons] at others ⊢
      omega

theorem array_reads {items : List JsValue} {texts : List (List Char)}
    (each : List.Forall₂ Reads items texts)
    (heads : ∀ text ∈ texts, ∃ c rest, text = c :: rest ∧ isWhitespace c = false ∧ c ≠ ']') :
    Reads (.array items) ('[' :: commaSeparated texts ++ [']']) := by
  intro fuel s enough _
  obtain ⟨fuel, rfl⟩ : ∃ n, fuel = n + 1 := ⟨fuel - 1, by
    rw [List.cons_append, List.length_cons] at enough
    omega⟩
  rw [List.cons_append, List.length_cons, List.length_append] at enough
  rw [List.cons_append, List.cons_append, List.append_assoc, List.singleton_append, readValue,
    skipSpace_opening _ rfl]
  cases each with
  | nil => rfl
  | @cons item text items texts head tail =>
    obtain ⟨c, rest, same, space, bracket⟩ := heads text List.mem_cons_self
    obtain ⟨rest, opening⟩ := commaSeparated_head texts same
    have opens : ∀ other ∈ text :: texts, other ≠ [] := by
      intro other member
      obtain ⟨c, rest, same, _⟩ := heads other member
      rw [same]
      exact List.cons_ne_nil _ _
    have each : List.Forall₂ (fun item text => text.length ≤ fuel → ∀ s, Delimited s →
        readValue fuel (text ++ s) = some (item, s)) (item :: items) (text :: texts) :=
      (List.Forall₂.cons head tail).imp fun _ _ reads small s => reads fuel s small
    have size : (item :: items).length ≤ (commaSeparated (text :: texts) ++ ']' :: s).length := by
      rw [List.length_append, each.length_eq]
      exact (length_le_commaSeparated opens).trans (Nat.le_add_right _ _)
    have read := readSeparated_texts (.inl rfl) each (List.cons_ne_nil _ _) (by omega) size s
    rw [opening, List.cons_append] at read ⊢
    simp only [skipSpace_opening _ space]
    split
    case _ closed => exact absurd (List.cons.inj closed).1 bracket
    case _ => rw [read, Option.map_some]

theorem member_reads {key : JsString} {value : JsValue} {chars : List Char}
    (reads : Reads value chars) {fuel : Nat} (enough : (memberChars (key, chars)).length ≤ fuel)
    {s : List Char} (delimited : Delimited s) :
    readMember (readValue fuel) (memberChars (key, chars) ++ s) = some ((key, value), s) := by
  have small : chars.length ≤ fuel := by
    simp only [memberChars, List.length_append, List.length_cons] at enough
    omega
  have read := reads fuel s small delimited
  have string := readString_quoteUnits key (':' :: (chars ++ s))
  have text : memberChars (key, chars) ++ s =
      '"' :: (quoteUnits key ++ '"' :: ':' :: (chars ++ s)) := by
    simp only [memberChars, stringText, List.cons_append, List.append_assoc, List.nil_append]
  have colon (rest : List Char) : skipSpace (':' :: rest) = ':' :: rest := rfl
  rw [text, readMember, skipSpace_opening _ rfl]
  simp only [string, Option.bind_eq_bind, Option.bind_some, colon, read, Option.map_some]

theorem object_reads {fields : List (JsString × JsValue)} {members : List (JsString × List Char)}
    (each : List.Forall₂ (fun entry member => member.1 = entry.1 ∧ Reads entry.2 member.2) fields
      members) (distinct : (fields.map Prod.fst).Nodup) :
    Reads (.object true fields) ('{' :: commaSeparated (members.map memberChars) ++ ['}']) := by
  intro fuel s enough _
  obtain ⟨fuel, rfl⟩ : ∃ n, fuel = n + 1 := ⟨fuel - 1, by
    rw [List.cons_append, List.length_cons] at enough
    omega⟩
  rw [List.cons_append, List.length_cons, List.length_append] at enough
  rw [List.cons_append, List.cons_append, List.append_assoc, List.singleton_append, readValue,
    skipSpace_opening _ rfl]
  cases each with
  | nil => rfl
  | @cons entry member entries members head tail =>
    have whole : List.Forall₂ (fun entry member => member.1 = entry.1 ∧ Reads entry.2 member.2)
        (entry :: entries) (member :: members) := .cons head tail
    have related : List.Forall₂ (fun entry text => text.length ≤ fuel → ∀ s, Delimited s →
        readMember (readValue fuel) (text ++ s) = some (entry, s)) (entry :: entries)
        ((member :: members).map memberChars) := by
      rw [List.forall₂_map_right_iff]
      refine whole.imp ?_
      rintro ⟨key, value⟩ ⟨_, chars⟩ ⟨rfl, reads⟩ small s delimited
      exact member_reads reads small delimited
    have opens : ∀ text ∈ (member :: members).map memberChars, text ≠ [] := by
      intro text inside
      obtain ⟨_, _, rfl⟩ := List.mem_map.mp inside
      exact List.cons_ne_nil _ _
    have size : (entry :: entries).length ≤
        (commaSeparated ((member :: members).map memberChars) ++ '}' :: s).length := by
      rw [List.length_append, related.length_eq]
      exact (length_le_commaSeparated opens).trans (Nat.le_add_right _ _)
    have read := readSeparated_texts (.inr rfl) related (List.cons_ne_nil _ _) (by omega) size s
    obtain ⟨rest, opening⟩ : ∃ rest, commaSeparated ((member :: members).map memberChars) =
        '"' :: rest := commaSeparated_head _ rfl
    rw [opening, List.cons_append] at read ⊢
    have quote (rest : List Char) : skipSpace ('"' :: rest) = '"' :: rest := rfl
    simp only [quote]
    split
    case _ closed => cases closed
    case _ =>
      rw [read, Option.map_some, foldl_setKey (by rwa [List.nil_append]), List.nil_append]

theorem sortKeys_keys {fields : List (JsString × α)} (distinct : (fields.map Prod.fst).Nodup) :
    ((sortKeys fields).map Prod.fst).Nodup :=
  ((List.perm_insertionSort unitsLe fields).map Prod.fst).nodup_iff.mpr distinct

theorem normalFields_keys (fields : List (JsString × JsValue)) :
    (normalFields fields).map Prod.fst = fields.map Prod.fst := by
  rw [normalFields_map, List.map_map]
  rfl

mutual
theorem value_reads : (value : JsValue) → value.json = true → ∀ text,
    value.canonicalJson = .ok text → Reads value.normal text
  | .null, _, text, printed => by
    rw [canonicalJson] at printed
    obtain rfl := Except.ok.inj printed
    intro fuel s enough _
    obtain ⟨fuel, rfl⟩ : ∃ n, fuel = n + 1 := ⟨fuel - 1, by simp at enough; omega⟩
    rfl
  | .bool true, _, text, printed => by
    rw [canonicalJson] at printed
    obtain rfl := Except.ok.inj printed
    intro fuel s enough _
    obtain ⟨fuel, rfl⟩ : ∃ n, fuel = n + 1 := ⟨fuel - 1, by simp at enough; omega⟩
    rfl
  | .bool false, _, text, printed => by
    rw [canonicalJson] at printed
    obtain rfl := Except.ok.inj printed
    intro fuel s enough _
    obtain ⟨fuel, rfl⟩ : ∃ n, fuel = n + 1 := ⟨fuel - 1, by simp at enough; omega⟩
    rfl
  | .number value, _, text, printed => by
    rw [canonicalJson] at printed
    obtain rfl := Except.ok.inj printed
    rw [normal]
    exact number_reads value
  | .string value, _, text, printed => by
    rw [canonicalJson] at printed
    obtain rfl := Except.ok.inj printed
    rw [normal]
    exact string_reads value
    all_goals simp
  | .array items, data, text, printed => by
    rw [json] at data
    obtain ⟨texts, done, rfl⟩ := canonicalJson_array printed
    rw [normal]
    refine array_reads (items_reads items data texts done) fun text member => ?_
    obtain ⟨item, _, itemPrinted⟩ := forall₂_right (itemTexts_ok.mp done) text member
    exact canonicalJson_head itemPrinted
  | .object plain fields, data, text, printed => by
    rw [json, Bool.and_eq_true, Bool.and_eq_true, decide_eq_true_iff] at data
    obtain ⟨rfl, members, done, rfl⟩ := canonicalJson_object printed
    rw [normal]
    refine object_reads (sortKeys_forall₂ (fields_reads fields data.2 members done)) ?_
    exact sortKeys_keys (normalFields_keys fields ▸ data.1.2)
  | .undefined, data, _, _ | .hole, data, _, _ | .function, data, _, _ | .symbol, data, _, _
  | .bigint _, data, _, _ | .nonFinite, data, _, _ => by rw [json] at data; cases data
theorem items_reads : (items : List JsValue) → jsonItems items = true → ∀ texts,
    itemTexts items = .ok texts → List.Forall₂ Reads (normalItems items) texts
  | [], _, texts, done => by
    rw [itemTexts] at done
    obtain rfl := Except.ok.inj done
    rw [normalItems]
    exact .nil
  | item :: rest, data, texts, done => by
    rw [jsonItems, Bool.and_eq_true] at data
    rw [itemTexts] at done
    obtain ⟨text, printed, done⟩ := bind_ok.mp done
    obtain ⟨others, more, same⟩ := bind_ok.mp done
    obtain rfl := Except.ok.inj same
    rw [normalItems]
    exact .cons (value_reads item data.1 text printed) (items_reads rest data.2 others more)
theorem fields_reads : (fields : List (JsString × JsValue)) → jsonFields fields = true →
    ∀ members, fieldTexts fields = .ok members →
    List.Forall₂ (fun entry member => member.1 = entry.1 ∧ Reads entry.2 member.2)
      (normalFields fields) members
  | [], _, members, done => by
    rw [fieldTexts] at done
    obtain rfl := Except.ok.inj done
    rw [normalFields]
    exact .nil
  | (key, value) :: rest, data, members, done => by
    rw [jsonFields, Bool.and_eq_true] at data
    rw [fieldTexts] at done
    obtain ⟨text, printed, done⟩ := bind_ok.mp done
    obtain ⟨others, more, same⟩ := bind_ok.mp done
    obtain rfl := Except.ok.inj same
    rw [normalFields]
    exact .cons ⟨rfl, value_reads value data.1 text printed⟩ (fields_reads rest data.2 others more)
end

/-- Canonical text is read back as the normal form of the value. -/
theorem parse_text {value : JsValue} (data : value.json = true) {text : List Char}
    (printed : value.canonicalJson = .ok text) : parse text = some value.normal := by
  have read := value_reads value data text printed (text.length + 1) [] (Nat.le_succ _)
    (fun c none => by cases none)
  rw [List.append_nil] at read
  rw [parse, read]
  rfl

mutual
/-- A value and its normal form have the same text. -/
theorem canonicalJson_normal : (value : JsValue) → ∀ text, value.canonicalJson = .ok text →
    value.normal.canonicalJson = .ok text
  | .number value, text, printed => by
    rw [normal, canonicalJson, numberChars_parsed]
    rwa [canonicalJson] at printed
  | .array items, text, printed => by
    obtain ⟨texts, done, rfl⟩ := canonicalJson_array printed
    rw [normal, canonicalJson, itemTexts_normal items texts done]
    rfl
  | .object plain fields, text, printed => by
    obtain ⟨rfl, members, done, rfl⟩ := canonicalJson_object printed
    have sorted : fieldTexts (sortKeys (normalFields fields)) = .ok (sortKeys members) :=
      fieldTexts_ok.mpr (sortKeys_forall₂ (fieldTexts_ok.mp (fieldTexts_normal fields members done)))
    rw [normal, canonicalJson, sorted]
    show Except.ok ('{' :: commaSeparated ((sortKeys (sortKeys members)).map memberChars) ++ ['}'])
      = _
    rw [sortKeys_sorted]
  | .null, text, printed | .bool true, text, printed | .bool false, text, printed
  | .string _, text, printed | .undefined, text, printed | .hole, text, printed
  | .function, text, printed | .symbol, text, printed | .bigint _, text, printed
  | .nonFinite, text, printed => by
    rw [normal]
    · exact printed
    all_goals simp
theorem itemTexts_normal : (items : List JsValue) → ∀ texts, itemTexts items = .ok texts →
    itemTexts (normalItems items) = .ok texts
  | [], texts, done => by rwa [normalItems]
  | item :: rest, texts, done => by
    rw [itemTexts] at done
    obtain ⟨text, printed, done⟩ := bind_ok.mp done
    obtain ⟨others, more, same⟩ := bind_ok.mp done
    obtain rfl := Except.ok.inj same
    rw [normalItems, itemTexts, canonicalJson_normal item text printed,
      itemTexts_normal rest others more]
    rfl
theorem fieldTexts_normal : (fields : List (JsString × JsValue)) → ∀ members,
    fieldTexts fields = .ok members → fieldTexts (normalFields fields) = .ok members
  | [], members, done => by rwa [normalFields]
  | (key, value) :: rest, members, done => by
    rw [fieldTexts] at done
    obtain ⟨text, printed, done⟩ := bind_ok.mp done
    obtain ⟨others, more, same⟩ := bind_ok.mp done
    obtain rfl := Except.ok.inj same
    rw [normalFields, fieldTexts, canonicalJson_normal value text printed,
      fieldTexts_normal rest others more]
    rfl
end

theorem parsed_parsed (value : JsonNumber) : value.parsed.parsed = value.parsed := by
  simp only [JsonNumber.parsed, Bool.and_assoc, Bool.and_self]

mutual
theorem normal_normal : (value : JsValue) → value.normal.normal = value.normal
  | .number value => by rw [normal, normal, parsed_parsed]
  | .array items => by rw [normal, normal, normalItems_normal items]
  | .object plain fields => by
    rw [normal, normal, normalFields_sortKeys, normalFields_normal fields, sortKeys_sorted]
  | .null | .bool _ | .string _ | .undefined | .hole | .function | .symbol | .bigint _
  | .nonFinite => by simp [normal]
theorem normalItems_normal : (items : List JsValue) →
    normalItems (normalItems items) = normalItems items
  | [] => by rw [normalItems, normalItems]
  | item :: rest => by rw [normalItems, normalItems, normal_normal item, normalItems_normal rest]
theorem normalFields_normal : (fields : List (JsString × JsValue)) →
    normalFields (normalFields fields) = normalFields fields
  | [] => by rw [normalFields, normalFields]
  | (_, value) :: rest => by
    rw [normalFields, normalFields, normal_normal value, normalFields_normal rest]
end

theorem canonicalJson_eq_iff {x y : JsValue} (data : x.json = true) (data' : y.json = true) :
    x.canonicalJson = y.canonicalJson ↔ Alike x y := by
  obtain ⟨text, printed⟩ := canonicalJson_json x data
  obtain ⟨text', printed'⟩ := canonicalJson_json y data'
  constructor
  · intro same
    rw [printed, printed'] at same
    obtain rfl := Except.ok.inj same
    exact Option.some.inj ((parse_text data printed).symm.trans (parse_text data' printed'))
  · intro alike
    rw [printed, printed', ← canonicalJson_normal x text printed,
      ← canonicalJson_normal y text' printed', alike]

def ofString (s : String) : JsString := s.toList.flatMap charUnits

mutual
/-- A value whose strings are Unicode text. -/
def ofJson : JsonValue → JsValue
  | .null => .null
  | .bool value => .bool value
  | .number value => .number value
  | .string value => .string (ofString value)
  | .array items => .array (ofItems items)
  | .object fields => .object true (ofFields fields)
def ofItems : List JsonValue → List JsValue
  | [] => []
  | item :: rest => ofJson item :: ofItems rest
def ofFields : List (String × JsonValue) → List (JsString × JsValue)
  | [] => []
  | (key, value) :: rest => (ofString key, ofJson value) :: ofFields rest
end

theorem quoteUnits_cons {unit : CodeUnit} (plain : isHigh unit = false) (rest : JsString) :
    quoteUnits (unit :: rest) = unitText unit ++ quoteUnits rest := by
  cases rest with
  | nil => rw [quoteUnits, quoteUnits, List.append_nil]
  | cons low rest => rw [quoteUnits, plain, Bool.false_and, if_neg Bool.false_ne_true]

theorem charUnits_val (c : Char) : (charUnits c).map Fin.val = Json.charUnits c := by
  have valid := toNat_valid c
  unfold charUnits Json.charUnits
  split
  · rw [List.map_singleton, Fin.val_ofNat, Nat.mod_eq_of_lt ‹_›]
  · rw [List.map_cons, List.map_singleton, Fin.val_ofNat, Fin.val_ofNat,
      Nat.mod_eq_of_lt (by omega), Nat.mod_eq_of_lt (by omega)]

theorem escapeChar_large {c : Char} (large : 0x10000 ≤ c.toNat) : escapeChar c = [c] := by
  have value {n : UInt32} (same : c.val = n) : c.toNat = n.toNat := congrArg UInt32.toNat same
  unfold escapeChar
  split
  · exact absurd large (by decide)
  · exact absurd large (by decide)
  · exact absurd large (by decide)
  · exact absurd large (by decide)
  · exact absurd large (by decide)
  · have backspace : c.val ≠ 8 := fun same => absurd (value same ▸ large) (by decide)
    have feed : c.val ≠ 12 := fun same => absurd (value same ▸ large) (by decide)
    have printable : ¬ c.val < 32 := fun small =>
      absurd (Nat.lt_of_le_of_lt large (UInt32.lt_iff_toNat_lt.mp small)) (by decide)
    rw [if_neg backspace, if_neg feed, if_neg printable]

theorem quoteUnits_charUnits (c : Char) (rest : JsString) :
    quoteUnits (charUnits c ++ rest) = escapeChar c ++ quoteUnits rest := by
  have valid := toNat_valid c
  have units := charUnits_val c
  unfold charUnits Json.charUnits at units
  unfold charUnits
  split
  · rename_i small
    rw [if_pos small, if_pos small, List.map_singleton] at units
    have value := List.singleton_inj.mp units
    rw [List.singleton_append]
    generalize Fin.ofNat 0x10000 c.toNat = unit at value ⊢
    have single : ¬ (isHigh unit || isLow unit) = true := by
      rw [surrogate_iff]
      omega
    have plain : isHigh unit = false := by
      rw [Bool.or_eq_true, not_or] at single
      exact Bool.eq_false_iff.mpr single.1
    rw [quoteUnits_cons plain, unitText, if_neg single, value, Char.ofNat_toNat]
  · rename_i large
    rw [if_neg large, if_neg large, List.map_cons, List.map_singleton] at units
    obtain ⟨first, units⟩ := List.cons.inj units
    have second := List.singleton_inj.mp units
    rw [List.cons_append, List.singleton_append]
    generalize Fin.ofNat 0x10000 (0xD800 + (c.toNat - 0x10000) / 0x400) = high at first ⊢
    generalize Fin.ofNat 0x10000 (0xDC00 + (c.toNat - 0x10000) % 0x400) = low at second ⊢
    have pair : (isHigh high && isLow low) = true := by
      simp only [isHigh, isLow, Bool.and_eq_true, decide_eq_true_iff]
      omega
    have same : pairChar high low = c := by
      refine char_ext ?_
      rw [pairChar_toNat pair]
      omega
    rw [quoteUnits, if_pos pair, same, escapeChar_large (Nat.le_of_not_lt large)]
    rfl

theorem quoteUnits_ofString (s : String) : quoteUnits (ofString s) = s.toList.flatMap escapeChar := by
  unfold ofString
  induction s.toList with
  | nil => rfl
  | cons c rest ih => rw [List.flatMap_cons, List.flatMap_cons, quoteUnits_charUnits, ih]

theorem stringText_ofString (s : String) : stringText (ofString s) = stringChars s := by
  rw [stringText, stringChars, quoteUnits_ofString]

theorem ofString_val (s : String) : (ofString s).map Fin.val = codeUnits s := by
  unfold ofString codeUnits
  rw [List.map_flatMap]
  exact List.flatMap_congr fun c _ => charUnits_val c

theorem map_val_lt {a b : JsString} : a.map Fin.val < b.map Fin.val ↔ a < b := by
  induction a generalizing b with
  | nil => cases b <;> simp
  | cons x a ih =>
    cases b with
    | nil => simp
    | cons y b =>
      rw [List.map_cons, List.map_cons, List.cons_lt_cons_iff, List.cons_lt_cons_iff, ih,
        Fin.val_inj]
      rfl

/-- Keys are sorted alike. -/
theorem unitsLe_ofString {a b : String × List Char} :
    unitsLe (ofString a.1, a.2) (ofString b.1, b.2) ↔ keyLe a.1 b.1 = true := by
  rw [keyLe_iff, unitsLe, ← ofString_val, ← ofString_val, ← not_lt, ← not_lt, map_val_lt]

theorem sortKeys_ofString (fields : List (String × List Char)) :
    sortKeys (fields.map fun entry => (ofString entry.1, entry.2)) =
      (sortFields fields).map fun entry => (ofString entry.1, entry.2) := by
  rw [sortKeys, sortFields, List.map_insertionSort _ unitsLe]
  exact fun _ _ _ _ => unitsLe_ofString.symm

mutual
/-- On Unicode text the canonical text is the one that the store's digests are taken of. -/
theorem canonicalJson_ofJson : (value : JsonValue) →
    (ofJson value).canonicalJson = .ok (canonicalChars value)
  | .null => by rw [ofJson, canonicalJson, canonicalChars]
  | .bool true => by rw [ofJson, canonicalJson, canonicalChars]
  | .bool false => by rw [ofJson, canonicalJson, canonicalChars]
  | .number value => by rw [ofJson, canonicalJson, canonicalChars]
  | .string value => by rw [ofJson, canonicalJson, canonicalChars, stringText_ofString]
  | .array items => by
    rw [ofJson, canonicalJson, canonicalChars, itemTexts_ofItems items]
    rfl
  | .object fields => by
    rw [ofJson, canonicalJson, canonicalChars, fieldTexts_ofFields fields]
    show Except.ok ('{' :: commaSeparated ((sortKeys _).map memberChars) ++ ['}']) = _
    have texts : ((sortFields (Json.fieldTexts fields)).map fun entry =>
        (ofString entry.1, entry.2)).map memberChars =
        (sortFields (Json.fieldTexts fields)).map
          fun (key, text) => stringChars key ++ ':' :: text := by
      rw [List.map_map]
      refine List.map_congr_left fun entry _ => ?_
      rw [Function.comp_apply, memberChars, stringText_ofString]
    rw [sortKeys_ofString, texts]
theorem itemTexts_ofItems : (items : List JsonValue) →
    itemTexts (ofItems items) = .ok (Json.itemTexts items)
  | [] => by rw [ofItems, itemTexts, Json.itemTexts]
  | item :: rest => by
    rw [ofItems, itemTexts, Json.itemTexts, canonicalJson_ofJson item, itemTexts_ofItems rest]
    rfl
theorem fieldTexts_ofFields : (fields : List (String × JsonValue)) →
    fieldTexts (ofFields fields) =
      .ok ((Json.fieldTexts fields).map fun entry => (ofString entry.1, entry.2))
  | [] => by rw [ofFields, fieldTexts, Json.fieldTexts, List.map_nil]
  | (key, value) :: rest => by
    rw [ofFields, fieldTexts, Json.fieldTexts, canonicalJson_ofJson value,
      fieldTexts_ofFields rest]
    rfl
end

/-- Canonical JSON is read back as what was printed, is one text for values that are alike and
for no others, and is not printed for a value with a part that JSON has no text for. -/
theorem canonicalJson_exact :
    (∀ x : JsValue, x.json = true →
      ∃ text y, x.canonicalJson = .ok text ∧ parse text = some y ∧ Alike y x) ∧
    (∀ x y : JsValue, x.json = true → y.json = true →
      (x.canonicalJson = y.canonicalJson ↔ Alike x y)) ∧
    ∀ x part : JsValue, Within part x → part.foreign = true →
      x.canonicalJson = .error notJson := by
  refine ⟨fun x data => ?_, fun _ _ => canonicalJson_eq_iff, fun _ _ => canonicalJson_foreign⟩
  obtain ⟨text, printed⟩ := canonicalJson_json x data
  exact ⟨text, x.normal, printed, parse_text data printed, normal_normal x⟩

theorem surrogate_lt : 0xD800 < 0x10000 := by decide

/-- Zero in an array under the keys of a lone surrogate and of the empty string. -/
def loneSurrogate (negative : Bool) : JsValue :=
  .object true [([⟨0xD800, surrogate_lt⟩],
    .array [.number ⟨negative, 0, 0, JsonNumber.zero_normal⟩]), ([], .null)]

theorem loneSurrogate_text :
    (∃ text y, (loneSurrogate true).canonicalJson = .ok text ∧ parse text = some y ∧
      Alike y (loneSurrogate true)) ∧
    (loneSurrogate true).canonicalJson = (loneSurrogate false).canonicalJson ∧
    JsValue.canonicalJson (.array [.null, .object true [([0x61], .undefined)]]) =
      .error notJson := by
  obtain ⟨parsed, same, thrown⟩ := canonicalJson_exact
  refine ⟨parsed _ (by decide), (same _ _ (by decide) (by decide)).mpr rfl, ?_⟩
  refine thrown _ .undefined (.item (List.mem_cons_of_mem _ List.mem_cons_self) ?_) rfl
  exact .field List.mem_cons_self .self

end Anastom.JsValue
