import MppRouter.Core.Json

/-! # Reading back what was written -/

namespace Json

open TextEncoding List
open Prod (fst)
open Option (bind_some map_some map_eq_some_iff bind_eq_some_iff)

/-! ## The values within a value -/

/-- Induction on a value: what holds of all items holds of the array, what holds of all fields' values of the object. -/
@[induction_eliminator] theorem Value.induct {P : Value → Prop} (null : P .null) (bool : ∀ value, P (.bool value))
    (number : ∀ value, P (.number value)) (string : ∀ text, P (.string text))
    (array : ∀ items, (∀ item ∈ items, P item) → P (.array items))
    (object : ∀ fields, (∀ field ∈ fields, P field.2) → P (.object fields)) (value : Value) : P value := by
  exact Value.rec (motive_1 := P) (motive_2 := fun items => ∀ item ∈ items, P item)
    (motive_3 := fun fields => ∀ field ∈ fields, P field.2) (motive_4 := fun field => P field.2) null bool number string array
    object (forall_mem_nil _) (fun _ _ first rest => forall_mem_cons.mpr ⟨first, rest⟩) (forall_mem_nil _)
    (fun _ _ first rest => forall_mem_cons.mpr ⟨first, rest⟩) (fun _ _ ih => ih) value

/-- A value stands in another: it is that one, or stands in an item or under a key of it. -/
inductive Value.Within (inner : Value) : Value → Prop where
  | self : Within inner inner
  | item {items : List Value} {item : Value} (member : item ∈ items) (deeper : Within inner item) : Within inner (.array items)
  | field {fields : List (Units × Value)} {field : Units × Value} (member : field ∈ fields)
      (deeper : Within inner field.2) : Within inner (.object fields)

/-- A property of the value and of all values in it. -/
def Value.Everywhere (P : Value → Prop) (value : Value) : Prop := ∀ inner, Value.Within inner value → P inner

namespace Value.Everywhere

variable {P Q : Value → Prop} {value : Value}

theorem self (all : value.Everywhere P) : P value := all value .self

theorem item {items : List Value} (all : (Value.array items).Everywhere P) {item : Value} (member : item ∈ items) :
    item.Everywhere P :=
  fun inner deeper => all inner (.item member deeper)

theorem field {fields : List (Units × Value)} (all : (Value.object fields).Everywhere P) {field : Units × Value}
    (member : field ∈ fields) : field.2.Everywhere P :=
  fun inner deeper => all inner (.field member deeper)

theorem array {items : List Value} (own : P (.array items)) (all : ∀ item ∈ items, item.Everywhere P) :
    (Value.array items).Everywhere P := by
  intro inner within
  cases within with
  | self => exact own
  | item member deeper => exact all _ member inner deeper

theorem object {fields : List (Units × Value)} (own : P (.object fields)) (all : ∀ field ∈ fields, field.2.Everywhere P) :
    (Value.object fields).Everywhere P := by
  intro inner within
  cases within with
  | self => exact own
  | field member deeper => exact all _ member inner deeper

theorem mono (imp : ∀ value, P value → Q value) (all : value.Everywhere P) : value.Everywhere Q :=
  fun inner within => imp inner (all inner within)

end Value.Everywhere

theorem itemTexts_eq (items : List Value) : itemTexts items = items.map Value.text := by
  induction items with
  | nil => rfl
  | cons item items ih => rw [itemTexts, ih, map_cons]

theorem fieldTexts_eq (fields : List (Units × Value)) :
    fieldTexts fields = fields.map fun field => (field.1, field.2.text) := by
  induction fields with
  | nil => rfl
  | cons field fields ih => rw [fieldTexts, ih, map_cons]

/-! ## Strings -/

theorem hexOf_hexUnit {digit : ℕ} (small : digit < 16) : hexOf (hexUnit digit) = some digit := by
  have all : ∀ digit : Fin 16, hexOf (hexUnit digit) = some digit.val := by decide
  exact all ⟨digit, small⟩

theorem readHex_unicode (unit : UInt16) :
    readHex (hexUnit (unit.toNat / 4096)) (hexUnit (unit.toNat / 256 % 16)) (hexUnit (unit.toNat / 16 % 16))
      (hexUnit (unit.toNat % 16)) = some unit := by
  have short := unit.toNat_lt
  have value : 4096 * (unit.toNat / 4096) + 256 * (unit.toNat / 256 % 16) + 16 * (unit.toNat / 16 % 16) + unit.toNat % 16 =
      unit.toNat := by omega
  rw [readHex, hexOf_hexUnit (by omega), hexOf_hexUnit (by omega), hexOf_hexUnit (by omega), hexOf_hexUnit (by omega)]
  simp only [Option.bind_eq_bind, bind_some, value, Option.pure_def, UInt16.ofNat_toNat]

theorem readString_quote (rest : Units) : readString (ascii '"' :: rest) = some ([], rest) := by
  rw [readString.eq_def]
  rfl

variable {unit : UInt16}

/-- A unit that stands for itself. -/
theorem readString_plain (quote : unit ≠ ascii '"') (backslash : unit ≠ ascii '\\') (printable : ¬ unit < 0x20)
    (rest : Units) : readString (unit :: rest) = (readString rest).map fun read => (unit :: read.1, read.2) := by
  rw [readString.eq_def]
  simp only [if_neg quote, if_neg backslash, if_neg printable]

theorem readString_mark {mark plain : UInt16} (other : mark ≠ ascii 'u') (found : MARKS.lookup mark = some plain) (rest : Units) :
    readString (ascii '\\' :: mark :: rest) = (readString rest).map fun read => (plain :: read.1, read.2) := by
  rw [readString.eq_def]
  have distinct : ascii '\\' ≠ ascii '"' := by decide
  simp only [if_neg distinct, if_neg other, found, if_true, Option.bind_some]

theorem readString_unicode (unit : UInt16) (rest : Units) :
    readString (unicodeEscape unit ++ rest) = (readString rest).map fun read => (unit :: read.1, read.2) := by
  simp only [unicodeEscape, cons_append, nil_append]
  rw [readString.eq_def]
  have distinct : ascii '\\' ≠ ascii '"' := by decide
  simp only [if_neg distinct, if_true, readHex_unicode, bind_some]

theorem readString_escape (unit : UInt16) (rest : Units) :
    readString (escape unit ++ rest) = (readString rest).map fun read => (unit :: read.1, read.2) := by
  by_cases short : ∃ entry ∈ SHORT_ESCAPES, unit = entry.1
  · obtain ⟨entry, member, rfl⟩ := short
    have all : (SHORT_ESCAPES.all fun entry => SHORT_ESCAPES.lookup entry.1 == some entry.2 && entry.2 != ascii 'u' &&
        MARKS.lookup entry.2 == some entry.1) = true := by decide
    have own := all_eq_true.mp all entry member
    simp only [Bool.and_eq_true, beq_iff_eq, bne_iff_ne] at own
    obtain ⟨⟨found, other⟩, back⟩ := own
    rw [escape, found]
    exact readString_mark other back rest
  · have missing : SHORT_ESCAPES.lookup unit = none := by
      rw [lookup_eq_none_iff]
      intro entry member
      rw [bne_iff_ne]
      rintro rfl
      exact short ⟨entry, member, rfl⟩
    have apart : unit ≠ ascii '"' ∧ unit ≠ ascii '\\' := by
      constructor
      · rintro rfl
        exact short ⟨(ascii '"', ascii '"'), by decide, rfl⟩
      · rintro rfl
        exact short ⟨(ascii '\\', ascii '\\'), by decide, rfl⟩
    unfold escape
    rw [missing]
    dsimp only
    split
    next => exact readString_unicode unit rest
    next plain =>
      simp only [Bool.or_eq_true, decide_eq_true_eq, not_or] at plain
      exact readString_plain apart.1 apart.2 plain.1.1 rest

/-- A half of a pair stands for itself. -/
theorem surrogate_plain (half : isHigh unit = true ∨ isLow unit = true) :
    unit ≠ ascii '"' ∧ unit ≠ ascii '\\' ∧ ¬ unit < 0x20 := by
  have large : 0xD800 ≤ unit.toNat := by
    rcases half with half | half
    · exact (isHigh_iff.mp half).1
    · have bounds := isLow_iff.mp half
      omega
  refine ⟨?_, ?_, ?_⟩
  · rintro rfl
    revert large
    decide
  · rintro rfl
    revert large
    decide
  · intro small
    have small : unit.toNat < 0x20 := UInt16.lt_iff_toNat_lt.mp small
    omega

/-- What `JSON.stringify` makes of a string is read back as that string. -/
theorem readString_escaped (text rest : Units) : readString (escaped text ++ ascii '"' :: rest) = some (text, rest) := by
  induction text using escaped.induct with
  | case1 => exact readString_quote rest
  | case2 unit =>
    rw [escaped, readString_escape, readString_quote]
    rfl
  | case3 unit next more pairs ih =>
    rw [escaped, if_pos pairs]
    rw [Bool.and_eq_true] at pairs
    obtain ⟨quote, backslash, printable⟩ := surrogate_plain (.inl pairs.1)
    obtain ⟨quote', backslash', printable'⟩ := surrogate_plain (.inr pairs.2)
    simp only [cons_append]
    rw [readString_plain quote backslash printable, readString_plain quote' backslash' printable', ih]
    rfl
  | case4 unit next more apart ih =>
    rw [escaped, if_neg apart, append_assoc, readString_escape, ih]
    rfl

theorem quote_append (text rest : Units) : quote text ++ rest = ascii '"' :: (escaped text ++ ascii '"' :: rest) := by
  simp [quote]

/-! ## Words and numbers -/

/-- A unit that begins a word or a number. -/
def isScalarStart (unit : UInt16) : Bool :=
  unit == ascii '-' || (digitOf unit).isSome || unit == ascii 'n' || unit == ascii 't' || unit == ascii 'f'

theorem digitUnit_of_digitOf {digit : Digit} (read : digitOf unit = some digit) : unit = digitUnit digit := by
  unfold digitOf at read
  split at read
  next bounds =>
    cases read
    have code : 48 + (unit.toNat - 48) = unit.toNat := by omega
    rw [digitUnit, code, UInt16.ofNat_toNat]
  next => cases read

/-- Neither a space nor a mark of JSON begins a word or a number. -/
theorem isScalarStart_plain (start : isScalarStart unit = true) :
    isSpace unit = false ∧ unit ≠ ascii '"' ∧ unit ≠ ascii '[' ∧ unit ≠ ascii '\x7b' ∧ unit ≠ ascii ']' := by
  simp only [isScalarStart, Bool.or_eq_true, beq_iff_eq] at start
  rcases start with (((rfl | digit) | rfl) | rfl) | rfl
  · decide
  · obtain ⟨digit, read⟩ := Option.isSome_iff_exists.mp digit
    rw [digitUnit_of_digitOf read]
    clear read
    revert digit
    decide
  all_goals decide

variable {round : Decimal → Number} {text : Units}

/-- A number literal begins with its sign or a digit, and with no word. -/
theorem readNumber_starts {read : Number × Units} (found : readNumber round text = some read) :
    ∃ unit rest, text = unit :: rest ∧ isScalarStart unit = true ∧ WORDS.find? (fun entry => entry.1.isPrefixOf text) = none := by
  cases text with
  | nil => cases found
  | cons unit rest =>
    have start : unit = ascii '-' ∨ (digitOf unit).isSome = true := by
      by_contra neither
      obtain ⟨sign, digit⟩ := not_or.mp neither
      have unsigned : readMinus (unit :: rest) = (false, unit :: rest) := if_neg sign
      have none : readDigits (unit :: rest) = ([], unit :: rest) := by
        apply readDigits_none
        rintro _ ⟨⟩
        rwa [Option.not_isSome_iff_eq_none] at digit
      simp [readNumber, unsigned, none] at found
    refine ⟨unit, rest, rfl, ?_, ?_⟩
    · rcases start with rfl | digit
      · rfl
      · simp [isScalarStart, digit]
    · have apart : unit ≠ ascii 'n' ∧ unit ≠ ascii 't' ∧ unit ≠ ascii 'f' := by
        rcases start with rfl | digit
        · decide
        · obtain ⟨digit, read⟩ := Option.isSome_iff_exists.mp digit
          rw [digitUnit_of_digitOf read]
          clear read
          revert digit
          decide
      rw [find?_eq_none]
      intro entry member begins
      rw [ isPrefixOf_iff_prefix] at begins
      simp only [WORDS, mem_cons, not_mem_nil, or_false] at member
      rcases member with rfl | rfl | rfl <;> obtain ⟨more, same⟩ := begins <;> cases same
      · exact apart.1 rfl
      · exact apart.2.1 rfl
      · exact apart.2.2 rfl

theorem readScalar_number {reader : Reader} {rest : Units} {number : Number}
    (read : readNumber reader.round text = some (number, rest)) : readScalar reader text = some (.number number, rest) := by
  obtain ⟨unit, more, rfl, start, none⟩ := readNumber_starts read
  rw [readScalar, none]
  simp only [read, map_some]

/-! ## Values -/

variable (reader : Reader)

/-- A number that the reader makes, or fields that it leaves as they are. -/
def Value.Kept : Value → Prop
  | .number (.finite decimal) => reader.round decimal = .finite decimal
  | .number (.infinite _) => False
  | .object fields => reader.assemble fields = fields
  | _ => True

theorem readNumber_zero {rest : Units} (ends : Ends rest) : readNumber reader.round (ascii '0' :: rest) = some (.zero, rest) := by
  have standard : ¬ ([(0 : Digit)].head? = some 0 ∧ 1 < [(0 : Digit)].length) := by simp
  have read := readNumber_of reader.round false (by simp) standard (fun unit head => (ends unit head).1)
    (readFraction_none fun unit head => (ends unit head).2.1) (readExponent_none fun unit head => (ends unit head).2.2)
  exact read

/-- A scalar that does not begin with a space or a mark is read as one. -/
theorem readValue_scalar {fuel : ℕ} (start : isScalarStart unit = true) :
    readValue reader (fuel + 1) (unit :: text) = readScalar reader (unit :: text) := by
  obtain ⟨space, quote, bracket, brace, -⟩ := isScalarStart_plain start
  have kept : skipSpace (unit :: text) = unit :: text := by simp [skipSpace, space]
  rw [readValue, kept]
  simp only [if_neg quote, if_neg bracket, if_neg brace]

variable {value : Value}

theorem readValue_word {fuel : ℕ} (member : (text, value) ∈ WORDS) (rest : Units) :
    readValue reader (fuel + 1) (text ++ rest) = some (value, rest) := by
  simp only [WORDS, mem_cons, not_mem_nil, or_false, Prod.mk.injEq] at member
  rcases member with ⟨rfl, rfl⟩ | ⟨rfl, rfl⟩ | ⟨rfl, rfl⟩ <;> exact readValue_scalar reader (by decide)

theorem skipSpace_cons (mark : isSpace unit = false) (rest : Units) : skipSpace (unit :: rest) = unit :: rest := by
  simp [skipSpace, mark]

/-- Every value's text begins with a mark of JSON, a word or a number. -/
theorem Value.text_starts (kept : value.Kept reader) :
    ∃ unit rest, value.text = unit :: rest ∧ isSpace unit = false ∧ unit ≠ ascii ']' := by
  cases value with
  | null => exact ⟨_, _, rfl, by decide, by decide⟩
  | bool value => cases value <;> exact ⟨_, _, rfl, by decide, by decide⟩
  | number value =>
    cases value with
    | zero => exact ⟨_, _, rfl, by decide, by decide⟩
    | finite decimal =>
      have read := readNumber_text reader.round decimal (show Ends [] by rintro unit ⟨⟩)
      obtain ⟨unit, rest, shape, start, -⟩ := readNumber_starts read
      rw [append_nil] at shape
      obtain ⟨space, -, -, -, bracket⟩ := isScalarStart_plain start
      exact ⟨unit, rest, shape, space, bracket⟩
    | infinite negative => exact absurd kept id
  | string text => exact ⟨_, _, rfl, by decide, by decide⟩
  | array items => exact ⟨_, _, by rw [Value.text], by decide, by decide⟩
  | object fields => exact ⟨_, _, by rw [Value.text], by decide, by decide⟩

/-- The value is read back from its text, whatever ends it. -/
def Value.ReadsBack (value : Value) : Prop :=
  ∀ fuel rest, 2 * value.text.length ≤ fuel → Ends rest → readValue reader fuel (value.text ++ rest) = some (value, rest)

/-- No text is empty, so its reading begins. -/
theorem Value.ReadsBack.of_step {reader : Reader} (kept : value.Kept reader)
    (step : ∀ fuel rest, 2 * value.text.length ≤ fuel + 1 → Ends rest →
      readValue reader (fuel + 1) (value.text ++ rest) = some (value, rest)) : value.ReadsBack reader := by
  intro fuel rest enough ends
  obtain ⟨unit, more, shape, -⟩ := value.text_starts reader kept
  obtain _ | fuel := fuel
  · rw [shape] at enough
    cases enough
  · exact step fuel rest enough ends

theorem ends_mark (mark : unit ∈ [ascii ',', ascii ']', ascii '\x7d']) (rest : Units) : Ends (unit :: rest) := by
  rintro _ ⟨⟩
  simp only [mem_cons, not_mem_nil, or_false] at mark
  rcases mark with rfl | rfl | rfl <;> decide

theorem commaSeparated_cons (item : Units) (items : List Units) (close : UInt16) (rest : Units) :
    commaSeparated (item :: items) ++ close :: rest =
      item ++ if items = [] then close :: rest else ascii ',' :: (commaSeparated items ++ close :: rest) := by
  cases items with
  | nil => rfl
  | cons next items => simp [commaSeparated]

theorem readItems_text {items : List Value} (all : ∀ item ∈ items, item.ReadsBack reader) (some : items ≠ []) (fuel : ℕ)
    (rest : Units) (enough : 2 * (commaSeparated (items.map Value.text)).length + 2 ≤ fuel) :
    readItems reader fuel (commaSeparated (items.map Value.text) ++ ascii ']' :: rest) = Option.some (items, rest) := by
  induction items generalizing fuel with
  | nil => exact absurd rfl some
  | cons item items ih =>
    obtain ⟨first, others⟩ := forall_mem_cons.mp all
    obtain _ | fuel := fuel
    · omega
    rw [map_cons] at enough ⊢
    rw [commaSeparated_cons]
    cases items with
    | nil =>
      have read := first fuel (ascii ']' :: rest) (by simp [commaSeparated] at enough; omega) (ends_mark (by decide) rest)
      rw [map_nil, if_pos rfl, readItems, read]
      rfl
    | cons next items =>
      have length : 2 * (item.text.length + 1 + (commaSeparated ((next :: items).map Value.text)).length) + 2 ≤ fuel + 1 := by
        simpa [commaSeparated, Nat.add_assoc, Nat.add_comm 1] using enough
      have read := first fuel (ascii ',' :: (commaSeparated ((next :: items).map Value.text) ++ ascii ']' :: rest)) (by omega)
        (ends_mark (by decide) _)
      have more := ih others (cons_ne_nil _ _) fuel (by omega)
      rw [if_neg (by simp), readItems, read]
      simp only [bind_some, skipSpace_cons (show isSpace (ascii ',') = false by decide)]
      rw [if_neg (by decide), if_pos trivial, more]
      rfl

/-- A field is read up to what follows its value. -/
theorem readFields_first {field : Units × Value} (reads : field.2.ReadsBack reader) {fuel : ℕ} {rest : Units}
    (enough : 2 * (writeField (field.1, field.2.text)).length ≤ fuel + 1) (ends : Ends rest) :
    readFields reader (fuel + 1) (writeField (field.1, field.2.text) ++ rest) =
      match skipSpace rest with
      | [] => none
      | unit :: rest =>
        if unit = ascii '\x7d' then some ([field], rest)
        else if unit = ascii ',' then (readFields reader fuel rest).map fun read => (field :: read.1, read.2)
        else none := by
  obtain ⟨key, value⟩ := field
  have shape : writeField (key, value.text) ++ rest =
      ascii '"' :: (escaped key ++ ascii '"' :: ascii ':' :: (value.text ++ rest)) := by
    simp [writeField, quote]
  have long : 2 * value.text.length ≤ fuel := by
    simp [writeField, quote] at enough
    omega
  rw [shape, readFields, skipSpace_cons (by decide)]
  cases after : skipSpace rest <;>
    simp only [if_true, readString_escaped, bind_some, skipSpace_cons (show isSpace (ascii ':') = false by decide),
      reads fuel rest long ends, after]

variable {fields : List (Units × Value)}

theorem readFields_text (all : ∀ field ∈ fields, field.2.ReadsBack reader) (some : fields ≠ [])
    (fuel : ℕ) (rest : Units)
    (enough : 2 * (commaSeparated ((fieldTexts fields).map writeField)).length + 2 ≤ fuel) :
    readFields reader fuel (commaSeparated ((fieldTexts fields).map writeField) ++ ascii '\x7d' :: rest) =
      Option.some (fields, rest) := by
  induction fields generalizing fuel with
  | nil => exact absurd rfl some
  | cons field fields ih =>
    obtain ⟨first, others⟩ := forall_mem_cons.mp all
    obtain _ | fuel := fuel
    · omega
    rw [fieldTexts, map_cons] at enough ⊢
    rw [commaSeparated_cons]
    cases fields with
    | nil =>
      have length : 2 * (writeField (field.1, field.2.text)).length ≤ fuel + 1 := by
        simp only [fieldTexts, map_nil, commaSeparated] at enough
        omega
      rw [fieldTexts, map_nil, if_pos rfl, readFields_first reader first length (ends_mark (by decide) rest)]
      rfl
    | cons next fields =>
      have length : 2 * ((writeField (field.1, field.2.text)).length + 1 +
          (commaSeparated ((fieldTexts (next :: fields)).map writeField)).length) + 2 ≤ fuel + 1 := by
        simpa [fieldTexts, commaSeparated, Nat.add_assoc, Nat.add_comm 1] using enough
      have more := ih others (cons_ne_nil _ _) fuel (by omega)
      rw [if_neg (by simp [fieldTexts]), readFields_first reader first (by omega) (ends_mark (by decide) _),
        skipSpace_cons (by decide)]
      simp only [if_true, more]
      rfl

/-- What `JSON.stringify` makes of a value is read back as that value. -/
theorem Value.readsBack (kept : value.Everywhere (Value.Kept reader)) : value.ReadsBack reader := by
  induction value with
  | null => exact .of_step kept.self fun fuel rest _ _ => readValue_word reader (show (word "null", .null) ∈ WORDS by simp [WORDS]) rest
  | bool value =>
    apply Value.ReadsBack.of_step kept.self
    intro fuel rest _ _
    cases value with
    | true => exact readValue_word reader (show (word "true", .bool true) ∈ WORDS by simp [WORDS]) rest
    | false => exact readValue_word reader (show (word "false", .bool false) ∈ WORDS by simp [WORDS]) rest
  | number value =>
    apply Value.ReadsBack.of_step kept.self
    intro fuel rest _ ends
    have own := kept.self
    have read : readNumber reader.round (value.text ++ rest) = some (value, rest) := by
      cases value with
      | zero => exact readNumber_zero reader ends
      | finite decimal =>
        have exact : reader.round decimal = .finite decimal := own
        rw [Number.text, readNumber_text reader.round decimal ends, exact]
      | infinite negative => exact absurd own id
    obtain ⟨unit, more, shape, start, -⟩ := readNumber_starts read
    rw [Value.text, shape, readValue_scalar reader start, ← shape]
    exact readScalar_number read
  | string text =>
    apply Value.ReadsBack.of_step kept.self
    intro fuel rest _ _
    rw [Value.text, quote_append, readValue, skipSpace_cons (by decide)]
    simp only [if_true, readString_escaped, map_some]
  | array items ih =>
    apply Value.ReadsBack.of_step kept.self
    intro fuel rest enough _
    have reads : ∀ item ∈ items, item.ReadsBack reader := fun item member => ih item member (kept.item member)
    rw [Value.text, itemTexts_eq] at enough ⊢
    rw [cons_append, append_assoc, readValue, skipSpace_cons (by decide)]
    dsimp only
    rw [if_neg (by decide), if_pos rfl]
    cases items with
    | nil => rfl
    | cons item items =>
      obtain ⟨unit, more, shape, space, close⟩ := item.text_starts reader (kept.item mem_cons_self).self
      have open' : (skipSpace (commaSeparated ((item :: items).map Value.text) ++ ([ascii ']'] ++ rest))).head? ≠ some (ascii ']') := by
        rw [map_cons, singleton_append, commaSeparated_cons, shape, cons_append, skipSpace_cons space]
        simpa using close
      rw [if_neg open', singleton_append, readItems_text reader reads (cons_ne_nil _ _)]
      · rfl
      · simp at enough ⊢
        omega
  | object fields ih =>
    apply Value.ReadsBack.of_step kept.self
    intro fuel rest enough _
    have reads : ∀ field ∈ fields, field.2.ReadsBack reader := fun field member => ih field member (kept.field member)
    have whole : reader.assemble fields = fields := kept.self
    rw [Value.text] at enough ⊢
    rw [cons_append, append_assoc, readValue, skipSpace_cons (by decide)]
    dsimp only
    rw [if_neg (by decide), if_neg (by decide), if_pos rfl]
    cases fields with
    | nil => rfl
    | cons field fields =>
      have open' : (skipSpace (commaSeparated ((fieldTexts (field :: fields)).map writeField) ++ ([ascii '\x7d'] ++ rest))).head? ≠
          some (ascii '\x7d') := by
        rw [fieldTexts, map_cons, singleton_append, commaSeparated_cons, writeField, quote, cons_append,
          cons_append, skipSpace_cons (by decide), head?_cons]
        decide
      rw [if_neg open', singleton_append, readFields_text reader reads (cons_ne_nil _ _), map_some, whole]
      · simp at enough ⊢
        omega

theorem ends_nil : Ends [] := fun _ none => nomatch none

theorem read_text (kept : value.Everywhere (Value.Kept reader)) : reader.read value.text = some value := by
  have read := Value.readsBack reader kept (2 * value.text.length + 2) [] (by omega) ends_nil
  rw [append_nil] at read
  rw [Reader.read, read]
  rfl

/-- A value that is no infinite number. -/
def Value.Finite : Value → Prop
  | .number (.infinite _) => False
  | _ => True

/-- Different values have different texts: a reader that rounds no number and keeps all fields finds them. -/
theorem text_injective {first second : Value} (finite : first.Everywhere Value.Finite) (also : second.Everywhere Value.Finite)
    (same : first.text = second.text) : first = second := by
  let exact : Reader := { round := .finite, assemble := id }
  have kept : ∀ value : Value, value.Finite → value.Kept exact := by
    intro value finite
    cases value with
    | number value =>
      cases value with
      | zero => exact trivial
      | finite decimal => exact rfl
      | infinite negative => exact finite
    | object fields => exact rfl
    | _ => exact trivial
  have read := read_text exact (finite.mono kept)
  rw [same, read_text exact (also.mono kept)] at read
  exact (Option.some.inj read).symm

/-! ## `JSON.parse` -/

/-- Fields of which no key is there twice are kept as they come. -/
theorem foldl_assign (front : List (Units × Value))
    (nodup : ((front ++ fields).map fst).Nodup) : fields.foldl assign front = front ++ fields := by
  induction fields generalizing front with
  | nil => rw [foldl_nil, append_nil]
  | cons field fields ih =>
    have fresh : front.any (·.1 == field.1) = false := by
      rw [any_eq_false]
      intro old member same
      rw [map_append, nodup_append] at nodup
      exact nodup.2.2 _ (mem_map_of_mem member) _ (mem_map_of_mem mem_cons_self) (beq_iff_eq.mp same)
    rw [foldl_cons, assign, fresh, if_neg Bool.false_ne_true, ih _ (by simpa using nodup), append_assoc]
    rfl

/-- A value without infinite numbers whose numbers the script holds, and of which no object has a key twice. -/
def Value.Held (round : Decimal → Number) : Value → Prop
  | .number (.finite decimal) => round decimal = .finite decimal
  | .number (.infinite _) => False
  | .object fields => (fields.map fst).Nodup
  | _ => True

theorem held_ofNat (nearest : Decimal → Number) {value : ℕ} (small : value ≤ 2 ^ 53) :
    (Value.number (.ofNat value)).Held (double nearest) := by
  have kept := double_ofNat nearest small
  by_cases positive : value = 0
  · rw [positive]
    exact trivial
  · obtain ⟨decimal, shape, -⟩ := ofNat_eq positive
    rw [shape] at kept ⊢
    unfold Number.round at kept
    exact kept

/-- `JSON.parse(JSON.stringify(value))` -/
theorem parse_text (held : value.Everywhere (Value.Held round)) : parse round value.text = some value := by
  apply read_text
  refine held.mono fun inner held => ?_
  cases inner with
  | number value => cases value <;> exact held
  | object fields => exact foldl_assign [] held
  | _ => exact trivial

/-- No key of an object is there twice. -/
def Value.KeysOnce : Value → Prop
  | .object fields => (fields.map fst).Nodup
  | _ => True

theorem assign_keys (nodup : (fields.map fst).Nodup) (field : Units × Value) :
    ((assign fields field).map fst).Nodup := by
  unfold assign
  split
  next known =>
    have keys : (fields.map fun old => if old.1 = field.1 then field else old).map fst = fields.map fst := by
      rw [map_map]
      apply map_congr_left
      intro old _
      by_cases same : old.1 = field.1
      · simp [same]
      · simp [same]
    rw [keys]
    exact nodup
  next fresh =>
    have apart : field.1 ∉ fields.map fst := by
      intro member
      obtain ⟨old, member, same⟩ := mem_map.mp member
      exact fresh (any_eq_true.mpr ⟨old, member, beq_iff_eq.mpr same⟩)
    rw [map_append, nodup_append]
    refine ⟨nodup, pairwise_singleton _ _, ?_⟩
    rintro key member other new rfl
    rw [map_singleton, mem_singleton] at new
    exact apart (new ▸ member)

theorem assign_mem {field old : Units × Value} (member : old ∈ assign fields field) : old ∈ fields ∨ old = field := by
  unfold assign at member
  split at member
  next =>
    obtain ⟨before, earlier, rfl⟩ := mem_map.mp member
    split
    next => exact .inr rfl
    next => exact .inl earlier
  next => simpa using member

/-- Assigning fields one after the other keeps each key once, and gives no value but theirs. -/
theorem foldl_assign_keeps (front fields : List (Units × Value)) (nodup : (front.map fst).Nodup) :
    ((fields.foldl assign front).map fst).Nodup ∧ ∀ field ∈ fields.foldl assign front, field ∈ front ∨ field ∈ fields := by
  induction fields generalizing front with
  | nil => exact ⟨nodup, fun field member => .inl member⟩
  | cons first fields ih =>
    obtain ⟨keys, origin⟩ := ih (assign front first) (assign_keys nodup first)
    refine ⟨keys, ?_⟩
    intro field member
    rcases origin field member with old | new
    · rcases assign_mem old with old | rfl
      · exact .inl old
      · exact .inr mem_cons_self
    · exact .inr (mem_cons_of_mem _ new)

theorem readScalar_keysOnce {read : Value × Units} (found : readScalar reader text = some read) :
    read.1.Everywhere Value.KeysOnce := by
  have leaf : read.1.KeysOnce ∧ ∀ inner, Value.Within inner read.1 → inner = read.1 := by
    unfold readScalar at found
    split at found
    next entry known =>
      have member := mem_of_find?_eq_some known
      cases found
      simp only [WORDS, mem_cons, not_mem_nil, or_false] at member
      rcases member with rfl | rfl | rfl <;> exact ⟨trivial, fun inner within => by cases within; rfl⟩
    next =>
      obtain ⟨number, -, rfl⟩ := map_eq_some_iff.mp found
      exact ⟨trivial, fun inner within => by cases within; rfl⟩
  intro inner within
  rw [leaf.2 inner within]
  exact leaf.1

theorem string_keysOnce (text : Units) : (Value.string text).Everywhere Value.KeysOnce := by
  rintro inner ⟨⟩
  exact trivial

/-- With the same fuel, all three functions make values of which every object has each key once. -/
theorem read_keysOnce (once : ∀ fields, ((reader.assemble fields).map fst).Nodup ∧
    ∀ field ∈ reader.assemble fields, field ∈ fields) (fuel : ℕ) :
    (∀ text read, readValue reader fuel text = some read → read.1.Everywhere Value.KeysOnce) ∧
    (∀ text read, readItems reader fuel text = some read → ∀ item ∈ read.1, item.Everywhere Value.KeysOnce) ∧
    ∀ text read, readFields reader fuel text = some read → ∀ field ∈ read.1, field.2.Everywhere Value.KeysOnce := by
  induction fuel with
  | zero => exact ⟨fun _ _ found => (nomatch found), fun _ _ found => (nomatch found), fun _ _ found => (nomatch found)⟩
  | succ fuel ih =>
    obtain ⟨values, items, fields⟩ := ih
    refine ⟨?_, ?_, ?_⟩
    · intro text read found
      rw [readValue] at found
      split at found
      next => cases found
      next unit rest _ =>
        split at found
        next =>
          obtain ⟨string, -, rfl⟩ := map_eq_some_iff.mp found
          exact string_keysOnce string.1
        split at found
        next =>
          split at found
          next =>
            cases found
            exact .array trivial (forall_mem_nil _)
          next =>
            obtain ⟨array, inside, rfl⟩ := map_eq_some_iff.mp found
            exact .array trivial (items _ _ inside)
        split at found
        next =>
          split at found
          next =>
            cases found
            exact .object nodup_nil (forall_mem_nil _)
          next =>
            obtain ⟨object, inside, rfl⟩ := map_eq_some_iff.mp found
            obtain ⟨keys, origin⟩ := once object.1
            have own : (Value.object (reader.assemble object.1)).KeysOnce := keys
            apply Value.Everywhere.object own
            exact fun field member => fields _ _ inside field (origin field member)
        next => exact readScalar_keysOnce reader found
    · intro text read found
      rw [readItems, bind_eq_some_iff] at found
      obtain ⟨item, first, found⟩ := found
      have own := values _ _ first
      split at found
      next => cases found
      next unit rest _ =>
        split at found
        next =>
          cases found
          exact forall_mem_singleton.mpr own
        split at found
        next =>
          obtain ⟨others, more, rfl⟩ := map_eq_some_iff.mp found
          exact forall_mem_cons.mpr ⟨own, items _ _ more⟩
        next => cases found
    · intro text read found
      rw [readFields] at found
      split at found
      next => cases found
      split at found
      next =>
        rw [bind_eq_some_iff] at found
        obtain ⟨key, -, found⟩ := found
        split at found
        next => cases found
        split at found
        next =>
          rw [bind_eq_some_iff] at found
          obtain ⟨value, first, found⟩ := found
          have own := values _ _ first
          split at found
          next => cases found
          split at found
          next =>
            cases found
            exact forall_mem_singleton.mpr own
          split at found
          next =>
            obtain ⟨others, more, rfl⟩ := map_eq_some_iff.mp found
            exact forall_mem_cons.mpr ⟨own, fields _ _ more⟩
          next => cases found
        next => cases found
      next => cases found

/-- A parsed value has each key of an object once. -/
theorem parse_keysOnce (found : parse round text = some value) : value.Everywhere Value.KeysOnce := by
  rw [parse, Reader.read, bind_eq_some_iff] at found
  obtain ⟨read, first, found⟩ := found
  have once (fields : List (Units × Value)) : ((fields.foldl assign []).map fst).Nodup ∧
      ∀ field ∈ fields.foldl assign [], field ∈ fields := by
    obtain ⟨keys, origin⟩ := foldl_assign_keeps [] fields nodup_nil
    exact ⟨keys, fun field member => (origin field member).resolve_left not_mem_nil⟩
  split at found
  next =>
    cases found
    exact (read_keysOnce _ once _).1 _ _ first
  next => cases found

end Json
