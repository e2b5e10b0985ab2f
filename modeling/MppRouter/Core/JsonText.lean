import MppRouter.Core.JsonRead

/-! # JSON texts as bytes

A text that the writer makes has no lone surrogates, so it survives being encoded.
-/

namespace Json

open TextEncoding List

/-- A character of ASCII. -/
def isAscii (unit : UInt16) : Bool := unit < 0x80

theorem isSingle_of_ascii {unit : UInt16} (small : isAscii unit = true) : isSingle unit = true := by
  have small : unit.toNat < 0x80 := UInt16.lt_iff_toNat_lt.mp (of_decide_eq_true small)
  have high : isHigh unit = false := by
    rw [Bool.eq_false_iff, ne_eq, isHigh_iff]
    omega
  have low : isLow unit = false := by
    rw [Bool.eq_false_iff, ne_eq, isLow_iff]
    omega
  rw [isSingle, high, low]
  rfl

theorem digitUnit_ascii (digit : Digit) : isAscii (digitUnit digit) = true := by
  revert digit
  decide

theorem wellFormed_of_ascii {text : Units} (ascii : ∀ unit ∈ text, isAscii unit = true) : wellFormed text = true :=
  wellFormed_of_single fun unit member => isSingle_of_ascii (ascii unit member)

theorem digits_wellFormed (digits : List Digit) : wellFormed (digits.map digitUnit) = true := by
  apply wellFormed_of_ascii
  intro unit member
  obtain ⟨digit, -, rfl⟩ := mem_map.mp member
  exact digitUnit_ascii digit

theorem zeros_wellFormed (count : ℕ) : wellFormed (List.replicate count (ascii '0')) = true := by
  apply wellFormed_of_ascii
  intro unit member
  rw [(mem_replicate.mp member).2]
  decide

theorem wellFormed_ascii_cons {unit : UInt16} (small : isAscii unit = true) {rest : Units} (formed : wellFormed rest = true) :
    wellFormed (unit :: rest) = true := by
  rw [wellFormed_cons (isSingle_of_ascii small)]
  exact formed

theorem Decimal.text_wellFormed (decimal : Decimal) : wellFormed decimal.text = true := by
  have sign : wellFormed (if decimal.negative then [ascii '-'] else []) = true := by
    split <;> decide
  apply wellFormed_append sign
  unfold Decimal.unsigned
  have digits := digits_wellFormed decimal.digits
  have taken (count : ℕ) : wellFormed ((decimal.digits.map digitUnit).take count) = true := by
    rw [← map_take]
    exact digits_wellFormed _
  have dropped (count : ℕ) : wellFormed ((decimal.digits.map digitUnit).drop count) = true := by
    rw [← map_drop]
    exact digits_wellFormed _
  have point : isAscii (ascii '.') = true := by decide
  dsimp only
  split
  next => exact wellFormed_append digits (zeros_wellFormed _)
  split
  next => exact wellFormed_append (taken _) (wellFormed_ascii_cons point (dropped _))
  split
  next =>
    apply wellFormed_ascii_cons (by decide)
    apply wellFormed_ascii_cons point
    exact wellFormed_append (zeros_wellFormed _) digits
  next =>
    apply wellFormed_append (taken _)
    apply wellFormed_append
    · split
      next => rfl
      next => exact wellFormed_ascii_cons point (dropped _)
    · apply wellFormed_ascii_cons (by decide)
      apply wellFormed_ascii_cons (by split <;> decide)
      exact digits_wellFormed _

theorem Number.text_wellFormed (number : Number) : wellFormed number.text = true := by
  cases number with
  | zero => rfl
  | finite decimal => exact decimal.text_wellFormed
  | infinite negative => rfl

theorem hexUnit_ascii {digit : ℕ} (small : digit < 16) : isAscii (hexUnit digit) = true := by
  have all : ∀ digit : Fin 16, isAscii (hexUnit digit) = true := by decide
  exact all ⟨digit, small⟩

theorem escape_wellFormed (unit : UInt16) : wellFormed (escape unit) = true := by
  unfold escape
  split
  next mark found =>
    have all : (SHORT_ESCAPES.all fun entry => isAscii entry.2) = true := by decide
    have member := lookup_eq_some_iff.mp found
    obtain ⟨front, back, shape, -⟩ := member
    have own := all_eq_true.mp all (unit, mark) (by rw [shape]; simp)
    exact wellFormed_ascii_cons (by decide) (wellFormed_ascii_cons own rfl)
  next =>
    split
    next =>
      have short := unit.toNat_lt
      apply wellFormed_of_ascii
      intro written member
      simp only [unicodeEscape, mem_cons, not_mem_nil, or_false] at member
      rcases member with rfl | rfl | rfl | rfl | rfl | rfl
      · decide
      · decide
      all_goals exact hexUnit_ascii (by omega)
    next plain =>
      simp only [Bool.or_eq_true, not_or] at plain
      have single : isSingle unit = true := by
        rw [isSingle, Bool.eq_false_iff.mpr plain.1.2, Bool.eq_false_iff.mpr plain.2]
        rfl
      rw [wellFormed_cons single]
      rfl

theorem escaped_wellFormed (text : Units) : wellFormed (escaped text) = true := by
  induction text using escaped.induct with
  | case1 => rfl
  | case2 unit => exact escape_wellFormed unit
  | case3 unit next rest pairs ih => simpa only [escaped, pairs, if_true, wellFormed] using ih
  | case4 unit next rest apart ih =>
    rw [escaped, if_neg apart]
    exact wellFormed_append (escape_wellFormed unit) ih

theorem quote_wellFormed (text : Units) : wellFormed (quote text) = true := by
  apply wellFormed_ascii_cons (by decide)
  exact wellFormed_append (escaped_wellFormed text) (by decide)

theorem commaSeparated_wellFormed {items : List Units} (all : ∀ item ∈ items, wellFormed item = true) :
    wellFormed (commaSeparated items) = true := by
  induction items using commaSeparated.induct with
  | case1 => rfl
  | case2 item => exact all item mem_cons_self
  | case3 item rest _ ih =>
    obtain ⟨first, others⟩ := forall_mem_cons.mp all
    rw [commaSeparated]
    · exact wellFormed_append first (wellFormed_ascii_cons (by decide) (ih others))
    · assumption

/-- No text of a value has a lone surrogate. -/
theorem Value.text_wellFormed (value : Value) : wellFormed value.text = true := by
  induction value with
  | null => rfl
  | bool value => cases value <;> rfl
  | number value => exact value.text_wellFormed
  | string text => exact quote_wellFormed text
  | array items ih =>
    rw [Value.text, itemTexts_eq]
    apply wellFormed_ascii_cons (by decide)
    apply wellFormed_append _ (by decide)
    apply commaSeparated_wellFormed
    intro text image
    obtain ⟨item, member, rfl⟩ := mem_map.mp image
    exact ih item member
  | object fields ih =>
    rw [Value.text, fieldTexts_eq, map_map]
    apply wellFormed_ascii_cons (by decide)
    apply wellFormed_append _ (by decide)
    apply commaSeparated_wellFormed
    intro text image
    obtain ⟨field, member, rfl⟩ := mem_map.mp image
    apply wellFormed_append (quote_wellFormed field.1)
    exact wellFormed_ascii_cons (by decide) (ih field member)

end Json
