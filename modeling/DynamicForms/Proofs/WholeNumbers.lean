import DynamicForms.Proofs.BlankValues
import DynamicForms.Proofs.NearestNumbers
import DynamicForms.Proofs.TextOrder

/-!
# The order of whole numbers

Conditions compare decimal texts by the numbers of the binary format they are read as, which for
large whole numbers are not the numbers themselves but the nearest ones of the format.

* `Binary64.ofNat_eq` — reading a whole number in units is rounding it to its last bit.
* `readReal_wholeText`, `readNumber_wholeText` — what is read of a decimal text.
* `ComparesNearest` — conditions on order see the nearest numbers; `comparesNearest`: they do so
  for all whole numbers that a value can have.
* `neighbours_not_greater` — two numbers that they cannot tell apart.
-/

set_option autoImplicit false

namespace DynamicForms

open Json (Value FitsWord wholeText)

/-! ## Whole numbers in units -/

namespace Number

/-- One in units.  The exponent is a variable, lest the power be computed. -/
theorem Binary64.one_eq {e : Nat} (h : e = 1074) : one = 2 ^ e := by
  unfold one
  generalize 1074 = exponent at h
  rw [h, Nat.pow_eq]

theorem Binary64.one_pos : 0 < one := by
  obtain ⟨e, he⟩ : ∃ e, e = 1074 := ⟨_, rfl⟩
  rw [one_eq he]
  exact Nat.two_pow_pos e

/-- **A whole number in units is the nearest one**, unless that is too large for the format. -/
theorem Binary64.ofNat_eq (n : Nat) :
    ofNat n = if nearestNat n < 2 ^ 1024 then some (nearestNat n * one) else none := by
  obtain ⟨e, he⟩ : ∃ e, e = 1074 := ⟨_, rfl⟩
  have hone := one_eq he
  have hbound : 2 ^ 2098 = 2 ^ 1024 * one := by
    rw [hone, ← Nat.pow_add, he]
  have hunits := divNearest_mul_two_pow n (s := e) (by omega)
  rw [← hone] at hunits
  unfold ofNat roundQuotient
  simp only [Nat.div_one, Nat.one_mul, Nat.pow_eq, hunits, hbound, Nat.mul_lt_mul_right one_pos]

theorem nearestNat_le {n : Nat} (h : n ≤ 2 ^ 64) : nearestNat n ≤ 2 ^ 64 := by
  have hround := (roundsTo_nearestNat n).le (b := (2 ^ 64 : Nat)) (y := (2 ^ 64 : Nat))
    (.self (inFormat_mul_two_pow (c := 1) (by decide) 64)) (by omega)
  omega

theorem length_decimalDigits_le {n : Nat} (h : n ≤ 2 ^ 64) : (decimalDigits n).length ≤ 20 := by
  rw [decimalDigits, Nat.length_toDigits_le_iff (by decide) (by decide)]
  exact Nat.lt_of_le_of_lt h (by decide)

theorem Binary64.ofDecimal_whole {n : Nat} (h : n ≤ 2 ^ 64) :
    ofDecimal n 0 = some (nearestNat n * one) := by
  by_cases hzero : n = 0
  · subst hzero
    simp [ofDecimal, nearestNat, divNearest]
  · have hlength := length_decimalDigits_le h
    have hle := nearestNat_le h
    have hof := ofNat_eq n
    obtain ⟨e, he⟩ : ∃ e, e = 1024 := ⟨_, rfl⟩
    rw [← he, if_pos (hle.trans_lt (Nat.pow_lt_pow_right (by decide) (by omega))), ofNat] at hof
    unfold decimalDigits at hlength
    rw [ofDecimal, if_neg hzero]
    simp only
    rw [if_neg (by omega), if_neg (by omega), if_pos (by decide)]
    simpa using hof

/-! ## Decimal texts -/

theorem splitSign_wholeText (n : Int) :
    splitSign (wholeText n) = (decide (n < 0), decimalDigits n.natAbs) := by
  unfold wholeText
  split
  · rename_i hneg
    rw [splitSign, decide_eq_true hneg]
  · rename_i hneg
    obtain ⟨d, ds, hds, hd⟩ := Json.exists_decimalDigits_eq_cons n.natAbs
    rw [hds, decide_eq_false hneg, splitSign]
    -- the first character is a digit and neither of the signs
    all_goals
      rintro tail heq
      rw [(List.cons.inj heq).1] at hd
      exact absurd hd (by decide)

theorem readUnsigned_decimalDigits (n : Nat) : readUnsigned (decimalDigits n) = some ⟨n, 0⟩ := by
  have hdigits : ∀ c ∈ decimalDigits n, c.isDigit = true :=
    fun c hc => Json.isDigit_of_mem_decimalDigits hc
  have htake : (decimalDigits n).takeWhile Char.isDigit = decimalDigits n := by
    simpa using hdigits
  have hdrop : (decimalDigits n).dropWhile Char.isDigit = [] := by
    simpa using hdigits
  have hne : (decimalDigits n).isEmpty = false := by
    simpa using Json.decimalDigits_ne_nil n
  unfold readUnsigned
  simp [htake, hdrop, hne, readExponent, Json.digitsValue_decimalDigits]

/-- **A decimal text is read as the nearest number.** -/
theorem readReal_wholeText {n : Int} (h : n.natAbs ≤ 2 ^ 64) :
    readReal (wholeText n) = some ⟨decide (n < 0), nearestNat n.natAbs * Binary64.one⟩ := by
  unfold readReal
  simp only [splitSign_wholeText, readUnsigned_decimalDigits, Option.bind_some,
    Binary64.ofDecimal_whole h, Option.map_some]

end Number

open Number

theorem Logic.readNumber_wholeText {n : Int} (h : n.natAbs ≤ 2 ^ 64) :
    readNumber (wholeText n) = some (nearest n * Binary64.one) := by
  rw [readNumber, Text.trim_eq_self fun c hc => Json.isBlank_of_mem_wholeText hc,
    readReal_wholeText h, Option.map_some, Binary64.toInt, nearest]
  simp only [decide_eq_true_eq, Nat.cast_mul]
  split
  · rw [Int.neg_mul]
  · rfl

/-! ## Main theorem -/

/-- Values that stand for a whole number: the number itself and its decimal text. -/
inductive StandsFor (n : Int) : Value → Prop
  | number (fits : FitsWord n) : StandsFor n (.number (.whole n fits))
  | text : StandsFor n (.string (String.ofList (wholeText n)))

theorem StandsFor.text?_eq {n : Int} {v : Value} (h : StandsFor n v) :
    v.text? = some (wholeText n) := by
  cases h with
  | number fits => rfl
  | text => rw [Value.text?, String.toList_ofList]

theorem Logic.valueOrder_whole {a b : Int} (ha : FitsWord a) (hb : FitsWord b) {v : Value}
    (hv : StandsFor a v) :
    valueOrder v (some (String.ofList (wholeText b))) =
      some (compare (nearest a) (nearest b)) := by
  have hpos : (0 : Int) < Binary64.one := Int.natCast_pos.2 Binary64.one_pos
  have horder : compare (nearest a * (Binary64.one : Int)) (nearest b * Binary64.one) =
      compare (nearest a) (nearest b) := by
    simp only [compare, compareOfLessAndEq, Int.mul_lt_mul_right hpos,
      Int.mul_eq_mul_right_iff hpos.ne']
  unfold valueOrder
  simp only [hv.text?_eq, String.toList_ofList]
  rw [compareTexts_of_numbers (readNumber_wholeText (by omega))
    (readNumber_wholeText (by omega)), horder]

/-- A condition on the order of two whole numbers sees the nearest ones of the binary format. -/
structure ComparesNearest (c : Condition) (form : Form) (a b : Int) : Prop where
  roundsTo : RoundsTo a (nearest a) ∧ RoundsTo b (nearest b)
  greater : c.operator = .greaterThan →
    (c.holds form = true ↔ b < a ∧ nearest a ≠ nearest b)
  less : c.operator = .lessThan →
    (c.holds form = true ↔ a < b ∧ nearest a ≠ nearest b)
  /-- Up to 53 bits these are the numbers themselves. -/
  unrounded : a.natAbs ≤ 2 ^ 53 → b.natAbs ≤ 2 ^ 53 → nearest a = a ∧ nearest b = b

/-- **Whole numbers are compared as the nearest ones of the binary format**, whether the value is
a number or its decimal text. -/
theorem comparesNearest {c : Condition} {form : Form} {a b : Int} (ha : FitsWord a)
    (hb : FitsWord b) (htrigger : StandsFor a (form.value c.trigger))
    (hvalue : c.value = some (String.ofList (wholeText b))) : ComparesNearest c form a b where
  roundsTo := ⟨roundsTo_nearest a, roundsTo_nearest b⟩
  greater := by
    intro hop
    rw [Condition.holds_greaterThan_iff hop, hvalue, Logic.valueOrder_whole ha hb htrigger,
      Option.some_inj, compare_gt_iff_gt,
      (roundsTo_nearest b).lt_iff (roundsTo_nearest a), ne_comm]
  less := by
    intro hop
    rw [Condition.holds_lessThan_iff hop, hvalue, Logic.valueOrder_whole ha hb htrigger,
      Option.some_inj, compare_lt_iff_lt, (roundsTo_nearest a).lt_iff (roundsTo_nearest b)]
  unrounded := fun ha hb => ⟨nearest_eq_self ha, nearest_eq_self hb⟩

/-- Two numbers beyond 53 bits, neither of them of the format, are rounded apart. -/
theorem comparesNearest_apart :
    ComparesNearest ⟨"t", .greaterThan, some (String.ofList (wholeText 9007199254740993)), .reveal⟩
      (.ofList [("t", .number (.whole 9007199254740995 (by decide)))])
      9007199254740995 9007199254740993 ∧
    nearest 9007199254740995 = 9007199254740996 ∧ nearest 9007199254740993 = 9007199254740992 :=
  ⟨comparesNearest (by decide) (by decide) (.number _) rfl, by decide +kernel, by decide +kernel⟩

/-- **Numbers that cannot be told apart.**  The greater one is half way between two numbers of the
format, and is rounded to the other one. -/
theorem neighbours_not_greater :
    wholeText 9007199254740992 = "9007199254740992".toList ∧
    wholeText 9007199254740993 = "9007199254740993".toList ∧
    Condition.holds ⟨"t", .greaterThan, some "9007199254740992", .reveal⟩
      (.ofList [("t", .number (.whole 9007199254740993 (by decide)))]) = false ∧
    Condition.holds ⟨"t", .greaterThan, some "9007199254740992", .reveal⟩
      (.ofList [("t", .string "9007199254740993")]) = false := by
  decide +kernel

end DynamicForms
