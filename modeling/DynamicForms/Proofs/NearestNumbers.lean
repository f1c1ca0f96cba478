import DynamicForms.Number.Binary64
import Mathlib.Algebra.Order.Group.Int
import Mathlib.Tactic.Ring

/-!
# Whole numbers of the binary format

The binary 64-bit format does not hold all whole numbers: beyond 53 bits there are gaps, and a
number in a gap is rounded to the nearer end.

* `InFormat` — the whole numbers of the format.
* `RoundsTo` — the nearest of them, a tie going to the even one; `RoundsTo.eq`: there is one only.
* `RoundsTo.lt_iff` — rounding keeps the order of numbers that stay apart.
* `divNearest_cases` — rounding a quotient.
* `inFormat_gap` — between a multiple of the last bit and the next one there is nothing.
* `roundsTo_nearest` — rounding to the last bit gives the nearest number.
* `divNearest_mul_two_pow` — a number in units is rounded like the number itself.
-/

set_option autoImplicit false

namespace DynamicForms.Number

/-! ## Rounding -/

/-- Whole numbers of the format: 53 bits at most, and zeros behind them. -/
def InFormat (k : Int) : Prop :=
  ∃ significand exponent : Nat, significand < 2 ^ 53 ∧ k.natAbs = significand * 2 ^ exponent

/-- A whole number and the nearest one of the format. -/
structure RoundsTo (n m : Int) : Prop where
  inFormat : InFormat m
  nearest : ∀ k, InFormat k → (n - m).natAbs ≤ (n - k).natAbs
  /-- Of two numbers that are equally near it is the one with an even significand: twice the gap
  between them goes into it. -/
  even : ∀ k, InFormat k → k ≠ m → (n - k).natAbs = (n - m).natAbs → 2 * (k - m) ∣ m

theorem InFormat.neg {k : Int} (h : InFormat k) : InFormat (-k) := by
  obtain ⟨significand, exponent, hlt, heq⟩ := h
  exact ⟨significand, exponent, hlt, by rw [Int.natAbs_neg, heq]⟩

theorem inFormat_of_natAbs_le {k : Int} (h : k.natAbs ≤ 2 ^ 53) : InFormat k := by
  rcases Nat.lt_or_eq_of_le h with hlt | heq
  · exact ⟨k.natAbs, 0, hlt, by simp⟩
  · exact ⟨1, 53, by decide, by rw [heq]; rfl⟩

section RoundsTo

variable {a b n m x y : Int}

/-- **Rounding has one result.** -/
theorem RoundsTo.eq (h : RoundsTo n x) (h' : RoundsTo n y) : x = y := by
  by_contra hne
  have hxy := h.nearest y h'.inFormat
  have hyx := h'.nearest x h.inFormat
  have hdiv := h.even y h'.inFormat (Ne.symm hne) (by omega)
  have hdiv' := h'.even x h.inFormat hne (by omega)
  -- both are multiples of twice their distance, and so their distance would be
  have hback : 2 * (y - x) ∣ y := by
    rw [show 2 * (y - x) = -(2 * (x - y)) by ring]
    exact Int.neg_dvd.2 hdiv'
  obtain ⟨c, hc⟩ := Int.dvd_sub hback hdiv
  have hone : (y - x) * (2 * c - 1) = 0 := by
    calc (y - x) * (2 * c - 1) = 2 * (y - x) * c - (y - x) := by ring
      _ = 0 := by rw [← hc]; ring
  rcases Int.mul_eq_zero.1 hone with hzero | hzero <;> omega

theorem RoundsTo.self (h : InFormat n) : RoundsTo n n where
  inFormat := h
  nearest := fun k _ => by omega
  even := fun k _ hne heq => by omega

theorem RoundsTo.neg (h : RoundsTo n m) : RoundsTo (-n) (-m) where
  inFormat := h.inFormat.neg
  nearest := by
    intro k hk
    have hnear := h.nearest (-k) hk.neg
    omega
  even := by
    intro k hk hne heq
    have hdiv := h.even (-k) hk.neg (by omega) (by omega)
    rw [Int.dvd_neg, show 2 * (k - -m) = -(2 * (-k - m)) by ring]
    exact Int.neg_dvd.2 hdiv

theorem RoundsTo.le (hx : RoundsTo a x) (hy : RoundsTo b y) (hab : a ≤ b) : x ≤ y := by
  rcases Int.lt_or_eq_of_le hab with hlt | rfl
  · have hnear := hx.nearest y hy.inFormat
    have hnear' := hy.nearest x hx.inFormat
    omega
  · exact le_of_eq (hx.eq hy)

/-- **Rounding keeps the order** of numbers that stay apart. -/
theorem RoundsTo.lt_iff (hx : RoundsTo a x) (hy : RoundsTo b y) : x < y ↔ a < b ∧ x ≠ y := by
  constructor
  · intro hlt
    refine ⟨?_, by omega⟩
    by_contra hle
    have hyx := hy.le hx (by omega)
    omega
  · rintro ⟨hab, hne⟩
    have hxy := hx.le hy (by omega)
    omega

end RoundsTo

/-! ## Rounding a quotient -/

/-- **A quotient is rounded** to one of its neighbours, a tie going to the even one. -/
theorem divNearest_cases (n d : Nat) :
    (divNearest n d = n / d ∧ 2 * (n % d) < d) ∨
    (divNearest n d = n / d + 1 ∧ d < 2 * (n % d)) ∨
    (2 * (n % d) = d ∧ 2 ∣ divNearest n d ∧
      (divNearest n d = n / d ∨ divNearest n d = n / d + 1)) := by
  unfold divNearest
  simp only
  split
  · exact .inl ⟨rfl, by assumption⟩
  split
  · exact .inr (.inl ⟨rfl, by assumption⟩)
  have htie : 2 * (n % d) = d := by omega
  split
  · exact .inr (.inr ⟨htie, by omega, .inl rfl⟩)
  · exact .inr (.inr ⟨htie, by omega, .inr rfl⟩)

theorem divNearest_mul_right (n d : Nat) {c : Nat} (hc : 0 < c) :
    divNearest (n * c) (d * c) = divNearest n d := by
  unfold divNearest
  simp only [Nat.mul_div_mul_right n d hc, Nat.mul_mod_mul_right c n d, ← Nat.mul_assoc,
    Nat.mul_lt_mul_right hc]

theorem divNearest_mul_self (n : Nat) {c : Nat} (hc : 0 < c) : divNearest (n * c) c = n := by
  unfold divNearest
  simp [Nat.mul_div_cancel n hc, hc]

/-! ## The last bit -/

/-- A magnitude rounded to its last bit. -/
def nearestNat (n : Nat) : Nat :=
  divNearest n (2 ^ Binary64.lastBit n) * 2 ^ Binary64.lastBit n

/-- A whole number rounded to its last bit. -/
def nearest (n : Int) : Int :=
  if n < 0 then -(nearestNat n.natAbs : Int) else nearestNat n.natAbs

theorem div_lastBit_bounds (n : Nat) :
    n / 2 ^ Binary64.lastBit n < 2 ^ 53 ∧
      (Binary64.lastBit n = 0 ∨ 2 ^ 52 ≤ n / 2 ^ Binary64.lastBit n) := by
  unfold Binary64.lastBit
  have hpow : Nat.pow 2 53 = 2 ^ 53 := rfl
  rw [hpow]
  split
  · rename_i hlt
    exact ⟨by simpa using hlt, .inl rfl⟩
  · rename_i hle
    have hn : n ≠ 0 := by omega
    have hlog : 53 ≤ n.log2 := (Nat.le_log2 hn).2 (by omega)
    have hpos : 0 < 2 ^ (n.log2 - 52) := Nat.two_pow_pos _
    refine ⟨?_, .inr ?_⟩
    · rw [Nat.div_lt_iff_lt_mul hpos, ← Nat.pow_add,
        show 53 + (n.log2 - 52) = n.log2 + 1 by omega]
      exact Nat.lt_log2_self
    · rw [Nat.le_div_iff_mul_le hpos, ← Nat.pow_add,
        show 52 + (n.log2 - 52) = n.log2 by omega]
      exact Nat.log2_self_le hn

theorem inFormat_mul_two_pow {c : Nat} (h : c ≤ 2 ^ 53) (e : Nat) :
    InFormat ((c * 2 ^ e : Nat) : Int) := by
  rcases Nat.lt_or_eq_of_le h with hlt | rfl
  · exact ⟨c, e, hlt, Int.natAbs_natCast _⟩
  · refine ⟨1, 53 + e, by decide, ?_⟩
    rw [Int.natAbs_natCast, Nat.pow_add, Nat.one_mul]

/-- **Between a multiple of the last bit and the next one there is nothing** of the format. -/
theorem inFormat_gap (n : Nat) {k : Int} (h : InFormat k) :
    k ≤ (n / 2 ^ Binary64.lastBit n * 2 ^ Binary64.lastBit n : Nat) ∨
      ((n / 2 ^ Binary64.lastBit n + 1) * 2 ^ Binary64.lastBit n : Nat) ≤ k := by
  obtain ⟨significand, exponent, hlt, heq⟩ := h
  obtain ⟨-, hbit⟩ := div_lastBit_bounds n
  generalize hq : n / 2 ^ Binary64.lastBit n = q at hbit ⊢
  generalize Binary64.lastBit n = bit at hbit ⊢
  suffices hgap : k.natAbs ≤ q * 2 ^ bit ∨ (q + 1) * 2 ^ bit ≤ k.natAbs by omega
  rw [heq]
  rcases hbit with rfl | hbit
  · simp only [Nat.pow_zero, Nat.mul_one]
    omega
  by_cases hexp : bit ≤ exponent
  · -- a multiple of the last bit
    obtain ⟨more, rfl⟩ := Nat.exists_eq_add_of_le hexp
    rw [Nat.pow_add, Nat.mul_comm (2 ^ bit), ← Nat.mul_assoc]
    rcases Nat.lt_or_ge q (significand * 2 ^ more) with hq | hq
    · exact .inr (Nat.mul_le_mul_right _ hq)
    · exact .inl (Nat.mul_le_mul_right _ hq)
  · -- too short for its size
    left
    calc significand * 2 ^ exponent ≤ 2 ^ 53 * 2 ^ exponent := Nat.mul_le_mul_right _ hlt.le
      _ = 2 ^ 52 * 2 ^ (exponent + 1) := by ring
      _ ≤ 2 ^ 52 * 2 ^ bit :=
        Nat.mul_le_mul_left _ (Nat.pow_le_pow_right (by decide) (by omega))
      _ ≤ q * 2 ^ bit := Nat.mul_le_mul_right _ hbit

theorem roundsTo_of_gap {low high n m : Int} (hm : InFormat m)
    (hgap : ∀ k, InFormat k → k ≤ low ∨ high ≤ k) (hlow : low ≤ n) (hhigh : n < high)
    (hend : (m = low ∧ 2 * (n - low) < high - low) ∨ (m = high ∧ high - low < 2 * (n - low)) ∨
      (2 * (n - low) = high - low ∧ 2 * (high - low) ∣ m ∧ (m = low ∨ m = high))) :
    RoundsTo n m where
  inFormat := hm
  nearest := by
    intro k hk
    have hside := hgap k hk
    omega
  even := by
    intro k hk hne heq
    have hside := hgap k hk
    obtain ⟨rfl, hnear⟩ | ⟨rfl, hnear⟩ | ⟨hmiddle, hdiv, rfl | rfl⟩ := hend
    · omega
    · omega
    · obtain rfl : k = high := by omega
      exact hdiv
    · obtain rfl : k = low := by omega
      rw [show 2 * (k - m) = -(2 * (m - k)) by ring]
      exact Int.neg_dvd.2 hdiv

theorem roundsTo_nearestNat (n : Nat) : RoundsTo n (nearestNat n) := by
  obtain ⟨hq, -⟩ := div_lastBit_bounds n
  have hgap := fun k (hk : InFormat k) => inFormat_gap n hk
  unfold nearestNat
  generalize Binary64.lastBit n = bit at *
  have hcases := divNearest_cases n (2 ^ bit)
  have hrest := Nat.div_add_mod' n (2 ^ bit)
  have hmod := Nat.mod_lt n (Nat.two_pow_pos bit)
  have hnext := Nat.add_one_mul (n / 2 ^ bit) (2 ^ bit)
  refine roundsTo_of_gap (inFormat_mul_two_pow (by omega) bit) hgap (by omega) (by omega) ?_
  obtain ⟨hend, hnear⟩ | ⟨hend, hnear⟩ | ⟨hmiddle, heven, hend⟩ := hcases
  · rw [hend]
    omega
  · rw [hend]
    omega
  · right; right
    refine ⟨by omega, ?_, ?_⟩
    · rw [show 2 * (((n / 2 ^ bit + 1) * 2 ^ bit : Nat) - (n / 2 ^ bit * 2 ^ bit : Nat) : Int) =
        (2 * 2 ^ bit : Nat) by omega]
      exact Int.natCast_dvd_natCast.2 (Nat.mul_dvd_mul_right heven _)
    · rcases hend with hend | hend
      · exact .inl (by rw [hend])
      · exact .inr (by rw [hend])

/-- **Rounding to the last bit gives the nearest number** of the format. -/
theorem roundsTo_nearest (n : Int) : RoundsTo n (nearest n) := by
  have hround := roundsTo_nearestNat n.natAbs
  unfold nearest
  split
  · rw [show n = -(n.natAbs : Int) by omega, Int.natAbs_neg, Int.natAbs_natCast]
    exact hround.neg
  · rwa [show (n.natAbs : Int) = n by omega] at hround

/-- **Up to 53 bits nothing is rounded.** -/
theorem nearest_eq_self {n : Int} (h : n.natAbs ≤ 2 ^ 53) : nearest n = n :=
  (roundsTo_nearest n).eq (.self (inFormat_of_natAbs_le h))

/-! ## Units -/

theorem log2_mul_two_pow {n : Nat} (h : n ≠ 0) (s : Nat) : (n * 2 ^ s).log2 = n.log2 + s := by
  rw [Nat.log2_eq_iff (Nat.mul_ne_zero h (Nat.two_pow_pos _).ne')]
  constructor
  · rw [Nat.pow_add]
    exact Nat.mul_le_mul_right _ (Nat.log2_self_le h)
  · rw [Nat.add_right_comm, Nat.pow_add]
    exact Nat.mul_lt_mul_of_pos_right Nat.lt_log2_self (Nat.two_pow_pos _)

theorem lastBit_mul_two_pow {n s : Nat} (h : n ≠ 0) (hs : 53 ≤ s) :
    Binary64.lastBit (n * 2 ^ s) = n.log2 + s - 52 := by
  have hlog := log2_mul_two_pow h s
  have hlong : ¬ n * 2 ^ s < 2 ^ 53 := by
    intro hlt
    have hshort := (Nat.log2_lt (Nat.mul_ne_zero h (Nat.two_pow_pos s).ne')).2 hlt
    omega
  rw [Binary64.lastBit, Nat.pow_eq, if_neg hlong, hlog]

/-- **A number in units is rounded like the number itself**: the same bit is the last. -/
theorem divNearest_mul_two_pow (n : Nat) {s : Nat} (hs : 53 ≤ s) :
    divNearest (n * 2 ^ s) (2 ^ Binary64.lastBit (n * 2 ^ s)) *
      2 ^ Binary64.lastBit (n * 2 ^ s) = nearestNat n * 2 ^ s := by
  by_cases hzero : n = 0
  · simp [hzero, nearestNat, Binary64.lastBit, divNearest]
  rw [lastBit_mul_two_pow hzero hs, nearestNat]
  by_cases hshort : n < Nat.pow 2 53
  · -- neither of them loses anything
    have hlog : n.log2 < 53 := (Nat.log2_lt hzero).2 hshort
    have hself := divNearest_mul_self n Nat.one_pos
    rw [Nat.mul_one] at hself
    have hsplit : s = (52 - n.log2) + (n.log2 + s - 52) := by omega
    generalize n.log2 + s - 52 = bit at *
    rw [show Binary64.lastBit n = 0 from if_pos hshort, Nat.pow_zero, hself, Nat.mul_one, hsplit,
      Nat.pow_add, ← Nat.mul_assoc, divNearest_mul_self _ (Nat.two_pow_pos bit)]
  · have hlog : 53 ≤ n.log2 := (Nat.le_log2 hzero).2 (Nat.le_of_not_lt hshort)
    rw [show Binary64.lastBit n = n.log2 - 52 from if_neg hshort,
      show n.log2 + s - 52 = (n.log2 - 52) + s by omega, Nat.pow_add,
      divNearest_mul_right _ _ (Nat.two_pow_pos _), Nat.mul_assoc]

end DynamicForms.Number
