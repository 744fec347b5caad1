import DesiredState.Number.Binary64
import Mathlib.Algebra.Order.Field.Power
import Mathlib.Algebra.Order.Field.Rat
import Mathlib.Tactic.Ring

/-!
# The range of floating point numbers

A quotient is rounded to infinity from the middle between the greatest number and the next power of
two on. The middle itself has an odd neighbour below, so that it is rounded up as well.

* `Binary64.overflow`: the middle.
* `Binary64.le_floorLog2_iff`: the powers of two below a quotient.
* `Binary64.isFinite_ofRatio_iff`, `Binary64.isFinite_ofDecimal_iff`: **a quotient and a decimal
  become finite numbers just if they are below the middle.**
* `Binary64.ofInt?_eq_none_iff`: the whole numbers that are too large.
-/

namespace DesiredState

/-- A quotient below an even number is rounded up to it from the last half on: what is exactly
between the two has an odd neighbour below. -/
theorem roundHalfEven_eq_iff {num den k : Nat} (heven : k % 2 = 0) (hbelow : num < den * k) :
    roundHalfEven num den = k ↔ den * (2 * k - 1) ≤ 2 * num := by
  have hden : 0 < den := Nat.pos_of_ne_zero fun h => by simp [h] at hbelow
  have hquotient : num / den < k := Nat.div_lt_of_lt_mul hbelow
  have hnum : den * (num / den) + num % den = num := Nat.div_add_mod num den
  have hremainder : num % den < den := Nat.mod_lt num hden
  unfold roundHalfEven
  dsimp only
  generalize num / den = q at hquotient hnum ⊢
  generalize num % den = r at hremainder hnum ⊢
  obtain ⟨j, hj⟩ := Nat.exists_eq_add_of_le (Nat.succ_le_of_lt hquotient)
  have htwice : den * (2 * k - 1) = 2 * (den * q) + (2 * (den * j) + den) := by
    have hsplit : 2 * k - 1 = 2 * q + (2 * j + 1) := by omega
    rw [hsplit]
    ring
  rw [htwice, ← hnum]
  by_cases hlast : j = 0
  · subst hlast
    split
    · omega
    split
    · omega
    split <;> omega
  · have hfar : den ≤ den * j := Nat.le_mul_of_pos_right den (Nat.pos_of_ne_zero hlast)
    split
    · omega
    split
    · omega
    split <;> omega

namespace Binary64

variable {num den : Nat}

/-- The middle between the greatest number and the next power of two. -/
def overflow : Nat := (2 ^ 54 - 1) * 2 ^ 970

/-- The middle with a power that is not to be computed. -/
theorem exists_overflow_eq : ∃ top, top = 970 ∧ overflow = (2 ^ 54 - 1) * 2 ^ top :=
  ⟨970, rfl, rfl⟩

/-- The powers of two that are at most a quotient have the exponents up to its logarithm. -/
theorem le_floorLog2_iff (hnum : num ≠ 0) (hden : den ≠ 0) (k : Nat) :
    (k : Int) ≤ floorLog2 num den ↔ den * 2 ^ k ≤ num := by
  -- the quotient is below the power with one more than the difference of the logarithms
  have hbelow : ∀ j : Nat, num.log2 < den.log2 + j → num < den * 2 ^ j := by
    intro j hj
    calc num < 2 ^ (num.log2 + 1) := Nat.lt_log2_self
      _ ≤ 2 ^ (den.log2 + j) := Nat.pow_le_pow_right (by decide) hj
      _ = 2 ^ den.log2 * 2 ^ j := Nat.pow_add 2 den.log2 j
      _ ≤ den * 2 ^ j := Nat.mul_le_mul_right _ (Nat.log2_self_le hden)
  -- and at least the power with one less
  have habove : ∀ j : Nat, den.log2 + j < num.log2 → den * 2 ^ j ≤ num := by
    intro j hj
    calc den * 2 ^ j ≤ 2 ^ (den.log2 + 1) * 2 ^ j :=
          Nat.mul_le_mul_right _ (Nat.le_of_lt Nat.lt_log2_self)
      _ = 2 ^ (den.log2 + 1 + j) := (Nat.pow_add 2 (den.log2 + 1) j).symm
      _ ≤ 2 ^ num.log2 := Nat.pow_le_pow_right (by decide) (by omega)
      _ ≤ num := Nat.log2_self_le hnum
  rcases Nat.lt_or_ge num.log2 den.log2 with hlt | hge
  · -- a quotient below one has a negative logarithm
    have hnegative : floorLog2 num den < 0 := by
      unfold floorLog2
      dsimp only
      split <;> omega
    refine iff_of_false (by omega) (Nat.not_le.2 (hbelow k (by omega)))
  · obtain ⟨c, hc⟩ := Nat.exists_eq_add_of_le hge
    have hdifference : (num.log2 : Int) - den.log2 = c := by omega
    have hfloor : floorLog2 num den = if den * 2 ^ c ≤ num then (c : Int) else c - 1 := by
      unfold floorLog2 scale
      rw [hdifference]
      simp only [Int.natCast_nonneg, if_true, Int.toNat_natCast, Nat.pow_eq]
    rw [hfloor]
    split
    · next hle =>
      constructor
      · intro hk
        exact Nat.le_trans (Nat.mul_le_mul_left _ (Nat.pow_le_pow_right (by decide) (by omega))) hle
      · intro hk
        have hlow := mt (hbelow k) (Nat.not_lt.2 hk)
        omega
    · next hlt =>
      constructor
      · intro hk
        exact habove k (by omega)
      · intro hk
        have hck : ¬ c ≤ k := fun hck => hlt (Nat.le_trans
          (Nat.mul_le_mul_left _ (Nat.pow_le_pow_right (by decide) hck)) hk)
        omega

/-- The number is finite if the exponent is in the range, and behind a significand that is rounded
up to a power of two, if the next exponent is. -/
theorem isFinite_ofRatio (negative : Bool) (hnum : num ≠ 0) {e : Int}
    (he : max (floorLog2 num den - 52) minExponent = e) :
    (ofRatio negative num den).isFinite = true ↔
      (if roundHalfEven (scale num den e).1 (scale num den e).2 = 2 ^ 53 then e + 1 else e) ≤
        maxExponent := by
  have hpower : (0x20000000000000 : Nat) = 2 ^ 53 := rfl
  unfold ofRatio
  rw [if_neg hnum, he, hpower]
  dsimp only
  by_cases hup : roundHalfEven (scale num den e).1 (scale num den e).2 = 2 ^ 53
  · rw [if_pos hup, if_pos hup]
    dsimp only
    split
    · next hover => exact iff_of_false Bool.false_ne_true (Int.not_le.2 hover)
    · next hover => exact iff_of_true rfl (Int.not_lt.1 hover)
  · rw [if_neg hup, if_neg hup]
    dsimp only
    split
    · next hover => exact iff_of_false Bool.false_ne_true (Int.not_le.2 hover)
    · next hover => exact iff_of_true rfl (Int.not_lt.1 hover)

/-- **A quotient becomes a finite number just if it is below the middle.** -/
theorem isFinite_ofRatio_iff (negative : Bool) (hnum : num ≠ 0) (hden : den ≠ 0) :
    (ofRatio negative num den).isFinite = true ↔ num < den * overflow := by
  have hfloor : ∀ k : Nat, (k : Int) ≤ floorLog2 num den ↔ den * 2 ^ k ≤ num :=
    le_floorLog2_iff hnum hden
  obtain ⟨top, htop, hoverflow⟩ := exists_overflow_eq
  have hmax : maxExponent = (top + 1 : Nat) := by rw [htop]; rfl
  rw [isFinite_ofRatio negative hnum rfl, hmax, hoverflow]
  unfold minExponent
  rcases lt_or_ge (floorLog2 num den) (top + 53 : Nat) with hlow | hhigh
  · -- below the greatest power of two
    have hsmall : num < den * 2 ^ (top + 53) := Nat.not_le.1 (mt (hfloor _).2 (Int.not_le.2 hlow))
    have hmiddle : 2 ^ (top + 53) ≤ (2 ^ 54 - 1) * 2 ^ top := by
      rw [Nat.pow_add]
      omega
    refine iff_of_true ?_ (Nat.lt_of_lt_of_le hsmall (Nat.mul_le_mul_left den hmiddle))
    split <;> omega
  rcases lt_or_ge (floorLog2 num den) (top + 54 : Nat) with hlast | hbeyond
  · -- between the greatest power of two and the next: the significand decides
    have hbelow : num < den * 2 ^ (top + 1) * 2 ^ 53 := by
      rw [Nat.mul_assoc, ← Nat.pow_add]
      exact Nat.not_le.1 (mt (hfloor _).2 (Int.not_le.2 hlast))
    have hexponent : max (floorLog2 num den - 52) (-1074) = (top + 1 : Nat) := by omega
    have hscale : scale num den (top + 1 : Nat) = (num, den * 2 ^ (top + 1)) := by
      unfold scale
      rw [if_pos (Int.natCast_nonneg _), Int.toNat_natCast, Nat.pow_eq]
    have hround := roundHalfEven_eq_iff (by decide) hbelow
    have hmiddle : den * 2 ^ (top + 1) * (2 * 2 ^ 53 - 1) =
        2 * (den * ((2 ^ 54 - 1) * 2 ^ top)) := by
      rw [Nat.pow_succ]
      ring
    rw [hmiddle] at hround
    rw [hexponent, hscale]
    split
    · next hup =>
      have hlarge := Nat.le_of_mul_le_mul_left (hround.1 hup) Nat.two_pos
      exact iff_of_false (Int.not_le.2 (Int.lt_succ _)) (Nat.not_lt.2 hlarge)
    · next hdown =>
      have hsmall := Nat.lt_of_mul_lt_mul_left (Nat.not_le.1 (mt hround.2 hdown))
      exact iff_of_true (Int.le_refl _) hsmall
  · -- at least the next power of two
    have hlarge : den * 2 ^ (top + 54) ≤ num := (hfloor _).1 hbeyond
    have hmiddle : (2 ^ 54 - 1) * 2 ^ top ≤ 2 ^ (top + 54) := by
      rw [Nat.pow_add]
      omega
    refine iff_of_false ?_ (Nat.not_lt.2 (Nat.le_trans (Nat.mul_le_mul_left den hmiddle) hlarge))
    split <;> omega

theorem overflow_pos : 0 < overflow := by
  obtain ⟨top, -, hoverflow⟩ := exists_overflow_eq
  rw [hoverflow]
  exact Nat.mul_pos (by decide) (Nat.two_pow_pos top)

/-! ### Whole numbers -/

theorem ofRatio_ne_nan (negative : Bool) (num den : Nat) : ofRatio negative num den ≠ .nan := by
  unfold ofRatio zero
  split
  · exact nofun
  dsimp only
  generalize (if roundHalfEven _ _ = _ then _ else _ : Nat × Int) = rounded
  split <;> exact nofun

/-- **A whole number becomes a floating point number just if it is below the middle.** -/
theorem ofInt?_eq_none_iff {n : Int} : ofInt? n = none ↔ overflow ≤ n.natAbs := by
  have hfinite : (ofRatio (n < 0) n.natAbs 1).isFinite = true ↔ n.natAbs < overflow := by
    by_cases hn : n.natAbs = 0
    · rw [hn]
      exact iff_of_true rfl overflow_pos
    · rw [isFinite_ofRatio_iff _ hn Nat.one_ne_zero, Nat.one_mul]
  rw [← Nat.not_lt, ← hfinite]
  unfold ofInt?
  split
  · next hinfinite => simp [hinfinite, isFinite]
  · next x hinfinite =>
    cases hx : ofRatio (n < 0) n.natAbs 1 with
    | finite negative m e => simp [isFinite]
    | infinite negative => exact absurd hx (hinfinite negative)
    | nan => exact absurd hx (ofRatio_ne_nan _ _ _)

/-! ### Decimals -/

/-- The middle has fewer than 311 digits. -/
theorem overflow_le_pow {n : Nat} (hn : 310 ≤ n) : overflow ≤ 10 ^ n := by
  obtain ⟨top, htop, hoverflow⟩ := exists_overflow_eq
  have hfifth : top = 194 * 5 := htop
  have hbits : 2 ^ 11 * 2 ^ 194 ≤ 10 ^ 62 := by decide
  have hfactor : 2 ^ 54 - 1 ≤ (2 ^ 11) ^ 5 := by decide
  calc overflow = (2 ^ 54 - 1) * (2 ^ 194) ^ 5 := by rw [hoverflow, hfifth, Nat.pow_mul]
    _ ≤ (2 ^ 11) ^ 5 * (2 ^ 194) ^ 5 := Nat.mul_le_mul_right _ hfactor
    _ = (2 ^ 11 * 2 ^ 194) ^ 5 := (Nat.mul_pow _ _ 5).symm
    _ ≤ (10 ^ 62) ^ 5 := Nat.pow_le_pow_left hbits 5
    _ = 10 ^ (62 * 5) := (pow_mul 10 62 5).symm
    _ ≤ 10 ^ n := pow_le_pow_right₀ (by decide) hn

theorem lt_pow_length (n : Nat) : n < 10 ^ (Nat.toDigits 10 n).length :=
  (Nat.length_toDigits_le_iff (by decide) Nat.length_toDigits_pos).1 (Nat.le_refl _)

theorem pow_le_of_lt_length {n k : Nat} (hn : n ≠ 0) (hk : k < (Nat.toDigits 10 n).length) :
    10 ^ k ≤ n := by
  cases k with
  | zero => exact Nat.pos_of_ne_zero hn
  | succ k =>
    refine Nat.not_lt.1 fun h => ?_
    exact absurd ((Nat.length_toDigits_le_iff (by decide) (Nat.succ_pos k)).2 h) (Nat.not_le.2 hk)

/-- A whole number with zeros behind it. -/
theorem isFinite_ofDecimal_natCast (negative : Bool) {digits : Nat} (hdigits : digits ≠ 0)
    (k : Nat) : (ofDecimal negative digits k).isFinite = true ↔ digits * 10 ^ k < overflow := by
  unfold ofDecimal
  rw [if_neg hdigits]
  dsimp only
  split
  · next hlarge =>
    -- all the digits but the first, and the zeros
    obtain ⟨j, hj⟩ := Nat.exists_eq_add_of_le (Nat.length_toDigits_pos (b := 10) (n := digits))
    have hpower : 10 ^ j ≤ digits := pow_le_of_lt_length hdigits (by omega)
    have hmany : 10 ^ (j + k) ≤ digits * 10 ^ k := by
      rw [Nat.pow_add]
      exact Nat.mul_le_mul_right _ hpower
    exact iff_of_false Bool.false_ne_true
      (Nat.not_lt.2 (Nat.le_trans (overflow_le_pow (by omega)) hmany))
  split
  · next hsmall => omega
  · have hnum : digits * 10 ^ k ≠ 0 := Nat.mul_ne_zero hdigits (Nat.pow_pos (by decide)).ne'
    rw [if_pos (Int.natCast_nonneg k), Int.toNat_natCast, Nat.pow_eq,
      isFinite_ofRatio_iff negative hnum Nat.one_ne_zero, Nat.one_mul]

/-- Digits of which some stand behind the point. -/
theorem isFinite_ofDecimal_neg (negative : Bool) {digits k : Nat} (hdigits : digits ≠ 0)
    (hk : k ≠ 0) :
    (ofDecimal negative digits (-k)).isFinite = true ↔ digits < 10 ^ k * overflow := by
  have hden : 10 ^ k ≠ 0 := (Nat.pow_pos (by decide)).ne'
  unfold ofDecimal
  rw [if_neg hdigits]
  dsimp only
  split
  · next hlarge =>
    -- more than 310 digits stand before the point
    obtain ⟨j, hj⟩ := Nat.exists_eq_add_of_le (Nat.length_toDigits_pos (b := 10) (n := digits))
    obtain ⟨n, rfl⟩ : ∃ n, j = k + n := ⟨j - k, by omega⟩
    have hpower : 10 ^ (k + n) ≤ digits := pow_le_of_lt_length hdigits (by omega)
    have hmany : 10 ^ k * overflow ≤ 10 ^ (k + n) := by
      rw [Nat.pow_add]
      exact Nat.mul_le_mul_left _ (overflow_le_pow (by omega))
    exact iff_of_false Bool.false_ne_true (Nat.not_lt.2 (Nat.le_trans hmany hpower))
  split
  · next hsmall =>
    have hpower : 10 ^ (Nat.toDigits 10 digits).length ≤ 10 ^ k :=
      Nat.pow_le_pow_right (by decide) (by omega)
    refine iff_of_true rfl (Nat.lt_of_lt_of_le (lt_pow_length digits) (Nat.le_trans hpower ?_))
    exact Nat.le_mul_of_pos_right _ overflow_pos
  · rw [if_neg (by omega), Int.neg_neg, Int.toNat_natCast, Nat.pow_eq,
      isFinite_ofRatio_iff negative hdigits hden]

/-- **A decimal becomes a finite number just if it is below the middle.** -/
theorem isFinite_ofDecimal_iff (negative : Bool) (digits : Nat) (exponent : Int) :
    (ofDecimal negative digits exponent).isFinite = true ↔
      (digits : Rat) * 10 ^ exponent < overflow := by
  by_cases hdigits : digits = 0
  · subst hdigits
    refine iff_of_true rfl ?_
    rw [Nat.cast_zero, zero_mul]
    exact Nat.cast_pos.2 overflow_pos
  obtain ⟨k, rfl | rfl⟩ := exponent.eq_nat_or_neg
  · rw [isFinite_ofDecimal_natCast negative hdigits, zpow_natCast]
    exact_mod_cast Iff.rfl
  · by_cases hk : k = 0
    · subst hk
      rw [Int.natCast_zero, Int.neg_zero, ← Int.natCast_zero,
        isFinite_ofDecimal_natCast negative hdigits, zpow_natCast]
      exact_mod_cast Iff.rfl
    · have hpow : (0 : Rat) < 10 ^ k := pow_pos (by decide) k
      rw [isFinite_ofDecimal_neg negative hdigits hk, zpow_neg, zpow_natCast, ← div_eq_mul_inv,
        div_lt_iff₀ hpow, mul_comm]
      exact_mod_cast Iff.rfl

end Binary64

end DesiredState
