import DesiredState.Number.Numeral
import DesiredState.Proofs.Number.Range

/-!
# Signs, and what is not a number

Whether a floating point number is above zero is a question about its exact value, and what is not a
number is neither above zero nor at most zero. Only one word reads as what is not a number: no
decimal does, however large or small.

* `Binary64.isPositive_iff`: the sign in terms of the exact value.
* `Numeral.real?_eq_nan_iff`: **the texts that read as what is not a number.**
-/

namespace DesiredState

/-! ### Signs -/

/-- Above zero on the extended line. -/
def Extended.IsAboveZero : Extended → Prop
  | .finite q => 0 < q
  | .infinite negative => negative = false
  | .none => False

namespace Binary64

/-- The exact value of a finite number is a quotient with its sign. -/
theorem exists_value_finite (negative : Bool) (m : Nat) (e : Int) : ∃ num den : Nat, 0 < den ∧
    (num = 0 ↔ m = 0) ∧ (finite negative m e).value =
      .finite ((if negative then -(num : Rat) else num) / den) := by
  have hden : 0 < (ratio m e).2 := by
    unfold ratio
    split
    · exact Nat.one_pos
    · exact Nat.two_pow_pos _
  have hnum : (ratio m e).1 = 0 ↔ m = 0 := by
    unfold ratio
    split
    · exact (Nat.mul_eq_zero).trans (or_iff_left (Nat.two_pow_pos _).ne')
    · exact Iff.rfl
  refine ⟨(ratio m e).1, (ratio m e).2, hden, hnum, ?_⟩
  unfold value
  dsimp only
  rw [Rat.mkRat_eq_div]
  cases negative <;> simp

theorem isPositive_iff {x : Binary64} : x.isPositive = true ↔ x.value.IsAboveZero := by
  cases x with
  | finite negative m e =>
    obtain ⟨num, den, hden, hnum, hvalue⟩ := exists_value_finite negative m e
    have hden' : (0 : Rat) < den := Nat.cast_pos.2 hden
    rw [hvalue]
    unfold isPositive Extended.IsAboveZero
    cases negative with
    | true =>
      have hle : -(num : Rat) / den ≤ 0 :=
        div_nonpos_of_nonpos_of_nonneg (neg_nonpos.2 (Nat.cast_nonneg num)) hden'.le
      simpa using hle
    | false =>
      have hpos : (0 : Rat) < num / den ↔ num ≠ 0 := by
        rw [lt_div_iff₀ hden', zero_mul, Nat.cast_pos, Nat.pos_iff_ne_zero]
      simp [hpos, hnum]
  | infinite negative => simp [isPositive, value, Extended.IsAboveZero]
  | nan => simp [isPositive, value, Extended.IsAboveZero]

/-- What is not at most zero is above zero, or not a number. -/
theorem isNonpositive_eq_false_iff {x : Binary64} :
    x.isNonpositive = false ↔ x.isPositive = true ∨ x = .nan := by
  cases x with
  | finite negative m e => cases negative <;> simp [isPositive, isNonpositive]
  | infinite negative => cases negative <;> simp [isPositive, isNonpositive]
  | nan => simp [isNonpositive]

theorem ofDecimal_ne_nan (negative : Bool) (digits : Nat) (exponent : Int) :
    ofDecimal negative digits exponent ≠ .nan := by
  unfold ofDecimal zero
  dsimp only
  split
  · exact nofun
  split
  · exact nofun
  split
  · exact nofun
  split <;> exact ofRatio_ne_nan _ _ _

end Binary64

/-! ### The word for what is not a number -/

section Digits

variable {c : CodePoint} {d : Nat}

theorem CodePoint.decimalVal?_eq_none_iff :
    c.decimalVal? = none ↔ ∀ z ∈ Text.zeroDigits, ¬ (z ≤ c.val ∧ c.val ≤ z + 9) := by
  unfold CodePoint.decimalVal?
  rw [Option.map_eq_none_iff, List.find?_eq_none]
  simp only [Bool.and_eq_true, decide_eq_true_eq]

theorem CodePoint.decimalVal?_le (h : c.decimalVal? = some d) : d ≤ 9 := by
  obtain ⟨z, hz, rfl⟩ := Option.map_eq_some_iff.1 h
  have hrange := List.find?_some hz
  simp only [Bool.and_eq_true, decide_eq_true_eq] at hrange
  omega

/-- No blank is a digit. -/
theorem CodePoint.decimalVal?_of_isBlank (h : c.isBlank = true) : c.decimalVal? = none := by
  have hgaps : ∀ z ∈ Text.zeroDigits, (0x20 < z ∧ z + 9 < 0x85) ∨ (0xA0 < z ∧ z + 9 < 0x1680) ∨
      (0x1680 < z ∧ z + 9 < 0x2000) ∨ 0x3000 < z := by decide
  rw [decimalVal?_eq_none_iff]
  intro z hz
  have hgap := hgaps z hz
  unfold isBlank at h
  simp only [Bool.or_eq_true, Bool.and_eq_true, decide_eq_true_eq, beq_iff_eq] at h
  omega

end Digits

namespace Numeral

variable {t signs word before after : Text} {c : CodePoint}

/-- A sign or none. -/
def IsSign (t : Text) : Prop := t = [] ∨ t = ("+" : Text) ∨ t = ("-" : Text)

/-- The word `nan` in any case behind a sign or none, between blanks. -/
inductive SpellsNan : Text → Prop
  | intro {before signs word after : Text} (hbefore : ∀ c ∈ before, isMargin c = true)
      (hsigns : IsSign signs) (hword : Text.asciiLower word = "nan")
      (hafter : ∀ c ∈ after, isMargin c = true) : SpellsNan (before ++ (signs ++ word) ++ after)

/-- A letter or a sign: no blank, no digit of any script and no underscore. -/
def IsWordPart (c : CodePoint) : Prop := c.isAsciiLetter = true ∨ c = '+' ∨ c = '-'

theorem IsWordPart.val (h : IsWordPart c) : (0x41 ≤ c.val ∧ c.val ≤ 0x5A) ∨
    (0x61 ≤ c.val ∧ c.val ≤ 0x7A) ∨ c.val = 0x2B ∨ c.val = 0x2D := by
  rcases h with h | rfl | rfl
  · unfold CodePoint.isAsciiLetter at h
    simp only [Bool.or_eq_true, Bool.and_eq_true, decide_eq_true_eq] at h
    omega
  · exact .inr (.inr (.inl rfl))
  · exact .inr (.inr (.inr rfl))

theorem IsWordPart.isAsciiDigit (h : IsWordPart c) : c.isAsciiDigit = false := by
  have hval := h.val
  unfold CodePoint.isAsciiDigit
  simp only [Bool.and_eq_false_iff, decide_eq_false_iff_not]
  omega

theorem IsWordPart.decimalVal? (h : IsWordPart c) : c.decimalVal? = none := by
  have hzeros : ∀ z ∈ Text.zeroDigits, z = 0x30 ∨ 0x660 ≤ z := by decide
  rw [CodePoint.decimalVal?_eq_none_iff]
  intro z hz
  have hval := h.val
  have hzero := hzeros z hz
  omega

theorem IsWordPart.isMargin (h : IsWordPart c) : isMargin c = false := by
  have hval := h.val
  have hblank : c.isBlank = false := by
    unfold CodePoint.isBlank
    simp only [Bool.or_eq_false_iff, Bool.and_eq_false_iff, decide_eq_false_iff_not,
      beq_eq_false_iff_ne]
    omega
  unfold Numeral.isMargin
  rw [hblank, Bool.false_and]

theorem isBlank_of_isMargin (h : isMargin c = true) : c.isBlank = true :=
  (Bool.and_eq_true_iff.1 h).1

theorem isAsciiDigit_of_isMargin (h : isMargin c = true) : c.isAsciiDigit = false := by
  have hblank := isBlank_of_isMargin h
  unfold CodePoint.isBlank at hblank
  unfold CodePoint.isAsciiDigit
  simp only [Bool.or_eq_true, Bool.and_eq_true, decide_eq_true_eq, beq_iff_eq] at hblank
  simp only [Bool.and_eq_false_iff, decide_eq_false_iff_not]
  omega

theorem IsSign.isWordPart (h : IsSign signs) : ∀ c ∈ signs, IsWordPart c := by
  rcases h with rfl | rfl | rfl
  · exact List.forall_mem_nil _
  · exact List.forall_mem_singleton.2 (.inr (.inl rfl))
  · exact List.forall_mem_singleton.2 (.inr (.inr rfl))

theorem isAsciiLetter_of_asciiLower (h : Text.asciiLower word = "nan") :
    ∀ c ∈ word, c.isAsciiLetter = true := by
  intro c hc
  have hletters : ∀ d ∈ Text.asciiLower word, 0x61 ≤ d.val ∧ d.val ≤ 0x7A := by
    rw [h]
    decide
  have hlower := hletters _ (List.mem_map_of_mem hc)
  unfold CodePoint.isAsciiLetter
  simp only [Bool.or_eq_true, Bool.and_eq_true, decide_eq_true_eq] at hlower ⊢
  split at hlower
  · next hupper => exact .inl hupper
  · exact .inr hlower

theorem isWordPart_of_word (hsigns : IsSign signs) (hword : Text.asciiLower word = "nan") :
    ∀ c ∈ signs ++ word, IsWordPart c :=
  List.forall_mem_append.2
    ⟨hsigns.isWordPart, fun c hc => .inl (isAsciiLetter_of_asciiLower hword c hc)⟩

/-- Underscores are dropped between digits only. -/
theorem dropUnderscores?_cases {preceded : Bool} {r : Text}
    (h : dropUnderscores? preceded t = some r) : r = t ∨ ∃ c ∈ r, c.isAsciiDigit = true := by
  induction t generalizing preceded r with
  | nil => exact .inl (Option.some.inj h).symm
  | cons c t ih =>
    unfold dropUnderscores? at h
    split at h
    · split at h
      · cases h
      next d t =>
      split at h
      · next hdigit =>
        obtain ⟨-, hd⟩ := Bool.and_eq_true_iff.1 hdigit
        have hne : ¬ d = CodePoint.ofChar '_' := by
          rintro rfl
          cases hd
        unfold dropUnderscores? at h
        rw [if_neg hne] at h
        obtain ⟨r, -, rfl⟩ := Option.map_eq_some_iff.1 h
        exact .inr ⟨d, List.mem_cons_self, hd⟩
      · cases h
    · obtain ⟨r, hr, rfl⟩ := Option.map_eq_some_iff.1 h
      rcases ih hr with rfl | ⟨d, hd, hdigit⟩
      · exact .inl rfl
      · exact .inr ⟨d, List.mem_cons_of_mem c hd, hdigit⟩

theorem dropUnderscores?_of_parts {preceded : Bool} (h : ∀ c ∈ t, IsWordPart c) :
    dropUnderscores? preceded t = some t := by
  induction t generalizing preceded with
  | nil => rfl
  | cons c t ih =>
    obtain ⟨hc, ht⟩ := List.forall_mem_cons.1 h
    have hne : ¬ c = CodePoint.ofChar '_' := by
      rintro rfl
      have hval := hc.val
      revert hval
      decide
    unfold dropUnderscores?
    rw [if_neg hne, ih ht]
    rfl

theorem sign_append (h : IsSign signs) (hword : ∀ c ∈ word, c.isAsciiLetter = true) :
    (sign (signs ++ word)).2 = word := by
  rcases h with rfl | rfl | rfl
  · cases word with
    | nil => rfl
    | cons c word =>
      have hc := (List.forall_mem_cons.1 hword).1
      have hminus : ¬ c = CodePoint.ofChar '-' := by
        rintro rfl
        cases hc
      have hplus : ¬ c = CodePoint.ofChar '+' := by
        rintro rfl
        cases hc
      rw [List.nil_append, sign, if_neg hminus, if_neg hplus]
  · rfl
  · rfl

theorem exists_sign (t : Text) : ∃ signs, IsSign signs ∧ t = signs ++ (sign t).2 := by
  cases t with
  | nil => exact ⟨[], .inl rfl, rfl⟩
  | cons c t =>
    by_cases hminus : c = CodePoint.ofChar '-'
    · subst hminus
      exact ⟨"-", .inr (.inr rfl), rfl⟩
    by_cases hplus : c = CodePoint.ofChar '+'
    · subst hplus
      exact ⟨"+", .inr (.inl rfl), rfl⟩
    · refine ⟨[], .inl rfl, ?_⟩
      rw [sign, if_neg hminus, if_neg hplus, List.nil_append]

theorem signedReal?_eq_nan_iff : signedReal? t = some .nan ↔
    ∃ signs word, IsSign signs ∧ Text.asciiLower word = "nan" ∧ t = signs ++ word := by
  constructor
  · intro h
    unfold signedReal? at h
    obtain ⟨r, hr, h⟩ := Option.bind_eq_some_iff.1 h
    -- the other words are infinite, and a decimal is never what is not a number
    have hword : Text.asciiLower (sign r).2 = "nan" := by
      dsimp only at h
      split at h
      · cases h
      split at h
      · next hnan => exact hnan
      · obtain ⟨⟨ds, e⟩, -, h⟩ := Option.bind_eq_some_iff.1 h
        exact absurd (Option.some.inj h) (Binary64.ofDecimal_ne_nan _ _ _)
    obtain ⟨signs, hsigns, hsplit⟩ := exists_sign r
    rcases dropUnderscores?_cases hr with rfl | ⟨c, hc, hdigit⟩
    · exact ⟨signs, _, hsigns, hword, hsplit⟩
    · rw [hsplit] at hc
      rw [(isWordPart_of_word hsigns hword c hc).isAsciiDigit] at hdigit
      cases hdigit
  · rintro ⟨signs, word, hsigns, hword, rfl⟩
    unfold signedReal?
    rw [dropUnderscores?_of_parts (isWordPart_of_word hsigns hword)]
    dsimp only [bind, Option.bind]
    rw [sign_append hsigns (isAsciiLetter_of_asciiLower hword), hword]
    rfl

/-- What is trimmed stands at the ends and is blank. -/
theorem exists_margins (t : Text) : ∃ before after, (∀ c ∈ before, isMargin c = true) ∧
    (∀ c ∈ after, isMargin c = true) ∧ t = before ++ trimMargins t ++ after := by
  refine ⟨t.takeWhile isMargin, ((t.dropWhile isMargin).reverse.takeWhile isMargin).reverse,
    List.all_eq_true.1 List.all_takeWhile,
    fun c hc => List.all_eq_true.1 List.all_takeWhile c (List.mem_reverse.1 hc), ?_⟩
  unfold trimMargins
  rw [List.append_assoc, ← List.reverse_append, List.takeWhile_append_dropWhile,
    List.reverse_reverse, List.takeWhile_append_dropWhile]

theorem trimMargins_append (hbefore : ∀ c ∈ before, isMargin c = true)
    (hword : ∀ c ∈ word, isMargin c = false) (hafter : ∀ c ∈ after, isMargin c = true) :
    trimMargins (before ++ word ++ after) = word := by
  have hskip : ∀ {u rest : Text}, (∀ c ∈ u, isMargin c = true) →
      (u ++ rest).dropWhile isMargin = rest.dropWhile isMargin := List.dropWhile_append_of_pos
  have hkeep : ∀ {u rest : Text}, u ≠ [] → (∀ c ∈ u, isMargin c = false) →
      (u ++ rest).dropWhile isMargin = u ++ rest := by
    intro u rest hu hnone
    cases u with
    | nil => exact absurd rfl hu
    | cons c u =>
      have hc : ¬ isMargin c = true := by
        rw [hnone c List.mem_cons_self]
        exact Bool.false_ne_true
      exact List.dropWhile_cons_of_neg hc
  have hreverse : ∀ {u : Text} {p : CodePoint → Prop}, (∀ c ∈ u, p c) → ∀ c ∈ u.reverse, p c :=
    fun h c hc => h c (List.mem_reverse.1 hc)
  unfold trimMargins
  rw [List.append_assoc, hskip hbefore]
  by_cases hempty : word = []
  · subst hempty
    rw [List.nil_append, ← List.append_nil after, hskip hafter]
    rfl
  · -- nothing is skipped within the word, from either end
    have hreversed : (word.reverse ++ []).dropWhile isMargin = word.reverse ++ [] :=
      hkeep (mt List.reverse_eq_nil_iff.1 hempty) (hreverse hword)
    rw [hkeep hempty hword, List.reverse_append, hskip (hreverse hafter),
      ← List.append_nil word.reverse, hreversed, List.append_nil, List.reverse_reverse]

theorem toAsciiDigits_of_none (h : ∀ c ∈ t, c.decimalVal? = none) : toAsciiDigits t = t := by
  unfold toAsciiDigits
  refine (List.map_congr_left fun c hc => ?_).trans (List.map_id t)
  rw [h c hc]
  rfl

/-- Without a digit in the result there was none to be replaced. -/
theorem toAsciiDigits_eq_self (h : ∀ c ∈ toAsciiDigits t, c.isAsciiDigit = false) :
    toAsciiDigits t = t := by
  refine toAsciiDigits_of_none fun c hc => ?_
  have himage := h _ (List.mem_map_of_mem hc)
  cases hd : c.decimalVal? with
  | none => rfl
  | some d =>
    have hle := CodePoint.decimalVal?_le hd
    rw [hd] at himage
    dsimp only at himage
    unfold CodePoint.isAsciiDigit at himage
    rw [CodePoint.val_ofNat (by omega)] at himage
    simp only [Bool.and_eq_false_iff, decide_eq_false_iff_not] at himage
    omega

/-- **The texts that read as what is not a number** are those that spell it. -/
theorem real?_eq_nan_iff : real? t = some .nan ↔ SpellsNan t := by
  unfold real?
  rw [signedReal?_eq_nan_iff]
  constructor
  · rintro ⟨signs, word, hsigns, hword, htrim⟩
    obtain ⟨before, after, hbefore, hafter, hsplit⟩ := exists_margins (toAsciiDigits t)
    rw [htrim] at hsplit
    have hself : toAsciiDigits t = t := by
      refine toAsciiDigits_eq_self ?_
      rw [hsplit, List.forall_mem_append, List.forall_mem_append]
      exact ⟨⟨fun c hc => isAsciiDigit_of_isMargin (hbefore c hc),
        fun c hc => (isWordPart_of_word hsigns hword c hc).isAsciiDigit⟩,
        fun c hc => isAsciiDigit_of_isMargin (hafter c hc)⟩
    rw [← hself, hsplit]
    exact .intro hbefore hsigns hword hafter
  · rintro ⟨hbefore, hsigns, hword, hafter⟩
    have hparts := isWordPart_of_word hsigns hword
    refine ⟨_, _, hsigns, hword, ?_⟩
    rw [toAsciiDigits_of_none,
      trimMargins_append hbefore (fun c hc => (hparts c hc).isMargin) hafter]
    rw [List.forall_mem_append, List.forall_mem_append]
    exact ⟨⟨fun c hc => CodePoint.decimalVal?_of_isBlank (isBlank_of_isMargin (hbefore c hc)),
      fun c hc => (hparts c hc).decimalVal?⟩,
      fun c hc => CodePoint.decimalVal?_of_isBlank (isBlank_of_isMargin (hafter c hc))⟩

end Numeral

end DesiredState
