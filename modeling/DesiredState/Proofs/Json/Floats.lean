import DesiredState.Proofs.Json.Tokens

/-!
# Writing floating point numbers

The text of a finite number is a number of the grammar with a fraction or an exponent, in all of its
forms. It begins with a digit that is no zero, or with a single zero before the point, since the
shortest decimal of a number that is not zero is none.

* `Binary64.digits_shortest_ne_zero`: the shortest decimal is not zero.
* `Binary64.isReal_layOut`: digits with a point or in scientific form.
* `Binary64.written_toText`: **a finite number is written.**
* `Json.isVisible_encodeFloat`: what is written for any number is visible ASCII.
-/

namespace DesiredState

open Json.Numeral (IsDigits IsWhole FractionWritten ExponentWritten Written)

/-! ### Digits -/

theorem isAsciiDigit_of_mem_zeros {n : Nat} {c : CodePoint}
    (h : c ∈ List.replicate n (CodePoint.ofChar '0')) : c.isAsciiDigit = true := by
  rw [(List.mem_replicate.1 h).2]
  decide

theorem isDigits_decimal (n : Nat) : IsDigits (Text.decimal n) := by
  refine ⟨fun hnil => ?_, fun c hc => Json.isAsciiDigit_of_mem_decimal hc⟩
  have hlength := congrArg List.length hnil
  unfold Text.decimal at hlength
  rw [List.length_map, List.length_nil] at hlength
  have hpos := Nat.length_toDigits_pos (b := 10) (n := n)
  omega

theorem isDigits_padded (width n : Nat) : IsDigits (Text.padded width n) := by
  obtain ⟨hne, hdigits⟩ := isDigits_decimal n
  refine ⟨fun hnil => hne (List.append_eq_nil_iff.1 hnil).2, ?_⟩
  exact List.forall_mem_append.2 ⟨fun c hc => isAsciiDigit_of_mem_zeros hc, hdigits⟩

namespace Binary64

variable {x : Binary64} {m : Nat}

/-! ### The shortest decimal -/

theorem digits_shortestFrom_ne_zero (hm : m ≠ 0) (e place : Int) (count fuel : Nat) :
    (shortestFrom m e place count fuel).digits ≠ 0 := by
  induction fuel generalizing count with
  | zero => exact hm
  | succ fuel ih =>
    unfold shortestFrom
    dsimp only
    split
    · next c hhit =>
      -- what is found reads back, so that it is no zero
      have hfound := List.find?_some hhit
      rw [Bool.and_eq_true, bne_iff_ne] at hfound
      split
      · exact Nat.one_ne_zero
      · exact hfound.1
    · exact ih (count + 1)

theorem digits_shortest_ne_zero (hm : m ≠ 0) (e : Int) : (shortest m e).digits ≠ 0 :=
  digits_shortestFrom_ne_zero hm e _ 1 17

/-! ### Forms -/

/-- A whole part from digits that do not begin with a zero. -/
theorem isWhole_of_head {c : CodePoint} {ds : Text} (hzero : c ≠ '0')
    (hdigits : ∀ d ∈ c :: ds, d.isAsciiDigit = true) : IsWhole (c :: ds) := by
  obtain ⟨hc, hds⟩ := List.forall_mem_cons.1 hdigits
  exact .digits hc hzero hds

/-- The sign and the digits of an exponent. -/
theorem exponentWritten_scientific (exponent : Int) :
    ExponentWritten
      ("e" ++ ((if exponent < 0 then "-" else "+" : Text) ++ Text.padded 2 exponent.natAbs))
      (some (decide (exponent < 0), Text.padded 2 exponent.natAbs)) := by
  have hdigits := isDigits_padded 2 exponent.natAbs
  by_cases hnegative : exponent < 0
  · rw [if_pos hnegative, decide_eq_true hnegative]
    exact .minus (.inl rfl) hdigits
  · rw [if_neg hnegative, decide_eq_false hnegative]
    exact .plus (.inl rfl) hdigits

/-- A number without a sign that has a fraction or an exponent. -/
inductive IsReal : Text → Prop
  | fraction {whole ds : Text} (hw : IsWhole whole) (h : IsDigits ds) :
      IsReal (whole ++ CodePoint.ofChar '.' :: ds)
  | scientific {whole f e : Text} {fraction : Option Text} {exponent : Bool × Text}
      (hw : IsWhole whole) (hf : FractionWritten f fraction)
      (he : ExponentWritten e (some exponent)) : IsReal (whole ++ (f ++ e))

/-- With its sign, such a number is in the grammar, and it is no integer. -/
theorem IsReal.written {t : Text} (h : IsReal t) (negative : Bool) :
    ∃ n : Json.Numeral, n.Written ((if negative then "-" else [] : Text) ++ t) ∧
      n.isInteger = false := by
  cases h with
  | fraction hw h =>
    cases negative with
    | false =>
      have hwritten := Written.positive hw (.some h) .none
      rw [List.append_nil] at hwritten
      exact ⟨_, hwritten, rfl⟩
    | true =>
      have hwritten := Written.negative hw (.some h) .none
      rw [List.append_nil] at hwritten
      exact ⟨_, hwritten, rfl⟩
  | @scientific whole f e fraction exponent hw hf he =>
    have hinteger (negative : Bool) :
        (⟨negative, whole, fraction, some exponent⟩ : Json.Numeral).isInteger = false := by
      cases fraction <;> rfl
    cases negative with
    | false =>
      have hwritten := Written.positive hw hf he
      rw [List.append_assoc] at hwritten
      exact ⟨_, hwritten, hinteger false⟩
    | true =>
      have hwritten := Written.negative hw hf he
      rw [List.append_assoc] at hwritten
      exact ⟨_, hwritten, hinteger true⟩

/-- **Digits that do not begin with a zero make a number** with a fraction or an exponent, wherever
the point is. -/
theorem isReal_layOut {c : CodePoint} {ds : Text} (hzero : c ≠ '0')
    (hdigits : ∀ d ∈ c :: ds, d.isAsciiDigit = true) (place : Int) :
    IsReal (layOut (c :: ds) place) := by
  unfold layOut
  dsimp only
  split
  · split
    · -- all digits stand behind the point
      have hds : IsDigits (List.replicate (-place).toNat (CodePoint.ofChar '0') ++ c :: ds) :=
        ⟨fun hnil => List.cons_ne_nil c ds (List.append_eq_nil_iff.1 hnil).2,
          List.forall_mem_append.2 ⟨fun c hc => isAsciiDigit_of_mem_zeros hc, hdigits⟩⟩
      exact .fraction .zero hds
    split
    · -- the digits and the zeros behind them are a whole number
      have hwhole : IsWhole
          (c :: (ds ++ List.replicate (place - (c :: ds).length).toNat (CodePoint.ofChar '0'))) :=
        isWhole_of_head hzero
          (List.forall_mem_append.2 ⟨hdigits, fun c hc => isAsciiDigit_of_mem_zeros hc⟩)
      have hds : IsDigits "0" := ⟨List.cons_ne_nil _ _, by decide⟩
      exact .fraction hwhole hds
    · -- the point stands between two digits
      obtain ⟨k, hk⟩ : ∃ k : Nat, place.toNat = k + 1 := ⟨place.toNat - 1, by omega⟩
      have hlong : k + 1 < (c :: ds).length := by omega
      have hwhole : IsWhole (c :: ds.take k) :=
        isWhole_of_head hzero fun d hd => hdigits d (List.mem_of_mem_take (i := k + 1) hd)
      have hds : IsDigits ((c :: ds).drop (k + 1)) :=
        ⟨fun hnil => absurd (List.drop_eq_nil_iff.1 hnil) (Nat.not_le.2 hlong),
          fun d hd => hdigits d (List.mem_of_mem_drop hd)⟩
      rw [hk, List.append_assoc]
      exact .fraction hwhole hds
  · have hfirst : IsWhole [c] := isWhole_of_head hzero
      (List.forall_mem_singleton.2 (hdigits c List.mem_cons_self))
    have hexponent := exponentWritten_scientific (place - 1)
    cases ds with
    | nil =>
      simp only [List.append_assoc]
      exact IsReal.scientific hfirst .none hexponent
    | cons d ds =>
      have hrest : IsDigits (d :: ds) :=
        ⟨List.cons_ne_nil _ _, (List.forall_mem_cons.1 hdigits).2⟩
      have hcount : (((c :: d :: ds).length : Nat) : Int) ≠ 1 := by
        simp only [List.length_cons]
        omega
      have hreal := IsReal.scientific hfirst (.some hrest) hexponent
      rw [if_neg hcount]
      simp only [List.append_assoc]
      exact hreal

/-- **A finite number is written** with a fraction or an exponent. -/
theorem written_toText (hx : x.isFinite = true) :
    ∃ n : Json.Numeral, n.Written x.toText ∧ n.isInteger = false := by
  cases x with
  | infinite negative => cases hx
  | nan => cases hx
  | finite negative m e =>
    unfold toText
    dsimp only
    split
    · have hds : IsDigits "0" := ⟨List.cons_ne_nil _ _, by decide⟩
      exact (IsReal.fraction .zero hds).written negative
    · next hm =>
      obtain ⟨c, ds, hdecimal, hzero⟩ := Json.decimal_head (digits_shortest_ne_zero hm e)
      have hdigits : ∀ d ∈ c :: ds, d.isAsciiDigit = true := fun d hd =>
        Json.isAsciiDigit_of_mem_decimal (hdecimal ▸ hd)
      rw [hdecimal]
      exact (isReal_layOut hzero hdigits _).written negative

end Binary64

/-! ### What is visible -/

namespace Json

variable {t : Text}

theorem Numeral.IsDigits.isVisible (h : Numeral.IsDigits t) : ∀ c ∈ t, isVisible c = true :=
  fun c hc => isVisible_of_isAsciiDigit (h.2 c hc)

theorem Numeral.IsWhole.isVisible (h : Numeral.IsWhole t) : ∀ c ∈ t, isVisible c = true := by
  cases h with
  | zero => exact of_decide_eq_true rfl
  | digits hc _ hds =>
    exact List.forall_mem_cons.2 ⟨isVisible_of_isAsciiDigit hc,
      fun d hd => isVisible_of_isAsciiDigit (hds d hd)⟩

theorem Numeral.FractionWritten.isVisible {fraction : Option Text}
    (h : Numeral.FractionWritten t fraction) : ∀ c ∈ t, isVisible c = true := by
  cases h with
  | none => exact List.forall_mem_nil _
  | some h => exact List.forall_mem_cons.2 ⟨rfl, h.isVisible⟩

theorem Numeral.ExponentWritten.isVisible {exponent : Option (Bool × Text)}
    (h : Numeral.ExponentWritten t exponent) : ∀ c ∈ t, isVisible c = true := by
  have hletter : ∀ c, Numeral.IsExponentLetter c → Json.isVisible c = true := by
    rintro c (rfl | rfl) <;> rfl
  cases h with
  | none => exact List.forall_mem_nil _
  | unsigned hc h => exact List.forall_mem_cons.2 ⟨hletter _ hc, h.isVisible⟩
  | plus hc h =>
    exact List.forall_mem_cons.2 ⟨hletter _ hc, List.forall_mem_cons.2 ⟨rfl, h.isVisible⟩⟩
  | minus hc h =>
    exact List.forall_mem_cons.2 ⟨hletter _ hc, List.forall_mem_cons.2 ⟨rfl, h.isVisible⟩⟩

/-- A number of the grammar is visible ASCII. -/
theorem Numeral.Written.isVisible {n : Numeral} (h : n.Written t) :
    ∀ c ∈ t, isVisible c = true := by
  cases h with
  | positive hw hf he =>
    exact List.forall_mem_append.2
      ⟨List.forall_mem_append.2 ⟨hw.isVisible, hf.isVisible⟩, he.isVisible⟩
  | negative hw hf he =>
    exact List.forall_mem_cons.2 ⟨rfl, List.forall_mem_append.2
      ⟨List.forall_mem_append.2 ⟨hw.isVisible, hf.isVisible⟩, he.isVisible⟩⟩

theorem isVisible_encodeFloat (x : Binary64) : ∀ c ∈ encodeFloat x, isVisible c = true := by
  cases x with
  | nan => exact of_decide_eq_true rfl
  | infinite negative => cases negative <;> exact of_decide_eq_true rfl
  | finite negative m e =>
    obtain ⟨n, hn, -⟩ := Binary64.written_toText (x := .finite negative m e) rfl
    exact hn.isVisible

end Json

end DesiredState
