import DesiredState.Text.Utf8

/-!
# Texts without surrogates

Only an escape can bring a surrogate into a text: the characters of core are none, and neither are
digits. What is put together from texts without surrogates has none.

* `Text.noSurrogates_ofString`: a core string has no surrogates.
* `Text.noSurrogates_append`, `Text.NoSurrogates.of_subset`: texts put together and taken apart.
-/

namespace DesiredState

/-- The characters of core are no surrogates. -/
@[simp] theorem CodePoint.isSurrogate_ofChar (c : Char) : (ofChar c).isSurrogate = false := by
  have h := c.valid
  simp only [UInt32.isValidChar, Nat.isValidChar] at h
  have hval : (ofChar c).val = c.val.toNat := rfl
  simp only [isSurrogate, Bool.and_eq_false_iff, decide_eq_false_iff_not]
  omega

namespace Text

variable {t t' : Text}

/-! ### Texts put together -/

@[simp] theorem noSurrogates_nil : NoSurrogates [] := List.forall_mem_nil _

@[simp] theorem noSurrogates_cons {c : CodePoint} :
    NoSurrogates (c :: t) ↔ c.isSurrogate = false ∧ t.NoSurrogates := List.forall_mem_cons

@[simp] theorem noSurrogates_append :
    NoSurrogates (t ++ t') ↔ t.NoSurrogates ∧ t'.NoSurrogates := List.forall_mem_append

theorem NoSurrogates.of_subset (h : t'.NoSurrogates) (hsub : t ⊆ t') : t.NoSurrogates :=
  fun c hc => h c (hsub hc)

theorem NoSurrogates.take (h : t.NoSurrogates) (n : Nat) : NoSurrogates (t.take n) :=
  h.of_subset (List.take_subset n t)

@[simp] theorem noSurrogates_replicate (n : Nat) (c : Char) :
    NoSurrogates (List.replicate n (CodePoint.ofChar c)) := by
  intro d hd
  rw [(List.mem_replicate.1 hd).2]
  exact CodePoint.isSurrogate_ofChar c

theorem noSurrogates_getD {ts : List Text} (h : ∀ t ∈ ts, t.NoSurrogates) (n : Nat) :
    (ts.getD n []).NoSurrogates := by
  rw [List.getD_eq_getElem?_getD]
  cases hn : ts[n]? with
  | none => exact noSurrogates_nil
  | some t => exact h t (List.mem_of_getElem? hn)

/-! ### Characters of core -/

theorem noSurrogates_map_ofChar (cs : List Char) : NoSurrogates (cs.map CodePoint.ofChar) := by
  intro c hc
  obtain ⟨d, -, rfl⟩ := List.mem_map.1 hc
  exact CodePoint.isSurrogate_ofChar d

@[simp] theorem noSurrogates_ofString (s : String) : NoSurrogates (ofString s) :=
  noSurrogates_map_ofChar s.toList

@[simp] theorem noSurrogates_decimal (n : Nat) : (decimal n).NoSurrogates :=
  noSurrogates_map_ofChar _

@[simp] theorem noSurrogates_padded (width n : Nat) : (padded width n).NoSurrogates := by
  simp [padded]

@[simp] theorem noSurrogates_ofInt (n : Int) : (ofInt n).NoSurrogates := by
  cases n <;> simp [ofInt]

/-! ### Letters of the other case -/

/-- Letters that are moved within ASCII are no surrogates. -/
theorem NoSurrogates.map_ascii (h : t.NoSurrogates) {p : CodePoint → Bool} {f : CodePoint → Nat}
    (hf : ∀ c, p c = true → f c < 0x80) :
    NoSurrogates (t.map fun c => if p c then CodePoint.ofNat (f c) else c) := by
  intro c hc
  obtain ⟨d, hd, rfl⟩ := List.mem_map.1 hc
  split
  · next hp =>
    have hlt := hf d hp
    simp only [CodePoint.isSurrogate, Bool.and_eq_false_iff, decide_eq_false_iff_not]
    rw [CodePoint.val_ofNat (by omega)]
    omega
  · exact h d hd

theorem NoSurrogates.asciiUpper (h : t.NoSurrogates) : t.asciiUpper.NoSurrogates :=
  h.map_ascii fun c hc => by
    simp only [Bool.and_eq_true, decide_eq_true_eq] at hc
    omega

theorem NoSurrogates.asciiLower (h : t.NoSurrogates) : t.asciiLower.NoSurrogates :=
  h.map_ascii fun c hc => by
    simp only [Bool.and_eq_true, decide_eq_true_eq] at hc
    omega

end Text

end DesiredState
