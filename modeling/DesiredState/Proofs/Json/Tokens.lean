import DesiredState.Json.Encode
import DesiredState.Proofs.Json.Reading
import Mathlib.Algebra.Group.Nat.Defs
import Mathlib.Data.List.Chain

/-!
# Writing strings and whole numbers

How the encoder writes the two kinds of token with an inner form, and that the grammar reads the
same out of them. A code point beyond sixteen bits takes two escapes, which are joined when they are
read; so two surrogates that stand next to each other in a text do not survive.

* `Text.IsUnpaired`: no surrogates of a text would be joined.
* `Json.written_encodeString`: **a string is written** if its text is unpaired.
* `Json.encodeString_joined`: any other text is written like one that is.
* `Json.written_ofInt`: **a whole number is written** if it has few enough digits.
* `Json.isVisible_encodeString`, `Json.isVisible_ofInt`: both are visible ASCII.
-/

namespace DesiredState

/-- No high surrogate stands right before a low one. -/
def Text.IsUnpaired (t : Text) : Prop :=
  List.IsChain (fun h l => (h.isHighSurrogate && l.isLowSurrogate) = false) t

instance (t : Text) : Decidable t.IsUnpaired :=
  inferInstanceAs (Decidable (List.IsChain _ _))

theorem CodePoint.isHighSurrogate_eq_false {c : CodePoint} (h : c.isSurrogate = false) :
    c.isHighSurrogate = false := by
  simp only [CodePoint.isSurrogate, Bool.and_eq_false_iff, decide_eq_false_iff_not] at h
  simp only [CodePoint.isHighSurrogate, Bool.and_eq_false_iff, decide_eq_false_iff_not]
  omega

theorem CodePoint.isLowSurrogate_eq_false {c : CodePoint} (h : c.isSurrogate = false) :
    c.isLowSurrogate = false := by
  simp only [CodePoint.isSurrogate, Bool.and_eq_false_iff, decide_eq_false_iff_not] at h
  simp only [CodePoint.isLowSurrogate, Bool.and_eq_false_iff, decide_eq_false_iff_not]
  omega

theorem Text.isUnpaired_of_noSurrogates {t : Text} (h : t.NoSurrogates) : t.IsUnpaired := by
  induction t with
  | nil => exact List.isChain_nil
  | cons c t ih =>
    obtain ⟨hc, ht⟩ := List.forall_mem_cons.1 h
    refine List.isChain_cons.2 ⟨fun d _ => ?_, ih ht⟩
    rw [CodePoint.isHighSurrogate_eq_false hc, Bool.false_and]

/-! ### Digits -/

/-- A digit in hexadecimal. -/
def CodePoint.hexDigit (d : Nat) : CodePoint := CodePoint.ofChar d.digitChar

theorem CodePoint.hexVal?_hexDigit {d : Nat} (h : d < 16) : (hexDigit d).hexVal? = some d := by
  revert d
  decide

/-- Digits in base sixteen, of which the last stands alone. -/
theorem Text.hex_succ {width n : Nat} (hw : width ≠ 0) :
    Text.hex (width + 1) n = Text.hex width (n / 16) ++ [CodePoint.hexDigit (n % 16)] := by
  obtain ⟨w, rfl⟩ := Nat.exists_eq_succ_of_ne_zero hw
  unfold Text.hex
  by_cases hn : n < 16
  · rw [Nat.toDigits_of_lt_base hn, Nat.div_eq_of_lt hn, Nat.toDigits_zero, Nat.mod_eq_of_lt hn]
    simp only [List.map_cons, List.map_nil, List.length_cons, List.length_nil, Nat.zero_add,
      Nat.add_sub_cancel, Nat.succ_eq_add_one]
    rw [List.replicate_succ']
    rfl
  · rw [Nat.toDigits_of_base_le (by decide) (Nat.le_of_not_lt hn)]
    simp only [List.map_append, List.map_cons, List.map_nil, List.length_append, List.length_cons,
      List.length_nil, Nat.zero_add, Nat.add_sub_add_right, List.append_assoc]
    rfl

theorem Text.hex_four (n : Nat) :
    Text.hex 4 n = Text.hex 1 (n / 16 / 16 / 16) ++
      [CodePoint.hexDigit (n / 16 / 16 % 16), CodePoint.hexDigit (n / 16 % 16),
        CodePoint.hexDigit (n % 16)] := by
  rw [Text.hex_succ (by decide), Text.hex_succ (by decide), Text.hex_succ (by decide)]
  simp only [List.append_assoc, List.cons_append, List.nil_append]

/-- Four digits in base sixteen are read as the number that they were written for. -/
theorem Json.hex_eq {n : Nat} (h : n < 0x10000) :
    ∃ a b c d, Text.hex 4 n = [a, b, c, d] ∧ hex4? a b c d = some n := by
  have htop : n / 16 / 16 / 16 < 16 := by omega
  have hone : Text.hex 1 (n / 16 / 16 / 16) = [CodePoint.hexDigit (n / 16 / 16 / 16)] := by
    unfold Text.hex
    rw [Nat.toDigits_of_lt_base htop]
    rfl
  refine ⟨_, _, _, _, by rw [Text.hex_four, hone]; rfl, ?_⟩
  unfold hex4?
  simp only [CodePoint.hexVal?_hexDigit htop,
    CodePoint.hexVal?_hexDigit (Nat.mod_lt _ (by decide : 16 > 0)), Option.pure_def,
    Option.bind_eq_bind, Option.bind_some, Option.some.injEq]
  omega

namespace Json

/-! ### Strings -/

/-- The code points with an escape of one letter or none. -/
def isPlain (c : CodePoint) : Bool :=
  c = quote || c = backslash || c.val = 0x0A || c.val = 0x0D || c.val = 0x09 || c.val = 0x0C ||
    c.val = 0x08 || (0x20 ≤ c.val && c.val ≤ 0x7E)

/-- The first and the second half of a code point that takes a surrogate pair. -/
def highHalf (c : CodePoint) : CodePoint := CodePoint.ofNat (0xD800 + (c.val - 0x10000) / 0x400)
def lowHalf (c : CodePoint) : CodePoint := CodePoint.ofNat (0xDC00 + (c.val - 0x10000) % 0x400)

/-- The units in which a code point is written. -/
def unitsOf (c : CodePoint) : List StringUnit :=
  if isPlain c then [.literal c]
  else if c.val < 0x10000 then [.escaped c]
  else [.escaped (highHalf c), .escaped (lowHalf c)]

theorem written_unicodeEscape {n : Nat} (h : n < 0x10000) :
    (StringUnit.escaped (CodePoint.ofNat n)).Written (unicodeEscape n) := by
  obtain ⟨a, b, c, d, hhex, hvalue⟩ := hex_eq h
  unfold unicodeEscape
  rw [hhex]
  exact .unicode hvalue

theorem unitsWritten_one {t : Text} {u : StringUnit} (h : u.Written t) : UnitsWritten t [u] := by
  have hcons := UnitsWritten.cons h .nil
  rwa [List.append_nil] at hcons

theorem unitsWritten_append {t ts : Text} {us vs : List StringUnit} (h : UnitsWritten t us)
    (hs : UnitsWritten ts vs) : UnitsWritten (t ++ ts) (us ++ vs) := by
  induction h with
  | nil => exact hs
  | cons hu _ ih =>
    rw [List.append_assoc]
    exact .cons hu ih

/-- Any other code point takes one escape or two. -/
theorem encodePoint_of_not_isPlain {c : CodePoint} (h : isPlain c = false) :
    encodePoint c =
      if c.val < 0x10000 then unicodeEscape c.val
      else unicodeEscape (0xD800 + (c.val - 0x10000) / 0x400) ++
        unicodeEscape (0xDC00 + (c.val - 0x10000) % 0x400) := by
  rw [← Bool.not_eq_true] at h
  simp only [isPlain, Bool.or_eq_true, decide_eq_true_eq, Bool.and_eq_true, not_or] at h
  obtain ⟨⟨⟨⟨⟨⟨⟨h₁, h₂⟩, h₃⟩, h₄⟩, h₅⟩, h₆⟩, h₇⟩, h₈⟩ := h
  unfold encodePoint
  rw [if_neg (not_or.2 ⟨h₁, h₂⟩), if_neg h₃, if_neg h₄, if_neg h₅, if_neg h₆, if_neg h₇,
    if_neg h₈]

/-- The form of a code point is that of its units. -/
theorem unitsWritten_encodePoint (c : CodePoint) : UnitsWritten (encodePoint c) (unitsOf c) := by
  have hvalue : ∀ {n}, c.val = n → ∀ h, c = ⟨n, h⟩ := by
    rintro _ rfl _
    rfl
  by_cases hplain : isPlain c = true
  · rw [unitsOf, if_pos hplain]
    refine unitsWritten_one ?_
    simp only [isPlain, Bool.or_eq_true, decide_eq_true_eq, Bool.and_eq_true] at hplain
    -- the encoder asks for the same code points one after the other
    unfold encodePoint
    split
    · next h => exact .short (if_pos (h.imp_right .inl))
    next hspecial =>
    obtain ⟨hquote, hbackslash⟩ := not_or.1 hspecial
    split
    · next h => rw [hvalue h (by decide)]; exact .short (rfl : shortEscape? 'n' = _)
    split
    · next h => rw [hvalue h (by decide)]; exact .short (rfl : shortEscape? 'r' = _)
    split
    · next h => rw [hvalue h (by decide)]; exact .short (rfl : shortEscape? 't' = _)
    split
    · next h => rw [hvalue h (by decide)]; exact .short (rfl : shortEscape? 'f' = _)
    split
    · next h => rw [hvalue h (by decide)]; exact .short (rfl : shortEscape? 'b' = _)
    split
    · next h => exact .literal hquote hbackslash h.1
    · simp_all
  · rw [unitsOf, if_neg hplain, encodePoint_of_not_isPlain (by simpa using hplain)]
    by_cases hc : c.val < 0x10000
    · rw [if_pos hc, if_pos hc]
      have hone := written_unicodeEscape hc
      rw [CodePoint.ofNat_val] at hone
      exact unitsWritten_one hone
    · rw [if_neg hc, if_neg hc]
      have hlt := c.isLt
      exact unitsWritten_append (unitsWritten_one (written_unicodeEscape (by omega)))
        (unitsWritten_one (written_unicodeEscape (by omega)))

theorem unitsWritten_encodePoints (s : Text) :
    UnitsWritten (s.flatMap encodePoint) (s.flatMap unitsOf) := by
  induction s with
  | nil => exact .nil
  | cons c s ih => exact unitsWritten_append (unitsWritten_encodePoint c) ih

/-- An escape that forms no pair with the next unit stands for itself. -/
theorem joinUnits_escaped {h : CodePoint} {us : List StringUnit}
    (hpair : ∀ l, .escaped l ∈ us.head? → (h.isHighSurrogate && l.isLowSurrogate) = false) :
    joinUnits (.escaped h :: us) = h :: joinUnits us := by
  cases us with
  | nil => rfl
  | cons u us =>
    cases u with
    | literal c => rfl
    | escaped l =>
      have hl := hpair l rfl
      rw [joinUnits, hl]
      rfl

theorem joinUnits_pair {h l : CodePoint} (hh : h.isHighSurrogate = true)
    (hl : l.isLowSurrogate = true) (us : List StringUnit) :
    joinUnits (.escaped h :: .escaped l :: us) = joinPair h l :: joinUnits us := by
  rw [joinUnits, hh, hl]
  rfl

/-- The halves of a code point are a pair that stands for it. -/
theorem joinPair_halves {c : CodePoint} (h : ¬ c.val < 0x10000) :
    (highHalf c).isHighSurrogate = true ∧ (lowHalf c).isLowSurrogate = true ∧
      joinPair (highHalf c) (lowHalf c) = c := by
  have hlt := c.isLt
  have hhigh : (highHalf c).val = 0xD800 + (c.val - 0x10000) / 0x400 :=
    CodePoint.val_ofNat (by omega)
  have hlow : (lowHalf c).val = 0xDC00 + (c.val - 0x10000) % 0x400 :=
    CodePoint.val_ofNat (by omega)
  refine ⟨?_, ?_, ?_⟩
  · simp only [CodePoint.isHighSurrogate, hhigh, Bool.and_eq_true, decide_eq_true_eq]
    omega
  · simp only [CodePoint.isLowSurrogate, hlow, Bool.and_eq_true, decide_eq_true_eq]
    omega
  · unfold joinPair
    rw [hhigh, hlow]
    have hsum : 0x10000 + (0xD800 + (c.val - 0x10000) / 0x400 - 0xD800) * 0x400 +
        (0xDC00 + (c.val - 0x10000) % 0x400 - 0xDC00) = c.val := by omega
    rw [hsum, CodePoint.ofNat_val]

theorem isLowSurrogate_eq_false {c : CodePoint} (h : c.isHighSurrogate = true) :
    c.isLowSurrogate = false := by
  simp only [CodePoint.isHighSurrogate, Bool.and_eq_true, decide_eq_true_eq] at h
  simp only [CodePoint.isLowSurrogate, Bool.and_eq_false_iff, decide_eq_false_iff_not]
  omega

/-- The first escape of a text is its first code point or the first half of it. -/
theorem escaped_of_head {d l : CodePoint} {s : Text}
    (h : .escaped l ∈ ((d :: s).flatMap unitsOf).head?) : l = d ∨ l.isHighSurrogate = true := by
  rw [List.flatMap_cons] at h
  unfold unitsOf at h
  split at h
  · cases h
  · split at h
    · cases h
      exact .inl rfl
    · next hlt =>
      cases h
      exact .inr (joinPair_halves hlt).1

/-- **The units of a text are the text again**, if it has no pair of surrogates. -/
theorem joinUnits_unitsOf {s : Text} (h : s.IsUnpaired) : joinUnits (s.flatMap unitsOf) = s := by
  induction s with
  | nil => rfl
  | cons c s ih =>
    obtain ⟨hc, hs⟩ := List.isChain_cons.1 h
    rw [List.flatMap_cons]
    have hrest := ih hs
    unfold unitsOf
    by_cases hplain : isPlain c = true
    · rw [if_pos hplain]
      exact congrArg (c :: ·) hrest
    rw [if_neg hplain]
    by_cases hlt : c.val < 0x10000
    · rw [if_pos hlt, List.singleton_append, joinUnits_escaped ?_]
      · exact congrArg (c :: ·) hrest
      · intro l hl
        cases s with
        | nil => cases hl
        | cons d s =>
          -- the next escape is the next code point, or the first half of one, which is high
          rcases escaped_of_head hl with rfl | hhigh
          · exact hc l rfl
          · rw [isLowSurrogate_eq_false hhigh, Bool.and_false]
    · rw [if_neg hlt]
      obtain ⟨hhigh, hlow, hjoin⟩ := joinPair_halves hlt
      refine (joinUnits_pair hhigh hlow _).trans ?_
      rw [hjoin]
      exact congrArg (c :: ·) hrest

theorem written_encodeString {s : Text} (h : s.IsUnpaired) : StringWritten (encodeString s) s := by
  have hwritten := StringWritten.mk (.mk (unitsWritten_encodePoints s))
  rwa [joinUnits_unitsOf h] at hwritten

/-! ### Pairs of surrogates -/

/-- The text with each pair of surrogates as the code point that it stands for. -/
def joined : Text → Text
  | h :: l :: t =>
    if h.isHighSurrogate && l.isLowSurrogate then joinPair h l :: joined t
    else h :: joined (l :: t)
  | t => t

/-- Beyond ASCII no code point has an escape of one letter or none. -/
theorem isPlain_eq_false {c : CodePoint} (h : 0x7E < c.val) : isPlain c = false := by
  have hne : ∀ n, n ≤ 0x7E → c ≠ CodePoint.ofNat n := by
    rintro n hn rfl
    rw [CodePoint.val_ofNat (by omega)] at h
    omega
  have hquote : c ≠ quote := hne 0x22 (by decide)
  have hbackslash : c ≠ backslash := hne 0x5C (by decide)
  simp only [isPlain, Bool.or_eq_false_iff, decide_eq_false_iff_not, Bool.and_eq_false_iff]
  exact ⟨⟨⟨⟨⟨⟨⟨hquote, hbackslash⟩, by omega⟩, by omega⟩, by omega⟩, by omega⟩, by omega⟩,
    .inr (by omega)⟩

/-- A pair of surrogates is written like the code point that it stands for, which is none. -/
theorem encodePoint_joinPair {h l : CodePoint}
    (hpair : (h.isHighSurrogate && l.isLowSurrogate) = true) :
    encodePoint (joinPair h l) = encodePoint h ++ encodePoint l ∧
      (joinPair h l).isSurrogate = false := by
  simp only [CodePoint.isHighSurrogate, CodePoint.isLowSurrogate, Bool.and_eq_true,
    decide_eq_true_eq] at hpair
  have hval : (joinPair h l).val =
      0x10000 + (h.val - 0xD800) * 0x400 + (l.val - 0xDC00) :=
    CodePoint.val_ofNat (by omega)
  have hhigh : 0xD800 + ((joinPair h l).val - 0x10000) / 0x400 = h.val := by omega
  have hlow : 0xDC00 + ((joinPair h l).val - 0x10000) % 0x400 = l.val := by omega
  constructor
  · rw [encodePoint_of_not_isPlain (isPlain_eq_false (by omega)), if_neg (by omega), hhigh, hlow,
      encodePoint_of_not_isPlain (isPlain_eq_false (by omega)), if_pos (by omega),
      encodePoint_of_not_isPlain (isPlain_eq_false (by omega)), if_pos (by omega)]
  · simp only [CodePoint.isSurrogate, Bool.and_eq_false_iff, decide_eq_false_iff_not]
    omega

theorem encodePoints_joined (s : Text) :
    (joined s).flatMap encodePoint = s.flatMap encodePoint := by
  fun_induction joined s with
  | case1 h l t hpair ih =>
    rw [List.flatMap_cons, List.flatMap_cons, List.flatMap_cons, ih, (encodePoint_joinPair hpair).1,
      List.append_assoc]
  | case2 h l t _ ih => rw [List.flatMap_cons, List.flatMap_cons, ih]
  | case3 t _ => rfl

/-- **A text is written like its joined text.** -/
theorem encodeString_joined (s : Text) : encodeString (joined s) = encodeString s := by
  unfold encodeString
  rw [encodePoints_joined]

/-- A joined text begins like the text, or with a code point that is no surrogate. -/
theorem head_joined {c d : CodePoint} {t : Text} (hd : d ∈ (joined (c :: t)).head?) :
    d = c ∨ d.isSurrogate = false := by
  cases t with
  | nil => exact .inl (Option.some.inj hd).symm
  | cons l t =>
    unfold joined at hd
    split at hd
    · next hpair =>
      have hd : joinPair c l = d := Option.some.inj hd
      exact .inr (hd ▸ (encodePoint_joinPair hpair).2)
    · exact .inl (Option.some.inj hd).symm

/-- **A joined text has no pairs of surrogates.** -/
theorem isUnpaired_joined (s : Text) : (joined s).IsUnpaired := by
  fun_induction joined s with
  | case1 h l t hpair ih =>
    refine List.isChain_cons.2 ⟨fun d _ => ?_, ih⟩
    rw [CodePoint.isHighSurrogate_eq_false (encodePoint_joinPair hpair).2, Bool.false_and]
  | case2 h l t hpair ih =>
    refine List.isChain_cons.2 ⟨fun d hd => ?_, ih⟩
    rcases head_joined hd with rfl | hd
    · simpa using hpair
    · rw [CodePoint.isLowSurrogate_eq_false hd, Bool.and_false]
  | case3 t hshort =>
    cases t with
    | nil => exact List.isChain_nil
    | cons c t =>
      cases t with
      | nil => exact List.isChain_singleton c
      | cons d t => exact absurd rfl (hshort c d t)

/-- A text without pairs of surrogates has nothing to join. -/
theorem joined_eq {s : Text} (h : s.IsUnpaired) : joined s = s := by
  fun_induction joined s with
  | case1 a b t hpair ih => simp [(List.isChain_cons_cons.1 h).1] at hpair
  | case2 a b t hpair ih => rw [ih (List.isChain_cons_cons.1 h).2]
  | case3 t _ => rfl

/-- **A text is written**, as the text in which its pairs of surrogates are joined. -/
theorem written_encodeString_joined (s : Text) : StringWritten (encodeString s) (joined s) := by
  have hwritten := written_encodeString (isUnpaired_joined s)
  rwa [encodeString_joined] at hwritten

/-! ### Whole numbers -/

theorem isAsciiDigit_of_mem_decimal {n : Nat} {c : CodePoint} (h : c ∈ Text.decimal n) :
    c.isAsciiDigit = true := by
  obtain ⟨d, hd, rfl⟩ := List.mem_map.1 h
  rw [CodePoint.isAsciiDigit_ofChar]
  exact Nat.isDigit_of_mem_toDigits (by decide) (by decide) hd

/-- Digits are those of the number without its last digit, and the last digit. -/
theorem decimal_of_ten_le {n : Nat} (h : 10 ≤ n) :
    Text.decimal n = Text.decimal (n / 10) ++ [CodePoint.ofChar (n % 10).digitChar] := by
  unfold Text.decimal
  rw [Nat.toDigits_of_base_le (by decide) h, List.map_append]
  rfl

theorem decimal_of_lt_ten {n : Nat} (h : n < 10) :
    Text.decimal n = [CodePoint.ofChar n.digitChar] := by
  unfold Text.decimal
  rw [Nat.toDigits_of_lt_base h]
  rfl

theorem digitVal_digitChar {d : Nat} (h : d < 10) :
    (CodePoint.ofChar d.digitChar).digitVal = d := by
  revert d
  decide

theorem digitsVal_decimal (n : Nat) : Text.digitsVal (Text.decimal n) = n := by
  induction n using Nat.strongRecOn with
  | ind n ih =>
    by_cases hn : n < 10
    · rw [decimal_of_lt_ten hn]
      simp [Text.digitsVal, digitVal_digitChar hn]
    · have hlast : n % 10 < 10 := Nat.mod_lt n (by decide)
      have hrest := ih (n / 10) (by omega)
      rw [decimal_of_ten_le (Nat.le_of_not_lt hn)]
      unfold Text.digitsVal at hrest ⊢
      rw [List.foldl_append, hrest]
      simp only [List.foldl_cons, List.foldl_nil, digitVal_digitChar hlast]
      omega

theorem digitChar_ne_zero {d : Nat} (h : d < 10) (hd : d ≠ 0) :
    CodePoint.ofChar d.digitChar ≠ '0' := by
  revert d
  decide

/-- The digits of a number that is not zero do not begin with a zero. -/
theorem decimal_head {n : Nat} (h : n ≠ 0) :
    ∃ c ds, Text.decimal n = c :: ds ∧ c ≠ '0' := by
  induction n using Nat.strongRecOn with
  | ind n ih =>
    by_cases hn : n < 10
    · refine ⟨_, _, decimal_of_lt_ten hn, ?_⟩
      exact digitChar_ne_zero hn h
    · obtain ⟨c, ds, hds, hc⟩ := ih (n / 10) (by omega) (by omega)
      rw [decimal_of_ten_le (Nat.le_of_not_lt hn), hds]
      exact ⟨c, _, rfl, hc⟩

theorem isWhole_decimal (n : Nat) : Numeral.IsWhole (Text.decimal n) := by
  by_cases h : n = 0
  · subst h
    exact .zero
  · obtain ⟨c, ds, hds, hc⟩ := decimal_head h
    have hdigits : ∀ d ∈ c :: ds, d.isAsciiDigit = true := fun d hd =>
      isAsciiDigit_of_mem_decimal (hds ▸ hd)
    obtain ⟨hfirst, hrest⟩ := List.forall_mem_cons.1 hdigits
    rw [hds]
    exact .digits hfirst hc hrest

theorem length_decimal {n : Nat} {k : Nat} (hk : 0 < k) :
    (Text.decimal n).length ≤ k ↔ n < 10 ^ k := by
  unfold Text.decimal
  rw [List.length_map, Nat.length_toDigits_le_iff (by decide) hk]

/-- A whole number that can be written is written as a number with this value. -/
theorem written_ofInt {n : Int} (h : DesiredState.Numeral.isWritable n = true) :
    ∃ k : Numeral, k.Written (Text.ofInt n) ∧ k.value = .ok (.int n) := by
  have hlength : ∀ m : Nat, n.natAbs = m →
      ¬ DesiredState.Numeral.maxDigits < (Text.decimal m).length := by
    rintro _ rfl
    unfold DesiredState.Numeral.isWritable at h
    have hpos : 0 < DesiredState.Numeral.maxDigits := by decide
    -- the power of ten is not to be computed
    generalize DesiredState.Numeral.maxDigits = limit at h hpos ⊢
    exact Nat.not_lt.2 ((length_decimal hpos).2 (of_decide_eq_true h))
  cases n with
  | ofNat m =>
    refine ⟨⟨false, Text.decimal m, none, none⟩, ?_, ?_⟩
    · have hwritten := Numeral.Written.positive (isWhole_decimal m) .none .none
      rwa [List.append_nil, List.append_nil] at hwritten
    · refine Numeral.value_eq_ok_iff.2 ⟨fun _ => Nat.le_of_not_lt (hlength m rfl), ?_⟩
      simp [Numeral.meaning, Numeral.isInteger, digitsVal_decimal]
  | negSucc m =>
    refine ⟨⟨true, Text.decimal (m + 1), none, none⟩, ?_, ?_⟩
    · have hwritten := Numeral.Written.negative (isWhole_decimal (m + 1)) .none .none
      rwa [List.append_nil, List.append_nil] at hwritten
    · refine Numeral.value_eq_ok_iff.2 ⟨fun _ => Nat.le_of_not_lt (hlength (m + 1) rfl), ?_⟩
      simp only [Numeral.meaning, Numeral.isInteger, digitsVal_decimal]
      rfl

/-! ### What a written text is made of -/

/-- Visible in ASCII, or the space. -/
def isVisible (c : CodePoint) : Bool := 0x20 ≤ c.val && c.val ≤ 0x7E

theorem isVisible_of_hexVal? {c : CodePoint} {d : Nat} (h : c.hexVal? = some d) :
    isVisible c = true := by
  unfold CodePoint.hexVal? at h
  simp only [isVisible, Bool.and_eq_true, decide_eq_true_eq]
  simp only [Bool.and_eq_true, decide_eq_true_eq] at h
  split at h
  · omega
  · split at h
    · omega
    · split at h
      · omega
      · cases h

theorem isVisible_unicodeEscape {n : Nat} (h : n < 0x10000) :
    ∀ c ∈ unicodeEscape n, isVisible c = true := by
  obtain ⟨a, b, c, d, hhex, hvalue⟩ := hex_eq h
  unfold hex4? at hvalue
  simp only [Option.bind_eq_bind, Option.bind_eq_some_iff] at hvalue
  obtain ⟨_, ha, _, hb, _, hc, _, hd, -⟩ := hvalue
  unfold unicodeEscape
  rw [hhex]
  simp only [List.forall_mem_append, List.forall_mem_cons]
  exact ⟨by decide, isVisible_of_hexVal? ha, isVisible_of_hexVal? hb, isVisible_of_hexVal? hc,
    isVisible_of_hexVal? hd, List.forall_mem_nil _⟩

theorem isVisible_encodePoint (c : CodePoint) : ∀ d ∈ encodePoint c, isVisible d = true := by
  have hlt := c.isLt
  unfold encodePoint
  split
  · next h => rcases h with rfl | rfl <;> decide
  iterate 5 split; · decide
  split
  · next h =>
    rw [List.forall_mem_singleton]
    exact Bool.and_eq_true_iff.2 ⟨decide_eq_true h.1, decide_eq_true h.2⟩
  split
  · next h => exact isVisible_unicodeEscape h
  · exact List.forall_mem_append.2
      ⟨isVisible_unicodeEscape (by omega), isVisible_unicodeEscape (by omega)⟩

theorem isVisible_encodeString (s : Text) : ∀ c ∈ encodeString s, isVisible c = true := by
  unfold encodeString
  simp only [List.forall_mem_append, List.forall_mem_cons, List.mem_flatMap]
  refine ⟨⟨rfl, ?_⟩, rfl, List.forall_mem_nil _⟩
  rintro c ⟨d, -, hc⟩
  exact isVisible_encodePoint d c hc

theorem isVisible_of_isAsciiDigit {c : CodePoint} (h : c.isAsciiDigit = true) :
    isVisible c = true := by
  simp only [CodePoint.isAsciiDigit, Bool.and_eq_true, decide_eq_true_eq] at h
  simp only [isVisible, Bool.and_eq_true, decide_eq_true_eq]
  omega

theorem isVisible_ofInt (n : Int) : ∀ c ∈ Text.ofInt n, isVisible c = true := by
  cases n with
  | ofNat m => exact fun c hc => isVisible_of_isAsciiDigit (isAsciiDigit_of_mem_decimal hc)
  | negSucc m =>
    refine List.forall_mem_cons.2 ⟨rfl, fun c hc => ?_⟩
    exact isVisible_of_isAsciiDigit (isAsciiDigit_of_mem_decimal hc)

end Json

end DesiredState
