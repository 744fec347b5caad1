import DesiredState.Proofs.Json.Grammar
import Mathlib.Data.List.TakeWhile

/-!
# Written texts are read

The decoder accepts every text of the grammar and finds the value that the grammar tells. A number
is read as far as it goes, so what follows it must not continue it; blanks, commas and closing
brackets do not.

* `Json.Numeral.scan?_append`: a number at the beginning of a text.
* `Json.scan_of_spelled`: **a value at the beginning of a text.**
* `Json.decodeWith_of_written`: a value that is the whole text.
-/

namespace DesiredState.Json

open DesiredState.Numeral (digits)

variable {t rest start : Text}

/-! ### Strings -/

theorem backslash_ne_quote : backslash ≠ quote := by decide

theorem scanUnits_cons {t : Text} {u : StringUnit} (h : u.Written t) (hrest : rest ≠ [])
    {us : List StringUnit} {rest' : Text} (hscan : scanUnits start rest = .ok (us, rest')) :
    scanUnits start (t ++ rest) = .ok (u :: us, rest') := by
  cases h with
  | @literal c hquote hbackslash hcontrol =>
    unfold scanUnits
    simp only [List.singleton_append, if_neg hquote, if_neg hbackslash,
      if_neg (Nat.not_lt.2 hcontrol), hscan]
  | @short e x hshort =>
    have hu : e ≠ 'u' := by
      rintro rfl
      cases hshort
    unfold scanUnits
    simp only [List.cons_append, List.nil_append, if_neg backslash_ne_quote, if_true, if_neg hu,
      hshort, hscan]
  | @unicode a b c d n hhex =>
    unfold scanUnits
    simp only [List.cons_append, List.nil_append, if_neg backslash_ne_quote, if_true, hhex,
      List.isEmpty_iff, if_neg hrest, hscan]

theorem scanUnits_of_written {units : List StringUnit} (h : UnitsWritten t units) (rest : Text) :
    scanUnits start (t ++ quote :: rest) = .ok (units, rest) := by
  induction h with
  | nil =>
    unfold scanUnits
    simp only [List.nil_append, if_true]
  | @cons t ts u us hu hus ih =>
    rw [List.append_assoc]
    exact scanUnits_cons hu (by simp) ih

theorem scanString_of_written {s : Text} (h : StringWritten t s) (rest : Text) :
    ∃ body, t = quote :: body ∧
      ∀ start, scanString start (body ++ rest) = .ok (s, rest) := by
  obtain ⟨⟨hunits⟩⟩ := h
  refine ⟨_ ++ [quote], rfl, fun start => ?_⟩
  unfold scanString
  rw [List.append_assoc, List.singleton_append, scanUnits_of_written hunits]

/-! ### Numbers -/

namespace Numeral

/-- A code point with which a number could go on. -/
def isMore (c : CodePoint) : Bool := c.isAsciiDigit || c = '.' || c = 'e' || c = 'E'

/-- No number goes on with what follows. -/
def Ends (rest : Text) : Prop := ∀ c ∈ rest.head?, isMore c = false

theorem isMore_eq_false_iff {c : CodePoint} :
    isMore c = false ↔ (c.isAsciiDigit = false ∧ c ≠ '.') ∧ c ≠ 'e' ∧ c ≠ 'E' := by
  simp only [isMore, Bool.or_eq_false_iff, decide_eq_false_iff_not, ne_eq, and_assoc]

theorem digits_append {ds : Text} (h : ∀ c ∈ ds, c.isAsciiDigit = true)
    (hrest : ∀ c ∈ rest.head?, c.isAsciiDigit = false) : digits (ds ++ rest) = (ds, rest) := by
  obtain ⟨htake, hdrop⟩ := Text.span_append h hrest
  rw [digits, htake, hdrop]

theorem scanWhole?_append {whole : Text} (h : IsWhole whole)
    (hrest : ∀ c ∈ rest.head?, c.isAsciiDigit = false) :
    scanWhole? (whole ++ rest) = some (whole, rest) := by
  cases h with
  | zero => rfl
  | digits hc hzero hds =>
    unfold scanWhole?
    simp only [List.cons_append, if_neg hzero, if_pos hc, digits_append hds hrest]

theorem scanFraction_append {f : Text} {fraction : Option Text} (h : FractionWritten f fraction)
    (hrest : ∀ c ∈ rest.head?, c.isAsciiDigit = false ∧ c ≠ '.') :
    scanFraction (f ++ rest) = (fraction, rest) := by
  cases h with
  | none =>
    cases rest with
    | nil => rfl
    | cons c rest =>
      unfold scanFraction
      simp only [List.nil_append, (hrest c rfl).2, false_and, if_false]
  | @some ds h =>
    unfold scanFraction
    simp only [List.cons_append, digits_append h.2 fun c hc => (hrest c hc).1, true_and, ne_eq,
      h.1, not_false_eq_true, if_true]

/-- The digits of an exponent are no sign. -/
theorem sign_digits {ds : Text} (h : IsDigits ds) (rest : Text) :
    DesiredState.Numeral.sign (ds ++ rest) = (false, ds ++ rest) := by
  obtain ⟨hne, hdigits⟩ := h
  obtain ⟨d, ds, rfl⟩ := List.exists_cons_of_ne_nil hne
  have hd := hdigits d List.mem_cons_self
  have hminus : d ≠ '-' := by
    rintro rfl
    cases hd
  have hplus : d ≠ '+' := by
    rintro rfl
    cases hd
  unfold DesiredState.Numeral.sign
  simp only [List.cons_append, if_neg hminus, if_neg hplus]

theorem scanExponent_append {e : Text} {exponent : Option (Bool × Text)}
    (h : ExponentWritten e exponent) (hrest : Ends rest) :
    scanExponent (e ++ rest) = (exponent, rest) := by
  have hdigit : ∀ c ∈ rest.head?, c.isAsciiDigit = false := fun c hc =>
    (isMore_eq_false_iff.1 (hrest c hc)).1.1
  cases h with
  | none =>
    cases rest with
    | nil => rfl
    | cons c rest =>
      obtain ⟨-, hsmall, hlarge⟩ := isMore_eq_false_iff.1 (hrest c rfl)
      unfold scanExponent
      simp only [List.nil_append, hsmall, hlarge, false_or, false_and, if_false]
  | @unsigned c ds hc h =>
    unfold scanExponent
    have hc' : c = 'e' ∨ c = 'E' := hc
    simp only [List.cons_append, sign_digits h, digits_append h.2 hdigit, hc', ne_eq, h.1,
      not_false_eq_true, true_and, if_true]
  | @plus c ds hc h =>
    unfold scanExponent
    have hc' : c = 'e' ∨ c = 'E' := hc
    have hsign : DesiredState.Numeral.sign (CodePoint.ofChar '+' :: (ds ++ rest)) =
        (false, ds ++ rest) := rfl
    simp only [List.cons_append, hsign, digits_append h.2 hdigit, hc', ne_eq, h.1,
      not_false_eq_true, true_and, if_true]
  | @minus c ds hc h =>
    unfold scanExponent
    have hc' : c = 'e' ∨ c = 'E' := hc
    have hsign : DesiredState.Numeral.sign (CodePoint.ofChar '-' :: (ds ++ rest)) =
        (true, ds ++ rest) := rfl
    simp only [List.cons_append, hsign, digits_append h.2 hdigit, hc', ne_eq, h.1,
      not_false_eq_true, true_and, if_true]

/-- An exponent and what follows a number are no more digits. -/
theorem ExponentWritten.head {e : Text} {exponent : Option (Bool × Text)}
    (h : ExponentWritten e exponent) (hrest : Ends rest) :
    ∀ c ∈ (e ++ rest).head?, c.isAsciiDigit = false ∧ c ≠ '.' := by
  cases h with
  | none => exact fun c hc => (isMore_eq_false_iff.1 (hrest c hc)).1
  | unsigned hc | plus hc | minus hc =>
    rintro _ ⟨⟩
    rcases hc with rfl | rfl <;> decide

/-- A fraction and what follows it are no more digits of the whole part. -/
theorem FractionWritten.head {f : Text} {fraction : Option Text} (h : FractionWritten f fraction)
    (hrest : ∀ c ∈ rest.head?, c.isAsciiDigit = false ∧ c ≠ '.') :
    ∀ c ∈ (f ++ rest).head?, c.isAsciiDigit = false := by
  cases h with
  | none => exact fun c hc => (hrest c hc).1
  | some =>
    rintro _ ⟨⟩
    decide

theorem IsWhole.head {whole : Text} (h : IsWhole whole) :
    ∃ d r, whole = d :: r ∧ d.isAsciiDigit = true := by
  cases h with
  | zero => exact ⟨_, _, rfl, by decide⟩
  | digits hc => exact ⟨_, _, rfl, hc⟩

/-- Each part of a number is read to its end. -/
theorem scanParts_append {whole f e : Text} {fraction : Option Text}
    {exponent : Option (Bool × Text)} (hw : IsWhole whole) (hf : FractionWritten f fraction)
    (he : ExponentWritten e exponent) (hrest : Ends rest) :
    scanWhole? (whole ++ f ++ e ++ rest) = some (whole, f ++ (e ++ rest)) ∧
      scanFraction (f ++ (e ++ rest)) = (fraction, e ++ rest) ∧
      scanExponent (e ++ rest) = (exponent, rest) := by
  have hexponent := he.head hrest
  refine ⟨?_, scanFraction_append hf hexponent, scanExponent_append he hrest⟩
  rw [List.append_assoc, List.append_assoc]
  exact scanWhole?_append hw (hf.head hexponent)

/-- **A number is read to its end.** -/
theorem scan?_append {t : Text} {n : Numeral} (h : Written t n) (hrest : Ends rest) :
    scan? (t ++ rest) = some (n, rest) := by
  cases h with
  | @positive whole f e fraction exponent hw hf he =>
    obtain ⟨hwhole, hfraction, hexponent⟩ := scanParts_append hw hf he hrest
    obtain ⟨d, r, rfl, hd⟩ := hw.head
    have hminus : d ≠ '-' := by
      rintro rfl
      cases hd
    unfold scan?
    simp only [List.cons_append] at hwhole ⊢
    simp only [if_neg hminus, hwhole, hfraction, hexponent]
  | @negative whole f e fraction exponent hw hf he =>
    obtain ⟨hwhole, hfraction, hexponent⟩ := scanParts_append hw hf he hrest
    unfold scan?
    simp only [List.cons_append, if_true, hwhole, hfraction, hexponent]

end Numeral

/-! ### Values -/

/-- A code point with which a value begins. -/
def isStart (c : CodePoint) : Bool :=
  c.isAsciiDigit || c = '-' || c = quote || c = '[' || c = '{' || c = 'n' || c = 't' || c = 'f'

theorem Spelled.head {x : Tree} (h : Spelled t x) : ∃ c r, t = c :: r ∧ isStart c = true := by
  cases h with
  | null => exact ⟨_, _, rfl, by decide⟩
  | bool b => cases b <;> exact ⟨_, _, rfl, by decide⟩
  | number h =>
    cases h with
    | positive hw =>
      obtain ⟨d, r, rfl, hd⟩ := hw.head
      exact ⟨d, _, rfl, by simp only [isStart, hd, Bool.true_or]⟩
    | negative => exact ⟨_, _, rfl, by decide⟩
  | string h =>
    cases h
    exact ⟨_, _, rfl, by decide⟩
  | emptyArr | arr | emptyObj | obj => exact ⟨_, _, rfl, by decide⟩

theorem isSpace_eq_false {c : CodePoint} (h : isStart c = true) : isSpace c = false := by
  simp only [isStart, Bool.or_eq_true, decide_eq_true_eq] at h
  rcases h with ((((((h | rfl) | rfl) | rfl) | rfl) | rfl) | rfl) | rfl
  · simp only [CodePoint.isAsciiDigit, Bool.and_eq_true, decide_eq_true_eq] at h
    simp only [isSpace, Bool.or_eq_false_iff, decide_eq_false_iff_not]
    omega
  all_goals decide

theorem skipSpace_append {a : Text} (ha : IsSpace a) (t : Text) :
    skipSpace (a ++ t) = skipSpace t :=
  List.dropWhile_append_of_pos ha

theorem skipSpace_of_head {c : CodePoint} {r : Text} (h : isSpace c = false) :
    skipSpace (c :: r) = c :: r :=
  List.dropWhile_cons_of_neg (by rw [h]; nofun)

/-- The blanks before another code point are skipped. -/
theorem skipSpace_append_cons {a : Text} (ha : IsSpace a) {c : CodePoint} (h : isSpace c = false)
    (t : Text) : skipSpace (a ++ c :: t) = c :: t := by
  rw [skipSpace_append ha, skipSpace_of_head h]

/-- The blanks before a value are skipped, and the value is not. -/
theorem Spelled.skipSpace_eq {x : Tree} (h : Spelled t x) {a : Text} (ha : IsSpace a)
    (rest : Text) : skipSpace (a ++ (t ++ rest)) = t ++ rest := by
  obtain ⟨c, r, rfl, hc⟩ := h.head
  rw [List.cons_append, skipSpace_append_cons ha (isSpace_eq_false hc)]

/-- The blanks before a name are skipped, and the name is not. -/
theorem StringWritten.skipSpace_eq {s : Text} (h : StringWritten t s) {a : Text} (ha : IsSpace a)
    (rest : Text) : skipSpace (a ++ (t ++ rest)) = t ++ rest := by
  obtain ⟨h⟩ := h
  exact (Spelled.string h).skipSpace_eq ha rest

theorem ItemsSpelled.head {xs : List Tree} (h : ItemsSpelled t xs) (rest : Text) :
    ∃ c r, skipSpace (t ++ rest) = c :: r ∧ isStart c = true := by
  cases h with
  | one ha h | cons ha h =>
    obtain ⟨c, r, rfl, hc⟩ := h.head
    simp only [List.append_assoc, List.cons_append]
    exact ⟨c, _, skipSpace_append_cons ha (isSpace_eq_false hc) _, hc⟩

theorem MembersSpelled.head {ms : List (List StringUnit × Tree)} (h : MembersSpelled t ms)
    (rest : Text) : ∃ c r, skipSpace (t ++ rest) = c :: r ∧ isStart c = true := by
  cases h with
  | one ha hn | cons ha hn =>
    cases hn
    simp only [List.append_assoc, List.cons_append]
    exact ⟨quote, _, skipSpace_append_cons ha rfl _, rfl⟩

theorem isMore_eq_false {c : CodePoint} (h : isSpace c = true) : Numeral.isMore c = false := by
  obtain ⟨v, hv⟩ := c
  simp only [isSpace, Bool.or_eq_true, decide_eq_true_eq] at h
  rcases h with ((rfl | rfl) | rfl) | rfl <;> rfl

/-- No number goes on with blanks. -/
theorem ends_of_space {a : Text} (ha : IsSpace a) : Numeral.Ends a :=
  fun c hc => isMore_eq_false (ha c (List.mem_of_mem_head? hc))

/-- No number goes on with a comma or a closing bracket behind blanks. -/
theorem ends_of_space_cons {a : Text} (ha : IsSpace a) {c : CodePoint}
    (hc : Numeral.isMore c = false) (rest : Text) : Numeral.Ends (a ++ c :: rest) := by
  cases a with
  | nil =>
    rintro _ ⟨⟩
    exact hc
  | cons b a =>
    rintro _ ⟨⟩
    exact isMore_eq_false (ha b List.mem_cons_self)

/-- A number begins with a digit, perhaps behind a minus sign. -/
theorem Numeral.Written.head {n : Numeral} (h : n.Written t) :
    ∃ d r, d.isAsciiDigit = true ∧ (t = d :: r ∨ t = CodePoint.ofChar '-' :: d :: r) := by
  cases h with
  | positive hw =>
    obtain ⟨d, r, rfl, hd⟩ := hw.head
    exact ⟨d, _, hd, .inl rfl⟩
  | negative hw =>
    obtain ⟨d, r, rfl, hd⟩ := hw.head
    exact ⟨d, _, hd, .inr rfl⟩

theorem cut?_cons_of_ne {a c : CodePoint} (h : a ≠ c) (lead t : Text) :
    Text.cut? (a :: lead) (c :: t) = none := by
  rw [Text.cut?, if_neg h]

theorem ne_of_isAsciiDigit {c d : CodePoint} (hd : d.isAsciiDigit = true)
    (hc : c.isAsciiDigit = false) : c ≠ d := by
  rintro rfl
  rw [hd] at hc
  cases hc

/-- A number is none of the words. -/
theorem scanPlain_of_number (constants : Constants) {n : Numeral} {s : Scalar} (h : n.Written t)
    (hvalue : n.value = .ok s) (hrest : Numeral.Ends rest) :
    scanPlain constants (t ++ rest) = .ok (.scalar s, rest) := by
  have hscan := Numeral.scan?_append h hrest
  -- a digit begins none of the words, and a minus sign only the last one
  have hcut : ∀ lead ∈ (["null", "true", "false", "NaN", "Infinity", "-Infinity"] : List Text),
      Text.cut? lead (t ++ rest) = none := by
    obtain ⟨d, r, hd, rfl | rfl⟩ := h.head
    · simp only [List.forall_mem_cons]
      exact ⟨cut?_cons_of_ne (ne_of_isAsciiDigit hd (by decide)) _ _,
        cut?_cons_of_ne (ne_of_isAsciiDigit hd (by decide)) _ _,
        cut?_cons_of_ne (ne_of_isAsciiDigit hd (by decide)) _ _,
        cut?_cons_of_ne (ne_of_isAsciiDigit hd (by decide)) _ _,
        cut?_cons_of_ne (ne_of_isAsciiDigit hd (by decide)) _ _,
        cut?_cons_of_ne (ne_of_isAsciiDigit hd (by decide)) _ _, by simp⟩
    · simp only [List.forall_mem_cons]
      exact ⟨rfl, rfl, rfl, rfl, rfl,
        cut?_cons_of_ne (ne_of_isAsciiDigit hd (by decide)) _ _, by simp⟩
  simp only [List.forall_mem_cons] at hcut
  obtain ⟨h₁, h₂, h₃, h₄, h₅, h₆, -⟩ := hcut
  unfold scanPlain
  simp only [h₁, h₂, h₃, h₄, h₅, h₆, hscan, hvalue]

theorem scanValue_plain (constants : Constants) (fuel room : Nat) {c : CodePoint} (t : Text)
    (hquote : c ≠ quote) (hbracket : c ≠ '[') (hbrace : c ≠ '{') :
    scanValue constants (fuel + 1) room (c :: t) = scanPlain constants (c :: t) := by
  unfold scanValue
  simp only [if_neg hquote, if_neg hbracket, if_neg hbrace]

/-- A sign that begins no value is not at the head of one. -/
theorem cut?_of_isStart (h : ∃ c r, t = c :: r ∧ isStart c = true) {e : CodePoint}
    (he : isStart e = false) (lead : Text) : Text.cut? (e :: lead) t = none := by
  obtain ⟨c, r, rfl, hc⟩ := h
  refine cut?_cons_of_ne ?_ _ _
  rintro rfl
  rw [hc] at he
  cases he

section Steps

variable (constants : Constants) (fuel room : Nat)

theorem scanValue_emptyArr {a : Text} (ha : IsSpace a) :
    scanValue constants (fuel + 1) (room + 1)
      (CodePoint.ofChar '[' :: (a ++ CodePoint.ofChar ']' :: rest)) = .ok (.arr [], rest) := by
  have hcut : Text.cut? "]" (skipSpace (a ++ CodePoint.ofChar ']' :: rest)) = some rest := by
    rw [skipSpace_append_cons ha rfl]
    rfl
  unfold scanValue
  rw [hcut]
  rfl

theorem scanValue_emptyObj {a : Text} (ha : IsSpace a) :
    scanValue constants (fuel + 1) (room + 1)
      (CodePoint.ofChar '\x7b' :: (a ++ CodePoint.ofChar '\x7d' :: rest)) =
        .ok (.obj [], rest) := by
  have hcut : Text.cut? "\x7d" (skipSpace (a ++ CodePoint.ofChar '\x7d' :: rest)) =
      some rest := by
    rw [skipSpace_append_cons ha rfl]
    rfl
  unfold scanValue
  rw [hcut]
  rfl

variable {constants fuel room}

theorem scanValue_arr {vs : List Json}
    (hhead : ∃ c r, skipSpace t = c :: r ∧ isStart c = true)
    (hitems : scanItems constants fuel room (skipSpace t) = .ok (vs, rest)) :
    scanValue constants (fuel + 1) (room + 1) (CodePoint.ofChar '[' :: t) =
      .ok (.arr vs, rest) := by
  have hcut : Text.cut? "]" (skipSpace t) = none := cut?_of_isStart hhead rfl _
  have hquote : CodePoint.ofChar '[' ≠ quote := by decide
  unfold scanValue
  simp only [if_neg hquote, if_true, hcut, hitems]

theorem scanValue_obj {ms : List (Text × Json)}
    (hhead : ∃ c r, skipSpace t = c :: r ∧ isStart c = true)
    (hmembers : scanMembers constants fuel room (skipSpace t) = .ok (ms, rest)) :
    scanValue constants (fuel + 1) (room + 1) (CodePoint.ofChar '\x7b' :: t) =
      .ok (.obj (Entries.ofPairs ms), rest) := by
  have hcut : Text.cut? "\x7d" (skipSpace t) = none := cut?_of_isStart hhead rfl _
  have hquote : CodePoint.ofChar '\x7b' ≠ quote := by decide
  have hbracket : CodePoint.ofChar '\x7b' ≠ '[' := by decide
  unfold scanValue
  simp only [if_neg hquote, if_neg hbracket, if_true, hcut, hmembers]

/-- The last member is read with the brace that closes the object. -/
theorem scanMembers_one {n b d u name : Text} {v : Json} (hn : StringWritten n name)
    (hb : IsSpace b) (hd : IsSpace d)
    (hvalue : scanValue constants fuel room (skipSpace u) =
      .ok (v, d ++ CodePoint.ofChar '\x7d' :: rest)) :
    scanMembers constants (fuel + 1) room (n ++ (b ++ CodePoint.ofChar ':' :: u)) =
      .ok ([(name, v)], rest) := by
  obtain ⟨body, rfl, hname⟩ := scanString_of_written hn (b ++ CodePoint.ofChar ':' :: u)
  have hcolon : Text.cut? ":" (skipSpace (b ++ CodePoint.ofChar ':' :: u)) = some u := by
    rw [skipSpace_append_cons hb rfl]
    rfl
  unfold scanMembers
  simp only [List.cons_append, if_true, hname, hcolon, hvalue,
    skipSpace_append_cons hd (c := CodePoint.ofChar '\x7d') rfl]

/-- Another member is read with the comma behind it, and the rest of the members after it. -/
theorem scanMembers_cons {n b d u w name : Text} {v : Json} {ms : List (Text × Json)}
    (hn : StringWritten n name) (hb : IsSpace b) (hd : IsSpace d)
    (hvalue : scanValue constants fuel room (skipSpace u) =
      .ok (v, d ++ CodePoint.ofChar ',' :: w))
    (hmembers : scanMembers constants fuel room (skipSpace w) = .ok (ms, rest)) :
    scanMembers constants (fuel + 1) room (n ++ (b ++ CodePoint.ofChar ':' :: u)) =
      .ok ((name, v) :: ms, rest) := by
  obtain ⟨body, rfl, hname⟩ := scanString_of_written hn (b ++ CodePoint.ofChar ':' :: u)
  have hcolon : Text.cut? ":" (skipSpace (b ++ CodePoint.ofChar ':' :: u)) = some u := by
    rw [skipSpace_append_cons hb rfl]
    rfl
  have hcomma : CodePoint.ofChar ',' ≠ '\x7d' := by decide
  unfold scanMembers
  simp only [List.cons_append, if_true, hname, hcolon, hvalue,
    skipSpace_append_cons hd (c := CodePoint.ofChar ',') rfl, if_neg hcomma, hmembers]

/-- The last item is read with the bracket that closes the array. -/
theorem scanItems_one {b : Text} {v : Json} (hb : IsSpace b)
    (hvalue : scanValue constants fuel room t = .ok (v, b ++ CodePoint.ofChar ']' :: rest)) :
    scanItems constants (fuel + 1) room t = .ok ([v], rest) := by
  unfold scanItems
  simp only [hvalue, skipSpace_append_cons hb (c := CodePoint.ofChar ']') rfl, if_true]

/-- Another item is read with the comma behind it, and the rest of the items after it. -/
theorem scanItems_cons {b w : Text} {v : Json} {vs : List Json} (hb : IsSpace b)
    (hvalue : scanValue constants fuel room t = .ok (v, b ++ CodePoint.ofChar ',' :: w))
    (hitems : scanItems constants fuel room (skipSpace w) = .ok (vs, rest)) :
    scanItems constants (fuel + 1) room t = .ok (v :: vs, rest) := by
  have hcomma : CodePoint.ofChar ',' ≠ ']' := by decide
  unfold scanItems
  simp only [hvalue, skipSpace_append_cons hb (c := CodePoint.ofChar ',') rfl, if_neg hcomma,
    if_true, hitems]

end Steps

/-- With this fuel, values that are spelled are read from texts that are short enough. -/
def ReadsValues (constants : Constants) (fuel : Nat) : Prop :=
  ∀ room t x rest, Spelled t x → x.nesting ≤ room → x.IsShort → 2 * t.length < fuel →
    Numeral.Ends rest → scanValue constants fuel room (t ++ rest) = .ok (x.value, rest)

/-- The same for the items of an array. -/
def ReadsItems (constants : Constants) (fuel : Nat) : Prop :=
  ∀ room t xs rest, ItemsSpelled t xs → Tree.nestingItems xs ≤ room → Tree.AreShort xs →
    2 * t.length + 1 < fuel →
    scanItems constants fuel room (skipSpace (t ++ CodePoint.ofChar ']' :: rest)) =
      .ok (Tree.values xs, rest)

/-- The same for the members of an object. -/
def ReadsMembers (constants : Constants) (fuel : Nat) : Prop :=
  ∀ room t ms rest, MembersSpelled t ms → Tree.nestingMembers ms ≤ room → Tree.MembersShort ms →
    2 * t.length + 1 < fuel →
    scanMembers constants fuel room (skipSpace (t ++ CodePoint.ofChar '\x7d' :: rest)) =
      .ok (Tree.namedValues ms, rest)

section Fuel

variable {constants : Constants} {fuel : Nat}

/-- A container is read with one fuel more than its parts. -/
theorem readsValues_succ (hitems : ReadsItems constants fuel)
    (hmembers : ReadsMembers constants fuel) : ReadsValues constants (fuel + 1) := by
  intro room t x rest h hroom hshort hfuel hrest
  cases h with
  | null => rfl
  | bool b => cases b <;> rfl
  | @number t n h =>
    have hplain := scanPlain_of_number constants h (Numeral.value_eq_ok_iff.2 ⟨hshort, rfl⟩) hrest
    obtain ⟨d, r, hd, rfl | rfl⟩ := h.head
    · rw [List.cons_append] at hplain ⊢
      rw [scanValue_plain constants fuel room _ (ne_of_isAsciiDigit hd (by decide)).symm
        (ne_of_isAsciiDigit hd (by decide)).symm (ne_of_isAsciiDigit hd (by decide)).symm]
      exact hplain
    · exact (scanValue_plain constants fuel room _ (by decide) (by decide) (by decide)).trans
        hplain
  | string h =>
    obtain ⟨body, rfl, hscan⟩ := scanString_of_written (.mk h) rest
    unfold scanValue
    simp only [List.cons_append, if_true, hscan]
    rfl
  | @emptyArr a ha =>
    obtain ⟨room, rfl⟩ := Nat.exists_eq_add_one_of_ne_zero (Nat.ne_zero_of_lt hroom)
    simp only [List.cons_append, List.append_assoc, List.nil_append]
    exact scanValue_emptyArr constants fuel room ha
  | @arr t xs h =>
    obtain ⟨room, rfl⟩ := Nat.exists_eq_add_one_of_ne_zero (Nat.ne_zero_of_lt hroom)
    have hread := hitems room t xs rest h (Nat.le_of_succ_le_succ hroom) hshort
      (by simp at hfuel; omega)
    simp only [List.cons_append, List.append_assoc, List.nil_append]
    exact scanValue_arr (h.head _) hread
  | @emptyObj a ha =>
    obtain ⟨room, rfl⟩ := Nat.exists_eq_add_one_of_ne_zero (Nat.ne_zero_of_lt hroom)
    simp only [List.cons_append, List.append_assoc, List.nil_append]
    exact scanValue_emptyObj constants fuel room ha
  | @obj t ms h =>
    obtain ⟨room, rfl⟩ := Nat.exists_eq_add_one_of_ne_zero (Nat.ne_zero_of_lt hroom)
    have hread := hmembers room t ms rest h (Nat.le_of_succ_le_succ hroom) hshort
      (by simp at hfuel; omega)
    rw [Tree.value, ← Entries.ofPairs_eq_latest]
    simp only [List.cons_append, List.append_assoc, List.nil_append]
    exact scanValue_obj (h.head _) hread

theorem readsItems_succ (hvalues : ReadsValues constants fuel)
    (hitems : ReadsItems constants fuel) : ReadsItems constants (fuel + 1) := by
  intro room t xs rest h hroom hshort hfuel
  cases h with
  | @one a t b x ha h hb =>
    have hvalue := hvalues room t x (b ++ CodePoint.ofChar ']' :: rest) h
      (Nat.max_le.1 hroom).1 hshort.1 (by simp at hfuel; omega) (ends_of_space_cons hb rfl rest)
    rw [List.append_assoc, List.append_assoc, h.skipSpace_eq ha]
    exact scanItems_one hb hvalue
  | @cons a t b ts x xs ha h hb hs =>
    have hvalue := hvalues room t x
      (b ++ CodePoint.ofChar ',' :: (ts ++ CodePoint.ofChar ']' :: rest)) h
      (Nat.max_le.1 hroom).1 hshort.1 (by simp at hfuel; omega) (ends_of_space_cons hb rfl _)
    have hread := hitems room ts xs rest hs (Nat.max_le.1 hroom).2 hshort.2
      (by simp at hfuel; omega)
    simp only [List.append_assoc, List.cons_append, h.skipSpace_eq ha]
    exact scanItems_cons hb hvalue hread

theorem readsMembers_succ (hvalues : ReadsValues constants fuel)
    (hmembers : ReadsMembers constants fuel) : ReadsMembers constants (fuel + 1) := by
  intro room t ms rest h hroom hshort hfuel
  cases h with
  | @one a n b c t d units x ha hn hb hc h hd =>
    have hvalue := hvalues room t x (d ++ CodePoint.ofChar '\x7d' :: rest) h
      (Nat.max_le.1 hroom).1 hshort.1 (by simp at hfuel; omega) (ends_of_space_cons hd rfl rest)
    have hname := StringWritten.mk hn
    simp only [List.append_assoc, List.cons_append, hname.skipSpace_eq ha]
    exact scanMembers_one hname hb hd (by rw [h.skipSpace_eq hc, hvalue])
  | @cons a n b c t d ts units x ms ha hn hb hc h hd hs =>
    have hvalue := hvalues room t x
      (d ++ CodePoint.ofChar ',' :: (ts ++ CodePoint.ofChar '\x7d' :: rest)) h
      (Nat.max_le.1 hroom).1 hshort.1 (by simp at hfuel; omega) (ends_of_space_cons hd rfl _)
    have hread := hmembers room ts ms rest hs (Nat.max_le.1 hroom).2 hshort.2
      (by simp at hfuel; omega)
    have hname := StringWritten.mk hn
    simp only [List.append_assoc, List.cons_append, hname.skipSpace_eq ha]
    exact scanMembers_cons hname hb hd (by rw [h.skipSpace_eq hc, hvalue]) hread

end Fuel

/-- **What is spelled is read.** By induction on the fuel, of which every container takes one more
than its parts. -/
theorem scan_of_spelled (constants : Constants) (fuel : Nat) :
    ReadsValues constants fuel ∧ ReadsItems constants fuel ∧ ReadsMembers constants fuel := by
  induction fuel with
  | zero =>
    refine ⟨fun _ _ _ _ _ _ _ hfuel => ?_, fun _ _ _ _ _ _ _ hfuel => ?_,
      fun _ _ _ _ _ _ _ hfuel => ?_⟩
    all_goals cases hfuel
  | succ fuel ih =>
    obtain ⟨hvalues, hitems, hmembers⟩ := ih
    exact ⟨readsValues_succ hitems hmembers, readsItems_succ hvalues hitems,
      readsMembers_succ hvalues hmembers⟩

/-- **A written value is read** from a text that holds nothing else but blanks. -/
theorem decodeWith_of_written (constants : Constants) {a b : Text} {v : Json}
    (h : Written maxOpen t v) (ha : IsSpace a) (hb : IsSpace b) :
    decodeWith constants (a ++ t ++ b) = .ok v := by
  obtain ⟨x, h, hnesting, hshort, rfl⟩ := h
  have hmark : Text.cut? [CodePoint.ofNat 0xFEFF] (a ++ (t ++ b)) = none := by
    obtain ⟨c, r, rfl, hc⟩ := h.head
    cases a with
    | nil => exact cut?_of_isStart ⟨c, _, rfl, hc⟩ (by decide) _
    | cons d a =>
      refine cut?_cons_of_ne ?_ _ _
      rintro rfl
      cases ha _ List.mem_cons_self
  have hscan := (scan_of_spelled constants (2 * (a ++ (t ++ b)).length + 1)).1 maxOpen t x b h
    hnesting hshort (by simp; omega) (ends_of_space hb)
  have hskip : skipSpace b = [] := List.dropWhile_eq_nil_iff.2 hb
  unfold decodeWith
  rw [List.append_assoc, hmark]
  simp only [h.skipSpace_eq ha, hscan, hskip]

end DesiredState.Json
