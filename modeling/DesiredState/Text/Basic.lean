/-!
# Text

A text is a list of code points. Code points include the surrogates: JSON escapes can put a
surrogate without its partner into a string, and such a string is compared, stored and sent on
like any other. Core's characters leave the surrogates out, so text has its own type.

* `Text.ofString`: the text of a core string, which is also a coercion.
* `Text.cut?`: what remains after a given beginning.
* `Text.decimal`, `Text.ofInt`: numbers in decimal.
-/

namespace DesiredState

/-- A number below `0x110000`, surrogates included. -/
structure CodePoint where
  val : Nat
  isLt : val < 0x110000
  deriving DecidableEq

namespace CodePoint

theorem ext {a b : CodePoint} (h : a.val = b.val) : a = b := by
  cases a; cases b; cases h; rfl

/-- The code point of a core character. -/
def ofChar (c : Char) : CodePoint where
  val := c.toNat
  isLt := by
    have h := c.valid
    simp only [UInt32.isValidChar, Nat.isValidChar] at h
    simp only [Char.toNat]
    omega

instance : Coe Char CodePoint := ⟨ofChar⟩

/-- The code point with this number; numbers that are too large give the replacement character. -/
def ofNat (n : Nat) : CodePoint :=
  if h : n < 0x110000 then ⟨n, h⟩ else ⟨0xFFFD, by omega⟩

theorem ofNat_val (c : CodePoint) : ofNat c.val = c := by
  simp [ofNat, c.isLt]

theorem val_ofNat {n : Nat} (h : n < 0x110000) : (ofNat n).val = n := by
  simp [ofNat, h]

/-- The first half of a surrogate pair. -/
def isHighSurrogate (c : CodePoint) : Bool := 0xD800 ≤ c.val && c.val < 0xDC00

/-- The second half of a surrogate pair. -/
def isLowSurrogate (c : CodePoint) : Bool := 0xDC00 ≤ c.val && c.val < 0xE000

/-- Either half of a surrogate pair. -/
def isSurrogate (c : CodePoint) : Bool := 0xD800 ≤ c.val && c.val < 0xE000

/-- One of the ten digits `0` to `9`. -/
def isAsciiDigit (c : CodePoint) : Bool := 0x30 ≤ c.val && c.val ≤ 0x39

/-- One of the letters `A` to `Z` and `a` to `z`. -/
def isAsciiLetter (c : CodePoint) : Bool :=
  (0x41 ≤ c.val && c.val ≤ 0x5A) || (0x61 ≤ c.val && c.val ≤ 0x7A)

theorem eq_ofChar_iff {c : CodePoint} {l : Char} : c = ofChar l ↔ c.val = l.toNat :=
  ⟨fun h => congrArg val h, fun h => ext h⟩

/-- Below the surrogates, every code point is a character. -/
theorem exists_eq_ofChar {c : CodePoint} (h : c.val < 0xD800) : ∃ l : Char, c = ofChar l :=
  ⟨Char.ofNatAux c.val (.inl h), ext rfl⟩

theorem isAsciiDigit_ofChar (l : Char) : (ofChar l).isAsciiDigit = l.isDigit := rfl

theorem isAsciiLetter_ofChar (l : Char) : (ofChar l).isAsciiLetter = l.isAlpha := by
  unfold Char.isAlpha Char.isUpper
  rw [Bool.decide_and]
  rfl

theorem isAsciiDigit_iff {c : CodePoint} :
    c.isAsciiDigit = true ↔ ∃ l : Char, l.isDigit = true ∧ c = ofChar l := by
  constructor
  · intro h
    have hlt : c.val < 0xD800 := by
      simp only [isAsciiDigit, Bool.and_eq_true, decide_eq_true_eq] at h
      omega
    obtain ⟨l, rfl⟩ := exists_eq_ofChar hlt
    exact ⟨l, h, rfl⟩
  · rintro ⟨l, hl, rfl⟩
    exact hl

theorem isAsciiLetter_iff {c : CodePoint} :
    c.isAsciiLetter = true ↔ ∃ l : Char, l.isAlpha = true ∧ c = ofChar l := by
  constructor
  · intro h
    have hlt : c.val < 0xD800 := by
      simp only [isAsciiLetter, Bool.or_eq_true, Bool.and_eq_true, decide_eq_true_eq] at h
      omega
    obtain ⟨l, rfl⟩ := exists_eq_ofChar hlt
    rw [isAsciiLetter_ofChar] at h
    exact ⟨l, h, rfl⟩
  · rintro ⟨l, hl, rfl⟩
    rw [isAsciiLetter_ofChar, hl]

/-- The number of an ASCII digit. -/
def digitVal (c : CodePoint) : Nat := c.val - 0x30

/-- The digit with this value, in lower case above nine. -/
def ofDigit (d : Nat) : CodePoint :=
  if d < 10 then ofNat (0x30 + d) else ofNat (0x57 + d)

/-- The value of a hexadecimal digit of either case. -/
def hexVal? (c : CodePoint) : Option Nat :=
  if 0x30 ≤ c.val && c.val ≤ 0x39 then some (c.val - 0x30)
  else if 0x41 ≤ c.val && c.val ≤ 0x46 then some (c.val - 0x37)
  else if 0x61 ≤ c.val && c.val ≤ 0x66 then some (c.val - 0x57)
  else none

end CodePoint

/-- A list of code points. -/
abbrev Text := List CodePoint

namespace Text

/-- The text of a core string. -/
def ofString (s : String) : Text := s.toList.map CodePoint.ofChar

instance : Coe String (List CodePoint) := ⟨ofString⟩

/-- No code point of the text is a surrogate. -/
def NoSurrogates (t : Text) : Prop := ∀ c ∈ t, c.isSurrogate = false

instance (t : Text) : Decidable (NoSurrogates t) :=
  inferInstanceAs (Decidable (∀ c ∈ t, c.isSurrogate = false))

/-- What follows `lead` at the beginning of a text. -/
def cut? : (lead t : Text) → Option Text
  | [], t => some t
  | _ :: _, [] => none
  | a :: lead, c :: t => if a = c then cut? lead t else none

theorem cut?_eq_some_iff {lead t r : Text} : cut? lead t = some r ↔ t = lead ++ r := by
  induction lead generalizing t with
  | nil => simp [cut?]
  | cons a lead ih =>
    cases t with
    | nil => simp [cut?]
    | cons c t =>
      by_cases h : a = c
      · subst h; simp [cut?, ih]
      · simp [cut?, h]
        exact fun e => absurd e.symm h

/-- Code points that are taken, up to the first that is not. -/
theorem span_append {p : CodePoint → Bool} {t rest : Text} (ht : ∀ c ∈ t, p c = true)
    (hrest : ∀ c ∈ rest.head?, p c = false) :
    (t ++ rest).takeWhile p = t ∧ (t ++ rest).dropWhile p = rest := by
  rw [List.takeWhile_append_of_pos ht, List.dropWhile_append_of_pos ht]
  cases rest with
  | nil => exact ⟨List.append_nil _, rfl⟩
  | cons c rest =>
    have hc : ¬ p c = true := by simp [hrest c rfl]
    rw [List.takeWhile_cons_of_neg hc, List.dropWhile_cons_of_neg hc, List.append_nil]
    exact ⟨rfl, rfl⟩

/-- The text begins with `lead`. -/
def startsWith (t lead : Text) : Bool := (cut? lead t).isSome

/-- The text has `part` somewhere inside. -/
def hasPart (part : Text) : Text → Bool
  | [] => part.isEmpty
  | c :: t => startsWith (c :: t) part || hasPart part t

theorem hasPart_iff {part t : Text} : hasPart part t = true ↔ ∃ a b, t = a ++ part ++ b := by
  induction t with
  | nil => cases part <;> simp [hasPart]
  | cons c t ih =>
    rw [hasPart, Bool.or_eq_true, ih, startsWith, Option.isSome_iff_exists]
    constructor
    · rintro (⟨r, hr⟩ | ⟨a, b, hab⟩)
      · exact ⟨[], r, by simpa using cut?_eq_some_iff.1 hr⟩
      · exact ⟨c :: a, b, by simp [hab]⟩
    · rintro ⟨a, b, hab⟩
      cases a with
      | nil => exact .inl ⟨b, cut?_eq_some_iff.2 (by simpa using hab)⟩
      | cons x a =>
        simp only [List.cons_append, List.cons.injEq] at hab
        exact .inr ⟨a, b, hab.2⟩

/-- The texts one after the other, with `sep` between neighbours. -/
def joinWith (sep : Text) : List Text → Text
  | [] => []
  | [t] => t
  | t :: ts => t ++ sep ++ joinWith sep ts

/-- The texts between the occurrences of one code point. -/
def splitAt (sep : CodePoint) (t : Text) : List Text :=
  t.foldr (fun c parts =>
    if c = sep then [] :: parts
    else match parts with
      | [] => [[c]]
      | p :: ps => (c :: p) :: ps) [[]]

/-- The decimal digits of a number. -/
def decimal (n : Nat) : Text := (Nat.toDigits 10 n).map CodePoint.ofChar

/-- A whole number in decimal, with a minus sign when it is negative. -/
def ofInt : Int → Text
  | .ofNat n => decimal n
  | .negSucc n => (CodePoint.ofChar '-') :: decimal (n + 1)

/-- The number that ASCII digits spell. -/
def digitsVal (t : Text) : Nat := t.foldl (fun n c => n * 10 + c.digitVal) 0

/-- The ASCII letters in upper case and everything else as it is. -/
def asciiUpper (t : Text) : Text :=
  t.map fun c => if 0x61 ≤ c.val && c.val ≤ 0x7A then CodePoint.ofNat (c.val - 0x20) else c

/-- The ASCII letters in lower case and everything else as it is. -/
def asciiLower (t : Text) : Text :=
  t.map fun c => if 0x41 ≤ c.val && c.val ≤ 0x5A then CodePoint.ofNat (c.val + 0x20) else c

/-- Digits in base sixteen, with zeros in front up to `width`. -/
def hex (width n : Nat) : Text :=
  let digits := (Nat.toDigits 16 n).map CodePoint.ofChar
  List.replicate (width - digits.length) (CodePoint.ofChar '0') ++ digits

/-- A number in decimal with zeros in front up to `width`. -/
def padded (width n : Nat) : Text :=
  let digits := decimal n
  List.replicate (width - digits.length) (CodePoint.ofChar '0') ++ digits

end Text

end DesiredState
