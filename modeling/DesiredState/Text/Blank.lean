import DesiredState.Text.Basic

/-!
# Blanks

The code points that count as white space, and trimming. The class has 29 members: the ASCII
controls from tab to carriage return and from the file to the unit separator, the space, and the
spaces and separators outside ASCII.
-/

namespace DesiredState

/-- White space. -/
def CodePoint.isBlank (c : CodePoint) : Bool :=
  (0x09 ≤ c.val && c.val ≤ 0x0D) || (0x1C ≤ c.val && c.val ≤ 0x20) || c.val == 0x85 ||
    c.val == 0xA0 || c.val == 0x1680 || (0x2000 ≤ c.val && c.val ≤ 0x200A) ||
    c.val == 0x2028 || c.val == 0x2029 || c.val == 0x202F || c.val == 0x205F || c.val == 0x3000

namespace Text

/-- The text without the blanks at its beginning. -/
def trimStart (t : Text) : Text := t.dropWhile CodePoint.isBlank

/-- The text without the blanks at its end. -/
def trimEnd : Text → Text
  | [] => []
  | c :: t =>
    match trimEnd t with
    | [] => if c.isBlank then [] else [c]
    | d :: r => c :: d :: r

/-- The text without the blanks at either end. -/
def trim (t : Text) : Text := trimEnd (trimStart t)

/-- There is nothing but blanks in the text. -/
def isBlank (t : Text) : Bool := t.all CodePoint.isBlank

theorem trimEnd_eq_nil_iff {t : Text} : trimEnd t = [] ↔ isBlank t = true := by
  induction t with
  | nil => simp [trimEnd, isBlank]
  | cons c t ih =>
    rw [trimEnd]
    cases h : trimEnd t with
    | nil => by_cases hc : c.isBlank = true <;> simp_all [isBlank]
    | cons d r => simp_all [isBlank]

/-- What trimming the end removes is blank. -/
theorem trimEnd_append (t : Text) : ∃ b, isBlank b = true ∧ trimEnd t ++ b = t := by
  induction t with
  | nil => exact ⟨[], rfl, rfl⟩
  | cons c t ih =>
    obtain ⟨b, hb, ht⟩ := ih
    rw [trimEnd]
    cases h : trimEnd t with
    | nil =>
      rw [h] at ht
      by_cases hc : c.isBlank = true
      · exact ⟨c :: b, by simp_all [isBlank], by simp_all⟩
      · exact ⟨b, hb, by simp_all⟩
    | cons d r => exact ⟨b, hb, by simp_all⟩

/-- Blanks behind a text are trimmed with it. -/
theorem trimEnd_append_of_isBlank (t : Text) {b : Text} (hb : isBlank b = true) :
    trimEnd (t ++ b) = trimEnd t := by
  induction t with
  | nil => exact trimEnd_eq_nil_iff.2 hb
  | cons c t ih => rw [List.cons_append, trimEnd, ih, trimEnd]

theorem isBlank_iff_trim {t : Text} : isBlank t = true ↔ trim t = [] := by
  rw [trim, trimEnd_eq_nil_iff, trimStart]
  induction t with
  | nil => rfl
  | cons c t ih =>
    by_cases hc : c.isBlank = true
    · simpa [isBlank, hc] using ih
    · simp [isBlank, hc]

end Text

end DesiredState
