import DesiredState.Proofs.Json.Decoded
import DesiredState.Template.Render

/-!
# Faults in templates

A path that leads nowhere is reported and is no fault. What remains are the faults of numerals: an
index that is too long to be read, and a whole number that is too long to be written.

* `Path.IsShort`: every index of a path can be read.
* `Path.lookup_of_isShort`: looking up such a path has a result.
* `Template.render_of_isShort`: **a template of such paths renders in every context that can be
  written.**
* `Template.render_of_lookup_error`: an expression with a longer index does not.
-/

namespace DesiredState

theorem CodePoint.isDecimal_of_isAsciiDigit {c : CodePoint} (h : c.isAsciiDigit = true) :
    c.isDecimal = true := by
  unfold CodePoint.isDecimal CodePoint.decimalVal?
  rw [Option.isSome_map, List.find?_isSome]
  unfold CodePoint.isAsciiDigit at h
  exact ⟨0x30, by decide, h⟩

namespace Path

/-- The index has few enough digits to be read as a number. -/
def Segment.isShort : Segment → Bool
  | .key _ => true
  | .index digits => digits.length ≤ Numeral.maxDigits

/-- Every index of the path can be read as a number. -/
def IsShort (path : Text) : Prop := ∀ s ∈ (scan path).1, s.isShort = true

instance (path : Text) : Decidable (IsShort path) :=
  inferInstanceAs (Decidable (∀ s ∈ (scan path).1, s.isShort = true))

variable {v w : Json} {s : Segment} {ss : List Segment} {path : Text}

/-- The step of an index that can be read. -/
theorem step_index {digits : Text} (v : Json) (h : ¬ Numeral.maxDigits < digits.length) :
    step v (.index digits) =
      .ok (match v with
        | .arr items => items[indexValue digits]?
        | _ => none) := by
  unfold step
  dsimp only
  rw [if_neg h]
  cases v <;> rfl

theorem step_of_isShort (v : Json) (h : s.isShort = true) : ∃ w, step v s = .ok w := by
  cases s with
  | key name => cases v <;> exact ⟨_, rfl⟩
  | index digits => exact ⟨_, step_index v (Nat.not_lt.2 (of_decide_eq_true h))⟩

/-- The step of an index that is too long fails in every value. -/
theorem step_longIndex {digits : Text} (v : Json) (h : Numeral.maxDigits < digits.length) :
    step v (.index digits) = .error ⟨digits.length⟩ := by
  unfold step
  dsimp only
  rw [if_pos h]

/-- A part of a value that can be written can be written. -/
theorem isWritable_of_step (hv : v.isWritable = true) (h : step v s = .ok (some w)) :
    w.isWritable = true := by
  cases s with
  | key name =>
    cases v with
    | obj members =>
      simp only [step, Except.ok.injEq] at h
      exact Json.isWritableMembers_iff.1 hv (name, w) (Entries.mem_of_find? h)
    | scalar | arr => simp [step] at h
  | index digits =>
    by_cases hlong : Numeral.maxDigits < digits.length
    · simp [step, hlong] at h
    · rw [step_index v hlong, Except.ok.injEq] at h
      cases v with
      | arr items => exact Json.isWritableItems_iff.1 hv w (List.mem_of_getElem? h)
      | scalar | obj => cases h

/-- Of an object that can be written but for one member, a step leads to what can be written or to
this member. -/
theorem step_obj_cases {ms : List (Text × Json)} (member : Text)
    (hothers : ∀ e ∈ ms, e.1 ≠ member → e.2.isWritable = true)
    (h : step (.obj ms) s = .ok (some w)) :
    w.isWritable = true ∨ s = .key member ∧ Entries.find? member ms = some w := by
  cases s with
  | key name =>
    have hfind : Entries.find? name ms = some w := Except.ok.inj h
    by_cases hname : name = member
    · exact .inr ⟨congrArg Segment.key hname, hname ▸ hfind⟩
    · exact .inl (hothers (name, w) (Entries.mem_of_find? hfind) hname)
  | index digits =>
    unfold step at h
    dsimp only at h
    split at h
    · cases h
    · cases h

/-- No step leads into a scalar. -/
theorem step_scalar (x : Scalar) : step (.scalar x) s ≠ .ok (some w) := by
  cases s with
  | key name => exact nofun
  | index digits =>
    intro h
    unfold step at h
    dsimp only at h
    split at h
    · cases h
    · cases h

theorem walk_of_isShort (v : Json) (h : ∀ s ∈ ss, s.isShort = true) : ∃ w, walk v ss = .ok w := by
  induction ss generalizing v with
  | nil => exact ⟨some v, rfl⟩
  | cons s ss ih =>
    obtain ⟨hs, hss⟩ := List.forall_mem_cons.1 h
    obtain ⟨w, hw⟩ := step_of_isShort v hs
    unfold walk
    rw [hw]
    cases w with
    | none => exact ⟨none, rfl⟩
    | some x => exact ih x hss

theorem isWritable_of_walk (hv : v.isWritable = true) (h : walk v ss = .ok (some w)) :
    w.isWritable = true := by
  induction ss generalizing v with
  | nil =>
    cases h
    exact hv
  | cons s ss ih =>
    unfold walk at h
    split at h
    · cases h
    · cases h
    · next x hx => exact ih (isWritable_of_step hv hx) h

/-- Looking up a path whose indexes can be read has a result. -/
theorem lookup_of_isShort (v : Json) (h : IsShort path) : ∃ w, lookup v path = .ok w := by
  unfold lookup
  split
  · exact ⟨some v, rfl⟩
  · obtain ⟨w, hw⟩ := walk_of_isShort v h
    simp only [hw]
    exact ⟨_, rfl⟩

theorem isWritable_of_lookup (hv : v.isWritable = true) (h : lookup v path = .ok (some w)) :
    w.isWritable = true := by
  unfold lookup at h
  split at h
  · cases h
    exact hv
  · dsimp only at h
    split at h
    · cases h
    · next x hx =>
      simp only [Except.ok.injEq] at h
      split at h
      · subst h
        exact isWritable_of_walk hv hx
      · cases h

end Path

/-- A text that ends in something else than a blank is trimmed already. -/
theorem Text.trimEnd_concat (t : Text) {c : CodePoint} (hc : c.isBlank = false) :
    Text.trimEnd (t ++ [c]) = t ++ [c] := by
  induction t with
  | nil => simp [Text.trimEnd, hc]
  | cons d t ih =>
    rw [List.cons_append, Text.trimEnd, ih]
    cases t <;> rfl

namespace Template

variable {context : Json} {t : Text} {ps : List Piece}

/-- The indexes in all expressions of the template can be read as numbers. -/
def IsShort (t : Text) : Prop := ∀ path ∈ paths t, Path.IsShort path

instance (t : Text) : Decidable (IsShort t) :=
  inferInstanceAs (Decidable (∀ path ∈ paths t, Path.IsShort path))

theorem mem_paths_iff {path : Text} : path ∈ paths t ↔ Piece.expression path ∈ pieces t := by
  unfold paths
  rw [List.mem_filterMap]
  constructor
  · rintro ⟨piece, hpiece, hpath⟩
    cases piece with
    | literal c => cases hpath
    | expression path' =>
      cases hpath
      exact hpiece
  · exact fun h => ⟨_, h, rfl⟩

theorem renderPath_of_isShort {path : Text} (hc : context.isWritable = true)
    (h : Path.IsShort path) : ∃ r, renderPath context path = .ok r := by
  obtain ⟨w, hw⟩ := Path.lookup_of_isShort context h
  unfold renderPath
  rw [hw]
  cases w with
  | none => exact ⟨_, rfl⟩
  | some v =>
    have hv : v.isWritable = true := Path.isWritable_of_lookup hc hw
    dsimp only
    rw [if_pos hv]
    exact ⟨_, rfl⟩

theorem renderPieces_of_isShort (hc : context.isWritable = true)
    (h : ∀ path, Piece.expression path ∈ ps → Path.IsShort path) :
    ∃ r, renderPieces context ps = .ok r := by
  induction ps with
  | nil => exact ⟨_, rfl⟩
  | cons piece ps ih =>
    obtain ⟨rest, hrest⟩ := ih fun path hpath => h path (List.mem_cons_of_mem _ hpath)
    cases piece with
    | literal c =>
      unfold renderPieces
      rw [hrest]
      exact ⟨_, rfl⟩
    | expression path =>
      obtain ⟨first, hfirst⟩ := renderPath_of_isShort hc (h path List.mem_cons_self)
      unfold renderPieces
      rw [hfirst, hrest]
      exact ⟨_, rfl⟩

/-- **A template renders** if its indexes can be read and the context can be written. -/
theorem render_of_isShort (hc : context.isWritable = true) (h : IsShort t) :
    ∃ r, render context t = .ok r :=
  renderPieces_of_isShort hc fun path hpath => h path (mem_paths_iff.2 hpath)

/-- A template that is one expression whose path cannot be looked up does not render. -/
theorem render_of_lookup_error {path : Text} {index : Path.LongIndex}
    (h : scanExpression? t = some (path, []))
    (hl : Path.lookup context path = .error index) :
    render context t = .error (.longIndex index) := by
  have hpieces : pieces t = [.expression path] := by
    cases t with
    | nil => cases h
    | cons c t =>
      rw [pieces, piecesAfter, h]
      dsimp only
      rw [piecesAfter_eq_drop, List.length_nil, Nat.sub_zero, List.drop_length, pieces, piecesAfter]
  rw [render, hpieces, renderPieces, renderPath, hl]

end Template

end DesiredState
