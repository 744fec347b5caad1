import DesiredState.Proofs.Template.Decomposition

/-!
# Templates filled in

Rendering in closed form. Every literal code point stays, every expression gives way to the text of
the value at its path, and what is inserted is not looked at again: it only stands between its
neighbours. The paths that lead nowhere are listed in their order. The one fault that is left, with
indexes that can be read, is a whole number that is too long to be written.

* `Piece.filled`, `Template.filled`: a piece and a template with the values of their paths.
* `Path.isWritableAt`: whatever a path leads to can be written.
* `Template.render_eq`: **rendering in closed form.**
* `Template.render_append`: rendering two templates one after the other.
* `Template.render_by_parts`: **rendering is one pass over the parts of a template.**
-/

namespace DesiredState

/-- A power of ten has one digit more than its exponent, so that this one cannot be written. -/
theorem Numeral.isWritable_pow_maxDigits : isWritable (Nat.pow 10 maxDigits) = false := by
  have hpow (k : Nat) : ¬ (k : Int).natAbs < k := Nat.lt_irrefl k
  unfold isWritable
  exact decide_eq_false (hpow (Nat.pow 10 maxDigits))

/-- The value at a path, if there is one, has no whole number with too many digits. -/
def Path.isWritableAt (context : Json) (path : Text) : Bool :=
  match lookup context path with
  | .ok (some v) => v.isWritable
  | _ => true

theorem Path.isWritableAt_iff {context : Json} {path : Text} :
    isWritableAt context path = true ↔
      ∀ v, lookup context path = .ok (some v) → v.isWritable = true := by
  unfold isWritableAt
  split
  · next v hv =>
    constructor
    · intro hwritable w hw
      rw [hv] at hw
      cases hw
      exact hwritable
    · exact fun h => h v hv
  · next hnot => exact iff_of_true rfl fun v hv => absurd hv (hnot v)

namespace Template

variable {context : Json} {t t' : Text} {path : Text} {ps ps' : List Piece}

/-- What stands in place of an expression: the text of the value at its path, or nothing. -/
def filledPath (context : Json) (path : Text) : Text :=
  match Path.lookup context path with
  | .ok (some v) => v.inserted
  | _ => []

/-- A piece with the value of its path. -/
def Piece.filled (context : Json) : Piece → Text
  | .literal c => [c]
  | .expression path => filledPath context path

/-- A template with the values of its paths. -/
def filled (context : Json) (t : Text) : Text := (pieces t).flatMap (Piece.filled context)

/-- What is rendered first, and what is rendered behind it. -/
def Rendered.append (first second : Rendered) : Rendered :=
  ⟨first.text ++ second.text, first.unresolved ++ second.unresolved⟩

/-! ### Closed form -/

theorem renderPath_eq (context : Json) (hshort : Path.IsShort path) :
    renderPath context path =
      if Path.isWritableAt context path then
        .ok ⟨filledPath context path, [path].filter (Path.isMissing context)⟩
      else .error .unwritable := by
  obtain ⟨found, hfound⟩ := Path.lookup_of_isShort context hshort
  unfold renderPath Path.isWritableAt filledPath
  cases found with
  | none =>
    have hmissing : Path.isMissing context path = true := Path.isMissing_iff.2 hfound
    rw [hfound, List.filter_cons_of_pos hmissing]
    rfl
  | some v =>
    have hpresent : ¬ Path.isMissing context path = true := by
      rw [Path.isMissing_iff, hfound]
      exact nofun
    rw [hfound, List.filter_cons_of_neg hpresent]
    rfl

theorem renderPieces_eq (context : Json)
    (hshort : ∀ path, Piece.expression path ∈ ps → Path.IsShort path) :
    renderPieces context ps =
      if (ps.filterMap Piece.path?).all (Path.isWritableAt context) then
        .ok ⟨ps.flatMap (Piece.filled context),
          (ps.filterMap Piece.path?).filter (Path.isMissing context)⟩
      else .error .unwritable := by
  induction ps with
  | nil => rfl
  | cons piece ps ih =>
    have hrest := ih fun path hpath => hshort path (List.mem_cons_of_mem _ hpath)
    cases piece with
    | literal c =>
      have hpaths : (Piece.literal c :: ps).filterMap Piece.path? = ps.filterMap Piece.path? := rfl
      rw [renderPieces, hrest, hpaths]
      cases (ps.filterMap Piece.path?).all (Path.isWritableAt context) <;> rfl
    | expression path =>
      have hpath := renderPath_eq context (hshort path List.mem_cons_self)
      have hpaths : (Piece.expression path :: ps).filterMap Piece.path? =
          [path] ++ ps.filterMap Piece.path? := rfl
      rw [renderPieces, hpath, hrest, hpaths, List.all_append, List.filter_append]
      have hone : [path].all (Path.isWritableAt context) = Path.isWritableAt context path :=
        Bool.and_true _
      rw [hone]
      -- whichever of the two cannot be written, the fault is the same
      cases Path.isWritableAt context path with
      | false => rfl
      | true => cases (ps.filterMap Piece.path?).all (Path.isWritableAt context) <;> rfl

/-- **Rendering in closed form.** With indexes that can be read, a template is filled in and the
paths that lead nowhere are listed, unless a path leads to a number that is too long to be
written. -/
theorem render_eq (context : Json) (hshort : IsShort t) :
    render context t =
      if (paths t).all (Path.isWritableAt context) then
        .ok ⟨filled context t, (paths t).filter (Path.isMissing context)⟩
      else .error .unwritable := by
  rw [paths_eq_filterMap]
  exact renderPieces_eq context fun path hpath => hshort path (mem_paths_iff.2 hpath)

/-! ### Two templates -/

theorem renderPieces_append (context : Json) (ps ps' : List Piece) :
    renderPieces context (ps ++ ps') =
      (renderPieces context ps).bind fun first => (renderPieces context ps').map first.append := by
  induction ps with
  | nil =>
    rw [List.nil_append]
    cases renderPieces context ps' <;> rfl
  | cons piece ps ih =>
    cases piece with
    | literal c =>
      rw [List.cons_append, renderPieces, renderPieces, ih]
      cases renderPieces context ps with
      | error fault => rfl
      | ok first => cases renderPieces context ps' <;> rfl
    | expression path =>
      rw [List.cons_append, renderPieces, renderPieces, ih]
      cases renderPath context path with
      | error fault => rfl
      | ok value =>
        cases renderPieces context ps with
        | error fault => rfl
        | ok first =>
          cases renderPieces context ps' with
          | error fault => rfl
          | ok second =>
            simp only [Except.bind, Except.map, Rendered.append, List.append_assoc]

/-- Two templates one after the other render to what each of them renders to, if no expression
stands across the boundary. -/
theorem render_append (hcross : ¬ Crosses t t') (context : Json) :
    render context (t ++ t') =
      (render context t).bind fun first => (render context t').map first.append := by
  unfold render
  rw [pieces_append hcross, renderPieces_append]

/-! ### One pass over the parts -/

/-- **Rendering is one pass over the parts of a template.** Its expressions do not overlap, so that
it splits in one way. Every literal code point stays as it is, every expression gives way to the
text of the value at its path, whatever this text is, and the paths that lead nowhere are listed in
their order; only a number that is too long to be written stands in the way. Two templates one after
the other render to what each of them renders to, unless an expression stands across the
boundary. -/
theorem render_by_parts (t : Text) :
    (∀ before source path before' source' path', OccursAt t before source path →
      OccursAt t before' source' path' →
        (before = before' ∧ source = source' ∧ path = path') ∨
          before.length + source.length ≤ before'.length ∨
          before'.length + source'.length ≤ before.length) ∧
    (∃! parts, Splits t parts) ∧
    (∀ parts, Splits t parts → ∀ context : Json,
      (∀ source path, Part.expression source path ∈ parts → Path.IsShort path) →
        ((∀ source path, Part.expression source path ∈ parts →
            Path.isWritableAt context path = true) →
          render context t =
            .ok ⟨parts.flatMap fun part => part.piece.filled context,
              (parts.filterMap fun part => part.piece.path?).filter (Path.isMissing context)⟩) ∧
        ((∃ source path, Part.expression source path ∈ parts ∧
            Path.isWritableAt context path = false) →
          render context t = .error .unwritable)) ∧
    ∀ t' : Text, ¬ Crosses t t' → ∀ context : Json,
      render context (t ++ t') =
        (render context t).bind fun first => (render context t').map first.append := by
  refine ⟨fun _ _ _ _ _ _ h h' => h.apart h', existsUnique_splits t, ?_,
    fun t' hcross context => render_append hcross context⟩
  intro parts h context hshort
  -- the row of parts has the paths and the pieces that scanning finds
  have hshort' : IsShort t := by
    intro path hpath
    obtain ⟨source, hmem⟩ := h.mem_paths_iff.1 hpath
    exact hshort source path hmem
  have hrender := render_eq context hshort'
  have htext : filled context t = parts.flatMap fun part => part.piece.filled context := by
    rw [filled, pieces_of_splits h, List.flatMap_map]
  have hpaths : paths t = parts.filterMap fun part => part.piece.path? := by
    rw [paths_eq_filterMap, pieces_of_splits h, List.filterMap_map]
    rfl
  constructor
  · intro hwritable
    have hall : (paths t).all (Path.isWritableAt context) = true := by
      refine List.all_eq_true.2 fun path hpath => ?_
      obtain ⟨source, hmem⟩ := h.mem_paths_iff.1 hpath
      exact hwritable source path hmem
    rw [hrender, if_pos hall, htext, hpaths]
  · rintro ⟨source, path, hmem, hlong⟩
    have hnot : ¬ (paths t).all (Path.isWritableAt context) = true := by
      intro hall
      have hpath := List.all_eq_true.1 hall path (h.mem_paths_iff.2 ⟨source, hmem⟩)
      rw [hlong] at hpath
      cases hpath
    rw [hrender, if_neg hnot]

/-- A template of two expressions, the second of which has no value in the context below. -/
def twoExpressions : Text := "\x7b\x7b .a \x7d\x7d/\x7b\x7b.b\x7d\x7d"

/-- The parts of the template. -/
def twoExpressionsParts : List Part :=
  [.expression "\x7b\x7b .a \x7d\x7d" ".a", .literal '/', .expression "\x7b\x7b.b\x7d\x7d" ".b"]

/-- A context whose value is itself written as the second expression. -/
def expressionContext : Json := .obj [("a", .str "\x7b\x7b.b\x7d\x7d")]

theorem isExpression_a : IsExpression "\x7b\x7b .a \x7d\x7d" ".a" :=
  ⟨" ", ".a", " ", by decide, by decide, rfl, by decide, rfl, by decide⟩

theorem isExpression_b : IsExpression "\x7b\x7b.b\x7d\x7d" ".b" :=
  ⟨"", ".b", "", by decide, by decide, rfl, by decide, rfl, by decide⟩

theorem splits_twoExpressions : Splits twoExpressions twoExpressionsParts :=
  .expression isExpression_a (.literal (by decide) (.expression isExpression_b splits_nil))

theorem mem_twoExpressionsParts {source path : Text}
    (h : Part.expression source path ∈ twoExpressionsParts) : path = ".a" ∨ path = ".b" := by
  simp only [twoExpressionsParts, List.mem_cons, List.not_mem_nil, or_false, reduceCtorEq, false_or,
    Part.expression.injEq] at h
  exact h.imp And.right And.right

/-- An inserted text that is written as an expression is not looked at again. -/
theorem render_twoExpressions :
    OccursAt twoExpressions [] "\x7b\x7b .a \x7d\x7d" ".a" ∧
      OccursAt twoExpressions "\x7b\x7b .a \x7d\x7d/" "\x7b\x7b.b\x7d\x7d" ".b" ∧
      ¬ Crosses twoExpressions "/x" ∧
      render expressionContext twoExpressions = .ok ⟨"\x7b\x7b.b\x7d\x7d/", [".b"]⟩ ∧
      render expressionContext (twoExpressions ++ "/x") =
        .ok ⟨"\x7b\x7b.b\x7d\x7d//x", [".b"]⟩ := by
  have hfirst : OccursAt twoExpressions [] "\x7b\x7b .a \x7d\x7d" ".a" := ⟨isExpression_a, _, rfl⟩
  have hsecond : OccursAt twoExpressions "\x7b\x7b .a \x7d\x7d/" "\x7b\x7b.b\x7d\x7d" ".b" :=
    ⟨isExpression_b, [], rfl⟩
  have hcross : ¬ Crosses twoExpressions "/x" := not_crosses_of_no_brace _ (by decide)
  obtain ⟨-, -, hparts, happend⟩ := render_by_parts twoExpressions
  obtain ⟨hrender, -⟩ := hparts _ splits_twoExpressions expressionContext fun source path hmem => by
    rcases mem_twoExpressionsParts hmem with rfl | rfl <;> decide
  have hfilled := hrender fun source path hmem => by
    rcases mem_twoExpressionsParts hmem with rfl | rfl <;> rfl
  have hboth := happend "/x" hcross expressionContext
  rw [hfilled] at hboth
  exact ⟨hfirst, hsecond, hcross, hfilled, hboth⟩

/-- A context with a number that is too long to be written. -/
def longNumber : Json := .obj [("a", .int (Nat.pow 10 Numeral.maxDigits))]

/-- A number that is too long to be written has a value at its path and no rendering. -/
theorem longNumber_not_rendered :
    IsShort "\x7b\x7b.a\x7d\x7d" ∧
      Path.lookup longNumber ".a" = .ok (some (.int (Nat.pow 10 Numeral.maxDigits))) ∧
      ∀ r, render longNumber "\x7b\x7b.a\x7d\x7d" ≠ .ok r := by
  have hshort : IsShort "\x7b\x7b.a\x7d\x7d" := by decide
  have hlookup : Path.lookup longNumber ".a" =
      .ok (some (.int (Nat.pow 10 Numeral.maxDigits))) := rfl
  have hpaths : paths "\x7b\x7b.a\x7d\x7d" = ([".a"] : List Text) := by decide
  have hlong : Path.isWritableAt longNumber ".a" = false := by
    unfold Path.isWritableAt
    rw [hlookup]
    exact Numeral.isWritable_pow_maxDigits
  refine ⟨hshort, hlookup, fun r hr => ?_⟩
  rw [render_eq longNumber hshort, hpaths, List.all_cons, hlong] at hr
  cases hr

end Template

end DesiredState
