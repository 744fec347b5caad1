import DesiredState.Proofs.Template.Lookups

/-!
# A template and its expressions

An expression is two opening braces, blanks, a path that begins with a point and has no brace,
blanks, and two closing braces. Two expressions of a template do not overlap: braces stand at the
ends of an expression only, and what stands behind its opening braces is none. So a template is in
one way a row of literal code points and of all its expressions, and scanning from the left gives
this row.

* `Template.IsExpression`, `Template.OccursAt`: how an expression is written, and where one stands.
* `Template.OccursAt.apart`: **two expressions do not overlap.**
* `Template.Splits`: a row of parts with all expressions of a text.
* `Template.existsUnique_splits`: **there is one such row**, and `Template.pieces_of_splits` says
  that scanning finds it.
* `Template.pieces_append`: what is scanned of two texts one after the other.
-/

namespace DesiredState.Template

variable {t t' source source' path path' rest rest' before before' : Text} {c : CodePoint}

/-- How an expression is written. Its path is named without the blanks around it. -/
def IsExpression (source path : Text) : Prop :=
  ∃ lead inner trail : Text, Text.isBlank lead = true ∧ Text.isBlank trail = true ∧
    inner.head? = some (CodePoint.ofChar '.') ∧ (∀ c ∈ inner, isBrace c = false) ∧
    source = "\x7b\x7b" ++ lead ++ inner ++ trail ++ "\x7d\x7d" ∧ path = Text.trim inner

/-- An expression stands in a text behind `before`. -/
def OccursAt (t before source path : Text) : Prop :=
  IsExpression source path ∧ ∃ after, t = before ++ source ++ after

/-! ### One expression -/

theorem isBrace_of_isBlank (h : c.isBlank = true) : isBrace c = false := by
  unfold CodePoint.isBlank at h
  unfold isBrace
  simp only [Bool.or_eq_true, Bool.and_eq_true, decide_eq_true_eq, beq_iff_eq] at h
  simp only [Bool.or_eq_false_iff, decide_eq_false_iff_not]
  omega

/-- A path between double braces is an expression, if no blanks are around it. -/
theorem isExpression_braces (hpoint : path.head? = some (CodePoint.ofChar '.'))
    (hbraces : ∀ c ∈ path, isBrace c = false) (htrim : Text.trim path = path) :
    IsExpression ("\x7b\x7b" ++ path ++ "\x7d\x7d") path :=
  ⟨[], path, [], rfl, rfl, hpoint, hbraces, by simp only [List.append_nil], htrim.symm⟩

/-- Between its double braces, an expression has something, and no brace. -/
theorem IsExpression.inside (h : IsExpression source path) :
    ∃ inside : Text,
      source = CodePoint.ofChar '{' :: CodePoint.ofChar '{' :: (inside ++ "\x7d\x7d") ∧
      inside ≠ [] ∧ ∀ c ∈ inside, isBrace c = false := by
  obtain ⟨lead, inner, trail, hlead, htrail, hpoint, hbraces, rfl, -⟩ := h
  refine ⟨lead ++ inner ++ trail, ?_, ?_, ?_⟩
  · simp only [List.append_assoc]
    rfl
  · intro hnil
    rw [List.append_eq_nil_iff, List.append_eq_nil_iff] at hnil
    rw [hnil.1.2] at hpoint
    cases hpoint
  · intro c hc
    simp only [List.mem_append] at hc
    rcases hc with (hc | hc) | hc
    · exact isBrace_of_isBlank (List.all_eq_true.1 hlead c hc)
    · exact hbraces c hc
    · exact isBrace_of_isBlank (List.all_eq_true.1 htrail c hc)

theorem IsExpression.ne_nil (h : IsExpression source path) : source ≠ [] := by
  obtain ⟨inside, rfl, -⟩ := h.inside
  exact List.cons_ne_nil _ _

/-- An expression at the beginning of a text is scanned. -/
theorem scanExpression?_append (h : IsExpression source path) (rest : Text) :
    scanExpression? (source ++ rest) = some (path, rest) := by
  obtain ⟨lead, inner, trail, hlead, htrail, hpoint, hbraces, rfl, rfl⟩ := h
  obtain ⟨tail, rfl⟩ := List.head?_eq_some_iff.1 hpoint
  have hpath : ∀ c ∈ CodePoint.ofChar '.' :: tail ++ trail, (!isBrace c) = true := by
    intro c hc
    rw [Bool.not_eq_true']
    rcases List.mem_append.1 hc with hc | hc
    · exact hbraces c hc
    · exact isBrace_of_isBlank (List.all_eq_true.1 htrail c hc)
  -- what is left after each of the steps of the scan
  have hcut : Text.cut? "\x7b\x7b"
      ("\x7b\x7b" ++ lead ++ (CodePoint.ofChar '.' :: tail) ++ trail ++ "\x7d\x7d" ++ rest) =
      some (lead ++ (CodePoint.ofChar '.' :: tail ++ trail ++ ("\x7d\x7d" ++ rest))) := by
    rw [Text.cut?_eq_some_iff]
    simp only [List.append_assoc]
  have hstart : Text.trimStart
      (lead ++ (CodePoint.ofChar '.' :: tail ++ trail ++ ("\x7d\x7d" ++ rest))) =
      CodePoint.ofChar '.' :: tail ++ trail ++ ("\x7d\x7d" ++ rest) := by
    unfold Text.trimStart
    rw [List.dropWhile_append_of_pos (List.all_eq_true.1 hlead)]
    rfl
  have hpointCut : Text.cut? "."
      (CodePoint.ofChar '.' :: tail ++ trail ++ ("\x7d\x7d" ++ rest)) =
      some (tail ++ trail ++ ("\x7d\x7d" ++ rest)) := Text.cut?_eq_some_iff.2 rfl
  have hclose : ∀ c ∈ ("\x7d\x7d" ++ rest : Text).head?, (!isBrace c) = false := by
    rintro c ⟨⟩
    rfl
  obtain ⟨htake, hdrop⟩ := Text.span_append hpath hclose
  have hend : Text.trimEnd (CodePoint.ofChar '.' :: tail ++ trail) =
      Text.trim (CodePoint.ofChar '.' :: tail) := Text.trimEnd_append_of_isBlank _ htrail
  unfold scanExpression?
  simp only [hcut, hstart, hpointCut, hdrop, htake, hend, Text.cut?_eq_some_iff.2 rfl]

/-- What is scanned at the beginning of a text is an expression. -/
theorem isExpression_of_scanExpression? (h : scanExpression? t = some (path, rest)) :
    ∃ source, IsExpression source path ∧ t = source ++ rest := by
  unfold scanExpression? at h
  split at h
  · cases h
  next u hu =>
  rw [Text.cut?_eq_some_iff] at hu
  dsimp only at h
  split at h
  · cases h
  next v hv =>
  rw [Text.cut?_eq_some_iff] at hv
  split at h
  · cases h
  next _ hrest =>
  rw [Text.cut?_eq_some_iff] at hrest
  cases h
  have hinner : ((Text.trimStart u).takeWhile fun c => !isBrace c).head? =
      some (CodePoint.ofChar '.') := by
    rw [hv]
    rfl
  have hblank : Text.isBlank (u.takeWhile CodePoint.isBlank) = true :=
    List.all_takeWhile
  refine ⟨_, ⟨u.takeWhile CodePoint.isBlank, (Text.trimStart u).takeWhile fun c => !isBrace c, [],
    hblank, rfl, hinner, fun c hc => ?_, rfl, ?_⟩, ?_⟩
  · exact Bool.not_eq_true' _ |>.mp (List.all_eq_true.1 List.all_takeWhile c hc)
  · -- the path begins with a point, so that nothing is trimmed at its beginning
    obtain ⟨tail, htail⟩ := List.head?_eq_some_iff.1 hinner
    rw [htail]
    rfl
  · have hspan : Text.trimStart u =
        (Text.trimStart u).takeWhile (fun c => !isBrace c) ++ ("\x7d\x7d" ++ rest) := by
      rw [← hrest, List.takeWhile_append_dropWhile]
    calc t = "\x7b\x7b" ++ (u.takeWhile CodePoint.isBlank ++ Text.trimStart u) := by
          rw [Text.trimStart, List.takeWhile_append_dropWhile]
          exact hu
      _ = "\x7b\x7b" ++ (u.takeWhile CodePoint.isBlank ++
            ((Text.trimStart u).takeWhile (fun c => !isBrace c) ++ ("\x7d\x7d" ++ rest))) := by
          rw [← hspan]
      _ = _ := by simp only [List.append_assoc, List.append_nil]

/-- One expression at the beginning of a text, and what follows it. -/
theorem IsExpression.unique (h : IsExpression source path) (h' : IsExpression source' path')
    (heq : source ++ rest = source' ++ rest') : source = source' ∧ path = path' := by
  have hscan := scanExpression?_append h rest
  rw [heq, scanExpression?_append h' rest'] at hscan
  cases hscan
  exact ⟨List.append_cancel_right heq, rfl⟩

/-! ### Two expressions -/

/-- An expression does not begin inside another one. -/
theorem IsExpression.length_le (h : IsExpression source path) (h' : IsExpression source' path')
    {x : Text} (hx : x ≠ []) (heq : source ++ rest = x ++ (source' ++ rest')) :
    source.length ≤ x.length := by
  obtain ⟨inside, rfl, hne, hbraces⟩ := h.inside
  obtain ⟨inside', rfl, -, -⟩ := h'.inside
  have hbrace : isBrace (CodePoint.ofChar '{') = true := by decide
  obtain ⟨a, x, rfl⟩ := List.exists_cons_of_ne_nil hx
  obtain ⟨-, heq⟩ := List.cons.inj heq
  cases x with
  | nil =>
    -- the second of the braces would be followed by a brace
    obtain ⟨d, inside, rfl⟩ := List.exists_cons_of_ne_nil hne
    obtain ⟨-, heq⟩ := List.cons.inj heq
    obtain ⟨rfl, -⟩ := List.cons.inj heq
    rw [hbraces _ List.mem_cons_self] at hbrace
    cases hbrace
  | cons b x =>
    -- otherwise an opening brace would stand before the end of the first expression
    obtain ⟨-, heq⟩ := List.cons.inj heq
    by_contra hlt
    have hindex : x.length < (inside ++ "\x7d\x7d").length := by
      simp only [List.length_cons] at hlt
      omega
    have heq' : inside ++ "\x7d\x7d" ++ rest =
        x ++ (CodePoint.ofChar '{' :: CodePoint.ofChar '{' :: (inside' ++ "\x7d\x7d") ++ rest') :=
      heq
    have hat : (inside ++ "\x7d\x7d" ++ rest)[x.length]? = some (CodePoint.ofChar '{') := by
      rw [heq', List.getElem?_append_right le_rfl, Nat.sub_self]
      rfl
    rw [List.getElem?_append_left hindex] at hat
    rcases List.mem_append.1 (List.mem_of_getElem? hat) with hmem | hmem
    · rw [hbraces _ hmem] at hbrace
      cases hbrace
    · revert hmem
      decide

/-- **Two expressions of a text do not overlap**: they are one, or one ends before the other
begins. -/
theorem OccursAt.apart (h : OccursAt t before source path) (h' : OccursAt t before' source' path') :
    (before = before' ∧ source = source' ∧ path = path') ∨
      before.length + source.length ≤ before'.length ∨
      before'.length + source'.length ≤ before.length := by
  obtain ⟨hs, after, rfl⟩ := h
  obtain ⟨hs', after', heq⟩ := h'
  simp only [List.append_assoc] at heq
  rcases List.append_eq_append_iff.1 heq with ⟨x, rfl, hx⟩ | ⟨x, rfl, hx⟩
  · -- the second one begins at the first one or behind its beginning
    by_cases hnil : x = []
    · subst hnil
      obtain ⟨hsource, hpath⟩ := hs.unique hs' hx
      exact .inl ⟨(List.append_nil _).symm, hsource, hpath⟩
    · have hle := hs.length_le hs' hnil hx
      refine .inr (.inl ?_)
      rw [List.length_append]
      omega
  · by_cases hnil : x = []
    · subst hnil
      obtain ⟨hsource, hpath⟩ := hs'.unique hs hx
      exact .inl ⟨List.append_nil _, hsource.symm, hpath.symm⟩
    · have hle := hs'.length_le hs hnil hx
      refine .inr (.inr ?_)
      rw [List.length_append]
      omega

/-- An expression of two texts one after the other that begins in the second one. -/
theorem OccursAt.of_append (h : OccursAt (t ++ t') before source path)
    (hle : t.length ≤ before.length) :
    ∃ x, before = t ++ x ∧ OccursAt t' x source path := by
  obtain ⟨hs, after, heq⟩ := h
  rw [List.append_assoc] at heq
  rcases List.append_eq_append_iff.1 heq with ⟨x, rfl, hx⟩ | ⟨x, rfl, hx⟩
  · exact ⟨x, rfl, hs, after, hx.trans (List.append_assoc _ _ _).symm⟩
  · rw [List.length_append] at hle
    obtain rfl := List.length_eq_zero_iff.1 (by omega : x.length = 0)
    exact ⟨[], by simp only [List.append_nil], hs, after, hx.symm⟩

/-- An expression of two texts one after the other that ends in the first one. -/
theorem OccursAt.of_append_left (h : OccursAt (t ++ t') before source path)
    (hle : before.length + source.length ≤ t.length) : OccursAt t before source path := by
  obtain ⟨hs, after, heq⟩ := h
  rw [← List.length_append] at hle
  rcases List.append_eq_append_iff.1 heq with ⟨x, hx, -⟩ | ⟨x, hx, -⟩
  · rw [hx, List.length_append] at hle
    obtain rfl := List.length_eq_zero_iff.1 (by omega : x.length = 0)
    exact ⟨hs, [], by rw [hx, List.append_nil, List.append_nil]⟩
  · exact ⟨hs, x, hx⟩

theorem OccursAt.append_right (h : OccursAt t' before source path) (t : Text) :
    OccursAt (t ++ t') (t ++ before) source path := by
  obtain ⟨hs, after, rfl⟩ := h
  exact ⟨hs, after, by simp only [List.append_assoc]⟩

/-! ### The row of parts -/

/-- A literal code point, or an expression with its path. -/
inductive Part
  | literal (c : CodePoint)
  | expression (source path : Text)
  deriving DecidableEq

/-- What is written where a part stands. -/
def Part.text : Part → Text
  | .literal c => [c]
  | .expression source _ => source

/-- The piece that a part is for rendering. -/
def Part.piece : Part → Piece
  | .literal c => .literal c
  | .expression _ path => .expression path

/-- The parts make up the text, and the expressions among them are all expressions of the text. -/
structure Splits (t : Text) (parts : List Part) : Prop where
  texts : parts.flatMap Part.text = t
  written : ∀ source path, Part.expression source path ∈ parts → IsExpression source path
  complete : ∀ before source path, OccursAt t before source path →
    ∃ front back, parts = front ++ .expression source path :: back ∧
      front.flatMap Part.text = before

theorem splits_nil : Splits [] [] := by
  refine ⟨rfl, fun _ _ h => (List.not_mem_nil h).elim, fun before source path h => ?_⟩
  obtain ⟨hs, after, heq⟩ := h
  simp only [List.nil_eq, List.append_eq_nil_iff] at heq
  exact absurd heq.1.2 hs.ne_nil

namespace Splits

variable {parts parts' : List Part}

/-- A code point where no expression begins is literal. -/
theorem literal (hnone : scanExpression? (c :: t) = none) (h : Splits t parts) :
    Splits (c :: t) (.literal c :: parts) := by
  refine ⟨congrArg (c :: ·) h.texts, fun source path hmem => ?_, ?_⟩
  · rcases List.mem_cons.1 hmem with heq | hmem
    · cases heq
    · exact h.written source path hmem
  · rintro before source path ⟨hs, after, heq⟩
    cases before with
    | nil =>
      rw [heq, List.nil_append, scanExpression?_append hs] at hnone
      cases hnone
    | cons d before =>
      obtain ⟨rfl, htail⟩ := List.cons.inj heq
      obtain ⟨front, back, rfl, hfront⟩ := h.complete before source path ⟨hs, after, htail⟩
      exact ⟨.literal c :: front, back, rfl, congrArg (c :: ·) hfront⟩

/-- An expression at the beginning of a text is a part of it. -/
theorem expression (hs : IsExpression source path) (h : Splits t parts) :
    Splits (source ++ t) (.expression source path :: parts) := by
  refine ⟨congrArg (source ++ ·) h.texts, fun source' path' hmem => ?_, ?_⟩
  · rcases List.mem_cons.1 hmem with heq | hmem
    · cases heq
      exact hs
    · exact h.written source' path' hmem
  · intro before source' path' hat
    have hfirst : OccursAt (source ++ t) [] source path := ⟨hs, t, rfl⟩
    rcases hfirst.apart hat with ⟨rfl, rfl, rfl⟩ | hle | hle
    · exact ⟨[], parts, rfl, rfl⟩
    · -- the expression stands behind the first one
      obtain ⟨x, rfl, hx⟩ := hat.of_append (by simpa using hle)
      obtain ⟨front, back, rfl, hfront⟩ := h.complete x source' path' hx
      exact ⟨.expression source path :: front, back, rfl, congrArg (source ++ ·) hfront⟩
    · have hpos := List.length_pos_iff.2 hat.1.ne_nil
      rw [List.length_nil] at hle
      omega

theorem text_ne_nil (h : Splits t parts) {part : Part} (hmem : part ∈ parts) : part.text ≠ [] := by
  cases part with
  | literal c => exact List.cons_ne_nil _ _
  | expression source path => exact (h.written source path hmem).ne_nil

/-- If the row begins with an expression, every row does. -/
theorem head_eq (h : Splits t (.expression source path :: parts)) (h' : Splits t parts') :
    ∃ back, parts' = .expression source path :: back := by
  have hs := h.written source path List.mem_cons_self
  obtain ⟨front, back, rfl, hfront⟩ :=
    h'.complete [] source path ⟨hs, parts.flatMap Part.text, h.texts.symm⟩
  cases front with
  | nil => exact ⟨back, rfl⟩
  | cons part front =>
    have hmem : part ∈ part :: front ++ .expression source path :: back := List.mem_cons_self
    exact absurd (List.append_eq_nil_iff.1 hfront).1 (h'.text_ne_nil hmem)

/-- Behind its first part, a row has the expressions of the rest of the text. -/
theorem tail {part : Part} (h : Splits t (part :: parts)) :
    Splits (parts.flatMap Part.text) parts := by
  refine ⟨rfl, fun source path hmem => h.written source path (List.mem_cons_of_mem _ hmem), ?_⟩
  intro before source path hat
  have hmove : OccursAt t (part.text ++ before) source path := by
    rw [← h.texts]
    exact hat.append_right part.text
  obtain ⟨front, back, heq, hfront⟩ := h.complete _ source path hmove
  cases front with
  | nil =>
    have hmem : part ∈ part :: parts := List.mem_cons_self
    exact absurd (List.append_eq_nil_iff.1 hfront.symm).1 (h.text_ne_nil hmem)
  | cons first front =>
    obtain ⟨rfl, rfl⟩ := List.cons.inj heq
    exact ⟨front, back, rfl, List.append_cancel_left hfront⟩

/-- **A text splits in one way.** -/
theorem unique (h : Splits t parts) (h' : Splits t parts') : parts = parts' := by
  induction parts generalizing t parts' with
  | nil =>
    cases parts' with
    | nil => rfl
    | cons part' parts' =>
      have hmem : part' ∈ part' :: parts' := List.mem_cons_self
      exact absurd (List.append_eq_nil_iff.1 (h'.texts.trans h.texts.symm)).1 (h'.text_ne_nil hmem)
  | cons part parts ih =>
    -- an expression at the beginning is in both rows, since each has all of them
    have hfirst : ∃ back, parts' = part :: back := by
      cases part with
      | expression source path => exact h.head_eq h'
      | literal c =>
        cases parts' with
        | nil => cases h.texts.trans h'.texts.symm
        | cons part' parts' =>
          cases part' with
          | expression source path =>
            obtain ⟨back, hback⟩ := h'.head_eq h
            cases hback
          | literal d =>
            obtain ⟨rfl, -⟩ := List.cons.inj (h.texts.trans h'.texts.symm)
            exact ⟨parts', rfl⟩
    obtain ⟨back, rfl⟩ := hfirst
    have hrest : parts.flatMap Part.text = back.flatMap Part.text :=
      List.append_cancel_left (h.texts.trans h'.texts.symm)
    rw [ih h.tail (hrest ▸ h'.tail)]

end Splits

/-! ### What scanning finds -/

theorem pieces_of_isExpression (h : IsExpression source path) (rest : Text) :
    pieces (source ++ rest) = .expression path :: pieces rest := by
  have hscan := scanExpression?_append h rest
  obtain ⟨c, tail, rfl⟩ := List.exists_cons_of_ne_nil h.ne_nil
  rw [List.cons_append] at hscan ⊢
  rw [pieces, piecesAfter, hscan]
  dsimp only
  rw [piecesAfter_eq_drop, List.length_append, Nat.add_sub_cancel, List.drop_left]

theorem pieces_of_scanExpression?_eq_none (h : scanExpression? (c :: t) = none) :
    pieces (c :: t) = .literal c :: pieces t := by
  rw [pieces, piecesAfter, h]
  rfl

/-- Scanning from the left finds a row of parts. -/
theorem exists_splits (t : Text) : ∃ parts, Splits t parts ∧ parts.map Part.piece = pieces t := by
  -- by the length, since scanning goes on behind a whole expression
  induction hn : t.length using Nat.strong_induction_on generalizing t with
  | _ n ih =>
    cases t with
    | nil => exact ⟨[], splits_nil, rfl⟩
    | cons c t =>
      cases hscan : scanExpression? (c :: t) with
      | none =>
        obtain ⟨parts, hparts, hpieces⟩ := ih t.length (by simp [← hn]) t rfl
        refine ⟨.literal c :: parts, hparts.literal hscan, ?_⟩
        rw [pieces_of_scanExpression?_eq_none hscan, ← hpieces]
        rfl
      | some found =>
        obtain ⟨path, rest⟩ := found
        obtain ⟨source, hs, heq⟩ := isExpression_of_scanExpression? hscan
        have hpos := List.length_pos_iff.2 hs.ne_nil
        have hlength := congrArg List.length heq
        rw [List.length_append] at hlength
        obtain ⟨parts, hparts, hpieces⟩ := ih rest.length (by omega) rest rfl
        rw [heq]
        refine ⟨.expression source path :: parts, hparts.expression hs, ?_⟩
        rw [pieces_of_isExpression hs, ← hpieces]
        rfl

/-- **Every text splits into literal code points and its expressions in one way.** -/
theorem existsUnique_splits (t : Text) : ∃! parts, Splits t parts := by
  obtain ⟨parts, h, -⟩ := exists_splits t
  exact ⟨parts, h, fun _ h' => h'.unique h⟩

/-- **Scanning from the left finds the parts of a text.** -/
theorem pieces_of_splits {parts : List Part} (h : Splits t parts) :
    pieces t = parts.map Part.piece := by
  obtain ⟨parts', h', hpieces⟩ := exists_splits t
  rw [h.unique h', hpieces]

theorem Splits.mem_paths_iff {parts : List Part} (h : Splits t parts) :
    path ∈ paths t ↔ ∃ source, Part.expression source path ∈ parts := by
  rw [Template.mem_paths_iff, pieces_of_splits h, List.mem_map]
  constructor
  · rintro ⟨part, hmem, hpiece⟩
    cases part with
    | literal c => cases hpiece
    | expression source path' =>
      cases hpiece
      exact ⟨source, hmem⟩
  · rintro ⟨source, hmem⟩
    exact ⟨_, hmem, rfl⟩

/-! ### Two texts one after the other -/

/-- An expression begins in the first of two texts and ends in the second. -/
def Crosses (t t' : Text) : Prop :=
  ∃ before source path, OccursAt (t ++ t') before source path ∧
    before.length < t.length ∧ t.length < before.length + source.length

/-- A text without braces has no part in an expression of the template before it. -/
theorem not_crosses_of_no_brace (t : Text) (h : ∀ c ∈ t', isBrace c = false) :
    ¬ Crosses t t' := by
  rintro ⟨before, source, path, ⟨hs, after, heq⟩, -, hend⟩
  obtain ⟨inside, rfl, -⟩ := hs.inside
  -- the last brace of the expression stands in the second text
  have hlast : CodePoint.ofChar '}' ∈ t' := by
    have heq' : t ++ t' = (before ++ CodePoint.ofChar '{' :: CodePoint.ofChar '{' ::
        (inside ++ "\x7d")) ++ CodePoint.ofChar '}' :: after := by
      rw [heq]
      simp only [List.append_assoc, List.cons_append]
      rfl
    have hlength :
        (inside ++ ("\x7d\x7d" : Text)).length = (inside ++ ("\x7d" : Text)).length + 1 := by
      simp only [List.length_append]
      rfl
    rcases List.append_eq_append_iff.1 heq' with ⟨x, -, hx⟩ | ⟨x, hx, hrest⟩
    · rw [hx]
      exact List.mem_append_right _ List.mem_cons_self
    · have hnil : x = [] := by
        have := congrArg List.length hx
        simp only [List.length_append, List.length_cons] at this hlength hend
        exact List.length_eq_zero_iff.1 (by omega)
      subst hnil
      rw [← List.nil_append t', ← hrest]
      exact List.mem_cons_self
  have hbrace : isBrace (CodePoint.ofChar '}') = true := by decide
  rw [h _ hlast] at hbrace
  cases hbrace

theorem Splits.append {parts parts' : List Part} (h : Splits t parts) (h' : Splits t' parts')
    (hcross : ¬ Crosses t t') : Splits (t ++ t') (parts ++ parts') := by
  refine ⟨?_, fun source path hmem => ?_, fun before source path hat => ?_⟩
  · rw [List.flatMap_append, h.texts, h'.texts]
  · exact (List.mem_append.1 hmem).elim (h.written source path) (h'.written source path)
  · by_cases hright : t.length ≤ before.length
    · obtain ⟨x, rfl, hx⟩ := hat.of_append hright
      obtain ⟨front, back, rfl, hfront⟩ := h'.complete x source path hx
      refine ⟨parts ++ front, back, (List.append_assoc _ _ _).symm, ?_⟩
      rw [List.flatMap_append, h.texts, hfront]
    · -- an expression that begins in the first text ends in it, or it would cross
      have hleft : before.length + source.length ≤ t.length := by
        by_contra hlong
        exact hcross ⟨before, source, path, hat, by omega, by omega⟩
      obtain ⟨front, back, rfl, hfront⟩ := h.complete before source path (hat.of_append_left hleft)
      exact ⟨front, back ++ parts', List.append_assoc _ _ _, hfront⟩

/-- Without an expression across the boundary, two texts are scanned one after the other. -/
theorem pieces_append (hcross : ¬ Crosses t t') : pieces (t ++ t') = pieces t ++ pieces t' := by
  obtain ⟨parts, h, hpieces⟩ := exists_splits t
  obtain ⟨parts', h', hpieces'⟩ := exists_splits t'
  rw [pieces_of_splits (h.append h' hcross), List.map_append, hpieces, hpieces']

end DesiredState.Template
