import DesiredState.Proofs.Settings.Sources
import DesiredState.Proofs.Template.Decomposition
import DesiredState.Settings.Environment

/-!
# References and what replaces them

A text is read once, from the left. Where a reference begins it is taken as a whole, and reading
goes on behind it; every other code point is literal. So a text is in one way a row of literal code
points and references, and replacing the references of this row is all that happens to it. In a
value, this happens to each text that is not a key, and to nothing else.

* `Reference.IsWritten`: how a reference is written.
* `Reference.Scans`: **how a text is read**, which by `Reference.existsUnique_scans` is one way.
* `Reference.Scans.expression`: an expression of a template is literal as a whole.
* `Environment.interpolate_of_scans`: the references of the row are replaced.
* `Text.IsResolvable`: all variables that a text refers to can be looked up.
* `Environment.Filled`: a value with the texts in it replaced, and
  `Environment.interpolateData_eq_ok_iff`.
* `Environment.replaces_references`: **what happens to texts and to values.**
-/

namespace DesiredState

variable {t rest rest' source source' name : Text} {r r' : Reference} {c : CodePoint}
  {env : Environment}

/-! ### One reference -/

namespace Reference

/-- How a reference is written, without a default and with one. -/
inductive IsWritten : Text → Reference → Prop
  | plain {name : Text} (hne : name ≠ [])
      (hname : ∀ c ∈ name, c ≠ CodePoint.ofChar '}' ∧ c ≠ CodePoint.ofChar ':') :
      IsWritten ("$\x7b" ++ name ++ "\x7d") ⟨name, none⟩
  | withDefault {name default : Text} (hne : name ≠ [])
      (hname : ∀ c ∈ name, c ≠ CodePoint.ofChar '}' ∧ c ≠ CodePoint.ofChar ':')
      (hdefault : ∀ c ∈ default, c ≠ CodePoint.ofChar '}' ∧ c ≠ CodePoint.ofChar '\n') :
      IsWritten ("$\x7b" ++ name ++ ":-" ++ default ++ "\x7d") ⟨name, some default⟩

theorem IsWritten.ne_nil (h : IsWritten source r) : source ≠ [] := by
  cases h <;> exact List.cons_ne_nil _ _

theorem ne_ofChar_iff {d : Char} : c ≠ CodePoint.ofChar d ↔ c.val ≠ d.toNat :=
  not_congr CodePoint.eq_ofChar_iff

theorem isNamePart_iff :
    isNamePart c = true ↔ c ≠ CodePoint.ofChar '}' ∧ c ≠ CodePoint.ofChar ':' := by
  unfold isNamePart
  rw [ne_ofChar_iff, ne_ofChar_iff, Bool.and_eq_true, bne_iff_ne, bne_iff_ne]
  rfl

/-- A default ends at the first closing brace. -/
theorem scanDefault?_eq_some_iff {default : Text} : scanDefault? t = some (default, rest) ↔
    t = default ++ CodePoint.ofChar '}' :: rest ∧
      ∀ c ∈ default, c ≠ CodePoint.ofChar '}' ∧ c ≠ CodePoint.ofChar '\n' := by
  constructor
  · intro h
    unfold scanDefault? at h
    dsimp only at h
    split at h
    · cases h
    next brace tail hdrop =>
    split at h
    · cases h
    next hlines =>
    cases h
    have hbrace : brace = CodePoint.ofChar '}' := by
      have hfirst := List.head?_dropWhile_not (fun c : CodePoint => c.val != 0x7D) t
      rw [hdrop] at hfirst
      have hval : brace.val = 0x7D := by simpa using hfirst
      exact CodePoint.ext hval
    refine ⟨?_, fun c hc => ⟨?_, ?_⟩⟩
    · rw [← hbrace, ← hdrop, List.takeWhile_append_dropWhile]
    · exact ne_ofChar_iff.2 (by simpa using List.all_eq_true.1 List.all_takeWhile c hc)
    · intro hline
      exact hlines (List.any_eq_true.2 ⟨c, hc, by rw [hline]; rfl⟩)
  · rintro ⟨rfl, hdefault⟩
    have hbraces : ∀ c ∈ default, (c.val != 0x7D) = true := fun c hc =>
      bne_iff_ne.2 (ne_ofChar_iff.1 (hdefault c hc).1)
    have hlines : (default.any fun c => c.val == 0x0A) = false := by
      rw [List.any_eq_false]
      intro c hc hline
      exact ne_ofChar_iff.1 (hdefault c hc).2 (by simpa using hline)
    have hclose : ∀ c ∈ (CodePoint.ofChar '}' :: rest).head?, (c.val != 0x7D) = false := by
      rintro c ⟨⟩
      rfl
    obtain ⟨htake, hdrop⟩ := Text.span_append hbraces hclose
    unfold scanDefault?
    dsimp only
    rw [htake, hdrop]
    dsimp only
    rw [hlines]
    rfl

/-- The steps of a scan: what stands behind the opening brace, the name, and what stands behind it. -/
theorem scan_steps (hname : ∀ c ∈ name, c ≠ CodePoint.ofChar '}' ∧ c ≠ CodePoint.ofChar ':')
    (hc : isNamePart c = false) (rest : Text) :
    Text.cut? "$\x7b" ("$\x7b" ++ (name ++ c :: rest)) = some (name ++ c :: rest) ∧
      (name ++ c :: rest).takeWhile isNamePart = name ∧
      (name ++ c :: rest).dropWhile isNamePart = c :: rest := by
  have hstop : ∀ d ∈ (c :: rest).head?, isNamePart d = false := by
    rintro d ⟨⟩
    exact hc
  exact ⟨Text.cut?_eq_some_iff.2 rfl,
    Text.span_append (fun d hd => isNamePart_iff.2 (hname d hd)) hstop⟩

/-- A reference at the beginning of a text is scanned. -/
theorem scan?_append (h : IsWritten source r) (rest : Text) :
    scan? (source ++ rest) = some (r, rest) := by
  cases h with
  | @plain name hne hname =>
    have htext : "$\x7b" ++ name ++ "\x7d" ++ rest =
        "$\x7b" ++ (name ++ CodePoint.ofChar '}' :: rest) := by
      simp only [List.append_assoc]
      rfl
    obtain ⟨hcut, htake, hdrop⟩ := scan_steps (c := CodePoint.ofChar '}') hname rfl rest
    obtain ⟨d, name, rfl⟩ := List.exists_cons_of_ne_nil hne
    have hclose : Text.cut? "\x7d" (CodePoint.ofChar '}' :: rest) = some rest :=
      Text.cut?_eq_some_iff.2 rfl
    rw [htext]
    unfold scan?
    simp only [hcut, htake, hdrop, hclose]
  | @withDefault name default hne hname hdefault =>
    have htext : "$\x7b" ++ name ++ ":-" ++ default ++ "\x7d" ++ rest =
        "$\x7b" ++ (name ++ CodePoint.ofChar ':' :: CodePoint.ofChar '-' ::
          (default ++ CodePoint.ofChar '}' :: rest)) := by
      simp only [List.append_assoc]
      rfl
    obtain ⟨hcut, htake, hdrop⟩ := scan_steps (c := CodePoint.ofChar ':') hname rfl
      (CodePoint.ofChar '-' :: (default ++ CodePoint.ofChar '}' :: rest))
    obtain ⟨d, name, rfl⟩ := List.exists_cons_of_ne_nil hne
    -- the colon does not close the reference, so the default is scanned
    have hopen : Text.cut? "\x7d" (CodePoint.ofChar ':' :: CodePoint.ofChar '-' ::
        (default ++ CodePoint.ofChar '}' :: rest)) = none := rfl
    have hcolon : Text.cut? ":-" (CodePoint.ofChar ':' :: CodePoint.ofChar '-' ::
        (default ++ CodePoint.ofChar '}' :: rest)) =
        some (default ++ CodePoint.ofChar '}' :: rest) := Text.cut?_eq_some_iff.2 rfl
    have hscan : scanDefault? (default ++ CodePoint.ofChar '}' :: rest) = some (default, rest) :=
      scanDefault?_eq_some_iff.2 ⟨rfl, hdefault⟩
    rw [htext]
    unfold scan?
    simp only [hcut, htake, hdrop, hopen, hcolon, hscan, Option.map_some]

/-- What is scanned at the beginning of a text is a reference. -/
theorem isWritten_of_scan? (h : scan? t = some (r, rest)) :
    ∃ source, IsWritten source r ∧ t = source ++ rest := by
  unfold scan? at h
  split at h
  · cases h
  next u hu =>
  rw [Text.cut?_eq_some_iff] at hu
  split at h
  · cases h
  next c name htake =>
  dsimp only at h
  have hspan : u = (c :: name) ++ u.dropWhile isNamePart := by
    rw [← htake, List.takeWhile_append_dropWhile]
  have hname : ∀ d ∈ c :: name, d ≠ CodePoint.ofChar '}' ∧ d ≠ CodePoint.ofChar ':' := by
    intro d hd
    rw [← htake] at hd
    exact isNamePart_iff.1 (List.all_eq_true.1 List.all_takeWhile d hd)
  have hne : c :: name ≠ [] := List.cons_ne_nil c name
  rw [hu]
  split at h
  · next hrest =>
    cases h
    rw [Text.cut?_eq_some_iff] at hrest
    refine ⟨_, .plain hne hname, ?_⟩
    rw [hspan, hrest]
    simp only [List.append_assoc]
  · next tail _ hrest =>
    rw [Text.cut?_eq_some_iff] at hrest
    obtain ⟨⟨default, rest'⟩, hscan, heq⟩ := Option.map_eq_some_iff.1 h
    cases heq
    obtain ⟨rfl, hdefault⟩ := scanDefault?_eq_some_iff.1 hscan
    refine ⟨_, .withDefault hne hname hdefault, ?_⟩
    rw [hspan, hrest]
    simp only [List.append_assoc]
    rfl
  · cases h

/-- One reference at the beginning of a text, and what follows it. -/
theorem IsWritten.unique (h : IsWritten source r) (h' : IsWritten source' r')
    (heq : source ++ rest = source' ++ rest') : source = source' ∧ r = r' ∧ rest = rest' := by
  have hscan := scan?_append h rest
  rw [heq, scan?_append h' rest'] at hscan
  cases hscan
  exact ⟨List.append_cancel_right heq, rfl, rfl⟩

/-! ### The row of a text -/

/-- A literal code point, or a reference as it is written. -/
inductive Segment
  | literal (c : CodePoint)
  | reference (source : Text) (r : Reference)
  deriving DecidableEq

/-- What is written where a segment stands. -/
def Segment.text : Segment → Text
  | .literal c => [c]
  | .reference source _ => source

/-- **How a text is read.** A reference is taken where one begins, and reading goes on behind it. A
code point is literal where no reference begins. -/
inductive Scans : Text → List Segment → Prop
  | nil : Scans [] []
  | reference {source rest : Text} {r : Reference} {row : List Segment} (h : IsWritten source r)
      (hrest : Scans rest row) : Scans (source ++ rest) (.reference source r :: row)
  | literal {c : CodePoint} {t : Text} {row : List Segment}
      (hnone : ∀ source r rest, IsWritten source r → c :: t ≠ source ++ rest)
      (ht : Scans t row) : Scans (c :: t) (.literal c :: row)

variable {row row' front back : List Segment}

theorem scan?_eq_none_iff :
    scan? t = none ↔ ∀ source r rest, IsWritten source r → t ≠ source ++ rest := by
  constructor
  · rintro hscan source r rest h rfl
    rw [scan?_append h] at hscan
    cases hscan
  · intro hnone
    cases hscan : scan? t with
    | none => rfl
    | some found =>
      obtain ⟨source, h, heq⟩ := isWritten_of_scan? hscan
      exact absurd heq (hnone source _ _ h)

theorem scans_nil_iff : Scans [] row ↔ row = [] := by
  constructor
  · intro h
    generalize ht : ([] : Text) = t at h
    cases h with
    | nil => rfl
    | reference h _ => exact absurd (List.append_eq_nil_iff.1 ht.symm).1 h.ne_nil
    | literal _ _ => cases ht
  · rintro rfl
    exact .nil

/-- Where a reference begins, it is the first segment. -/
theorem scans_append_iff (h : IsWritten source r) : Scans (source ++ rest) row ↔
    ∃ back, row = .reference source r :: back ∧ Scans rest back := by
  constructor
  · intro hs
    generalize ht : source ++ rest = t at hs
    cases hs with
    | nil => exact absurd (List.append_eq_nil_iff.1 ht).1 h.ne_nil
    | reference h' hrest =>
      obtain ⟨rfl, rfl, rfl⟩ := h.unique h' ht
      exact ⟨_, rfl, hrest⟩
    | literal hnone _ => exact absurd ht.symm (hnone source r rest h)
  · rintro ⟨back, rfl, hrest⟩
    exact .reference h hrest

/-- Where no reference begins, the first segment is literal. -/
theorem scans_cons_iff (hscan : scan? (c :: t) = none) :
    Scans (c :: t) row ↔ ∃ back, row = .literal c :: back ∧ Scans t back := by
  constructor
  · intro hs
    generalize hu : c :: t = u at hs
    cases hs with
    | nil => cases hu
    | reference h _ => exact absurd hu (scan?_eq_none_iff.1 hscan _ _ _ h)
    | literal _ ht =>
      cases hu
      exact ⟨_, rfl, ht⟩
  · rintro ⟨back, rfl, ht⟩
    exact .literal (scan?_eq_none_iff.1 hscan) ht

/-- **Every text is read in one way.** -/
theorem existsUnique_scans (t : Text) : ∃! row, Scans t row := by
  -- by the length, since reading goes on behind a whole reference
  induction hn : t.length using Nat.strong_induction_on generalizing t with
  | _ n ih =>
    cases t with
    | nil => exact ⟨[], .nil, fun _ h => scans_nil_iff.1 h⟩
    | cons c t =>
      cases hscan : scan? (c :: t) with
      | none =>
        obtain ⟨back, hback, huniq⟩ := ih t.length (by simp [← hn]) t rfl
        refine ⟨.literal c :: back, (scans_cons_iff hscan).2 ⟨back, rfl, hback⟩, fun row h => ?_⟩
        obtain ⟨back', rfl, hback'⟩ := (scans_cons_iff hscan).1 h
        rw [huniq back' hback']
      | some found =>
        obtain ⟨source, h, heq⟩ := isWritten_of_scan? hscan
        have hpos := List.length_pos_iff.2 h.ne_nil
        have hlength := congrArg List.length heq
        rw [List.length_append] at hlength
        obtain ⟨back, hback, huniq⟩ := ih found.2.length (by omega) found.2 rfl
        rw [heq]
        refine ⟨.reference source found.1 :: back, .reference h hback, fun row h' => ?_⟩
        obtain ⟨back', rfl, hback'⟩ := (scans_append_iff h).1 h'
        rw [huniq back' hback']

namespace Scans

theorem texts (h : Scans t row) : row.flatMap Segment.text = t := by
  induction h with
  | nil => rfl
  | @reference source rest r row _ _ ih => exact congrArg (source ++ ·) ih
  | @literal c t row _ _ ih => exact congrArg (c :: ·) ih

theorem written (h : Scans t row) (hmem : .reference source r ∈ row) : IsWritten source r := by
  induction h with
  | nil => cases hmem
  | reference h _ ih =>
    rcases List.mem_cons.1 hmem with heq | hmem
    · cases heq
      exact h
    · exact ih hmem
  | literal _ _ ih =>
    rcases List.mem_cons.1 hmem with heq | hmem
    · cases heq
    · exact ih hmem

/-- From each of its segments on, a row is that of the text from there. -/
theorem suffix (h : Scans t (front ++ back)) : Scans (back.flatMap Segment.text) back := by
  induction front generalizing t with
  | nil =>
    rw [List.nil_append] at h
    rwa [h.texts]
  | cons segment front ih =>
    cases h with
    | reference _ hrest => exact ih hrest
    | literal _ ht => exact ih ht

end Scans

/-! ### Expressions of templates -/

/-- Behind a dollar sign of an expression stands something else than an opening brace. -/
theorem ne_brace_of_isExpression {path before : Text} (h : Template.IsExpression source path)
    (hsource : source = before ++ CodePoint.ofChar '$' :: t) :
    ∃ d tail, t = d :: tail ∧ d ≠ CodePoint.ofChar '{' := by
  obtain ⟨inside, rfl, -, hbraces⟩ := h.inside
  cases before with
  | nil => cases hsource
  | cons first before =>
  cases before with
  | nil => cases hsource
  | cons second before =>
  obtain ⟨-, hsource⟩ := List.cons.inj hsource
  obtain ⟨-, hsource⟩ := List.cons.inj hsource
  rcases List.append_eq_append_iff.1 hsource with ⟨x, -, hx⟩ | ⟨x, rfl, hx⟩
  · have hmem : CodePoint.ofChar '$' ∈ ("\x7d\x7d" : Text) := by
      rw [hx]
      exact List.mem_append_right _ List.mem_cons_self
    exact absurd hmem (by decide)
  · cases x with
    | nil => cases hx
    | cons dollar x =>
      obtain ⟨-, rfl⟩ := List.cons.inj hx
      cases x with
      | nil => exact ⟨CodePoint.ofChar '}', "\x7d", rfl, by decide⟩
      | cons d x =>
        refine ⟨d, x ++ "\x7d\x7d", rfl, ?_⟩
        rintro rfl
        have hbrace := hbraces (CodePoint.ofChar '{') (by simp)
        revert hbrace
        decide

/-- No reference begins inside an expression. -/
theorem scan?_eq_none_of_isExpression {path before : Text}
    (h : Template.IsExpression source path) (hsource : source = before ++ c :: t) :
    scan? (c :: t ++ rest) = none := by
  rw [scan?_eq_none_iff]
  intro source' r rest' h' heq
  have hdollar : ∃ tail, source' = CodePoint.ofChar '$' :: CodePoint.ofChar '{' :: tail := by
    cases h' <;> exact ⟨_, rfl⟩
  obtain ⟨tail, rfl⟩ := hdollar
  obtain ⟨rfl, htail⟩ := List.cons.inj heq
  obtain ⟨d, t, rfl, hne⟩ := ne_brace_of_isExpression h hsource
  exact hne (List.cons.inj htail).1

/-- An expression at which reading arrives is literal as a whole. -/
theorem Scans.expression {path : Text} (he : Template.IsExpression source path)
    (h : Scans (source ++ rest) row) :
    ∃ back, row = source.map .literal ++ back ∧ Scans rest back := by
  -- by induction on what is left of the expression
  suffices hleft : ∀ before left row, source = before ++ left → Scans (left ++ rest) row →
      ∃ back, row = left.map .literal ++ back ∧ Scans rest back from hleft [] source row rfl h
  intro before left
  induction left generalizing before with
  | nil => exact fun row _ hs => ⟨row, rfl, hs⟩
  | cons c left ih =>
    intro row hsource hs
    obtain ⟨back, rfl, hback⟩ :=
      (scans_cons_iff (scan?_eq_none_of_isExpression he hsource)).1 hs
    obtain ⟨back', rfl, hrest⟩ := ih (before ++ [c]) back (by simp [hsource]) hback
    exact ⟨back', rfl, hrest⟩

end Reference

open Reference (Segment Scans IsWritten scan?)

/-! ### What replaces a reference -/

namespace Environment

variable {row : List Segment}

/-- The value of the variable if it is set and not empty, else the default, else nothing. -/
def inserted (env : Environment) (r : Reference) : Text :=
  ((env.get? r.name).filter (· ≠ [])).getD (r.default.getD [])

/-- What stands for a segment once references are replaced. -/
def filled (env : Environment) : Segment → Text
  | .literal c => [c]
  | .reference _ r => env.inserted r

/-- Why a segment cannot be replaced, if it cannot. -/
def fault? : Segment → Option Utf8Fault
  | .literal _ => none
  | .reference _ r => Text.systemFault? r.name

theorem resolve_eq (env : Environment) (r : Reference) : env.resolve r =
    match Text.systemFault? r.name with
    | some fault => .error fault
    | none => .ok (env.inserted r) := by
  unfold resolve inserted
  cases Text.systemFault? r.name with
  | some fault => rfl
  | none =>
    dsimp only
    rcases env.get? r.name with _ | _ | ⟨c, value⟩ <;> rfl

theorem interpolateAfter_eq_drop (skip : Nat) (t : Text) :
    env.interpolateAfter skip t = env.interpolate (t.drop skip) := by
  induction t generalizing skip with
  | nil => cases skip <;> simp [interpolateAfter, interpolate]
  | cons c t ih =>
    cases skip with
    | zero => rfl
    | succ skip => rw [interpolateAfter, ih, List.drop_succ_cons]

theorem interpolate_append (h : IsWritten source r) (rest : Text) :
    env.interpolate (source ++ rest) = (do
      let value ← env.resolve r
      return value ++ (← env.interpolate rest)) := by
  have hscan := Reference.scan?_append h rest
  obtain ⟨c, tail, rfl⟩ := List.exists_cons_of_ne_nil h.ne_nil
  rw [List.cons_append] at hscan ⊢
  rw [interpolate, interpolateAfter, hscan]
  dsimp only
  rw [interpolateAfter_eq_drop, List.length_append, Nat.add_sub_cancel, List.drop_left]

theorem interpolate_cons (hscan : scan? (c :: t) = none) :
    env.interpolate (c :: t) = (do return c :: (← env.interpolate t)) := by
  rw [interpolate, interpolateAfter, hscan]
  rfl

/-- **The references of the row are replaced.** The first that cannot be looked up is what this fails
with. -/
theorem interpolate_of_scans (h : Scans t row) : env.interpolate t =
    match row.findSome? fault? with
    | some fault => .error fault
    | none => .ok (row.flatMap env.filled) := by
  induction h with
  | nil => rfl
  | @reference source rest r row h _ ih =>
    rw [interpolate_append h, resolve_eq, ih, List.findSome?_cons]
    simp only [fault?]
    cases Text.systemFault? r.name with
    | some fault => rfl
    | none => cases row.findSome? fault? <;> rfl
  | @literal c t row hnone _ ih =>
    rw [interpolate_cons (Reference.scan?_eq_none_iff.2 hnone), ih, List.findSome?_cons]
    simp only [fault?]
    cases row.findSome? fault? <;> rfl

end Environment

/-- Every reference of the text is one to a variable that can be looked up. -/
def Text.IsResolvable (t : Text) : Prop :=
  ∀ row, Scans t row → ∀ source r, .reference source r ∈ row → systemFault? r.name = none

/-- In a text without surrogates, every reference can be looked up. -/
theorem Text.NoSurrogates.isResolvable (h : t.NoSurrogates) : t.IsResolvable := by
  intro row hs source r hmem
  have hsource : source ⊆ t := fun c hc => hs.texts ▸ List.mem_flatMap.2 ⟨_, hmem, hc⟩
  have hname : r.name ⊆ source := by
    cases hs.written hmem <;> simp
  refine encodingFault?_eq_none_iff.2 fun c hc hsurrogate => ?_
  rw [h c (hsource (hname hc))] at hsurrogate
  cases hsurrogate

namespace Environment

variable {row : List Segment}

theorem interpolate_of_isResolvable (h : Scans t row) (ht : t.IsResolvable) :
    env.interpolate t = .ok (row.flatMap env.filled) := by
  have hnone : row.findSome? fault? = none := by
    rw [List.findSome?_eq_none_iff]
    rintro (c | ⟨source, r⟩) hmem
    · rfl
    · exact ht row h source r hmem
  rw [interpolate_of_scans h, hnone]

/-- Whether a text can be replaced does not depend on the values of variables. -/
theorem exists_interpolate_iff : (∃ s, env.interpolate t = .ok s) ↔ t.IsResolvable := by
  obtain ⟨row, h, -⟩ := Reference.existsUnique_scans t
  constructor
  · rintro ⟨s, hs⟩ row' h' source r hmem
    rw [interpolate_of_scans h'] at hs
    cases hnone : row'.findSome? fault? with
    | some fault =>
      rw [hnone] at hs
      cases hs
    | none => exact List.findSome?_eq_none_iff.1 hnone _ hmem
  · intro ht
    exact ⟨_, interpolate_of_isResolvable h ht⟩

end Environment


/-! ### Values -/

namespace Data

mutual

/-- The texts in a value, without its keys. -/
def texts : Data → List Text
  | .scalar (.str s) => [s]
  | .scalar _ => []
  | .date _ => []
  | .list items => textsOfItems items
  | .dict entries => textsOfEntries entries

/-- The texts in the items. -/
def textsOfItems : List Data → List Text
  | [] => []
  | v :: vs => texts v ++ textsOfItems vs

/-- The texts in the values of the entries. -/
def textsOfEntries : List (Key × Data) → List Text
  | [] => []
  | (_, v) :: es => texts v ++ textsOfEntries es

end

end Data

namespace Environment

mutual

/-- One value is the other with its texts replaced. Everything else is as it was: the keys, the
number and the order of items and entries, and whatever is no text. -/
inductive Filled (env : Environment) : Data → Data → Prop
  | text {s s' : Text} (h : env.interpolate s = .ok s') :
      Filled env (.scalar (.str s)) (.scalar (.str s'))
  | scalar {s : Scalar} (h : ∀ t, s ≠ .str t) : Filled env (.scalar s) (.scalar s)
  | date (written : Text) : Filled env (.date written) (.date written)
  | list {items items' : List Data} (h : FilledItems env items items') :
      Filled env (.list items) (.list items')
  | dict {entries entries' : List (Key × Data)} (h : FilledEntries env entries entries') :
      Filled env (.dict entries) (.dict entries')

/-- `Filled` for each item. -/
inductive FilledItems (env : Environment) : List Data → List Data → Prop
  | nil : FilledItems env [] []
  | cons {v w : Data} {vs ws : List Data} (h : Filled env v w) (hs : FilledItems env vs ws) :
      FilledItems env (v :: vs) (w :: ws)

/-- `Filled` for the value of each entry. -/
inductive FilledEntries (env : Environment) : List (Key × Data) → List (Key × Data) → Prop
  | nil : FilledEntries env [] []
  | cons {k : Key} {v w : Data} {es fs : List (Key × Data)} (h : Filled env v w)
      (hs : FilledEntries env es fs) : FilledEntries env ((k, v) :: es) ((k, w) :: fs)

end

mutual

/-- **What happens to a value.** -/
theorem interpolateData_eq_ok_iff :
    (v w : Data) → (env.interpolateData v = .ok w ↔ Filled env v w)
  | .scalar s, w => by
    constructor
    · intro h
      cases s with
      | str s =>
        rw [interpolateData, bind_eq_ok_iff] at h
        obtain ⟨s', hs, ⟨⟩⟩ := h
        exact .text hs
      | _ =>
        cases h
        exact .scalar nofun
    · intro h
      cases h with
      | text h => rw [interpolateData, h]; rfl
      | scalar h =>
        cases s with
        | str s => exact absurd rfl (h s)
        | _ => rfl
  | .date written, w => by
    constructor
    · intro h
      cases h
      exact .date written
    · intro h
      cases h
      rfl
  | .list items, w => by
    rw [interpolateData, bind_eq_ok_iff]
    constructor
    · rintro ⟨items', h, ⟨⟩⟩
      exact .list ((interpolateItems_eq_ok_iff items items').1 h)
    · intro h
      cases h with
      | list h => exact ⟨_, (interpolateItems_eq_ok_iff items _).2 h, rfl⟩
  | .dict entries, w => by
    rw [interpolateData, bind_eq_ok_iff]
    constructor
    · rintro ⟨entries', h, ⟨⟩⟩
      exact .dict ((interpolateEntries_eq_ok_iff entries entries').1 h)
    · intro h
      cases h with
      | dict h => exact ⟨_, (interpolateEntries_eq_ok_iff entries _).2 h, rfl⟩

theorem interpolateItems_eq_ok_iff :
    (vs ws : List Data) → (env.interpolateItems vs = .ok ws ↔ FilledItems env vs ws)
  | [], ws => by
    constructor
    · intro h
      cases h
      exact .nil
    · intro h
      cases h
      rfl
  | v :: vs, ws => by
    rw [interpolateItems, bind_eq_ok_iff]
    simp only [bind_eq_ok_iff]
    constructor
    · rintro ⟨w, hw, ws, hws, ⟨⟩⟩
      exact .cons ((interpolateData_eq_ok_iff v w).1 hw) ((interpolateItems_eq_ok_iff vs ws).1 hws)
    · intro h
      cases h with
      | cons hw hws => exact ⟨_, (interpolateData_eq_ok_iff v _).2 hw, _,
          (interpolateItems_eq_ok_iff vs _).2 hws, rfl⟩

theorem interpolateEntries_eq_ok_iff :
    (es fs : List (Key × Data)) → (env.interpolateEntries es = .ok fs ↔ FilledEntries env es fs)
  | [], fs => by
    constructor
    · intro h
      cases h
      exact .nil
    · intro h
      cases h
      rfl
  | (k, v) :: es, fs => by
    rw [interpolateEntries, bind_eq_ok_iff]
    simp only [bind_eq_ok_iff]
    constructor
    · rintro ⟨w, hw, fs, hfs, ⟨⟩⟩
      exact .cons ((interpolateData_eq_ok_iff v w).1 hw)
        ((interpolateEntries_eq_ok_iff es fs).1 hfs)
    · intro h
      cases h with
      | cons hw hfs => exact ⟨_, (interpolateData_eq_ok_iff v _).2 hw, _,
          (interpolateEntries_eq_ok_iff es _).2 hfs, rfl⟩

end

mutual

/-- A value can be replaced exactly if each text in it can. -/
theorem exists_interpolateData_iff : (v : Data) →
    ((∃ w, env.interpolateData v = .ok w) ↔ ∀ t ∈ v.texts, t.IsResolvable)
  | .scalar s => by
    cases s with
    | str s =>
      rw [Data.texts, List.forall_mem_singleton, ← exists_interpolate_iff, interpolateData]
      simp only [bind_eq_ok_iff]
      constructor
      · rintro ⟨_, s', hs, -⟩
        exact ⟨s', hs⟩
      · rintro ⟨s', hs⟩
        exact ⟨_, s', hs, rfl⟩
    | _ => exact iff_of_true ⟨_, rfl⟩ (List.forall_mem_nil _)
  | .date written => iff_of_true ⟨_, rfl⟩ (List.forall_mem_nil _)
  | .list items => by
    rw [Data.texts, ← exists_interpolateItems_iff items, interpolateData]
    simp only [bind_eq_ok_iff]
    constructor
    · rintro ⟨_, items', h, -⟩
      exact ⟨items', h⟩
    · rintro ⟨items', h⟩
      exact ⟨_, items', h, rfl⟩
  | .dict entries => by
    rw [Data.texts, ← exists_interpolateEntries_iff entries, interpolateData]
    simp only [bind_eq_ok_iff]
    constructor
    · rintro ⟨_, entries', h, -⟩
      exact ⟨entries', h⟩
    · rintro ⟨entries', h⟩
      exact ⟨_, entries', h, rfl⟩

theorem exists_interpolateItems_iff : (vs : List Data) →
    ((∃ ws, env.interpolateItems vs = .ok ws) ↔
      ∀ t ∈ Data.textsOfItems vs, t.IsResolvable)
  | [] => iff_of_true ⟨_, rfl⟩ (List.forall_mem_nil _)
  | v :: vs => by
    rw [Data.textsOfItems, List.forall_mem_append, ← exists_interpolateData_iff v,
      ← exists_interpolateItems_iff vs, interpolateItems]
    simp only [bind_eq_ok_iff]
    constructor
    · rintro ⟨_, w, hw, ws, hws, -⟩
      exact ⟨⟨w, hw⟩, ws, hws⟩
    · rintro ⟨⟨w, hw⟩, ws, hws⟩
      exact ⟨_, w, hw, ws, hws, rfl⟩

theorem exists_interpolateEntries_iff : (es : List (Key × Data)) →
    ((∃ fs, env.interpolateEntries es = .ok fs) ↔
      ∀ t ∈ Data.textsOfEntries es, t.IsResolvable)
  | [] => iff_of_true ⟨_, rfl⟩ (List.forall_mem_nil _)
  | (k, v) :: es => by
    rw [Data.textsOfEntries, List.forall_mem_append, ← exists_interpolateData_iff v,
      ← exists_interpolateEntries_iff es, interpolateEntries]
    simp only [bind_eq_ok_iff]
    constructor
    · rintro ⟨_, w, hw, fs, hfs, -⟩
      exact ⟨⟨w, hw⟩, fs, hfs⟩
    · rintro ⟨⟨w, hw⟩, fs, hfs⟩
      exact ⟨_, w, hw, fs, hfs, rfl⟩

end

/-! ### Texts and values -/

/-- **What happens to texts and to values.** A text without surrogates is read in one way as a row
of literal code points and references; what is literal stays, a template's expression outside of the
references is literal as a whole, and each reference is replaced by what is inserted for it, which
is not looked at again. A value is the one with its texts replaced and nothing else changed, and
without surrogates in its texts there is such a value. -/
theorem replaces_references (env : Environment) :
    (∀ t : Text, t.NoSurrogates → ∃ row, Scans t row ∧ (∀ row', Scans t row' → row' = row) ∧
      row.flatMap Segment.text = t ∧ env.interpolate t = .ok (row.flatMap env.filled) ∧
      ∀ front back source path rest, row = front ++ back →
        back.flatMap Segment.text = source ++ rest → Template.IsExpression source path →
        ∃ back', back = source.map .literal ++ back') ∧
    (∀ v w, env.interpolateData v = .ok w ↔ Filled env v w) ∧
    ∀ v : Data, (∀ t ∈ v.texts, t.NoSurrogates) → ∃ w, env.interpolateData v = .ok w := by
  refine ⟨fun t ht => ?_, interpolateData_eq_ok_iff, fun v hv => ?_⟩
  · obtain ⟨row, h, huniq⟩ := Reference.existsUnique_scans t
    refine ⟨row, h, huniq, h.texts, interpolate_of_isResolvable h ht.isResolvable, ?_⟩
    rintro front back source path rest rfl hback he
    obtain ⟨back', hliteral, -⟩ := Scans.expression he (hback ▸ h.suffix)
    exact ⟨back', hliteral⟩
  · exact (exists_interpolateData_iff v).2 fun t ht => (hv t ht).isResolvable

/-- A text with a reference inside a default, an expression, a line feed in a default and an opening
that is not closed. -/
def nestedText : Text := "$\x7bA:-$\x7bB\x7d\x7d|$\x7bB\x7d|\x7b\x7b .x \x7d\x7d|$\x7bD:-\n\x7d$\x7b"

/-- A default ends at the first brace, what is inserted is not looked at again, and a value keeps its
keys. -/
theorem replaces_references_nested :
    (nestedText.NoSurrogates ∧ ∃ row, Scans nestedText row ∧
      row.flatMap (filled [("B", "$\x7bC\x7d")]) =
        ("$\x7bB\x7d|$\x7bC\x7d|\x7b\x7b .x \x7d\x7d|$\x7bD:-\n\x7d$\x7b" : Text)) ∧
      Filled [("B", "b")] (.dict [(.str "$\x7bB\x7d", .list [.str "$\x7bB\x7d", .null])])
        (.dict [(.str "$\x7bB\x7d", .list [.str "b", .null])]) ∧
      (∀ t ∈ Data.texts (.list [.str nestedText]), t.NoSurrogates) ∧
      ∃ w, interpolateData [] (.list [.str nestedText]) = .ok w := by
  have hsurrogates : nestedText.NoSurrogates := by decide
  have htexts : ∀ t ∈ Data.texts (.list [.str nestedText]), t.NoSurrogates :=
    List.forall_mem_singleton.2 hsurrogates
  obtain ⟨row, h, -, -, hok, -⟩ :=
    (replaces_references [("B", "$\x7bC\x7d")]).1 nestedText hsurrogates
  have hrun : interpolate [("B", "$\x7bC\x7d")] nestedText =
      .ok "$\x7bB\x7d|$\x7bC\x7d|\x7b\x7b .x \x7d\x7d|$\x7bD:-\n\x7d$\x7b" := by
    decide +kernel
  refine ⟨⟨hsurrogates, row, h, Except.ok.inj (hok.symm.trans hrun)⟩, ?_, htexts, ?_⟩
  · exact ((replaces_references [("B", "b")]).2.1 _ _).1 rfl
  · exact (replaces_references []).2.2 _ htexts

end Environment

end DesiredState
