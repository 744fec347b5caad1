import DesiredState.Proofs.Template.Lookups

/-!
# How paths are written

A path is written as segments one after the other: a point and a name, which goes as far as it can,
or digits of any script between brackets. A text is such a path in at most one way, and scanning
finds it.

* `Path.IsNameStart`, `Path.IsNamePart`: the letters of names.
* `Path.Segment.Begins`: a text begins with a segment.
* `Path.Spells`: **all of a text is segments.**
* `Path.spells_iff_scan`: scanning finds these segments, which by `Path.Spells.unique` are the only
  ones.
* `Path.IndexesFit`: wherever an index stands in a text, it can be read.
-/

namespace DesiredState.Path

variable {s : Segment} {ss ss' : List Segment} {t rest path : Text} {c : CodePoint}

/-- What a name begins with: an ASCII letter or an underscore. -/
def IsNameStart (c : CodePoint) : Prop :=
  (∃ l : Char, l.isAlpha = true ∧ c = CodePoint.ofChar l) ∨ c = CodePoint.ofChar '_'

/-- What a name goes on with: the same, an ASCII digit or a hyphen. -/
def IsNamePart (c : CodePoint) : Prop :=
  IsNameStart c ∨ (∃ d : Char, d.isDigit = true ∧ c = CodePoint.ofChar d) ∨
    c = CodePoint.ofChar '-'

/-- A text begins with a segment, and `rest` follows it. A name goes as far as it can. -/
inductive Segment.Begins : Segment → (t rest : Text) → Prop
  | key {first : CodePoint} {name rest : Text} (hfirst : IsNameStart first)
      (hname : ∀ c ∈ name, IsNamePart c) (hrest : ∀ c ∈ rest.head?, ¬ IsNamePart c) :
      Begins (.key (first :: name)) ("." ++ (first :: name) ++ rest) rest
  | index {digits rest : Text} (hne : digits ≠ [])
      (hdigits : ∀ c ∈ digits, c.isDecimal = true) :
      Begins (.index digits) ("[" ++ digits ++ "]" ++ rest) rest

/-- All of a text is segments, one after the other. -/
inductive Spells : Text → List Segment → Prop
  | nil : Spells [] []
  | cons {t rest : Text} {s : Segment} {ss : List Segment} (h : s.Begins t rest)
      (hrest : Spells rest ss) : Spells t (s :: ss)

/-- Wherever digits stand between brackets, there are few enough of them to be read. -/
def IndexesFit (path : Text) : Prop :=
  ∀ before digits after : Text, path = before ++ ("[" ++ digits ++ "]") ++ after →
    (∀ c ∈ digits, c.isDecimal = true) → digits.length ≤ Numeral.maxDigits

/-- In a path that is itself short enough, all indexes are. -/
theorem indexesFit_of_length_le (h : path.length ≤ Numeral.maxDigits) : IndexesFit path := by
  rintro before digits after rfl -
  simp only [List.length_append] at h
  omega

/-! ### One segment -/

theorem isNameStart_iff : isNameStart c = true ↔ IsNameStart c := by
  unfold isNameStart IsNameStart
  rw [Bool.or_eq_true, beq_iff_eq, CodePoint.isAsciiLetter_iff, CodePoint.eq_ofChar_iff]
  rfl

theorem isNamePart_iff : isNamePart c = true ↔ IsNamePart c := by
  unfold isNamePart IsNamePart IsNameStart
  rw [Bool.or_eq_true, Bool.or_eq_true, Bool.or_eq_true, beq_iff_eq, beq_iff_eq,
    CodePoint.isAsciiLetter_iff, CodePoint.isAsciiDigit_iff, CodePoint.eq_ofChar_iff,
    CodePoint.eq_ofChar_iff, or_assoc, or_or_or_comm]
  rfl

/-- A segment at the beginning of a text is scanned. -/
theorem Segment.Begins.scanSegment? (h : s.Begins t rest) : scanSegment? t = some (s, rest) := by
  cases h with
  | @key first name rest hfirst hname hrest =>
    have hall : ∀ c ∈ first :: name, isNamePart c = true :=
      List.forall_mem_cons.2
        ⟨isNamePart_iff.2 (.inl hfirst), fun c hc => isNamePart_iff.2 (hname c hc)⟩
    have hstop : ∀ c ∈ rest.head?, isNamePart c = false := fun c hc =>
      Bool.eq_false_iff.2 fun h => hrest c hc (isNamePart_iff.1 h)
    have htext : ("." ++ (first :: name) ++ rest : Text) =
        CodePoint.ofChar '.' :: first :: (name ++ rest) := rfl
    obtain ⟨htake, hdrop⟩ := Text.span_append hall hstop
    rw [List.cons_append] at htake hdrop
    rw [htext]
    unfold Path.scanSegment?
    dsimp only
    rw [if_pos rfl, if_pos (isNameStart_iff.2 hfirst), htake, hdrop]
  | @index digits rest hne hdigits =>
    have htext : ("[" ++ digits ++ "]" ++ rest : Text) =
        CodePoint.ofChar '[' :: (digits ++ CodePoint.ofChar ']' :: rest) := by
      simp only [List.append_assoc]
      rfl
    -- the digits end at the bracket
    have hclose : ∀ c ∈ (CodePoint.ofChar ']' :: rest).head?, c.isDecimal = false := by
      rintro c ⟨⟩
      rfl
    obtain ⟨htake, hdrop⟩ := Text.span_append hdigits hclose
    obtain ⟨d, ds, rfl⟩ := List.exists_cons_of_ne_nil hne
    rw [htext]
    unfold Path.scanSegment?
    dsimp only
    rw [if_neg (by decide), if_pos rfl, htake, hdrop]
    rfl

/-- What is scanned at the beginning of a text is a segment. -/
theorem begins_of_scanSegment? (h : scanSegment? t = some (s, rest)) : s.Begins t rest := by
  have htext := text_of_scanSegment? h
  cases t with
  | nil => cases h
  | cons c t =>
    unfold scanSegment? at h
    dsimp only at h
    split at h
    · -- behind a point, a name
      cases t with
      | nil => cases h
      | cons d t =>
        dsimp only at h
        split at h
        · next hd =>
          have hfirst : IsNameStart d := isNameStart_iff.1 hd
          have hpart : isNamePart d = true := isNamePart_iff.2 (.inl hfirst)
          rw [List.takeWhile_cons_of_pos hpart, List.dropWhile_cons_of_pos hpart] at h
          cases h
          rw [htext]
          refine .key hfirst (fun x hx => ?_) fun x hx hxpart => ?_
          · exact isNamePart_iff.1 (List.all_eq_true.1 List.all_takeWhile x hx)
          · have hhead := List.head?_dropWhile_not isNamePart t
            rw [Option.mem_def.1 hx] at hhead
            have hend : isNamePart x = false := hhead
            rw [isNamePart_iff.2 hxpart] at hend
            cases hend
        · cases h
    · split at h
      · -- behind an opening bracket, digits
        split at h
        · next d ds e rest' htake hdrop =>
          split at h
          · cases h
            rw [htext]
            refine .index (List.cons_ne_nil d ds) fun x hx => ?_
            rw [← htake] at hx
            exact List.all_eq_true.1 List.all_takeWhile x hx
          · cases h
        · cases h
      · cases h

theorem Segment.Begins.length_lt (h : s.Begins t rest) : rest.length < t.length := by
  have hne : s.text ≠ [] := by cases s <;> exact List.cons_ne_nil _ _
  have hpos := List.length_pos_iff.2 hne
  rw [text_of_scanSegment? h.scanSegment?, List.length_append]
  omega

/-! ### The row of a path -/

/-- Fuel for the length of a text is enough. -/
theorem scanFrom_eq_scan {fuel : Nat} (h : t.length ≤ fuel) : scanFrom fuel t = scan t := by
  unfold scan
  -- by the fuel, with that of `scan` being another one that is enough
  suffices henough : ∀ fuel', t.length ≤ fuel' → scanFrom fuel t = scanFrom fuel' t from
    henough t.length le_rfl
  induction fuel generalizing t with
  | zero =>
    obtain rfl := List.length_eq_zero_iff.1 (Nat.le_zero.1 h)
    intro fuel' _
    cases fuel' <;> rfl
  | succ fuel ih =>
    intro fuel' h'
    cases fuel' with
    | zero =>
      obtain rfl := List.length_eq_zero_iff.1 (Nat.le_zero.1 h')
      rfl
    | succ fuel' =>
      unfold scanFrom
      cases hscan : scanSegment? t with
      | none => rfl
      | some found =>
        obtain ⟨s, rest⟩ := found
        have hlt : rest.length < t.length := (begins_of_scanSegment? hscan).length_lt
        have htail : scanFrom fuel rest = scanFrom fuel' rest := ih (by omega) fuel' (by omega)
        simp only [htail]

/-- Where no segment begins, nothing is scanned. -/
theorem scan_of_none (h : scanSegment? t = none) : scan t = ([], t) := by
  unfold scan
  cases t with
  | nil => rfl
  | cons c t => rw [List.length_cons, scanFrom, h]

/-- Where a segment begins, it is scanned, and scanning goes on behind it. -/
theorem Segment.Begins.scan_eq (h : s.Begins t rest) :
    scan t = (s :: (scan rest).1, (scan rest).2) := by
  have hlt : rest.length < t.length := h.length_lt
  obtain ⟨fuel, hfuel⟩ := Nat.exists_eq_succ_of_ne_zero (by omega : t.length ≠ 0)
  have hrest : scanFrom fuel rest = scan rest := scanFrom_eq_scan (by omega)
  unfold scan
  rw [hfuel, scanFrom, h.scanSegment?]
  dsimp only
  rw [hrest]
  rfl

/-- **Scanning finds the segments of a path**, with nothing left behind them. -/
theorem spells_iff_scan : Spells path ss ↔ scan path = (ss, []) := by
  constructor
  · intro h
    induction h with
    | nil => rfl
    | cons h _ ih => rw [h.scan_eq, ih]
  · intro h
    induction ss generalizing path with
    | nil =>
      have htext := text_of_scan path
      rw [h] at htext
      rw [htext]
      exact .nil
    | cons s ss ih =>
      cases hscan : scanSegment? path with
      | none =>
        rw [scan_of_none hscan] at h
        cases h
      | some found =>
        have hbegins := begins_of_scanSegment? hscan
        rw [hbegins.scan_eq] at h
        obtain ⟨hsegments, hnil⟩ := Prod.mk.inj h
        obtain ⟨rfl, htail⟩ := List.cons.inj hsegments
        exact .cons hbegins (ih (Prod.ext htail hnil))

/-- **A path is written with one row of segments.** -/
theorem Spells.unique (h : Spells path ss) (h' : Spells path ss') : ss = ss' := by
  rw [spells_iff_scan] at h h'
  exact (Prod.mk.inj (h.symm.trans h')).1

/-! ### Indexes -/

/-- What is scanned stands somewhere in the text. -/
theorem exists_begins_of_mem_scanFrom {fuel : Nat} (h : s ∈ (scanFrom fuel t).1) :
    ∃ before u after, t = before ++ u ∧ s.Begins u after := by
  induction fuel generalizing t with
  | zero => cases h
  | succ fuel ih =>
    unfold scanFrom at h
    cases hscan : scanSegment? t with
    | none =>
      rw [hscan] at h
      cases h
    | some found =>
      rw [hscan] at h
      rcases List.mem_cons.1 h with rfl | hmem
      · exact ⟨[], t, found.2, rfl, begins_of_scanSegment? hscan⟩
      · obtain ⟨before, u, after, htext, hbegins⟩ := ih hmem
        refine ⟨found.1.text ++ before, u, after, ?_, hbegins⟩
        rw [List.append_assoc, ← htext]
        exact text_of_scanSegment? hscan

theorem IndexesFit.isShort (h : IndexesFit path) : IsShort path := by
  intro s hs
  obtain ⟨before, u, after, htext, hbegins⟩ := exists_begins_of_mem_scanFrom hs
  cases hbegins with
  | key => rfl
  | index hne hdigits =>
    rw [← List.append_assoc] at htext
    exact decide_eq_true (h before _ after htext hdigits)

end DesiredState.Path
