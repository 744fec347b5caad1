import DesiredState.Proofs.Template.Faults

/-!
# What a rendering looks up

A template is rendered by looking up the paths of its expressions and by nothing else. Two contexts
in which these paths lead to the same values give the same text, and the paths that are reported
are those that lead nowhere.

* `Path.Reads`: a path begins with a member of the context, or is the whole context.
* `Path.text_of_scan`: a path is its segments and what follows them.
* `Path.lookup_congr`: other paths do not see this member.
* `Template.render_congr`: **a rendering depends on the paths of its expressions only.**
* `Template.unresolved_of_render`: **the reported paths are those that lead nowhere.**
-/

namespace DesiredState

namespace Path

variable {v : Json} {ms ms' : List (Text × Json)} {s : Segment} {member path : Text}

/-- The path begins with this member, or it is the whole value. -/
def Reads (member path : Text) : Prop :=
  path = "." ∨ (scan path).1.head? = some (.key member)

instance (member path : Text) : Decidable (Reads member path) := inferInstanceAs (Decidable (_ ∨ _))

/-- The path leads nowhere: a step does not exist, or not all of it is segments. -/
def isMissing (v : Json) (path : Text) : Bool :=
  match lookup v path with
  | .ok none => true
  | _ => false

theorem isMissing_iff : isMissing v path = true ↔ lookup v path = .ok none := by
  unfold isMissing
  split
  · next h => simp [h]
  · next h => simpa using h

/-- Without a segment at its beginning, the whole text is what follows. -/
theorem scanFrom_nil {fuel : Nat} {t : Text} (h : (scanFrom fuel t).1 = []) :
    (scanFrom fuel t).2 = t := by
  cases fuel with
  | zero => rfl
  | succ fuel =>
    unfold scanFrom at h ⊢
    split
    · rfl
    · next s rest hs =>
      rw [hs] at h
      cases h

/-- How a segment is written. -/
def Segment.text : Segment → Text
  | .key name => "." ++ name
  | .index digits => "[" ++ digits ++ "]"

theorem text_of_scanSegment? {t rest : Text} (h : scanSegment? t = some (s, rest)) :
    t = s.text ++ rest := by
  cases t with
  | nil => cases h
  | cons c t =>
    unfold scanSegment? at h
    dsimp only at h
    split at h
    · next hc =>
      subst hc
      cases t with
      | nil => cases h
      | cons d t =>
        dsimp only at h
        split at h
        · cases h
          exact congrArg (CodePoint.ofChar '.' :: ·) (List.takeWhile_append_dropWhile).symm
        · cases h
    · split at h
      · next hc =>
        subst hc
        split at h
        · next d ds e rest' htake hdrop =>
          split at h
          · next he =>
            subst he
            cases h
            have hsplit := List.takeWhile_append_dropWhile (p := CodePoint.isDecimal) (l := t)
            rw [htake, hdrop] at hsplit
            rw [← hsplit, Segment.text, List.append_assoc]
            rfl
          · cases h
        · cases h
      · cases h

/-- Segments, as they are written, and what follows them make up the text that was scanned. -/
theorem text_of_scanFrom {fuel : Nat} {t rest : Text} {ss : List Segment}
    (h : scanFrom fuel t = (ss, rest)) :
    t = ss.flatMap Segment.text ++ rest := by
  induction fuel generalizing t ss rest with
  | zero =>
    cases h
    rfl
  | succ fuel ih =>
    unfold scanFrom at h
    split at h
    · cases h
      rfl
    · next s rest' hs =>
      have htail : rest' =
          (scanFrom fuel rest').1.flatMap Segment.text ++ (scanFrom fuel rest').2 := ih rfl
      cases h
      rw [text_of_scanSegment? hs, List.flatMap_cons, List.append_assoc, ← htail]

theorem text_of_scan (path : Text) :
    path = (scan path).1.flatMap Segment.text ++ (scan path).2 := text_of_scanFrom rfl

/-- Two objects that differ in one member only cannot be told apart by other steps. -/
theorem step_congr (hagree : ∀ k, k ≠ member → Entries.find? k ms = Entries.find? k ms')
    (hs : s ≠ .key member) : step (.obj ms) s = step (.obj ms') s := by
  cases s with
  | key name =>
    have hname : name ≠ member := fun h => hs (congrArg Segment.key h)
    unfold step
    dsimp only
    rw [hagree name hname]
  | index digits => rfl

/-- **A path that does not read a member does not see its value.** -/
theorem lookup_congr (hagree : ∀ k, k ≠ member → Entries.find? k ms = Entries.find? k ms')
    (hne : path ≠ []) (h : ¬ Reads member path) :
    lookup (.obj ms) path = lookup (.obj ms') path := by
  obtain ⟨hwhole, hhead⟩ := not_or.1 h
  have hrest : (scan path).1 = [] → (scan path).2 = path := scanFrom_nil
  unfold lookup
  rw [if_neg hwhole, if_neg hwhole]
  generalize scan path = scanned at hhead hrest ⊢
  obtain ⟨segments, rest⟩ := scanned
  cases segments with
  | nil =>
    -- all of the path is left, so that it leads nowhere
    have hall : rest = path := hrest rfl
    have hempty : rest.isEmpty = false := by
      rw [hall, List.isEmpty_eq_false_iff]
      exact hne
    simp only [walk, hempty, Bool.false_eq_true, if_false]
  | cons s segments =>
    have hs : s ≠ .key member := fun hs => hhead (congrArg some hs)
    have hstep := step_congr hagree hs
    simp only [walk, hstep]

end Path

namespace Template

variable {c c' : Json} {t : Text} {path : Text} {ps : List Piece} {r : Rendered}

/-- The path of an expression. -/
def Piece.path? : Piece → Option Text
  | .literal _ => none
  | .expression path => some path

theorem paths_eq_filterMap (t : Text) : paths t = (pieces t).filterMap Piece.path? := by
  unfold paths
  congr

/-- The path of an expression begins with a point. -/
theorem ne_nil_of_scanExpression? {rest : Text} (h : scanExpression? t = some (path, rest)) :
    path ≠ [] := by
  unfold scanExpression? at h
  split at h
  · cases h
  next t' _ =>
  dsimp only at h
  split at h
  · cases h
  next u hu =>
  rw [Text.cut?_eq_some_iff] at hu
  have hpoint : Text.trimStart t' = CodePoint.ofChar '.' :: u := hu
  split at h
  · cases h
  rw [hpoint] at h
  cases h
  -- the point is neither a brace nor a blank
  have htake : (CodePoint.ofChar '.' :: u).takeWhile (fun c => !isBrace c) =
      CodePoint.ofChar '.' :: u.takeWhile (fun c => !isBrace c) := rfl
  have hblank : (CodePoint.ofChar '.').isBlank = false := rfl
  rw [htake, Ne, Text.trimEnd_eq_nil_iff, Text.isBlank, List.all_cons, hblank]
  exact Bool.false_ne_true

theorem ne_nil_of_mem_piecesAfter {skip : Nat} (h : Piece.expression path ∈ piecesAfter skip t) :
    path ≠ [] := by
  induction t generalizing skip with
  | nil => cases skip <;> cases h
  | cons c t ih =>
    cases skip with
    | succ skip => exact ih h
    | zero =>
      unfold piecesAfter at h
      split at h
      · next found rest hscan =>
        rcases List.mem_cons.1 h with heq | hmem
        · cases heq
          exact ne_nil_of_scanExpression? hscan
        · exact ih hmem
      · rcases List.mem_cons.1 h with heq | hmem
        · cases heq
        · exact ih hmem

theorem ne_nil_of_mem_paths (h : path ∈ paths t) : path ≠ [] :=
  ne_nil_of_mem_piecesAfter (mem_paths_iff.1 h)

theorem renderPieces_congr
    (h : ∀ path, Piece.expression path ∈ ps → Path.lookup c path = Path.lookup c' path) :
    renderPieces c ps = renderPieces c' ps := by
  induction ps with
  | nil => rfl
  | cons piece ps ih =>
    have hrest := ih fun path hpath => h path (List.mem_cons_of_mem _ hpath)
    cases piece with
    | literal point =>
      unfold renderPieces
      rw [hrest]
    | expression path =>
      have hfirst : renderPath c path = renderPath c' path := by
        unfold renderPath
        rw [h path List.mem_cons_self]
      unfold renderPieces
      rw [hfirst, hrest]

/-- **A rendering depends on the paths of its expressions only.** -/
theorem render_congr (h : ∀ path ∈ paths t, Path.lookup c path = Path.lookup c' path) :
    render c t = render c' t :=
  renderPieces_congr fun path hpath => h path (mem_paths_iff.2 hpath)

theorem unresolved_of_renderPath (h : renderPath c path = .ok r) :
    r.unresolved = [path].filter (Path.isMissing c) := by
  unfold renderPath at h
  split at h
  · cases h
  · next hlookup =>
    cases h
    rw [List.filter_cons_of_pos (Path.isMissing_iff.2 hlookup)]
    rfl
  · next v hlookup =>
    have hfound : ¬ Path.isMissing c path = true := by
      rw [Path.isMissing_iff, hlookup]
      exact nofun
    split at h
    · cases h
      rw [List.filter_cons_of_neg hfound]
      rfl
    · cases h

theorem unresolved_of_renderPieces (h : renderPieces c ps = .ok r) :
    r.unresolved = (ps.filterMap Piece.path?).filter (Path.isMissing c) := by
  induction ps generalizing r with
  | nil =>
    cases h
    rfl
  | cons piece ps ih =>
    cases piece with
    | literal point =>
      unfold renderPieces at h
      split at h
      · cases h
      · next rest hrest =>
        cases h
        exact (ih hrest : rest.unresolved = _)
    | expression path =>
      unfold renderPieces at h
      split at h
      · cases h
      next first hfirst =>
      split at h
      · cases h
      next rest hrest =>
      cases h
      dsimp only
      rw [unresolved_of_renderPath hfirst, ih hrest, ← List.filter_append]
      rfl

/-- **The paths that a rendering reports are those that lead nowhere**, in their order. -/
theorem unresolved_of_render (h : render c t = .ok r) :
    r.unresolved = (paths t).filter (Path.isMissing c) := by
  rw [paths_eq_filterMap]
  exact unresolved_of_renderPieces h

end Template

end DesiredState
