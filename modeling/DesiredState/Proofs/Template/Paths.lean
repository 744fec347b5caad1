import DesiredState.Proofs.Template.Segments
import Mathlib.Data.List.Forall2
import Mathlib.Data.Nat.Digits.Defs
import Mathlib.Tactic.Ring

/-!
# Where paths lead

Each segment of a path is a step: from an object to the member of a name, or from an array to the
item of an index. Looking up a path finds the value that these steps reach. A path that is not all
segments leads nowhere, whatever else stands in it before, between or behind segments, and so does
a path with a step that does not exist.

* `Path.IsNumber`: the number that digits spell.
* `Path.Segment.IsStep`, `Path.Leads`: one step, and what the steps of a path reach.
* `Path.lookup_eq_some_iff`, `Path.lookup_eq_none_iff`: which paths have a value, and which not.
* `Path.lookup_eq_follow`: **searching for one segment after the other finds the same**, whether
  something is skipped or a step does not exist first.
* `Path.lookup_of_indexesFit`: **looking up finds what the segments of a path reach.**
-/

namespace DesiredState.Path

variable {v w : Json} {s : Segment} {ss : List Segment} {t rest path digits : Text} {n : Nat}

/-! ### Steps -/

/-- Digits of any script spell a number, the most significant one first. -/
def IsNumber (digits : Text) (n : Nat) : Prop :=
  ∃ ds : List Nat, List.Forall₂ (fun c d => c.decimalVal? = some d) digits ds ∧
    n = Nat.ofDigits 10 ds.reverse

/-- The segment is a step from one value to another: from an object to its member of this name, or
from an array to its item at this index. -/
inductive Segment.IsStep : Segment → (v w : Json) → Prop
  | key {name : Text} {members : List (Text × Json)} {w : Json}
      (h : Entries.find? name members = some w) : IsStep (.key name) (.obj members) w
  | index {digits : Text} {n : Nat} {items : List Json} {w : Json} (hn : IsNumber digits n)
      (h : items[n]? = some w) : IsStep (.index digits) (.arr items) w

/-- Segments lead from one value to another, step by step. -/
inductive Leads : List Segment → (v w : Json) → Prop
  | nil {v : Json} : Leads [] v v
  | cons {s : Segment} {ss : List Segment} {v w x : Json} (h : s.IsStep v w)
      (hs : Leads ss w x) : Leads (s :: ss) v x

/-- Reading on behind a number shifts it by the places of the digits that are read. -/
theorem foldl_digits {ds : List Nat}
    (h : List.Forall₂ (fun c d => c.decimalVal? = some d) digits ds) (a : Nat) :
    digits.foldl (fun n c => n * 10 + c.decimalVal?.getD 0) a =
      a * 10 ^ ds.length + Nat.ofDigits 10 ds.reverse := by
  induction h generalizing a with
  | nil => simp
  | @cons c d digits ds hd _ ih =>
    have hlast : Nat.ofDigits 10 (d :: ds).reverse =
        Nat.ofDigits 10 ds.reverse + 10 ^ ds.length * d := by
      rw [List.reverse_cons, Nat.ofDigits_append, Nat.ofDigits_singleton, List.length_reverse]
    rw [List.foldl_cons, ih, hd, hlast, Option.getD_some, List.length_cons]
    ring

/-- Digits of any script spell one number, which is the value that is read as an index. -/
theorem isNumber_iff (hdigits : ∀ c ∈ digits, c.isDecimal = true) :
    IsNumber digits n ↔ n = indexValue digits := by
  have hval : List.Forall₂ (fun c d => c.decimalVal? = some d) digits
      (digits.map fun c => c.decimalVal?.getD 0) := by
    rw [List.forall₂_map_right_iff, List.forall₂_same]
    intro c hc
    have hsome : c.decimalVal?.isSome = true := hdigits c hc
    obtain ⟨d, hd⟩ := Option.isSome_iff_exists.1 hsome
    rw [hd, Option.getD_some]
  have hindex {ds : List Nat} (h : List.Forall₂ (fun c d => c.decimalVal? = some d) digits ds) :
      indexValue digits = Nat.ofDigits 10 ds.reverse := by
    rw [indexValue, foldl_digits h, Nat.zero_mul, Nat.zero_add]
  constructor
  · rintro ⟨ds, hds, rfl⟩
    exact (hindex hds).symm
  · rintro rfl
    exact ⟨_, hval, hindex hval⟩

/-- A segment that stands in a path steps where it should. -/
theorem Segment.Begins.step_eq_iff (h : s.Begins t rest) (hshort : s.isShort = true) :
    step v s = .ok (some w) ↔ s.IsStep v w := by
  cases h with
  | key =>
    constructor
    · intro hstep
      cases v with
      | obj members => exact .key (Except.ok.inj hstep)
      | scalar | arr => cases hstep
    · rintro ⟨hfind⟩
      exact congrArg Except.ok hfind
  | index hne hdigits =>
    rw [step_index v (Nat.not_lt.2 (of_decide_eq_true hshort)), Except.ok.injEq]
    constructor
    · intro hstep
      cases v with
      | arr items => exact .index ((isNumber_iff hdigits).2 rfl) hstep
      | scalar | obj => cases hstep
    · rintro (_ | ⟨hn, hitem⟩)
      rw [(isNumber_iff hdigits).1 hn] at hitem
      exact hitem

/-- The steps that are made one after the other are those of the segments. -/
theorem Spells.walk_eq_iff (h : Spells path ss) (hshort : ∀ s ∈ ss, s.isShort = true) :
    walk v ss = .ok (some w) ↔ Leads ss v w := by
  -- along the row, from whichever value has been reached
  induction h generalizing v with
  | nil =>
    constructor
    · rintro ⟨⟩
      exact .nil
    · rintro ⟨⟩
      rfl
  | @cons t rest s ss h _ ih =>
    obtain ⟨hs, hss⟩ := List.forall_mem_cons.1 hshort
    have hstep {x : Json} : step v s = .ok (some x) ↔ s.IsStep v x := h.step_eq_iff hs
    constructor
    · intro hwalk
      unfold walk at hwalk
      split at hwalk
      · cases hwalk
      · cases hwalk
      · next x hx => exact .cons (hstep.1 hx) ((ih hss).1 hwalk)
    · rintro (_ | ⟨hx, hleads⟩)
      unfold walk
      rw [hstep.2 hx]
      exact (ih hss).2 hleads

/-! ### Looking up -/

/-- Looking up goes through all segments that are scanned, and then asks whether something is left
of the path. -/
theorem lookup_eq (hwhole : path ≠ ".") :
    lookup v path =
      (walk v (scan path).1).map fun w => if (scan path).2.isEmpty then w else none := by
  unfold lookup
  rw [if_neg hwhole]
  dsimp only
  cases walk v (scan path).1 <;> rfl

/-- A path has a value exactly if it is all segments and they reach this value. -/
theorem lookup_eq_some_iff (hwhole : path ≠ ".") (hshort : IsShort path) :
    lookup v path = .ok (some w) ↔ ∃ ss, Spells path ss ∧ Leads ss v w := by
  rw [lookup_eq hwhole]
  constructor
  · intro h
    cases hwalk : walk v (scan path).1 with
    | error e =>
      rw [hwalk] at h
      cases h
    | ok found =>
      rw [hwalk] at h
      have hfound : (if (scan path).2.isEmpty then found else none) = some w := Except.ok.inj h
      obtain ⟨hempty, rfl⟩ := Option.ite_none_right_eq_some.1 hfound
      have hspells : Spells path (scan path).1 :=
        spells_iff_scan.2 (Prod.ext rfl (List.isEmpty_iff.1 hempty))
      exact ⟨_, hspells, (hspells.walk_eq_iff hshort).1 hwalk⟩
  · rintro ⟨ss, hspells, hleads⟩
    have hscan : scan path = (ss, []) := spells_iff_scan.1 hspells
    unfold IsShort at hshort
    rw [hscan] at hshort ⊢
    rw [(hspells.walk_eq_iff hshort).2 hleads]
    rfl

/-- A path has no value exactly if it is not all segments, or if one of them is no step. -/
theorem lookup_eq_none_iff (hwhole : path ≠ ".") (hshort : IsShort path) :
    lookup v path = .ok none ↔ ∀ ss w, Spells path ss → ¬ Leads ss v w := by
  obtain ⟨found, hfound⟩ := lookup_of_isShort v hshort
  constructor
  · intro hnone ss w hspells hleads
    have hsome := (lookup_eq_some_iff hwhole hshort).2 ⟨ss, hspells, hleads⟩
    rw [hnone] at hsome
    cases hsome
  · intro hnowhere
    cases found with
    | none => exact hfound
    | some w =>
      obtain ⟨ss, hspells, hleads⟩ := (lookup_eq_some_iff hwhole hshort).1 hfound
      exact absurd hleads (hnowhere ss w hspells)

/-! ### Searching -/

/-- The next segment in a text, wherever it stands, with what is skipped before it and what follows
it. -/
def nextSegment? : Text → Option (Text × Segment × Text)
  | [] => none
  | c :: t =>
    match scanSegment? (c :: t) with
    | some (s, rest) => some ([], s, rest)
    | none => (nextSegment? t).map fun (skipped, s, rest) => (c :: skipped, s, rest)

/-- The value that is reached from one segment to the next, at most `fuel` of them, as long as
nothing is skipped between them and nothing is left behind them. -/
def follow : (fuel : Nat) → Json → Text → Except LongIndex (Option Json)
  | 0, v, t => .ok (if t.isEmpty then some v else none)
  | fuel + 1, v, t =>
    match nextSegment? t with
    | none => .ok (if t.isEmpty then some v else none)
    | some (skipped, s, rest) =>
      if skipped.isEmpty then
        match step v s with
        | .error e => .error e
        | .ok none => .ok none
        | .ok (some w) => follow fuel w rest
      else .ok none

theorem nextSegment?_of_begins (h : s.Begins t rest) : nextSegment? t = some ([], s, rest) := by
  cases t with
  | nil => exact absurd h.length_lt (Nat.not_lt_zero _)
  | cons c t => rw [nextSegment?, h.scanSegment?]

/-- Where no segment begins, one that is found stands behind something. -/
theorem skipped_of_none {skipped : Text} (hscan : scanSegment? t = none)
    (h : nextSegment? t = some (skipped, s, rest)) :
    skipped.isEmpty = false ∧ t.isEmpty = false := by
  cases t with
  | nil => cases h
  | cons c t =>
    rw [nextSegment?, hscan] at h
    obtain ⟨⟨skipped', s', rest'⟩, -, heq⟩ := Option.map_eq_some_iff.1 h
    cases heq
    exact ⟨rfl, rfl⟩

/-- Where no segment begins, it does not matter whether one is found further on. -/
theorem follow_of_none {fuel : Nat} (hscan : scanSegment? t = none) :
    follow fuel v t = .ok (if t.isEmpty then some v else none) := by
  cases fuel with
  | zero => rfl
  | succ fuel =>
    unfold follow
    cases hnext : nextSegment? t with
    | none => rfl
    | some found =>
      obtain ⟨skipped, s, rest⟩ := found
      obtain ⟨hskipped, ht⟩ := skipped_of_none hscan hnext
      simp only [hskipped, ht, Bool.false_eq_true, if_false]

/-- Whichever comes first, something that is skipped or a step that does not exist, the rest of the
text does not matter. -/
theorem follow_eq {fuel : Nat} (h : t.length ≤ fuel) :
    follow fuel v t = (walk v (scan t).1).map fun w => if (scan t).2.isEmpty then w else none := by
  induction fuel generalizing t v with
  | zero =>
    obtain rfl := List.length_eq_zero_iff.1 (Nat.le_zero.1 h)
    rfl
  | succ fuel ih =>
    cases hscan : scanSegment? t with
    | none =>
      rw [follow_of_none hscan, scan_of_none hscan]
      rfl
    | some found =>
      obtain ⟨s, rest⟩ := found
      have hbegins : s.Begins t rest := begins_of_scanSegment? hscan
      have hlt : rest.length < t.length := hbegins.length_lt
      rw [follow, nextSegment?_of_begins hbegins, hbegins.scan_eq, walk]
      dsimp only
      rw [if_pos List.isEmpty_nil]
      cases step v s with
      | error e => rfl
      | ok found =>
        cases found with
        | none =>
          -- the search ends here, while the scan went on and may have left something
          simp only [Except.map, ite_self]
        | some w => exact ih (by omega)

/-- **Searching for one segment after the other finds what looking up finds.** -/
theorem lookup_eq_follow (hwhole : path ≠ ".") : lookup v path = follow path.length v path := by
  rw [lookup_eq hwhole, follow_eq le_rfl]

/-! ### What is found -/

/-- **Looking up finds what the segments of a path reach.** The path `.` is the whole value. Any
other path has a value exactly if all of it is segments, which it is in one way, and each of them is
a step; the value is the one that is reached, be it null. Otherwise the path leads nowhere. -/
theorem lookup_of_indexesFit (v : Json) (path : Text) (hfit : IndexesFit path) :
    lookup v "." = .ok (some v) ∧
    (∀ ss ss', Spells path ss → Spells path ss' → ss = ss') ∧
    (path ≠ "." →
      (∀ w, lookup v path = .ok (some w) ↔ ∃ ss, Spells path ss ∧ Leads ss v w) ∧
      (lookup v path = .ok none ↔ ∀ ss w, Spells path ss → ¬ Leads ss v w)) ∧
    ∀ ss, Spells path ss → Leads ss v .null → isMissing v path = false := by
  have hshort : IsShort path := hfit.isShort
  refine ⟨rfl, fun _ _ h h' => h.unique h', fun hwhole => ⟨fun w => ?_, ?_⟩, ?_⟩
  · exact lookup_eq_some_iff hwhole hshort
  · exact lookup_eq_none_iff hwhole hshort
  · intro ss hspells hleads
    by_cases hwhole : path = "."
    · rw [hwhole]
      rfl
    · have hnull : lookup v path = .ok (some .null) :=
        (lookup_eq_some_iff hwhole hshort).2 ⟨ss, hspells, hleads⟩
      unfold isMissing
      rw [hnull]

/-- A value in which a name has a hyphen and one item has no value. -/
def nestedValue : Json :=
  .obj [("a", .obj [("b", .arr [.obj [("c", .int 1)], .obj [("c-d", .null)]])])]

/-- A path into this value, its index written with a zero in front and in digits of two scripts. -/
def nestedPath : Text := ".a.b[0\u0661].c-d"

/-- The segments of the path. -/
def nestedSegments : List Segment := [.key "a", .key "b", .index "0\u0661", .key "c-d"]

theorem leads_nestedSegments : Leads nestedSegments nestedValue .null := by
  have hnumber : IsNumber "0\u0661" 1 := ⟨[0, 1], .cons rfl (.cons rfl .nil), rfl⟩
  exact .cons (.key rfl) (.cons (.key rfl) (.cons (.index hnumber rfl) (.cons (.key rfl) .nil)))

/-- A path with a letter between two segments, which would else be steps. -/
def gapPath : Text := ".a.b[1]x.c-d"

theorem not_spells_gapPath : ¬ Spells gapPath ss := by
  intro h
  have hrest : (scan gapPath).2 = "x.c-d" := rfl
  rw [spells_iff_scan.1 h] at hrest
  cases hrest

/-- A null at the end of a path is found, and a path with something between its segments leads
nowhere. -/
theorem lookup_nested :
    (IndexesFit nestedPath ∧ nestedPath ≠ "." ∧ Spells nestedPath nestedSegments ∧
      Leads nestedSegments nestedValue .null ∧
      lookup nestedValue nestedPath = .ok (some .null) ∧ isMissing nestedValue nestedPath = false) ∧
    IndexesFit gapPath ∧ gapPath ≠ "." ∧ lookup nestedValue gapPath = .ok none := by
  have hfit : IndexesFit nestedPath := indexesFit_of_length_le (by decide)
  have hwhole : nestedPath ≠ "." := by decide
  have hspells : Spells nestedPath nestedSegments := spells_iff_scan.2 rfl
  have hgapFit : IndexesFit gapPath := indexesFit_of_length_le (by decide)
  have hgapWhole : gapPath ≠ "." := by decide
  obtain ⟨-, -, hfound, hpresent⟩ := lookup_of_indexesFit nestedValue nestedPath hfit
  obtain ⟨-, -, hlost, -⟩ := lookup_of_indexesFit nestedValue gapPath hgapFit
  refine ⟨⟨hfit, hwhole, hspells, leads_nestedSegments, ?_, ?_⟩, hgapFit, hgapWhole, ?_⟩
  · exact ((hfound hwhole).1 .null).2 ⟨_, hspells, leads_nestedSegments⟩
  · exact hpresent _ hspells leads_nestedSegments
  · exact (hlost hgapWhole).2.2 fun _ _ h _ => not_spells_gapPath h

end DesiredState.Path
