import DesiredState.Json.Decode
import Mathlib.Data.List.Basic
import Mathlib.Data.List.Induction

/-!
# The grammar of JSON text

JSON text as a grammar: how units of strings, numbers and values are spelled. A text spells a tree,
in which nothing of the text is lost but the blanks; the tree tells the value, how deep the text
nests, and whether its integers are short enough.

* `Entries.latest`: each key with its last value, in the place of its first.
* `Json.StringWritten`, `Json.Numeral.Written`: strings and numbers.
* `Json.Tree`, `Json.Spelled`: values, and the texts that spell them.
* `Json.Tree.value`, `Json.Tree.nesting`, `Json.Tree.IsShort`: what a tree tells.
* `Json.Written`: a value with a text for it.
-/

namespace DesiredState

namespace Entries

variable {κ α : Type} [DecidableEq κ] {k : κ} {es ps : List (κ × α)}

/-- Each key once, in the order in which the keys come first, with the value that it has last. -/
def latest (ps : List (κ × α)) : List (κ × α) :=
  (keys ps).eraseDups.filterMap fun k => (find? k ps.reverse).map (k, ·)

theorem ofPairs_append (ps : List (κ × α)) (e : κ × α) :
    ofPairs (ps ++ [e]) = set e.1 e.2 (ofPairs ps) := by
  unfold ofPairs merge
  rw [List.foldl_append]
  rfl

theorem keys_ofPairs (ps : List (κ × α)) : keys (ofPairs ps) = (keys ps).eraseDups := by
  induction ps using List.reverseRecOn with
  | nil => rfl
  | append_singleton ps e ih =>
    have hkeys : keys (ps ++ [e]) = keys ps ++ [e.1] := List.map_append
    rw [ofPairs_append, keys_set, ih, hkeys, List.eraseDups_append]
    by_cases hmem : e.1 ∈ keys ps <;> simp [List.removeAll, List.eraseDups_cons, hmem]

theorem find?_ofPairs (k : κ) (ps : List (κ × α)) :
    find? k (ofPairs ps) = find? k ps.reverse := by
  induction ps using List.reverseRecOn with
  | nil => rfl
  | append_singleton ps e ih =>
    rw [ofPairs_append, find?_set, ih, List.reverse_append]
    rfl

/-- Entries without a repeated key are told by their keys and the value of each. -/
theorem eq_filterMap_of_nodup (h : (keys es).Nodup) :
    es = (keys es).filterMap fun k => (find? k es).map (k, ·) := by
  have hfind : ∀ e ∈ es, find? e.1 es = some e.2 := fun e he => find?_of_mem h he
  calc es = es.filterMap some := List.filterMap_some.symm
    _ = es.filterMap fun e => (find? e.1 es).map (e.1, ·) := by
        refine List.filterMap_congr fun e he => ?_
        rw [hfind e he]
        rfl
    _ = (keys es).filterMap fun k => (find? k es).map (k, ·) := by
        rw [keys, List.filterMap_map]
        rfl

/-- **Pairs set one after the other leave the last value of each key, in the place of its first
one.** -/
theorem ofPairs_eq_latest (ps : List (κ × α)) : ofPairs ps = latest ps := by
  have hes := eq_filterMap_of_nodup (nodup_keys_ofPairs ps)
  simp only [keys_ofPairs, find?_ofPairs] at hes
  exact hes

end Entries

namespace Json


/-- A unit of a string as it is written between the quotes. -/
inductive StringUnit.Written : Text → StringUnit → Prop
  | literal {c : CodePoint} (hquote : c ≠ quote) (hbackslash : c ≠ backslash)
      (hcontrol : 0x20 ≤ c.val) : Written [c] (.literal c)
  | short {e x : CodePoint} (h : shortEscape? e = some x) : Written [backslash, e] (.literal x)
  | unicode {a b c d : CodePoint} {n : Nat} (h : hex4? a b c d = some n) :
      Written [backslash, CodePoint.ofChar 'u', a, b, c, d] (.escaped (CodePoint.ofNat n))

/-- Units as they are written one after the other. -/
inductive UnitsWritten : Text → List StringUnit → Prop
  | nil : UnitsWritten [] []
  | cons {t ts : Text} {u : StringUnit} {us : List StringUnit} (h : u.Written t)
      (hs : UnitsWritten ts us) : UnitsWritten (t ++ ts) (u :: us)

/-- The units of a string between its quotes. -/
inductive StringSpelled : Text → List StringUnit → Prop
  | mk {t : Text} {units : List StringUnit} (h : UnitsWritten t units) :
      StringSpelled (quote :: t ++ [quote]) units

/-- A string as it is written. -/
inductive StringWritten : Text → Text → Prop
  | mk {t : Text} {units : List StringUnit} (h : StringSpelled t units) :
      StringWritten t (joinUnits units)

/-! ### Numbers -/

namespace Numeral

/-- Digits, at least one. -/
def IsDigits (ds : Text) : Prop := ds ≠ [] ∧ ∀ c ∈ ds, c.isAsciiDigit = true

/-- The whole part of a number: a zero alone, or digits that begin with another. -/
inductive IsWhole : Text → Prop
  | zero : IsWhole [CodePoint.ofChar '0']
  | digits {c : CodePoint} {ds : Text} (hc : c.isAsciiDigit = true) (hzero : c ≠ '0')
      (hds : ∀ d ∈ ds, d.isAsciiDigit = true) : IsWhole (c :: ds)

/-- The fraction of a number: nothing, or a point and digits. -/
inductive FractionWritten : Text → Option Text → Prop
  | none : FractionWritten [] none
  | some {ds : Text} (h : IsDigits ds) : FractionWritten (CodePoint.ofChar '.' :: ds) (some ds)

/-- The letter before an exponent. -/
def IsExponentLetter (c : CodePoint) : Prop := c = 'e' ∨ c = 'E'

/-- The exponent of a number: nothing, or a letter, perhaps a sign, and digits. -/
inductive ExponentWritten : Text → Option (Bool × Text) → Prop
  | none : ExponentWritten [] none
  | unsigned {c : CodePoint} {ds : Text} (hc : IsExponentLetter c) (h : IsDigits ds) :
      ExponentWritten (c :: ds) (some (false, ds))
  | plus {c : CodePoint} {ds : Text} (hc : IsExponentLetter c) (h : IsDigits ds) :
      ExponentWritten (c :: CodePoint.ofChar '+' :: ds) (some (false, ds))
  | minus {c : CodePoint} {ds : Text} (hc : IsExponentLetter c) (h : IsDigits ds) :
      ExponentWritten (c :: CodePoint.ofChar '-' :: ds) (some (true, ds))

/-- A number: a minus sign if it is negative, the whole part, a fraction and an exponent. -/
inductive Written : Text → Numeral → Prop
  | positive {whole f e : Text} {fraction : Option Text} {exponent : Option (Bool × Text)}
      (hw : IsWhole whole) (hf : FractionWritten f fraction) (he : ExponentWritten e exponent) :
      Written (whole ++ f ++ e) ⟨false, whole, fraction, exponent⟩
  | negative {whole f e : Text} {fraction : Option Text} {exponent : Option (Bool × Text)}
      (hw : IsWhole whole) (hf : FractionWritten f fraction) (he : ExponentWritten e exponent) :
      Written (CodePoint.ofChar '-' :: (whole ++ f ++ e)) ⟨true, whole, fraction, exponent⟩

open DesiredState.Numeral (maxDigits)

variable {n : Numeral} {s : Scalar}

/-- An integer with at most `maxDigits` digits, or a number that is no integer. -/
def IsShort (n : Numeral) : Prop := n.isInteger = true → n.whole.length ≤ maxDigits

theorem value_eq_ok_iff : n.value = .ok s ↔ n.IsShort ∧ n.meaning = s := by
  unfold value IsShort
  cases hinteger : n.isInteger with
  | false => simp
  | true =>
    by_cases hlength : maxDigits < n.whole.length
    · simp [hlength, Nat.not_le.2 hlength]
    · simp [hlength, Nat.not_lt.1 hlength]

end Numeral

/-! ### Values -/

/-- Nothing but the blanks that may stand between tokens. -/
def IsSpace (t : Text) : Prop := ∀ c ∈ t, isSpace c = true

/-- What a text spells: strings in their units, numbers in their parts, and every member of an
object. -/
inductive Tree
  | null
  | bool (b : Bool)
  | number (n : Numeral)
  | string (units : List StringUnit)
  | arr (items : List Tree)
  | obj (members : List (List StringUnit × Tree))

mutual

/-- A text that spells a value, from its first code point to its last. -/
inductive Spelled : Text → Tree → Prop
  | null : Spelled "null" .null
  | bool (b : Bool) : Spelled (if b then "true" else "false") (.bool b)
  | number {t : Text} {n : Numeral} (h : n.Written t) : Spelled t (.number n)
  | string {t : Text} {units : List StringUnit} (h : StringSpelled t units) :
      Spelled t (.string units)
  | emptyArr {a : Text} (ha : IsSpace a) :
      Spelled (CodePoint.ofChar '[' :: a ++ [CodePoint.ofChar ']']) (.arr [])
  | arr {t : Text} {xs : List Tree} (h : ItemsSpelled t xs) :
      Spelled (CodePoint.ofChar '[' :: t ++ [CodePoint.ofChar ']']) (.arr xs)
  | emptyObj {a : Text} (ha : IsSpace a) :
      Spelled (CodePoint.ofChar '\x7b' :: a ++ [CodePoint.ofChar '\x7d']) (.obj [])
  | obj {t : Text} {ms : List (List StringUnit × Tree)} (h : MembersSpelled t ms) :
      Spelled (CodePoint.ofChar '\x7b' :: t ++ [CodePoint.ofChar '\x7d']) (.obj ms)

/-- Items between brackets: commas between them, and blanks around each. -/
inductive ItemsSpelled : Text → List Tree → Prop
  | one {a t b : Text} {x : Tree} (ha : IsSpace a) (h : Spelled t x) (hb : IsSpace b) :
      ItemsSpelled (a ++ t ++ b) [x]
  | cons {a t b ts : Text} {x : Tree} {xs : List Tree} (ha : IsSpace a) (h : Spelled t x)
      (hb : IsSpace b) (hs : ItemsSpelled ts xs) :
      ItemsSpelled (a ++ t ++ b ++ CodePoint.ofChar ',' :: ts) (x :: xs)

/-- Members between braces: a name, a colon and a value each. -/
inductive MembersSpelled : Text → List (List StringUnit × Tree) → Prop
  | one {a n b c t d : Text} {units : List StringUnit} {x : Tree} (ha : IsSpace a)
      (hn : StringSpelled n units) (hb : IsSpace b) (hc : IsSpace c) (h : Spelled t x)
      (hd : IsSpace d) :
      MembersSpelled (a ++ n ++ b ++ CodePoint.ofChar ':' :: (c ++ t ++ d)) [(units, x)]
  | cons {a n b c t d ts : Text} {units : List StringUnit} {x : Tree}
      {ms : List (List StringUnit × Tree)} (ha : IsSpace a) (hn : StringSpelled n units)
      (hb : IsSpace b) (hc : IsSpace c) (h : Spelled t x) (hd : IsSpace d)
      (hs : MembersSpelled ts ms) :
      MembersSpelled
        (a ++ n ++ b ++ CodePoint.ofChar ':' :: (c ++ t ++ d ++ CodePoint.ofChar ',' :: ts))
        ((units, x) :: ms)

end

namespace Tree

mutual

/-- The value that a tree stands for. Of members with one name the last counts. -/
def value : Tree → Json
  | .null => .null
  | .bool b => .bool b
  | .number n => .scalar n.meaning
  | .string units => .str (joinUnits units)
  | .arr xs => .arr (values xs)
  | .obj ms => .obj (Entries.latest (namedValues ms))

/-- The values of items. -/
def values : List Tree → List Json
  | [] => []
  | x :: xs => value x :: values xs

/-- The names and values of members. -/
def namedValues : List (List StringUnit × Tree) → List (Text × Json)
  | [] => []
  | (units, x) :: ms => (joinUnits units, value x) :: namedValues ms

end

mutual

/-- How many containers stand one inside the other, members that do not count among them. -/
def nesting : Tree → Nat
  | .null | .bool _ | .number _ | .string _ => 0
  | .arr xs => nestingItems xs + 1
  | .obj ms => nestingMembers ms + 1

/-- The greatest nesting among items. -/
def nestingItems : List Tree → Nat
  | [] => 0
  | x :: xs => max (nesting x) (nestingItems xs)

/-- The greatest nesting among the values of members. -/
def nestingMembers : List (List StringUnit × Tree) → Nat
  | [] => 0
  | (_, x) :: ms => max (nesting x) (nestingMembers ms)

end

mutual

/-- Every integer in the tree has at most `Numeral.maxDigits` digits. -/
def IsShort : Tree → Prop
  | .null | .bool _ | .string _ => True
  | .number n => n.IsShort
  | .arr xs => AreShort xs
  | .obj ms => MembersShort ms

/-- `IsShort` for each item. -/
def AreShort : List Tree → Prop
  | [] => True
  | x :: xs => IsShort x ∧ AreShort xs

/-- `IsShort` for the value of each member. -/
def MembersShort : List (List StringUnit × Tree) → Prop
  | [] => True
  | (_, x) :: ms => IsShort x ∧ MembersShort ms

end

end Tree

/-- A text for a value, with at most `room` containers one inside the other and no integer that is
too long. -/
def Written (room : Nat) (t : Text) (v : Json) : Prop :=
  ∃ x, Spelled t x ∧ x.nesting ≤ room ∧ x.IsShort ∧ x.value = v

/-- A text for items between brackets. -/
def ItemsWritten (room : Nat) (t : Text) (vs : List Json) : Prop :=
  ∃ xs, ItemsSpelled t xs ∧ Tree.nestingItems xs ≤ room ∧ Tree.AreShort xs ∧ Tree.values xs = vs

/-- A text for members between braces. -/
def MembersWritten (room : Nat) (t : Text) (ms : List (Text × Json)) : Prop :=
  ∃ xs, MembersSpelled t xs ∧ Tree.nestingMembers xs ≤ room ∧ Tree.MembersShort xs ∧
    Tree.namedValues xs = ms

/-! ### Values from their parts -/

variable {room : Nat} {a b c d n t ts name : Text} {v : Json} {vs : List Json}
  {ms : List (Text × Json)}

namespace Written

theorem null (room : Nat) : Written room "null" .null :=
  ⟨.null, .null, Nat.zero_le room, trivial, rfl⟩

theorem bool (room : Nat) (b : Bool) : Written room (if b then "true" else "false") (.bool b) :=
  ⟨.bool b, .bool b, Nat.zero_le room, trivial, rfl⟩

theorem number (room : Nat) {n : Numeral} {s : Scalar} (h : n.Written t)
    (hvalue : n.value = .ok s) : Written room t (.scalar s) := by
  obtain ⟨hshort, rfl⟩ := Numeral.value_eq_ok_iff.1 hvalue
  exact ⟨.number n, .number h, Nat.zero_le room, hshort, rfl⟩

theorem string (room : Nat) {s : Text} (h : StringWritten t s) : Written room t (.str s) := by
  obtain ⟨h⟩ := h
  exact ⟨.string _, .string h, Nat.zero_le room, trivial, rfl⟩

theorem emptyArr (room : Nat) (ha : IsSpace a) :
    Written (room + 1) (CodePoint.ofChar '[' :: a ++ [CodePoint.ofChar ']']) (.arr []) :=
  ⟨.arr [], .emptyArr ha, Nat.succ_le_succ (Nat.zero_le room), trivial, rfl⟩

theorem arr (h : ItemsWritten room t vs) :
    Written (room + 1) (CodePoint.ofChar '[' :: t ++ [CodePoint.ofChar ']']) (.arr vs) := by
  obtain ⟨xs, h, hnesting, hshort, rfl⟩ := h
  exact ⟨.arr xs, .arr h, Nat.succ_le_succ hnesting, hshort, rfl⟩

theorem emptyObj (room : Nat) (ha : IsSpace a) :
    Written (room + 1) (CodePoint.ofChar '\x7b' :: a ++ [CodePoint.ofChar '\x7d']) (.obj []) :=
  ⟨.obj [], .emptyObj ha, Nat.succ_le_succ (Nat.zero_le room), trivial, rfl⟩

theorem obj (h : MembersWritten room t ms) :
    Written (room + 1) (CodePoint.ofChar '\x7b' :: t ++ [CodePoint.ofChar '\x7d'])
      (.obj (Entries.ofPairs ms)) := by
  obtain ⟨xs, h, hnesting, hshort, rfl⟩ := h
  refine ⟨.obj xs, .obj h, Nat.succ_le_succ hnesting, hshort, ?_⟩
  rw [Tree.value, Entries.ofPairs_eq_latest]

end Written

namespace ItemsWritten

theorem one (ha : IsSpace a) (h : Written room t v) (hb : IsSpace b) :
    ItemsWritten room (a ++ t ++ b) [v] := by
  obtain ⟨x, h, hnesting, hshort, rfl⟩ := h
  exact ⟨[x], .one ha h hb, Nat.max_le.2 ⟨hnesting, Nat.zero_le room⟩, ⟨hshort, trivial⟩, rfl⟩

theorem cons (ha : IsSpace a) (h : Written room t v) (hb : IsSpace b)
    (hs : ItemsWritten room ts vs) :
    ItemsWritten room (a ++ t ++ b ++ CodePoint.ofChar ',' :: ts) (v :: vs) := by
  obtain ⟨x, h, hnesting, hshort, rfl⟩ := h
  obtain ⟨xs, hs, hnestings, hshorts, rfl⟩ := hs
  exact ⟨x :: xs, .cons ha h hb hs, Nat.max_le.2 ⟨hnesting, hnestings⟩, ⟨hshort, hshorts⟩, rfl⟩

end ItemsWritten

namespace MembersWritten

theorem one (ha : IsSpace a) (hn : StringWritten n name) (hb : IsSpace b) (hc : IsSpace c)
    (h : Written room t v) (hd : IsSpace d) :
    MembersWritten room (a ++ n ++ b ++ CodePoint.ofChar ':' :: (c ++ t ++ d)) [(name, v)] := by
  obtain ⟨hn⟩ := hn
  obtain ⟨x, h, hnesting, hshort, rfl⟩ := h
  exact ⟨[(_, x)], .one ha hn hb hc h hd, Nat.max_le.2 ⟨hnesting, Nat.zero_le room⟩,
    ⟨hshort, trivial⟩, rfl⟩

theorem cons (ha : IsSpace a) (hn : StringWritten n name) (hb : IsSpace b) (hc : IsSpace c)
    (h : Written room t v) (hd : IsSpace d) (hs : MembersWritten room ts ms) :
    MembersWritten room
      (a ++ n ++ b ++ CodePoint.ofChar ':' :: (c ++ t ++ d ++ CodePoint.ofChar ',' :: ts))
      ((name, v) :: ms) := by
  obtain ⟨hn⟩ := hn
  obtain ⟨x, h, hnesting, hshort, rfl⟩ := h
  obtain ⟨xs, hs, hnestings, hshorts, rfl⟩ := hs
  exact ⟨(_, x) :: xs, .cons ha hn hb hc h hd hs, Nat.max_le.2 ⟨hnesting, hnestings⟩,
    ⟨hshort, hshorts⟩, rfl⟩

end MembersWritten

end Json

end DesiredState
