import DesiredState.Proofs.Json.Decoded
import DesiredState.Proofs.Json.Line

/-!
# Reading what was written

A faithful value is read as it was written. The values that are read are almost faithful: no object
repeats a name, whole numbers are short, and escapes of surrogates that stand next to each other are
joined, so that no pair is left. What can stand in the way are floating point numbers, and literal
surrogates in the text.

* `Json.MadeOf`: the scalars and the names of a value.
* `Json.isUnpaired_joinUnits`: **reading a string leaves no pair of surrogates.**
* `Json.isFaithful_of_decode`: **a value that was read is faithful**, if it has no floating point
  number.
-/

namespace DesiredState

theorem Entries.mem_keys_of_mem_ofPairs {κ α : Type} [DecidableEq κ] {es : List (κ × α)}
    {e : κ × α} (h : e ∈ ofPairs es) : e.1 ∈ keys es := by
  have hkey : e.1 ∈ keys (ofPairs es) := List.mem_map_of_mem h
  rwa [keys_ofPairs, List.mem_eraseDups] at hkey

namespace Json

variable {t u : Text} {v : Json}

/-! ### Strings that were read -/

/-- The text of an escape and more begins with the escape or with a pair, which is no surrogate. -/
theorem head_joinUnits {l d : CodePoint} {us : List StringUnit}
    (hd : d ∈ (joinUnits (.escaped l :: us)).head?) : d = l ∨ d.isSurrogate = false := by
  cases us with
  | nil => exact .inl (Option.some.inj hd).symm
  | cons unit us =>
    cases unit with
    | literal c => exact .inl (Option.some.inj hd).symm
    | escaped low =>
      unfold joinUnits at hd
      split at hd
      · next hpair =>
        have hd : joinPair l low = d := Option.some.inj hd
        exact .inr (hd ▸ (encodePoint_joinPair hpair).2)
      · exact .inl (Option.some.inj hd).symm

/-- **Reading a string leaves no pair of surrogates** if its literals are none: two escapes that
would be a pair have been joined, and what they are joined to is no surrogate. -/
theorem isUnpaired_joinUnits {us : List StringUnit}
    (h : ∀ c, .literal c ∈ us → c.isSurrogate = false) : (joinUnits us).IsUnpaired := by
  fun_induction joinUnits us with
  | case1 => exact List.isChain_nil
  | case2 c us ih =>
    have hc := h c List.mem_cons_self
    refine List.isChain_cons.2 ⟨fun d _ => ?_, ih fun c hc => h c (List.mem_cons_of_mem _ hc)⟩
    rw [CodePoint.isHighSurrogate_eq_false hc, Bool.false_and]
  | case3 high low us hpair ih =>
    have hjoined := (encodePoint_joinPair hpair).2
    refine List.isChain_cons.2 ⟨fun d _ => ?_, ih fun c hc => h c ?_⟩
    · rw [CodePoint.isHighSurrogate_eq_false hjoined, Bool.false_and]
    · exact List.mem_cons_of_mem _ (List.mem_cons_of_mem _ hc)
  | case4 high low us hpair ih =>
    refine List.isChain_cons.2 ⟨fun d hd => ?_, ih fun c hc => h c (List.mem_cons_of_mem _ hc)⟩
    -- these two are no pair, and what the second one is joined to is no surrogate
    rcases head_joinUnits hd with rfl | hd
    · simpa using hpair
    · rw [CodePoint.isLowSurrogate_eq_false hd, Bool.and_false]
  | case5 high us hnone ih =>
    refine List.isChain_cons.2 ⟨fun d hd => ?_, ih fun c hc => h c (List.mem_cons_of_mem _ hc)⟩
    -- what follows is no escape, so its head is a literal
    cases us with
    | nil => cases hd
    | cons unit us =>
      cases unit with
      | escaped l => exact absurd rfl (hnone l us)
      | literal c =>
        have hc := h c (List.mem_cons_of_mem _ List.mem_cons_self)
        obtain rfl : c = d := Option.some.inj hd
        rw [CodePoint.isLowSurrogate_eq_false hc, Bool.and_false]

/-- A literal unit is a code point of the text, or stands for one of ASCII. -/
theorem isSurrogate_literal {c : CodePoint} (h : (StringUnit.literal c).Written t)
    (ht : t.NoSurrogates) : c.isSurrogate = false := by
  cases h
  case literal => exact ht c List.mem_cons_self
  case short e h =>
    unfold shortEscape? at h
    split at h
    · cases h
      exact ht c (List.mem_cons_of_mem _ List.mem_cons_self)
    iterate 5
      split at h
      · cases h
        rfl
    cases h

theorem isSurrogate_literals {us : List StringUnit} (h : UnitsWritten t us) (ht : t.NoSurrogates) :
    ∀ c, .literal c ∈ us → c.isSurrogate = false := by
  induction h with
  | nil => exact fun c hc => absurd hc List.not_mem_nil
  | cons hu _ ih =>
    obtain ⟨hfirst, hrest⟩ := List.forall_mem_append.1 ht
    intro c hc
    rcases List.mem_cons.1 hc with rfl | hc
    · exact isSurrogate_literal hu hfirst
    · exact ih hrest c hc

theorem isUnpaired_of_spelled {us : List StringUnit} (h : StringSpelled t us)
    (ht : t.NoSurrogates) : (joinUnits us).IsUnpaired := by
  obtain ⟨hunits⟩ := h
  obtain ⟨hquoted, -⟩ := List.forall_mem_append.1 ht
  obtain ⟨-, hbetween⟩ := List.forall_mem_cons.1 hquoted
  exact isUnpaired_joinUnits (isSurrogate_literals hunits hbetween)

/-! ### The parts of a value -/

variable {p : Scalar → Prop} {n : Text → Prop} {vs : List Json} {ms : List (Text × Json)}

mutual

/-- A value is made of scalars with one property and names with another. -/
def MadeOf (p : Scalar → Prop) (n : Text → Prop) : Json → Prop
  | .scalar s => p s
  | .arr items => ItemsMadeOf p n items
  | .obj members => MembersMadeOf p n members

/-- `MadeOf` for each item. -/
def ItemsMadeOf (p : Scalar → Prop) (n : Text → Prop) : List Json → Prop
  | [] => True
  | v :: vs => MadeOf p n v ∧ ItemsMadeOf p n vs

/-- `MadeOf` for the value of each member, and the property of its name. -/
def MembersMadeOf (p : Scalar → Prop) (n : Text → Prop) : List (Text × Json) → Prop
  | [] => True
  | (k, v) :: ms => n k ∧ MadeOf p n v ∧ MembersMadeOf p n ms

end

theorem membersMadeOf_iff : MembersMadeOf p n ms ↔ ∀ m ∈ ms, n m.1 ∧ m.2.MadeOf p n := by
  induction ms with
  | nil => exact iff_of_true trivial (List.forall_mem_nil _)
  | cons m ms ih => rw [MembersMadeOf, ih, List.forall_mem_cons, and_assoc]

/-- Members with repeated names are made of the same when the last of each name is left. -/
theorem membersMadeOf_ofPairs (h : MembersMadeOf p n ms) :
    MembersMadeOf p n (Entries.ofPairs ms) := by
  rw [membersMadeOf_iff] at h ⊢
  have hvalues : ∀ m ∈ Entries.ofPairs ms, m.2.MadeOf p n :=
    Entries.forall_ofPairs (p := fun v : Json => v.MadeOf p n) fun m hm => (h m hm).2
  intro m hm
  obtain ⟨m', hm', hsame⟩ := List.mem_map.1 (Entries.mem_keys_of_mem_ofPairs hm)
  exact ⟨hsame ▸ (h m' hm').1, hvalues m hm⟩

/-- The scalar is no floating point number. -/
def IsNoFloat : Scalar → Prop
  | .float _ => False
  | .null | .bool _ | .int _ | .str _ => True

/-- The value has no floating point number. -/
def FloatFree (v : Json) : Prop := v.MadeOf IsNoFloat fun _ => True

/-- If the scalar is a text, this has no pair of surrogates. -/
def IsUnpairedScalar : Scalar → Prop
  | .str t => t.IsUnpaired
  | .null | .bool _ | .int _ | .float _ => True

/-- No text in the value has a pair of surrogates, and no name. -/
def IsUnpaired (v : Json) : Prop := v.MadeOf IsUnpairedScalar Text.IsUnpaired

/-! ### Values that were read -/

mutual

/-- What a text without surrogates spells has no pair of surrogates. -/
theorem isUnpaired_value : (x : Tree) → {u : Text} → Spelled u x → u.NoSurrogates →
    x.value.IsUnpaired
  | .null, _, _, _ | .bool _, _, _, _ => trivial
  | .number n, _, _, _ => by
    have hnumber : IsUnpairedScalar n.meaning := by
      unfold Numeral.meaning
      split <;> exact trivial
    exact hnumber
  | .string units, _, .string h, hu => isUnpaired_of_spelled h hu
  | .arr [], _, _, _ => trivial
  | .arr (x :: xs), _, .arr h, hu => by
    obtain ⟨hopened, -⟩ := List.forall_mem_append.1 hu
    obtain ⟨-, hbetween⟩ := List.forall_mem_cons.1 hopened
    exact isUnpaired_values (x :: xs) h hbetween
  | .obj [], _, _, _ => trivial
  | .obj (m :: ms), _, .obj h, hu => by
    obtain ⟨hopened, -⟩ := List.forall_mem_append.1 hu
    obtain ⟨-, hbetween⟩ := List.forall_mem_cons.1 hopened
    have hmembers := isUnpaired_namedValues (m :: ms) h hbetween
    -- of members with one name the last is left
    have hlatest := membersMadeOf_ofPairs hmembers
    rw [Entries.ofPairs_eq_latest] at hlatest
    exact hlatest

theorem isUnpaired_values : (xs : List Tree) → {u : Text} → ItemsSpelled u xs → u.NoSurrogates →
    ItemsMadeOf IsUnpairedScalar Text.IsUnpaired (Tree.values xs)
  | [x], _, .one _ h _, hu => by
    obtain ⟨hspaced, -⟩ := List.forall_mem_append.1 hu
    obtain ⟨-, hitem⟩ := List.forall_mem_append.1 hspaced
    exact ⟨isUnpaired_value x h hitem, trivial⟩
  | x :: xs, _, .cons _ h _ hs, hu => by
    obtain ⟨hfirst, hrest⟩ := List.forall_mem_append.1 hu
    obtain ⟨hspaced, -⟩ := List.forall_mem_append.1 hfirst
    obtain ⟨-, hitem⟩ := List.forall_mem_append.1 hspaced
    obtain ⟨-, hitems⟩ := List.forall_mem_cons.1 hrest
    exact ⟨isUnpaired_value x h hitem, isUnpaired_values xs hs hitems⟩

theorem isUnpaired_namedValues : (ms : List (List StringUnit × Tree)) → {u : Text} →
    MembersSpelled u ms → u.NoSurrogates →
    MembersMadeOf IsUnpairedScalar Text.IsUnpaired (Tree.namedValues ms)
  | [(units, x)], _, .one _ hn _ _ h _, hu => by
    simp only [Text.NoSurrogates, List.forall_mem_append, List.forall_mem_cons] at hu
    obtain ⟨⟨⟨-, hname⟩, -⟩, -, ⟨-, hvalue⟩, -⟩ := hu
    exact ⟨isUnpaired_of_spelled hn hname, isUnpaired_value x h hvalue, trivial⟩
  | (units, x) :: ms, _, .cons _ hn _ _ h _ hs, hu => by
    simp only [Text.NoSurrogates, List.forall_mem_append, List.forall_mem_cons] at hu
    obtain ⟨⟨⟨-, hname⟩, -⟩, -, ⟨⟨-, hvalue⟩, -⟩, -, hmembers⟩ := hu
    exact ⟨isUnpaired_of_spelled hn hname, isUnpaired_value x h hvalue,
      isUnpaired_namedValues ms hs hmembers⟩

end

/-- **A value that was read has no pair of surrogates**, unless its text has surrogates. -/
theorem isUnpaired_of_decode (h : decode t = .ok v) (ht : t.NoSurrogates) : v.IsUnpaired := by
  obtain ⟨x, ⟨⟨a, u, b, rfl, -, -, hspelled⟩, -, -, -⟩, rfl⟩ := decode_eq_ok_iff_accepts.1 h
  obtain ⟨hspaced, -⟩ := List.forall_mem_append.1 ht
  obtain ⟨-, hu⟩ := List.forall_mem_append.1 hspaced
  exact isUnpaired_value x hspelled hu

theorem isFaithfulScalar_of_parts {s : Scalar} (hwritable : (Json.scalar s).isWritable = true)
    (hunpaired : IsUnpairedScalar s) (hfloat : IsNoFloat s) : IsFaithfulScalar s := by
  cases s with
  | null => exact trivial
  | bool b => exact trivial
  | int n => simpa only [isWritable, IsFaithfulScalar] using hwritable
  | float x => exact hfloat.elim
  | str t => exact hunpaired

mutual

/-- What distinct names, short whole numbers, unpaired texts and the absence of floating point
numbers come to. -/
theorem isFaithful_of_parts : (v : Json) → v.Distinct → v.isWritable = true → v.IsUnpaired →
    v.FloatFree → v.IsFaithful
  | .scalar _, _, hwritable, hunpaired, hfloat =>
    isFaithfulScalar_of_parts hwritable hunpaired hfloat
  | .arr vs, hdistinct, hwritable, hunpaired, hfloat => by
    rw [isWritable] at hwritable
    exact areFaithful_of_parts vs hdistinct hwritable hunpaired hfloat
  | .obj ms, hdistinct, hwritable, hunpaired, hfloat => by
    rw [isWritable] at hwritable
    exact ⟨hdistinct.1, membersFaithful_of_parts ms hdistinct.2 hwritable hunpaired hfloat⟩

theorem areFaithful_of_parts : (vs : List Json) → DistinctItems vs → isWritableItems vs = true →
    ItemsMadeOf IsUnpairedScalar Text.IsUnpaired vs → ItemsMadeOf IsNoFloat (fun _ => True) vs →
    AreFaithful vs
  | [], _, _, _, _ => trivial
  | v :: vs, hdistinct, hwritable, hunpaired, hfloat => by
    rw [isWritableItems, Bool.and_eq_true] at hwritable
    exact ⟨isFaithful_of_parts v hdistinct.1 hwritable.1 hunpaired.1 hfloat.1,
      areFaithful_of_parts vs hdistinct.2 hwritable.2 hunpaired.2 hfloat.2⟩

theorem membersFaithful_of_parts : (ms : List (Text × Json)) → DistinctMembers ms →
    isWritableMembers ms = true → MembersMadeOf IsUnpairedScalar Text.IsUnpaired ms →
    MembersMadeOf IsNoFloat (fun _ => True) ms → MembersFaithful ms
  | [], _, _, _, _ => trivial
  | (k, v) :: ms, hdistinct, hwritable, hunpaired, hfloat => by
    rw [isWritableMembers, Bool.and_eq_true] at hwritable
    exact ⟨hunpaired.1, isFaithful_of_parts v hdistinct.1 hwritable.1 hunpaired.2.1 hfloat.2.1,
      membersFaithful_of_parts ms hdistinct.2 hwritable.2 hunpaired.2.2 hfloat.2.2⟩

end

/-- **A value that was read is faithful**, if its text has no surrogates and it has no floating
point number. -/
theorem isFaithful_of_decode (h : decode t = .ok v) (ht : t.NoSurrogates) (hfloat : v.FloatFree) :
    v.IsFaithful :=
  isFaithful_of_parts v (distinct_of_decode h) (isWritable_of_decode h)
    (isUnpaired_of_decode h ht) hfloat

/-- **What was read is read again** from the text that it is written as. -/
theorem decode_encode_of_decode (h : decode t = .ok v) (ht : t.NoSurrogates)
    (hfloat : v.FloatFree) : decode (encode v) = .ok v :=
  decode_encode (isFaithful_of_decode h ht hfloat) (decode_eq_ok_iff.1 h).2

end Json

end DesiredState
