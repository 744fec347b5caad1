import DesiredState.Proofs.Json.Acceptance
import DesiredState.Proofs.Json.Writing

/-!
# Values on one line

A value on one line is in the grammar of JSON if its numbers are finite. The text may spell another
value, since a pair of surrogates is read as one code point and the last member of a name counts;
what is read is an object if the value is one. For a number that is not finite a constant is
written, which the grammar does not have: the first one ends the reading.

* `Json.constant?`: the first constant in the text of a value.
* `Json.exists_written_encode`: a value without constants is written.
* `Json.scanValue_of_constant`: **reading ends at the first constant.**
* `Json.exists_decode_encode`, `Json.decode_encode`: a value without constants is read again, and a
  faithful one as itself.
* `Json.decode_of_constant`: **a value with a constant is refused.**
* `Json.isVisible_encode`: whatever the value, the line is visible ASCII.
-/

namespace DesiredState

/-- The constant that is written for a number that is not finite. -/
def Binary64.constant? : Binary64 → Option Text
  | .finite .. => none
  | .infinite negative => some (if negative then "-Infinity" else "Infinity")
  | .nan => some "NaN"

theorem Binary64.constant?_eq_none_iff {x : Binary64} : x.constant? = none ↔ x.isFinite = true := by
  cases x <;> simp [constant?, isFinite]

/-- The constant that is written for a scalar. -/
def Scalar.constant? : Scalar → Option Text
  | .float x => x.constant?
  | .null | .bool _ | .int _ | .str _ => none

namespace Json

mutual

/-- The first constant in the text of a value. -/
def constant? : Json → Option Text
  | .scalar s => s.constant?
  | .arr items => constantItems? items
  | .obj members => constantMembers? members

/-- The first constant in the text of items. -/
def constantItems? : List Json → Option Text
  | [] => none
  | v :: vs => (constant? v).or (constantItems? vs)

/-- The first constant in the text of members. -/
def constantMembers? : List (Text × Json) → Option Text
  | [] => none
  | (_, v) :: ms => (constant? v).or (constantMembers? ms)

end

variable {c t rest : Text} {v : Json} {vs : List Json} {ms : List (Text × Json)} {s : Scalar}

/-! ### Values without constants -/

/-- A scalar without a constant is written, perhaps with pairs of surrogates joined. -/
theorem exists_written_encodeScalar (hfinite : s.constant? = none)
    (hwritable : (Json.scalar s).isWritable = true) (room : Nat) :
    ∃ s', Written room (encodeScalar s) (.scalar s') ∧ (IsFaithfulScalar s → s' = s) := by
  cases s with
  | null => exact ⟨.null, .null room, fun _ => rfl⟩
  | bool b => exact ⟨.bool b, .bool room b, fun _ => rfl⟩
  | int n =>
    rw [isWritable] at hwritable
    obtain ⟨k, hk, hvalue⟩ := written_ofInt hwritable
    exact ⟨.int n, .number room hk hvalue, fun _ => rfl⟩
  | float x =>
    have hx := Binary64.constant?_eq_none_iff.1 hfinite
    obtain ⟨k, hk, hinteger⟩ := Binary64.written_toText hx
    -- only an integer may be too long to be read
    have hvalue : k.value = .ok k.meaning := by
      refine Numeral.value_eq_ok_iff.2 ⟨fun h => ?_, rfl⟩
      rw [hinteger] at h
      cases h
    have htext : encodeFloat x = x.toText := by
      cases x with
      | finite => rfl
      | infinite => cases hx
      | nan => cases hx
    rw [encodeScalar, htext]
    exact ⟨k.meaning, .number room hk hvalue, False.elim⟩
  | str s =>
    exact ⟨.str (joined s), .string room (written_encodeString_joined s),
      fun h => congrArg Scalar.str (joined_eq h)⟩

mutual

/-- **A value without constants is written** on one line: the text spells a value, an object if the
value is one, and the value itself if it is faithful. -/
theorem exists_written_encode : (v : Json) → (room : Nat) → v.constant? = none →
    v.isWritable = true → v.depth ≤ room →
    ∃ w, Written room (encode v) w ∧ w.isObject = v.isObject ∧ (v.IsFaithful → w = v)
  | .scalar s, room, hfinite, hwritable, _ => by
    obtain ⟨s', hs', hsame⟩ := exists_written_encodeScalar hfinite hwritable room
    exact ⟨.scalar s', hs', rfl, fun h => congrArg Json.scalar (hsame h)⟩
  | .arr [], room, _, _, hd => by
    obtain ⟨k, rfl⟩ := Nat.exists_eq_add_one_of_ne_zero (Nat.ne_zero_of_lt hd)
    exact ⟨.arr [], .emptyArr k (List.forall_mem_nil _), rfl, fun _ => rfl⟩
  | .arr (v :: vs), room, hfinite, hwritable, hd => by
    obtain ⟨k, rfl⟩ := Nat.exists_eq_add_one_of_ne_zero (Nat.ne_zero_of_lt hd)
    rw [isWritable] at hwritable
    obtain ⟨ws, hws, hsame⟩ := exists_written_encodeItems (v :: vs) (List.cons_ne_nil v vs) k
      hfinite hwritable (Nat.le_of_succ_le_succ hd) [] (List.forall_mem_nil _)
    exact ⟨.arr ws, .arr hws, rfl, fun h => congrArg Json.arr (hsame h)⟩
  | .obj [], room, _, _, hd => by
    obtain ⟨k, rfl⟩ := Nat.exists_eq_add_one_of_ne_zero (Nat.ne_zero_of_lt hd)
    exact ⟨.obj [], .emptyObj k (List.forall_mem_nil _), rfl, fun _ => rfl⟩
  | .obj (m :: ms), room, hfinite, hwritable, hd => by
    obtain ⟨k, rfl⟩ := Nat.exists_eq_add_one_of_ne_zero (Nat.ne_zero_of_lt hd)
    rw [isWritable] at hwritable
    obtain ⟨ws, hws, hsame⟩ := exists_written_encodeMembers (m :: ms) (List.cons_ne_nil m ms) k
      hfinite hwritable (Nat.le_of_succ_le_succ hd) [] (List.forall_mem_nil _)
    refine ⟨.obj (Entries.ofPairs ws), .obj hws, rfl, fun h => ?_⟩
    -- no name is repeated, so no member replaces another when they are read
    rw [hsame h.2, Entries.ofPairs_of_nodup h.1]

/-- The blank behind a comma belongs to the item that follows. -/
theorem exists_written_encodeItems : (vs : List Json) → vs ≠ [] → (room : Nat) →
    constantItems? vs = none → isWritableItems vs = true → depthItems vs ≤ room → (a : Text) →
    IsSpace a → ∃ ws, ItemsWritten room (a ++ encodeItems vs) ws ∧ (AreFaithful vs → ws = vs)
  | [], hne, _, _, _, _, _, _ => absurd rfl hne
  | [v], _, room, hfinite, hwritable, hd, a, ha => by
    obtain ⟨hfirst, -⟩ := Option.or_eq_none_iff.1 hfinite
    rw [isWritableItems, Bool.and_eq_true] at hwritable
    obtain ⟨w, hw, -, hsame⟩ := exists_written_encode v room hfirst hwritable.1
      (Nat.le_trans (Nat.le_max_left _ _) hd)
    have hone := ItemsWritten.one ha hw (List.forall_mem_nil _)
    rw [List.append_nil] at hone
    exact ⟨[w], hone, fun h => by rw [hsame h.1]⟩
  | v :: u :: vs, _, room, hfinite, hwritable, hd, a, ha => by
    obtain ⟨hfirst, hothers⟩ := Option.or_eq_none_iff.1 hfinite
    rw [isWritableItems, Bool.and_eq_true] at hwritable
    obtain ⟨hv, hvs⟩ := Nat.max_le.1 hd
    obtain ⟨w, hw, -, hsame⟩ := exists_written_encode v room hfirst hwritable.1 hv
    obtain ⟨ws, hws, hsames⟩ := exists_written_encodeItems (u :: vs) (List.cons_ne_nil u vs) room
      hothers hwritable.2 hvs " " isSpace_blank
    have hcons := ItemsWritten.cons ha hw (List.forall_mem_nil _) hws
    -- the grammar has the comma alone, and the blank behind it before the next item
    have hcomma : (", " : Text) = CodePoint.ofChar ',' :: (" " : Text) := rfl
    refine ⟨w :: ws, ?_, fun h => by rw [hsame h.1, hsames h.2]⟩
    unfold encodeItems
    rw [hcomma]
    simpa only [List.append_assoc, List.nil_append, List.cons_append] using hcons

theorem exists_written_encodeMembers : (ms : List (Text × Json)) → ms ≠ [] → (room : Nat) →
    constantMembers? ms = none → isWritableMembers ms = true → depthMembers ms ≤ room →
    (a : Text) → IsSpace a →
    ∃ ws, MembersWritten room (a ++ encodeMembers ms) ws ∧ (MembersFaithful ms → ws = ms)
  | [], hne, _, _, _, _, _, _ => absurd rfl hne
  | [(k, v)], _, room, hfinite, hwritable, hd, a, ha => by
    obtain ⟨hfirst, -⟩ := Option.or_eq_none_iff.1 hfinite
    rw [isWritableMembers, Bool.and_eq_true] at hwritable
    obtain ⟨w, hw, -, hsame⟩ := exists_written_encode v room hfirst hwritable.1
      (Nat.le_trans (Nat.le_max_left _ _) hd)
    have hone := MembersWritten.one ha (written_encodeString_joined k) (List.forall_mem_nil _)
      isSpace_blank hw (List.forall_mem_nil _)
    have hcolon : (": " : Text) = CodePoint.ofChar ':' :: (" " : Text) := rfl
    refine ⟨[(joined k, w)], ?_, fun h => by rw [joined_eq h.1, hsame h.2.1]⟩
    unfold encodeMembers
    rw [hcolon]
    simpa only [List.append_assoc, List.nil_append, List.cons_append, List.append_nil] using hone
  | (k, v) :: m :: ms, _, room, hfinite, hwritable, hd, a, ha => by
    obtain ⟨hfirst, hothers⟩ := Option.or_eq_none_iff.1 hfinite
    rw [isWritableMembers, Bool.and_eq_true] at hwritable
    obtain ⟨hv, hms⟩ := Nat.max_le.1 hd
    obtain ⟨w, hw, -, hsame⟩ := exists_written_encode v room hfirst hwritable.1 hv
    obtain ⟨ws, hws, hsames⟩ := exists_written_encodeMembers (m :: ms) (List.cons_ne_nil m ms) room
      hothers hwritable.2 hms " " isSpace_blank
    have hcons := MembersWritten.cons ha (written_encodeString_joined k) (List.forall_mem_nil _)
      isSpace_blank hw (List.forall_mem_nil _) hws
    have hcolon : (": " : Text) = CodePoint.ofChar ':' :: (" " : Text) := rfl
    have hcomma : (", " : Text) = CodePoint.ofChar ',' :: (" " : Text) := rfl
    refine ⟨(joined k, w) :: ws, ?_, fun h => by rw [joined_eq h.1, hsame h.2.1, hsames h.2.2]⟩
    unfold encodeMembers
    rw [hcolon, hcomma]
    simpa only [List.append_assoc, List.nil_append, List.cons_append] using hcons

end

/-! ### Heads -/

/-- A text begins a value, or a constant without a sign. -/
def BeginsValue (t : Text) : Prop :=
  ∃ c r, t = c :: r ∧ (isStart c = true ∨ c = 'I' ∨ c = 'N')

theorem BeginsValue.append (h : BeginsValue t) (rest : Text) : BeginsValue (t ++ rest) := by
  obtain ⟨c, r, rfl, hc⟩ := h
  exact ⟨c, r ++ rest, rfl, hc⟩

/-- No blank begins a value. -/
theorem BeginsValue.skipSpace_eq (h : BeginsValue t) {a : Text} (ha : IsSpace a) :
    skipSpace (a ++ t) = t := by
  obtain ⟨c, r, rfl, hc⟩ := h
  refine skipSpace_append_cons ha ?_ r
  rcases hc with hc | rfl | rfl
  · exact isSpace_eq_false hc
  · rfl
  · rfl

/-- Nor does any other sign but the ones that begin values. -/
theorem BeginsValue.cut?_eq_none (h : BeginsValue t) {e : CodePoint} (he : isStart e = false)
    (hI : e ≠ 'I') (hN : e ≠ 'N') (lead : Text) : Text.cut? (e :: lead) t = none := by
  obtain ⟨c, r, rfl, hc | rfl | rfl⟩ := h
  · exact cut?_of_isStart ⟨c, r, rfl, hc⟩ he lead
  · exact cut?_cons_of_ne hI lead r
  · exact cut?_cons_of_ne hN lead r

theorem beginsValue_of_number {n : Numeral} (h : n.Written t) : BeginsValue t := by
  obtain ⟨c, r, rfl, hc⟩ := (Spelled.number h).head
  exact ⟨c, r, rfl, .inl hc⟩

theorem beginsValue_encodeScalar (s : Scalar) : BeginsValue (encodeScalar s) := by
  cases s with
  | null => exact ⟨_, _, rfl, .inl (by decide)⟩
  | bool b => cases b <;> exact ⟨_, _, rfl, .inl (by decide)⟩
  | int n =>
    cases n with
    | ofNat m =>
      obtain ⟨c, r, hdecimal, hc⟩ := (isWhole_decimal m).head
      exact ⟨c, r, hdecimal, .inl (by simp only [isStart, hc, Bool.true_or])⟩
    | negSucc m => exact ⟨_, _, rfl, .inl (by decide)⟩
  | float x =>
    cases x with
    | finite negative m e =>
      obtain ⟨n, hn, -⟩ := Binary64.written_toText (x := .finite negative m e) rfl
      exact beginsValue_of_number hn
    | infinite negative =>
      cases negative with
      | false => exact ⟨_, _, rfl, .inr (.inl rfl)⟩
      | true => exact ⟨_, _, rfl, .inl (by decide)⟩
    | nan => exact ⟨_, _, rfl, .inr (.inr rfl)⟩
  | str s => exact ⟨_, _, rfl, .inl (by decide)⟩

theorem beginsValue_encode (v : Json) : BeginsValue (encode v) := by
  cases v with
  | scalar s => exact beginsValue_encodeScalar s
  | arr vs => exact ⟨_, _, rfl, .inl (by decide)⟩
  | obj ms => exact ⟨_, _, rfl, .inl (by decide)⟩

theorem beginsValue_encodeItems (hne : vs ≠ []) : BeginsValue (encodeItems vs) := by
  match vs with
  | [] => exact absurd rfl hne
  | [v] => exact beginsValue_encode v
  | v :: u :: vs =>
    unfold encodeItems
    rw [List.append_assoc]
    exact (beginsValue_encode v).append _

theorem encodeMembers_head (hne : ms ≠ []) : ∃ r, encodeMembers ms = quote :: r := by
  match ms with
  | [] => exact absurd rfl hne
  | [(k, v)] => exact ⟨_, rfl⟩
  | (k, v) :: m :: ms => exact ⟨_, rfl⟩

/-! ### Lengths -/

theorem length_encode_arr (vs : List Json) :
    (encode (.arr vs)).length = (encodeItems vs).length + 2 := by
  have hopen : ("[" : Text).length = 1 := rfl
  have hclose : ("]" : Text).length = 1 := rfl
  rw [encode, List.length_append, List.length_append, hopen, hclose]
  omega

theorem length_encode_obj (ms : List (Text × Json)) :
    (encode (.obj ms)).length = (encodeMembers ms).length + 2 := by
  have hopen : ("\x7b" : Text).length = 1 := rfl
  have hclose : ("\x7d" : Text).length = 1 := rfl
  rw [encode, List.length_append, List.length_append, hopen, hclose]
  omega

theorem length_encodeItems_cons (v u : Json) (vs : List Json) :
    (encodeItems (v :: u :: vs)).length =
      (encode v).length + 2 + (encodeItems (u :: vs)).length := by
  have hcomma : (", " : Text).length = 2 := rfl
  rw [encodeItems, List.length_append, List.length_append, hcomma]
  exact List.cons_ne_nil u vs

theorem length_encodeMembers_one (k : Text) (v : Json) :
    (encodeMembers [(k, v)]).length = (encodeString k).length + 2 + (encode v).length := by
  have hcolon : (": " : Text).length = 2 := rfl
  rw [encodeMembers, List.length_append, List.length_append, hcolon]

theorem length_encodeMembers_cons (k : Text) (v : Json) (m : Text × Json)
    (ms : List (Text × Json)) :
    (encodeMembers ((k, v) :: m :: ms)).length =
      (encodeString k).length + 2 + (encode v).length + 2 + (encodeMembers (m :: ms)).length := by
  have hcolon : (": " : Text).length = 2 := rfl
  have hcomma : (", " : Text).length = 2 := rfl
  rw [encodeMembers, List.length_append, List.length_append, List.length_append,
    List.length_append, hcolon, hcomma]
  exact List.cons_ne_nil m ms

/-! ### Faults of parts -/

section Steps

variable {constants : Constants} {fuel room : Nat} {f : Fault}

/-- A fault of the items is the fault of the array. -/
theorem scanValue_arr_error (hcut : Text.cut? "]" (skipSpace t) = none)
    (hitems : scanItems constants fuel room (skipSpace t) = .error f) :
    scanValue constants (fuel + 1) (room + 1) (CodePoint.ofChar '[' :: t) = .error f := by
  have hquote : CodePoint.ofChar '[' ≠ quote := by decide
  unfold scanValue
  simp only [if_neg hquote, if_true, hcut, hitems]

/-- A fault of the members is the fault of the object. -/
theorem scanValue_obj_error (hcut : Text.cut? "\x7d" (skipSpace t) = none)
    (hmembers : scanMembers constants fuel room (skipSpace t) = .error f) :
    scanValue constants (fuel + 1) (room + 1) (CodePoint.ofChar '\x7b' :: t) = .error f := by
  have hquote : CodePoint.ofChar '\x7b' ≠ quote := by decide
  have hbracket : CodePoint.ofChar '\x7b' ≠ '[' := by decide
  unfold scanValue
  simp only [if_neg hquote, if_neg hbracket, if_true, hcut, hmembers]

/-- A fault of the first item is the fault of the items. -/
theorem scanItems_head_error (hvalue : scanValue constants fuel room t = .error f) :
    scanItems constants (fuel + 1) room t = .error f := by
  unfold scanItems
  simp only [hvalue]

/-- A fault of the items behind the first one is, too. -/
theorem scanItems_tail_error {w : Text}
    (hvalue : scanValue constants fuel room t = .ok (v, CodePoint.ofChar ',' :: w))
    (hitems : scanItems constants fuel room (skipSpace w) = .error f) :
    scanItems constants (fuel + 1) room t = .error f := by
  have hskip : skipSpace (CodePoint.ofChar ',' :: w) = CodePoint.ofChar ',' :: w := rfl
  have hcomma : CodePoint.ofChar ',' ≠ ']' := by decide
  unfold scanItems
  simp only [hvalue, hskip, if_neg hcomma, if_true, hitems]

/-- A fault of the value of the first member is the fault of the members. -/
theorem scanMembers_head_error {n u name : Text} (hn : StringWritten n name)
    (hvalue : scanValue constants fuel room (skipSpace u) = .error f) :
    scanMembers constants (fuel + 1) room (n ++ CodePoint.ofChar ':' :: u) = .error f := by
  obtain ⟨body, rfl, hname⟩ := scanString_of_written hn (CodePoint.ofChar ':' :: u)
  have hcolon : Text.cut? ":" (skipSpace (CodePoint.ofChar ':' :: u)) = some u := rfl
  unfold scanMembers
  simp only [List.cons_append, if_true, hname, hcolon, hvalue]

/-- A fault of the members behind the first one is, too. -/
theorem scanMembers_tail_error {n u w name : Text} (hn : StringWritten n name)
    (hvalue : scanValue constants fuel room (skipSpace u) = .ok (v, CodePoint.ofChar ',' :: w))
    (hmembers : scanMembers constants fuel room (skipSpace w) = .error f) :
    scanMembers constants (fuel + 1) room (n ++ CodePoint.ofChar ':' :: u) = .error f := by
  obtain ⟨body, rfl, hname⟩ := scanString_of_written hn (CodePoint.ofChar ':' :: u)
  have hcolon : Text.cut? ":" (skipSpace (CodePoint.ofChar ':' :: u)) = some u := rfl
  have hskip : skipSpace (CodePoint.ofChar ',' :: w) = CodePoint.ofChar ',' :: w := rfl
  have hcomma : CodePoint.ofChar ',' ≠ '\x7d' := by decide
  unfold scanMembers
  simp only [List.cons_append, if_true, hname, hcolon, hvalue, hskip, if_neg hcomma, hmembers]

end Steps

/-! ### The first constant -/

/-- Standard JSON has no constants. -/
theorem scanValue_scalar_of_constant (fuel room : Nat) (hc : s.constant? = some c) (rest : Text) :
    scanValue .refused (fuel + 1) room (encodeScalar s ++ rest) = .error (.constant c) := by
  cases s with
  | float x =>
    cases x with
    | finite => cases hc
    | infinite negative =>
      cases negative <;> (cases hc; rfl)
    | nan =>
      cases hc
      rfl
  | _ => cases hc

/-- A value without constants is read from its text. -/
theorem exists_scanValue_encode {fuel room : Nat} (hfinite : v.constant? = none)
    (hwritable : v.isWritable = true) (hd : v.depth ≤ room) (hfuel : 2 * (encode v).length < fuel)
    (hrest : Numeral.Ends rest) :
    ∃ w, scanValue .refused fuel room (encode v ++ rest) = .ok (w, rest) := by
  obtain ⟨w, ⟨x, hx, hnesting, hshort, -⟩, -⟩ := exists_written_encode v room hfinite hwritable hd
  exact ⟨x.value, (scan_of_spelled .refused fuel).1 room _ x rest hx hnesting hshort hfuel hrest⟩

/-- Nothing that is read goes on behind a comma. -/
theorem ends_comma (t : Text) : Numeral.Ends (CodePoint.ofChar ',' :: t) :=
  ends_of_space_cons (List.forall_mem_nil _) rfl t

mutual

/-- **Reading ends at the first constant** of a value. -/
theorem scanValue_of_constant : (v : Json) → (fuel room : Nat) → v.constant? = some c →
    v.isWritable = true → v.depth ≤ room → 2 * (encode v).length < fuel → (rest : Text) →
    scanValue .refused fuel room (encode v ++ rest) = .error (.constant c)
  | .scalar s, fuel, room, hc, _, _, hfuel, rest => by
    obtain ⟨fuel, rfl⟩ := Nat.exists_eq_add_one_of_ne_zero (Nat.ne_zero_of_lt hfuel)
    exact scanValue_scalar_of_constant fuel room hc rest
  | .arr [], _, _, hc, _, _, _, _ => by cases hc
  | .arr (v :: vs), fuel, room, hc, hwritable, hd, hfuel, rest => by
    obtain ⟨fuel, rfl⟩ := Nat.exists_eq_add_one_of_ne_zero (Nat.ne_zero_of_lt hfuel)
    obtain ⟨room, rfl⟩ := Nat.exists_eq_add_one_of_ne_zero (Nat.ne_zero_of_lt hd)
    have hne := List.cons_ne_nil v vs
    have hbegins := (beginsValue_encodeItems hne).append (("]" : Text) ++ rest)
    have hskip := hbegins.skipSpace_eq (List.forall_mem_nil _)
    rw [isWritable] at hwritable
    rw [length_encode_arr] at hfuel
    -- the brackets are two signs, so that the fuel is enough for what is between them
    have hitems := scanItems_of_constant (v :: vs) hne fuel room hc hwritable
      (Nat.le_of_succ_le_succ hd) (by omega) (("]" : Text) ++ rest)
    unfold encode
    rw [List.append_assoc, List.append_assoc]
    refine scanValue_arr_error ?_ ?_
    · exact (congrArg _ hskip).trans (hbegins.cut?_eq_none (by decide) (by decide) (by decide) [])
    · exact (congrArg _ hskip).trans hitems
  | .obj [], _, _, hc, _, _, _, _ => by cases hc
  | .obj (m :: ms), fuel, room, hc, hwritable, hd, hfuel, rest => by
    obtain ⟨fuel, rfl⟩ := Nat.exists_eq_add_one_of_ne_zero (Nat.ne_zero_of_lt hfuel)
    obtain ⟨room, rfl⟩ := Nat.exists_eq_add_one_of_ne_zero (Nat.ne_zero_of_lt hd)
    have hne := List.cons_ne_nil m ms
    rw [isWritable] at hwritable
    rw [length_encode_obj] at hfuel
    have hmembers := scanMembers_of_constant (m :: ms) hne fuel room hc hwritable
      (Nat.le_of_succ_le_succ hd) (by omega) (("\x7d" : Text) ++ rest)
    obtain ⟨r, hr⟩ := encodeMembers_head hne
    unfold encode
    rw [List.append_assoc, List.append_assoc]
    rw [hr] at hmembers ⊢
    exact scanValue_obj_error rfl hmembers

theorem scanItems_of_constant : (vs : List Json) → vs ≠ [] → (fuel room : Nat) →
    constantItems? vs = some c → isWritableItems vs = true → depthItems vs ≤ room →
    2 * (encodeItems vs).length + 1 < fuel → (rest : Text) →
    scanItems .refused fuel room (encodeItems vs ++ rest) = .error (.constant c)
  | [], hne, _, _, _, _, _, _, _ => absurd rfl hne
  | [v], _, fuel, room, hc, hwritable, hd, hfuel, rest => by
    obtain ⟨fuel, rfl⟩ := Nat.exists_eq_add_one_of_ne_zero (Nat.ne_zero_of_lt hfuel)
    rw [isWritableItems, Bool.and_eq_true] at hwritable
    rw [constantItems?, constantItems?, Option.or_none] at hc
    exact scanItems_head_error (scanValue_of_constant v fuel room hc hwritable.1
      (Nat.le_trans (Nat.le_max_left _ _) hd) (Nat.lt_of_succ_lt_succ hfuel) rest)
  | v :: u :: vs, _, fuel, room, hc, hwritable, hd, hfuel, rest => by
    obtain ⟨fuel, rfl⟩ := Nat.exists_eq_add_one_of_ne_zero (Nat.ne_zero_of_lt hfuel)
    obtain ⟨hv, hvs⟩ := Nat.max_le.1 hd
    rw [isWritableItems, Bool.and_eq_true] at hwritable
    rw [length_encodeItems_cons] at hfuel
    have hlength : 2 * (encode v).length < fuel := by omega
    unfold encodeItems
    rw [List.append_assoc, List.append_assoc]
    rcases Option.or_eq_some_iff.1 hc with hfirst | ⟨hfinite, hothers⟩
    · exact scanItems_head_error (scanValue_of_constant v fuel room hfirst hwritable.1 hv hlength _)
    · -- the first item is read, whatever it is read as, and the constant is behind it
      obtain ⟨w, hw⟩ := exists_scanValue_encode hfinite hwritable.1 hv hlength (ends_comma _)
      have hne := List.cons_ne_nil u vs
      have hbegins := (beginsValue_encodeItems hne).append rest
      have hitems := scanItems_of_constant (u :: vs) hne fuel room hothers hwritable.2 hvs
        (by omega) rest
      refine scanItems_tail_error hw ?_
      rw [← hitems]
      exact congrArg _ (hbegins.skipSpace_eq isSpace_blank)

theorem scanMembers_of_constant : (ms : List (Text × Json)) → ms ≠ [] → (fuel room : Nat) →
    constantMembers? ms = some c → isWritableMembers ms = true → depthMembers ms ≤ room →
    2 * (encodeMembers ms).length + 1 < fuel → (rest : Text) →
    scanMembers .refused fuel room (encodeMembers ms ++ rest) = .error (.constant c)
  | [], hne, _, _, _, _, _, _, _ => absurd rfl hne
  | [(k, v)], _, fuel, room, hc, hwritable, hd, hfuel, rest => by
    obtain ⟨fuel, rfl⟩ := Nat.exists_eq_add_one_of_ne_zero (Nat.ne_zero_of_lt hfuel)
    rw [isWritableMembers, Bool.and_eq_true] at hwritable
    rw [constantMembers?, constantMembers?, Option.or_none] at hc
    rw [length_encodeMembers_one] at hfuel
    have hvalue := scanValue_of_constant v fuel room hc hwritable.1
      (Nat.le_trans (Nat.le_max_left _ _) hd) (by omega) rest
    have hskip := ((beginsValue_encode v).append rest).skipSpace_eq isSpace_blank
    unfold encodeMembers
    rw [List.append_assoc, List.append_assoc]
    refine scanMembers_head_error (written_encodeString_joined k) ?_
    exact (congrArg _ hskip).trans hvalue
  | (k, v) :: m :: ms, _, fuel, room, hc, hwritable, hd, hfuel, rest => by
    obtain ⟨fuel, rfl⟩ := Nat.exists_eq_add_one_of_ne_zero (Nat.ne_zero_of_lt hfuel)
    obtain ⟨hv, hms⟩ := Nat.max_le.1 hd
    rw [isWritableMembers, Bool.and_eq_true] at hwritable
    rw [length_encodeMembers_cons] at hfuel
    have hlength : 2 * (encode v).length < fuel := by omega
    have hname := written_encodeString_joined k
    have hskip := fun rest => ((beginsValue_encode v).append rest).skipSpace_eq isSpace_blank
    unfold encodeMembers
    simp only [List.append_assoc]
    rcases Option.or_eq_some_iff.1 hc with hfirst | ⟨hfinite, hothers⟩
    · have hvalue := scanValue_of_constant v fuel room hfirst hwritable.1 hv hlength
      exact scanMembers_head_error hname ((congrArg _ (hskip _)).trans (hvalue _))
    · -- the first member is read, and the constant is in the value of another one
      obtain ⟨w, hw⟩ := exists_scanValue_encode hfinite hwritable.1 hv hlength (ends_comma _)
      have hne := List.cons_ne_nil m ms
      have hmembers := scanMembers_of_constant (m :: ms) hne fuel room hothers hwritable.2 hms
        (by omega) rest
      obtain ⟨r, hr⟩ := encodeMembers_head hne
      refine scanMembers_tail_error hname ((congrArg _ (hskip _)).trans hw) ?_
      rw [hr] at hmembers ⊢
      exact hmembers

end

/-! ### Reading a line -/

theorem decode_of_constant (hc : v.constant? = some c) (hwritable : v.isWritable = true)
    (hd : v.depth ≤ maxOpen) : decode (encode v) = .error (.constant c) := by
  have hmark : Text.cut? [CodePoint.ofNat 0xFEFF] (encode v) = none :=
    (beginsValue_encode v).cut?_eq_none (by decide) (by decide) (by decide) []
  have hskip : skipSpace (encode v) = encode v :=
    (beginsValue_encode v).skipSpace_eq (List.forall_mem_nil _)
  have hscan := scanValue_of_constant v (2 * (encode v).length + 1) maxOpen hc hwritable hd
    (Nat.lt_succ_self _) []
  rw [List.append_nil] at hscan
  unfold decode decodeWith
  simp only [hmark, hskip, hscan]

/-- A text that nests no deeper than a value may is read. -/
theorem decode_of_written (h : Written maxDepth t v) : decode t = .ok v := by
  obtain ⟨x, hx, hnesting, hshort, rfl⟩ := h
  have hopen : maxDepth ≤ maxOpen := by decide
  have hread := decodeWith_of_written .refused ⟨x, hx, Nat.le_trans hnesting hopen, hshort, rfl⟩
    (List.forall_mem_nil _) (List.forall_mem_nil _)
  rw [List.nil_append, List.append_nil] at hread
  exact decode_eq_ok_iff.2 ⟨hread, Nat.le_trans (depth_value_le x) hnesting⟩

/-- **A value without constants is read again**, as an object if it is one, and as itself if it is
faithful. -/
theorem exists_decode_encode (hfinite : v.constant? = none) (hwritable : v.isWritable = true)
    (hd : v.depth ≤ maxDepth) :
    ∃ w, decode (encode v) = .ok w ∧ w.isObject = v.isObject ∧ (v.IsFaithful → w = v) := by
  obtain ⟨w, hw, hobject, hsame⟩ := exists_written_encode v maxDepth hfinite hwritable hd
  exact ⟨w, decode_of_written hw, hobject, hsame⟩

/-! ### Faithful values -/

theorem constant?_of_isFaithfulScalar (h : IsFaithfulScalar s) :
    s.constant? = none ∧ (Json.scalar s).isWritable = true := by
  cases s with
  | int n => exact ⟨rfl, by rw [isWritable]; exact h⟩
  | float x => exact h.elim
  | _ => exact ⟨rfl, by rw [isWritable]; nofun⟩

mutual

/-- A faithful value has no constants, and its whole numbers are short. -/
theorem constant?_of_isFaithful : (v : Json) → v.IsFaithful →
    v.constant? = none ∧ v.isWritable = true
  | .scalar _, h => constant?_of_isFaithfulScalar h
  | .arr vs, h => by
    rw [isWritable]
    exact constantItems?_of_areFaithful vs h
  | .obj ms, h => by
    rw [isWritable]
    exact constantMembers?_of_membersFaithful ms h.2

theorem constantItems?_of_areFaithful : (vs : List Json) → AreFaithful vs →
    constantItems? vs = none ∧ isWritableItems vs = true
  | [], _ => ⟨rfl, rfl⟩
  | v :: vs, h => by
    obtain ⟨hfirst, hwritable⟩ := constant?_of_isFaithful v h.1
    obtain ⟨hothers, hwritables⟩ := constantItems?_of_areFaithful vs h.2
    rw [isWritableItems, Bool.and_eq_true]
    exact ⟨Option.or_eq_none_iff.2 ⟨hfirst, hothers⟩, hwritable, hwritables⟩

theorem constantMembers?_of_membersFaithful : (ms : List (Text × Json)) → MembersFaithful ms →
    constantMembers? ms = none ∧ isWritableMembers ms = true
  | [], _ => ⟨rfl, rfl⟩
  | (_, v) :: ms, h => by
    obtain ⟨hfirst, hwritable⟩ := constant?_of_isFaithful v h.2.1
    obtain ⟨hothers, hwritables⟩ := constantMembers?_of_membersFaithful ms h.2.2
    rw [isWritableMembers, Bool.and_eq_true]
    exact ⟨Option.or_eq_none_iff.2 ⟨hfirst, hothers⟩, hwritable, hwritables⟩

end

/-- **A faithful value is read as it was written.** -/
theorem decode_encode (h : v.IsFaithful) (hd : v.depth ≤ maxDepth) : decode (encode v) = .ok v := by
  obtain ⟨hfinite, hwritable⟩ := constant?_of_isFaithful v h
  obtain ⟨w, hw, -, hsame⟩ := exists_decode_encode hfinite hwritable hd
  rw [hw, hsame h]

/-! ### What is visible -/

mutual

/-- **A value on one line is visible ASCII.** -/
theorem isVisible_encode : (v : Json) → ∀ c ∈ encode v, isVisible c = true
  | .scalar s => isVisible_encodeScalar s
  | .arr vs => by
    unfold encode
    simp only [List.forall_mem_append]
    exact ⟨⟨of_decide_eq_true rfl, isVisible_encodeItems vs⟩, of_decide_eq_true rfl⟩
  | .obj ms => by
    unfold encode
    simp only [List.forall_mem_append]
    exact ⟨⟨of_decide_eq_true rfl, isVisible_encodeMembers ms⟩, of_decide_eq_true rfl⟩

theorem isVisible_encodeItems : (vs : List Json) → ∀ c ∈ encodeItems vs, isVisible c = true
  | [] => List.forall_mem_nil _
  | [v] => isVisible_encode v
  | v :: w :: vs => by
    unfold encodeItems
    simp only [List.forall_mem_append]
    exact ⟨⟨isVisible_encode v, of_decide_eq_true rfl⟩, isVisible_encodeItems (w :: vs)⟩

theorem isVisible_encodeMembers : (ms : List (Text × Json)) →
    ∀ c ∈ encodeMembers ms, isVisible c = true
  | [] => List.forall_mem_nil _
  | [(k, v)] => by
    unfold encodeMembers
    simp only [List.forall_mem_append]
    exact ⟨⟨isVisible_encodeString k, of_decide_eq_true rfl⟩, isVisible_encode v⟩
  | (k, v) :: m :: ms => by
    unfold encodeMembers
    simp only [List.forall_mem_append]
    exact ⟨⟨⟨⟨isVisible_encodeString k, of_decide_eq_true rfl⟩, isVisible_encode v⟩,
      of_decide_eq_true rfl⟩, isVisible_encodeMembers (m :: ms)⟩

end

end Json

end DesiredState
