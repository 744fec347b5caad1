import DesiredState.Proofs.Json.Floats

/-!
# Writing values

An indented text is in the grammar of JSON, with the value that it was written for. What a text
cannot carry is left out of the faithful values: floating point numbers, which are not considered
here, numbers that are too long, pairs of surrogates and repeated names.

* `Json.IsFaithful`: a value that comes back as it was.
* `Json.written_encodeIndented`: **the value is written.**
* `Json.decodeStored_encodeIndented`: what is written is read again.
* `Json.isLined_encodeIndented`: its lines end with line feeds.
-/

namespace DesiredState

namespace Json

/-- A scalar that can be read again as it was: no floating point number, a whole number that is not
too long, and a text without surrogate pairs. -/
def IsFaithfulScalar : Scalar → Prop
  | .int n => DesiredState.Numeral.isWritable n = true
  | .float _ => False
  | .str s => s.IsUnpaired
  | .null | .bool _ => True

mutual

/-- A value of faithful scalars and names in which no object repeats a name. -/
def IsFaithful : Json → Prop
  | .scalar s => IsFaithfulScalar s
  | .arr items => AreFaithful items
  | .obj members => (Entries.keys members).Nodup ∧ MembersFaithful members

/-- `IsFaithful` for each item. -/
def AreFaithful : List Json → Prop
  | [] => True
  | v :: vs => IsFaithful v ∧ AreFaithful vs

/-- `IsFaithful` for the value of each member, and its name. -/
def MembersFaithful : List (Text × Json) → Prop
  | [] => True
  | (k, v) :: ms => k.IsUnpaired ∧ IsFaithful v ∧ MembersFaithful ms

end

variable {vs : List Json} {ms : List (Text × Json)}

theorem areFaithful_iff : AreFaithful vs ↔ ∀ v ∈ vs, v.IsFaithful := by
  induction vs with
  | nil => exact iff_of_true trivial (List.forall_mem_nil _)
  | cons v vs ih => rw [AreFaithful, ih, List.forall_mem_cons]

theorem membersFaithful_iff :
    MembersFaithful ms ↔ ∀ m ∈ ms, m.1.IsUnpaired ∧ m.2.IsFaithful := by
  induction ms with
  | nil => exact iff_of_true trivial (List.forall_mem_nil _)
  | cons m ms ih => rw [MembersFaithful, ih, List.forall_mem_cons, and_assoc]

theorem isSpace_blank : IsSpace " " := by
  intro c hc
  rw [List.mem_singleton.1 hc]
  rfl

theorem isSpace_lineBreak (step level : Nat) : IsSpace (lineBreak step level) := by
  intro c hc
  rcases List.mem_cons.1 hc with rfl | hc
  · rfl
  · rw [(List.mem_replicate.1 hc).2]
    rfl

theorem written_encodeScalar {s : Scalar} (h : IsFaithfulScalar s) (room : Nat) :
    Written room (encodeScalar s) (.scalar s) := by
  cases s with
  | null => exact .null room
  | bool b => exact .bool room b
  | int n =>
    obtain ⟨k, hk, hvalue⟩ := written_ofInt h
    exact .number room hk hvalue
  | float x => exact h.elim
  | str s => exact .string room (written_encodeString h)

variable {step : Nat}

mutual

/-- **A value is written.** -/
theorem written_encodeIndented : (v : Json) → (level room : Nat) → v.IsFaithful → v.depth ≤ room →
    Written room (encodeIndented step level v) v
  | .scalar s, _, room, h, _ => written_encodeScalar h room
  | .arr [], level, room, _, hd => by
    obtain ⟨k, rfl⟩ := Nat.exists_eq_add_one_of_ne_zero (Nat.ne_zero_of_lt hd)
    exact .emptyArr k (List.forall_mem_nil _)
  | .arr (v :: vs), level, room, h, hd => by
    obtain ⟨k, rfl⟩ := Nat.exists_eq_add_one_of_ne_zero (Nat.ne_zero_of_lt hd)
    have hitems := written_encodeIndentedItems (v :: vs) (List.cons_ne_nil v vs) (level + 1) k h
      (Nat.le_of_succ_le_succ hd) _ (isSpace_lineBreak step level)
    exact .arr hitems
  | .obj [], level, room, _, hd => by
    obtain ⟨k, rfl⟩ := Nat.exists_eq_add_one_of_ne_zero (Nat.ne_zero_of_lt hd)
    exact .emptyObj k (List.forall_mem_nil _)
  | .obj (m :: ms), level, room, h, hd => by
    obtain ⟨k, rfl⟩ := Nat.exists_eq_add_one_of_ne_zero (Nat.ne_zero_of_lt hd)
    have hmembers := written_encodeIndentedMembers (m :: ms) (List.cons_ne_nil m ms) (level + 1) k
      h.2 (Nat.le_of_succ_le_succ hd) _ (isSpace_lineBreak step level)
    have hobj := Written.obj hmembers
    -- no name is repeated, so no member replaces another when they are read
    rw [Entries.ofPairs_of_nodup h.1] at hobj
    exact hobj

theorem written_encodeIndentedItems : (vs : List Json) → vs ≠ [] → (level room : Nat) →
    AreFaithful vs → depthItems vs ≤ room → (b : Text) → IsSpace b →
    ItemsWritten room (encodeIndentedItems step level vs ++ b) vs
  | [], hne, _, _, _, _, _, _ => absurd rfl hne
  | [v], _, level, room, h, hd, b, hb =>
    .one (isSpace_lineBreak step level)
      (written_encodeIndented v level room h.1 (Nat.le_trans (Nat.le_max_left _ _) hd)) hb
  | v :: w :: vs, _, level, room, h, hd, b, hb => by
    obtain ⟨hv, hvs⟩ := Nat.max_le.1 hd
    have hfirst := written_encodeIndented v level room h.1 hv
    have hrest := written_encodeIndentedItems (w :: vs) (List.cons_ne_nil w vs) level room h.2 hvs
      b hb
    have hcons := ItemsWritten.cons (isSpace_lineBreak step level) hfirst (List.forall_mem_nil _)
      hrest
    have hcomma : ("," : Text) = [CodePoint.ofChar ','] := rfl
    unfold encodeIndentedItems
    rw [hcomma]
    simpa only [List.append_assoc, List.nil_append, List.cons_append] using hcons

theorem written_encodeIndentedMembers : (ms : List (Text × Json)) → ms ≠ [] →
    (level room : Nat) → MembersFaithful ms → depthMembers ms ≤ room → (b : Text) → IsSpace b →
    MembersWritten room (encodeIndentedMembers step level ms ++ b) ms
  | [], hne, _, _, _, _, _, _ => absurd rfl hne
  | [(k, v)], _, level, room, h, hd, b, hb => by
    have hv := written_encodeIndented v level room h.2.1 (Nat.le_trans (Nat.le_max_left _ _) hd)
    have hone := MembersWritten.one (isSpace_lineBreak step level) (written_encodeString h.1)
      (List.forall_mem_nil _) isSpace_blank hv hb
    have hcolon : (": " : Text) = CodePoint.ofChar ':' :: (" " : Text) := rfl
    unfold encodeIndentedMembers
    rw [hcolon]
    simpa only [List.append_assoc, List.nil_append, List.cons_append] using hone
  | (k, v) :: m :: ms, _, level, room, h, hd, b, hb => by
    obtain ⟨hv, hms⟩ := Nat.max_le.1 hd
    have hfirst := written_encodeIndented v level room h.2.1 hv
    have hrest := written_encodeIndentedMembers (m :: ms) (List.cons_ne_nil m ms) level room h.2.2
      hms b hb
    have hcons := MembersWritten.cons (isSpace_lineBreak step level) (written_encodeString h.1)
      (List.forall_mem_nil _) isSpace_blank hfirst (List.forall_mem_nil _) hrest
    have hcolon : (": " : Text) = CodePoint.ofChar ':' :: (" " : Text) := rfl
    have hcomma : ("," : Text) = [CodePoint.ofChar ','] := rfl
    unfold encodeIndentedMembers
    rw [hcolon, hcomma]
    simpa only [List.append_assoc, List.nil_append, List.cons_append] using hcons

end

/-- **What is written is read again.** -/
theorem decodeStored_encodeIndented {v : Json} (h : v.IsFaithful) (hd : v.depth ≤ maxOpen) :
    decodeStored (encodeIndented step 0 v) = .ok v := by
  have hwritten := @written_encodeIndented step v 0 maxOpen h hd
  have hdecode := decodeWith_of_written .allowed hwritten (List.forall_mem_nil _)
    (List.forall_mem_nil _)
  rwa [List.nil_append, List.append_nil] at hdecode

/-! ### Lines -/

/-- Visible, or the line feed. -/
def isLined (c : CodePoint) : Bool := isVisible c || c.val = 0x0A

theorem isLined_of_isVisible {t : Text} (h : ∀ c ∈ t, isVisible c = true) :
    ∀ c ∈ t, isLined c = true := fun c hc => by rw [isLined, h c hc, Bool.true_or]

theorem isLined_lineBreak (step level : Nat) : ∀ c ∈ lineBreak step level, isLined c = true := by
  refine List.forall_mem_cons.2 ⟨rfl, fun c hc => ?_⟩
  rw [(List.mem_replicate.1 hc).2]
  rfl

theorem isVisible_encodeScalar (s : Scalar) : ∀ c ∈ encodeScalar s, isVisible c = true := by
  cases s with
  | null => exact (by decide : ∀ c ∈ ("null" : Text), isVisible c = true)
  | bool b => cases b <;> exact of_decide_eq_true rfl
  | int n => exact isVisible_ofInt n
  | float x => exact isVisible_encodeFloat x
  | str s => exact isVisible_encodeString s

mutual

/-- An indented text has no line ends but line feeds. -/
theorem isLined_encodeIndented : (v : Json) → (level : Nat) →
    ∀ c ∈ encodeIndented step level v, isLined c = true
  | .scalar s, _ => isLined_of_isVisible (isVisible_encodeScalar s)
  | .arr [], _ => of_decide_eq_true rfl
  | .arr (v :: vs), level => by
    have hitems := isLined_encodeIndentedItems (v :: vs) (level + 1)
    simp only [encodeIndented, List.isEmpty_cons, Bool.false_eq_true, if_false,
      List.forall_mem_append]
    exact ⟨⟨⟨of_decide_eq_true rfl, hitems⟩, isLined_lineBreak step level⟩,
      of_decide_eq_true rfl⟩
  | .obj [], _ => of_decide_eq_true rfl
  | .obj (m :: ms), level => by
    have hmembers := isLined_encodeIndentedMembers (m :: ms) (level + 1)
    simp only [encodeIndented, List.isEmpty_cons, Bool.false_eq_true, if_false,
      List.forall_mem_append]
    exact ⟨⟨⟨of_decide_eq_true rfl, hmembers⟩, isLined_lineBreak step level⟩,
      of_decide_eq_true rfl⟩

theorem isLined_encodeIndentedItems : (vs : List Json) → (level : Nat) →
    ∀ c ∈ encodeIndentedItems step level vs, isLined c = true
  | [], _ => List.forall_mem_nil _
  | [v], level =>
    List.forall_mem_append.2 ⟨isLined_lineBreak step level, isLined_encodeIndented v level⟩
  | v :: w :: vs, level => by
    have hfirst := isLined_encodeIndented v level
    have hrest := isLined_encodeIndentedItems (w :: vs) level
    unfold encodeIndentedItems
    simp only [List.forall_mem_append]
    exact ⟨⟨⟨isLined_lineBreak step level, hfirst⟩, of_decide_eq_true rfl⟩, hrest⟩

theorem isLined_encodeIndentedMembers : (ms : List (Text × Json)) → (level : Nat) →
    ∀ c ∈ encodeIndentedMembers step level ms, isLined c = true
  | [], _ => List.forall_mem_nil _
  | [(k, v)], level => by
    have hname := isLined_of_isVisible (isVisible_encodeString k)
    have hvalue := isLined_encodeIndented v level
    unfold encodeIndentedMembers
    simp only [List.forall_mem_append]
    exact ⟨⟨⟨isLined_lineBreak step level, hname⟩, of_decide_eq_true rfl⟩, hvalue⟩
  | (k, v) :: m :: ms, level => by
    have hname := isLined_of_isVisible (isVisible_encodeString k)
    have hvalue := isLined_encodeIndented v level
    have hrest := isLined_encodeIndentedMembers (m :: ms) level
    unfold encodeIndentedMembers
    simp only [List.forall_mem_append]
    exact ⟨⟨⟨⟨⟨isLined_lineBreak step level, hname⟩, of_decide_eq_true rfl⟩, hvalue⟩,
      of_decide_eq_true rfl⟩, hrest⟩

end

end Json

end DesiredState
