import DesiredState.Json.Encode
import DesiredState.Proofs.Json.Depth
import Mathlib.Algebra.Group.Nat.Defs

/-!
# What decoded values have in common

A property of values holds of everything that is read from a text if the scalars of the text have
it and containers inherit it from their parts.

* `Json.scanValue_ok`, `Json.scanItems_ok`, `Json.scanMembers_ok`: the parts of what was read.
* `Json.Inherited`: such a property.
* `Json.Inherited.of_decodeWith`: **every decoded value has it.**
* `Json.isWritable_of_decode`: a whole number that was read can be written again.
* `Json.distinct_of_decode`: no object that was read repeats a name.
-/

namespace DesiredState

namespace Json

section Steps

variable {constants : Constants} {fuel room : Nat} {t rest : Text} {v : Json}

/-- What a value that was read can be: a string, an array, an object or something plain. -/
theorem scanValue_ok (h : scanValue constants (fuel + 1) room t = .ok (v, rest)) :
    (∃ body s, t = quote :: body ∧ scanString t body = .ok (s, rest) ∧ v = .str s) ∨
      (∃ k u, room = k + 1 ∧ t = CodePoint.ofChar '[' :: u ∧
        (skipSpace u = CodePoint.ofChar ']' :: rest ∧ v = .arr [] ∨
          ∃ items, scanItems constants fuel k (skipSpace u) = .ok (items, rest) ∧
            v = .arr items)) ∨
      (∃ k u, room = k + 1 ∧ t = CodePoint.ofChar '\x7b' :: u ∧
        (skipSpace u = CodePoint.ofChar '\x7d' :: rest ∧ v = .obj [] ∨
          ∃ members, scanMembers constants fuel k (skipSpace u) = .ok (members, rest) ∧
            v = .obj (Entries.ofPairs members))) ∨
      scanPlain constants t = .ok (v, rest) := by
  cases t with
  | nil => simp [scanValue] at h
  | cons c t =>
    unfold scanValue at h
    split at h
    · next hquote =>
      split at h
      · next s rest' hs =>
        cases h
        exact .inl ⟨t, s, by rw [hquote], hs, rfl⟩
      · cases h
    split at h
    · next hbracket =>
      refine .inr (.inl ?_)
      split at h
      · cases h
      next k =>
      refine ⟨k, t, rfl, by rw [hbracket], ?_⟩
      split at h
      · next hclosed =>
        cases h
        exact .inl ⟨Text.cut?_eq_some_iff.1 hclosed, rfl⟩
      split at h
      · next items rest' hitems =>
        cases h
        exact .inr ⟨items, hitems, rfl⟩
      · cases h
    split at h
    · next hbrace =>
      refine .inr (.inr (.inl ?_))
      split at h
      · cases h
      next k =>
      refine ⟨k, t, rfl, by rw [hbrace], ?_⟩
      split at h
      · next hclosed =>
        cases h
        exact .inl ⟨Text.cut?_eq_some_iff.1 hclosed, rfl⟩
      split at h
      · next members rest' hmembers =>
        cases h
        exact .inr ⟨members, hmembers, rfl⟩
      · cases h
    · exact .inr (.inr (.inr h))

/-- Items that were read are a value and perhaps more items. -/
theorem scanItems_ok {vs : List Json}
    (h : scanItems constants (fuel + 1) room t = .ok (vs, rest)) :
    ∃ v u, scanValue constants fuel room t = .ok (v, u) ∧
      (skipSpace u = CodePoint.ofChar ']' :: rest ∧ vs = [v] ∨
        ∃ w vs', skipSpace u = CodePoint.ofChar ',' :: w ∧
          scanItems constants fuel room (skipSpace w) = .ok (vs', rest) ∧ vs = v :: vs') := by
  unfold scanItems at h
  split at h
  · cases h
  next v u hv =>
  refine ⟨v, u, hv, ?_⟩
  split at h
  · cases h
  next c r hu =>
  split at h
  · next hclosed =>
    cases h
    exact .inl ⟨by rw [hu, hclosed], rfl⟩
  split at h
  · next hcomma =>
    split at h
    · next vs' r' hvs =>
      cases h
      exact .inr ⟨_, vs', by rw [hu, hcomma], hvs, rfl⟩
    · cases h
  · cases h

/-- Members that were read are a name with a value and perhaps more members. -/
theorem scanMembers_ok {ms : List (Text × Json)}
    (h : scanMembers constants (fuel + 1) room t = .ok (ms, rest)) :
    ∃ body name r u v w, t = quote :: body ∧ scanString t body = .ok (name, r) ∧
      skipSpace r = CodePoint.ofChar ':' :: u ∧
      scanValue constants fuel room (skipSpace u) = .ok (v, w) ∧
      (skipSpace w = CodePoint.ofChar '\x7d' :: rest ∧ ms = [(name, v)] ∨
        ∃ z ms', skipSpace w = CodePoint.ofChar ',' :: z ∧
          scanMembers constants fuel room (skipSpace z) = .ok (ms', rest) ∧
          ms = (name, v) :: ms') := by
  cases t with
  | nil => simp [scanMembers] at h
  | cons c t =>
    unfold scanMembers at h
    split at h
    · next hquote =>
      split at h
      · cases h
      next name r hname =>
      split at h
      · cases h
      next u hcolon =>
      split at h
      · cases h
      next v w hv =>
      refine ⟨t, name, r, u, v, w, by rw [hquote], hname, Text.cut?_eq_some_iff.1 hcolon, hv, ?_⟩
      split at h
      · cases h
      next d z hw =>
      split at h
      · next hclosed =>
        cases h
        exact .inl ⟨by rw [hw, hclosed], rfl⟩
      split at h
      · next hcomma =>
        split at h
        · next ms' r' hms =>
          cases h
          exact .inr ⟨_, ms', by rw [hw, hcomma], hms, rfl⟩
        · cases h
      · cases h
    · cases h

end Steps

/-- A property that the scalars of a text have and that containers inherit from their parts. -/
structure Inherited (constants : Constants) (P : Json → Prop) : Prop where
  text : ∀ s, P (.str s)
  plain : ∀ t v rest, scanPlain constants t = .ok (v, rest) → P v
  arr : ∀ vs, (∀ v ∈ vs, P v) → P (.arr vs)
  obj : ∀ ms, (∀ m ∈ ms, P m.2) → P (.obj (Entries.ofPairs ms))

namespace Inherited

variable {constants : Constants} {P : Json → Prop} (hP : Inherited constants P)

include hP

/-- By induction on the fuel: one more container than the parts that have the property already. -/
theorem of_scan (fuel : Nat) :
    (∀ room t v rest, scanValue constants fuel room t = .ok (v, rest) → P v) ∧
    (∀ room t vs rest, scanItems constants fuel room t = .ok (vs, rest) → ∀ v ∈ vs, P v) ∧
    ∀ room t ms rest, scanMembers constants fuel room t = .ok (ms, rest) → ∀ m ∈ ms, P m.2 := by
  induction fuel with
  | zero =>
    refine ⟨?_, ?_, ?_⟩
    · intro room t v rest h
      cases t <;> simp [scanValue] at h
    · intro room t vs rest h
      simp [scanItems] at h
    · intro room t ms rest h
      cases t <;> simp [scanMembers] at h
  | succ fuel ih =>
    obtain ⟨ihValue, ihItems, ihMembers⟩ := ih
    refine ⟨?_, ?_, ?_⟩
    · intro room t v rest h
      rcases scanValue_ok h with
        ⟨-, s, -, -, rfl⟩ | ⟨k, u, -, -, hitems⟩ | ⟨k, u, -, -, hmembers⟩ | h
      · exact hP.text s
      · rcases hitems with ⟨-, rfl⟩ | ⟨items, hitems, rfl⟩
        · exact hP.arr [] (List.forall_mem_nil _)
        · exact hP.arr items (ihItems k _ items rest hitems)
      · rcases hmembers with ⟨-, rfl⟩ | ⟨members, hmembers, rfl⟩
        · exact hP.obj [] (List.forall_mem_nil _)
        · exact hP.obj members (ihMembers k _ members rest hmembers)
      · exact hP.plain t v rest h
    · intro room t vs rest h
      obtain ⟨v, u, hv, ⟨-, rfl⟩ | ⟨w, vs', -, hvs, rfl⟩⟩ := scanItems_ok h
      · exact List.forall_mem_singleton.2 (ihValue room t v u hv)
      · exact List.forall_mem_cons.2 ⟨ihValue room t v u hv, ihItems room _ vs' rest hvs⟩
    · intro room t ms rest h
      obtain ⟨-, name, -, u, v, w, -, -, -, hv, ⟨-, rfl⟩ | ⟨z, ms', -, hms, rfl⟩⟩ :=
        scanMembers_ok h
      · exact List.forall_mem_singleton.2 (ihValue room _ v w hv)
      · exact List.forall_mem_cons.2 ⟨ihValue room _ v w hv, ihMembers room _ ms' rest hms⟩

/-- **Every decoded value has an inherited property.** -/
theorem of_decodeWith {t : Text} {v : Json} (h : decodeWith constants t = .ok v) : P v := by
  unfold decodeWith at h
  split at h
  · cases h
  · split at h
    · cases h
    · next w rest hw =>
      split at h
      · cases h
        exact (hP.of_scan _).1 _ _ _ _ hw
      · cases h

end Inherited

/-! ### Whole numbers -/

variable {v : Json} {vs : List Json} {ms : List (Text × Json)} {t : Text}

theorem isWritableItems_iff : isWritableItems vs = true ↔ ∀ v ∈ vs, isWritable v = true := by
  induction vs with
  | nil => simp [isWritableItems]
  | cons v vs ih => rw [isWritableItems, Bool.and_eq_true, ih, List.forall_mem_cons]

theorem isWritableMembers_iff :
    isWritableMembers ms = true ↔ ∀ m ∈ ms, isWritable m.2 = true := by
  induction ms with
  | nil => simp [isWritableMembers]
  | cons m ms ih =>
    obtain ⟨k, v⟩ := m
    rw [isWritableMembers, Bool.and_eq_true, ih, List.forall_mem_cons]

/-- Digits spell a number with at most as many digits. -/
theorem digitsVal_lt (ds : Text) (h : ∀ c ∈ ds, c.isAsciiDigit = true) :
    Text.digitsVal ds < 10 ^ ds.length := by
  have hfold : ∀ n, ds.foldl (fun n c => n * 10 + c.digitVal) n < (n + 1) * 10 ^ ds.length := by
    induction ds with
    | nil => intro n; simp
    | cons c ds ih =>
      intro n
      obtain ⟨hc, hrest⟩ := List.forall_mem_cons.1 h
      have hdigit : c.digitVal ≤ 9 := by
        simp only [CodePoint.isAsciiDigit, Bool.and_eq_true, decide_eq_true_eq] at hc
        unfold CodePoint.digitVal
        omega
      have hnext := ih hrest (n * 10 + c.digitVal)
      calc (c :: ds).foldl (fun n c => n * 10 + c.digitVal) n
          = ds.foldl (fun n c => n * 10 + c.digitVal) (n * 10 + c.digitVal) := rfl
        _ < (n * 10 + c.digitVal + 1) * 10 ^ ds.length := hnext
        _ ≤ ((n + 1) * 10) * 10 ^ ds.length := Nat.mul_le_mul_right _ (by omega)
        _ = (n + 1) * 10 ^ (c :: ds).length := by
          rw [List.length_cons, Nat.pow_succ, Nat.mul_assoc, Nat.mul_comm 10]
  have h0 := hfold 0
  rwa [Nat.zero_add, Nat.one_mul] at h0

theorem Numeral.isAsciiDigit_of_scan {n : Numeral} {rest : Text}
    (h : Numeral.scan? t = some (n, rest)) : ∀ c ∈ n.whole, c.isAsciiDigit = true := by
  unfold Numeral.scan? at h
  split at h
  next negative t' _ =>
    split at h
    · cases h
    · next whole t'' hwhole =>
      cases h
      dsimp only
      unfold Numeral.scanWhole? at hwhole
      split at hwhole
      · cases hwhole
      · next c r =>
        split at hwhole
        · next hc =>
          cases hwhole
          rw [hc]
          decide
        · split at hwhole
          · next hc =>
            cases hwhole
            refine List.forall_mem_cons.2 ⟨hc, fun d hd => ?_⟩
            exact List.all_eq_true.1 List.all_takeWhile d hd
          · cases hwhole

theorem isWritable_int {n : Int} {count : Nat} (h : n.natAbs < 10 ^ count)
    (hcount : count ≤ DesiredState.Numeral.maxDigits) : isWritable (.int n) = true := by
  unfold isWritable DesiredState.Numeral.isWritable
  generalize DesiredState.Numeral.maxDigits = limit at hcount ⊢
  exact decide_eq_true (Nat.lt_of_lt_of_le h (Nat.pow_le_pow_right (by decide) hcount))

/-- A number that is read has no more digits than may be written. -/
theorem Numeral.isWritable_of_value {n : Numeral} {s : Scalar}
    (hdigits : ∀ c ∈ n.whole, c.isAsciiDigit = true) (h : n.value = .ok s) :
    isWritable (.scalar s) = true := by
  unfold Numeral.value at h
  split at h
  · cases h
  · next hlimit =>
    cases h
    unfold meaning
    split
    · next hinteger =>
      have habs : (if n.negative then -(Text.digitsVal n.whole : Int)
          else (Text.digitsVal n.whole : Int)).natAbs = Text.digitsVal n.whole := by
        cases n.negative <;> simp
      have hlength : n.whole.length ≤ DesiredState.Numeral.maxDigits := by
        simpa [hinteger] using hlimit
      refine isWritable_int ?_ hlength
      rw [habs]
      exact digitsVal_lt n.whole hdigits
    · rfl

theorem inherited_isWritable (constants : Constants) :
    Inherited constants fun v => isWritable v = true where
  text _ := rfl
  plain t v rest h := by
    -- only a number can be too long
    unfold scanPlain at h
    split at h
    · cases h; rfl
    · cases h; rfl
    · cases h; rfl
    · split at h
      · cases constants <;> cases h; rfl
      · cases constants <;> cases h; rfl
      · cases constants <;> cases h; rfl
      · split at h
        · cases h
        · next n rest' hscan =>
          split at h
          · next s hvalue =>
            cases h
            exact Numeral.isWritable_of_value (Numeral.isAsciiDigit_of_scan hscan) hvalue
          · cases h
  arr vs h := isWritableItems_iff.2 h
  obj ms h :=
    isWritableMembers_iff.2 (Entries.forall_ofPairs (p := fun v => isWritable v = true) h)

/-- A text is decoded if it is read without constants and the value is not too deep. -/
theorem decode_eq_ok_iff :
    decode t = .ok v ↔ decodeWith .refused t = .ok v ∧ v.depth ≤ maxDepth := by
  unfold decode
  cases decodeWith .refused t with
  | error f => exact iff_of_false nofun nofun
  | ok w =>
    dsimp only
    split
    · next h =>
      rw [exceeds_maxDepth] at h
      refine iff_of_false nofun ?_
      rintro ⟨⟨⟩, hdepth⟩
      exact Nat.not_le.2 h hdepth
    · next h =>
      rw [exceeds_maxDepth] at h
      refine ⟨?_, And.left⟩
      rintro ⟨⟩
      exact ⟨rfl, Nat.le_of_not_lt h⟩

/-- **A value that was read can be written.** -/
theorem isWritable_of_decode (h : decode t = .ok v) : isWritable v = true :=
  (inherited_isWritable .refused).of_decodeWith (decode_eq_ok_iff.1 h).1

/-! ### Names -/

theorem distinctItems_iff : DistinctItems vs ↔ ∀ v ∈ vs, Distinct v := by
  induction vs with
  | nil => simp [DistinctItems]
  | cons v vs ih => rw [DistinctItems, ih, List.forall_mem_cons]

theorem distinctMembers_iff : DistinctMembers ms ↔ ∀ m ∈ ms, Distinct m.2 := by
  induction ms with
  | nil => simp [DistinctMembers]
  | cons m ms ih =>
    obtain ⟨k, v⟩ := m
    rw [DistinctMembers, ih, List.forall_mem_cons]

/-- What is neither string nor container is a scalar. -/
theorem scanPlain_ok {constants : Constants} {rest : Text}
    (h : scanPlain constants t = .ok (v, rest)) : ∃ s, v = .scalar s := by
  unfold scanPlain at h
  split at h
  · cases h
    exact ⟨.null, rfl⟩
  · cases h
    exact ⟨.bool true, rfl⟩
  · cases h
    exact ⟨.bool false, rfl⟩
  · split at h
    · cases constants <;> cases h
      exact ⟨.float _, rfl⟩
    · cases constants <;> cases h
      exact ⟨.float _, rfl⟩
    · cases constants <;> cases h
      exact ⟨.float _, rfl⟩
    · split at h
      · cases h
      · split at h
        · next s _ =>
          cases h
          exact ⟨s, rfl⟩
        · cases h

theorem inherited_distinct (constants : Constants) : Inherited constants Distinct where
  text _ := trivial
  plain t v rest h := by
    obtain ⟨s, rfl⟩ := scanPlain_ok h
    exact trivial
  arr vs h := distinctItems_iff.2 h
  obj ms h := ⟨Entries.nodup_keys_ofPairs ms, distinctMembers_iff.2 (Entries.forall_ofPairs h)⟩

/-- **No object that was read repeats a name.** -/
theorem distinct_of_decode (h : decode t = .ok v) : Distinct v :=
  (inherited_distinct .refused).of_decodeWith (decode_eq_ok_iff.1 h).1

end Json

end DesiredState
