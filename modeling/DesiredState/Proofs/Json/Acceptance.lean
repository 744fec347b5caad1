import DesiredState.Proofs.Json.Recognition

/-!
# Which texts are accepted

Standard JSON is accepted exactly when its integers are short, the decoder does not have to keep too
many containers open, and the value is not too deep. The depth is asked of the value, in which a
repeated name has one member only: a document may nest deeper than its value, and a document whose
value is flat may still nest too deep to be read.

* `Json.Accepts`: a document within the limits.
* `Json.decode_exact`: **exactly the documents within the limits are accepted**, with their values.
* `Json.decode_shadowed`: a value that nests and is shadowed by a later member with the same name.
-/

namespace DesiredState.Json

variable {t : Text} {x : Tree} {v : Json}

/-- A text that is one value with blanks around it. -/
def IsDocument (t : Text) (x : Tree) : Prop :=
  ∃ a u b, t = a ++ u ++ b ∧ IsSpace a ∧ IsSpace b ∧ Spelled u x

/-- A document within the limits: on the digits of its integers, on the containers that are open at
one place of it, and on the depth of its value. -/
structure Accepts (t : Text) (x : Tree) : Prop where
  document : IsDocument t x
  short : x.IsShort
  nesting : x.nesting ≤ maxOpen
  depth : x.value.depth ≤ maxDepth

/-! ### Depth and nesting -/

theorem depthMembers_latest_le {n : Nat} {ms : List (Text × Json)} (h : depthMembers ms ≤ n) :
    depthMembers (Entries.latest ms) ≤ n := by
  rw [← Entries.ofPairs_eq_latest, depthMembers_le_iff]
  exact Entries.forall_ofPairs (p := fun v : Json => v.depth ≤ n) (depthMembers_le_iff.1 h)

mutual

/-- A value is at most as deep as its text nests. -/
theorem depth_value_le : (x : Tree) → x.value.depth ≤ x.nesting
  | .null | .bool _ | .number _ | .string _ => Nat.le_refl 0
  | .arr xs => Nat.succ_le_succ (depthItems_values_le xs)
  | .obj ms => Nat.succ_le_succ (depthMembers_latest_le (depthMembers_namedValues_le ms))

theorem depthItems_values_le : (xs : List Tree) →
    depthItems (Tree.values xs) ≤ Tree.nestingItems xs
  | [] => Nat.le_refl 0
  | x :: xs => max_le_max (depth_value_le x) (depthItems_values_le xs)

theorem depthMembers_namedValues_le : (ms : List (List StringUnit × Tree)) →
    depthMembers (Tree.namedValues ms) ≤ Tree.nestingMembers ms
  | [] => Nat.le_refl 0
  | (_, x) :: ms => max_le_max (depth_value_le x) (depthMembers_namedValues_le ms)

end

/-! ### The accepted documents -/

theorem decode_eq_ok_iff_accepts : decode t = .ok v ↔ ∃ x, Accepts t x ∧ x.value = v := by
  rw [decode_eq_ok_iff, decodeWith_refused_iff]
  constructor
  · rintro ⟨⟨a, u, b, ht, ha, hb, x, hspelled, hnesting, hshort, rfl⟩, hdepth⟩
    exact ⟨x, ⟨⟨a, u, b, ht, ha, hb, hspelled⟩, hshort, hnesting, hdepth⟩, rfl⟩
  · rintro ⟨x, ⟨⟨a, u, b, ht, ha, hb, hspelled⟩, hshort, hnesting, hdepth⟩, rfl⟩
    exact ⟨⟨a, u, b, ht, ha, hb, x, hspelled, hnesting, hshort, rfl⟩, hdepth⟩

/-- Only the tree of an object stands for an object. -/
theorem exists_obj_of_value {ms : List (Text × Json)} (h : x.value = .obj ms) :
    ∃ xs, x = .obj xs := by
  cases x with
  | obj xs => exact ⟨xs, rfl⟩
  | _ => cases h

theorem decodeObject?_isSome_iff : (decodeObject? t).isSome ↔ ∃ ms, decode t = .ok (.obj ms) := by
  unfold decodeObject?
  split
  · next ms h => simp [h]
  · next h => simpa using h

/-- Brackets, one pair inside the other. -/
def nested (n : Nat) : Text :=
  List.replicate n (CodePoint.ofChar '[') ++ List.replicate n (CodePoint.ofChar ']')

/-- Arrays, one inside the other: one more than `n`. -/
def nestedTree : Nat → Tree
  | 0 => .arr []
  | n + 1 => .arr [nestedTree n]

/-- An object with a member that nests and a later one with the same name. -/
def shadowed (n : Nat) : Text := "\x7b\"a\":" ++ nested n ++ ",\"a\":1\x7d"

def shadowedTree (n : Nat) : Tree :=
  .obj [([.literal (CodePoint.ofChar 'a')], nestedTree n),
    ([.literal (CodePoint.ofChar 'a')], .number ⟨false, "1", none, none⟩)]

theorem nested_succ (n : Nat) :
    nested (n + 1) = CodePoint.ofChar '[' :: nested n ++ [CodePoint.ofChar ']'] := by
  unfold nested
  rw [List.replicate_succ, List.replicate_succ', List.cons_append, List.cons_append,
    List.append_assoc]

theorem spelled_nested (n : Nat) : Spelled (nested (n + 1)) (nestedTree n) := by
  induction n with
  | zero => exact .emptyArr (List.forall_mem_nil _)
  | succ n ih =>
    have hitems := ItemsSpelled.one (List.forall_mem_nil _) ih (List.forall_mem_nil _)
    rw [List.nil_append, List.append_nil] at hitems
    rw [nested_succ]
    exact .arr hitems

theorem nesting_nestedTree (n : Nat) : (nestedTree n).nesting = n + 1 := by
  induction n with
  | zero => rfl
  | succ n ih =>
    unfold nestedTree
    simp [Tree.nesting, Tree.nestingItems, ih]

theorem isShort_nestedTree (n : Nat) : (nestedTree n).IsShort := by
  induction n with
  | zero => trivial
  | succ n ih => exact ⟨ih, trivial⟩

theorem spelled_shadowedName : StringSpelled "\"a\"" [.literal (CodePoint.ofChar 'a')] :=
  .mk (.cons (.literal (by decide) (by decide) (by decide)) .nil)

theorem spelled_shadowed (n : Nat) : Spelled (shadowed (n + 1)) (shadowedTree n) := by
  have hname := spelled_shadowedName
  have hone : Spelled "1" (.number ⟨false, "1", none, none⟩) :=
    .number (.positive (.digits (by decide) (by decide) (List.forall_mem_nil _)) .none .none)
  have hspace : IsSpace [] := List.forall_mem_nil _
  have hlast := MembersSpelled.one hspace hname hspace hspace hone hspace
  have hmembers := MembersSpelled.cons hspace hname hspace hspace (spelled_nested n) hspace hlast
  have hobj := Spelled.obj hmembers
  have htext : shadowed (n + 1) = CodePoint.ofChar '\x7b' ::
      ("\"a\"" ++ CodePoint.ofChar ':' :: (nested (n + 1) ++ CodePoint.ofChar ',' ::
        ("\"a\"" ++ CodePoint.ofChar ':' :: "1"))) ++ [CodePoint.ofChar '\x7d'] := by
    unfold shadowed
    simp only [List.append_assoc, List.cons_append]
    rfl
  simp only [List.nil_append, List.append_nil] at hobj
  rw [htext]
  exact hobj

/-- When too many brackets follow one another, the decoder gives up at the first without room. -/
theorem scanValue_brackets (constants : Constants) {fuel room : Nat} (hfuel : 2 * room < fuel)
    (rest : Text) :
    scanValue constants fuel room (List.replicate (room + 1) (CodePoint.ofChar '[') ++ rest) =
      .error .tooManyOpen := by
  induction room generalizing fuel with
  | zero =>
    obtain ⟨fuel, rfl⟩ := Nat.exists_eq_add_one_of_ne_zero (Nat.ne_zero_of_lt hfuel)
    rfl
  | succ room ih =>
    obtain ⟨fuel, rfl⟩ : ∃ k, fuel = k + 2 := ⟨fuel - 2, by omega⟩
    have hinner := @ih fuel (by omega)
    rw [List.replicate_succ, List.cons_append]
    rw [List.replicate_succ, List.cons_append] at hinner ⊢
    have hskip := skipSpace_of_head (c := CodePoint.ofChar '[')
      (r := List.replicate room (CodePoint.ofChar '[') ++ rest) rfl
    have hquote : CodePoint.ofChar '[' ≠ quote := by decide
    have hcut : Text.cut? "]" (CodePoint.ofChar '[' ::
        (List.replicate room (CodePoint.ofChar '[') ++ rest)) = none := rfl
    unfold scanValue
    simp only [if_neg hquote, if_true, hskip, hcut]
    unfold scanItems
    simp only [hinner]

theorem scanValue_shadowed (constants : Constants) {fuel room n : Nat} (hfuel : 2 * room < fuel)
    (hn : room < n) :
    scanValue constants (fuel + 2) (room + 1) (shadowed n) = .error .tooManyOpen := by
  obtain ⟨k, rfl⟩ := Nat.exists_eq_add_of_le hn
  have hnested : nested (room + 1 + k) = List.replicate (room + 1) (CodePoint.ofChar '[') ++
      (List.replicate k (CodePoint.ofChar '[') ++
        List.replicate (room + 1 + k) (CodePoint.ofChar ']')) := by
    rw [nested, List.replicate_add, List.append_assoc]
  have hinner : scanValue constants fuel room
      (skipSpace (nested (room + 1 + k) ++ ",\"a\":1\x7d")) = .error .tooManyOpen := by
    rw [hnested, List.append_assoc]
    exact scanValue_brackets constants hfuel _
  -- the name and the colon before the brackets are read
  have hmembers : scanMembers constants (fuel + 1) room
      ("\"a\":" ++ (nested (room + 1 + k) ++ ",\"a\":1\x7d")) = .error .tooManyOpen := by
    have hname : ∀ start r, scanString start ("a\":" ++ r) = .ok ("a", ":" ++ r) := by
      intro start r
      obtain ⟨body, hbody, hscan⟩ := scanString_of_written (.mk spelled_shadowedName) (":" ++ r)
      cases hbody
      exact hscan start
    have hcolon : ∀ r, Text.cut? ":" (skipSpace (":" ++ r)) = some r := fun _ => rfl
    have hquote : ∀ r : Text, "\"a\":" ++ r = quote :: ("a\":" ++ r) := fun _ => rfl
    rw [hquote]
    unfold scanMembers
    simp only [if_true, hname, hcolon, hinner]
  have hbrace : shadowed (room + 1 + k) =
      CodePoint.ofChar '\x7b' :: ("\"a\":" ++ (nested (room + 1 + k) ++ ",\"a\":1\x7d")) := by
    rw [shadowed, List.append_assoc]
    rfl
  have hskip : ∀ r : Text, skipSpace ("\"a\":" ++ r) = "\"a\":" ++ r := fun _ => rfl
  have hcut : ∀ r : Text, Text.cut? "\x7d" ("\"a\":" ++ r) = none := fun _ => rfl
  have hquote : CodePoint.ofChar '\x7b' ≠ quote := by decide
  have hbracket : CodePoint.ofChar '\x7b' ≠ '[' := by decide
  rw [hbrace]
  unfold scanValue
  simp only [if_neg hquote, if_neg hbracket, if_true, hskip, hcut, hmembers]

theorem isDocument_shadowed (n : Nat) : IsDocument (shadowed (n + 1)) (shadowedTree n) :=
  ⟨[], _, [], by simp, List.forall_mem_nil _, List.forall_mem_nil _, spelled_shadowed n⟩

theorem isShort_shadowedTree (n : Nat) : (shadowedTree n).IsShort :=
  ⟨isShort_nestedTree n, fun _ => by decide, trivial⟩

theorem nesting_shadowedTree (n : Nat) : (shadowedTree n).nesting = n + 2 := by
  rw [shadowedTree, Tree.nesting, Tree.nestingMembers, nesting_nestedTree]
  simp [Tree.nestingMembers, Tree.nesting]

/-- The last member counts. -/
theorem value_shadowedTree (n : Nat) : (shadowedTree n).value = .obj [("a", .int 1)] := by
  rw [shadowedTree, Tree.value, ← Entries.ofPairs_eq_latest]
  rfl

/-- The value of `shadowed n` is flat. It is read as long as its brackets, which do not count in the
value, leave the decoder room. -/
theorem decode_shadowed (n : Nat) :
    decode (shadowed (n + 1)) =
      if n + 2 ≤ maxOpen then .ok (.obj [("a", .int 1)]) else .error .tooManyOpen := by
  split
  · next hroom =>
    have hdepth : (shadowedTree n).value.depth ≤ maxDepth := by
      rw [value_shadowedTree]
      decide
    exact decode_eq_ok_iff_accepts.2 ⟨shadowedTree n, ⟨isDocument_shadowed n,
      isShort_shadowedTree n, (nesting_shadowedTree n).symm ▸ hroom, hdepth⟩,
      value_shadowedTree n⟩
  · next hroom =>
    have hlength : 2 * n + 2 ≤ (shadowed (n + 1)).length := by
      simp [shadowed, nested]
      omega
    have hfuel : ∃ fuel, 2 * (shadowed (n + 1)).length + 1 = fuel + 2 ∧ 2 * 989 < fuel := by
      unfold maxOpen at hroom
      exact ⟨2 * (shadowed (n + 1)).length - 1, by omega, by omega⟩
    obtain ⟨fuel, heq, hlt⟩ := hfuel
    have hscan : scanValue .refused (fuel + 2) maxOpen (skipSpace (shadowed (n + 1))) =
        .error .tooManyOpen :=
      scanValue_shadowed .refused hlt (by unfold maxOpen at hroom; omega)
    have hmark : Text.cut? [CodePoint.ofNat 0xFEFF] (shadowed (n + 1)) = none := rfl
    unfold decode decodeWith
    simp only [hmark, heq, hscan]

end DesiredState.Json
