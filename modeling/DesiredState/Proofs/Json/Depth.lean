import DesiredState.Json.Decode
import Mathlib.Order.MinMax

/-!
# The check of the depth

The decoder asks for containers that are too deep with a list of values that wait, each with its
level. The answer is about the depth of the value, whatever the order of the list.

* `Json.exceeds_iff`: what the list of waiting values tells about their depths.
* `Json.exceeds_maxDepth`: **the check is the limit on the depth.**
-/

namespace DesiredState.Json

variable {v : Json} {parts : List Json} {ms : List (Text × Json)}

theorem depthItems_le_iff {n : Nat} {vs : List Json} :
    depthItems vs ≤ n ↔ ∀ v ∈ vs, v.depth ≤ n := by
  induction vs with
  | nil => simp [depthItems]
  | cons v vs ih => simp [depthItems, ih]

theorem lt_depthItems_iff {n : Nat} {vs : List Json} :
    n < depthItems vs ↔ ∃ v ∈ vs, n < v.depth := by
  rw [← Nat.not_le, depthItems_le_iff]
  simp

theorem depthMembers_eq : depthMembers ms = depthItems (ms.map Prod.snd) := by
  induction ms with
  | nil => rfl
  | cons m ms ih =>
    obtain ⟨k, v⟩ := m
    rw [depthMembers, ih, List.map_cons, depthItems]

theorem depthMembers_le_iff {n : Nat} : depthMembers ms ≤ n ↔ ∀ m ∈ ms, m.2.depth ≤ n := by
  rw [depthMembers_eq, depthItems_le_iff, List.forall_mem_map]

theorem depth_of_parts (h : v.parts? = some parts) : v.depth = depthItems parts + 1 := by
  cases v with
  | scalar s => cases h
  | arr items =>
    cases h
    rfl
  | obj members =>
    cases h
    rw [depth, depthMembers_eq]

theorem depth_of_no_parts (h : v.parts? = none) : v.depth = 0 := by
  cases v with
  | scalar s => rfl
  | arr items | obj members => cases h

/-- Some container is beyond the limit if one of the waiting values reaches beyond it from its
level on. -/
theorem exceeds_iff {limit : Nat} {waiting : List (Json × Nat)} :
    exceeds limit waiting = true ↔
      ∃ e ∈ waiting, 0 < e.1.depth ∧ limit + 1 < e.2 + e.1.depth := by
  fun_induction exceeds limit waiting with
  | case1 => simp
  | case2 v level waiting h ih =>
    simp [ih, depth_of_no_parts h]
  | case3 v level waiting parts h hlevel =>
    refine iff_of_true rfl ⟨_, List.mem_cons_self, ?_, ?_⟩
    · rw [depth_of_parts h]
      exact Nat.succ_pos _
    · rw [depth_of_parts h]
      dsimp only
      omega
  | case4 v level waiting parts h hlevel ih =>
    -- a part that reaches beyond the limit is a container, since the next level is within it
    have hparts : (∃ w ∈ parts, 0 < w.depth ∧ limit + 1 < level + 1 + w.depth) ↔
        limit - level < depthItems parts := by
      rw [lt_depthItems_iff]
      exact exists_congr fun w => and_congr_right fun _ => by omega
    have hv : limit - level < depthItems parts ↔ limit + 1 < level + v.depth := by
      rw [depth_of_parts h]
      omega
    rw [ih]
    simp only [List.mem_append, List.mem_reverse, List.mem_map, List.mem_cons]
    constructor
    · rintro ⟨_, ⟨w, hw, rfl⟩ | he, hdepth⟩
      · have hcontainer : 0 < v.depth := by
          rw [depth_of_parts h]
          exact Nat.succ_pos _
        exact ⟨_, .inl rfl, hcontainer, hv.1 (hparts.1 ⟨w, hw, hdepth⟩)⟩
      · exact ⟨_, .inr he, hdepth⟩
    · rintro ⟨e, rfl | he, hdepth⟩
      · obtain ⟨w, hw, hdepth⟩ := hparts.2 (hv.2 hdepth.2)
        exact ⟨_, .inl ⟨w, hw, rfl⟩, hdepth⟩
      · exact ⟨e, .inr he, hdepth⟩

theorem exceeds_maxDepth : exceeds maxDepth [(v, 1)] = true ↔ maxDepth < v.depth := by
  rw [exceeds_iff]
  simp only [List.mem_singleton, exists_eq_left]
  omega

end DesiredState.Json
