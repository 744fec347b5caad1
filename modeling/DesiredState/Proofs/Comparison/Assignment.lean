import DesiredState.Comparison.Containment
import Mathlib.Data.Fin.Tuple.Basic
import Mathlib.Data.List.FinRange
import Mathlib.Data.List.Forall2
import Mathlib.Logic.Equiv.Basic

/-!
# Assignments by first claims

A number of seekers, each to be assigned a place of its own that fits it. Seeker after seeker
claims the first place that is free and fits; nobody gives a place back.

* `Assignable`, `FirstFit`: there is an assignment; the one by first claims is complete.
* `claimAll_eq_of_like`: **like seekers make the same choices among like places.**
* `claimAll_iff_firstFit`: the places that the seekers of a list claim.
* `claimAll_of_assignable`: **first claims are enough when of two rivals the earlier one fits only
  where the later one fits.**
* `claimAll_iff_countP`: **they are enough when the places are of kinds and each seeker fits one.**
* `claimAll_perm_iff`: **they are enough in every order if and only if no seeker can get stuck.**
-/

namespace DesiredState

variable {α β γ : Type}

section Relation

variable {n m : ℕ} {R S : Fin n → Fin m → Prop}

/-- Every seeker has a place of its own that fits it. -/
def Assignable (R : Fin n → Fin m → Prop) : Prop :=
  ∃ f : Fin n → Fin m, Function.Injective f ∧ ∀ i, R i (f i)

/-- Every seeker has the first place that fits it among those that no earlier one has. -/
def FirstFit (R : Fin n → Fin m → Prop) : Prop :=
  ∃ f : Fin n → Fin m, Function.Injective f ∧ (∀ i, R i (f i)) ∧
    ∀ i, ∀ j < f i, (∀ k < i, f k ≠ j) → ¬ R i j

/-- Of two seekers that fit in one place, the earlier one fits only where the later one fits. -/
def RivalsOrdered (R : Fin n → Fin m → Prop) : Prop :=
  ∀ i k, i < k → ∀ j j', R i j → R k j → R i j' → R k j'

theorem FirstFit.assignable (h : FirstFit R) : Assignable R := by
  obtain ⟨f, hf, hR, -⟩ := h
  exact ⟨f, hf, hR⟩

theorem Assignable.mono (h : Assignable R) (hRS : ∀ i j, R i j → S i j) : Assignable S := by
  obtain ⟨f, hf, hR⟩ := h
  exact ⟨f, hf, fun i => hRS i (f i) (hR i)⟩

end Relation

variable {p : α → β → Bool} {w : α} {ws ws' : List α} {hs hs' : List β}

/-- Each seeker in turn claims a place that fits it, and none is left without one. -/
def claimAll (p : α → β → Bool) : List α → List β → Bool
  | [], _ => true
  | w :: ws, hs =>
    match claim (p w) hs with
    | some rest => claimAll p ws rest
    | none => false

/-- Seekers that fit themselves are in their own places, for each finds its own at the front when
the earlier ones have taken theirs. -/
theorem claimAll_self {p : α → α → Bool} {ws : List α} (h : ∀ w ∈ ws, p w w = true) :
    claimAll p ws ws = true := by
  induction ws with
  | nil => rfl
  | cons w ws ih =>
    obtain ⟨hw, hws⟩ := List.forall_mem_cons.1 h
    have hfirst : claim (p w) (w :: ws) = some ws := by rw [claim, if_pos hw]
    rw [claimAll, hfirst]
    exact ih hws

/-- The first seeker takes the first place that fits it, and the others follow. -/
theorem claimAll_cons_iff :
    claimAll p (w :: ws) hs = true ↔
      ∃ a x b, hs = a ++ x :: b ∧ p w x = true ∧ (∀ z ∈ a, p w z = false) ∧
        claimAll p ws (a ++ b) = true := by
  rw [claimAll]
  constructor
  · intro h
    split at h
    · next rest hclaim =>
      obtain ⟨a, x, b, hhs, rfl, hx, ha⟩ := claim_eq_some_iff.1 hclaim
      exact ⟨a, x, b, hhs, hx, ha, h⟩
    · cases h
  · rintro ⟨a, x, b, hhs, hx, ha, h⟩
    rw [claim_eq_some_iff.2 ⟨a, x, b, hhs, rfl, hx, ha⟩]
    exact h

/-! ### Like seekers and like places -/

section Likeness

variable {σ τ : Type} {p' : σ → τ → Bool} {q : β → Bool} {q' : τ → Bool} {S : β → τ → Prop}
  {vs : List σ} {gs : List τ}

/-- The same is claimed among like places, and like places are left. -/
theorem claim_rel (hplaces : List.Forall₂ S hs gs) (hq : ∀ h g, S h g → q h = q' g) :
    Option.Rel (List.Forall₂ S) (claim q hs) (claim q' gs) := by
  induction hplaces with
  | nil => exact .none
  | @cons h g hs gs hhg hrest ih =>
    rw [claim, claim, ← hq h g hhg]
    cases q h with
    | true => exact .some hrest
    | false =>
      -- neither place is claimed, and both stay in front of what the search leaves
      generalize claim q hs = rest, claim q' gs = rest' at ih ⊢
      cases ih with
      | none => exact .none
      | some hleft => exact .some (.cons hhg hleft)

/-- **Like seekers make the same choices among like places.** -/
theorem claimAll_eq_of_like (hplaces : List.Forall₂ S hs gs)
    (hseekers : List.Forall₂ (fun w v => ∀ h g, S h g → p w h = p' v g) ws vs) :
    claimAll p ws hs = claimAll p' vs gs := by
  induction hseekers generalizing hs gs with
  | nil => rfl
  | @cons w v ws vs hw _ ih =>
    -- the induction is on the seekers, for any places: the first one leaves like places again
    have hclaim := claim_rel hplaces hw
    rw [claimAll, claimAll]
    generalize claim (p w) hs = rest, claim (p' v) gs = rest' at hclaim ⊢
    cases hclaim with
    | none => rfl
    | some hleft => exact ih hleft

end Likeness

/-- Claims see nothing of the places but which of them fit. -/
theorem claimAll_map (g : γ → β) (ws : List α) (js : List γ) :
    claimAll p ws (js.map g) = claimAll (fun w j => p w (g j)) ws js := by
  refine claimAll_eq_of_like (S := fun h j => h = g j) ?_ ?_
  · exact List.forall₂_map_left_iff.2 (List.forall₂_same.2 fun j _ => rfl)
  · refine List.forall₂_same.2 fun w _ h j hj => ?_
    rw [hj]

/-! ### First claims, place by place -/

section Places

variable {m : ℕ} {q : α → Fin m → Bool} {free : List (Fin m)}

/-- The seekers of a list claim these places out of the free ones, each the first that is left. -/
def Claims (q : α → Fin m → Bool) (ws : List α) (free : List (Fin m))
    (f : Fin ws.length → Fin m) : Prop :=
  Function.Injective f ∧ (∀ i, f i ∈ free ∧ q ws[i] (f i) = true) ∧
    ∀ i, ∀ j ∈ free, j < f i → (∀ k < i, f k ≠ j) → q ws[i] j = false

/-- The first seeker takes the place `x` and the others claim theirs out of what is left. -/
theorem Claims.cons {a b : List (Fin m)} {x : Fin m} {f : Fin ws.length → Fin m}
    (hsorted : (a ++ x :: b).Pairwise (· < ·)) (hx : q w x = true)
    (ha : ∀ z ∈ a, q w z = false) (h : Claims q ws (a ++ b) f) :
    Claims q (w :: ws) (a ++ x :: b) (Fin.cons x f : Fin (ws.length + 1) → Fin m) := by
  obtain ⟨hinj, hfits, hfirst⟩ := h
  obtain ⟨-, hxb, hax⟩ := List.pairwise_append.1 hsorted
  have hbx := (List.pairwise_cons.1 hxb).1
  have hne : ∀ i, f i ≠ x := by
    intro i hi
    rcases List.mem_append.1 (hi ▸ (hfits i).1) with hxa | hxb
    · exact lt_irrefl x (hax x hxa x List.mem_cons_self)
    · exact lt_irrefl x (hbx x hxb)
  refine ⟨Fin.cons_injective_iff.2 ⟨fun ⟨i, hi⟩ => hne i hi, hinj⟩, fun i => ?_, fun i j hj => ?_⟩
  · cases i using Fin.cases with
    | zero => exact ⟨by simp, hx⟩
    | succ i =>
      refine ⟨?_, (hfits i).2⟩
      rw [Fin.cons_succ, List.mem_append, List.mem_cons]
      rcases List.mem_append.1 (hfits i).1 with h | h
      · exact .inl h
      · exact .inr (.inr h)
  · rw [List.mem_append, List.mem_cons] at hj
    cases i using Fin.cases with
    | zero =>
      intro hlt _
      rw [Fin.cons_zero] at hlt
      rcases hj with hj | rfl | hj
      · exact ha j hj
      · exact absurd hlt (lt_irrefl j)
      · exact absurd hlt (lt_asymm (hbx j hj))
    | succ i =>
      intro hlt hearlier
      rw [Fin.cons_succ] at hlt
      have hjx : j ≠ x := fun h => hearlier 0 (Fin.succ_pos i) h.symm
      refine hfirst i j ?_ hlt fun k hk => ?_
      · rw [List.mem_append]
        rcases hj with hj | rfl | hj
        · exact .inl hj
        · exact absurd rfl hjx
        · exact .inr hj
      · exact hearlier k.succ (Fin.succ_lt_succ_iff.2 hk)

/-- What the first seeker claims is the first place that fits, and the others claim what is left. -/
theorem Claims.uncons {f : Fin (w :: ws).length → Fin m} (hsorted : free.Pairwise (· < ·))
    (h : Claims q (w :: ws) free f) :
    ∃ a b, free = a ++ f 0 :: b ∧ q w (f 0) = true ∧ (∀ z ∈ a, q w z = false) ∧
      Claims q ws (a ++ b) fun i => f i.succ := by
  obtain ⟨hinj, hfits, hfirst⟩ := h
  obtain ⟨a, b, hfree⟩ := List.append_of_mem (hfits 0).1
  have hmem : ∀ {z}, z ∈ a ++ b → z ∈ free := by
    intro z hz
    rw [hfree, List.mem_append, List.mem_cons]
    exact (List.mem_append.1 hz).imp id .inr
  refine ⟨a, b, hfree, (hfits 0).2, fun z hz => ?_, fun i k hik => ?_, fun i => ⟨?_, ?_⟩, ?_⟩
  · rw [hfree] at hsorted
    have hlt := (List.pairwise_append.1 hsorted).2.2 z hz (f 0) List.mem_cons_self
    exact hfirst 0 z (hmem (List.mem_append_left b hz)) hlt fun k hk => absurd hk (Fin.not_lt_zero k)
  · exact Fin.succ_injective _ (hinj hik)
  · have hi := (hfits i.succ).1
    have hne : f i.succ ≠ f 0 := hinj.ne (Fin.succ_ne_zero i)
    rw [hfree, List.mem_append, List.mem_cons] at hi
    rw [List.mem_append]
    exact hi.imp id fun h => h.resolve_left hne
  · exact (hfits i.succ).2
  · intro i j hj hlt hearlier
    refine hfirst i.succ j (hmem hj) hlt fun k hk => ?_
    cases k using Fin.cases with
    | zero =>
      -- the place of the first seeker is not among those that are left
      intro h0
      have hnodup : free.Nodup := hsorted.imp fun h => ne_of_lt h
      rw [hfree, List.nodup_middle, List.nodup_cons] at hnodup
      exact hnodup.1 (h0 ▸ hj)
    | succ k => exact hearlier k (Fin.succ_lt_succ_iff.1 hk)

theorem claimAll_iff_claims (hsorted : free.Pairwise (· < ·)) :
    claimAll q ws free = true ↔ ∃ f, Claims q ws free f := by
  induction ws generalizing free with
  | nil =>
    refine iff_of_true rfl ⟨Fin.elim0, ?_, ?_, ?_⟩
    · exact fun i => i.elim0
    · exact fun i => i.elim0
    · exact fun i => i.elim0
  | cons w ws ih =>
    rw [claimAll_cons_iff]
    constructor
    · rintro ⟨a, x, b, rfl, hx, ha, hrest⟩
      obtain ⟨f, hf⟩ := (ih (hsorted.sublist (by simp))).1 hrest
      exact ⟨_, hf.cons hsorted hx ha⟩
    · rintro ⟨f, hf⟩
      obtain ⟨a, b, rfl, hx, ha, hrest⟩ := hf.uncons hsorted
      exact ⟨a, f 0, b, rfl, hx, ha, (ih (hsorted.sublist (by simp))).2 ⟨_, hrest⟩⟩

end Places

/-- Places of a list are claimed as their positions are. -/
theorem claimAll_eq_places (p : α → β → Bool) (ws : List α) (hs : List β) :
    claimAll p ws hs =
      claimAll (fun w (j : Fin hs.length) => p w hs[j]) ws (List.finRange hs.length) := by
  have hplaces : (List.finRange hs.length).map (fun j => hs[j]) = hs :=
    List.map_getElem_finRange hs
  rw [← claimAll_map (p := p) (fun j : Fin hs.length => hs[j]), hplaces]

/-- The seekers of a list all find a place if and only if the assignment by first claims is
complete. -/
theorem claimAll_iff_firstFit :
    claimAll p ws hs = true ↔
      FirstFit fun (i : Fin ws.length) (j : Fin hs.length) => p ws[i] hs[j] = true := by
  rw [claimAll_eq_places, claimAll_iff_claims (List.pairwise_lt_finRange _)]
  unfold Claims FirstFit
  simp only [List.mem_finRange, true_and, true_imp_iff, Bool.not_eq_true]

/-! ### When first claims are enough -/

/-- An assignment stays one when the first seeker is given the place `x` that fits it instead of its
own, and a rival who had `x` gets the other place in exchange. -/
theorem exists_assignment_with_first {m : ℕ} {R : α → Fin m → Prop} {x : Fin m}
    {f : Fin (w :: ws).length → Fin m} (hf : Function.Injective f) (hR : ∀ i, R (w :: ws)[i] (f i))
    (hrivals : ∀ v ∈ ws, ∀ j j', R w j → R v j → R w j' → R v j') (hx : R w x) :
    ∃ g : Fin (w :: ws).length → Fin m, Function.Injective g ∧ g 0 = x ∧
      (∀ i, R (w :: ws)[i] (g i)) ∧ ∀ i, g i = x ∨ ∃ k, g i = f k := by
  refine ⟨fun i => Equiv.swap x (f 0) (f i), (Equiv.injective _).comp hf,
    Equiv.swap_apply_right x (f 0), fun i => ?_, fun i => ?_⟩
  · dsimp only
    cases i using Fin.cases with
    | zero =>
      rw [Equiv.swap_apply_right]
      exact hx
    | succ i =>
      by_cases hi : f i.succ = x
      · rw [hi, Equiv.swap_apply_left]
        have hv : R (w :: ws)[i.succ] x := hi ▸ hR i.succ
        exact hrivals _ (List.getElem_mem i.isLt) x (f 0) hx hv (hR 0)
      · have h0 : f i.succ ≠ f 0 := hf.ne (Fin.succ_ne_zero i)
        rw [Equiv.swap_apply_of_ne_of_ne hi h0]
        exact hR i.succ
  · dsimp only
    rw [Equiv.swap_apply_def]
    split
    · exact .inr ⟨0, rfl⟩
    · split
      · exact .inl rfl
      · exact .inr ⟨i, rfl⟩

/-- With rivals in order, first claims succeed wherever there is an assignment. The induction is on
the seekers: the first one keeps what it claims, by the exchange above. -/
theorem claimAll_of_assignment {m : ℕ} {q : α → Fin m → Bool} {free : List (Fin m)}
    (hrivals : ws.Pairwise fun w v => ∀ j j',
      q w j = true → q v j = true → q w j' = true → q v j' = true)
    {f : Fin ws.length → Fin m} (hf : Function.Injective f)
    (hfits : ∀ i, f i ∈ free ∧ q ws[i] (f i) = true) : claimAll q ws free = true := by
  induction ws generalizing free with
  | nil => rfl
  | cons w ws ih =>
    obtain ⟨hfirst, hothers⟩ := List.pairwise_cons.1 hrivals
    rw [claimAll_cons_iff]
    -- the place of `w` is free and fits, so that its claim comes to something
    cases hclaim : claim (q w) free with
    | none =>
      have hnone := claim_eq_none_iff.1 hclaim (f 0) (hfits 0).1
      have hsome : q w (f 0) = true := (hfits 0).2
      rw [hnone] at hsome
      cases hsome
    | some rest =>
      obtain ⟨a, x, b, rfl, -, hx, ha⟩ := claim_eq_some_iff.1 hclaim
      refine ⟨a, x, b, rfl, hx, ha, ?_⟩
      obtain ⟨g, hg, hg0, hgR, hgf⟩ :=
        exists_assignment_with_first (R := fun v j => q v j = true) hf (fun i => (hfits i).2)
          hfirst hx
      refine ih hothers (f := fun i => g i.succ) (hg.comp (Fin.succ_injective _))
        fun i => ⟨?_, hgR i.succ⟩
      have hne : g i.succ ≠ x := hg0 ▸ hg.ne (Fin.succ_ne_zero i)
      obtain ⟨k, hk⟩ := (hgf i.succ).resolve_left hne
      have hmem : g i.succ ∈ a ++ x :: b := hk ▸ (hfits k).1
      rw [List.mem_append, List.mem_cons] at hmem
      rw [List.mem_append]
      exact hmem.imp id fun h => h.resolve_left hne

/-- **First claims are enough for ordered rivals.** When of two seekers that fit in one place the
earlier one fits only where the later one fits, all find a place if there is an assignment. -/
theorem claimAll_of_assignable
    (h : Assignable fun (i : Fin ws.length) (j : Fin hs.length) => p ws[i] hs[j] = true)
    (hrivals : RivalsOrdered fun (i : Fin ws.length) (j : Fin hs.length) => p ws[i] hs[j] = true) :
    claimAll p ws hs = true := by
  obtain ⟨f, hf, hR⟩ := h
  rw [claimAll_eq_places]
  refine claimAll_of_assignment ?_ hf fun i => ⟨List.mem_finRange _, hR i⟩
  rw [List.pairwise_iff_getElem]
  intro i k hi hk hik j j'
  exact hrivals ⟨i, hi⟩ ⟨k, hk⟩ hik j j'

/-! ### Seekers and places of kinds -/

section Kinds

variable {p : α → α → Bool} {x : α} {hs a b : List α}

/-- A seeker and a place that fits it are of one kind, so both lists have one less of that kind
without them. -/
theorem countP_le_iff_of_fits (hp : Equivalence fun a b => p a b = true) (hx : p w x = true) :
    (∀ k, (w :: ws).countP (p k) ≤ (a ++ x :: b).countP (p k)) ↔
      ∀ k, ws.countP (p k) ≤ (a ++ b).countP (p k) := by
  refine forall_congr' fun k => ?_
  have hkind : p k w = p k x := by
    rw [Bool.eq_iff_iff]
    exact ⟨fun h => hp.trans h hx, fun h => hp.trans h (hp.symm hx)⟩
  rw [List.countP_append, List.countP_append, List.countP_cons, List.countP_cons, hkind]
  omega

/-- **First claims are enough for kinds.** When fitting is an equivalence, all seekers find a place
if and only if there are at least as many places of each kind as seekers of it. -/
theorem claimAll_iff_countP (hp : Equivalence fun a b => p a b = true) :
    claimAll p ws hs = true ↔ ∀ k, ws.countP (p k) ≤ hs.countP (p k) := by
  induction ws generalizing hs with
  | nil => exact iff_of_true rfl fun k => Nat.zero_le _
  | cons w ws ih =>
    rw [claimAll_cons_iff]
    constructor
    · rintro ⟨a, x, b, rfl, hx, -, hrest⟩
      exact (countP_le_iff_of_fits hp hx).2 (ih.1 hrest)
    · intro hcount
      -- some place is of the kind of `w`, so that its claim comes to something
      have hpos : 0 < hs.countP (p w) := by
        have hw := hcount w
        rw [List.countP_cons_of_pos (hp.refl w)] at hw
        omega
      obtain ⟨y, hy, hwy⟩ := List.countP_pos_iff.1 hpos
      cases hclaim : claim (p w) hs with
      | none =>
        rw [claim_eq_none_iff.1 hclaim y hy] at hwy
        cases hwy
      | some rest =>
        obtain ⟨a, x, b, rfl, -, hx, ha⟩ := claim_eq_some_iff.1 hclaim
        exact ⟨a, x, b, rfl, hx, ha, ih.2 ((countP_le_iff_of_fits hp hx).1 hcount)⟩

end Kinds

/-! ### Every order -/

/-- Some seekers hold some of the places, and another one fits in none that is left. -/
def Stuck (p : α → β → Bool) (ws : List α) (hs : List β) : Prop :=
  ∃ served w waiting taken free, ws.Perm (served ++ w :: waiting) ∧ hs.Perm (taken ++ free) ∧
    List.Forall₂ (fun v h => p v h = true) served taken ∧ ∀ h ∈ free, p w h = false

theorem Stuck.perm (h : Stuck p ws hs) (hws : ws.Perm ws') (hhs : hs.Perm hs') :
    Stuck p ws' hs' := by
  obtain ⟨served, w, waiting, taken, free, h₁, h₂, hserved, hfree⟩ := h
  exact ⟨served, w, waiting, taken, free, hws.symm.trans h₁, hhs.symm.trans h₂, hserved, hfree⟩

/-- Where claims fail, a seeker is stuck. -/
theorem stuck_of_claimAll_ne (h : claimAll p ws hs ≠ true) : Stuck p ws hs := by
  induction ws generalizing hs with
  | nil => exact absurd rfl h
  | cons w ws ih =>
    cases hclaim : claim (p w) hs with
    | none =>
      exact ⟨[], w, ws, [], hs, List.Perm.refl _, List.Perm.refl _, .nil,
        claim_eq_none_iff.1 hclaim⟩
    | some rest =>
      obtain ⟨a, x, b, rfl, rfl, hx, ha⟩ := claim_eq_some_iff.1 hclaim
      have hrest : claimAll p ws (a ++ b) ≠ true := fun hr =>
        h (claimAll_cons_iff.2 ⟨a, x, b, rfl, hx, ha, hr⟩)
      obtain ⟨served, v, waiting, taken, free, hws, hhs, hserved, hfree⟩ := ih hrest
      refine ⟨w :: served, v, waiting, x :: taken, free, hws.cons w, ?_, .cons hx hserved, hfree⟩
      exact List.perm_middle.trans (hhs.cons x)

/-- Seekers that stand in the order of the places that fit them claim these. -/
theorem claimAll_append {served : List α} {taken : List β}
    (h : List.Forall₂ (fun v h => p v h = true) served taken) (ws : List α) (hs : List β) :
    claimAll p (served ++ ws) (taken ++ hs) = claimAll p ws hs := by
  induction h with
  | nil => rfl
  | cons hx _ ih =>
    rw [List.cons_append, List.cons_append, claimAll, claim, if_pos hx]
    exact ih

/-- **First claims succeed in every order if and only if no seeker can get stuck.** -/
theorem claimAll_perm_iff :
    (∀ ws' hs', ws.Perm ws' → hs.Perm hs' → claimAll p ws' hs' = true) ↔ ¬ Stuck p ws hs := by
  constructor
  · rintro hall ⟨served, w, waiting, taken, free, hws, hhs, hserved, hfree⟩
    have htrue := hall _ _ hws hhs
    rw [claimAll_append hserved, claimAll, claim_eq_none_iff.2 hfree] at htrue
    cases htrue
  · intro hstuck ws' hs' hws hhs
    by_contra hne
    exact hstuck ((stuck_of_claimAll_ne hne).perm hws.symm hhs.symm)

end DesiredState
