import DesiredState.Proofs.Json.Decoded
import DesiredState.Proofs.Json.Reading

/-!
# Read texts are written

The other direction of reading: what the decoder of standard JSON reads has the form that the
grammar tells, with the value that was read. So the decoder accepts nothing else.

* `Json.Numeral.scan?_ok`: a number that was read.
* `Json.scan_ok`: **a value that was read at the beginning of a text.**
* `Json.decodeWith_refused_iff`: what is read is what is written, with blanks around.
-/

namespace DesiredState.Json

open DesiredState.Numeral (digits)

variable {t rest start : Text}

/-! ### Strings -/

/-- Units that were read end with the closing quote. -/
theorem scanUnits_ok {units : List StringUnit} (h : scanUnits start t = .ok (units, rest)) :
    ∃ u, t = u ++ quote :: rest ∧ UnitsWritten u units := by
  fun_induction scanUnits start t generalizing units with
  | case2 t =>
    cases h
    exact ⟨[], rfl, .nil⟩
  | case5 h₁ h₂ h₃ h₄ r n hhex _ us rest' hus _ ih =>
    cases h
    obtain ⟨u, rfl, hwritten⟩ := ih hus
    exact ⟨_, rfl, .cons (.unicode hhex) hwritten⟩
  | case9 e r _ x hx us rest' hus _ ih =>
    cases h
    obtain ⟨u, rfl, hwritten⟩ := ih hus
    exact ⟨_, rfl, .cons (.short hx) hwritten⟩
  | case13 c t hquote hbackslash hcontrol us rest' hus ih =>
    cases h
    obtain ⟨u, rfl, hwritten⟩ := ih hus
    exact ⟨_, rfl, .cons (.literal hquote hbackslash (Nat.le_of_not_lt hcontrol)) hwritten⟩
  | _ => cases h

theorem scanString_ok {s : Text} (h : scanString start t = .ok (s, rest)) :
    ∃ u, quote :: t = u ++ rest ∧ StringWritten u s := by
  unfold scanString at h
  split at h
  · next units rest' hunits =>
    cases h
    obtain ⟨u, rfl, hwritten⟩ := scanUnits_ok hunits
    refine ⟨_, ?_, .mk (.mk hwritten)⟩
    simp
  · cases h

/-! ### Numbers -/

namespace Numeral

theorem digits_eq {ds : Text} (h : digits t = (ds, rest)) :
    t = ds ++ rest ∧ ∀ c ∈ ds, c.isAsciiDigit = true := by
  cases h
  exact ⟨List.takeWhile_append_dropWhile.symm, List.all_eq_true.1 List.all_takeWhile⟩

theorem scanWhole?_ok {whole : Text} (h : scanWhole? t = some (whole, rest)) :
    t = whole ++ rest ∧ IsWhole whole := by
  unfold scanWhole? at h
  split at h
  · cases h
  next c t =>
  split at h
  · next hzero =>
    cases h
    rw [hzero]
    exact ⟨rfl, .zero⟩
  next hzero =>
  split at h
  · next hc =>
    cases h
    obtain ⟨ht, hds⟩ := digits_eq (t := t) rfl
    exact ⟨congrArg (c :: ·) ht, .digits hc hzero hds⟩
  · cases h

theorem scanFraction_ok {fraction : Option Text} (h : scanFraction t = (fraction, rest)) :
    ∃ f, t = f ++ rest ∧ FractionWritten f fraction := by
  unfold scanFraction at h
  split at h
  · cases h
    exact ⟨[], rfl, .none⟩
  next c t =>
  split at h
  next ds r hdigits =>
  obtain ⟨rfl, hds⟩ := digits_eq hdigits
  split at h
  · next hpoint =>
    cases h
    obtain ⟨rfl, hne⟩ := hpoint
    exact ⟨_, rfl, .some ⟨hne, hds⟩⟩
  · cases h
    exact ⟨[], rfl, .none⟩

/-- What stands before the rest is a minus sign, a plus sign or nothing. -/
theorem sign_eq {negative : Bool} (h : DesiredState.Numeral.sign t = (negative, rest)) :
    negative = true ∧ t = CodePoint.ofChar '-' :: rest ∨
      negative = false ∧ (t = CodePoint.ofChar '+' :: rest ∨ t = rest) := by
  unfold DesiredState.Numeral.sign at h
  split at h
  · cases h
    exact .inr ⟨rfl, .inr rfl⟩
  split at h
  · next hminus =>
    cases h
    exact .inl ⟨rfl, by rw [hminus]⟩
  split at h
  · next hplus =>
    cases h
    exact .inr ⟨rfl, .inl (by rw [hplus])⟩
  · cases h
    exact .inr ⟨rfl, .inr rfl⟩

theorem scanExponent_ok {exponent : Option (Bool × Text)}
    (h : scanExponent t = (exponent, rest)) :
    ∃ e, t = e ++ rest ∧ ExponentWritten e exponent := by
  unfold scanExponent at h
  split at h
  · cases h
    exact ⟨[], rfl, .none⟩
  next c t =>
  split at h
  next negative r hsign =>
  split at h
  next ds r' hdigits =>
  obtain ⟨rfl, hds⟩ := digits_eq hdigits
  split at h
  · next hletter =>
    cases h
    obtain ⟨hc, hne⟩ := hletter
    obtain ⟨rfl, rfl⟩ | ⟨rfl, rfl | rfl⟩ := sign_eq hsign
    · exact ⟨_, rfl, .minus hc ⟨hne, hds⟩⟩
    · exact ⟨_, rfl, .plus hc ⟨hne, hds⟩⟩
    · exact ⟨_, rfl, .unsigned hc ⟨hne, hds⟩⟩
  · cases h
    exact ⟨[], rfl, .none⟩

/-- The parts of a number that was read. -/
theorem scanParts_ok {u whole : Text} {fraction : Option Text} {exponent : Option (Bool × Text)}
    {r : Text} (hwhole : scanWhole? t = some (whole, u))
    (hfraction : scanFraction u = (fraction, r))
    (hexponent : scanExponent r = (exponent, rest)) :
    ∃ f e, t = whole ++ f ++ e ++ rest ∧ IsWhole whole ∧ FractionWritten f fraction ∧
      ExponentWritten e exponent := by
  obtain ⟨rfl, hw⟩ := scanWhole?_ok hwhole
  obtain ⟨f, rfl, hf⟩ := scanFraction_ok hfraction
  obtain ⟨e, rfl, he⟩ := scanExponent_ok hexponent
  exact ⟨f, e, by simp only [List.append_assoc], hw, hf, he⟩

/-- **What is read as a number is written as one.** -/
theorem scan?_ok {n : Numeral} (h : scan? t = some (n, rest)) :
    ∃ u, t = u ++ rest ∧ Written u n := by
  unfold scan? at h
  split at h
  next negative t' hsign =>
  split at h
  · cases h
  next whole u hwhole =>
  split at h
  next fraction r hfraction =>
  split at h
  next exponent rest' hexponent =>
  cases h
  obtain ⟨f, e, rfl, hw, hf, he⟩ := scanParts_ok hwhole hfraction hexponent
  split at hsign
  · obtain ⟨rfl, hnil⟩ := Prod.mk.inj hsign
    exact ⟨_, hnil, .positive hw hf he⟩
  split at hsign
  · next hminus =>
    cases hsign
    rw [hminus]
    exact ⟨_, rfl, .negative hw hf he⟩
  · obtain ⟨rfl, hu⟩ := Prod.mk.inj hsign
    exact ⟨_, hu, .positive hw hf he⟩

end Numeral

/-! ### Values -/

/-- A text is its blanks and what follows them. -/
theorem eq_append_skipSpace (t : Text) : ∃ a, IsSpace a ∧ t = a ++ skipSpace t :=
  ⟨t.takeWhile isSpace, List.all_eq_true.1 List.all_takeWhile,
    List.takeWhile_append_dropWhile.symm⟩

theorem scanPlain_written {room : Nat} {v : Json} (h : scanPlain .refused t = .ok (v, rest)) :
    ∃ u, t = u ++ rest ∧ Written room u v := by
  unfold scanPlain at h
  split at h
  · next hcut =>
    cases h
    exact ⟨_, Text.cut?_eq_some_iff.1 hcut, .null room⟩
  · next hcut _ =>
    cases h
    exact ⟨_, Text.cut?_eq_some_iff.1 hcut, .bool room true⟩
  · next hcut _ _ =>
    cases h
    exact ⟨_, Text.cut?_eq_some_iff.1 hcut, .bool room false⟩
  split at h
  · cases h
  · cases h
  · cases h
  split at h
  · cases h
  next n rest' hscan =>
  split at h
  · next s hvalue =>
    cases h
    obtain ⟨u, rfl, hn⟩ := Numeral.scan?_ok hscan
    exact ⟨u, rfl, .number room hn hvalue⟩
  · cases h

/-- With this fuel, only values that are written are read. -/
def RecognizesValues (fuel : Nat) : Prop :=
  ∀ room t v rest, scanValue .refused fuel room t = .ok (v, rest) →
    ∃ u, t = u ++ rest ∧ Written room u v

/-- The same for the items of an array. -/
def RecognizesItems (fuel : Nat) : Prop :=
  ∀ room t vs rest, scanItems .refused fuel room (skipSpace t) = .ok (vs, rest) →
    ∃ u, t = u ++ CodePoint.ofChar ']' :: rest ∧ ItemsWritten room u vs

/-- The same for the members of an object. -/
def RecognizesMembers (fuel : Nat) : Prop :=
  ∀ room t ms rest, scanMembers .refused fuel room (skipSpace t) = .ok (ms, rest) →
    ∃ u, t = u ++ CodePoint.ofChar '\x7d' :: rest ∧ MembersWritten room u ms

section Fuel

variable {fuel : Nat}

theorem recognizesValues_succ (ihItems : RecognizesItems fuel)
    (ihMembers : RecognizesMembers fuel) : RecognizesValues (fuel + 1) := by
  intro room t v rest h
  rcases scanValue_ok h with
    ⟨body, s, rfl, hs, rfl⟩ | ⟨k, u, rfl, rfl, hitems⟩ | ⟨k, u, rfl, rfl, hmembers⟩ | h
  · obtain ⟨n, hn, hwritten⟩ := scanString_ok hs
    exact ⟨n, hn, .string room hwritten⟩
  · rcases hitems with ⟨hclosed, rfl⟩ | ⟨items, hitems, rfl⟩
    · obtain ⟨a, ha, hu⟩ := eq_append_skipSpace u
      rw [hclosed] at hu
      exact ⟨_, by rw [hu]; simp, .emptyArr k ha⟩
    · obtain ⟨w, rfl, hwritten⟩ := ihItems k u items rest hitems
      exact ⟨_, by simp, .arr hwritten⟩
  · rcases hmembers with ⟨hclosed, rfl⟩ | ⟨members, hmembers, rfl⟩
    · obtain ⟨a, ha, hu⟩ := eq_append_skipSpace u
      rw [hclosed] at hu
      exact ⟨_, by rw [hu]; simp, .emptyObj k ha⟩
    · obtain ⟨w, rfl, hwritten⟩ := ihMembers k u members rest hmembers
      exact ⟨_, by simp, .obj hwritten⟩
  · exact scanPlain_written h

/-- The blanks around an item are those that the decoder skips. -/
theorem recognizesItems_succ (ihValues : RecognizesValues fuel) (ihItems : RecognizesItems fuel) :
    RecognizesItems (fuel + 1) := by
  intro room t vs rest h
  obtain ⟨v, u, hv, hrest⟩ := scanItems_ok h
  obtain ⟨a, ha, ht⟩ := eq_append_skipSpace t
  obtain ⟨x, hx, hwritten⟩ := ihValues room _ v u hv
  obtain ⟨b, hb, hu⟩ := eq_append_skipSpace u
  rw [hx] at ht
  rcases hrest with ⟨hclosed, rfl⟩ | ⟨w, vs', hcomma, hvs, rfl⟩
  · rw [hclosed] at hu
    exact ⟨_, by rw [ht, hu]; simp, .one ha hwritten hb⟩
  · obtain ⟨y, rfl, hwrittens⟩ := ihItems room w vs' rest hvs
    rw [hcomma] at hu
    exact ⟨_, by rw [ht, hu]; simp, .cons ha hwritten hb hwrittens⟩

theorem recognizesMembers_succ (ihValues : RecognizesValues fuel)
    (ihMembers : RecognizesMembers fuel) : RecognizesMembers (fuel + 1) := by
  intro room t ms rest h
  obtain ⟨body, name, r, u, v, w, hbody, hname, hcolon, hv, hrest⟩ := scanMembers_ok h
  -- in front of the name, of the colon and of the value there are blanks
  obtain ⟨a, ha, ht⟩ := eq_append_skipSpace t
  obtain ⟨n, hn, hstring⟩ := scanString_ok hname
  obtain ⟨b, hb, hr⟩ := eq_append_skipSpace r
  obtain ⟨c, hc, hu⟩ := eq_append_skipSpace u
  obtain ⟨x, hx, hwritten⟩ := ihValues room _ v w hv
  obtain ⟨d, hd, hw⟩ := eq_append_skipSpace w
  rw [hbody, hn, hr, hcolon, hu, hx] at ht
  rcases hrest with ⟨hclosed, rfl⟩ | ⟨z, ms', hcomma, hms, rfl⟩
  · rw [hclosed] at hw
    exact ⟨_, by rw [ht, hw]; simp, .one ha hstring hb hc hwritten hd⟩
  · obtain ⟨y, rfl, hwrittens⟩ := ihMembers room z ms' rest hms
    rw [hcomma] at hw
    exact ⟨_, by rw [ht, hw]; simp, .cons ha hstring hb hc hwritten hd hwrittens⟩

end Fuel

/-- **What is read is written.** By induction on the fuel: a container from its parts. -/
theorem scan_ok (fuel : Nat) :
    RecognizesValues fuel ∧ RecognizesItems fuel ∧ RecognizesMembers fuel := by
  induction fuel with
  | zero =>
    refine ⟨?_, ?_, ?_⟩
    · intro room t v rest h
      cases t <;> simp [scanValue] at h
    · intro room t vs rest h
      simp [scanItems] at h
    · intro room t ms rest h
      unfold scanMembers at h
      cases h
  | succ fuel ih =>
    obtain ⟨hvalues, hitems, hmembers⟩ := ih
    exact ⟨recognizesValues_succ hitems hmembers, recognizesItems_succ hvalues hitems,
      recognizesMembers_succ hvalues hmembers⟩

/-- **The decoder of standard JSON reads just what is written**, with blanks around it. -/
theorem decodeWith_refused_iff {v : Json} :
    decodeWith .refused t = .ok v ↔
      ∃ a u b, t = a ++ u ++ b ∧ IsSpace a ∧ IsSpace b ∧ Written maxOpen u v := by
  constructor
  · intro h
    unfold decodeWith at h
    split at h
    · cases h
    split at h
    · cases h
    next w rest hscan =>
    split at h
    · next hrest =>
      cases h
      obtain ⟨a, ha, ht⟩ := eq_append_skipSpace t
      obtain ⟨u, hu, hwritten⟩ := (scan_ok _).1 _ _ _ _ hscan
      refine ⟨a, u, rest, ?_, ha, List.dropWhile_eq_nil_iff.1 hrest, hwritten⟩
      rw [List.append_assoc, ← hu, ← ht]
    · cases h
  · rintro ⟨a, u, b, rfl, ha, hb, hwritten⟩
    exact decodeWith_of_written .refused hwritten ha hb

end DesiredState.Json
