import DesiredState.Text.Basic

/-!
# Encoding as UTF-8

Every text without surrogates can be encoded. The first surrogate, together with the surrogates
right behind it, is what the encoder complains about. In names that go to the system, some
surrogates stand for bytes and are encoded as such.

* `Text.utf8Fault?`, `Text.systemFault?`: where the encoding of a text fails.
-/

namespace DesiredState

/-- The surrogates from `first` up to `last` cannot be encoded. -/
structure Utf8Fault where
  first : Nat
  last : Nat
  codePoint : CodePoint
  deriving DecidableEq

namespace Text

/-- Where an encoding that takes some surrogates fails, if it does. -/
def encodingFault? (isTaken : CodePoint → Bool) (t : Text) : Option Utf8Fault :=
  let rest := t.dropWhile fun c => !c.isSurrogate || isTaken c
  match rest with
  | [] => none
  | c :: _ =>
    let first := t.length - rest.length
    some ⟨first, first + (rest.takeWhile CodePoint.isSurrogate).length - 1, c⟩

/-- Where the encoding of a text fails, if it does. -/
def utf8Fault? (t : Text) : Option Utf8Fault := encodingFault? (fun _ => false) t

/-- Where the encoding of a name for the system fails, if it does. -/
def systemFault? (t : Text) : Option Utf8Fault :=
  encodingFault? (fun c => 0xDC80 ≤ c.val && c.val ≤ 0xDCFF) t

theorem encodingFault?_eq_none_iff {isTaken : CodePoint → Bool} {t : Text} :
    encodingFault? isTaken t = none ↔ ∀ c ∈ t, c.isSurrogate = true → isTaken c = true := by
  have h : t.dropWhile (fun c => !c.isSurrogate || isTaken c) = [] ↔
      ∀ c ∈ t, c.isSurrogate = true → isTaken c = true := by
    induction t with
    | nil => simp
    | cons c t ih => cases hc : c.isSurrogate <;> cases ht : isTaken c <;> simp [hc, ht, ih]
  rw [← h]
  unfold encodingFault?
  dsimp only
  split <;> simp_all

theorem utf8Fault?_eq_none_iff {t : Text} : utf8Fault? t = none ↔ t.NoSurrogates := by
  unfold utf8Fault? NoSurrogates
  rw [encodingFault?_eq_none_iff]
  simp

end Text

/-- What the encoder says about surrogates. -/
def Utf8Fault.message (f : Utf8Fault) : Text :=
  if f.first = f.last then
    ("'utf-8' codec can't encode character '\\u" : Text) ++ Text.hex 4 f.codePoint.val ++
      "' in position " ++ Text.decimal f.first ++ ": surrogates not allowed"
  else
    ("'utf-8' codec can't encode characters in position " : Text) ++ Text.decimal f.first ++
      "-" ++ Text.decimal f.last ++ ": surrogates not allowed"

end DesiredState
