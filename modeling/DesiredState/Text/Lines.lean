import DesiredState.Text.Basic

/-!
# Line ends

Files may end their lines with a carriage return, a line feed, or both. When a file is read as
text, each of these becomes one line feed.

* `Text.withLineFeeds`: a text whose lines end with line feeds alone.
-/

namespace DesiredState.Text

/-- A text whose lines end with line feeds alone. -/
def withLineFeeds : Text → Text
  | [] => []
  | c :: t =>
    if c.val = 0x0D then
      match t with
      | [] => [CodePoint.ofNat 0x0A]
      | d :: r =>
        if d.val = 0x0A then CodePoint.ofNat 0x0A :: withLineFeeds r
        else CodePoint.ofNat 0x0A :: withLineFeeds (d :: r)
    else c :: withLineFeeds t

theorem withLineFeeds_eq_self {t : Text} (h : ∀ c ∈ t, c.val ≠ 0x0D) : withLineFeeds t = t := by
  induction t with
  | nil => rfl
  | cons c t ih =>
    unfold withLineFeeds
    rw [if_neg (h c (by simp)), ih fun d hd => h d (by simp [hd])]

end DesiredState.Text
