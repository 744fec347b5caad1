import DesiredState.Text.CaseTable

/-!
# Upper and lower case

Full case mapping of texts. Upper case looks at one code point at a time; in lower case, a capital
sigma at the end of a word becomes the final sigma.
-/

namespace DesiredState.Text

/-- What the runs of a case table map a code point to. -/
def mapByRuns (runs : List (Nat × Nat × Nat × Nat)) (n : Nat) : Nat :=
  match runs.find? fun (first, last, step, _) =>
      first ≤ n && n ≤ last && (n - first) % step == 0 with
  | some (first, _, _, target) => target + (n - first)
  | none => n

/-- The case mapping of one code point under a table of runs and a table of expansions. -/
def mapCase (runs : List (Nat × Nat × Nat × Nat)) (expansions : List (Nat × List Nat))
    (c : CodePoint) : Text :=
  match expansions.lookup c.val with
  | some cs => cs.map CodePoint.ofNat
  | none => [CodePoint.ofNat (mapByRuns runs c.val)]

/-- The text in upper case. -/
def upper (t : Text) : Text := t.flatMap (mapCase upperRuns upperExpansions)

def isCased (c : CodePoint) : Bool := casedRanges.any fun r => r.1 ≤ c.val && c.val ≤ r.2

def isCaseIgnorable (c : CodePoint) : Bool :=
  caseIgnorableRanges.any fun r => r.1 ≤ c.val && c.val ≤ r.2

/-- The first code point that matters for case has case. -/
def nextIsCased (t : Text) : Bool :=
  match t.dropWhile isCaseIgnorable with
  | [] => false
  | c :: _ => isCased c

/-- The lower case of `t`, where `before` holds what stands before it, nearest first. -/
def lowerAfter (before : Text) : Text → Text
  | [] => []
  | c :: t =>
    (if c.val = 0x3A3 then
      [CodePoint.ofNat (if nextIsCased before && !nextIsCased t then 0x3C2 else 0x3C3)]
    else mapCase lowerRuns lowerExpansions c) ++ lowerAfter (c :: before) t

/-- The text in lower case. -/
def lower (t : Text) : Text := lowerAfter [] t

end DesiredState.Text
