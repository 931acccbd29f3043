/-
# Comparing replayed with live contents

`expected` is what the reports add up to, `actual` is what the collection really holds.  The
elements of the two are paired off, equal with equal, from the last occurrence backwards
(`pairOff`).  What finds no partner in `actual` is missing, what finds none in `expected` is
unexpected; both keep the order of the list they come from.  Since pairing starts at the end, the
elements left over are the first occurrences of their kind.

As multisets the two agree when nothing is left over on either side.  As sequences they agree when
they are equal position by position, so a sequence mismatch may well have nothing missing and
nothing unexpected.
-/
import ChangeAudit.Config

namespace ChangeAudit

/-- Replayed and live contents disagree. -/
structure Mismatch (α : Type) where
  label : Option String
  mode : ComparisonMode
  expected : List α
  actual : List α
  /-- In `expected` but not in `actual`. -/
  missing : List α
  /-- In `actual` but not in `expected`. -/
  unexpected : List α
  deriving DecidableEq

variable {α : Type}

/-- The elements of the first list that are left when each element of it, from the last to the
first, has been paired with an equal element of the second list; and the rest of the second
list. -/
def pairOff [BEq α] : List α → List α → List α × List α
  | [], ys => ([], ys)
  | x :: xs, ys =>
    let (alone, rest) := pairOff xs ys
    if rest.any (· == x) then (alone, rest.eraseP (· == x)) else (x :: alone, rest)

/-- The first occurrences in `xs` of those elements of which `xs` holds more than `ys`. -/
def excess [BEq α] (xs ys : List α) : List α := (pairOff xs ys).1

/-- Whether two contents agree in the given sense. -/
def ComparisonMode.agrees [BEq α] (mode : ComparisonMode) (expected actual : List α) : Bool :=
  match mode with
  | .multiset => (excess expected actual).isEmpty && (excess actual expected).isEmpty
  | .sequence => expected == actual

/-- The report on two contents, `none` if they agree. -/
def compare [BEq α] (expected actual : List α) (mode : ComparisonMode) (label : Option String) :
    Option (Mismatch α) :=
  if mode.agrees expected actual then none
  else some
    { label, mode, expected, actual
      missing := excess expected actual
      unexpected := excess actual expected }

theorem compare_eq_none_iff [BEq α] {expected actual : List α} {mode : ComparisonMode}
    {label : Option String} :
    compare expected actual mode label = none ↔ mode.agrees expected actual = true := by
  simp [compare]

end ChangeAudit
