/-! # Similar words

Two words are compared by the characters that they share in blocks: those of
their longest common block, and of the longest ones to its left and to its
right, and so on.  Words are close if the shared characters make up three fifths
of both words.
-/

namespace RefNav.Text

/-- The length of the common start of two words. -/
def commonStart : List Char → List Char → Nat
  | a :: as, b :: bs => if a = b then commonStart as bs + 1 else 0
  | _, _ => 0

/-- A block that two words share: its place in each of them and its length. -/
structure Shared where
  left : Nat
  right : Nat
  size : Nat
deriving Repr, DecidableEq

namespace Shared

/-- The longer one of two blocks; of equally long ones the first. -/
def longer (s t : Shared) : Shared :=
  if s.size < t.size then t else s

/-- The longest of a block and those that the start of `as`, which stands at place
`i` of its word, shares with the rest of the other word from place `j` on. -/
def scanRight (as : List Char) (i : Nat) : Nat → List Char → Shared → Shared
  | _, [], best => best
  | j, b :: bs, best =>
      scanRight as i (j + 1) bs (best.longer ⟨i, j, commonStart as (b :: bs)⟩)

/-- The longest of a block and those that the rest of a word from place `i` on
shares with the other word. -/
def scanLeft (bs : List Char) : Nat → List Char → Shared → Shared
  | _, [], best => best
  | i, a :: as, best => scanLeft bs (i + 1) as (scanRight (a :: as) i 0 bs best)

/-- The longest block that two words share; of equally long ones the first in the
first word, then the first in the second. -/
def longest (as bs : List Char) : Shared :=
  scanLeft bs 0 as ⟨0, 0, 0⟩

/-- Is a block that is not empty within the first `n` places of the first word? -/
def StartsBelow (n : Nat) (s : Shared) : Prop :=
  0 < s.size → s.left < n

theorem startsBelow_longer {n : Nat} {s t : Shared} (hs : s.StartsBelow n)
    (ht : t.StartsBelow n) : (s.longer t).StartsBelow n := by
  unfold longer
  split
  · exact ht
  · exact hs

theorem startsBelow_scanRight {n i : Nat} (hi : i < n) (as bs : List Char) (j : Nat)
    {best : Shared} (h : best.StartsBelow n) : (scanRight as i j bs best).StartsBelow n := by
  induction bs generalizing j best with
  | nil => exact h
  | cons b bs ih => exact ih (j + 1) (startsBelow_longer h fun _ => hi)

theorem startsBelow_scanLeft {n : Nat} (as bs : List Char) (i : Nat) (hi : i + as.length ≤ n)
    {best : Shared} (h : best.StartsBelow n) : (scanLeft bs i as best).StartsBelow n := by
  induction as generalizing i best with
  | nil => exact h
  | cons a as ih =>
      simp only [List.length_cons] at hi
      exact ih (i + 1) (by omega) (startsBelow_scanRight (by omega) (a :: as) bs 0 h)

/-- The longest block lies within the first word. -/
theorem left_longest_lt (as bs : List Char) (h : 0 < (longest as bs).size) :
    (longest as bs).left < as.length :=
  startsBelow_scanLeft as bs 0 (by omega) (by simp [StartsBelow]) h

end Shared

/-- The number of characters that two words share in blocks. -/
def sharedLength (as bs : List Char) : Nat :=
  match hs : Shared.longest as bs with
  | ⟨left, right, size⟩ =>
      if h : 0 < size then
        have within : left < as.length := by
          simpa [hs] using Shared.left_longest_lt as bs (by simpa [hs] using h)
        sharedLength (as.take left) (bs.take right) + size
          + sharedLength (as.drop (left + size)) (bs.drop (right + size))
      else 0
termination_by as.length
decreasing_by
  · simp only [List.length_take]
    omega
  · simp only [List.length_drop]
    omega

/-- How alike two words are: twice the number of shared characters against the
number of all. -/
structure Likeness where
  shared : Nat
  total : Nat
deriving Repr, DecidableEq

namespace Likeness

/-- The likeness of a candidate and a word. -/
def of (candidate word : String) : Likeness :=
  { shared := 2 * sharedLength candidate.toList word.toList
    total := candidate.length + word.length }

/-- Is the likeness at least three fifths? -/
def isClose (l : Likeness) : Bool :=
  3 * l.total ≤ 5 * l.shared

/-- Is the first likeness the lesser one? -/
def less (l m : Likeness) : Bool :=
  l.shared * m.total < m.shared * l.total

end Likeness

/-- Is the first candidate the better one?  The more alike comes first; of equally
alike ones the one whose name is the greater. -/
def isBetter (x y : Likeness × String) : Bool :=
  if x.1.less y.1 then false
  else if y.1.less x.1 then true
  else !(x.2 < y.2)

/-- The candidates that are close to a word, at most `limit` of them, the best
first. -/
def closest (limit : Nat) (word : String) (candidates : List String) : List String :=
  let close := (candidates.map fun c => (Likeness.of c word, c)).filter fun p => p.1.isClose
  ((close.mergeSort isBetter).take limit).map (·.2)

end RefNav.Text
