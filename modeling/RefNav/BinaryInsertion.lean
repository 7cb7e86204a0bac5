/-! # Sorting by binary insertion

A list is sorted by inserting its items, one after another, into the run with
which it starts; the place of each is found by halving.  For an order in which
every two items can be compared this gives the one stable arrangement.  Where
some cannot, as with numbers and what is not a number, the arrangement is the
one that these comparisons make.
-/

namespace RefNav.BinaryInsertion

variable {α : Type}

/-- Split off the longest start of a list in which each item is linked to the
next. -/
def run (linked : α → α → Bool) : List α → List α × List α
  | [] => ([], [])
  | [a] => ([a], [])
  | a :: b :: rest =>
      if linked a b then
        let (start, tail) := run linked (b :: rest)
        (a :: start, tail)
      else ([a], b :: rest)

/-- The run with which a list starts, in rising order, and the rest of the list.
Items that fall strictly make a run as well, which is turned round. -/
def firstRun (before : α → α → Bool) (items : List α) : List α × List α :=
  match items with
  | a :: b :: _ =>
      if before b a then
        let (falling, rest) := run (fun x y => before y x) items
        (falling.reverse, rest)
      else run (fun x y => !before y x) items
  | _ => (items, [])

/-- The place between `lo` and `hi` before which an item belongs: behind all items
that it does not come before. -/
def place (before : α → α → Bool) (items : List α) (x : α) (lo hi : Nat) : Nat :=
  if lo < hi then
    let middle := lo + (hi - lo) / 2
    match items[middle]? with
    | some y =>
        if before x y then place before items x lo middle
        else place before items x (middle + 1) hi
    | none => lo
  else lo
termination_by hi - lo

/-- Insert an item into a sorted list. -/
def insert (before : α → α → Bool) (items : List α) (x : α) : List α :=
  let n := place before items x 0 items.length
  items.take n ++ x :: items.drop n

/-- Sort a list. -/
def sort (before : α → α → Bool) (items : List α) : List α :=
  let (start, rest) := firstRun before items
  rest.foldl (insert before) start

end RefNav.BinaryInsertion
