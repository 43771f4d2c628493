/-!
# Partition points

Where a condition holds up to some place of an array and nowhere after, binary search finds
the place.
-/

namespace CellSearch

variable {α : Type}

/-- Narrow `size` elements from `base` down to one, moving up where the condition holds in the
middle. -/
def narrow (p : α → Bool) (xs : Array α) : (fuel base size : Nat) → Nat
  | 0, base, _ => base
  | fuel + 1, base, size =>
    if size ≤ 1 then base
    else
      let middle := base + size / 2
      if xs[middle]?.any p then narrow p xs fuel middle (size - size / 2)
      else narrow p xs fuel base (size - size / 2)

/-- The number of elements before the place where the condition ends to hold. -/
def partitionPoint (p : α → Bool) (xs : Array α) : Nat :=
  let base := narrow p xs xs.size 0 xs.size
  if xs[base]?.any p then base + 1 else base

end CellSearch
