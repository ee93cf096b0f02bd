/-! Sets of code points given by the edges of their runs. -/
namespace Gleaner.Text

/-- The number of leading edges that are at most `n`; `low` and `high` enclose it. -/
def edgesUpTo (edges : Array Nat) (n low high : Nat) : Nat :=
  if low < high then
    let mid := (low + high) / 2
    if edges.getD mid 0 ≤ n then edgesUpTo edges n (mid + 1) high
    else edgesUpTo edges n low mid
  else low
  termination_by high - low
  decreasing_by all_goals omega

/-- Whether `n` lies in one of the runs. Each run has two edges in the sorted array: its first member and
the number after its last. -/
def inRanges (edges : Array Nat) (n : Nat) : Bool :=
  edgesUpTo edges n 0 edges.size % 2 == 1

end Gleaner.Text
