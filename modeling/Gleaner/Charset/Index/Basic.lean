/-! Tables of characters by pointer: numbers that encodings of several bytes compute from their bytes. -/
namespace Gleaner.Charset.Index

/-- Rows of equal width; the last ones of a row may be missing. -/
structure Table where
  width : Nat
  rows : Array (Array Char)

def Table.ofRows (width : Nat) (rows : Array String) : Table :=
  ⟨width, rows.map (·.toList.toArray)⟩

def Table.get? (t : Table) (pointer : Nat) : Option Char := do
  let row ← t.rows[pointer / t.width]?
  let c ← row[pointer % t.width]?
  if c = ' ' then none else some c

end Gleaner.Charset.Index
