/-!
# Cell values

A cell of a mixed table holds an integer or a text. Every integer is below every text, integers are
ordered by value and texts by their code points.
-/

namespace Tabular

/-- What a cell of a mixed table holds. -/
inductive CellValue
  | int (value : Int)
  | text (value : String)
deriving Repr, DecidableEq

namespace CellValue

/-- Integers by value, then texts by code points. -/
def compare : CellValue → CellValue → Ordering
  | int a, int b => Ord.compare a b
  | int _, text _ => .lt
  | text _, int _ => .gt
  | text a, text b => Ord.compare a b

instance : Ord CellValue := ⟨compare⟩

end CellValue

end Tabular
