import Datacube.Error

/-!
# Joining rows

Two lists of rows are joined on one column of each side. The rows of the right side are indexed by
their key; null never matches. A left join keeps rows without a match and gives them the columns of
the right side as nulls. Without columns to compare every row of one side meets every row of the
other.
-/

namespace Datacube
open Text

namespace Row

/-- The columns of a list of rows, each once. -/
def columns (rows : List Row) : List Value :=
  rows.foldl (fun acc row => row.keys.foldl
    (fun acc column => if acc.contains column then acc else acc ++ [column]) acc) []

/-- Both rows in one; the second wins where they share a column. -/
def merge (row other : Row) : Row := row.putAll other

/-- The row with nulls in the columns that it lacks. -/
def pad (columns : List Value) (row : Row) : Row :=
  columns.foldl (fun acc column => acc.putNew column .null) row

/-- Whether the row has a key in a column, or none. -/
def keyed (column : Value) (row : Row) : Bool := column.isKey && (row.cell column).isKey

/-- Rows by their key in a column, without those that have none. -/
def index (column : Value) (rows : List Row) : Entries Value (List Row) :=
  rows.foldl (fun acc row =>
    if (row.cell column).isNull then acc else acc.push (row.cell column) row) []

def matching (indexed : Entries Value (List Row)) (column : Value) (row : Row) : List Row :=
  if (row.cell column).isNull then [] else (indexed.get? (row.cell column)).getD []

/-- Whether a join keeps rows of the left side without a match. -/
def keepsUnmatched : Value → Outcome Bool
  | .text type => .ok (lower type == "left")
  | _ => fail .noSuchMember

def product (left right : List Row) (keep : Bool) : List Row :=
  if right.isEmpty then (if keep then left else [])
  else left.flatMap fun row => right.map row.merge

/-- The rows of the left side with those of the right that have the same key. -/
def equiJoin (left right : List Row) (own theirs : Value) (keep : Bool) : List Row :=
  left.flatMap fun row => match matching (index theirs right) own row with
    | [] => if keep then [row.pad (columns right)] else []
    | found => found.map row.merge

/-- Joins two lists of rows; a key that is a list or an object is refused. -/
def join (left right : List Row) (own theirs type : Value) : Outcome (List Row) := do
  let keep ← keepsUnmatched type
  if !own.isTrue && !theirs.isTrue then return product left right keep
  else if right.all (keyed theirs) && left.all (keyed own) then
    return equiJoin left right own theirs keep
  else fail .wrongType

end Row
end Datacube
