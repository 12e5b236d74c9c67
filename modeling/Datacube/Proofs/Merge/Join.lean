import Datacube.Merge.Rows
import Datacube.Proofs.Grouping
import Datacube.Proofs.Outcome
import Datacube.Proofs.Value.Equality

/-!
# Joins of rows

Joining rows by an index gives what comparing every row of one side with every row of the other
gives: each row of the left side is merged with the rows that it meets, in their order, and a left
join pads the rows that meet none.
-/

namespace Datacube

theorem Value.equates : Entries.Equates fun v : Value => v.isKey = true where
  symm := Value.same_symm
  trans := fun key key' _ => Value.same_trans key key'

namespace Row
variable {left right rows : List Row} {own theirs type : Value} {row other : Row}

/-- Whether two rows are merged by a join on a column of each: their keys are equal, and none is
null. Without columns all rows are merged. -/
def meets (own theirs : Value) (row other : Row) : Bool :=
  !own.isTrue && !theirs.isTrue ||
    !(row.cell own).isNull && !(other.cell theirs).isNull &&
      row.cell own == other.cell theirs

/-- The rows that a row of the left side becomes. -/
def joinOne (right : List Row) (own theirs : Value) (keep : Bool) (row : Row) : List Row :=
  match right.filter (meets own theirs row) with
  | [] => if keep then [row.pad (columns right)] else []
  | found => found.map row.merge

theorem index_eq (column : Value) (rows : List Row) : index column rows =
    Entries.grouped (·.cell column) (rows.filter fun row => !(row.cell column).isNull) := by
  rw [Entries.grouped, List.foldl_filter, index]
  congr 1
  funext acc row
  cases (row.cell column).isNull <;> rfl

theorem matching_index (named : (!own.isTrue && !theirs.isTrue) = false)
    (keys : ∀ other ∈ right, (other.cell theirs).isKey = true)
    (key : (row.cell own).isKey = true) :
    matching (index theirs right) own row = right.filter (meets own theirs row) := by
  rw [matching]
  split
  · rename_i null
    symm
    rw [List.filter_eq_nil_iff]
    simp [meets, named, null]
  · rename_i set
    have kind : ∀ other ∈ right.filter fun row => !(row.cell theirs).isNull,
        (other.cell theirs).isKey = true :=
      fun other member => keys other (List.mem_filter.mp member).1
    rw [index_eq, Entries.get?_grouped Value.equates kind key, List.filter_filter]
    apply List.filter_congr
    intro other _
    simp [meets, named, set, Bool.and_comm]

theorem product_eq (unnamed : (!own.isTrue && !theirs.isTrue) = true) (keep : Bool) :
    product left right keep = left.flatMap (joinOne right own theirs keep) := by
  have all : ∀ row, right.filter (meets own theirs row) = right := by
    intro row
    apply List.filter_eq_self.mpr
    intro other _
    simp only [meets, unnamed, Bool.true_or]
  cases right with
  | nil =>
      cases keep with
      | true => exact (List.flatMap_singleton' left).symm
      | false => exact (List.flatMap_eq_nil_iff.mpr fun _ _ => rfl).symm
  | cons first rest =>
      rw [product, if_neg (by simp)]
      congr 1
      funext row
      rw [joinOne, all row]

theorem equiJoin_eq (named : (!own.isTrue && !theirs.isTrue) = false)
    (keys : ∀ other ∈ right, (other.cell theirs).isKey = true)
    (keys' : ∀ row ∈ left, (row.cell own).isKey = true) (keep : Bool) :
    equiJoin left right own theirs keep = left.flatMap (joinOne right own theirs keep) := by
  rw [equiJoin, List.flatMap_def, List.flatMap_def]
  congr 1
  apply List.map_congr_left
  intro row member
  rw [matching_index named keys (keys' row member)]
  rfl

/-- A join on columns compares keys. -/
theorem join_keyed (joined : join left right own theirs type = .ok rows)
    (named : (!own.isTrue && !theirs.isTrue) = false) :
    (∀ other ∈ right, (other.cell theirs).isKey = true) ∧
      ∀ row ∈ left, (row.cell own).isKey = true := by
  rw [join, Outcome.bind_eq_ok] at joined
  obtain ⟨keep, -, joined⟩ := joined
  rw [if_neg (by rw [named]; decide)] at joined
  split at joined
  · rename_i checked
    simp only [Bool.and_eq_true, List.all_eq_true, keyed] at checked
    exact ⟨fun other member => (checked.1 other member).2,
      fun row member => (checked.2 row member).2⟩
  · cases joined

/-- Joining rows merges each with those that it meets. -/
theorem join_ok (joined : join left right own theirs type = .ok rows) :
    ∃ keep, keepsUnmatched type = .ok keep ∧
      rows = left.flatMap (joinOne right own theirs keep) := by
  have keys := join_keyed joined
  rw [join, Outcome.bind_eq_ok] at joined
  obtain ⟨keep, kept, joined⟩ := joined
  refine ⟨keep, kept, ?_⟩
  split at joined
  · rename_i unnamed
    rw [← Outcome.pure_eq_ok.mp joined, product_eq unnamed]
  · rename_i named
    have named := Bool.eq_false_iff.mpr named
    split at joined
    · rw [← Outcome.pure_eq_ok.mp joined, equiJoin_eq named (keys named).1 (keys named).2]
    · cases joined

end Row
end Datacube
