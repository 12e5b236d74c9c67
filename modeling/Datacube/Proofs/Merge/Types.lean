import Datacube.Proofs.Merge.Join

/-!
# The types of joins

A join type says which rows without a match a join keeps: those of the left side, those of the right
side, those of both or none. Joining rows takes up the first of these wishes for `left` only and the
second one never, so it does what the type says of inner and left joins, and of right and full ones
where no row stays behind.
-/

namespace Datacube.Row
variable {left right rows : List Row} {own theirs : Value} {row : Row} {type : String}

/-- The types that a join can be given. -/
def joinTypes : List String := ["left", "inner", "right", "full"]

def keepsLeft (type : String) : Bool := type == "left" || type == "full"

def keepsRight (type : String) : Bool := type == "right" || type == "full"

/-- Every row of the left side in one with every row of the right side that it meets. -/
def pairs (left right : List Row) (own theirs : Value) : List Row :=
  left.flatMap fun row => (right.filter (meets own theirs row)).map row.merge

/-- The rows of the left side that meet no row of the right side. -/
def unmetLeft (left right : List Row) (own theirs : Value) : List Row :=
  left.filter fun row => !right.any (meets own theirs row)

/-- The rows of the right side that no row of the left side meets. -/
def unmetRight (left right : List Row) (own theirs : Value) : List Row :=
  right.filter fun other => !left.any fun row => meets own theirs row other

/-- What a join of a type consists of: the pairs of rows that meet, and the rows without a match
that the type keeps, with nulls in the columns of the other side. -/
def joinedBy (type : String) (left right : List Row) (own theirs : Value) : List Row :=
  pairs left right own theirs ++
    (if keepsLeft type then (unmetLeft left right own theirs).map (pad (columns right)) else []) ++
    (if keepsRight type then (unmetRight left right own theirs).map (pad (columns left)) else [])

/-- Joining row by row gives the pairs of rows that meet, and where rows without a match are kept
those of the left side. -/
theorem flatMap_joinOne (keep : Bool) : (left.flatMap (joinOne right own theirs keep)).Perm
    (pairs left right own theirs ++
      if keep then (unmetLeft left right own theirs).map (pad (columns right)) else []) := by
  induction left with
  | nil => cases keep <;> rfl
  | cons row rest ih =>
      rw [List.flatMap_cons, pairs, List.flatMap_cons, ← pairs, unmetLeft, List.filter_cons,
        ← unmetLeft, joinOne]
      have lonely : (!right.any (meets own theirs row)) = true ↔
          right.filter (meets own theirs row) = [] := by
        simp [List.filter_eq_nil_iff]
      split
      · rename_i none
        rw [if_pos (lonely.mpr none), none]
        cases keep with
        | false => exact ih
        | true => exact (ih.cons _).trans List.perm_middle.symm
      · rename_i some
        rw [if_neg (fun none => some (lonely.mp none)), List.append_assoc]
        exact ih.append_left _

/-- Joins on columns have rows where all keys can be compared. -/
theorem join_of_keyed (named : (!own.isTrue && !theirs.isTrue) = false)
    (keyed : (right.all (keyed theirs) && left.all (keyed own)) = true) (type : String) :
    ∃ rows, join left right own theirs (.text type) = .ok rows := by
  rw [join]
  simp only [keepsUnmatched, named, keyed, if_true]
  exact ⟨_, rfl⟩

theorem keepsUnmatched_of_mem (listed : type ∈ joinTypes) :
    keepsUnmatched (.text type) = .ok (type == "left") := by
  have plain : ∀ type ∈ joinTypes, Text.lower type = type := by decide +kernel
  rw [keepsUnmatched, plain type listed]

theorem join_perm (listed : type ∈ joinTypes)
    (joined : join left right own theirs (.text type) = .ok rows) :
    rows.Perm (pairs left right own theirs ++
      if type == "left" then (unmetLeft left right own theirs).map (pad (columns right))
      else []) := by
  obtain ⟨keep, kept, rfl⟩ := join_ok joined
  rw [keepsUnmatched_of_mem listed] at kept
  rw [← Except.ok.inj kept]
  exact flatMap_joinOne _

theorem perm_append_self_iff {α : Type} {items more : List α} :
    items.Perm (items ++ more) ↔ more = [] := by
  refine ⟨fun same => ?_, fun none => by rw [none, List.append_nil]⟩
  simpa [List.length_eq_zero_iff] using same.length_eq

/-- A join has the rows that its type asks for exactly when a full one leaves no row of the left
side behind, and a right or full one none of the right side. -/
theorem perm_joinedBy_iff (listed : type ∈ joinTypes)
    (joined : join left right own theirs (.text type) = .ok rows) :
    rows.Perm (joinedBy type left right own theirs) ↔
      (type = "full" → unmetLeft left right own theirs = []) ∧
        (keepsRight type = true → unmetRight left right own theirs = []) := by
  rw [(join_perm listed joined).congr_left, joinedBy]
  simp only [joinTypes, List.mem_cons, List.not_mem_nil, or_false] at listed
  -- What the type asks for beyond the rows that there are must be empty.
  rcases listed with rfl | rfl | rfl | rfl
  · simp [keepsLeft, keepsRight]
  · simp [keepsLeft, keepsRight]
  · simp [keepsLeft, keepsRight, perm_append_self_iff]
  · simp [keepsLeft, keepsRight, perm_append_self_iff]

end Datacube.Row
