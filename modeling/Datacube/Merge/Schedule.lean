import Datacube.Merge.Rows

/-!
# The order of merges

Table results are merged into those of the primary table along relations. A relation can be walked
as soon as one of its tables is merged, in either direction; a relation between two merged tables is
skipped. The schedule lists the merges in order and the relations that are never reached.
-/

namespace Datacube

/-- A relation between the results of two tables, with the key column of each side. -/
structure JoinRelation where
  key : Value
  source : Value
  target : Value
  type : Value
  sourceAlias : Value
  targetAlias : Value

def JoinRelation.document (r : JoinRelation) : Value :=
  .record [("key", r.key), ("from", r.source), ("to", r.target), ("type", r.type),
    ("fromAlias", r.sourceAlias), ("toAlias", r.targetAlias)]

/-- The merge of one table: the key column of the merged rows and that of the table. -/
structure MergeStep where
  table : Value
  own : Value
  theirs : Value
  type : Value

namespace MergeStep

/-- What one pass over the relations yields: the merges, the merged tables and the relations that
could not be walked. -/
structure Pass where
  steps : List MergeStep
  merged : List Value
  remaining : List JoinRelation

def pass (merged : List Value) : List JoinRelation → Pass
  | [] => ⟨[], merged, []⟩
  | r :: rest =>
    if merged.contains r.source then
      if merged.contains r.target then pass merged rest
      else
        let next := pass (merged ++ [r.target]) rest
        { next with steps := ⟨r.target, r.sourceAlias, r.targetAlias, r.type⟩ :: next.steps }
    else if merged.contains r.target then
      let next := pass (merged ++ [r.source]) rest
      { next with steps := ⟨r.source, r.targetAlias, r.sourceAlias, r.type⟩ :: next.steps }
    else
      let next := pass merged rest
      { next with remaining := r :: next.remaining }

/-- The merges in order, and the relations that no pass reaches. -/
def schedule (merged : List Value) (pending : List JoinRelation) :
    List MergeStep × List JoinRelation :=
  let next := pass merged pending
  if next.remaining.length < pending.length then
    let (steps, stuck) := schedule next.merged next.remaining
    (next.steps ++ steps, stuck)
  else (next.steps, next.remaining)
termination_by pending.length

def apply (results : Entries Value (List Row)) (rows : List Row) (s : MergeStep) :
    Outcome (List Row) :=
  Row.join rows ((results.get? s.table).getD []) s.own s.theirs s.type

end MergeStep

/-- Merges the results of all tables into those of the primary table. -/
def mergeResults (primary : Value) (relations : List JoinRelation)
    (results : Entries Value (List Row)) : Outcome (List Row) := do
  let (steps, stuck) := MergeStep.schedule [primary] relations
  let rows ← steps.foldlM (MergeStep.apply results) ((results.get? primary).getD [])
  if stuck.isEmpty then return rows else refuse (.mergeStuck (stuck.map (·.key)))

end Datacube
