import Datacube.Join.Step

/-!
# Join paths

The shortest way from one table to another along declared relations, found breadth first. Relations
are followed in the order of declaration and in their own direction only. A table counts as reached
as soon as it is found, so the first path to a table is a shortest one.
-/

namespace Datacube

/-- Where paths are looked for: in a schema, on one connection or across all, with the type that
every step gets. -/
structure PathFinder where
  schema : Schema
  sameConnection : Bool
  joinType : Value

namespace PathFinder

def permits (f : PathFinder) (source target : Table) : Bool :=
  !f.sameConnection || source.connectionKey == target.connectionKey

/-- The table that a relation of another table leads to, if the finder may go there. -/
def next? (f : PathFinder) (source : Table) (r : Relation) : Outcome (Option Table) := do
  return (← f.schema.find r.target source.provider).filter (f.permits source)

/-- A table that was found, with the step that leads there. -/
abbrev Found := Table × JoinStep

/-- The tables that relations lead to from a table and that are not yet reached, and the identifiers
that remain to be reached. No relation is followed beyond the target. -/
def expand (f : PathFinder) (target : String) (source : Table) :
    List Relation → List String → Outcome (List Found × List String)
  | [], fresh => .ok ([], fresh)
  | r :: rest, fresh => match f.next? source r with
    | .error e => .error e
    | .ok none => expand f target source rest fresh
    | .ok (some t) =>
      let found : Found := (t, .between source t r f.joinType)
      if t.identifier ∈ fresh then
        if t.identifier = target then .ok ([found], fresh.erase t.identifier)
        else match expand f target source rest (fresh.erase t.identifier) with
          | .error e => .error e
          | .ok (others, fresh) => .ok (found :: others, fresh)
      else expand f target source rest fresh

/-- What is found no longer remains to be reached. -/
theorem expand_length (f : PathFinder) (target : String) (source : Table)
    (relations : List Relation) (fresh : List String) {found : List Found} {left : List String}
    (h : f.expand target source relations fresh = .ok (found, left)) :
    found.length + left.length = fresh.length := by
  induction relations generalizing fresh found left with
  | nil =>
    simp only [expand, Except.ok.injEq, Prod.mk.injEq] at h
    simp [← h.1, ← h.2]
  | cons r rest ih =>
    rw [expand] at h
    split at h
    · cases h
    · exact ih fresh h
    · rename_i t _
      split at h
      · rename_i member
        have shorter := List.length_erase_of_mem member
        have positive := List.length_pos_of_mem member
        split at h
        · simp only [Except.ok.injEq, Prod.mk.injEq] at h
          simp only [← h.1, ← h.2, List.length_singleton]
          omega
        · split at h
          · cases h
          · rename_i others after step
            simp only [Except.ok.injEq, Prod.mk.injEq] at h
            have := ih (fresh.erase t.identifier) step
            simp only [← h.1, ← h.2, List.length_cons]
            omega
      · exact ih fresh h

/-- Searches breadth first. The queue holds the tables to continue from with the paths that lead
there; `fresh` holds the identifiers that were not yet reached. -/
def search (f : PathFinder) (target : String) (queue : List (Table × List JoinStep))
    (fresh : List String) : Outcome (Option (List JoinStep)) :=
  match queue with
  | [] => .ok none
  | (t, path) :: rest =>
    match _h : f.expand target t t.relations.values fresh with
    | .error e => .error e
    | .ok (found, left) =>
      match found.find? (·.1.identifier == target) with
      | some (_, step) => .ok (some (path ++ [step]))
      | none =>
        search f target (rest ++ found.map fun (n, step) => (n, path ++ [step])) left
termination_by queue.length + fresh.length
decreasing_by
  -- One table leaves the queue, and whatever joins it was fresh before.
  have := expand_length f target t t.relations.values fresh _h
  simp only [List.length_append, List.length_map, List.length_cons]
  omega

/-- The steps from one table to another: none for the same table, no path at all where relations do
not lead there. -/
def find (f : PathFinder) (source target : Table) : Outcome (Option (List JoinStep)) :=
  if source.identifier == target.identifier then .ok (some [])
  else if !f.permits source target then .ok none
  else f.search target.identifier [(source, [])] (f.schema.tables.keys.erase source.identifier)

end PathFinder
end Datacube
