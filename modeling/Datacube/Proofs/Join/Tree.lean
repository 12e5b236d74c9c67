import Datacube.Join.Graph
import Datacube.Proofs.Join.Chain

/-!
# Trees of joins

A list of joins is a tree in usable order when every join starts at a table that is already there
and leads to one that is not. A path can be added to such a tree when each of its steps is either in
the tree or leads out of it.
-/

namespace Datacube.JoinGraph

/-- The identifiers of the tables that joins connect with a first one. -/
def joined (root : String) (joins : List JoinStep) : List String :=
  root :: joins.map (·.targetId)

/-- Joins of which each starts at a table that is already joined and leads to a new one. -/
inductive RootedTree (root : String) : List JoinStep → Prop where
  | nil : RootedTree root []
  | snoc {joins : List JoinStep} {step : JoinStep} (tree : RootedTree root joins)
      (known : step.sourceId ∈ joined root joins) (new : step.targetId ∉ joined root joins) :
      RootedTree root (joins ++ [step])

variable {f : PathFinder} {root : String} {joins path : List JoinStep} {step : JoinStep}
  {s t : Table}

@[simp] theorem joined_append (root : String) (joins joins' : List JoinStep) :
    joined root (joins ++ joins') = joined root joins ++ joins'.map (·.targetId) := by
  simp [joined]

namespace RootedTree

theorem nodup (tree : RootedTree root joins) : (joined root joins).Nodup := by
  induction tree with
  | nil => exact List.nodup_singleton root
  | snoc _ _ new ih =>
      rw [joined_append, List.map_singleton, ← List.concat_eq_append]
      exact ih.concat new

theorem source_joined (tree : RootedTree root joins) {before after : List JoinStep}
    (split : joins = before ++ step :: after) : step.sourceId ∈ joined root before := by
  induction tree generalizing after with
  | nil => simp at split
  | @snoc joins last tree known new ih =>
      rcases List.eq_nil_or_concat after with rfl | ⟨after, final, rfl⟩
      · obtain ⟨rfl, same⟩ := List.append_inj' split rfl
        rw [← List.cons.inj same |>.1]
        exact known
      · rw [List.concat_eq_append, ← List.cons_append, ← List.append_assoc] at split
        exact ih (List.append_inj' split rfl).1

theorem source_mem (tree : RootedTree root joins) (member : step ∈ joins) :
    step.sourceId ∈ joined root joins := by
  obtain ⟨before, after, split⟩ := List.append_of_mem member
  have source := tree.source_joined split
  rw [split, joined_append]
  exact List.mem_append_left _ source

end RootedTree

/-! ## Adding joins -/

/-- A tree of joins that are kept by the tables which they connect. -/
structure Planted (root : String) (joins : Entries (String × String) JoinStep) : Prop where
  keyed : ∀ e ∈ joins, e.1 = (e.2.sourceId, e.2.targetId)
  tree : RootedTree root joins.values

/-- Joins by the tables that they connect, with one more unless those are connected. -/
def put (joins : Entries (String × String) JoinStep) (step : JoinStep) :
    Entries (String × String) JoinStep :=
  joins.putNew (step.sourceId, step.targetId) step

variable {entries : Entries (String × String) JoinStep}

/-- A join fits a tree when it belongs to it or leads out of it. -/
def Fits (root : String) (joins : List JoinStep) (step : JoinStep) : Prop :=
  step ∈ joins ∨ step.targetId ∉ joined root joins

theorem Planted.put (planted : Planted root entries) (fits : Fits root entries.values step)
    (known : step.sourceId ∈ joined root entries.values) :
    Planted root (JoinGraph.put entries step) ∧
      ((JoinGraph.put entries step).values = entries.values ∧ step ∈ entries.values ∨
        (JoinGraph.put entries step).values = entries.values ++ [step]) := by
  have exact := Entries.exact_of_lawful (step.sourceId, step.targetId)
  rcases fits with present | new
  · have unchanged : JoinGraph.put entries step = entries := by
      obtain ⟨e, member, rfl⟩ := List.mem_map.mp present
      refine Entries.putNew_known exact ?_
      rw [← planted.keyed e member]
      exact List.mem_map_of_mem member
    rw [unchanged]
    exact ⟨planted, .inl ⟨rfl, present⟩⟩
  · have absent : (step.sourceId, step.targetId) ∉ entries.keys := by
      intro member
      obtain ⟨e, listed, same⟩ := List.mem_map.mp member
      rw [planted.keyed e listed, Prod.mk.injEq] at same
      refine new (List.mem_cons_of_mem _ ?_)
      rw [← same.2, Entries.values, List.map_map]
      exact List.mem_map.mpr ⟨e, listed, rfl⟩
    have extended : JoinGraph.put entries step =
        entries ++ [((step.sourceId, step.targetId), step)] :=
      Entries.putNew_new exact absent
    have values : (JoinGraph.put entries step).values = entries.values ++ [step] := by
      rw [extended, Entries.values, List.map_append]
      rfl
    refine ⟨⟨?_, values ▸ planted.tree.snoc known new⟩, .inr values⟩
    intro e member
    rw [extended] at member
    rcases List.mem_append.mp member with old | last
    · exact planted.keyed e old
    · rw [List.mem_singleton.mp last]

/-- A path from a joined table whose steps fit the tree makes it a larger tree. -/
theorem Planted.putAll (planted : Planted root entries) (chain : f.Chain s path t)
    (here : s.identifier ∈ joined root entries.values) (simple : (path.map (·.targetId)).Nodup)
    (fits : ∀ step ∈ path, Fits root entries.values step) :
    Planted root (path.foldl JoinGraph.put entries) ∧
      ∀ step, step ∈ (path.foldl JoinGraph.put entries).values ↔
        step ∈ entries.values ∨ step ∈ path := by
  induction chain generalizing entries with
  | nil => exact ⟨planted, by simp⟩
  | @cons s u t r path admitted chain ih =>
      obtain ⟨grown, change⟩ := planted.put (fits _ List.mem_cons_self) here
      have members : ∀ step, step ∈ (JoinGraph.put entries (.between s u r f.joinType)).values ↔
          step ∈ entries.values ∨ step = .between s u r f.joinType := by
        intro step
        rcases change with ⟨same, present⟩ | longer
        · rw [same]
          exact ⟨.inl, fun h => h.elim id fun equal => equal ▸ present⟩
        · rw [longer, List.mem_append, List.mem_singleton]
      rw [List.map_cons, List.nodup_cons] at simple
      have next : u.identifier ∈
          joined root (JoinGraph.put entries (.between s u r f.joinType)).values :=
        List.mem_cons_of_mem _ (List.mem_map.mpr ⟨_, (members _).mpr (.inr rfl), rfl⟩)
      obtain ⟨planted', members'⟩ := ih grown next simple.2 fun step later => by
        rcases fits step (List.mem_cons_of_mem _ later) with present | new
        · exact .inl ((members step).mpr (.inl present))
        · refine .inr fun member => ?_
          rcases List.mem_cons.mp member with atRoot | behind
          · exact new (atRoot ▸ List.mem_cons_self)
          · obtain ⟨other, listed, same⟩ := List.mem_map.mp behind
            rcases (members other).mp listed with old | rfl
            · exact new (same ▸ List.mem_cons_of_mem _ (List.mem_map.mpr ⟨other, old, rfl⟩))
            · exact simple.1 (List.mem_map.mpr ⟨step, later, same.symm⟩)
      refine ⟨planted', fun step => ?_⟩
      rw [List.foldl_cons, members', members, List.mem_cons, or_assoc]

end Datacube.JoinGraph
