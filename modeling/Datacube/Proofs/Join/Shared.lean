import Datacube.Proofs.Join.Growth

/-!
# Joins on shared dimensions

Where relations do not lead to a table, a requested dimension joins it to the first connected table
that declares the dimension. That table stays the first one, so all joins on a dimension start at
one table.
-/

namespace Datacube.JoinGraph
open PathFinder

/-- The first table that declares a dimension, with its declaration. -/
def declarer? (tables : List Table) (d : Dimension) : Option (Table × Dimension) :=
  tables.findSome? fun t => (t.dimensions.get? (.text d.key)).map fun own => (t, own)

/-- The join of a table with the first one that declares a requested dimension, on what both declare
it to be. -/
def Shares (tables : List Table) (dimensions : List Dimension) (step : JoinStep) : Prop :=
  ∃ d ∈ dimensions, ∃ source own target theirs, declarer? tables d = some (source, own) ∧
    target ∈ tables ∧ target.dimensions.get? (.text d.key) = some theirs ∧
    step = .between source target (sharedDimension d own theirs target) "inner"

variable {f : PathFinder} {connected tables : List Table} {first target : Table} {g g' : Growth}
  {step : JoinStep} {steps : List JoinStep} {d own : Dimension} {dimensions : List Dimension}

theorem declarer?_some (found : declarer? tables d = some (target, own)) :
    target ∈ tables ∧ target.dimensions.get? (.text d.key) = some own := by
  obtain ⟨t, listed, found⟩ := List.exists_of_findSome?_eq_some found
  obtain ⟨own', declares, same⟩ := Option.map_eq_some_iff.mp found
  obtain ⟨rfl, rfl⟩ := Prod.mk.inj same
  exact ⟨listed, declares⟩

theorem declarer?_append (found : declarer? tables d = some (target, own)) (more : List Table) :
    declarer? (tables ++ more) d = some (target, own) := by
  rw [declarer?] at found ⊢
  rw [List.findSome?_append, found, Option.some_or]

theorem Shares.append (shares : Shares connected dimensions step) (more : List Table) :
    Shares (connected ++ more) dimensions step := by
  obtain ⟨d, requested, source, own, target, theirs, found, listed, declares, same⟩ := shares
  exact ⟨d, requested, source, own, target, theirs, declarer?_append found more,
    List.mem_append_left _ listed, declares, same⟩

theorem shares_of_dimensionJoin? (joined : dimensionJoin? connected target dimensions = some step) :
    Shares (connected ++ [target]) dimensions step := by
  obtain ⟨d, requested, joined⟩ := List.exists_of_findSome?_eq_some joined
  obtain ⟨theirs, declares, joined⟩ := Option.bind_eq_some_iff.mp joined
  have through : ((declarer? connected d).map fun pair =>
      JoinStep.between pair.1 target (sharedDimension d pair.2 theirs target) "inner") =
        some step := by
    rw [← joined, declarer?, List.map_findSome?]
    congr 1
    funext t
    rw [Function.comp_apply, Option.map_map]
    rfl
  obtain ⟨⟨source, own⟩, found, rfl⟩ := Option.map_eq_some_iff.mp through
  exact ⟨d, requested, source, own, target, theirs, declarer?_append found _, by simp, declares,
    rfl⟩

theorem mem_addSteps (member : step ∈ (g.addSteps steps).joins.values) :
    step ∈ g.joins.values ∨ step ∈ steps := by
  induction steps generalizing g with
  | nil => exact .inl member
  | cons first rest ih =>
      have next : g.addSteps (first :: rest) = (g.addSteps [first]).addSteps rest := rfl
      rw [next] at member
      rcases ih member with old | later
      · obtain ⟨e, listed, rfl⟩ := List.mem_map.mp old
        rcases Entries.mem_putNew listed with old | rfl
        · exact .inl (List.mem_map_of_mem old)
        · exact .inr List.mem_cons_self
      · exact .inr (List.mem_cons_of_mem first later)

def Sharing (tables : List Table) (dimensions : List Dimension) (g : Growth) : Prop :=
  g.connected ⊆ tables ∧
    ∀ step ∈ g.joins.values, step.relation.type = .dimension → Shares g.connected dimensions step

section Building
variable (clear : f.Clear tables) (nodup : f.schema.tables.keys.Nodup)
  (declared : ∀ t, f.ReachedFrom tables t → ∀ r ∈ t.relations.values, r.type ≠ .dimension)
include clear nodup declared

theorem path?_declared (inside : connected ⊆ tables)
    (found : path? f connected target = .ok (some steps)) :
    ∀ step ∈ steps, step.relation.type ≠ .dimension := by
  intro step member
  obtain ⟨before, s, after, split, -, found⟩ := path?_some found
  have here : s ∈ tables := inside (by simp [split])
  obtain ⟨t, -, shortest⟩ := find_found (clear.single here) nodup found
  obtain ⟨prior, u, r, v, rest, -, rfl, toStep, admitted, -⟩ := shortest.chain.split member
  exact declared u ⟨s, here, prior, toStep⟩ r admitted.1

theorem Sharing.add (sharing : Sharing tables dimensions g) (wanted : target ∈ tables)
    (added : Growth.add f dimensions g target = .ok g') : Sharing tables dimensions g' := by
  rw [Growth.add] at added
  split at added
  · exact Except.ok.inj added ▸ sharing
  · rw [Outcome.bind_eq_ok] at added
    obtain ⟨steps, attached, added⟩ := added
    obtain rfl := Outcome.pure_eq_ok.mp added
    refine ⟨List.append_subset.mpr ⟨sharing.1, by simpa using wanted⟩, ?_⟩
    intro step member shared
    rcases mem_addSteps member with old | new
    · exact (sharing.2 step old shared).append _
    · rcases attach_ok attached with path | ⟨-, only, joined, rfl⟩
      · exact absurd shared (path?_declared clear nodup declared sharing.1 path step new)
      · rw [List.mem_singleton.mp new]
        exact shares_of_dimensionJoin? joined

theorem build_shares {joins : JoinGraph} (built : build f tables dimensions = .ok joins) :
    ∃ connected ⊆ tables, ∀ step ∈ joins, step.relation.type = .dimension →
      Shares connected dimensions step := by
  cases tables with
  | nil =>
      obtain rfl := Except.ok.inj built
      exact ⟨[], List.nil_subset _, by simp⟩
  | cons first rest =>
      cases rest with
      | nil =>
          obtain rfl := Except.ok.inj built
          exact ⟨[], List.nil_subset _, by simp⟩
      | cons second rest =>
          simp only [build, Outcome.bind_eq_ok, Outcome.pure_eq_ok] at built
          obtain ⟨g, run, rfl⟩ := built
          have final := Outcome.foldlM_induction
            (fun _ g => Sharing (first :: second :: rest) dimensions g) run
            ⟨by simp, by simp [Entries.values]⟩ ?_
          · exact ⟨g.connected, final⟩
          · intro before target inside g g' sharing added
            have wanted : target ∈ second :: rest := inside.subset (by simp)
            exact sharing.add clear nodup declared (List.mem_cons_of_mem _ wanted) added

end Building
end Datacube.JoinGraph
