import Datacube.Proofs.Plan.Dependencies

/-!
# Computed metrics in another order

The nodes, the levels and the strategies of computed metrics do not depend on the order in which the
metrics are given. They are planned in any order if they are in one, and the entries are the same
ones.
-/

namespace Datacube

/-! ## Nodes in another order -/

namespace MetricNode
variable {μ : Type} {nodes nodes' : List (MetricNode μ)} {n m : MetricNode μ} {k : Nat}
  (moved : nodes.Perm nodes')
include moved

theorem Needs.perm (needs : Needs nodes n m) : Needs nodes' n m :=
  ⟨moved.mem_iff.mp needs.source, moved.mem_iff.mp needs.target, needs.depends⟩

theorem Walk.perm (walk : Walk nodes k n m) : Walk nodes' k n m := by
  induction walk with
  | nil n => exact .nil n
  | cons needs _ ih => exact .cons (needs.perm moved) ih

theorem Height.perm (height : Height nodes n k) : Height nodes' n k where
  reached := by
    obtain ⟨m, walk⟩ := height.reached
    exact ⟨m, walk.perm moved⟩
  longest := fun k' m walk => height.longest k' m (walk.perm moved.symm)

theorem depth_perm : depth nodes = depth nodes' := by
  rw [depth, depth, moved.length_eq]

theorem named?_perm (keyed : Keyed nodes) (key : Value) : named? nodes key = named? nodes' key := by
  rw [named?, named?]
  have reversed := keyed.perm nodes.reverse_perm.symm
  rw [Value.find?_perm reversed.distinct reversed.text
    ((nodes.reverse_perm.trans moved).trans nodes'.reverse_perm.symm)]

theorem isLocal_perm (keyed : Keyed nodes) (fuel : Nat) (active : List Value)
    (n : MetricNode μ) : isLocal nodes fuel active n = isLocal nodes' fuel active n := by
  induction fuel generalizing active n with
  | zero => rfl
  | succ fuel ih => simp only [isLocal, named?_perm moved keyed, ih]

end MetricNode

/-! ## Computed metrics in another order -/

section Computed
variable {computed computed' : List Computed} {others : List Value}

theorem ToldApart.perm (told : ToldApart computed others) (moved : computed.Perm computed') :
    ToldApart computed' others where
  text := fun m member => told.text m (moved.mem_iff.mpr member)
  texts := fun m member => told.texts m (moved.mem_iff.mpr member)
  distinct := (moved.map (·.aliasName)).nodup_iff.mp told.distinct
  apart := fun m member => told.apart m (moved.mem_iff.mpr member)

theorem Reads.perm {m m' : Computed} (reads : Reads computed m m')
    (moved : computed.Perm computed') : Reads computed' m m' :=
  ⟨moved.mem_iff.mp reads.source, moved.mem_iff.mp reads.target, reads.depends⟩

end Computed

namespace Planner
variable {p : Planner} {computed computed' : List Computed} {sources : Entries Value MetricSource}
  {nodes nodes' : List (MetricNode (Option Computed))} {plans plans' : List ComputedPlan}

/-- Where a computed metric has a node, its declared table is known. -/
theorem Depicts.resolves (depicts : Depicts p computed sources nodes) {m : Computed}
    (member : m ∈ computed) (declared : m.table.isTrue = true) :
    ∃ t, p.registry.named m.table = .ok t := by
  obtain ⟨above, made, -⟩ := depicts
  obtain ⟨n, -, made⟩ := exists_of_mem_left (Outcome.mapM_ok made) member
  simp only [nodeAbove, computedTable, if_pos declared, Outcome.bind_eq_ok] at made
  obtain ⟨-, ⟨t, known, -⟩, -⟩ := made
  exact ⟨t, known⟩

/-! ### Tables -/

theorem get?_byAlias {others : List Value} (told : ToldApart computed others) (key : Value) :
    (byAlias computed).get? key = computed.find? (·.aliasName == key) := by
  have text := told.text
  clear told
  induction computed with
  | nil => rfl
  | cons m rest ih =>
      obtain ⟨name, named⟩ := text m List.mem_cons_self
      have same : (key == m.aliasName) = (m.aliasName == key) := by
        rw [named, Bool.eq_iff_iff, Value.beq_text, Entries.exact_text name key]
        exact eq_comm
      rw [List.find?_cons, byAlias, List.map_cons, Entries.get?, List.lookup_cons, same]
      cases m.aliasName == key with
      | true => rfl
      | false => exact ih fun m member => text m (List.mem_cons_of_mem _ member)

theorem tablesBelow_congr {entries entries' : Entries Value Computed}
    (same : ∀ key, entries.get? key = entries'.get? key) (tables : Entries Value String)
    (fuel : Nat) (seen keys : List Value) :
    tablesBelow entries tables fuel seen keys = tablesBelow entries' tables fuel seen keys := by
  induction fuel generalizing seen keys with
  | zero => rfl
  | succ fuel ih =>
      cases keys with
      | nil => rfl
      | cons key rest => simp only [tablesBelow, same, ih]

section Perm
variable (told : ToldApart computed sources.keys) (moved : computed.Perm computed')
include told moved

theorem computedTable_perm (tables : Entries Value String) (m : Computed) :
    p.computedTable (byAlias computed) tables m = p.computedTable (byAlias computed') tables m := by
  have same : ∀ key, (byAlias computed).get? key = (byAlias computed').get? key := by
    intro key
    rw [get?_byAlias told, get?_byAlias (told.perm moved),
      Value.find?_perm told.distinct told.text moved]
  have count : dependencyCount computed = dependencyCount computed' :=
    haveI : RightCommutative fun count (m : Computed) => count + m.dependencies.length :=
      ⟨fun _ _ _ => Nat.add_right_comm _ _ _⟩
    moved.foldl_eq 0
  simp only [computedTable, values_byAlias, count, tablesBelow_congr same]

theorem nodeAbove_perm (m : Computed) :
    p.nodeAbove computed sources m = p.nodeAbove computed' sources m := by
  rw [nodeAbove, nodeAbove, computedTable_perm told moved]

/-- The nodes of a request in another order are the same ones. -/
theorem Depicts.perm (depicts : Depicts p computed sources nodes)
    (depicts' : Depicts p computed' sources nodes') : nodes.Perm nodes' := by
  obtain ⟨above, made, rfl⟩ := depicts
  obtain ⟨above', made', rfl⟩ := depicts'
  have same : p.nodeAbove computed sources = p.nodeAbove computed' sources :=
    funext (nodeAbove_perm told moved)
  rw [← same] at made'
  rw [Outcome.mapM_values made, Outcome.mapM_values made']
  exact (moved.filterMap _).append_left _

end Perm

/-! ### Plans -/

theorem Describes.perm {n : MetricNode (Option Computed)} {c : ComputedPlan}
    (describes : Describes nodes n c) (keyed : MetricNode.Keyed nodes)
    (moved : nodes.Perm nodes') : Describes nodes' n c where
  key := describes.key
  metric := describes.metric
  level := describes.level.perm moved
  strategy := by
    obtain ⟨b, found, same⟩ := describes.strategy
    rw [Local, MetricNode.isLocal_perm moved keyed, MetricNode.depth_perm moved] at found
    exact ⟨b, found, same⟩

theorem Describes.unique {n : MetricNode (Option Computed)} {c c' : ComputedPlan}
    (describes : Describes nodes n c) (describes' : Describes nodes n c') : c = c' := by
  obtain ⟨b, found, strategy⟩ := describes.strategy
  obtain ⟨b', found', strategy'⟩ := describes'.strategy
  obtain rfl := Except.ok.inj (found.symm.trans found')
  have key := describes.key.trans describes'.key.symm
  have metric := Option.some.inj (describes.metric.symm.trans describes'.metric)
  have level := describes.level.unique describes'.level
  cases c
  cases c'
  simp_all

/-- The same nodes come to the same entries. -/
theorem Arranged.perm (arranged : Arranged nodes plans) (keyed : MetricNode.Keyed nodes)
    (moved : nodes.Perm nodes') (arranged' : Arranged nodes' plans') : plans.Perm plans' := by
  rw [List.perm_ext_iff_of_nodup (arranged.nodup.of_map _) (arranged'.nodup.of_map _)]
  intro c
  constructor
  · intro listed
    obtain ⟨n, member, describes⟩ := arranged.of_mem listed
    obtain ⟨c', inside, describes'⟩ := arranged'.mem (moved.mem_iff.mp member) describes.metric
    rwa [(describes.perm keyed moved).unique describes']
  · intro listed
    obtain ⟨n, member, describes⟩ := arranged'.of_mem listed
    obtain ⟨c', inside, describes'⟩ := arranged.mem (moved.mem_iff.mpr member) describes.metric
    rwa [(describes.perm (keyed.perm moved) moved.symm).unique describes']

section Planned
variable (told : ToldApart computed sources.keys)
  (texts : ∀ key ∈ sources.keys, ∃ name, key = .text name) (distinct : sources.keys.Nodup)
include told texts distinct

/-- Computed metrics are planned in any order if they are in one. -/
theorem planComputed_perm (moved : computed.Perm computed')
    (run : p.planComputed computed sources = .ok plans) :
    ∃ plans', p.planComputed computed' sources = .ok plans' ∧ plans.Perm plans' := by
  obtain ⟨complete, acyclic, nodes, depicts, arranged⟩ := planComputed_ok told texts distinct run
  have told' := told.perm moved
  have keyed := depicts.keyed told texts distinct
  cases run' : p.planComputed computed' sources with
  | ok plans' =>
      obtain ⟨-, -, nodes', depicts', arranged'⟩ := planComputed_ok told' texts distinct run'
      exact ⟨plans', rfl, arranged.perm keyed (depicts.perm told moved depicts') arranged'⟩
  | error e =>
      have resolves : ∀ m ∈ computed', m.table.isTrue = true →
          ∃ t, p.registry.named m.table = .ok t :=
        fun m member => depicts.resolves (moved.mem_iff.mpr member)
      rcases planComputed_error told' texts distinct run' resolves with
        ⟨m, member, key, depends, missing, -⟩ | ⟨-, m, cycle, -⟩
      · refine absurd (complete m (moved.mem_iff.mpr member) key depends) ?_
        rwa [List.mem_append, (moved.map (·.aliasName)).mem_iff, ← List.mem_append]
      · refine absurd (Relation.TransGen.mono (fun _ _ reads => ?_) m m cycle) (acyclic m)
        exact Reads.perm reads moved.symm

end Planned

end Planner
end Datacube
