import Datacube.Proofs.Plan.Assembly

/-!
# Merging the results of a plan

The relations of a software plan follow the tree of its joins, so its results can always be merged:
in a single pass, along every relation from its source, and every table but the primary one once.
-/

namespace Datacube

/-- The results of the tables are merged in a single pass, along every relation from its source.
Every table but the primary one is merged once, and the merge is never stuck. -/
structure SoftwarePlan.Mergeable (sp : SoftwarePlan) : Prop where
  pass : MergeStep.pass [sp.primary] sp.relations =
    ⟨sp.relations.map .forward, sp.primary :: sp.relations.map (·.target), []⟩
  schedule : MergeStep.schedule [sp.primary] sp.relations = (sp.relations.map .forward, [])
  once : (sp.primary :: sp.relations.map (·.target)).Perm sp.tables.keys
  distinct : sp.tables.keys.Nodup
  merges : ∀ results, mergeResults sp.primary sp.relations results =
    (sp.relations.map .forward).foldlM (MergeStep.apply results)
      ((results.get? sp.primary).getD [])
  unstuck : ∀ results e, mergeResults sp.primary sp.relations results = .error e →
    ∃ fault, e = .fault fault

theorem SoftwarePlan.mergeable_of_ordered {sp : SoftwarePlan}
    (ordered : MergeStep.Ordered [sp.primary] sp.relations)
    (once : (sp.primary :: sp.relations.map (·.target)).Perm sp.tables.keys)
    (distinct : sp.tables.keys.Nodup) : sp.Mergeable where
  pass := MergeStep.pass_ordered ordered
  schedule := MergeStep.schedule_ordered ordered
  once := once
  distinct := distinct
  merges := fun _ => MergeStep.mergeResults_ordered ordered
  unstuck := fun _ _ failed => MergeStep.mergeResults_error ordered failed

namespace Planner
variable {p : Planner} {metrics : List RequestedMetric} {dimensions : List Dimension} {r : Resolved}
  {schema : Schema} {joins : JoinGraph} {tables : Entries String Table} {k : MergeKeys}
  {plans : Entries Value TablePlan} {filters : Value} {q : QueryPlan} {sp : SoftwarePlan}

theorem Assembled.ordered (indexed : p.registry.Indexed) (sound : r.Sound p.registry dimensions)
    (assembled : Assembled p r dimensions schema joins tables k plans filters) :
    MergeStep.Ordered [nameAmong tables r.primary.identifier] k.relations ∧
      (nameAmong tables r.primary.identifier :: k.relations.map (·.target)).Perm plans.keys := by
  obtain ⟨tabled, -, same⟩ := assembled.tabled indexed sound
  have along := relations_endpoints assembled.keyed
  constructor
  · apply MergeStep.ordered_of_tree (assembled.tree indexed sound).1 _ _ along
    · exact fun identifier joined => nameAmong_text tabled (same.mem_iff.mpr joined)
    · exact fun a joined b joined' =>
        nameAmong_injective tabled (same.mem_iff.mpr joined) (same.mem_iff.mpr joined')
  · have targets := congrArg (List.map Prod.snd) along
    simp only [List.map_map] at targets
    have names : nameAmong tables r.primary.identifier :: k.relations.map (·.target) =
        (JoinGraph.joined r.primary.identifier joins).map (nameAmong tables) := by
      rw [JoinGraph.joined, List.map_cons, List.map_map]
      exact congrArg _ targets
    rw [names, names_of_planned (assembled.plans_ok tabled)]
    exact (same.map (nameAmong tables)).symm

/-- Every plan of several queries can be merged. -/
theorem plan_mergeable (indexed : p.registry.Indexed)
    (brought : ∀ t, Brings metrics t → p.registry.Admits t)
    (planned : p.plan metrics dimensions = .ok q) (software : q.joinPlan = .software sp) :
    sp.Mergeable := by
  obtain ⟨r, resolved, built⟩ := plan_software planned software
  obtain ⟨schema, joins, k, filters, assembled, whole, -, -⟩ := softwarePlan_ok built software
  have sound := resolve_sound indexed brought resolved
  obtain ⟨ordered, once⟩ := assembled.ordered indexed sound
  have distinct := assembled.plans_nodup (assembled.tabled indexed sound).1
  rw [whole]
  exact SoftwarePlan.mergeable_of_ordered ordered once distinct

/-! ## Orders of two providers -/

open PathFinder (belonging)

def archive : Table :=
  { belonging "archive" "orders" [] with dimensions := .ofDimensions [.make .plain "year"] }

/-- Two tables of the name `orders`, with customers between them, each of a provider of its own. -/
def shop : Planner where
  registry := .ofSources [
    ⟨"shop", .indexed, .null, [belonging "shop" "orders" [("customer", "customers")]]⟩,
    ⟨"crm", .indexed, .null, [belonging "crm" "customers" [("past", "archive:orders")]]⟩,
    ⟨"archive", .indexed, .null, [archive]⟩]
  drivers := ⟨[], some ⟨"main", "main", .sqlite, .relational, .bool true, .bool true⟩⟩
  renderings := .builtin
  joinType := "left"

/-- The present revenue, and the past one on average, whose table is at hand. -/
def revenue : List RequestedMetric :=
  [.aggregation ⟨.sum, "shop:orders.amount", "revenue", 0.5⟩,
    .sourced ⟨archive, "amount", .null⟩ ⟨.avg, "archive:orders.amount", "past", 0.5⟩]

def years : List Dimension :=
  [{ Dimension.make .plain "archive:orders.year" with
      filters := .object [("only", .list ["2019", "2020"])] }]

theorem shop_indexed : shop.registry.Indexed := by
  apply Registry.indexed_ofSources
  intro s member
  simp only [List.mem_cons, List.not_mem_nil, or_false] at member
  rcases member with rfl | rfl | rfl <;>
    exact ⟨rfl, by simp [belonging, archive], by simp [Table.Plain, belonging, archive],
      List.nodup_singleton _⟩

theorem shop_brought (t : Table) (brings : Brings revenue t) : shop.registry.Admits t := by
  obtain ⟨source, a, member, rfl⟩ := brings
  simp only [revenue, List.mem_cons, List.not_mem_nil, reduceCtorEq, or_false, false_or,
    RequestedMetric.sourced.injEq] at member
  rw [member.1]
  exact shop_indexed.admits (Registry.mem_all.mpr ⟨_, .tail _ (.tail _ (.head _)), .head _⟩)

theorem shop_software : ∃ q sp, shop.plan revenue years = .ok q ∧ q.joinPlan = .software sp := by
  have software : (shop.plan revenue years).toOption.any QueryPlan.isSoftware = true := by
    decide +kernel
  cases planned : shop.plan revenue years with
  | error e =>
      rw [planned] at software
      cases software
  | ok q =>
      rw [planned] at software
      cases joined : q.joinPlan with
      | software sp => exact ⟨q, sp, rfl, joined⟩
      | _ => simp [Except.toOption, QueryPlan.isSoftware, joined] at software

theorem shop_mergeable : ∃ q sp, shop.plan revenue years = .ok q ∧ q.joinPlan = .software sp ∧
    sp.Mergeable := by
  obtain ⟨q, sp, planned, software⟩ := shop_software
  exact ⟨q, sp, planned, software, plan_mergeable shop_indexed shop_brought planned software⟩

end Planner
end Datacube
