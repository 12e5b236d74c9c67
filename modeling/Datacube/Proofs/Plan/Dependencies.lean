import Datacube.Proofs.Metric.Evaluation
import Datacube.Proofs.Plan.Computed
import Datacube.Proofs.Plan.Merging
import Datacube.Proofs.Plan.Refusals
import Datacube.Proofs.Plan.Steps

/-!
# Dependencies of computed metrics

A request is refused for a dependency exactly when a computed metric depends on what is not
requested, and for a circle exactly when nothing is missing and a computed metric depends on itself.
In a plan every computed metric comes after those that it depends on.
-/

namespace Datacube

/-- A computed metric depends on what is neither among some aliases nor the alias of another one. -/
def Lacks (computed : List Computed) (aliases : List Value) : Prop :=
  ∃ m ∈ computed, ∃ key ∈ m.dependencies, key ∉ aliases ∧ key ∉ computed.map (·.aliasName)

namespace Planner
open PathFinder (belonging)

variable {p : Planner} {metrics : List RequestedMetric} {dimensions : List Dimension}
  {pairs : List (MetricSource × Aggregation)} {q : QueryPlan} {e : Error}

/-! ## The order of evaluation -/

theorem nodup_metrics {plans : List ComputedPlan}
    (named : ∀ c ∈ plans, c.aliasName = c.metric.aliasName)
    (distinct : (plans.map (·.aliasName)).Nodup) : (plans.map (·.metric)).Nodup := by
  refine List.Nodup.of_map (·.aliasName) ?_
  rw [List.map_map]
  exact (congrArg List.Nodup (List.map_congr_left named)).mp distinct

section Depicts
variable {computed : List Computed} {sources : Entries Value MetricSource}
  {nodes : List (MetricNode (Option Computed))} {plans : List ComputedPlan}
  (depicts : Depicts p computed sources nodes) (told : ToldApart computed sources.keys)
  (arranged : Arranged nodes plans)
include depicts

theorem Depicts.entry {n : MetricNode (Option Computed)} {c : ComputedPlan} (member : n ∈ nodes)
    (describes : Describes nodes n c) : c.metric ∈ computed ∧ Shows c.metric n := by
  rcases depicts.cases member with ⟨-, -, none⟩ | ⟨m, listed, shows⟩
  · rw [describes.metric] at none
    cases none
  · obtain rfl : c.metric = m := Option.some.inj (describes.metric.symm.trans shows.metric)
    exact ⟨listed, shows⟩

include arranged

theorem Depicts.named : ∀ c ∈ plans, c.aliasName = c.metric.aliasName := by
  intro c listed
  obtain ⟨n, member, describes⟩ := arranged.of_mem listed
  exact describes.key.trans (depicts.entry member describes).2.key

include told

theorem Depicts.metrics_perm : (plans.map (·.metric)).Perm computed := by
  have distinct := nodup_metrics (depicts.named arranged) arranged.nodup
  rw [List.perm_ext_iff_of_nodup distinct (told.distinct.of_map _)]
  intro m
  constructor
  · intro listed
    obtain ⟨c, inside, rfl⟩ := List.mem_map.mp listed
    obtain ⟨n, member, describes⟩ := arranged.of_mem inside
    exact (depicts.entry member describes).1
  · intro listed
    obtain ⟨n, member, shows⟩ := depicts.shown listed
    obtain ⟨c, inside, describes⟩ := arranged.mem member shows.metric
    refine List.mem_map.mpr ⟨c, inside, ?_⟩
    exact Option.some.inj (describes.metric.symm.trans shows.metric)

/-- The entries of arranged metrics come in an order in which they can be evaluated. -/
theorem Depicts.sorted (keyed : MetricNode.Keyed nodes) : Computed.Sorted computed plans := by
  refine ⟨told.text, told.distinct, depicts.named arranged, depicts.metrics_perm told arranged, ?_⟩
  intro before c after split m listed depends
  obtain ⟨n, member, describes, earlier⟩ := arranged.before keyed split
  obtain ⟨n', member', shows⟩ := depicts.shown listed
  have reads : n'.key ∈ n.dependencies := by
    rw [shows.key, (depicts.entry member describes).2.dependencies]
    exact depends
  rcases earlier n' ⟨member, member', reads⟩ with none | ⟨c', inside, describes'⟩
  · rw [shows.metric] at none
    cases none
  · refine List.mem_map.mpr ⟨c', inside, ?_⟩
    exact Option.some.inj (describes'.metric.symm.trans shows.metric)

end Depicts

/-! ## Planning computed metrics -/

section Planning
variable {computed : List Computed} {sources : Entries Value MetricSource}
  (told : ToldApart computed sources.keys)
  (texts : ∀ key ∈ sources.keys, ∃ name, key = .text name) (distinct : sources.keys.Nodup)
  (resolves : ∀ m ∈ computed, m.table.isTrue = true → ∃ t, p.registry.named m.table = .ok t)
include told texts distinct resolves

theorem planComputed_lacks_iff : Lacks computed sources.keys ↔ ∃ metric key available,
    p.planComputed computed sources =
      .error (.refused (.unknownDependency metric key available)) := by
  constructor
  · rintro ⟨m, member, key, depends, absent, absent'⟩
    have missing : key ∉ sources.keys ++ computed.map (·.aliasName) :=
      fun known => (List.mem_append.mp known).elim absent absent'
    cases run : p.planComputed computed sources with
    | ok plans =>
        exact absurd ((planComputed_ok told texts distinct run).1 m member key depends) missing
    | error e =>
        rcases planComputed_error told texts distinct run resolves with
          ⟨m, -, key, -, -, rfl⟩ | ⟨complete, -⟩
        · exact ⟨_, _, _, rfl⟩
        · exact absurd (complete m member key depends) missing
  · rintro ⟨metric, key, available, run⟩
    rcases planComputed_error told texts distinct run resolves with
      ⟨m, member, key, depends, missing, -⟩ | ⟨-, m, -, other⟩
    · rw [List.mem_append, not_or] at missing
      exact ⟨m, member, key, depends, missing⟩
    · cases other

theorem planComputed_circular_iff (complete : ¬ Lacks computed sources.keys) :
    (∃ m, Relation.TransGen (Reads computed) m m) ↔ ∃ metric,
      p.planComputed computed sources = .error (.refused (.circularDependency metric)) := by
  constructor
  · rintro ⟨m, cycle⟩
    cases run : p.planComputed computed sources with
    | ok plans => exact absurd cycle ((planComputed_ok told texts distinct run).2.1 m)
    | error e =>
        rcases planComputed_error told texts distinct run resolves with
          ⟨m, member, key, depends, missing, -⟩ | ⟨-, m, -, rfl⟩
        · rw [List.mem_append, not_or] at missing
          exact absurd ⟨m, member, key, depends, missing⟩ complete
        · exact ⟨_, rfl⟩
  · rintro ⟨metric, run⟩
    rcases planComputed_error told texts distinct run resolves with
      ⟨_, -, _, -, -, other⟩ | ⟨-, m, cycle, -⟩
    · cases other
    · exact ⟨m, cycle⟩

omit resolves

theorem planComputed_sorted {plans : List ComputedPlan}
    (run : p.planComputed computed sources = .ok plans) : Computed.Sorted computed plans := by
  obtain ⟨-, -, nodes, depicts, arranged⟩ := planComputed_ok told texts distinct run
  exact depicts.sorted told arranged (depicts.keyed told texts distinct)

/-- What a planned metric depends on is an alias of an aggregation, or that of an earlier metric. -/
theorem planComputed_before {before after : List ComputedPlan} {c : ComputedPlan}
    (run : p.planComputed computed sources = .ok (before ++ c :: after)) :
    ∀ key ∈ c.metric.dependencies, key ∈ sources.keys ∨ ∃ c' ∈ before, c'.aliasName = key := by
  obtain ⟨complete, -⟩ := planComputed_ok told texts distinct run
  have sorted := planComputed_sorted told texts distinct run
  have planned : c.metric ∈ computed := sorted.perm.subset (by simp)
  intro key depends
  rcases List.mem_append.mp (complete _ planned key depends) with known | aliased
  · exact .inl known
  · obtain ⟨m, listed, rfl⟩ := List.mem_map.mp aliased
    obtain ⟨c', inside, rfl⟩ := List.mem_map.mp (sorted.earlier rfl m listed depends)
    exact .inr ⟨c', inside, sorted.named c' (List.mem_append_left _ inside)⟩

end Planning

/-! ## Requests whose references resolve -/

def sourcesOf (pairs : List (MetricSource × Aggregation)) : Entries Value MetricSource :=
  Entries.ofPairs (pairs.map fun pair => (pair.2.aliasName, pair.1))

section Sources
variable (texts : ∀ pair ∈ pairs, ∃ name, pair.2.aliasName = .text name)
include texts

theorem nodup_keys_sourcesOf : (sourcesOf pairs).keys.Nodup :=
  Entries.nodup_keys_ofPairs (exact_aliases (·.1) texts)

theorem texts_sourcesOf : ∀ key ∈ (sourcesOf pairs).keys, ∃ name, key = .text name := by
  intro key known
  obtain ⟨pair, member, rfl⟩ := List.mem_map.mp ((mem_keys_aliases (·.1) texts).mp known)
  exact texts pair member

theorem toldApart_sourcesOf {computed : List Computed}
    (told : ToldApart computed (pairs.map (·.2.aliasName))) :
    ToldApart computed (sourcesOf pairs).keys where
  text := told.text
  texts := told.texts
  distinct := told.distinct
  apart := fun m member known => told.apart m member ((mem_keys_aliases (·.1) texts).mp known)

/-- Once its sources are found, a request is resolved as far as its computed metrics can be planned
and its dimensions have tables. -/
theorem resolve_asked (asked : metrics.filterMap p.source? = pairs.map .ok) (filled : pairs ≠ []) :
    p.resolve metrics dimensions = (do
      let computed ← p.planComputed (computedOf metrics) (sourcesOf pairs)
      let primary := (pairs.head filled).1.table
      let metricTables := gather (·.1.table) [] pairs
      let bound ← dimensions.mapM (p.bindDimension metricTables.values primary)
      return ⟨primary, sourcesOf pairs,
        Entries.ofPairs (pairs.map fun pair => (pair.2.aliasName, pair.2)), metricTables, bound,
        computed⟩) := by
  cases pairs with
  | nil => exact absurd rfl filled
  | cons first rest =>
      have found : (rest.map Except.ok).mapM id =
          (.ok rest : Outcome (List (MetricSource × Aggregation))) := by
        rw [List.mapM_map]
        exact List.mapM_pure.trans (congrArg Except.ok (List.map_id rest))
      have keys : (first :: rest).all (·.2.aliasName.isKey) = true := by
        rw [List.all_eq_true]
        intro pair member
        obtain ⟨name, text⟩ := texts pair member
        rw [text]
        rfl
      rw [resolve, asked, List.map_cons]
      simp only [found]
      exact if_neg (by rw [keys]; exact Bool.false_ne_true)

end Sources

/-- A plan has the metrics of the request as they were resolved. -/
theorem plan_resolved (planned : p.plan metrics dimensions = .ok q) :
    ∃ r, p.resolve metrics dimensions = .ok r ∧ q.computed = r.computed ∧
      q.aggregations = r.aggregations ∧ q.sources = r.sources := by
  obtain ⟨r, resolved, built⟩ := plan_cases planned
  refine ⟨r, resolved, ?_⟩
  rcases built with ⟨driver, native⟩ | software
  · simp only [nativePlan, Outcome.bind_eq_ok, Outcome.pure_eq_ok] at native
    obtain ⟨_, -, _, -, _, -, _, -, _, -, _, -, _, -, rfl⟩ := native
    exact ⟨rfl, rfl, rfl⟩
  · simp only [softwarePlan, Outcome.bind_eq_ok, Outcome.pure_eq_ok] at software
    obtain ⟨_, -, _, -, _, -, _, -, _, -, _, -, _, -, rfl⟩ := software
    exact ⟨rfl, rfl, rfl⟩

theorem plan_computed (planned : p.plan metrics dimensions = .ok q) :
    ∃ r, p.resolve metrics dimensions = .ok r ∧ q.computed = r.computed ∧
      q.aggregations = r.aggregations := by
  obtain ⟨r, resolved, computed, aggregations, -⟩ := plan_resolved planned
  exact ⟨r, resolved, computed, aggregations⟩

section Asked
variable (asked : metrics.filterMap p.source? = pairs.map .ok) (filled : pairs ≠ [])
  (texts : ∀ pair ∈ pairs, ∃ name, pair.2.aliasName = .text name)
  (told : ToldApart (computedOf metrics) (pairs.map (·.2.aliasName)))
include asked filled texts

/-- A request is refused because of dependencies when its computed metrics are. -/
theorem plan_refused_iff (dependencies : e.ofDependencies = true) :
    p.plan metrics dimensions = .error e ↔
      p.planComputed (computedOf metrics) (sourcesOf pairs) = .error e := by
  have resolved : p.resolve metrics dimensions = _ := resolve_asked texts asked filled
  constructor
  · intro refused
    have independent : ∀ {α : Type} {x : Outcome α}, Independent x → x ≠ .error e := by
      intro α x independent failed
      rw [independent e failed] at dependencies
      cases dependencies
    cases found : p.resolve metrics dimensions with
    | ok r => exact absurd refused (independent (independent_plan p r dimensions found))
    | error e' =>
        obtain rfl : e' = e := by
          rw [plan, found] at refused
          exact Except.error.inj refused
        rw [resolved] at found
        rcases Outcome.bind_eq_error.mp found with failed | ⟨_, -, failed⟩
        · exact failed
        · rcases Outcome.bind_eq_error.mp failed with failed | ⟨_, -, ⟨⟩⟩
          exact absurd failed (independent (Outcome.independent_mapM
            (independent_bindDimension p _ _)))
  · intro refused
    rw [plan, resolved, refused]
    rfl

include told

/-- A computed metric that lacks a dependency is refused, else one that depends on itself, and in a
plan every computed metric comes after those that it depends on. -/
theorem plan_orders_computed (resolves : ∀ m ∈ computedOf metrics, m.table.isTrue = true →
      ∃ t, p.registry.named m.table = .ok t) :
    (Lacks (computedOf metrics) (pairs.map (·.2.aliasName)) ↔ ∃ metric key available,
      p.plan metrics dimensions =
        .error (.refused (.unknownDependency metric key available))) ∧
    (¬ Lacks (computedOf metrics) (pairs.map (·.2.aliasName)) →
      ((∃ m, Relation.TransGen (Reads (computedOf metrics)) m m) ↔ ∃ metric,
        p.plan metrics dimensions = .error (.refused (.circularDependency metric)))) ∧
    ∀ q, p.plan metrics dimensions = .ok q → ∀ before c after, q.computed = before ++ c :: after →
      ∀ key ∈ c.metric.dependencies,
        key ∈ q.aggregations.keys ∨ ∃ c' ∈ before, c'.aliasName = key := by
  have told := toldApart_sourcesOf texts told
  have names := texts_sourcesOf texts
  have distinct := nodup_keys_sourcesOf texts
  have same : Lacks (computedOf metrics) (pairs.map (·.2.aliasName)) ↔
      Lacks (computedOf metrics) (sourcesOf pairs).keys := by
    simp only [Lacks, sourcesOf, mem_keys_aliases _ texts]
  refine ⟨?_, fun complete => ?_, ?_⟩
  · simp only [same, planComputed_lacks_iff told names distinct resolves,
      plan_refused_iff asked filled texts (e := .refused (.unknownDependency _ _ _)) rfl]
  · rw [same] at complete
    simp only [planComputed_circular_iff told names distinct resolves complete,
      plan_refused_iff asked filled texts (e := .refused (.circularDependency _)) rfl]
  · intro q planned before c after split key depends
    obtain ⟨r, resolved, computed, aggregations⟩ := plan_computed planned
    rw [resolve_asked texts asked filled] at resolved
    simp only [Outcome.bind_eq_ok, Outcome.pure_eq_ok] at resolved
    obtain ⟨plans, run, _, -, rfl⟩ := resolved
    obtain rfl : plans = before ++ c :: after := computed.symm.trans split
    refine (planComputed_before told names distinct run key depends).imp_left fun known => ?_
    rw [aggregations]
    exact (mem_keys_aliases (·.2) texts).mpr ((mem_keys_aliases (·.1) texts).mp known)

end Asked

def revenueSources : List (MetricSource × Aggregation) :=
  [(⟨belonging "shop" "orders" [("customer", "customers")], "amount", .null⟩,
      ⟨.sum, "shop:orders.amount", "revenue", 0.5⟩),
    (⟨archive, "amount", .null⟩, ⟨.avg, "archive:orders.amount", "past", 0.5⟩)]

/-- The target for a month, and the target that it is a part of. -/
def targets : List Computed :=
  [⟨"target / 12", .combine .divide (.metric "target") (.number "12"), [], "monthly", .null, .null,
      .int 2, false, .null⟩,
    ⟨"revenue * 2", .combine .multiply (.metric "revenue") (.number "2"), [], "target", .null,
      .null, .int 2, false, .null⟩]

theorem targets_apart : ToldApart targets ["revenue", "past"] := by
  constructor <;> simp [targets, Computed.aliasName, Computed.dependencies, Computed.referenced,
    Computed.addMissing, Formula.metrics, Value.orElse, Value.isTrue]

theorem shop_orders_targets :
    ∃ q, shop.plan (revenue ++ targets.map .computed) [] = .ok q ∧ q.computed ≠ [] ∧
      ∀ before c after, q.computed = before ++ c :: after → ∀ key ∈ c.metric.dependencies,
        key ∈ q.aggregations.keys ∨ ∃ c' ∈ before, c'.aliasName = key := by
  have built : (shop.plan (revenue ++ targets.map .computed) []).toOption.any
      (!·.computed.isEmpty) := by decide +kernel
  obtain ⟨q, planned, some⟩ := Outcome.any_ok built
  have asked : (revenue ++ targets.map RequestedMetric.computed).filterMap shop.source? =
    revenueSources.map .ok := rfl
  refine ⟨q, planned, by simpa using some,
    (plan_orders_computed asked (List.cons_ne_nil _ _) ?_ targets_apart ?_).2.2 q planned⟩
  · simp [revenueSources, Aggregation.aliasName, Value.orElse, Value.isTrue]
  · simp [targets, computedOf, revenue, Value.isTrue]

end Planner
end Datacube
