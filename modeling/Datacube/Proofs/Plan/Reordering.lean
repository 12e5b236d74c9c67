import Datacube.Proofs.Plan.Symmetry

/-!
# Requests in another order

The order in which computed metrics are requested decides the order in which a plan lists them and
nothing else. The plan has the same metrics with the same levels and strategies, and the same rows
come out of it: every value is that of the metric with its dependencies evaluated first.
-/

namespace Datacube

def Planner.aggregationsOf (metrics : List RequestedMetric) : List Aggregation :=
  metrics.filterMap fun
    | .aggregation a => some a
    | .sourced _ a => some a
    | .computed _ => none

def RequestedMetric.isComputed : RequestedMetric → Bool
  | .computed _ => true
  | _ => false

/-- Two requests that differ in the places of computed metrics only. -/
structure Reordered (metrics metrics' : List RequestedMetric) : Prop where
  others : metrics.filter (!·.isComputed) = metrics'.filter (!·.isComputed)
  moved : (Planner.computedOf metrics).Perm (Planner.computedOf metrics')

theorem Reordered.symm {metrics metrics' : List RequestedMetric}
    (reordered : Reordered metrics metrics') : Reordered metrics' metrics :=
  ⟨reordered.others.symm, reordered.moved.symm⟩

/-- Two plans that differ in the order of computed metrics only. An alias has the same metric, level
and strategy in both. -/
structure QueryPlan.Rearranged (q q' : QueryPlan) : Prop where
  others : q' = { q with computed := q'.computed }
  moved : q.computed.Perm q'.computed
  same : ∀ c ∈ q.computed, ∀ c' ∈ q'.computed, c.aliasName = c'.aliasName → c = c'

namespace QueryPlan
variable {q : QueryPlan} {computed : List Computed} {results : List (List Row)} {rows : List Row}

theorem finish_eq_ok : q.finish results = .ok rows ↔ ∃ plain, q.rows results = .ok plain ∧
    plain.mapM (fun row => q.computed.foldlM ComputedPlan.extend row) = .ok rows :=
  Outcome.bind_eq_ok

section Sorted
variable (sorted : Computed.Sorted computed q.computed)
include sorted

/-- The rows of a plan have the values of the computed metrics, and nothing else is changed. -/
theorem finish_evaluated (run : q.finish results = .ok rows) :
    ∃ plain, q.rows results = .ok plain ∧
      List.Forall₂ (Computed.Evaluated computed) plain rows := by
  obtain ⟨plain, found, evaluated⟩ := finish_eq_ok.mp run
  exact ⟨plain, found, (Outcome.mapM_ok evaluated).imp fun row row' run => sorted.evaluated run⟩

/-- A plan comes to rows when every computed metric has a value on every row. -/
theorem finishes_iff : (∃ rows, q.finish results = .ok rows) ↔ ∃ plain,
    q.rows results = .ok plain ∧ ∀ row ∈ plain, ∀ m ∈ computed,
      ∃ v, Computed.valueOf computed row (computed.length + 1) m.aliasName = .ok v := by
  have each : ∀ plain : List Row, (∀ row ∈ plain, ∀ m ∈ computed,
      ∃ v, Computed.valueOf computed row (computed.length + 1) m.aliasName = .ok v) ↔
        ∃ rows, plain.mapM (fun row => q.computed.foldlM ComputedPlan.extend row) = .ok rows := by
    intro plain
    rw [Outcome.exists_mapM_ok]
    exact forall₂_congr fun row _ => sorted.evaluates_iff.symm
  simp only [finish_eq_ok, each]
  constructor
  · rintro ⟨rows, plain, found, run⟩
    exact ⟨plain, found, rows, run⟩
  · rintro ⟨plain, found, rows, run⟩
    exact ⟨rows, plain, found, run⟩

end Sorted

end QueryPlan

namespace Planner
variable {p : Planner} {metrics metrics' : List RequestedMetric} {dimensions : List Dimension}
  {r : Resolved} {q q' : QueryPlan} {pairs : List (MetricSource × Aggregation)}

def withComputed (plans : List ComputedPlan) (q : QueryPlan) : QueryPlan :=
  { q with computed := plans }

theorem nativePlan_computed (driver : Driver) (r : Resolved) (dimensions : List Dimension)
    (plans : List ComputedPlan) :
    p.nativePlan driver { r with computed := plans } dimensions =
      withComputed plans <$> p.nativePlan driver r dimensions := by
  simp only [nativePlan, map_bind, map_pure, withComputed, Resolved.participants,
    Resolved.dimensionAliases]

theorem softwarePlan_computed (r : Resolved) (dimensions : List Dimension)
    (plans : List ComputedPlan) :
    p.softwarePlan { r with computed := plans } dimensions =
      withComputed plans <$> p.softwarePlan r dimensions := by
  simp only [softwarePlan, map_bind, map_pure, withComputed, Resolved.participants,
    Resolved.dimensionAliases, tableQuery]

/-- Computed metrics take no part in how the rest is planned. -/
theorem plan_withComputed {plans : List ComputedPlan}
    (resolved : p.resolve metrics dimensions = .ok r)
    (resolved' : p.resolve metrics' dimensions = .ok { r with computed := plans }) :
    p.plan metrics' dimensions = withComputed plans <$> p.plan metrics dimensions := by
  rw [plan, plan, resolved, resolved']
  change p.nativeDriver? r.participants.values >>= _ =
    withComputed plans <$> (p.nativeDriver? r.participants.values >>= _)
  rw [map_bind]
  refine congrArg _ (funext fun driver => ?_)
  cases driver with
  | some driver => exact nativePlan_computed driver r dimensions plans
  | none => exact softwarePlan_computed r dimensions plans

/-- What is read off the other metrics is the same for both requests. -/
theorem filterMap_reordered {α : Type} (reordered : Reordered metrics metrics')
    {f : RequestedMetric → Option α} (skips : ∀ m, f (.computed m) = none) :
    metrics.filterMap f = metrics'.filterMap f := by
  have others : ∀ metrics : List RequestedMetric,
      metrics.filterMap f = (metrics.filter (!·.isComputed)).filterMap f := by
    intro metrics
    rw [List.filterMap_filter]
    refine congrArg (metrics.filterMap ·) (funext fun m => ?_)
    cases m with
    | computed m => exact skips m
    | _ => rfl
  rw [others metrics, others metrics', reordered.others]

theorem aggregation_of_asked (asked : metrics.filterMap p.source? = pairs.map .ok)
    {pair : MetricSource × Aggregation} (member : pair ∈ pairs) :
    pair.2 ∈ aggregationsOf metrics := by
  obtain ⟨m, requested, found⟩ := exists_source asked member
  refine List.mem_filterMap.mpr ⟨m, requested, ?_⟩
  cases m with
  | aggregation a =>
      simp only [source?, Option.some.injEq, Outcome.bind_eq_ok, Outcome.pure_eq_ok] at found
      obtain ⟨_, -, rfl⟩ := found
      rfl
  | sourced source a =>
      rw [source?, Option.some.injEq, Except.ok.injEq] at found
      rw [← found]
  | computed m => cases found

section Asked
variable (asked : metrics.filterMap p.source? = pairs.map .ok)
  (texts : ∀ a ∈ aggregationsOf metrics, ∃ name, a.aliasName = .text name)
include asked texts

theorem texts_of_asked : ∀ pair ∈ pairs, ∃ name, pair.2.aliasName = .text name :=
  fun pair member => texts pair.2 (aggregation_of_asked asked member)

/-- What is told apart from the aggregations of a request is told apart from its sources. -/
theorem toldApart_of_asked
    (told : ToldApart (computedOf metrics) ((aggregationsOf metrics).map (·.aliasName))) :
    ToldApart (computedOf metrics) (sourcesOf pairs).keys := by
  refine toldApart_sourcesOf (texts_of_asked asked texts)
    ⟨told.text, told.texts, told.distinct, fun m member known => ?_⟩
  obtain ⟨pair, listed, same⟩ := List.mem_map.mp known
  exact told.apart m member (same ▸ List.mem_map_of_mem (aggregation_of_asked asked listed))

end Asked

section Reordered
variable (reordered : Reordered metrics metrics')
  (texts : ∀ a ∈ aggregationsOf metrics, ∃ name, a.aliasName = .text name)
  (told : ToldApart (computedOf metrics) ((aggregationsOf metrics).map (·.aliasName)))
include reordered texts told

theorem plan_rearranged (planned : p.plan metrics dimensions = .ok q) :
    Computed.Sorted (computedOf metrics) q.computed ∧
      ∃ q', p.plan metrics' dimensions = .ok q' ∧ q.Rearranged q' := by
  obtain ⟨r, resolved, computed, -⟩ := plan_computed planned
  obtain ⟨first, rest, asked, -⟩ := resolve_ok resolved
  have names := texts_of_asked asked texts
  have told := toldApart_of_asked asked texts told
  have filled : first :: rest ≠ [] := List.cons_ne_nil first rest
  have distinct := nodup_keys_sourcesOf names
  have sources := texts_sourcesOf names
  have found := resolved
  rw [resolve_asked names asked filled] at found
  simp only [Outcome.bind_eq_ok, Outcome.pure_eq_ok] at found
  obtain ⟨plans, run, bound, binds, whole⟩ := found
  obtain ⟨plans', run', moved⟩ := planComputed_perm told sources distinct reordered.moved run
  have resolved' : p.resolve metrics' dimensions = .ok { r with computed := plans' } := by
    have asked' := (filterMap_reordered reordered fun _ => rfl).symm.trans asked
    rw [resolve_asked names asked' filled, ← whole]
    exact Outcome.bind_eq_ok.mpr ⟨plans', run', Outcome.bind_eq_ok.mpr ⟨bound, binds, rfl⟩⟩
  have listed : q.computed = plans := by rw [computed, ← whole]
  rw [← listed] at run moved
  have sorted := planComputed_sorted told sources distinct run
  refine ⟨sorted, withComputed plans' q, ?_, rfl, moved, fun c inside c' inside' same => ?_⟩
  · rw [plan_withComputed resolved resolved', planned]
    rfl
  · exact sorted.unique inside (moved.mem_iff.mpr inside') same

/-- Requests that differ in the places of computed metrics only are planned alike and come to the
same rows, in which every computed metric has its value with its dependencies evaluated first. -/
theorem plan_reordered :
    ((∃ q, p.plan metrics dimensions = .ok q) ↔ ∃ q', p.plan metrics' dimensions = .ok q') ∧
    ∀ q q', p.plan metrics dimensions = .ok q → p.plan metrics' dimensions = .ok q' →
      q.Rearranged q' ∧ ∀ results,
        ((∃ rows, q.finish results = .ok rows) ↔ ∃ rows', q'.finish results = .ok rows') ∧
        ∀ rows rows', q.finish results = .ok rows → q'.finish results = .ok rows' →
          List.Forall₂ (fun row row' => ∀ key, row.get? key = row'.get? key) rows rows' ∧
          ∃ plain, q.rows results = .ok plain ∧
            List.Forall₂ (Computed.Evaluated (computedOf metrics)) plain rows := by
  have same : aggregationsOf metrics = aggregationsOf metrics' :=
    filterMap_reordered reordered fun _ => rfl
  have back : ∀ q', p.plan metrics' dimensions = .ok q' →
      Computed.Sorted (computedOf metrics') q'.computed ∧
        ∃ q, p.plan metrics dimensions = .ok q ∧ q'.Rearranged q :=
    fun q' => plan_rearranged reordered.symm (same ▸ texts) (same ▸ told.perm reordered.moved)
  constructor
  · constructor
    · rintro ⟨q, planned⟩
      obtain ⟨-, q', planned', -⟩ := plan_rearranged reordered texts told planned
      exact ⟨q', planned'⟩
    · rintro ⟨q', planned'⟩
      obtain ⟨-, q, planned, -⟩ := back q' planned'
      exact ⟨q, planned⟩
  · intro q q' planned planned'
    obtain ⟨sorted, q'', planned'', rearranged⟩ := plan_rearranged reordered texts told planned
    obtain rfl := Except.ok.inj (planned'.symm.trans planned'')
    have sorted' := (back q' planned').1.moved reordered.moved.symm
    have rows : ∀ results, q'.rows results = q.rows results := by
      intro results
      rw [rearranged.others]
      rfl
    refine ⟨rearranged, fun results => ⟨?_, fun found found' run run' => ?_⟩⟩
    · rw [QueryPlan.finishes_iff sorted, QueryPlan.finishes_iff sorted', rows]
    · obtain ⟨plain, plainly, evaluated⟩ := QueryPlan.finish_evaluated sorted run
      obtain ⟨plain', plainly', evaluated'⟩ := QueryPlan.finish_evaluated sorted' run'
      rw [rows, plainly] at plainly'
      obtain rfl := Except.ok.inj plainly'
      refine ⟨forall₂_of_common evaluated evaluated' fun here here' => ?_, plain, plainly,
        evaluated⟩
      exact here.unique here'

end Reordered

theorem shop_reorders_targets : ∃ q q',
    shop.plan (revenue ++ targets.map .computed) [] = .ok q ∧
    shop.plan (targets.reverse.map .computed ++ revenue) [] = .ok q' ∧
    q.computed ≠ [] ∧ q.Rearranged q' := by
  have built : (shop.plan (revenue ++ targets.map .computed) []).toOption.any
      (!·.computed.isEmpty) := by decide +kernel
  obtain ⟨q, planned, some⟩ := Outcome.any_ok built
  have reordered : Reordered (revenue ++ targets.map .computed)
      (targets.reverse.map .computed ++ revenue) := ⟨rfl, .swap _ _ []⟩
  have names : ∀ a ∈ aggregationsOf (revenue ++ targets.map .computed),
      ∃ name, a.aliasName = .text name := by
    simp [revenue, targets, aggregationsOf, Aggregation.aliasName, Value.orElse, Value.isTrue]
  obtain ⟨q', planned'⟩ := (plan_reordered reordered names targets_apart).1.mp ⟨q, planned⟩
  exact ⟨q, q', planned, planned', by simpa using some,
    ((plan_reordered reordered names targets_apart).2 q q' planned planned').1⟩

end Planner
end Datacube
