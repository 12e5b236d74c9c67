import Datacube.Proofs.Plan.Layout
import Datacube.Proofs.Plan.Merging

/-!
# What merging reads

Merging and grouping read the results of the table queries by the names and aliases that the plan
gives. Every one of them is there: relations go between planned tables that select their keys, each
dimension is selected by the query of its table, and each metric by the query of its source and no
other, under the aliases that its rollup reads.
-/

namespace Datacube

variable {p : Planner} {metrics : List RequestedMetric} {dimensions : List Dimension} {r : Resolved}
  {tables : Entries String Table} {k : MergeKeys} {plans : Entries Value TablePlan}

/-! ## Metrics of a request -/

/-- A request asks for an aggregation, with or without a source. -/
def Asks (metrics : List RequestedMetric) (a : Aggregation) : Prop :=
  .aggregation a ∈ metrics ∨ ∃ source, .sourced source a ∈ metrics

/-- The aggregations stand under their aliases, and each has a source. -/
structure Resolved.Measured (r : Resolved) : Prop where
  distinct : r.aggregations.keys.Nodup
  named : ∀ e ∈ r.aggregations, e.1 = e.2.aliasName ∧ ∃ name, e.1 = .text name
  sourced : ∀ e ∈ r.aggregations, ∃ source, r.sources.get? e.1 = some source

namespace Planner

theorem source?_asks {m : RequestedMetric} {pair : MetricSource × Aggregation}
    (member : m ∈ metrics) (found : p.source? m = some (.ok pair)) : Asks metrics pair.2 := by
  cases m with
  | aggregation a =>
      simp only [source?, Option.some.injEq, Outcome.bind_eq_ok, Outcome.pure_eq_ok] at found
      obtain ⟨source, -, rfl⟩ := found
      exact .inl member
  | sourced source a =>
      rw [source?, Option.some.injEq, Except.ok.injEq] at found
      subst found
      exact .inr ⟨source, member⟩
  | computed m => cases found

theorem resolve_measured (texts : ∀ a, Asks metrics a → ∃ name, a.aliasName = .text name)
    (resolved : p.resolve metrics dimensions = .ok r) : r.Measured := by
  obtain ⟨first, rest, asked, -, sources, aggregations, -, -⟩ := resolve_ok resolved
  have named : ∀ pair ∈ first :: rest, ∃ name, pair.2.aliasName = .text name := by
    intro pair member
    obtain ⟨m, listed, found⟩ := exists_source asked member
    exact texts pair.2 (source?_asks listed found)
  have exact : ∀ {α : Type} (f : MetricSource × Aggregation → α),
      ∀ pair ∈ (first :: rest).map fun pair => (pair.2.aliasName, f pair),
        Entries.Exact pair.1 := by
    intro α f pair member
    obtain ⟨origin, listed, rfl⟩ := List.mem_map.mp member
    obtain ⟨name, text⟩ := named origin listed
    rw [text]
    exact Entries.exact_text name
  have requested : ∀ e ∈ r.aggregations, ∃ pair ∈ first :: rest,
      e = (pair.2.aliasName, pair.2) := by
    intro e member
    rw [aggregations] at member
    obtain ⟨pair, listed, same⟩ := List.mem_map.mp (Entries.mem_ofPairs (exact (·.2)) member)
    exact ⟨pair, listed, same.symm⟩
  refine ⟨?_, ?_, ?_⟩
  · rw [aggregations]
    exact Entries.nodup_keys_ofPairs (exact (·.2))
  · intro e member
    obtain ⟨pair, listed, rfl⟩ := requested e member
    exact ⟨rfl, named pair listed⟩
  · intro e member
    obtain ⟨pair, listed, rfl⟩ := requested e member
    obtain ⟨name, text⟩ := named pair listed
    have known : pair.2.aliasName ∈ r.sources.keys := by
      rw [sources, Entries.mem_keys_ofPairs (exact (·.1)), List.map_map]
      exact List.mem_map.mpr ⟨pair, listed, rfl⟩
    rw [← Option.isSome_iff_exists]
    exact (Entries.isSome_get? (text ▸ Entries.exact_text name)).mpr known

theorem rollup_assemble {filters : Value} (measured : r.Measured)
    (rolls : checkRollups r.aggregations = .ok ()) {e : Value × Aggregation}
    (member : e ∈ r.aggregations) :
    e.2.rollup? = some ((assemble r tables k plans filters).rollup e.1) := by
  have checked := Outcome.forM_ok rolls e member
  cases rollup : e.2.rollup? with
  | none => simp [rollup, refuse] at checked
  | some rollup' =>
      obtain ⟨-, name, text⟩ := measured.named e member
      have listed : (e.1, rollup') ∈ (assemble r tables k plans filters).rollups :=
        List.mem_filterMap.mpr ⟨e, member, by rw [rollup]; rfl⟩
      have distinct : (assemble r tables k plans filters).rollups.keys.Nodup :=
        measured.distinct.sublist (Entries.keys_filterMap r.aggregations (·.rollup?))
      rw [MergePlan.rollup, Entries.get?_of_mem (text ▸ Entries.exact_text name) distinct listed,
        Option.getD_some]

theorem dimensionFilters_ok {bound : List BoundDimension} {filters : Value}
    (texts : ∀ d ∈ bound, ∃ name, d.aliasName = .text name)
    (filtered : dimensionFilters bound = .ok filters) :
    ∃ fields, filters = .object fields ∧ ∀ key ∈ Entries.keys fields,
      key ∈ bound.map (·.aliasName) := by
  simp only [dimensionFilters, Outcome.bind_eq_ok, Outcome.pure_eq_ok] at filtered
  obtain ⟨pairs, run, rfl⟩ := filtered
  have origin : ∀ pair ∈ pairs, ∃ d ∈ bound, pair.1 = d.aliasName := by
    intro pair member
    obtain ⟨d, listed, written⟩ := exists_of_mem_right (Outcome.mapM_ok run) member
    simp only [Outcome.bind_eq_ok] at written
    obtain ⟨fields, -, written⟩ := written
    split at written
    · rw [← Outcome.pure_eq_ok.mp written]
      exact ⟨d, (List.mem_filter.mp listed).1, rfl⟩
    · cases written
  refine ⟨_, rfl, ?_⟩
  intro key member
  rw [Entries.mem_keys_ofPairs] at member
  · obtain ⟨pair, listed, rfl⟩ := List.mem_map.mp member
    obtain ⟨d, inside, same⟩ := origin pair listed
    exact List.mem_map.mpr ⟨d, inside, same.symm⟩
  · intro pair listed
    obtain ⟨d, inside, same⟩ := origin pair listed
    obtain ⟨name, text⟩ := texts d inside
    rw [same, text]
    exact Entries.exact_text name

/-! ## Plans of tables -/

theorem tables_of_planned {items : Entries String Table}
    (planned : List.Forall₂ (Planned p r k tables) items plans) :
    plans.values.map (·.table) = items.values := by
  induction planned with
  | nil => rfl
  | cons here _ ih => simpa [Entries.values, here.table] using ih

end Planner

/-! ## Complete plans -/

/-- A software plan has everything that merging its results and grouping them reads. -/
structure SoftwarePlan.Complete (sp : SoftwarePlan) (p : Planner) (r : Resolved)
    (tables : Entries String Table) : Prop where
  -- Every table has one plan, under a name of its own, and no participant is lost.
  distinct : sp.tables.keys.Nodup
  planned : sp.tables.values.map (·.table) = tables.values
  kept : r.participants <+: tables
  -- The primary table is the only primary one.
  primary : ∃ plan, sp.tables.get? sp.primary = some plan ∧ plan.table = r.primary ∧
    plan.isPrimary = true
  single : ∀ e ∈ sp.tables, e.2.isPrimary = true → e.1 = sp.primary
  -- Relations go between planned tables, which select their keys unless there are none.
  related : ∀ relation ∈ sp.relations, ∃ source target,
    sp.tables.get? relation.source = some source ∧
    sp.tables.get? relation.target = some target ∧
    (relation.sourceAlias = "" ∧ relation.targetAlias = "" ∨
      source.query.SelectsKey source.table relation.sourceAlias ∧
        target.query.SelectsKey target.table relation.targetAlias)
  -- Every dimension is selected from the table that it was resolved to.
  dimensions : sp.dimensions = r.dimensions.map (·.aliasName)
  grouped : ∀ d ∈ r.dimensions, ∃ plan ∈ sp.tables.values, plan.table = d.table ∧
    plan.query.SelectsKey d.table d.aliasName
  -- Every metric is selected from its source and from no other table, under the aliases that its
  -- rollup reads.
  metrics : sp.metrics = r.aggregations.keys
  measured : ∀ e ∈ r.aggregations, ∃ source, r.sources.get? e.1 = some source ∧
    ∃ plan ∈ sp.tables.values, plan.table.identifier = source.table.identifier ∧
      (source.table ∈ p.registry.all → plan.table = source.table) ∧
      (∀ aliasName ∈ (sp.rollup e.1).partials e.1, plan.query.SelectsResult aliasName) ∧
      ∀ plan' ∈ sp.tables.values,
        e ∈ Planner.metricsOf r plan'.table.identifier → plan'.table = plan.table
  reads : ∀ e ∈ r.aggregations, ∀ rows rows' : List Row,
    (∀ column ∈ (sp.rollup e.1).partials e.1,
      rows.map (·.cell column) = rows'.map (·.cell column)) →
    (sp.rollup e.1).combine e.1 rows = (sp.rollup e.1).combine e.1 rows'
  -- The queries select nothing else, and group by what is no metric.
  laidOut : ∀ plan ∈ sp.tables.values, ∃ aliases, plan.query.LaidOut p.renderings plan.table aliases
    ((Planner.metricsOf r plan.table.identifier).flatMap fun e => Planner.partials e.2)
  -- Filters are on dimensions of the result.
  filtered : ∃ fields, sp.filters = .object fields ∧ ∀ key ∈ Entries.keys fields,
    key ∈ sp.dimensions

namespace Planner
variable {schema : Schema} {joins : JoinGraph} {filters : Value} {q : QueryPlan}
  {sp : SoftwarePlan}

/-- The plan of a table: found under the name of the table, with a query that selects the keys of
the table and the partial results of its metrics. -/
structure Found (p : Planner) (r : Resolved) (tables : Entries String Table) (k : MergeKeys)
    (plans : Entries Value TablePlan) (e : String × Table) (plan : TablePlan) : Prop where
  found : plans.get? (nameAmong tables e.1) = some plan
  member : plan ∈ plans.values
  table : plan.table = e.2
  identifier : e.2.identifier = e.1
  primary : plan.isPrimary = (e.1 == r.primary.identifier)
  laidOut : plan.query.LaidOut p.renderings plan.table (keyAliases r k e.1)
    ((metricsOf r e.1).flatMap fun e => partials e.2)

section Assembled
variable (indexed : p.registry.Indexed) (sound : r.Sound p.registry dimensions)
  (assembled : Assembled p r dimensions schema joins tables k plans filters)
include indexed sound assembled

theorem Assembled.found_of_planned {e : String × Table} {plan : Value × TablePlan}
    (member : e ∈ tables) (listed : plan ∈ plans) (here : Planned p r k tables e plan) :
    Found p r tables k plans e plan.2 := by
  obtain ⟨tabled, start, -⟩ := assembled.tabled indexed sound
  obtain ⟨s, text⟩ := nameAmong_text tabled (List.mem_map_of_mem member)
  refine ⟨?_, List.mem_map_of_mem listed, here.table, (tabled.keyed e member).symm, here.primary,
    ?_⟩
  · exact Entries.get?_of_mem (text ▸ Entries.exact_text s) (assembled.plans_nodup tabled)
      (here.name ▸ listed)
  · rw [here.table]
    apply tableQuery_ok _ _ here.query
    · intro d bound same
      have within := List.map_subset _ start.subset (sound.participants.2.2.2 d bound)
      exact tabled.distinct within (List.mem_map_of_mem member)
        (same.trans (tabled.keyed e member))
    · exact keys_owned tabled assembled.keyed e.1 e.2
        (Entries.get?_of_mem (Entries.exact_of_lawful _) tabled.nodup member)

theorem Assembled.found {e : String × Table} (member : e ∈ tables) :
    ∃ plan, Found p r tables k plans e plan := by
  have planned := assembled.plans_ok (assembled.tabled indexed sound).1
  obtain ⟨plan, listed, here⟩ := exists_of_mem_left planned member
  exact ⟨plan.2, assembled.found_of_planned indexed sound member listed here⟩

theorem Assembled.found_of_mem {plan : Value × TablePlan} (listed : plan ∈ plans) :
    ∃ e ∈ tables, plan.1 = nameAmong tables e.1 ∧ Found p r tables k plans e plan.2 := by
  have planned := assembled.plans_ok (assembled.tabled indexed sound).1
  obtain ⟨e, member, here⟩ := exists_of_mem_right planned listed
  exact ⟨e, member, here.name, assembled.found_of_planned indexed sound member listed here⟩

theorem Assembled.related (texts : ∀ d ∈ r.dimensions, ∃ name, d.aliasName = .text name)
    {relation : JoinRelation} (member : relation ∈ k.relations) :
    ∃ source target, plans.get? relation.source = some source ∧
      plans.get? relation.target = some target ∧
      (relation.sourceAlias = "" ∧ relation.targetAlias = "" ∨
        source.query.SelectsKey source.table relation.sourceAlias ∧
          target.query.SelectsKey target.table relation.targetAlias) := by
  obtain ⟨tabled, -, same⟩ := assembled.tabled indexed sound
  have tree := (assembled.tree indexed sound).1
  have follow := relations_along tabled texts assembled.keyed
  obtain ⟨s, listed, along⟩ := exists_of_mem_right follow member
  have atSource : s.sourceId ∈ tables.keys := same.mem_iff.mpr (tree.source_mem listed)
  have atTarget : s.targetId ∈ tables.keys :=
    same.mem_iff.mpr (List.mem_cons_of_mem _ (List.mem_map_of_mem listed))
  obtain ⟨e, inside, source⟩ := List.mem_map.mp atSource
  obtain ⟨e', inside', target⟩ := List.mem_map.mp atTarget
  obtain ⟨plan, here⟩ := assembled.found indexed sound inside
  obtain ⟨plan', there⟩ := assembled.found indexed sound inside'
  refine ⟨plan, plan', ?_, ?_, ?_⟩
  · rw [along.source, ← source]
    exact here.found
  · rw [along.target, ← target]
    exact there.found
  · refine along.keys.imp_right fun ⟨yields, yields'⟩ => ?_
    rw [← source] at yields
    rw [← target] at yields'
    exact ⟨here.laidOut.selectsKey (mem_keyAliases.mpr yields),
      there.laidOut.selectsKey (mem_keyAliases.mpr yields')⟩

theorem Assembled.grouped {d : BoundDimension} (requested : d ∈ r.dimensions) :
    ∃ plan ∈ plans.values, plan.table = d.table ∧
      plan.query.SelectsKey d.table d.aliasName := by
  obtain ⟨tabled, start, -⟩ := assembled.tabled indexed sound
  have within := List.map_subset _ start.subset (sound.participants.2.2.2 d requested)
  obtain ⟨e, inside, same⟩ := List.mem_map.mp within
  obtain ⟨plan, here⟩ := assembled.found indexed sound inside
  have table : plan.table = d.table := here.table.trans same
  refine ⟨plan, here.member, table, ?_⟩
  rw [← table]
  apply here.laidOut.selectsKey
  rw [mem_keyAliases]
  exact .inr (.inr ⟨d, requested, by rw [← here.identifier, same], rfl⟩)

theorem Assembled.measured (writes : p.renderings.writeAliases = true) (measured : r.Measured)
    {e : Value × Aggregation} (member : e ∈ r.aggregations) :
    ∃ source, r.sources.get? e.1 = some source ∧
      ∃ plan ∈ plans.values, plan.table.identifier = source.table.identifier ∧
        (source.table ∈ p.registry.all → plan.table = source.table) ∧
        (∀ aliasName ∈ ((assemble r tables k plans filters).rollup e.1).partials e.1,
          plan.query.SelectsResult aliasName) ∧
        ∀ plan' ∈ plans.values,
          e ∈ metricsOf r plan'.table.identifier → plan'.table = plan.table := by
  obtain ⟨tabled, start, -⟩ := assembled.tabled indexed sound
  obtain ⟨source, from'⟩ := measured.sourced e member
  have requested := sound.sources source (Entries.mem_values_of_get? from')
  have known : source.table.identifier ∈ tables.keys :=
    List.map_subset _ (sound.participants.2.2.1.trans start).subset requested
  obtain ⟨t, inside, same⟩ := List.mem_map.mp known
  obtain ⟨plan, here⟩ := assembled.found indexed sound inside
  have identifier : plan.table.identifier = source.table.identifier := by
    rw [here.table, here.identifier, same]
  refine ⟨source, from', plan, here.member, identifier, ?_, ?_, ?_⟩
  · intro registered
    rw [here.table]
    refine ((tabled.admitted t inside).unique source.table registered ?_).symm
    rw [here.identifier, same]
  · -- What the rollup reads are the aliases of the partial results.
    intro aliasName reads
    obtain ⟨named, -⟩ := measured.named e member
    have rolls : e.2.rollup? = some ((assemble r tables k plans filters).rollup e.1) :=
      rollup_assemble measured assembled.rollups member
    rw [named, ← partials_aliases (named ▸ rolls)] at reads
    obtain ⟨a, listed, rfl⟩ := List.mem_map.mp reads
    apply here.laidOut.selectsResult writes
    refine List.mem_flatMap.mpr ⟨e, List.mem_filter.mpr ⟨member, ?_⟩, listed⟩
    simp [from', same]
  · intro plan' listed selects
    obtain ⟨entry, planned, rfl⟩ := List.mem_map.mp listed
    obtain ⟨e', inside', -, there⟩ := assembled.found_of_mem indexed sound planned
    have owner := (List.mem_filter.mp selects).2
    simp only [from', Option.any_some, beq_iff_eq] at owner
    refine tabled.distinct ?_ ?_ (owner.symm.trans identifier.symm)
    · rw [there.table]
      exact List.mem_map_of_mem inside'
    · rw [here.table]
      exact List.mem_map_of_mem inside

theorem Assembled.complete (writes : p.renderings.writeAliases = true) (measured : r.Measured)
    (texts : ∀ d ∈ r.dimensions, ∃ name, d.aliasName = .text name) :
    (assemble r tables k plans filters).Complete p r tables := by
  obtain ⟨tabled, start, -⟩ := assembled.tabled indexed sound
  have planned := assembled.plans_ok tabled
  constructor
  case distinct => exact assembled.plans_nodup tabled
  case planned => exact tables_of_planned planned
  case kept => exact start
  case primary =>
      obtain ⟨rest, starts⟩ := sound.participants.2.1
      have root : (r.primary.identifier, r.primary) ∈ tables :=
        start.subset (starts ▸ List.mem_cons_self)
      obtain ⟨plan, here⟩ := assembled.found indexed sound root
      exact ⟨plan, here.found, here.table, by simp [here.primary]⟩
  case single =>
      intro e listed isPrimary
      obtain ⟨t, -, name, here⟩ := assembled.found_of_mem indexed sound listed
      rw [here.primary, beq_iff_eq] at isPrimary
      rw [name, isPrimary]
      rfl
  case related => exact fun _ member => assembled.related indexed sound texts member
  case dimensions => rfl
  case grouped => exact fun _ requested => assembled.grouped indexed sound requested
  case metrics => rfl
  case measured => exact fun _ member => assembled.measured indexed sound writes measured member
  case reads => exact fun _ _ _ _ same => Rollup.combine_congr same
  case laidOut =>
      intro plan listed
      obtain ⟨entry, stands, rfl⟩ := List.mem_map.mp listed
      obtain ⟨e, -, -, here⟩ := assembled.found_of_mem indexed sound stands
      refine ⟨keyAliases r k e.1, ?_⟩
      rw [here.table, here.identifier, ← here.table]
      exact here.laidOut
  case filtered => exact dimensionFilters_ok texts assembled.filtered

end Assembled

end Planner
end Datacube
