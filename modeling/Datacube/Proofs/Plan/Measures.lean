import Datacube.Proofs.Metric.Alias
import Datacube.Proofs.Plan.Binding

/-!
# The aggregations of a plan

A plan keeps aggregations under their aliases, of which the last one counts. Aggregations without
aliases of their own are all kept, each with its source and selected by a query, exactly when no two
of them come to one default alias.
-/

namespace Datacube

def Query.SelectsMetric (q : Query) (renderings : Renderings) (a : Aggregation) : Prop :=
  ∃ text, renderings.render a q.driver.dialect = .ok text ∧ .selectRaw (.text text) ∈ q.steps

/-- The plan has an aggregation under its alias, bound to a source. The one query of a native plan
selects it, and the query of its table in a software plan selects its partial results. -/
structure QueryPlan.Keeps (q : QueryPlan) (renderings : Renderings) (source : MetricSource)
    (a : Aggregation) : Prop where
  kept : q.aggregations.get? a.aliasName = some a
  bound : q.sources.get? a.aliasName = some source
  selected : match q.joinPlan with
    | .software sp => ∃ plan ∈ sp.tables.values,
      plan.table.identifier = source.table.identifier ∧
        ∀ part ∈ Planner.partials a, plan.query.SelectsMetric renderings part
    | _ => ∃ query, q.query = some query ∧ query.SelectsMetric renderings a

namespace Query
variable {q q' : Query} {P : QueryStep → Prop} {renderings : Renderings} {a : Aggregation}

theorem SelectsMetric.adds (selects : q.SelectsMetric renderings a) (adds : q.Adds P q') :
    q'.SelectsMetric renderings a := by
  obtain ⟨text, rendered, inside⟩ := selects
  exact ⟨text, adds.driver ▸ rendered, adds.subset inside⟩

theorem selectMetric_selects (selected : q.selectMetric renderings a = .ok q') :
    q'.SelectsMetric renderings a := by
  obtain ⟨text, rendered, rfl⟩ := selectMetric_ok selected
  exact ⟨text, rendered, by simp [extend]⟩

theorem selectMetrics_selects {aggregations : List Aggregation}
    (run : aggregations.foldlM (·.selectMetric renderings ·) q = .ok q') :
    ∀ a ∈ aggregations, q'.SelectsMetric renderings a := by
  intro a member
  obtain ⟨before, after, -, selected, later⟩ :=
    foldlM_at (fun _ _ _ _ => selectMetric_adds) run member
  exact (selectMetric_selects selected).adds later

end Query

namespace Planner
open PathFinder (belonging)

variable {p : Planner} {metrics : List RequestedMetric} {dimensions : List Dimension}
  {r : Resolved} {q : QueryPlan} {sp : SoftwarePlan} {k : MergeKeys} {identifier : String}
  {t : Table} {driver : Driver}

/-! ## Selecting -/

theorem nativePlan_measures (planned : p.nativePlan driver r dimensions = .ok q) :
    q.aggregations = r.aggregations ∧ q.sources = r.sources ∧
      ∃ (joins : JoinGraph) (query : Query), q.query = some query ∧
        q.joinPlan = (if joins.isEmpty then .empty else .database joins) ∧
        ∀ a ∈ r.aggregations.values, query.SelectsMetric p.renderings a := by
  simp only [nativePlan, Outcome.bind_eq_ok, Outcome.pure_eq_ok] at planned
  obtain ⟨_, -, joins, -, _, -, _, -, _, -, _, -, query, measured, rfl⟩ := planned
  exact ⟨rfl, rfl, joins, query, rfl, rfl, Query.selectMetrics_selects measured⟩

theorem tableQuery_measures {query : Query} (queried : p.tableQuery r k identifier t = .ok query) :
    ∀ e ∈ metricsOf r identifier, ∀ part ∈ partials e.2, query.SelectsMetric p.renderings part := by
  simp only [tableQuery, Outcome.bind_eq_ok] at queried
  obtain ⟨_, -, _, -, _, -, _, -, _, -, metrics⟩ := queried
  rw [← Outcome.foldlM_flatMap] at metrics
  intro e member part listed
  exact Query.selectMetrics_selects metrics part (List.mem_flatMap.mpr ⟨e, member, listed⟩)

theorem softwarePlan_measures (planned : p.softwarePlan r dimensions = .ok q)
    (software : q.joinPlan = .software sp) (apart : NamedApart q.tables)
    {source : MetricSource} {e : Value × Aggregation} (member : e ∈ r.aggregations)
    (bound : r.sources.get? e.1 = some source)
    (known : (source.table.identifier, t) ∈ r.participants)
    (identified : t.identifier = source.table.identifier) :
    ∃ plan ∈ sp.tables.values, plan.table.identifier = source.table.identifier ∧
      ∀ part ∈ partials e.2, plan.query.SelectsMetric p.renderings part := by
  obtain ⟨schema, joins, k, filters, assembled, -⟩ := softwarePlan_ok planned software
  have planned := (prefix_pathTables assembled.passed).subset known
  obtain ⟨plan, inside, here⟩ := exists_of_mem_left (assembled.plans_apart apart) planned
  refine ⟨plan.2, List.mem_map_of_mem inside, ?_, ?_⟩
  · rw [here.table, identified]
  · refine tableQuery_measures here.query e (List.mem_filter.mpr ⟨member, ?_⟩)
    simp [bound]

theorem participant_of_source {pairs : List (MetricSource × Aggregation)}
    (gathered : r.metricTables = gather (·.1.table) [] pairs)
    {pair : MetricSource × Aggregation} (member : pair ∈ pairs) :
    ∃ t, (pair.1.table.identifier, t) ∈ r.participants ∧
      t.identifier = pair.1.table.identifier := by
  have known : pair.1.table.identifier ∈ r.metricTables.keys :=
    gathered ▸ mem_keys_gather member
  obtain ⟨e, listed, same⟩ := List.mem_map.mp known
  obtain ⟨pair', -, rfl⟩ := (mem_gather (gathered ▸ listed)).resolve_left List.not_mem_nil
  have start : r.metricTables <+: r.participants :=
    prefix_gather (fun d : BoundDimension => d.table) r.metricTables r.dimensions
  exact ⟨pair'.1.table, same ▸ start.subset listed, same⟩

/-! ## Keeping -/

section Keeping
variable {pairs : List (MetricSource × Aggregation)}
  (asked : metrics.filterMap p.source? = pairs.map .ok)
  (planned : p.plan metrics dimensions = .ok q)
  (apart : q.isSoftware = true → NamedApart q.tables)
include asked planned apart

/-- Aggregations with aliases of their own are all kept. -/
theorem plan_keeps (texts : ∀ pair ∈ pairs, ∃ name, pair.2.aliasName = .text name)
    (distinct : (pairs.map (·.2.aliasName)).Nodup) :
    ∀ pair ∈ pairs, q.Keeps p.renderings pair.1 pair.2 := by
  obtain ⟨r, resolved, built⟩ := plan_cases planned
  obtain ⟨first, rest, found, -, sources, aggregations, gathered, -⟩ := resolve_ok resolved
  obtain rfl : first :: rest = pairs :=
    List.map_injective_iff.mpr (fun _ _ same => Except.ok.inj same) (found.symm.trans asked)
  intro pair member
  have bound : r.sources.get? pair.2.aliasName = some pair.1 :=
    sources ▸ get?_aliases (·.1) texts distinct member
  have kept : r.aggregations.get? pair.2.aliasName = some pair.2 :=
    aggregations ▸ get?_aliases (·.2) texts distinct member
  obtain ⟨name, text⟩ := texts pair member
  rcases built with ⟨driver, native⟩ | software
  · obtain ⟨same, same', joins, query, answered, joined, selected⟩ := nativePlan_measures native
    refine ⟨same ▸ kept, same' ▸ bound, ?_⟩
    rw [joined]
    have selects := selected pair.2 (Entries.mem_values_of_get? kept)
    cases joins.isEmpty <;> exact ⟨query, answered, selects⟩
  · obtain ⟨sp, joined⟩ := softwarePlan_software software
    obtain ⟨_, _, _, _, -, -, same', same⟩ := softwarePlan_ok software joined
    have named : NamedApart q.tables := apart (by rw [QueryPlan.isSoftware, joined])
    refine ⟨same ▸ kept, same' ▸ bound, ?_⟩
    rw [joined]
    obtain ⟨t, known, identified⟩ := participant_of_source gathered member
    exact softwarePlan_measures software joined named
      (Entries.mem_of_get? (text ▸ Entries.exact_text name) kept) bound known identified

/-- Aggregations without aliases of their own that differ in kind, table or column are all kept
exactly when no two of them blur. -/
theorem plan_keeps_iff (unnamed : ∀ pair ∈ pairs, pair.2.explicitAlias.isTrue = false)
    (differ : pairs.Pairwise fun x y =>
      x.2.kind ≠ y.2.kind ∨ x.1.table ≠ y.1.table ∨ x.1.column ≠ y.1.column) :
    (∀ pair ∈ pairs, q.Keeps p.renderings pair.1 pair.2) ↔
      pairs.Pairwise fun x y => ¬ x.2.Blurs y.2 := by
  constructor
  · intro keeps
    refine differ.imp_of_mem fun {x y} member member' differ blurs => ?_
    -- Under one alias stands one source.
    have same := (Aggregation.aliasName_eq_iff (unnamed x member) (unnamed y member')).mpr blurs
    have bound := (keeps x member).bound
    rw [same, (keeps y member').bound, Option.some.injEq] at bound
    rw [bound] at differ
    exact differ.elim (· blurs.1) fun apart => apart.elim (· rfl) (· rfl)
  · intro clear
    refine plan_keeps asked planned apart ?_ ?_
    · intro pair member
      exact ⟨_, Aggregation.aliasName_default (unnamed pair member)⟩
    · rw [List.Nodup, List.pairwise_map]
      refine clear.imp_of_mem fun {x y} member member' clear same => clear ?_
      exact (Aggregation.aliasName_eq_iff (unnamed x member) (unnamed y member')).mp same

/-- Aggregations of different kinds or references are all kept where no name of a provider, a table
or a column holds a point, a colon or an underscore. -/
theorem plan_keeps_plain (unnamed : ∀ pair ∈ pairs, pair.2.explicitAlias.isTrue = false)
    (plain : ∀ pair ∈ pairs, Aggregation.Plain pair.2.reference.toList)
    (differ : pairs.Pairwise fun x y => x.2.kind ≠ y.2.kind ∨ x.2.reference ≠ y.2.reference) :
    ∀ pair ∈ pairs, q.Keeps p.renderings pair.1 pair.2 := by
  refine plan_keeps asked planned apart ?_ ?_
  · intro pair member
    exact ⟨_, Aggregation.aliasName_default (unnamed pair member)⟩
  · rw [List.Nodup, List.pairwise_map]
    refine differ.imp_of_mem fun {x y} member member' differ same => ?_
    have blurs := (Aggregation.aliasName_eq_iff (unnamed x member) (unnamed y member')).mp same
    obtain ⟨kinds, references⟩ := blurs.eq_of_plain (plain x member) (plain y member')
    exact differ.elim (· kinds) (· references)

end Keeping

/-- Orders of two providers, each summed up without an alias. -/
def amounts : List (MetricSource × Aggregation) :=
  [(⟨belonging "shop" "orders" [("customer", "customers")], "amount", .null⟩,
      ⟨.sum, "shop:orders.amount", .null, 0.5⟩),
    (⟨archive, "amount", .null⟩, ⟨.sum, "archive:orders.amount", .null, 0.5⟩)]

theorem shop_keeps_amounts : ∃ q, shop.plan (amounts.map (.aggregation ·.2)) [] = .ok q ∧
    ∀ pair ∈ amounts, q.Keeps shop.renderings pair.1 pair.2 := by
  have software : (shop.plan (amounts.map (.aggregation ·.2)) []).toOption.any fun q =>
      q.isSoftware && decide (NamedApart q.tables) := by decide +kernel
  obtain ⟨q, planned, apart⟩ := Outcome.any_ok software
  simp only [Bool.and_eq_true, decide_eq_true_eq] at apart
  have asked : (amounts.map (.aggregation ·.2)).filterMap shop.source? = amounts.map .ok := rfl
  refine ⟨q, planned, (plan_keeps_iff asked planned (fun _ => apart.2) ?_ ?_).mpr ?_⟩
  · simp [amounts, Value.isTrue]
  · exact List.pairwise_pair.mpr (.inr (.inl fun same =>
      absurd (congrArg Table.provider same) (by decide)))
  · exact List.pairwise_pair.mpr (by decide)

/-- Orders, and their items under a name that begins with that of the orders. -/
def store : Planner where
  registry := .ofSources [⟨"shop", .indexed, .null,
    [belonging "shop" "order_item" [("order", "order")], belonging "shop" "order" []]⟩]
  drivers := ⟨[], some ⟨"main", "main", .sqlite, .relational, .bool true, .bool true⟩⟩
  renderings := .builtin
  joinType := "left"

/-- The total of the items, and the total that the orders have of them. -/
def totals : List (MetricSource × Aggregation) :=
  [(⟨belonging "shop" "order_item" [("order", "order")], "total", .null⟩,
      ⟨.sum, "order_item.total", .null, 0.5⟩),
    (⟨belonging "shop" "order" [], "item_total", .null⟩, ⟨.sum, "order.item_total", .null, 0.5⟩)]

/-- Both totals come to the alias `sum_order_item_total`, and that of the items is not in the plan,
whose tables are those of both. -/
theorem store_loses_total :
    (totals.map (.aggregation ·.2)).filterMap store.source? = totals.map .ok ∧
    (∀ pair ∈ totals, pair.2.explicitAlias.isTrue = false) ∧
    (totals.Pairwise fun x y =>
      x.2.kind ≠ y.2.kind ∨ x.1.table ≠ y.1.table ∨ x.1.column ≠ y.1.column) ∧
    ∃ q, store.plan (totals.map (.aggregation ·.2)) [] = .ok q ∧
      q.tables.keys = ["shop:order_item", "shop:order"] ∧
      ¬ ∀ pair ∈ totals, q.Keeps store.renderings pair.1 pair.2 := by
  refine ⟨rfl, by simp [totals, Value.isTrue], List.pairwise_pair.mpr (.inr (.inr (by decide))), ?_⟩
  have lost : (store.plan (totals.map (.aggregation ·.2)) []).toOption.any fun q =>
      q.tables.keys == ["shop:order_item", "shop:order"] &&
        q.aggregations.values.all (·.reference == "order.item_total") := by decide +kernel
  obtain ⟨q, planned, checked⟩ := Outcome.any_ok lost
  simp only [Bool.and_eq_true, beq_iff_eq, List.all_eq_true] at checked
  refine ⟨q, planned, checked.1, fun keeps => ?_⟩
  have kept := (keeps _ List.mem_cons_self).kept
  exact absurd (checked.2 _ (Entries.mem_values_of_get? kept)) (by decide)

end Planner
end Datacube
