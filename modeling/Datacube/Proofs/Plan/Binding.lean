import Datacube.Proofs.Plan.Merging
import Datacube.Proofs.Plan.Steps

/-!
# Where dimensions are read

A requested dimension without a table is read from the first metric table that declares it, under
the column that the table gives it, and from the primary table when none declares it. Matches are
kept by the bare names of tables, so this holds of a dimension that the metric tables of one name
declare alike; where they do not, a table may stand in for another one of its name.
-/

namespace Datacube

namespace Dimension
variable {d m : Dimension} {tables : List Table} {t : Table}

/-- The table and the column that a dimension without a table is read from: the first table that
declares it, with the column there, and where none does the first table of all. -/
def place? (d : Dimension) (tables : List Table) : Option (Table × Value) :=
  (tables.findSome? fun t => (d.matching? t).map fun m => (t, .text m.column)).or
    (tables.head?.map fun t => (t, .text d.column))

/-- Tables of one name declare the dimension under one column, or all of them do not declare it. -/
def Alike (d : Dimension) (tables : List Table) : Prop :=
  ∀ t ∈ tables, ∀ u ∈ tables, (t.name == u.name) = true →
    (d.matching? t).map (·.column) = (d.matching? u).map (·.column)

instance (d : Dimension) (tables : List Table) : Decidable (d.Alike tables) :=
  inferInstanceAs (Decidable (∀ t ∈ tables, ∀ u ∈ tables, (t.name == u.name) = true →
    (d.matching? t).map (·.column) = (d.matching? u).map (·.column)))

theorem mem_of_place? {column : Value} (place : d.place? tables = some (t, column)) :
    t ∈ tables := by
  rw [place?, Option.or_eq_some_iff] at place
  rcases place with declared | ⟨-, first⟩
  · obtain ⟨u, listed, found⟩ := List.exists_of_findSome?_eq_some declared
    obtain ⟨m, -, same⟩ := Option.map_eq_some_iff.mp found
    rw [← (Prod.mk.inj same).1]
    exact listed
  · obtain ⟨u, head, same⟩ := Option.map_eq_some_iff.mp first
    rw [← (Prod.mk.inj same).1]
    exact List.mem_of_head? head

variable (texts : ∀ t ∈ tables, ∃ name, t.name = .text name)
include texts

theorem exact_matches :
    ∀ pair ∈ tables.filterMap fun t => (d.matching? t).map fun m => (t.name, m),
      Entries.Exact pair.1 := by
  intro pair member
  obtain ⟨t, listed, found⟩ := List.mem_filterMap.mp member
  obtain ⟨m, -, rfl⟩ := Option.map_eq_some_iff.mp found
  obtain ⟨name, text⟩ := texts t listed
  rw [text]
  exact Entries.exact_text name

theorem resolve_some (listed : t ∈ tables) (found : (d.resolve tables).get? t.name = some m) :
    ∃ u ∈ tables, u.name = t.name ∧ d.matching? u = some m := by
  obtain ⟨name, text⟩ := texts t listed
  rw [resolve] at found
  have member := Entries.mem_ofPairs (exact_matches texts)
    (Entries.mem_of_get? (text ▸ Entries.exact_text name) found)
  obtain ⟨u, listed', found'⟩ := List.mem_filterMap.mp member
  obtain ⟨m', matching, same⟩ := Option.map_eq_some_iff.mp found'
  rw [Prod.mk.injEq] at same
  exact ⟨u, listed', same.1, same.2 ▸ matching⟩

theorem resolve_none (listed : t ∈ tables) (missing : (d.resolve tables).get? t.name = none) :
    d.matching? t = none := by
  obtain ⟨name, text⟩ := texts t listed
  rw [resolve, Entries.get?_eq_none (text ▸ Entries.exact_text name),
    Entries.mem_keys_ofPairs (exact_matches texts), List.mem_map] at missing
  by_contra declared
  obtain ⟨m, matching⟩ := Option.ne_none_iff_exists'.mp declared
  exact missing ⟨(t.name, m), List.mem_filterMap.mpr ⟨t, listed, by rw [matching]; rfl⟩, rfl⟩

/-- Where tables of one name declare a dimension alike, the match under the name of a table has the
column that the table itself declares. -/
theorem resolve_alike (alike : d.Alike tables) (listed : t ∈ tables) :
    ((d.resolve tables).get? t.name).map (·.column) = (d.matching? t).map (·.column) := by
  cases found : (d.resolve tables).get? t.name with
  | none => rw [resolve_none texts listed found]
  | some m =>
      obtain ⟨u, listed', same, matching⟩ := resolve_some texts listed found
      obtain ⟨name, text⟩ := texts t listed
      have equal : (t.name == u.name) = true := by
        rw [same, text]
        exact (Value.same_text name _).mpr rfl
      rw [alike t listed u listed' equal, matching]

end Dimension

/-- The query of a table selects a dimension of this table: the one query of a native plan, or in a
software plan the query of the table itself. -/
def QueryPlan.Selects (q : QueryPlan) (d : BoundDimension) : Prop :=
  match q.joinPlan with
  | .software sp => ∃ plan ∈ sp.tables.values, plan.table = d.table ∧ plan.query.Selects d false
  | _ => ∃ query, q.query = some query ∧ query.Selects d true

namespace Planner
variable {p : Planner} {metrics : List RequestedMetric} {dimensions : List Dimension}
  {r : Resolved} {q : QueryPlan} {tables : List Table} {primary : Table} {d : Dimension}

/-! ## Binding -/

theorem bindDimension_place (texts : ∀ t ∈ tables, ∃ name, t.name = .text name)
    (first : tables.head? = some primary) (bare : d.table? = none) (alike : d.Alike tables) :
    ∃ b, p.bindDimension tables primary d = .ok b ∧ b.dimension = d ∧
      d.place? tables = some (b.table, b.column) := by
  have declared : (tables.findSome? fun t => ((d.resolve tables).get? t.name).map fun m =>
      (t, Value.text m.column)) =
        tables.findSome? fun t => (d.matching? t).map fun m => (t, .text m.column) := by
    rw [← List.head?_filterMap, ← List.head?_filterMap]
    congr 1
    apply List.filterMap_congr
    intro t listed
    have columns := Dimension.resolve_alike texts alike listed
    have pair := congrArg (Option.map fun column => (t, Value.text column)) columns
    rw [Option.map_map, Option.map_map] at pair
    exact pair
  rw [bindDimension, bare]
  simp only [declared]
  rw [Dimension.place?]
  cases found : tables.findSome? fun t => (d.matching? t).map fun m => (t, Value.text m.column) with
  | some place => exact ⟨_, rfl, rfl, rfl⟩
  | none => exact ⟨_, rfl, rfl, by rw [first]; rfl⟩

/-! ## The metric tables of a request -/

/-- The tables that the aggregations of a request read, in their order and each once. -/
def metricTables (p : Planner) (metrics : List RequestedMetric) : List Table :=
  (gather (·.1.table) [] (metrics.filterMap fun m => (p.source? m).bind Except.toOption)).values

theorem resolve_metricTables (resolved : p.resolve metrics dimensions = .ok r) :
    p.metricTables metrics = r.metricTables.values ∧
      r.metricTables.values.head? = some r.primary := by
  obtain ⟨first, rest, sources, primary, -, -, metricTables, -⟩ := resolve_ok resolved
  have pairs : (metrics.filterMap fun m => (p.source? m).bind Except.toOption) = first :: rest := by
    have flat : (metrics.filterMap fun m => (p.source? m).bind Except.toOption) =
        (metrics.filterMap p.source?).filterMap Except.toOption := by
      rw [List.filterMap_filterMap]
    rw [flat, sources, List.filterMap_map]
    exact List.filterMap_some
  constructor
  · rw [Planner.metricTables, pairs, metricTables]
  · obtain ⟨later, start⟩ := prefix_gather (fun pair : MetricSource × Aggregation => pair.1.table)
      [(first.1.table.identifier, first.1.table)] rest
    have starts : r.metricTables = (first.1.table.identifier, first.1.table) :: later := by
      rw [metricTables]
      exact start.symm
    rw [starts, primary]
    rfl

theorem metricTables_text (named : ∀ t, Brings metrics t → ∃ name, t.name = .text name) :
    ∀ t ∈ p.metricTables metrics, ∃ name, t.name = .text name := by
  intro t member
  obtain ⟨e, gathered, rfl⟩ := List.mem_map.mp member
  obtain ⟨pair, listed, rfl⟩ := (mem_gather gathered).resolve_left List.not_mem_nil
  obtain ⟨m, requested, found⟩ := List.mem_filterMap.mp listed
  obtain ⟨outcome, source, ok⟩ := Option.bind_eq_some_iff.mp found
  cases outcome with
  | error e => cases ok
  | ok pair' =>
      obtain rfl := Option.some.inj ok
      cases m with
      | aggregation a =>
          simp only [source?, Option.some.injEq, Outcome.bind_eq_ok, Outcome.pure_eq_ok] at source
          obtain ⟨s, known, rfl⟩ := source
          obtain ⟨_, -, name, found⟩ := Registry.named?_of_metricSource known
          exact ⟨name, Registry.name_of_named? found⟩
      | sourced s a =>
          rw [source?, Option.some.injEq, Except.ok.injEq] at source
          subst source
          exact named _ ⟨s, a, requested, rfl⟩
      | computed m => cases source

/-! ## Plans -/

theorem softwarePlan_selects {sp : SoftwarePlan} {b : BoundDimension}
    (planned : p.softwarePlan r dimensions = .ok q) (software : q.joinPlan = .software sp)
    (apart : NamedApart q.tables) (requested : b ∈ r.dimensions)
    (known : (b.table.identifier, b.table) ∈ r.participants) :
    ∃ plan ∈ sp.tables.values, plan.table = b.table ∧ plan.query.Selects b false := by
  obtain ⟨schema, joins, k, filters, assembled, -⟩ := softwarePlan_ok planned software
  have planned := (prefix_pathTables assembled.passed).subset known
  obtain ⟨plan, listed, here⟩ := exists_of_mem_left (assembled.plans_apart apart) planned
  exact ⟨plan.2, List.mem_map_of_mem listed, here.table,
    (tableQuery_selects here.query).1 b requested rfl⟩

/-- Every requested dimension without a table is read from the first metric table that declares it,
under the column declared there, and from the primary table when none does, provided the metric
tables of one name declare it alike. -/
theorem plan_reads_declared (named : ∀ t, Brings metrics t → ∃ name, t.name = .text name)
    (planned : p.plan metrics dimensions = .ok q)
    (apart : q.isSoftware = true → NamedApart q.tables) :
    ∀ d ∈ dimensions, d.table? = none → d.Alike (p.metricTables metrics) →
      ∃ b : BoundDimension, b.dimension = d ∧
        d.place? (p.metricTables metrics) = some (b.table, b.column) ∧ q.Selects b := by
  intro d requested bare alike
  obtain ⟨r, resolved, built⟩ := plan_cases planned
  obtain ⟨_, _, -, -, -, -, gathered, binds⟩ := resolve_ok resolved
  obtain ⟨tables, head⟩ := resolve_metricTables resolved
  obtain ⟨b, listed, bound⟩ := exists_of_mem_left (Outcome.mapM_ok binds) requested
  rw [← tables] at bound head
  obtain ⟨b', bound', same, place⟩ :=
    bindDimension_place (p := p) (metricTables_text named) head bare alike
  obtain rfl := Except.ok.inj (bound.symm.trans bound')
  refine ⟨b, same, place, ?_⟩
  rcases built with ⟨driver, native⟩ | software
  · obtain ⟨joins, query, answered, joined, -, selected⟩ := nativePlan_ok native
    rw [QueryPlan.Selects, joined]
    cases joins.isEmpty <;> exact ⟨query, answered, selected b listed⟩
  · obtain ⟨sp, joined⟩ := softwarePlan_software software
    have named : NamedApart q.tables := apart (by rw [QueryPlan.isSoftware, joined])
    rw [QueryPlan.Selects, joined]
    apply softwarePlan_selects software joined named listed
    have metric := Dimension.mem_of_place? place
    rw [tables] at metric
    obtain ⟨e, member, known⟩ := List.mem_map.mp metric
    rw [gathered] at member
    obtain ⟨pair, -, rfl⟩ := (mem_gather member).resolve_left List.not_mem_nil
    have start : r.metricTables <+: r.participants :=
      prefix_gather (fun d : BoundDimension => d.table) r.metricTables r.dimensions
    rw [← known]
    exact start.subset (gathered ▸ member)

/-- Customers and old orders, neither of which stands for a table of its name. -/
def customersAndPast : List RequestedMetric :=
  [.aggregation ⟨.count, "customers.id", "customers", 0.5⟩,
    .aggregation ⟨.sum, "archive:orders.amount", "past", 0.5⟩]

def anyYear : Dimension := .make .plain "year"

theorem shop_reads_year : ∃ q b, shop.plan customersAndPast [anyYear] = .ok q ∧
    b.table.identifier = "archive:orders" ∧ q.Selects b := by
  have software : (shop.plan customersAndPast [anyYear]).toOption.any fun q =>
      q.isSoftware && decide (NamedApart q.tables) := by decide +kernel
  have place : ((anyYear.place? (shop.metricTables customersAndPast)).all
      fun place => place.1.identifier == "archive:orders") = true := by decide +kernel
  have alike : anyYear.Alike (shop.metricTables customersAndPast) := by decide +kernel
  obtain ⟨q, planned, apart⟩ := Outcome.any_ok software
  have named : ∀ t, Brings customersAndPast t → ∃ name, t.name = .text name := by
    rintro t ⟨source, a, member, -⟩
    simp [customersAndPast] at member
  simp only [Bool.and_eq_true, decide_eq_true_eq] at apart
  obtain ⟨b, -, read, selects⟩ := plan_reads_declared named planned (fun _ => apart.2) anyYear
    (List.mem_singleton_self _) rfl alike
  rw [read] at place
  exact ⟨q, b, planned, beq_iff_eq.mp place, selects⟩

/-- Orders of both providers share a name. The year is to be read from the old ones, the only ones
that declare it, but is bound to the present ones. -/
theorem shop_misreads_year :
    ((anyYear.place? (shop.metricTables revenue)).any
      fun place => place.1.identifier == "archive:orders") = true ∧
    ((shop.resolve revenue [anyYear]).toOption.any
      fun r => r.dimensions.all (·.table.identifier == "shop:orders")) = true := by
  constructor <;> decide +kernel

end Planner
end Datacube
