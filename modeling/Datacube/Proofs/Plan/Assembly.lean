import Datacube.Proofs.Merge.Schedule
import Datacube.Proofs.Plan.MergeKeys

/-!
# The assembly of software plans

A software plan is assembled from the joins of its tables, a relation for every join, and a query
for every table. The joins form a tree with the primary table at the root that reaches every table
of the plan, and tables are named apart, so the results are merged in a single pass.
-/

namespace Datacube

namespace JoinPlan
variable {plan : JoinPlan}

def software? : JoinPlan → Option SoftwarePlan
  | software sp => some sp
  | _ => none

def database? : JoinPlan → Option JoinGraph
  | database joins => some joins
  | _ => none

theorem any_software {f : SoftwarePlan → Bool} (holds : plan.software?.any f = true) :
    ∃ sp, plan = .software sp ∧ f sp = true := by
  cases plan with
  | software sp => exact ⟨sp, rfl, holds⟩
  | _ => cases holds

theorem any_database {f : JoinGraph → Bool} (holds : plan.database?.any f = true) :
    ∃ joins, plan = .database joins ∧ f joins = true := by
  cases plan with
  | database joins => exact ⟨joins, rfl, holds⟩
  | _ => cases holds

end JoinPlan

namespace Planner
variable {p : Planner} {metrics : List RequestedMetric} {dimensions : List Dimension} {r : Resolved}
  {schema : Schema} {joins : JoinGraph} {tables : Entries String Table} {k : MergeKeys}
  {plans : Entries Value TablePlan} {filters : Value} {q : QueryPlan} {sp : SoftwarePlan}

/-- The parts that a software plan is assembled from. -/
structure Assembled (p : Planner) (r : Resolved) (dimensions : List Dimension) (schema : Schema)
    (joins : JoinGraph) (tables : Entries String Table) (k : MergeKeys)
    (plans : Entries Value TablePlan) (filters : Value) : Prop where
  rollups : checkRollups r.aggregations = .ok ()
  compiled : p.registry.compile = .ok schema
  built : JoinGraph.build ⟨schema, false, p.joinType⟩ r.participants.values dimensions = .ok joins
  passed : joins.foldlM (fun acc s => do
    addPathTable schema (← addPathTable schema acc s.sourceId) s.targetId) r.participants =
      .ok tables
  keyed : joins.foldlM (addJoin tables (participantNames tables) r.dimensions) .none = .ok k
  planned : tables.foldlM (fun (acc : Entries Value TablePlan) (e : String × Table) => do
    let query ← p.tableQuery r k e.1 e.2
    return acc.put (nameAmong tables e.1) ⟨e.2, query, e.1 == r.primary.identifier⟩) [] = .ok plans
  filtered : dimensionFilters r.dimensions = .ok filters

def assemble (r : Resolved) (tables : Entries String Table) (k : MergeKeys)
    (plans : Entries Value TablePlan) (filters : Value) : SoftwarePlan where
  primary := nameAmong tables r.primary.identifier
  relations := k.relations
  dimensions := r.dimensionAliases
  metrics := r.aggregations.keys
  rollups := r.aggregations.filterMap fun e => e.2.rollup?.map fun rollup => (e.1, rollup)
  filters := filters
  joinAliases := k.aliases
  tables := plans

theorem softwarePlan_ok (planned : p.softwarePlan r dimensions = .ok q)
    (software : q.joinPlan = .software sp) :
    ∃ schema joins k filters, Assembled p r dimensions schema joins q.tables k sp.tables filters ∧
      sp = assemble r q.tables k sp.tables filters ∧ q.sources = r.sources ∧
      q.aggregations = r.aggregations := by
  simp only [softwarePlan, Outcome.bind_eq_ok, Outcome.pure_eq_ok] at planned
  obtain ⟨⟨⟩, rollups, schema, compiled, joins, built, tables, passed, k, keyed, plans, planned,
    filters, filtered, rfl⟩ := planned
  obtain rfl := JoinPlan.software.inj software
  exact ⟨schema, joins, k, filters, ⟨rollups, compiled, built, passed, keyed, planned, filtered⟩,
    rfl, rfl, rfl⟩

theorem plan_software (planned : p.plan metrics dimensions = .ok q)
    (software : q.joinPlan = .software sp) :
    ∃ r, p.resolve metrics dimensions = .ok r ∧ p.softwarePlan r dimensions = .ok q := by
  simp only [plan, Outcome.bind_eq_ok] at planned
  obtain ⟨r, resolved, driver, -, planned⟩ := planned
  refine ⟨r, resolved, ?_⟩
  cases driver with
  | none => exact planned
  | some driver =>
      simp only [nativePlan, Outcome.bind_eq_ok, Outcome.pure_eq_ok] at planned
      obtain ⟨_, -, joins, -, _, -, _, -, _, -, _, -, _, -, rfl⟩ := planned
      simp only at software
      split at software <;> cases software

/-! ## Tables and joins -/

section Parts
variable (indexed : p.registry.Indexed) (sound : r.Sound p.registry dimensions)
  (assembled : Assembled p r dimensions schema joins tables k plans filters)
include indexed sound assembled

theorem Assembled.grown :
    ∃ g, JoinGraph.Grown ⟨schema, false, p.joinType⟩ r.primary r.participants.values g ∧
      g.joins.values = joins ∧
      ∀ t ∈ r.participants.values, t.identifier ∈ g.connected.map (·.identifier) := by
  obtain ⟨tabled, ⟨rest, starts⟩, -, -⟩ := sound.participants
  have clear : PathFinder.Clear ⟨schema, false, p.joinType⟩ r.participants.values :=
    tabled.clear indexed assembled.compiled
  have values : r.participants.values = r.primary :: Entries.values rest := by
    rw [starts]
    rfl
  have built := assembled.built
  rw [values] at clear built ⊢
  exact JoinGraph.build_ok clear (Schema.nodup_keys assembled.compiled) built

/-- The joins form a tree with the primary table at the root, which takes in all participants. -/
theorem Assembled.tree : JoinGraph.RootedTree r.primary.identifier joins ∧
    r.participants.keys ⊆ JoinGraph.joined r.primary.identifier joins := by
  obtain ⟨g, grown, rfl, connected⟩ := assembled.grown indexed sound
  refine ⟨grown.planted.tree, ?_⟩
  intro identifier member
  obtain ⟨t, -, listed, rfl⟩ := sound.participants.1.get? member
  obtain ⟨u, connects, same⟩ := List.mem_map.mp (connected t (List.mem_map.mpr ⟨_, listed, rfl⟩))
  rw [← same]
  exact grown.covered u connects

theorem Assembled.located {s : JoinStep} (member : s ∈ joins) :
    Located schema r.participants s.sourceId ∧ Located schema r.participants s.targetId := by
  obtain ⟨g, grown, rfl, -⟩ := assembled.grown indexed sound
  obtain ⟨a, b, relation, type, rfl, source, target⟩ := grown.ends s member
  have located : ∀ t, PathFinder.ReachedFrom ⟨schema, false, p.joinType⟩ r.participants.values t →
      Located schema r.participants t.identifier := by
    rintro t ⟨start, requested, path, chain⟩
    rcases chain.holds_or_eq (indexed.unambiguous assembled.compiled) with rfl | held
    · obtain ⟨e, listed, rfl⟩ := List.mem_map.mp requested
      refine .inl ?_
      rw [← sound.participants.1.keyed e listed]
      exact List.mem_map_of_mem listed
    · exact .inr ⟨t, rfl, held⟩
  exact ⟨located a source, located b target⟩

/-- The tables of a plan are those that its joins connect with the primary one. -/
theorem Assembled.tabled : Tabled p.registry tables ∧ r.participants <+: tables ∧
    tables.keys.Perm (JoinGraph.joined r.primary.identifier joins) := by
  obtain ⟨tabled, start, keys⟩ := pathTables_ok indexed assembled.compiled sound.participants.1
    (fun s member => assembled.located indexed sound member) assembled.passed
  obtain ⟨tree, participates⟩ := assembled.tree indexed sound
  refine ⟨tabled, start, ?_⟩
  rw [List.perm_ext_iff_of_nodup tabled.nodup tree.nodup]
  intro identifier
  rw [keys identifier]
  constructor
  · rintro (participant | ⟨s, member, rfl | rfl⟩)
    · exact participates participant
    · exact tree.source_mem member
    · exact List.mem_cons_of_mem _ (List.mem_map_of_mem member)
  · intro joined
    rcases List.mem_cons.mp joined with rfl | behind
    · obtain ⟨rest, starts⟩ := sound.participants.2.1
      rw [starts]
      exact .inl List.mem_cons_self
    · obtain ⟨s, member, rfl⟩ := List.mem_map.mp behind
      exact .inr ⟨s, member, .inr rfl⟩

end Parts

/-! ## The queries of tables -/

/-- The plan of a table stands under its name and holds its query. -/
structure Planned (p : Planner) (r : Resolved) (k : MergeKeys) (tables : Entries String Table)
    (e : String × Table) (plan : Value × TablePlan) : Prop where
  name : plan.1 = nameAmong tables e.1
  table : plan.2.table = e.2
  primary : plan.2.isPrimary = (e.1 == r.primary.identifier)
  query : p.tableQuery r k e.1 e.2 = .ok plan.2.query

theorem names_of_planned {items : Entries String Table}
    (planned : List.Forall₂ (Planned p r k tables) items plans) :
    plans.keys = items.keys.map (nameAmong tables) := by
  induction planned with
  | nil => rfl
  | cons here _ ih => rw [Entries.keys_cons, Entries.keys_cons, List.map_cons, ih, here.name]

/-- No two tables go by one name. -/
def NamedApart (tables : Entries String Table) : Prop :=
  tables.Pairwise fun e e' => (nameAmong tables e'.1 == nameAmong tables e.1) = false

instance (tables : Entries String Table) : Decidable (NamedApart tables) :=
  inferInstanceAs (Decidable (List.Pairwise _ _))

theorem namedApart_of_tabled {registry : Registry} (tabled : Tabled registry tables) :
    NamedApart tables := by
  have distinct : tables.Pairwise fun e e' => nameAmong tables e.1 ≠ nameAmong tables e'.1 := by
    have names := names_nodup tabled
    rw [Entries.keys, List.map_map] at names
    exact List.pairwise_map.mp names
  apply distinct.imp_of_mem
  intro e e' _ member differ
  obtain ⟨name, text⟩ := nameAmong_text tabled (List.mem_map_of_mem (f := (·.1)) member)
  rw [← Bool.not_eq_true, text, (Entries.exact_text name) _, ← text]
  exact differ.symm

theorem Assembled.plans_apart (apart : NamedApart tables)
    (assembled : Assembled p r dimensions schema joins tables k plans filters) :
    List.Forall₂ (Planned p r k tables) tables plans := by
  refine Outcome.foldlM_induction
    (fun before plans => List.Forall₂ (Planned p r k tables) before plans) assembled.planned .nil ?_
  intro before e inside (plans : Entries Value TablePlan) plans' planned added
  simp only [Outcome.bind_eq_ok, Outcome.pure_eq_ok] at added
  obtain ⟨query, queried, rfl⟩ := added
  -- Names differ, so the plan of a table never takes the place of an earlier one.
  have fresh : ∀ plan ∈ plans, (nameAmong tables e.1 == plan.1) = false := by
    intro plan member
    obtain ⟨e', listed, here⟩ := exists_of_mem_right planned member
    rw [here.name]
    exact (List.pairwise_append.mp (apart.sublist inside.sublist)).2.2 e' listed e
      (List.mem_singleton_self e)
  rw [Entries.put_unequal fresh]
  exact List.rel_append planned (.cons ⟨rfl, rfl, rfl, queried⟩ .nil)

theorem Assembled.plans_ok {registry : Registry} (tabled : Tabled registry tables)
    (assembled : Assembled p r dimensions schema joins tables k plans filters) :
    List.Forall₂ (Planned p r k tables) tables plans :=
  assembled.plans_apart (namedApart_of_tabled tabled)

theorem Assembled.plans_nodup {registry : Registry} (tabled : Tabled registry tables)
    (assembled : Assembled p r dimensions schema joins tables k plans filters) :
    plans.keys.Nodup := by
  rw [names_of_planned (assembled.plans_ok tabled)]
  exact names_nodup tabled

end Planner
end Datacube
