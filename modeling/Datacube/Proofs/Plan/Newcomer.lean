import Datacube.Proofs.Join.Extension
import Datacube.Proofs.Plan.Discriminator
import Datacube.Proofs.Plan.Participants
import Datacube.Proofs.Schema.Newcomer

/-!
# Plans beside a further provider

A provider whose tables no relation leads to takes no part in plans. A request is planned as it was
without it, unless one of the bare names that are looked up is also the name of one of its tables:
then the name is ambiguous, and the request is refused for that reason.
-/

namespace Datacube
open Outcome

def RequestedMetric.tableName? : RequestedMetric → Option String
  | .aggregation a => (Registry.cutMetric a.reference).toOption.map (·.1)
  | _ => none

/-- The table that a computed metric declares. -/
def Computed.tableName? (m : Computed) : Option String :=
  match m.table with
  | .text name => if name = "" then none else some name
  | _ => none

namespace Planner

/-- The names of tables that a request is resolved by: those of aggregations without a source, those
that computed metrics declare, the last one of each alias, and those of dimensions. -/
def tableNames (metrics : List RequestedMetric) (dimensions : List Dimension) : List String :=
  metrics.filterMap RequestedMetric.tableName? ++
    (Entries.ofPairs ((computedOf metrics).map fun m => (m.aliasName, m))).values.filterMap
      Computed.tableName? ++
    dimensions.filterMap Dimension.table?

def register (p : Planner) (source : Source) : Planner :=
  { p with registry := p.registry.register source }

/-- The tables that planning a request can meet: those of the registry and those that the request
brings. -/
def Meets (p : Planner) (metrics : List RequestedMetric) (t : Table) : Prop :=
  t ∈ p.registry.all ∨ Brings metrics t

variable {p : Planner} {source : Source} {metrics : List RequestedMetric}
  {dimensions : List Dimension} {q : QueryPlan} {r : Resolved} {m : Computed} {d : Dimension}
  {pairs : List (MetricSource × Aggregation)} {s s' : Schema} {tables : Entries String Table}
  {t : Table}

/-! ## Resolving a request -/

/-- What is resolved once the sources of the aggregations are found. -/
def resolvePairs (p : Planner) (metrics : List RequestedMetric) (dimensions : List Dimension) :
    List (MetricSource × Aggregation) → Outcome Resolved
  | [] => refuse .noMetrics
  | first :: rest => do
    let pairs := first :: rest
    if !pairs.all (·.2.aliasName.isKey) then fail .wrongType
    let sources := Entries.ofPairs (pairs.map fun (s, a) => (a.aliasName, s))
    let metricTables := gather (·.1.table) [] pairs
    let computed ← p.planComputed (computedOf metrics) sources
    let bound ← dimensions.mapM (p.bindDimension metricTables.values first.1.table)
    return ⟨first.1.table, sources, Entries.ofPairs (pairs.map fun (_, a) => (a.aliasName, a)),
      metricTables, bound, computed⟩

theorem resolve_eq : p.resolve metrics dimensions =
    (metrics.filterMap p.source?).mapM id >>= p.resolvePairs metrics dimensions := by
  rw [resolve]
  cases metrics.filterMap p.source? with
  | nil => rfl
  | cons first rest =>
      simp only [List.mapM_cons, bind_assoc, pure_bind]
      rfl

theorem takes_filterMap {α : Type} {items : List α} {f : α → Option String} :
    (∃ name, name ∈ items.filterMap f ∧ source.Takes name) ↔
      ∃ i ∈ items, ∃ name, f i = some name ∧ source.Takes name := by
  constructor
  · rintro ⟨name, member, takes⟩
    obtain ⟨i, listed, same⟩ := List.mem_filterMap.mp member
    exact ⟨i, listed, name, same, takes⟩
  · rintro ⟨i, listed, name, same, takes⟩
    exact ⟨name, List.mem_filterMap.mpr ⟨i, listed, same⟩, takes⟩

section Fresh
variable (fresh : source.name ∉ p.registry.keys)
include fresh

theorem source?_register (m : RequestedMetric) {x : Outcome (MetricSource × Aggregation)}
    (asked : p.source? m = some x) : ∃ x', (p.register source).source? m = some x' ∧
      SameUnless (∃ name, m.tableName? = some name ∧ source.Takes name) x x' := by
  cases m with
  | aggregation a =>
      obtain rfl := Option.some.inj asked
      refine ⟨_, rfl, ?_⟩
      refine ((Registry.metricSource_register fresh).next fun _ _ _ made => made).congr ?_
      cases cut : Registry.cutMetric a.reference with
      | error e => simp [RequestedMetric.tableName?, cut, Except.toOption]
      | ok parts => simp [RequestedMetric.tableName?, cut, Except.toOption, Prod.ext_iff]
  | sourced given a =>
      obtain rfl := Option.some.inj asked
      exact ⟨_, rfl, (sameUnless_of_ok fun _ found => found).congr
        (by simp [RequestedMetric.tableName?])⟩
  | computed m => cases asked

theorem sources_register : SameUnless
    (∃ m ∈ metrics, ∃ name, m.tableName? = some name ∧ source.Takes name)
    ((metrics.filterMap p.source?).mapM id)
    ((metrics.filterMap (p.register source).source?).mapM id) := by
  induction metrics with
  | nil => exact (sameUnless_of_ok fun _ found => found).congr (by simp)
  | cons m rest ih =>
      cases asked : p.source? m with
      | none =>
          obtain ⟨c, rfl⟩ : ∃ c, m = .computed c := by
            cases m with
            | computed c => exact ⟨c, rfl⟩
            | _ => cases asked
          rw [List.filterMap_cons_none asked, List.filterMap_cons_none rfl]
          exact ih.congr (by simp [RequestedMetric.tableName?])
      | some x =>
          obtain ⟨x', asked', first⟩ := source?_register fresh m asked
          rw [List.filterMap_cons_some asked, List.filterMap_cons_some asked', List.mapM_cons,
            List.mapM_cons]
          refine (first.bind fun a _ => ih.next fun _ _ _ found => found).congr ?_
          rw [List.exists_mem_cons_iff]

theorem computedTable_register {computed : Entries Value Computed}
    {tables : Entries Value String} :
    SameUnless (∃ name, m.tableName? = some name ∧ source.Takes name)
      (p.computedTable computed tables m) ((p.register source).computedTable computed tables m) := by
  have declared (name : String) : m.tableName? = some name ↔
      m.table.isTrue = true ∧ m.table = .text name := by
    unfold Computed.tableName?
    cases m.table with
    | text label => simp +contextual [Value.isTrue]
    | _ => simp
  rw [computedTable, computedTable]
  cases given : m.table.isTrue with
  | false =>
      exact (sameUnless_of_ok fun _ found => found).congr (by simp [declared, given])
  | true =>
      exact ((Registry.named_register fresh).next fun _ _ _ made => made).congr
        (by simp [declared, given])

theorem planComputed_register {computed : List Computed} {sources : Entries Value MetricSource} :
    SameUnless (∃ m ∈ (Entries.ofPairs (computed.map fun m => (m.aliasName, m))).values,
        ∃ name, m.tableName? = some name ∧ source.Takes name)
      (p.planComputed computed sources) ((p.register source).planComputed computed sources) := by
  rw [planComputed, planComputed]
  split
  · rename_i none
    rw [List.isEmpty_iff.mp none]
    exact (sameUnless_of_ok fun _ found => found).congr
      (by simp [Entries.ofPairs, Entries.putAll, Entries.values])
  · simp only []
    split
    · exact fun _ found => by cases found
    · -- The tables of computed metrics are looked up only after their order is known.
      refine sameUnless_after fun _ _ => ?_
      refine ((SameUnless.mapM fun e _ =>
        (computedTable_register fresh).next fun _ _ _ made => made).next
          fun _ _ _ made => made).congr ?_
      constructor
      · rintro ⟨e, listed, clashes⟩
        exact ⟨e.2, List.mem_map_of_mem listed, clashes⟩
      · rintro ⟨m, listed, clashes⟩
        obtain ⟨e, among, rfl⟩ := List.mem_map.mp listed
        exact ⟨e, among, clashes⟩

theorem bindDimension_register {metricTables : List Table} {primary : Table} :
    SameUnless (∃ name, d.table? = some name ∧ source.Takes name)
      (p.bindDimension metricTables primary d)
      ((p.register source).bindDimension metricTables primary d) := by
  rw [bindDimension, bindDimension]
  split
  · rename_i reference named
    exact ((Registry.table_register fresh).next fun _ _ _ made => made).congr (by simp [named])
  · rename_i unnamed
    exact (sameUnless_of_ok fun _ found => found).congr (by simp [unnamed])

theorem resolvePairs_register : SameUnless
    ((∃ m ∈ (Entries.ofPairs ((computedOf metrics).map fun m => (m.aliasName, m))).values,
        ∃ name, m.tableName? = some name ∧ source.Takes name) ∨
      ∃ d ∈ dimensions, ∃ name, d.table? = some name ∧ source.Takes name)
    (p.resolvePairs metrics dimensions pairs)
    ((p.register source).resolvePairs metrics dimensions pairs) := by
  cases pairs with
  | nil => exact fun _ found => by cases found
  | cons first rest =>
      rw [resolvePairs, resolvePairs]
      simp only []
      split
      · exact fun _ found => by cases found
      · exact (planComputed_register fresh).bind fun _ _ =>
          (SameUnless.mapM fun d _ => bindDimension_register fresh).next fun _ _ _ made => made

theorem resolve_register : SameUnless (∃ name ∈ tableNames metrics dimensions, source.Takes name)
    (p.resolve metrics dimensions) ((p.register source).resolve metrics dimensions) := by
  rw [resolve_eq, resolve_eq]
  refine ((sources_register fresh).bind fun _ _ => resolvePairs_register fresh).congr ?_
  simp only [tableNames, List.mem_append, or_and_right, exists_or, or_assoc, takes_filterMap]

end Fresh

/-! ## Joining the tables -/

/-- The tables that joins can pass through: they are met, and the schema or the participants know
their identifiers. -/
def Passes (p : Planner) (metrics : List RequestedMetric) (s : Schema)
    (participants : Entries String Table) (t : Table) : Prop :=
  p.Meets metrics t ∧ (t.identifier ∈ s.tables.keys ∨ t.identifier ∈ participants.keys)

section Unrelated
variable (fresh : source.name ∉ p.registry.keys)
  (unrelated : source.Unrelated (p.Meets metrics))
include fresh unrelated

theorem compile_register (compiled : p.registry.compile = .ok s) :
    ∃ s', (p.register source).registry.compile = .ok s' := by
  refine Schema.exists_ofOwned fun t listed => ?_
  rw [register, Registry.owned_register fresh, List.map_append, List.map_map] at listed
  rcases List.mem_append.mp listed with old | new
  · exact Schema.isKey_of_compiled compiled t old
  · obtain ⟨u, inside, rfl⟩ := List.mem_map.mp new
    exact unrelated.keyed u inside

omit unrelated in
theorem compile_owned (compiled' : (p.register source).registry.compile = .ok s') :
    Schema.ofOwned (p.registry.owned ++ source.tables.map fun t => (source.name, t)) = .ok s' := by
  rw [← Registry.owned_register fresh]
  exact compiled'

theorem extended_register (tables : Entries String Table) (compiled : p.registry.compile = .ok s)
    (compiled' : (p.register source).registry.compile = .ok s') (sameConnection : Bool) :
    ∃ extra, PathFinder.Extended ⟨s, sameConnection, p.joinType⟩ ⟨s', sameConnection, p.joinType⟩
      (p.Passes metrics s tables) extra := by
  have compiled' := compile_owned fresh compiled'
  have more : (source.tables.map fun t => (source.name, t)).map (·.2) = source.tables := by
    simp
  obtain ⟨extra, keys, new⟩ := Schema.keys_more compiled compiled'
  rw [more] at new
  refine ⟨extra, rfl, rfl, Schema.nodup_keys compiled, keys, ?_, ?_, ?_⟩
  · intro t passes listed
    obtain ⟨u, inside, same⟩ := new _ listed
    exact unrelated.apart passes.1 inside t.label same.symm
  · intro t passes r declared
    refine Schema.find_more compiled compiled' ?_ ?_
    · rw [more]
      exact unrelated.untargeted t passes.1 r declared
    · rw [more]
      exact fun u inside => unrelated.apart passes.1 inside
  · intro t passes r declared u found
    have listed := Schema.mem_of_find compiled found
    exact ⟨.inl listed, .inl (Schema.mem_keys_tables compiled listed)⟩

theorem addPathTable_register (compiled : p.registry.compile = .ok s)
    (compiled' : (p.register source).registry.compile = .ok s')
    (passes : p.Passes metrics s tables t) :
    addPathTable s' tables t.identifier = addPathTable s tables t.identifier := by
  rw [addPathTable, addPathTable]
  split
  · rfl
  · rename_i unknown
    rw [Entries.has_iff (Entries.exact_of_lawful _)] at unknown
    rw [Schema.find_identifier_more compiled (compile_owned fresh compiled')
      (passes.2.resolve_right unknown)]
    intro u listed
    obtain ⟨e, inside, rfl⟩ := List.mem_map.mp listed
    obtain ⟨w, among, rfl⟩ := List.mem_map.mp inside
    exact (unrelated.apart passes.1 among t.label).symm

theorem addPathTables_register (compiled : p.registry.compile = .ok s)
    (compiled' : (p.register source).registry.compile = .ok s') {identifiers : List String}
    (known : ∀ x ∈ identifiers, ∃ t, p.Passes metrics s tables t ∧ x = t.identifier) :
    identifiers.foldlM (addPathTable s') tables = identifiers.foldlM (addPathTable s) tables := by
  induction identifiers generalizing tables with
  | nil => rfl
  | cons x rest ih =>
      obtain ⟨t, passes, rfl⟩ := known x List.mem_cons_self
      rw [List.foldlM_cons, List.foldlM_cons,
        addPathTable_register fresh unrelated compiled compiled' passes]
      cases added : addPathTable s tables t.identifier with
      | error e => rfl
      | ok next =>
          refine ih fun y later => ?_
          obtain ⟨u, passes, same⟩ := known y (.tail _ later)
          have kept := List.map_subset Prod.fst (prefix_addPathTable added).subset
          exact ⟨u, ⟨passes.1, passes.2.imp_right fun there => kept there⟩, same⟩

/-- The joins that a request needs are the same, and the tables that they pass through. -/
theorem joins_register
    (met : ∀ e ∈ r.participants, e.1 = e.2.identifier ∧ p.Meets metrics e.2)
    (compiled : p.registry.compile = .ok s)
    (compiled' : (p.register source).registry.compile = .ok s') {sameConnection : Bool}
    {joins : JoinGraph} (built : JoinGraph.build ⟨s, sameConnection, p.joinType⟩
      r.participants.values dimensions = .ok joins) :
    JoinGraph.build ⟨s', sameConnection, p.joinType⟩ r.participants.values dimensions =
        .ok joins ∧
      ∀ ends : JoinStep → List String, (∀ step, ends step ⊆ [step.sourceId, step.targetId]) →
        (joins.flatMap ends).foldlM (addPathTable s') r.participants =
          (joins.flatMap ends).foldlM (addPathTable s) r.participants := by
  obtain ⟨extra, extended⟩ :=
    extended_register fresh unrelated r.participants compiled compiled' sameConnection
  have inside : ∀ t ∈ r.participants.values, p.Passes metrics s r.participants t := by
    intro t member
    obtain ⟨e, listed, rfl⟩ := List.mem_map.mp member
    obtain ⟨keyed, met⟩ := met e listed
    exact ⟨met, .inr (keyed ▸ List.mem_map_of_mem listed)⟩
  obtain ⟨built', within⟩ := JoinGraph.build_extended extended inside built
  refine ⟨built', fun ends taken => addPathTables_register fresh unrelated compiled compiled' ?_⟩
  intro x listed
  obtain ⟨step, among, ended⟩ := List.mem_flatMap.mp listed
  obtain ⟨t, u, passes, passes', start, stop⟩ := within step among
  rcases List.mem_cons.mp (taken step ended) with rfl | last
  · exact ⟨t, passes, start⟩
  · exact ⟨u, passes', (List.mem_singleton.mp last).trans stop⟩

theorem nativePlan_register {driver : Driver}
    (met : ∀ e ∈ r.participants, e.1 = e.2.identifier ∧ p.Meets metrics e.2)
    (planned : p.nativePlan driver r dimensions = .ok q) :
    (p.register source).nativePlan driver r dimensions = .ok q := by
  simp only [nativePlan, Outcome.bind_eq_ok] at planned ⊢
  obtain ⟨s, compiled, joins, built, tables, passed, planned⟩ := planned
  obtain ⟨s', compiled'⟩ := compile_register fresh unrelated compiled
  obtain ⟨built', same⟩ := joins_register fresh unrelated met compiled compiled' built
  have same := same (fun step => [step.targetId]) (by simp)
  refine ⟨s', compiled', joins, built', tables, ?_, planned⟩
  simp only [Outcome.foldlM_flatMap, List.foldlM_cons, List.foldlM_nil, bind_pure] at same
  exact same.trans passed

theorem softwarePlan_register
    (met : ∀ e ∈ r.participants, e.1 = e.2.identifier ∧ p.Meets metrics e.2)
    (planned : p.softwarePlan r dimensions = .ok q) :
    (p.register source).softwarePlan r dimensions = .ok q := by
  simp only [softwarePlan, Outcome.bind_eq_ok] at planned ⊢
  obtain ⟨_, checked, s, compiled, joins, built, tables, passed, planned⟩ := planned
  obtain ⟨s', compiled'⟩ := compile_register fresh unrelated compiled
  obtain ⟨built', same⟩ := joins_register fresh unrelated met compiled compiled' built
  have same := same (fun step => [step.sourceId, step.targetId]) fun _ => List.Subset.refl _
  refine ⟨_, checked, s', compiled', joins, built', tables, ?_, planned⟩
  simp only [Outcome.foldlM_flatMap, List.foldlM_cons, List.foldlM_nil, bind_pure] at same
  exact same.trans passed

/-- A plan stays what it is, unless a name that the request is resolved by is taken. -/
theorem plan_sameUnless : SameUnless (∃ name ∈ tableNames metrics dimensions, source.Takes name)
    (p.plan metrics dimensions) ((p.register source).plan metrics dimensions) := by
  refine (resolve_register fresh).next fun r q resolved planned => ?_
  have met : ∀ e ∈ r.participants, e.1 = e.2.identifier ∧ p.Meets metrics e.2 := fun e listed =>
    ⟨participants_keyed resolved e listed,
      participants_known resolved e.2 (List.mem_map_of_mem listed)⟩
  obtain ⟨driver, chosen, planned⟩ := Outcome.bind_eq_ok.mp planned
  refine Outcome.bind_eq_ok.mpr ⟨driver, chosen, ?_⟩
  cases driver with
  | some driver => exact nativePlan_register fresh unrelated met planned
  | none => exact softwarePlan_register fresh unrelated met planned

/-- Beside an unrelated source a request has the same plan, or a name of it is ambiguous; and that is
the case exactly when a bare name that it is resolved by is also the name of a table of the
source. -/
theorem plan_beside (planned : p.plan metrics dimensions = .ok q) :
    ((p.register source).plan metrics dimensions = .ok q ∨
      ((p.register source).plan metrics dimensions).IsAmbiguous) ∧
    (((p.register source).plan metrics dimensions).IsAmbiguous ↔
      ∃ name ∈ tableNames metrics dimensions,
        ':' ∉ name.toList ∧ ∃ t ∈ source.tables, t.name = .text name) := by
  rcases plan_sameUnless fresh unrelated q planned with
    ⟨free, same⟩ | ⟨taken, ambiguous⟩
  · rw [same]
    exact ⟨.inl rfl, iff_of_false (not_ambiguous_ok q) free⟩
  · exact ⟨.inr ambiguous, iff_of_true ambiguous taken⟩

end Unrelated

/-- A further provider with one table, which belongs to the posts. -/
def press (name : String) : Source :=
  ⟨"press", .indexed, .null, [PathFinder.belonging "press" name [("post", "cms:posts")]]⟩

theorem press_unrelated {name : String} (named : name = "comments" ∨ name = "reviews") :
    (press name).Unrelated (feedApart.Meets commentCount) := by
  have all : feedApart.registry.all = [comments, PathFinder.belonging "cms" "posts" []] := rfl
  have met : ∀ t, feedApart.Meets commentCount t →
      t = comments ∨ t = PathFinder.belonging "cms" "posts" [] := by
    rintro t (known | ⟨source, a, member, -⟩)
    · simpa [all] using known
    · simp [commentCount] at member
  have only : ∀ t ∈ (press name).tables,
      t = PathFinder.belonging "press" name [("post", "cms:posts")] := fun t => List.mem_singleton.mp
  refine ⟨rfl, fun t listed => only t listed ▸ rfl, fun t listed => only t listed ▸ rfl, ?_,
    .inl ?_, ?_, ?_⟩
  · simp [press]
  · intro t meets
    rcases met t meets with rfl | rfl <;> decide +kernel
  · intro t meets
    rcases met t meets with rfl | rfl <;> simp [comments, press, PathFinder.belonging]
  · intro t meets r declared u listed
    rw [only u listed]
    rcases met t meets with rfl | rfl
    · rw [List.mem_singleton.mp declared]
      rcases named with rfl | rfl <;> exact ⟨by decide +kernel, by simp [Table.identifier]; decide⟩
    · cases declared

/-- Reviews beside the comments change nothing; comments of another provider make the name of the
comments ambiguous. -/
theorem feed_beside_press : ∃ q, feedApart.plan commentCount titles = .ok q ∧
    (feedApart.register (press "reviews")).plan commentCount titles = .ok q ∧
    ((feedApart.register (press "comments")).plan commentCount titles).IsAmbiguous := by
  have built : (feedApart.plan commentCount titles).toBool = true := by decide +kernel
  obtain ⟨q, planned⟩ := Outcome.exists_ok built
  have names : tableNames commentCount titles = ["comments", "posts"] := by decide +kernel
  have absent : "press" ∉ feedApart.registry.keys := by decide
  have fresh (name : String) : (press name).name ∉ feedApart.registry.keys := absent
  obtain ⟨either, taken⟩ := plan_beside (fresh "reviews") (press_unrelated (.inr rfl)) planned
  obtain ⟨-, taken'⟩ := plan_beside (fresh "comments") (press_unrelated (.inl rfl)) planned
  refine ⟨q, planned, either.resolve_right ?_, taken'.mpr ?_⟩
  · rw [taken, names]
    simp [press, PathFinder.belonging]
  · rw [names]
    simp [press, PathFinder.belonging]

end Planner
end Datacube
