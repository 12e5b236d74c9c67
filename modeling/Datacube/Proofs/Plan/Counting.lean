import Datacube.Proofs.Merge.Counting
import Datacube.Proofs.Plan.Aliases

/-!
# Counting in software plans

The query of a table groups by the dimensions and keys that it selects, so no two rows of its result
are the same in all of them. Where a plan anchors a table, no row of this table is counted twice in
a group of the answer. Elsewhere a row can be: a table that is merged with two others may have many
rows for one row of either.
-/

namespace Datacube

/-- Whether a plan counts the rows of a table once: tables share no columns but dimensions that they
are merged by, and besides dimensions, every other table selects at most the key of its relation
towards the table. -/
def SoftwarePlan.anchors (sp : SoftwarePlan) (h : Value → Headings) (name : Value) : Bool :=
  columnsApart h sp.dimensions [sp.primary] sp.relations &&
    isAnchored h sp.dimensions sp.primary sp.relations name &&
    (h name).others.all fun c => !sp.dimensions.contains c

namespace Planner
variable {p : Planner} {metrics : List RequestedMetric} {dimensions : List Dimension} {r : Resolved}
  {schema : Schema} {joins : JoinGraph} {tables : Entries String Table} {k : MergeKeys}
  {plans : Entries Value TablePlan} {filters : Value} {q : QueryPlan} {sp : SoftwarePlan}
  {identifier : String} {c name : Value}

def mergeKeys (p : Planner) (r : Resolved) (dimensions : List Dimension)
    (tables : Entries String Table) : Outcome MergeKeys := do
  let schema ← p.registry.compile
  let joins ← JoinGraph.build ⟨schema, false, p.joinType⟩ r.participants.values dimensions
  joins.foldlM (addJoin tables (participantNames tables) r.dimensions) .none

theorem Assembled.mergeKeys_eq
    (assembled : Assembled p r dimensions schema joins tables k plans filters) :
    p.mergeKeys r dimensions tables = .ok k := by
  simp only [mergeKeys, Outcome.bind_eq_ok]
  exact ⟨schema, assembled.compiled, joins, assembled.built, assembled.keyed⟩

/-- The columns of the results of a table: the keys that its query groups by, and the partial
results of its metrics. -/
def headingsOf (r : Resolved) (k : MergeKeys) (identifier : String) : Headings where
  keys := keyAliases r k identifier
  others := ((metricsOf r identifier).flatMap fun e => partials e.2).map (·.aliasName)

def headings (r : Resolved) (k : MergeKeys) (plans : Entries Value TablePlan) (name : Value) :
    Headings :=
  ((plans.get? name).map fun plan => headingsOf r k plan.table.identifier).getD ⟨[], []⟩

theorem headings_text (sourced : Sourced tables r.dimensions joins k) (measured : r.Measured)
    (texts : ∀ d ∈ dimensions, ∃ name, d.aliasName = .text name)
    (bound : ∀ b ∈ r.dimensions, b.dimension ∈ dimensions)
    (column : c ∈ (headingsOf r k identifier).all) : ∃ s, c = .text s := by
  rcases List.mem_append.mp column with key | other
  · rcases mem_keyAliases.mp key with ⟨name, text, -⟩ | ⟨b, shared, rfl⟩ | ⟨b, own, -, rfl⟩
    · exact ⟨name, text⟩
    · exact texts _ (requested_of_selected sourced bound (.inr shared))
    · exact texts _ (bound b own)
  · obtain ⟨a, listed, rfl⟩ := List.mem_map.mp other
    obtain ⟨e, metric, listed⟩ := List.mem_flatMap.mp listed
    obtain ⟨same, name, text⟩ := measured.named e (List.mem_filter.mp metric).1
    exact ⟨_, partial_named listed (same ▸ text)⟩

section Assembled
variable (indexed : p.registry.Indexed) (sound : r.Sound p.registry dimensions)
  (assembled : Assembled p r dimensions schema joins tables k plans filters)
include indexed sound assembled

theorem Assembled.headings_eq (known : identifier ∈ tables.keys) :
    headings r k plans (nameAmong tables identifier) = headingsOf r k identifier := by
  obtain ⟨e, member, rfl⟩ := List.mem_map.mp known
  obtain ⟨plan, here⟩ := assembled.found indexed sound member
  rw [headings, here.found, Option.map_some, Option.getD_some, here.table, here.identifier]

theorem Assembled.laid (measured : r.Measured)
    (texts : ∀ d ∈ dimensions, ∃ name, d.aliasName = .text name)
    (apart : columnsApart (headings r k plans) r.dimensionAliases
      [nameAmong tables r.primary.identifier] k.relations = true) :
    Laid (headings r k plans) r.dimensionAliases (nameAmong tables r.primary.identifier)
      k.relations := by
  obtain ⟨tabled, -, -⟩ := assembled.tabled indexed sound
  obtain ⟨ordered, once⟩ := assembled.ordered indexed sound
  have sourced := keys_sourced tabled assembled.keyed
  have bound : ∀ b ∈ r.dimensions, b.dimension ∈ dimensions :=
    fun b member => (sound.bound b member).2.2
  have named : ∀ name ∈ nameAmong tables r.primary.identifier :: k.relations.map (·.target),
      ∃ identifier ∈ tables.keys, name = nameAmong tables identifier := by
    intro name merged
    obtain ⟨e, listed, rfl⟩ := List.mem_map.mp (once.subset merged)
    obtain ⟨known, same, -⟩ := assembled.placed indexed sound listed
    exact ⟨_, known, same⟩
  have columns : ∀ name ∈ nameAmong tables r.primary.identifier :: k.relations.map (·.target),
      ∀ c ∈ (headings r k plans name).all, ∃ s, c = .text s := by
    intro name merged c column
    obtain ⟨identifier, known, rfl⟩ := named name merged
    rw [assembled.headings_eq indexed sound known] at column
    exact headings_text sourced measured texts bound column
  refine ⟨ordered, once.nodup_iff.mpr (assembled.plans_nodup tabled), ?_, columns, ?_, ?_⟩
  · intro name merged
    obtain ⟨identifier, known, rfl⟩ := named name merged
    exact nameAmong_text tabled known
  · intro rel listed keyed
    obtain ⟨s, member, along⟩ := exists_of_mem_right
      (relations_along tabled (fun b member => texts _ (bound b member)) assembled.keyed) listed
    obtain ⟨tree, -⟩ := assembled.tree indexed sound
    obtain ⟨-, -, same⟩ := assembled.tabled indexed sound
    rw [along.source, assembled.headings_eq indexed sound
      (same.mem_iff.mpr (tree.source_mem member))]
    rcases along.keys with ⟨own, theirs⟩ | ⟨yields, -⟩
    · rw [JoinRelation.keyed, own, theirs] at keyed
      cases keyed
    · exact List.mem_append_left _ (mem_keyAliases.mpr yields)
  · intro before rel after split name merged c column column'
    have within : name ∈ nameAmong tables r.primary.identifier :: k.relations.map (·.target) := by
      rw [split, List.map_append, ← List.cons_append]
      exact List.mem_append_left _ merged
    exact shared_of_columnsApart apart split (columns name within c column) merged column column'

theorem Assembled.compares (known : identifier ∈ tables.keys) :
    Compares (headings r k plans) r.dimensionAliases k.relations (nameAmong tables identifier) := by
  intro c key free
  obtain ⟨tabled, -, -⟩ := assembled.tabled indexed sound
  have sourced := keys_sourced tabled assembled.keyed
  have requested : ∀ b ∈ r.dimensions, b.aliasName ∈ r.dimensionAliases :=
    fun b member => List.mem_map_of_mem member
  rw [assembled.headings_eq indexed sound known] at key
  rcases mem_keyAliases.mp key with ⟨name, rfl, member⟩ | ⟨b, shared, rfl⟩ | ⟨b, own, -, rfl⟩
  · obtain ⟨e, selected, rfl⟩ := List.mem_map.mp member
    obtain ⟨rel, listed, compares⟩ := sourced.compared identifier e selected
    have named : (Value.text e.1).isTrue = true := by
      rw [keyAlias_ok (sourced.aliased identifier e selected)]
      simp [Value.isTrue, Text.PartedName.text]
    refine ⟨rel, listed, ?_, ?_⟩
    · rw [JoinRelation.keyed, Bool.or_eq_true]
      rcases compares with own | theirs
      · exact .inl (own.2 ▸ named)
      · exact .inr (theirs.2 ▸ named)
    · exact compares.imp (.imp_right Eq.symm) (.imp_right Eq.symm)
  · obtain ⟨s, -, keyed⟩ := sourced.keyedBy identifier b shared
    obtain ⟨d, found, same⟩ := keyed.requested
    rw [BoundDimension.aliasName, same] at free
    exact absurd (requested d (List.mem_of_find?_eq_some found)) free
  · exact absurd (requested b own) free

end Assembled

/-! ## Plans -/

section Plans
variable (indexed : p.registry.Indexed) (brought : ∀ t, Brings metrics t → p.registry.Admits t)
  (measures : ∀ a, Asks metrics a → ∃ name, a.aliasName = .text name)
  (texts : ∀ d ∈ dimensions, ∃ name, d.aliasName = .text name)
  (resolved : p.resolve metrics dimensions = .ok r)
  (planned : p.plan metrics dimensions = .ok q) (software : q.joinPlan = .software sp)
  (keyed : p.mergeKeys r dimensions q.tables = .ok k)
include indexed brought resolved planned software keyed

theorem plan_assembled : ∃ schema joins filters,
    r.Sound p.registry dimensions ∧
      Assembled p r dimensions schema joins q.tables k sp.tables filters ∧
      sp.toMergePlan = (assemble r q.tables k sp.tables filters).toMergePlan := by
  obtain ⟨r', resolved', built⟩ := plan_software planned software
  obtain rfl := Except.ok.inj (resolved.symm.trans resolved')
  obtain ⟨schema, joins, k', filters, assembled, whole, -, -⟩ := softwarePlan_ok built software
  obtain rfl := Except.ok.inj (keyed.symm.trans assembled.mergeKeys_eq)
  exact ⟨schema, joins, filters, resolve_sound indexed brought resolved, assembled,
    congrArg SoftwarePlan.toMergePlan whole⟩

theorem plan_merges : (sp.primary :: sp.relations.map (·.target)).Perm sp.tables.keys ∧
    ∀ name ∈ sp.tables.keys,
      Compares (headings r k sp.tables) sp.dimensions sp.relations name := by
  obtain ⟨schema, joins, filters, sound, assembled, whole⟩ :=
    plan_assembled indexed brought resolved planned software keyed
  rw [whole]
  refine ⟨(assembled.ordered indexed sound).2, fun name merged => ?_⟩
  obtain ⟨e, listed, rfl⟩ := List.mem_map.mp merged
  obtain ⟨known, same, -⟩ := assembled.placed indexed sound listed
  rw [same]
  exact assembled.compares indexed sound known

include measures texts

theorem plan_laid (apart : columnsApart (headings r k sp.tables) sp.dimensions [sp.primary]
      sp.relations = true) :
    Laid (headings r k sp.tables) sp.dimensions sp.primary sp.relations := by
  obtain ⟨schema, joins, filters, sound, assembled, whole⟩ :=
    plan_assembled indexed brought resolved planned software keyed
  rw [whole] at apart ⊢
  exact assembled.laid indexed sound (resolve_measured measures resolved) texts apart

/-- A table that all relations of a plan touch is anchored, where tables share no columns but
dimensions that they are merged by. So a plan of two queries counts every row once. -/
theorem plan_anchors_center
    (apart : columnsApart (headings r k sp.tables) sp.dimensions [sp.primary] sp.relations = true)
    (center : ∀ rel ∈ sp.relations, rel.source = name ∨ rel.target = name)
    (free : (headings r k sp.tables name).others.all fun c => !sp.dimensions.contains c) :
    sp.anchors (headings r k sp.tables) name = true := by
  obtain ⟨once, compares⟩ := plan_merges indexed brought resolved planned software keyed
  have laid := plan_laid indexed brought measures texts resolved planned software keyed apart
  have anchored := anchored_of_center laid center fun table merged =>
    compares table (once.subset merged)
  rw [SoftwarePlan.anchors, apart, anchored, free]
  rfl

end Plans

/-- In a plan of several queries, no row that the query of a table returns is counted twice in a
group of the answer, for all results that the queries can have: the rows of each differ in the keys
that the query groups by. This holds of a table that the plan anchors. -/
theorem plan_counts_once (indexed : p.registry.Indexed)
    (brought : ∀ t, Brings metrics t → p.registry.Admits t)
    (measures : ∀ a, Asks metrics a → ∃ name, a.aliasName = .text name)
    (texts : ∀ d ∈ dimensions, ∃ name, d.aliasName = .text name)
    (planned : p.plan metrics dimensions = .ok q) (software : q.joinPlan = .software sp) :
    ∃ r k, p.resolve metrics dimensions = .ok r ∧ p.mergeKeys r dimensions q.tables = .ok k ∧
      (∀ e ∈ sp.tables, headings r k sp.tables e.1 = headingsOf r k e.2.table.identifier ∧
        e.2.query.Takes p.renderings e.2.table (selections r k e.2.table.identifier)) ∧
      ∀ e ∈ sp.tables, sp.anchors (headings r k sp.tables) e.1 = true → ∀ results answer,
        (∀ e ∈ sp.tables, (headings r k sp.tables e.1).Heads (Traced.fetched results e.1)) →
        sp.run results = .ok answer →
          sp.CountsOnce results e.1 (headings r k sp.tables e.1).others answer := by
  obtain ⟨r, resolved, built⟩ := plan_software planned software
  obtain ⟨schema, joins, k, filters, assembled, -⟩ := softwarePlan_ok built software
  have sound := resolve_sound indexed brought resolved
  have keyed := assembled.mergeKeys_eq
  refine ⟨r, k, resolved, keyed, ?_, ?_⟩
  · intro e listed
    obtain ⟨known, name, queried⟩ := assembled.placed indexed sound listed
    rw [name, assembled.headings_eq indexed sound known]
    exact ⟨rfl, tableQuery_takes queried⟩
  · intro e listed anchors results answer heads run
    simp only [SoftwarePlan.anchors, Bool.and_eq_true, List.all_eq_true, Bool.not_eq_true']
      at anchors
    obtain ⟨⟨apart, anchored⟩, free⟩ := anchors
    obtain ⟨once, -⟩ := plan_merges indexed brought resolved planned software keyed
    have laid := plan_laid indexed brought measures texts resolved planned software keyed apart
    have merged := once.mem_iff.mpr (List.mem_map_of_mem (f := (·.1)) listed)
    refine MergePlan.countsOnce laid ?_ anchored merged (List.subset_append_right _ _) ?_ run
    · intro name merged
      obtain ⟨e, listed, rfl⟩ := List.mem_map.mp (once.subset merged)
      exact heads e listed
    · intro c column requested
      have text := laid.texts e.1 merged c (List.mem_append_right _ column)
      cases (free c column).symm.trans ((Value.contains_iff text).mpr requested)

/-! ## Orders, customers and their tickets -/

open PathFinder (belonging)

def clients : Table :=
  { belonging "crm" "customers" [] with
    relations := [("tickets",
      { name := "tickets", type := .hasMany, target := "tickets", pivot := .null
        keys := [("local", "id"), ("foreign", "customer_id")] })] }

/-- Orders of customers for products, and tickets of customers, each of a provider of its own. -/
def support : Planner where
  registry := .ofSources [
    ⟨"shop", .indexed, .null,
      [yearly "shop" "orders" [("customer", "customers"), ("product", "products")]]⟩,
    ⟨"crm", .indexed, .null, [clients]⟩,
    ⟨"help", .indexed, .null, [belonging "help" "tickets" []]⟩,
    ⟨"stock", .indexed, .null, [belonging "stock" "products" []]⟩]
  drivers := ⟨[], some ⟨"main", "main", .sqlite, .relational, .bool true, .bool true⟩⟩
  renderings := .builtin
  joinType := "left"

def handled : List RequestedMetric :=
  [.aggregation ⟨.sum, "orders.total", "total", 0.5⟩,
    .aggregation ⟨.count, "tickets.id", "cases", 0.5⟩]

def delivered : List RequestedMetric :=
  handled ++ [.aggregation ⟨.count, "products.id", "goods", 0.5⟩]

/-- The orders of a customer in two years, and two tickets. -/
def twoYears : Entries Value (List Row) :=
  [("orders", [[("year", .int 2024), ("orders__customer_id", .int 1), ("total", .float 5)],
      [("year", .int 2025), ("orders__customer_id", .int 1), ("total", .float 7)]]),
    ("customers", [[("customers__id", .int 1)]]),
    ("tickets", [[("tickets__customer_id", .int 1), ("cases", .float 2)]])]

/-- The orders of a customer for two products, and two tickets. -/
def twoProducts : Entries Value (List Row) :=
  [("orders", [[("orders__customer_id", .int 1), ("orders__product_id", .int 10),
        ("total", .float 5)],
      [("orders__customer_id", .int 1), ("orders__product_id", .int 11), ("total", .float 7)]]),
    ("customers", [[("customers__id", .int 1)]]),
    ("products", [[("products__id", .int 10), ("goods", .float 1)],
      [("products__id", .int 11), ("goods", .float 1)]]),
    ("tickets", [[("tickets__customer_id", .int 1), ("cases", .float 2)]])]

theorem support_indexed : support.registry.Indexed := by
  apply Registry.indexed_ofSources
  intro s member
  simp only [List.mem_cons, List.not_mem_nil, or_false] at member
  rcases member with rfl | rfl | rfl | rfl <;>
    exact ⟨rfl, by simp [belonging, yearly, clients],
      by simp [Table.Plain, belonging, yearly, clients], List.nodup_singleton _⟩

theorem handled_named (a : Aggregation) (asked : Asks handled a) :
    ∃ name, a.aliasName = .text name := by
  rcases asked with member | ⟨source, member⟩
  · simp only [handled, List.mem_cons, List.not_mem_nil, or_false,
      RequestedMetric.aggregation.injEq] at member
    rcases member with rfl | rfl <;> exact ⟨_, rfl⟩
  · simp [handled] at member

theorem support_counts_once : ∃ r q sp k e answer, support.resolve handled [anyYear] = .ok r ∧
    support.plan handled [anyYear] = .ok q ∧ q.joinPlan = .software sp ∧
    support.mergeKeys r [anyYear] q.tables = .ok k ∧ e ∈ sp.tables ∧
    e.2.table.identifier = "help:tickets" ∧ sp.run twoYears = .ok answer ∧
    sp.CountsOnce twoYears e.1 (headings r k sp.tables e.1).others answer := by
  have shape : ((do
      let r ← support.resolve handled [anyYear]
      let q ← support.plan handled [anyYear]
      let k ← support.mergeKeys r [anyYear] q.tables
      return (r, q, k) : Outcome (Resolved × QueryPlan × MergeKeys)).toOption.any fun parts =>
        parts.2.1.joinPlan.software?.any fun sp =>
          let h := headings parts.1 parts.2.2 sp.tables
          (sp.tables.any fun e => e.2.table.identifier == "help:tickets" && sp.anchors h e.1) &&
            (sp.tables.all fun e => (h e.1).admits (Traced.fetched twoYears e.1)) &&
            (sp.run twoYears).toBool) = true := by decide +kernel
  obtain ⟨⟨r, q, k⟩, run, shape⟩ := Outcome.any_ok shape
  simp only [Outcome.bind_eq_ok, Outcome.pure_eq_ok, Prod.mk.injEq] at run
  obtain ⟨r, resolved, q, planned, k, keyed, rfl, rfl, rfl⟩ := run
  obtain ⟨sp, software, shape⟩ := JoinPlan.any_software shape
  simp only [Bool.and_eq_true, List.any_eq_true, List.all_eq_true, beq_iff_eq] at shape
  obtain ⟨⟨⟨e, listed, tickets, anchors⟩, admits⟩, ran⟩ := shape
  obtain ⟨answer, ran⟩ := Outcome.exists_ok ran
  obtain ⟨r', k', resolved', keyed', -, counts⟩ := plan_counts_once support_indexed
    (by rintro t ⟨source, a, member, -⟩; simp [handled] at member) handled_named
    (by simpa using ⟨"year", rfl⟩) planned software
  obtain rfl := Except.ok.inj (resolved.symm.trans resolved')
  obtain rfl := Except.ok.inj (keyed.symm.trans keyed')
  have counts := counts e listed anchors twoYears answer
    (fun e listed => Headings.heads_of_admits (admits e listed)) ran
  exact ⟨r, q, sp, k, e, answer, resolved, planned, software, keyed, listed, tickets, ran, counts⟩

/-- Where orders are merged with products as well, the one row of tickets is merged twice, and both
rows are in the one group. -/
theorem support_counts_twice : ∃ r q sp k ts, support.resolve delivered [] = .ok r ∧
    support.plan delivered [] = .ok q ∧ q.joinPlan = .software sp ∧
    support.mergeKeys r [] q.tables = .ok k ∧
    (∀ e ∈ sp.tables, (headings r k sp.tables e.1).Heads (Traced.fetched twoProducts e.1)) ∧
    traceResults sp.primary sp.relations twoProducts = .ok ts ∧
    mergeResults sp.primary sp.relations twoProducts = .ok (ts.map (·.row)) ∧
    (∃ g ∈ sp.groups (ts.map (·.row)), g.2 = ts.map (·.row)) ∧
    ts.filterMap (·.place? "tickets") = [0, 0] := by
  have shape : ((do
      let r ← support.resolve delivered []
      let q ← support.plan delivered []
      let k ← support.mergeKeys r [] q.tables
      return (r, q, k) : Outcome (Resolved × QueryPlan × MergeKeys)).toOption.any fun parts =>
        parts.2.1.joinPlan.software?.any fun sp =>
          (sp.tables.all fun e => (headings parts.1 parts.2.2 sp.tables e.1).admits
            (Traced.fetched twoProducts e.1)) &&
          (traceResults sp.primary sp.relations twoProducts).toOption.any fun ts =>
            (sp.groups (ts.map (·.row))).any (fun g => g.2.length == ts.length) &&
              ts.filterMap (·.place? "tickets") == [0, 0]) = true := by decide +kernel
  obtain ⟨⟨r, q, k⟩, run, shape⟩ := Outcome.any_ok shape
  simp only [Outcome.bind_eq_ok, Outcome.pure_eq_ok, Prod.mk.injEq] at run
  obtain ⟨r, resolved, q, planned, k, keyed, rfl, rfl, rfl⟩ := run
  obtain ⟨sp, software, shape⟩ := JoinPlan.any_software shape
  simp only [Bool.and_eq_true, List.all_eq_true] at shape
  obtain ⟨admits, shape⟩ := shape
  obtain ⟨ts, traced, shape⟩ := Outcome.any_ok shape
  simp only [Bool.and_eq_true, List.any_eq_true, beq_iff_eq] at shape
  obtain ⟨⟨g, group, size⟩, places⟩ := shape
  obtain ⟨schema, joins, filters, sound, assembled, whole⟩ := plan_assembled support_indexed
    (by rintro t ⟨source, a, listed, -⟩; simp [delivered, handled] at listed) resolved planned
    software keyed
  have ordered := (assembled.ordered support_indexed sound).1
  refine ⟨r, q, sp, k, ts, resolved, planned, software, keyed,
    fun e listed => Headings.heads_of_admits (admits e listed), traced, ?_,
    ⟨g, group, ?_⟩, places⟩
  · rw [MergeStep.traceResults_rows (by rw [whole]; exact ordered), traced]
    rfl
  · exact (Entries.mem_grouped group).1.eq_of_length (by rw [size, List.length_map])

end Planner
end Datacube
