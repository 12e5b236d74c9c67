import Datacube.Proofs.Plan.KeySources
import Datacube.Proofs.Plan.Steps

/-!
# The granularities of time buckets

A requested time dimension is checked against the dimension of its table that bears its name, before
its bucket is selected. So no query buckets a requested dimension more finely than that dimension
allows. What the table declares under another name does not count, even for the same column, and the
keys of joins on a shared dimension are no requested dimensions of their table.
-/

namespace Datacube

namespace BoundDimension
variable {b : BoundDimension} {dialect : Dialect} {bucket : Value} {ordered : Bool}
  {steps : List QueryStep}

/-- A bucket of the time column that a dimension is read from. -/
def Buckets (b : BoundDimension) (dialect : Dialect) (bucket : Value) : Prop :=
  ∃ granularity precision text, b.dimension.detail = .time granularity precision ∧
    dialect.timeBucket b.table.name b.column granularity = .ok text ∧ bucket = .text text

/-- A time dimension has a known granularity, which is no finer than the dimension of its table that
answers the request allows. -/
def Coarse (b : BoundDimension) : Prop :=
  ∀ granularity precision, b.dimension.detail = .time granularity precision →
    ∃ position, Dimension.granularities.findIdx? (· == granularity) = some position ∧
      ∀ declared, b.dimension.matching? b.table = some declared →
        ∀ minimum, declared.minimum? = .ok (some minimum) → minimum ≤ position

theorem values_resolve (requested : Dimension) (t : Table) :
    (requested.resolve [t]).values = (requested.matching? t).toList := by
  rw [Dimension.resolve, List.filterMap_cons]
  cases requested.matching? t <;> rfl

theorem coarse_of_check (checked : b.check dialect = .ok ()) : b.Coarse := by
  intro granularity precision detail
  rw [check, Dimension.checkGranularity, detail] at checked
  simp only at checked
  split at checked
  · cases checked
  · rename_i position found
    refine ⟨position, found, fun declared answers minimum allowed => ?_⟩
    split at checked
    · cases checked
    · have fits := Outcome.forM_ok checked declared (by simp [values_resolve, answers])
      rw [allowed] at fits
      simp only [bind, Except.bind] at fits
      split at fits
      · cases fits
      · rename_i coarse
        exact Nat.le_of_not_lt coarse

theorem buckets_of_steps (written : b.steps dialect ordered = .ok steps)
    (member : QueryStep.groupRaw bucket ∈ steps) : b.Buckets dialect bucket := by
  rw [BoundDimension.steps] at written
  split at written
  · rename_i granularity precision detail
    simp only [Outcome.bind_eq_ok, Outcome.pure_eq_ok] at written
    obtain ⟨text, truncated, quoted, -, rfl⟩ := written
    refine ⟨granularity, precision, text, detail, truncated, ?_⟩
    cases ordered <;> simpa using member
  · rw [← Except.ok.inj written] at member
    cases ordered <;> simp at member

end BoundDimension

/-! ## The buckets of a query -/

def QueryStep.Unbucketed (s : QueryStep) : Prop := ∀ bucket, s ≠ .groupRaw bucket

theorem QueryStep.Constrains.unbucketed {s : QueryStep} (constrains : s.Constrains) :
    s.Unbucketed := by
  rintro bucket rfl
  exact constrains

namespace Query
variable {q q' : Query} {P Q : BoundDimension → Prop} {d : BoundDimension} {ordered : Bool}

/-- All buckets of a query are those of certain dimensions. -/
def BucketsBy (P : BoundDimension → Prop) (q : Query) : Prop :=
  ∀ bucket, QueryStep.groupRaw bucket ∈ q.steps →
    ∃ b, P b ∧ b.Buckets q.driver.dialect bucket

theorem BucketsBy.mono (buckets : q.BucketsBy P) (imp : ∀ b, P b → Q b) : q.BucketsBy Q :=
  fun bucket member =>
    have ⟨b, holds, same⟩ := buckets bucket member
    ⟨b, imp b holds, same⟩

theorem BucketsBy.adds (buckets : q.BucketsBy P) (adds : q.Adds QueryStep.Unbucketed q') :
    q'.BucketsBy P := by
  obtain ⟨steps, plain, rfl⟩ := adds
  intro bucket member
  rcases List.mem_append.mp member with old | new
  · exact buckets bucket old
  · exact absurd rfl (plain _ new bucket)

theorem BucketsBy.selectDimension (buckets : q.BucketsBy P) (holds : P d)
    (selected : q.selectDimension d ordered = .ok q') : q'.BucketsBy P := by
  rw [Query.selectDimension, Outcome.bind_eq_ok] at selected
  obtain ⟨steps, written, added⟩ := selected
  obtain rfl := addAll_ok added
  intro bucket member
  rcases List.mem_append.mp member with old | new
  · exact buckets bucket old
  · exact ⟨d, holds, BoundDimension.buckets_of_steps written new⟩

end Query

theorem Driver.queryFor_bucketsBy {P : BoundDimension → Prop} {d : Driver} {t : Table} {q : Query}
    (read : d.queryFor t = .ok q) : q.BucketsBy P := by
  obtain rfl := Driver.queryFor_ok read
  intro bucket member
  simp only [Query.extend, Query.blank, Table.sourceSteps, List.nil_append] at member
  split at member
  · simp at member
  · split at member <;> simp at member

theorem JoinGraph.steps_unbucketed {joins : JoinGraph} {s : QueryStep} (member : s ∈ joins.steps) :
    s.Unbucketed := by
  obtain ⟨j, -, inside⟩ := List.mem_flatMap.mp member
  rintro bucket rfl
  have plain : ∀ table, QueryStep.groupRaw bucket ∉ j.toJoin.discriminator table := by
    intro table
    rw [Join.discriminator]
    split <;> simp
  rw [Join.steps] at inside
  split at inside <;> simp [Join.on, plain] at inside
  split at inside <;> simp at inside

namespace Planner
variable {p : Planner} {metrics : List RequestedMetric} {dimensions : List Dimension} {r : Resolved}
  {driver : Driver} {plan : QueryPlan} {query q q' : Query} {k k' : MergeKeys} {t : Table}
  {identifier : String} {tables : Entries String Table} {b : BoundDimension}
  {joins : List JoinStep} {P : BoundDimension → Prop}

/-! ## Native plans -/

theorem addDimension_coarse (added : addDimension driver q b = .ok q') (buckets : q.BucketsBy P)
    (holds : P b) : b.Coarse ∧ q'.BucketsBy P := by
  simp only [addDimension, Outcome.bind_eq_ok] at added
  obtain ⟨⟨⟩, checked, selected, here, filtered⟩ := added
  refine ⟨BoundDimension.coarse_of_check checked, ?_⟩
  exact (buckets.selectDimension holds here).adds
    ((Query.filter_adds filtered).mono fun _ => QueryStep.Constrains.unbucketed)

theorem metrics_bucketsBy {aggregations : List Aggregation} {renderings : Renderings}
    (run : aggregations.foldlM (·.selectMetric renderings ·) q = .ok q')
    (buckets : q.BucketsBy P) : q'.BucketsBy P := by
  refine buckets.adds (Query.foldlM_adds (fun q a _ q' selected => ?_) run)
  obtain ⟨text, -, rfl⟩ := Query.selectMetric_ok selected
  exact ⟨_, by simp [QueryStep.Unbucketed], rfl⟩

theorem nativePlan_coarse (planned : p.nativePlan driver r dimensions = .ok plan) :
    (∀ b ∈ r.dimensions, b.Coarse) ∧
      ∀ query, plan.query = some query → query.BucketsBy (· ∈ r.dimensions) := by
  simp only [nativePlan, Outcome.bind_eq_ok, Outcome.pure_eq_ok] at planned
  obtain ⟨_, -, joins, -, _, -, q₀, read, q₁, joined, q₂, grouped, q₃, measured, rfl⟩ := planned
  have start : q₁.BucketsBy (· ∈ r.dimensions) := (Driver.queryFor_bucketsBy read).adds
    ((Query.addAll_adds joined).mono fun _ => JoinGraph.steps_unbucketed)
  have final := Outcome.foldlM_induction (fun before (q : Query) =>
    (∀ b ∈ before, b.Coarse) ∧ q.BucketsBy (· ∈ r.dimensions)) grouped ⟨by simp, start⟩ ?_
  · refine ⟨final.1, fun query native => ?_⟩
    rw [← Option.some.inj native]
    exact metrics_bucketsBy measured final.2
  · rintro before b inside q q' ⟨coarse, buckets⟩ added
    obtain ⟨here, buckets'⟩ := addDimension_coarse added buckets (inside.subset (by simp))
    exact ⟨List.forall_mem_append.mpr ⟨coarse, by simpa using here⟩, buckets'⟩

/-! ## Software plans -/

theorem selectOwned_coarse (selected : selectOwned q b = .ok q') (buckets : q.BucketsBy P)
    (holds : P b) : b.Coarse ∧ q'.BucketsBy P := by
  simp only [selectOwned, Outcome.bind_eq_ok] at selected
  obtain ⟨⟨⟩, checked, selected⟩ := selected
  exact ⟨BoundDimension.coarse_of_check checked, buckets.selectDimension holds selected⟩

/-- The dimensions that the query of a table may bucket: requested ones, and its keys. -/
def Bucketable (r : Resolved) (k : MergeKeys) (identifier : String) (b : BoundDimension) : Prop :=
  b ∈ r.dimensions ∨ b ∈ (k.dimensions.get? identifier).getD []

/-- The query of a table checks the requested dimensions that are read from it. -/
theorem tableQuery_coarse (queried : p.tableQuery r k identifier t = .ok q) :
    (∀ b ∈ r.dimensions, b.table.identifier = identifier → b.Coarse) ∧
      q.BucketsBy (Bucketable r k identifier) := by
  simp only [tableQuery, Outcome.bind_eq_ok] at queried
  obtain ⟨driver, -, q₀, read, q₁, owned, q₂, shared, q₃, columns, measured⟩ := queried
  have first := Outcome.foldlM_induction (fun before (q : Query) =>
    (∀ b ∈ before, b.Coarse) ∧ q.BucketsBy (Bucketable r k identifier)) owned
    ⟨by simp, Driver.queryFor_bucketsBy read⟩ ?_
  · have second := Outcome.foldlM_induction
      (fun _ (q : Query) => q.BucketsBy (Bucketable r k identifier)) shared first.2
      fun before b inside q q' buckets selected =>
        buckets.selectDimension (.inr (inside.subset (by simp))) selected
    have third : q₂.Adds QueryStep.Unbucketed q₃ :=
      Query.foldlM_adds (fun _ _ _ _ selected =>
        (Query.addAll_adds selected).mono (by simp [QueryStep.Unbucketed])) columns
    refine ⟨fun b requested same => first.1 b
      (List.mem_filter.mpr ⟨requested, beq_iff_eq.mpr same⟩), ?_⟩
    exact Outcome.foldlM_keeps (Query.BucketsBy (Bucketable r k identifier)) measured
      (second.adds third) fun _ _ _ buckets selected => metrics_bucketsBy selected buckets
  · rintro before b inside q q' ⟨coarse, buckets⟩ selected
    have requested := (List.mem_filter.mp (inside.subset (by simp) : b ∈ _)).1
    obtain ⟨here, buckets'⟩ := selectOwned_coarse selected buckets (.inl requested)
    exact ⟨List.forall_mem_append.mpr ⟨coarse, by simpa using here⟩, buckets'⟩

/-- A relation that compares a dimension on both sides. -/
def SharedBy (relations : List JoinRelation) (b : BoundDimension) : Prop :=
  ∃ relation ∈ relations, relation.sourceAlias = relation.targetAlias ∧
    (b.aliasName == relation.sourceAlias) = true

/-- The dimensions that serve as keys are those that relations compare on both sides. -/
theorem keys_shared {dimensions : List BoundDimension}
    (run : joins.foldlM (addJoin tables (participantNames tables) dimensions) .none = .ok k) :
    ∀ identifier, ∀ b ∈ (k.dimensions.get? identifier).getD [], SharedBy k.relations b := by
  refine Outcome.foldlM_induction (fun _ (k : MergeKeys) => ∀ identifier,
    ∀ b ∈ (k.dimensions.get? identifier).getD [], SharedBy k.relations b) run nofun ?_
  intro done s _ k k' shared added identifier b member
  obtain ⟨before, own, theirs, keyed, rfl⟩ := addJoin_ok added
  have grown : ∀ {identifier b}, b ∈ (k.dimensions.get? identifier).getD [] →
      SharedBy (before.addRelation (nameAmong tables s.sourceId) (nameAmong tables s.targetId)
        s.type own theirs).relations b := by
    intro identifier b old
    obtain ⟨relation, listed, same⟩ := shared identifier b old
    exact ⟨relation, List.mem_append_left _ (keyed.relations ▸ listed), same⟩
  cases keyed with
  | unkeyed => exact grown member
  | columns => exact grown member
  | @dimension d _ _ _ requested =>
      have found := List.find?_some requested
      rcases mem_addDimensionKey member with earlier | ⟨-, rfl, -⟩
      · rcases mem_addDimensionKey earlier with old | ⟨-, rfl, -⟩
        · exact grown old
        · exact ⟨_, List.mem_append_right _ (List.mem_singleton_self _), rfl, found⟩
      · exact ⟨_, List.mem_append_right _ (List.mem_singleton_self _), rfl, found⟩

section Assembled
variable {schema : Schema} {joins : JoinGraph} {plans : Entries Value TablePlan} {filters : Value}
  (assembled : Assembled p r dimensions schema joins tables k plans filters)
include assembled

theorem Assembled.coarse : ∀ b ∈ r.dimensions, b.Coarse := by
  have queried : ∀ e ∈ tables, ∃ query, p.tableQuery r k e.1 e.2 = .ok query := by
    refine Outcome.foldlM_induction (fun before _ => ∀ e ∈ before, ∃ query,
      p.tableQuery r k e.1 e.2 = .ok query) assembled.planned nofun ?_
    intro before e _ _ _ earlier added
    rw [Outcome.bind_eq_ok] at added
    obtain ⟨query, queried, -⟩ := added
    exact List.forall_mem_append.mpr ⟨earlier, by simpa using ⟨query, queried⟩⟩
  intro b requested
  have participates : b.table.identifier ∈
      (gather (·.table) r.metricTables r.dimensions).keys := mem_keys_gather requested
  obtain ⟨e, listed, same⟩ := List.mem_map.mp participates
  obtain ⟨query, queried⟩ :=
    queried e ((prefix_pathTables assembled.passed).subset listed)
  exact (tableQuery_coarse queried).1 b requested same.symm

theorem Assembled.bucketsBy : ∀ plan ∈ plans.values,
    plan.query.BucketsBy fun b => b ∈ r.dimensions ∨ SharedBy k.relations b := by
  intro plan member
  obtain ⟨e, -, -, queried⟩ := assembled.queried plan member
  exact (tableQuery_coarse queried).2.mono fun b =>
    Or.imp_right (keys_shared assembled.keyed e.1 b)

end Assembled

/-! ## All plans -/

theorem dimensions_of_resolve (resolved : p.resolve metrics dimensions = .ok r) :
    r.dimensions.map (·.dimension) = dimensions := by
  obtain ⟨_, _, -, -, -, -, -, binds⟩ := resolve_ok resolved
  have same : List.Forall₂ (fun d (b : BoundDimension) => b.dimension = d) dimensions
      r.dimensions :=
    (Outcome.mapM_ok binds).imp fun _ _ bound => (bindDimension_ok bound).1
  rw [← List.forall₂_eq_eq_eq, List.forall₂_map_left_iff]
  exact same.flip

/-- No requested dimension is bucketed more finely than the dimension of its table that answers the
request allows, and queries bucket no others but shared ones. -/
theorem plan_coarse (planned : p.plan metrics dimensions = .ok plan) :
    ∃ r, p.resolve metrics dimensions = .ok r ∧ r.dimensions.map (·.dimension) = dimensions ∧
      (∀ b ∈ r.dimensions, b.Coarse) ∧
      (∀ query, plan.query = some query → query.BucketsBy (· ∈ r.dimensions)) ∧
      ∀ sp, plan.joinPlan = .software sp → ∀ table ∈ sp.tables.values,
        table.query.BucketsBy fun b => b ∈ r.dimensions ∨ SharedBy sp.relations b := by
  obtain ⟨r, resolved, ⟨driver, native⟩ | built⟩ := plan_cases planned
  · obtain ⟨coarse, buckets⟩ := nativePlan_coarse native
    refine ⟨r, resolved, dimensions_of_resolve resolved, coarse, buckets, fun sp software => ?_⟩
    obtain ⟨joins, q, -, joined, -⟩ := nativePlan_ok native
    rw [software] at joined
    split at joined <;> cases joined
  · obtain ⟨sp, software⟩ := softwarePlan_software built
    obtain ⟨schema, joins, k, filters, assembled, whole, -⟩ := softwarePlan_ok built software
    refine ⟨r, resolved, dimensions_of_resolve resolved, assembled.coarse, fun query native => ?_,
      fun sp' software' => ?_⟩
    · cases (softwarePlan_query built).symm.trans native
    · obtain rfl := JoinPlan.software.inj (software.symm.trans software')
      have shared : sp.relations = k.relations := by rw [whole]; rfl
      exact shared ▸ assembled.bucketsBy

/-! ## Orders by the day -/

open PathFinder (belonging)

def createdAt : Dimension :=
  { Dimension.make .time "created_at" with metadata := .object [("minGranularity", "day")] }

/-- Orders, the time of which is known by the day. -/
def dailyOrders : Table :=
  { belonging "shop" "orders" [] with dimensions := .ofDimensions [createdAt] }

def calendar : Planner where
  registry := .ofSources [⟨"shop", .indexed, .null, [dailyOrders]⟩]
  drivers := ⟨[], some ⟨"main", "main", .postgres, .recorded, .bool true, .bool true⟩⟩
  renderings := .builtin
  joinType := "left"

def ordersTotal : List RequestedMetric := [.aggregation ⟨.sum, "orders.total", "total", 0.5⟩]

def createdBy (granularity : String) : Dimension :=
  { Dimension.make .time "orders.created_at" with detail := .time granularity "timestamp" }

theorem calendar_coarse : ∃ plan r, calendar.plan ordersTotal [createdBy "month"] = .ok plan ∧
    plan.query.isSome = true ∧ calendar.resolve ordersTotal [createdBy "month"] = .ok r ∧
    r.dimensions.map (·.dimension) = [createdBy "month"] ∧ (∀ b ∈ r.dimensions, b.Coarse) ∧
    (∀ query, plan.query = some query → query.BucketsBy (· ∈ r.dimensions)) ∧
    ∀ sp, plan.joinPlan = .software sp → ∀ table ∈ sp.tables.values,
      table.query.BucketsBy fun b => b ∈ r.dimensions ∨ SharedBy sp.relations b := by
  obtain ⟨plan, planned, native⟩ := Outcome.any_ok (show
    (calendar.plan ordersTotal [createdBy "month"]).toOption.any (·.query.isSome) by
    decide +kernel)
  obtain ⟨r, resolved, rest⟩ := plan_coarse planned
  exact ⟨plan, r, planned, native, resolved, rest⟩

/-- The hours of a column whose time is known by the day, under another name. -/
def placedHourly : BoundDimension :=
  ⟨(createdBy "hour").withName "placed", dailyOrders, "created_at"⟩

def isBucket (text : String) : QueryStep → Bool
  | .groupRaw v => v == .text text
  | _ => false

theorem mem_of_isBucket {steps : List QueryStep} {text : String}
    (found : steps.any (isBucket text) = true) : .groupRaw (.text text) ∈ steps := by
  obtain ⟨s, member, same⟩ := List.any_eq_true.mp found
  cases s with
  | groupRaw v => exact (Value.beq_text v text).mp same ▸ member
  | _ => cases same

/-- The table declares the column by the day, but not under the name that the request gives it. -/
theorem calendar_by_hours : ∃ r plan query bucket,
    calendar.resolve ordersTotal [placedHourly.dimension] = .ok r ∧ placedHourly ∈ r.dimensions ∧
    calendar.plan ordersTotal [placedHourly.dimension] = .ok plan ∧ plan.query = some query ∧
    .groupRaw bucket ∈ query.steps ∧ placedHourly.Buckets query.driver.dialect bucket ∧
    createdAt ∈ placedHourly.table.dimensions.values ∧ createdAt.kind = .time ∧
    .text createdAt.column = placedHourly.column ∧
    ∃ position ∈ Dimension.granularities.findIdx? (· == "hour"),
      ∃ minimum, createdAt.minimum? = .ok (some minimum) ∧ position < minimum := by
  have bound : (calendar.resolve ordersTotal [placedHourly.dimension]).toOption.map
      (·.dimensions) = some [placedHourly] := rfl
  cases resolved : calendar.resolve ordersTotal [placedHourly.dimension] with
  | error e =>
      rw [resolved] at bound
      cases bound
  | ok r =>
      rw [resolved] at bound
      obtain ⟨plan, planned, shape⟩ := Outcome.any_ok (show
        (calendar.plan ordersTotal [placedHourly.dimension]).toOption.any fun plan =>
          plan.query.any fun query =>
            (query.driver.dialect.timeBucket "orders" "created_at" "hour").toOption.any
              fun text => query.steps.any (isBucket text) by decide +kernel)
      obtain ⟨query, native, shape⟩ := (Option.any_eq_true _ _).mp shape
      obtain ⟨text, truncated, grouped⟩ := Outcome.any_ok shape
      have listed : r.dimensions = [placedHourly] := Option.some.inj bound
      exact ⟨r, plan, query, .text text, rfl, listed ▸ List.mem_singleton_self _, planned, native,
        mem_of_isBucket grouped, ⟨"hour", "timestamp", text, rfl, truncated, rfl⟩,
        List.mem_singleton_self _, rfl, rfl, 1, rfl, 2, rfl, by decide⟩

end Planner
end Datacube
