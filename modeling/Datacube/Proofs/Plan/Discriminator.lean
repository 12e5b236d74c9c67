import Datacube.Proofs.Plan.Steps

/-!
# Polymorphic relations in plans

The rows of a polymorphic relation belong to rows of several classes, and a column tells which. A
native plan fixes the class for every join along such a relation. The queries of a software plan
take in no condition at all, so there the rows of every class are related.
-/

namespace Datacube

/-- The condition that a join puts on the rows of a polymorphic relation with a known class: on the
table that points to the others when the relation does, else on the table that is pointed from. -/
def Join.classCondition? (j : Join) : Option QueryStep :=
  let type := j.relation.key "morph_type"
  let expected := j.relation.key "morph_class"
  let keeper := match j.relation.type with
    | .morphTo => some j.source
    | .morphMany => some j.target
    | _ => none
  if type.isTrue && expected.isTrue then
    keeper.map fun table => .filter (Join.qualify table type) "=" expected
  else none

theorem Join.classCondition_mem {j : Join} {step : QueryStep}
    (condition : j.classCondition? = some step) : step ∈ j.steps := by
  simp only [classCondition?] at condition
  split at condition
  · rename_i declared
    obtain ⟨table, keeper, rfl⟩ := Option.map_eq_some_iff.mp condition
    have fixed : j.discriminator table = [.filter (qualify table (j.relation.key "morph_type")) "="
        (j.relation.key "morph_class")] := if_pos declared
    cases kind : j.relation.type <;> simp only [kind, Option.some.injEq, reduceCtorEq] at keeper
    all_goals
      rw [← keeper] at fixed ⊢
      simp [Join.steps, kind, fixed]
  · cases condition

theorem Join.classCondition_constrains {j : Join} {step : QueryStep}
    (condition : j.classCondition? = some step) : step.Constrains := by
  simp only [classCondition?] at condition
  split at condition
  · obtain ⟨table, -, rfl⟩ := Option.map_eq_some_iff.mp condition
    trivial
  · cases condition

namespace Planner
variable {p : Planner} {metrics : List RequestedMetric} {dimensions : List Dimension}
  {q : QueryPlan} {sp : SoftwarePlan}

theorem softwarePlan_unconstrained {r : Resolved} (planned : p.softwarePlan r dimensions = .ok q)
    (software : q.joinPlan = .software sp) :
    ∀ plan ∈ sp.tables.values, ∀ step ∈ plan.query.steps, ¬ step.Constrains := by
  intro plan member
  obtain ⟨_, _, k, _, assembled, -⟩ := softwarePlan_ok planned software
  obtain ⟨e, -, -, queried⟩ := assembled.queried plan member
  exact (tableQuery_selects queried).2

/-- In a native plan the query fixes the class of every polymorphic relation that it joins along. In
a software plan no query leaves out any rows, so no class is fixed. -/
theorem plan_discriminates (planned : p.plan metrics dimensions = .ok q) :
    (∀ joins, q.joinPlan = .database joins → ∃ query, q.query = some query ∧
      ∀ s ∈ joins, ∀ step, s.classCondition? = some step → step ∈ query.steps) ∧
    (∀ sp, q.joinPlan = .software sp → ∀ plan ∈ sp.tables.values, ∀ step ∈ plan.query.steps,
      ¬ step.Constrains) := by
  obtain ⟨r, -, ⟨driver, native⟩ | software⟩ := plan_cases planned
  · obtain ⟨joins, query, answered, joined, taken, -⟩ := nativePlan_ok native
    rw [joined]
    split
    · exact ⟨nofun, nofun⟩
    · refine ⟨?_, nofun⟩
      rintro _ ⟨⟩
      refine ⟨query, answered, fun s member step condition => taken ?_⟩
      exact List.mem_flatMap.mpr ⟨s, member, Join.classCondition_mem condition⟩
  · obtain ⟨sp, joined⟩ := softwarePlan_software software
    refine ⟨fun joins native => ?_, fun sp joined => softwarePlan_unconstrained software joined⟩
    rw [joined] at native
    cases native

/-! ## Comments on posts -/

/-- Comments, each of which points to a post or to a row of another class. -/
def comments : Table :=
  { PathFinder.belonging "blog" "comments" [] with
    relations := [("subject",
      { name := "subject", type := .morphTo, target := "posts", pivot := .null
        keys := [("foreign", "subject_id"), ("owner", "id"), ("morph_type", "subject_type"),
          ("morph_class", "post")] })] }

def feed (sources : List Source) : Planner where
  registry := .ofSources sources
  drivers := ⟨[], some ⟨"main", "main", .sqlite, .recorded, .bool true, .bool true⟩⟩
  renderings := .builtin
  joinType := "left"

def feedTogether : Planner :=
  feed [⟨"blog", .indexed, .null, [comments, PathFinder.belonging "blog" "posts" []]⟩]

def feedApart : Planner :=
  feed [⟨"blog", .indexed, .null, [comments]⟩,
    ⟨"cms", .indexed, .null, [PathFinder.belonging "cms" "posts" []]⟩]

def commentCount : List RequestedMetric :=
  [.aggregation ⟨.count, "comments.id", "comments", 0.5⟩]

def titles : List Dimension := [.make .plain "posts.title"]

theorem feedTogether_discriminates : ∃ q query, feedTogether.plan commentCount titles = .ok q ∧
    q.query = some query ∧
    .filter (Join.qualify "comments" "subject_type") "=" "post" ∈ query.steps := by
  have shape : ((feedTogether.plan commentCount titles).toOption.any fun q =>
      q.joinPlan.database?.any fun joins => joins.any fun s => s.relation.type == .morphTo &&
        s.source.isText "comments" && (s.relation.key "morph_type").isText "subject_type" &&
        (s.relation.key "morph_class").isText "post") = true := by decide +kernel
  obtain ⟨q, planned, shape⟩ := Outcome.any_ok shape
  obtain ⟨joins, joined, shape⟩ := JoinPlan.any_database shape
  obtain ⟨s, member, holds⟩ := List.any_eq_true.mp shape
  simp only [Bool.and_eq_true, beq_iff_eq, Value.isText_iff] at holds
  obtain ⟨⟨⟨morph, source⟩, type⟩, expected⟩ := holds
  obtain ⟨query, answered, fixed⟩ := (plan_discriminates planned).1 joins joined
  refine ⟨q, query, planned, answered, fixed s member _ ?_⟩
  simp [Join.classCondition?, morph, source, type, expected, Value.isTrue]

/-- With a provider of its own for each table the same relation fixes no class: the plan joins along
it, and none of its queries has the condition. -/
theorem feedApart_undiscriminated : ∃ q sp r schema joins,
    feedApart.plan commentCount titles = .ok q ∧ q.joinPlan = .software sp ∧
    feedApart.resolve commentCount titles = .ok r ∧ feedApart.registry.compile = .ok schema ∧
    JoinGraph.build ⟨schema, false, feedApart.joinType⟩ r.participants.values titles = .ok joins ∧
    ∃ s ∈ joins, ∃ step, s.classCondition? = some step ∧
      ∀ plan ∈ sp.tables.values, step ∉ plan.query.steps := by
  have software : (feedApart.plan commentCount titles).toOption.any QueryPlan.isSoftware = true := by
    decide +kernel
  have conditioned : (do
      let r ← feedApart.resolve commentCount titles
      let schema ← feedApart.registry.compile
      let joins ←
        JoinGraph.build ⟨schema, false, feedApart.joinType⟩ r.participants.values titles
      return joins.any fun s => s.classCondition?.isSome : Outcome Bool).toOption.any id = true := by
    decide +kernel
  obtain ⟨q, planned, software⟩ := Outcome.any_ok software
  obtain ⟨found, joined, rfl⟩ := Outcome.any_ok conditioned
  simp only [Outcome.bind_eq_ok, Outcome.pure_eq_ok] at joined
  obtain ⟨r, resolved, schema, compiled, joins, built, some'⟩ := joined
  obtain ⟨s, member, condition⟩ := List.any_eq_true.mp some'
  obtain ⟨step, condition⟩ := Option.isSome_iff_exists.mp condition
  obtain ⟨sp, plan⟩ : ∃ sp, q.joinPlan = .software sp := by
    rw [QueryPlan.isSoftware] at software
    split at software
    · exact ⟨_, ‹_›⟩
    · cases software
  obtain ⟨r', resolved', built'⟩ := plan_software planned plan
  refine ⟨q, sp, r, schema, joins, planned, plan, resolved, compiled, built, s, member, step,
    condition, fun tablePlan listed inside => ?_⟩
  exact softwarePlan_unconstrained built' plan tablePlan listed step inside
    (Join.classCondition_constrains condition)

end Planner
end Datacube
