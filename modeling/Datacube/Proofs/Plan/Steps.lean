import Datacube.Proofs.Plan.Assembly
import Datacube.Proofs.Plan.Layout

/-!
# The steps that queries are built from

Building a query only ever adds steps to it, so what a query selects at one point it selects in the
end. The query of a table in a software plan takes in no step that constrains its rows.
-/

namespace Datacube

/-- A step that leaves out rows. -/
def QueryStep.Constrains : QueryStep → Prop
  | .filter .. | .filterIn .. | .filterOut .. => True
  | _ => False

/-! ## Added steps -/

namespace Query
variable {α : Type} {P Q : QueryStep → Prop} {q q' q'' : Query} {f : Query → α → Outcome Query}
  {items : List α} {steps : List QueryStep}

/-- One query is another one with more steps, all of one kind. -/
def Adds (P : QueryStep → Prop) (q q' : Query) : Prop :=
  ∃ steps, (∀ s ∈ steps, P s) ∧ q' = q.extend steps

theorem Adds.refl (q : Query) : q.Adds P q := ⟨[], nofun, q.extend_nil.symm⟩

theorem Adds.trans (first : q.Adds P q') (second : q'.Adds P q'') : q.Adds P q'' := by
  obtain ⟨steps, all, rfl⟩ := first
  obtain ⟨more, all', rfl⟩ := second
  exact ⟨steps ++ more, List.forall_mem_append.mpr ⟨all, all'⟩, extend_extend q steps more⟩

theorem Adds.mono (adds : q.Adds P q') (imp : ∀ s, P s → Q s) : q.Adds Q q' := by
  obtain ⟨steps, all, rfl⟩ := adds
  exact ⟨steps, fun s member => imp s (all s member), rfl⟩

theorem Adds.driver (adds : q.Adds P q') : q'.driver = q.driver := by
  obtain ⟨steps, -, rfl⟩ := adds
  rfl

theorem Adds.subset (adds : q.Adds P q') : q.steps ⊆ q'.steps := by
  obtain ⟨steps, -, rfl⟩ := adds
  exact List.subset_append_left _ _

theorem Adds.keeps (adds : q.Adds P q') (all : ∀ s ∈ q.steps, P s) : ∀ s ∈ q'.steps, P s := by
  obtain ⟨steps, added, rfl⟩ := adds
  exact List.forall_mem_append.mpr ⟨all, added⟩

theorem addAll_adds (added : q.addAll steps = .ok q') : q.Adds (· ∈ steps) q' :=
  ⟨steps, fun _ member => member, addAll_ok added⟩

theorem foldlM_adds (each : ∀ q, ∀ x ∈ items, ∀ q', f q x = .ok q' → q.Adds P q')
    (run : items.foldlM f q = .ok q') : q.Adds P q' := by
  induction items generalizing q with
  | nil => exact Outcome.pure_eq_ok.mp run ▸ .refl q
  | cons x rest ih =>
      rw [List.foldlM_cons, Outcome.bind_eq_ok] at run
      obtain ⟨next, stepped, run⟩ := run
      exact (each q x List.mem_cons_self next stepped).trans
        (ih (fun q y later => each q y (List.mem_cons_of_mem x later)) run)

/-- Every item of a run has a query that it was added to, and one that it led to. -/
theorem foldlM_at (each : ∀ q, ∀ x ∈ items, ∀ q', f q x = .ok q' → q.Adds P q')
    (run : items.foldlM f q = .ok q') {x : α} (member : x ∈ items) :
    ∃ before after, q.Adds P before ∧ f before x = .ok after ∧ after.Adds P q' := by
  induction items generalizing q with
  | nil => cases member
  | cons y rest ih =>
      rw [List.foldlM_cons, Outcome.bind_eq_ok] at run
      obtain ⟨next, stepped, run⟩ := run
      have later := fun q z listed => each q z (List.mem_cons_of_mem y listed)
      rcases List.mem_cons.mp member with rfl | member
      · exact ⟨q, next, .refl q, stepped, foldlM_adds later run⟩
      · obtain ⟨before, after, first, step, second⟩ := ih later run member
        exact ⟨before, after, (each q y List.mem_cons_self next stepped).trans first, step, second⟩

/-! ## Dimensions, keys and metrics -/

def Selects (q : Query) (d : BoundDimension) (ordered : Bool) : Prop :=
  ∃ steps, d.steps q.driver.dialect ordered = .ok steps ∧ steps ⊆ q.steps

variable {d : BoundDimension} {ordered : Bool}

theorem Selects.adds (selects : q.Selects d ordered) (adds : q.Adds P q') :
    q'.Selects d ordered := by
  obtain ⟨steps, written, inside⟩ := selects
  exact ⟨steps, adds.driver ▸ written, List.Subset.trans inside adds.subset⟩

theorem selectDimension_selects (selected : q.selectDimension d ordered = .ok q') :
    q'.Selects d ordered := by
  rw [selectDimension, Outcome.bind_eq_ok] at selected
  obtain ⟨steps, written, added⟩ := selected
  rw [addAll_ok added]
  exact ⟨steps, written, List.subset_append_right _ _⟩

theorem selectDimension_adds (selected : q.selectDimension d ordered = .ok q') :
    q.Adds (¬ ·.Constrains) q' := by
  rw [selectDimension, Outcome.bind_eq_ok] at selected
  obtain ⟨steps, written, added⟩ := selected
  refine (addAll_adds added).mono ?_
  rw [BoundDimension.steps] at written
  split at written
  · simp only [Outcome.bind_eq_ok, Outcome.pure_eq_ok] at written
    obtain ⟨bucket, -, quoted, -, rfl⟩ := written
    cases ordered <;> simp [QueryStep.Constrains]
  · rw [← Except.ok.inj written]
    cases ordered <;> simp [QueryStep.Constrains]

theorem selectKey_adds {reference aliasName : String}
    (selected : q.selectKey reference aliasName = .ok q') : q.Adds (¬ ·.Constrains) q' :=
  (addAll_adds selected).mono (by simp [QueryStep.Constrains])

theorem selectMetric_adds {renderings : Renderings} {a : Aggregation}
    (selected : q.selectMetric renderings a = .ok q') : q.Adds (¬ ·.Constrains) q' := by
  obtain ⟨text, -, rfl⟩ := selectMetric_ok selected
  exact ⟨_, by simp [QueryStep.Constrains], rfl⟩

theorem add_adds {s : QueryStep} (added : q.add s = .ok q') (holds : P s) : q.Adds P q' :=
  (addAll_adds added).mono fun _ member => List.mem_singleton.mp member ▸ holds

/-- A filter by several values adds its step, and one that is absent adds none. -/
theorem filterItems_adds {values? : Option Value} {step : List Value → QueryStep}
    {next : Query → Outcome Query}
    (run : (match values? with
      | some values => do
        let items ← values.toItems
        let q ← q.add (step items)
        next q
      | none => do
        let q ← pure q
        next q) = .ok q') (holds : ∀ items, (step items).Constrains) :
    ∃ q₁, q.Adds QueryStep.Constrains q₁ ∧ next q₁ = .ok q' := by
  cases values? with
  | none => exact ⟨q, .refl q, run⟩
  | some values =>
      simp only [Outcome.bind_eq_ok] at run
      obtain ⟨items, -, q₁, added, run⟩ := run
      exact ⟨q₁, add_adds added (holds items), run⟩

theorem filter_adds (filtered : d.filter q = .ok q') : q.Adds QueryStep.Constrains q' := by
  rw [BoundDimension.filter] at filtered
  simp only at filtered
  split at filtered
  · exact Outcome.pure_eq_ok.mp filtered ▸ .refl q
  · rw [Outcome.bind_eq_ok] at filtered
    obtain ⟨only, -, filtered⟩ := filtered
    obtain ⟨q₁, kept, filtered⟩ := filterItems_adds filtered fun _ => trivial
    rw [Outcome.bind_eq_ok] at filtered
    obtain ⟨except, -, filtered⟩ := filtered
    obtain ⟨q₂, dropped, filtered⟩ := filterItems_adds filtered fun _ => trivial
    rw [Outcome.bind_eq_ok] at filtered
    obtain ⟨condition, -, filtered⟩ := filtered
    refine (kept.trans dropped).trans ?_
    split at filtered
    · simp only [Outcome.bind_eq_ok] at filtered
      obtain ⟨operator, -, value, -, added⟩ := filtered
      exact add_adds added trivial
    · cases filtered
    · exact Outcome.pure_eq_ok.mp filtered ▸ .refl q₂

end Query

theorem Driver.queryFor_unconstrained {d : Driver} {t : Table} {q : Query}
    (read : d.queryFor t = .ok q) : q.driver = d ∧ ∀ s ∈ q.steps, ¬ s.Constrains := by
  obtain rfl := Driver.queryFor_ok read
  refine ⟨rfl, ?_⟩
  simp only [Query.extend, Query.blank, Table.sourceSteps, List.nil_append]
  split
  · simp [QueryStep.Constrains]
  · split <;> simp [QueryStep.Constrains]

/-! ## Queries of plans -/

namespace Planner
variable {p : Planner} {r : Resolved} {k : MergeKeys} {identifier : String} {t : Table}
  {q q' : Query} {d : BoundDimension} {driver : Driver} {dimensions : List Dimension}
  {plan : QueryPlan}

theorem addDimension_adds (added : addDimension driver q d = .ok q') :
    q.Adds (fun _ => True) q' ∧ q'.Selects d true := by
  simp only [addDimension, Outcome.bind_eq_ok] at added
  obtain ⟨-, -, selected, here, filtered⟩ := added
  have filtered := (Query.filter_adds filtered).mono (Q := fun _ => True) fun _ _ => trivial
  exact ⟨((Query.selectDimension_adds here).mono fun _ _ => trivial).trans filtered,
    (Query.selectDimension_selects here).adds filtered⟩

theorem selectOwned_adds (selected : selectOwned q d = .ok q') :
    q.Adds (¬ ·.Constrains) q' ∧ q'.Selects d false := by
  simp only [selectOwned, Outcome.bind_eq_ok] at selected
  obtain ⟨-, -, selected⟩ := selected
  exact ⟨Query.selectDimension_adds selected, Query.selectDimension_selects selected⟩

theorem tableQuery_selects (queried : p.tableQuery r k identifier t = .ok q) :
    (∀ d ∈ r.dimensions, d.table.identifier = identifier → q.Selects d false) ∧
      ∀ s ∈ q.steps, ¬ s.Constrains := by
  simp only [tableQuery, Outcome.bind_eq_ok] at queried
  obtain ⟨driver, -, q₀, read, q₁, owned, q₂, shared, q₃, columns, metrics⟩ := queried
  have own : ∀ q, ∀ d ∈ r.dimensions.filter (·.table.identifier == identifier), ∀ q',
      selectOwned q d = .ok q' → q.Adds (¬ ·.Constrains) q' :=
    fun _ _ _ _ selected => (selectOwned_adds selected).1
  have first := Query.foldlM_adds own owned
  have second := Query.foldlM_adds (fun _ _ _ _ => Query.selectDimension_adds) shared
  have third := Query.foldlM_adds (fun _ _ _ _ => Query.selectKey_adds) columns
  have fourth : q₃.Adds (¬ ·.Constrains) q :=
    Query.foldlM_adds (fun _ _ _ _ => Query.foldlM_adds fun _ _ _ _ => Query.selectMetric_adds)
      metrics
  have rest := (second.trans third).trans fourth
  constructor
  · intro d requested same
    have member : d ∈ r.dimensions.filter (·.table.identifier == identifier) :=
      List.mem_filter.mpr ⟨requested, beq_iff_eq.mpr same⟩
    obtain ⟨before, after, -, selected, later⟩ := Query.foldlM_at own owned member
    exact ((selectOwned_adds selected).2.adds later).adds rest
  · exact (first.trans rest).keeps (Driver.queryFor_unconstrained read).2

theorem nativePlan_ok (planned : p.nativePlan driver r dimensions = .ok plan) :
    ∃ (joins : JoinGraph) (q : Query), plan.query = some q ∧
      plan.joinPlan = (if joins.isEmpty then .empty else .database joins) ∧
      joins.steps ⊆ q.steps ∧ ∀ d ∈ r.dimensions, q.Selects d true := by
  simp only [nativePlan, Outcome.bind_eq_ok, Outcome.pure_eq_ok] at planned
  obtain ⟨_, -, joins, -, _, -, q₀, -, q₁, joined, q₂, grouped, q₃, measured, rfl⟩ := planned
  have adds : ∀ q, ∀ d ∈ r.dimensions, ∀ q', addDimension driver q d = .ok q' →
      q.Adds (fun _ => True) q' := fun _ _ _ _ added => (addDimension_adds added).1
  have metrics := (Query.foldlM_adds (fun _ _ _ _ => Query.selectMetric_adds) measured).mono
    (Q := fun _ => True) fun _ _ => trivial
  refine ⟨joins, q₃, rfl, rfl, ?_, ?_⟩
  · have taken : joins.steps ⊆ q₁.steps := by
      rw [Query.addAll_ok joined]
      exact List.subset_append_right _ _
    exact List.Subset.trans taken ((Query.foldlM_adds adds grouped).trans metrics).subset
  · intro d requested
    obtain ⟨before, after, -, added, later⟩ := Query.foldlM_at adds grouped requested
    exact (addDimension_adds added).2.adds (later.trans metrics)

variable {metrics : List RequestedMetric} {schema : Schema} {joins : JoinGraph}
  {tables : Entries String Table} {plans : Entries Value TablePlan} {filters : Value}

theorem Assembled.queried
    (assembled : Assembled p r dimensions schema joins tables k plans filters) :
    ∀ plan ∈ plans.values, ∃ e ∈ tables, plan.table = e.2 ∧
      p.tableQuery r k e.1 e.2 = .ok plan.query := by
  refine Outcome.foldlM_induction (fun before (plans : Entries Value TablePlan) =>
    ∀ plan ∈ plans.values, ∃ e ∈ before, plan.table = e.2 ∧
      p.tableQuery r k e.1 e.2 = .ok plan.query) assembled.planned nofun ?_
  intro before e inside plans plans' origin added plan member
  simp only [Outcome.bind_eq_ok, Outcome.pure_eq_ok] at added
  obtain ⟨query, queried, rfl⟩ := added
  rcases Entries.mem_values_put member with rfl | old
  · exact ⟨e, by simp, rfl, queried⟩
  · obtain ⟨e', listed, found⟩ := origin plan old
    exact ⟨e', List.mem_append_left _ listed, found⟩

theorem softwarePlan_software (planned : p.softwarePlan r dimensions = .ok plan) :
    ∃ sp, plan.joinPlan = .software sp := by
  simp only [softwarePlan, Outcome.bind_eq_ok, Outcome.pure_eq_ok] at planned
  obtain ⟨_, -, _, -, _, -, _, -, _, -, _, -, _, -, rfl⟩ := planned
  exact ⟨_, rfl⟩

theorem softwarePlan_query (planned : p.softwarePlan r dimensions = .ok plan) :
    plan.query = none := by
  simp only [softwarePlan, Outcome.bind_eq_ok, Outcome.pure_eq_ok] at planned
  obtain ⟨_, -, _, -, _, -, _, -, _, -, _, -, _, -, rfl⟩ := planned
  rfl

/-- A plan answers a resolved request by one query, or by one query per table. -/
theorem plan_cases (planned : p.plan metrics dimensions = .ok plan) :
    ∃ r, p.resolve metrics dimensions = .ok r ∧
      ((∃ driver, p.nativePlan driver r dimensions = .ok plan) ∨
        p.softwarePlan r dimensions = .ok plan) := by
  simp only [Planner.plan, Outcome.bind_eq_ok] at planned
  obtain ⟨r, resolved, driver, -, planned⟩ := planned
  refine ⟨r, resolved, ?_⟩
  cases driver with
  | none => exact .inr planned
  | some driver => exact .inl ⟨driver, planned⟩

end Planner
end Datacube
