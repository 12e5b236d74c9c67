import Datacube.Proofs.Plan.Layout

/-!
# What table queries select

The query of a table in a software plan selects its dimensions, the dimensions and columns by which
its rows are merged with others, and the partial results of its metrics, each under an alias, and
nothing else.
-/

namespace Datacube

/-- What a query selects under an alias: a dimension, a key column, or a result. -/
inductive Selection where
  | dimension (d : BoundDimension)
  | column (name : String) (v : Value)
  | result (a : Aggregation)

namespace Selection

def aliasName : Selection → Value
  | dimension d => d.aliasName
  | column name _ => .text name
  | result a => a.aliasName

def Written (renderings : Renderings) (d : Dialect) (t : Table) :
    Selection → List QueryStep → Prop
  | dimension b, steps => b.steps d false = .ok steps
  | column name v, steps =>
    steps = [.select [.text (t.label ++ "." ++ v.toText ++ " as " ++ name)],
      .group (.text (t.label ++ "." ++ v.toText))]
  | result a, steps =>
    ∃ text, renderings.render a d = .ok text ∧ steps = [.selectRaw (.text text)]

end Selection

/-- The query reads a table and takes some selections, and nothing else. -/
def Query.Takes (q : Query) (renderings : Renderings) (t : Table) (selections : List Selection) :
    Prop :=
  ∃ written, List.Forall₂ (Selection.Written renderings q.driver.dialect t) selections written ∧
    q.steps = t.sourceSteps ++ written.flatten

namespace Planner
variable {p : Planner} {r : Resolved} {k : MergeKeys} {identifier : String} {t : Table}
  {q q' : Query} {b : BoundDimension} {a : Aggregation} (renderings : Renderings)

def selections (r : Resolved) (k : MergeKeys) (identifier : String) : List Selection :=
  (r.dimensions.filter (·.table.identifier == identifier)).map .dimension ++
    ((k.dimensions.get? identifier).getD []).map .dimension ++
    ((k.columns.get? identifier).getD []).map (fun e => .column e.1 e.2) ++
    ((metricsOf r identifier).flatMap fun e => partials e.2).map .result

theorem takes_ok {α : Type} {f : Query → α → Outcome Query} {items : List α}
    (t : Table) (selection : α → Selection) (run : items.foldlM f q = .ok q')
    (each : ∀ q, ∀ x ∈ items, ∀ q', f q x = .ok q' →
      ∃ steps, (selection x).Written renderings q.driver.dialect t steps ∧ q' = q.extend steps) :
    ∃ written, List.Forall₂ (Selection.Written renderings q.driver.dialect t)
      (items.map selection) written ∧ q' = q.extend written.flatten := by
  obtain ⟨written, all, rfl⟩ := Query.foldlM_extend
    (fun driver x steps => (selection x).Written renderings driver.dialect t steps) id each run
  exact ⟨written, List.forall₂_map_left_iff.mpr all, by rw [List.flatMap_id]⟩

theorem takes_dimension (t : Table) (selected : q.selectDimension b false = .ok q') :
    ∃ steps, (Selection.dimension b).Written renderings q.driver.dialect t steps ∧
      q' = q.extend steps := by
  rw [Query.selectDimension, Outcome.bind_eq_ok] at selected
  obtain ⟨steps, written, added⟩ := selected
  exact ⟨steps, written, Query.addAll_ok added⟩

theorem takes_owned (t : Table) (selected : selectOwned q b = .ok q') :
    ∃ steps, (Selection.dimension b).Written renderings q.driver.dialect t steps ∧
      q' = q.extend steps := by
  rw [selectOwned, Outcome.bind_eq_ok] at selected
  obtain ⟨_, -, selected⟩ := selected
  exact takes_dimension renderings t selected

theorem takes_column (t : Table) (name : String) (v : Value)
    (selected : q.selectKey (t.label ++ "." ++ v.toText) name = .ok q') :
    ∃ steps, (Selection.column name v).Written renderings q.driver.dialect t steps ∧
      q' = q.extend steps :=
  ⟨[.select [.text (t.label ++ "." ++ v.toText ++ " as " ++ name)],
    .group (.text (t.label ++ "." ++ v.toText))], rfl, Query.selectKey_ok selected⟩

theorem takes_result (t : Table) (selected : q.selectMetric renderings a = .ok q') :
    ∃ steps, (Selection.result a).Written renderings q.driver.dialect t steps ∧
      q' = q.extend steps := by
  obtain ⟨text, rendered, rfl⟩ := Query.selectMetric_ok selected
  exact ⟨_, ⟨text, rendered, rfl⟩, rfl⟩

theorem tableQuery_takes (queried : p.tableQuery r k identifier t = .ok q) :
    q.Takes p.renderings t (selections r k identifier) := by
  simp only [tableQuery, Outcome.bind_eq_ok] at queried
  obtain ⟨driver, -, q₀, read, q₁, owned, q₂, shared, q₃, columns, metrics⟩ := queried
  obtain rfl := Driver.queryFor_ok read
  obtain ⟨first, all₁, rfl⟩ := takes_ok p.renderings t .dimension owned
    fun _ _ _ _ => takes_owned p.renderings t
  obtain ⟨second, all₂, rfl⟩ := takes_ok p.renderings t .dimension shared
    fun _ _ _ _ => takes_dimension p.renderings t
  obtain ⟨third, all₃, rfl⟩ := takes_ok p.renderings t
    (fun e : String × Value => .column e.1 e.2) columns
    fun _ e _ _ selected => takes_column p.renderings t e.1 e.2 selected
  rw [← Outcome.foldlM_flatMap] at metrics
  obtain ⟨fourth, all₄, rfl⟩ := takes_ok p.renderings t .result metrics
    fun _ _ _ _ => takes_result p.renderings t
  refine ⟨first ++ second ++ third ++ fourth, ?_, ?_⟩
  · exact List.rel_append (List.rel_append (List.rel_append all₁ all₂) all₃) all₄
  · simp [Query.extend, Query.blank]

end Planner
end Datacube
