import Datacube.Proofs.Metric.Rendering
import Datacube.Proofs.Plan.MergeKeys

/-!
# The layout of table queries

A query of a software plan reads its table, selects and groups by its keys, each under an alias, and
selects the partial results of its metrics. The layout is exact: nothing else is selected, and what
is no metric is grouped by.
-/

namespace Datacube

namespace Query
variable {q q' : Query} {steps : List QueryStep}

def extend (q : Query) (steps : List QueryStep) : Query := { q with steps := q.steps ++ steps }

@[simp] theorem extend_nil (q : Query) : q.extend [] = q := by simp [extend]

@[simp] theorem extend_extend (q : Query) (steps more : List QueryStep) :
    (q.extend steps).extend more = q.extend (steps ++ more) := by simp [extend]

theorem take_ok {s : QueryStep} (h : q.take s = (.ok (), q')) : q' = q.extend [s] := by
  rw [take] at h
  split at h
  · exact (Prod.mk.inj h).2.symm
  · cases h
  · cases h

theorem takeAll_ok (h : q.takeAll steps = (.ok (), q')) : q' = q.extend steps := by
  induction steps generalizing q with
  | nil => rw [extend_nil, (Prod.mk.inj h).2]
  | cons s rest ih =>
      rw [takeAll] at h
      split at h
      · rename_i next taken
        rw [take_ok taken] at h
        rw [ih h, extend_extend, List.singleton_append]
      · rename_i failed
        exact absurd h (failed q')

theorem addAll_ok (h : q.addAll steps = .ok q') : q' = q.extend steps := by
  simp only [addAll, Outcome.bind_eq_ok, Outcome.pure_eq_ok] at h
  obtain ⟨⟨⟩, out, rfl⟩ := h
  exact takeAll_ok (Prod.ext out rfl)

theorem foldlM_extend {α β : Type} {f : Query → α → Outcome Query} (R : Driver → α → β → Prop)
    (written : β → List QueryStep) {items : List α}
    (each : ∀ q, ∀ x ∈ items, ∀ q', f q x = .ok q' →
      ∃ y, R q.driver x y ∧ q' = q.extend (written y))
    (run : items.foldlM f q = .ok q') :
    ∃ ys, List.Forall₂ (R q.driver) items ys ∧ q' = q.extend (ys.flatMap written) := by
  induction items generalizing q with
  | nil => exact ⟨[], .nil, by rw [← Outcome.pure_eq_ok.mp run, List.flatMap_nil, extend_nil]⟩
  | cons x rest ih =>
      rw [List.foldlM_cons, Outcome.bind_eq_ok] at run
      obtain ⟨next, stepped, run⟩ := run
      obtain ⟨y, here, rfl⟩ := each q x List.mem_cons_self next stepped
      obtain ⟨ys, later, rfl⟩ := ih (fun q y member => each q y (List.mem_cons_of_mem x member)) run
      exact ⟨y :: ys, .cons here later, by rw [extend_extend, List.flatMap_cons]⟩

end Query

/-! ## Keys -/

/-- What a query selects under an alias and groups by: a column, or the bucket of a time column. -/
inductive GroupKey where
  | column (reference aliasName : String)
  | bucket (expression quoted : String)

namespace GroupKey

def steps : GroupKey → List QueryStep
  | column reference aliasName =>
    [.select [.text (reference ++ " as " ++ aliasName)], .group (.text reference)]
  | bucket expression quoted =>
    [.selectRaw (.text (expression ++ " AS " ++ quoted)), .groupRaw (.text expression)]

/-- The key is one of a table, selected under an alias in a dialect: a column of the table, or the
bucket of one of its time columns. -/
def Bears (d : Dialect) (t : Table) (aliasName : Value) : GroupKey → Prop
  | column reference name =>
    name = aliasName.toText ∧ ∃ v : Value, reference = t.label ++ "." ++ v.toText
  | bucket expression quoted =>
    d.wrapValue aliasName = .ok quoted ∧
      ∃ v granularity, d.timeBucket t.name v granularity = .ok expression

end GroupKey

namespace Query
variable {q q' : Query} {d : BoundDimension}

theorem selectDimension_ok (h : q.selectDimension d false = .ok q') :
    ∃ key : GroupKey, key.Bears q.driver.dialect d.table d.aliasName ∧
      q' = q.extend key.steps := by
  rw [selectDimension, Outcome.bind_eq_ok] at h
  obtain ⟨steps, written, h⟩ := h
  rw [addAll_ok h]
  rw [BoundDimension.steps] at written
  split at written
  · rename_i granularity _ _
    simp only [Outcome.bind_eq_ok, Outcome.pure_eq_ok] at written
    obtain ⟨bucket, cut, quoted, wrapped, rfl⟩ := written
    exact ⟨.bucket bucket quoted, ⟨wrapped, d.column, granularity, cut⟩, rfl⟩
  · rw [Except.ok.injEq] at written
    subst written
    exact ⟨.column d.reference d.aliasName.toText, ⟨rfl, d.column, rfl⟩, rfl⟩

theorem selectKey_ok {reference aliasName : String} (h : q.selectKey reference aliasName = .ok q') :
    q' = q.extend (GroupKey.column reference aliasName).steps :=
  addAll_ok h

theorem selectMetric_ok {renderings : Renderings} {a : Aggregation}
    (h : q.selectMetric renderings a = .ok q') :
    ∃ text, renderings.render a q.driver.dialect = .ok text ∧
      q' = q.extend [.selectRaw (.text text)] := by
  rw [selectMetric, Outcome.bind_eq_ok] at h
  obtain ⟨text, rendered, h⟩ := h
  exact ⟨text, rendered, addAll_ok h⟩

end Query

/-! ## The query of a table -/

/-- The step by which a query reads a table; a table without a name is not read. -/
def Table.sourceSteps (t : Table) : List QueryStep :=
  if t.isVirtual then [.subquery t.sql t.name]
  else if t.name.isTrue then [.source t.name] else []

theorem Driver.queryFor_ok {d : Driver} {t : Table} {q : Query} (h : d.queryFor t = .ok q) :
    q = (Query.blank d).extend t.sourceSteps := by
  rw [queryFor] at h
  rw [Table.sourceSteps]
  split at h
  · rename_i virtual
    rw [if_pos virtual]
    exact Query.addAll_ok h
  · rename_i physical
    rw [if_neg physical]
    rw [query] at h
    split at h
    · rename_i named
      rw [if_pos named]
      exact Query.addAll_ok h
    · rename_i nameless
      rw [if_neg nameless, Query.extend_nil, Except.ok.inj h]

/-- The query reads a table, selects and groups by keys of the aliases, and selects the
aggregations. -/
def Query.LaidOut (q : Query) (renderings : Renderings) (t : Table) (aliases : List Value)
    (aggregations : List Aggregation) : Prop :=
  ∃ (keys : List GroupKey) (texts : List String),
    q.steps = t.sourceSteps ++ keys.flatMap GroupKey.steps ++
      texts.map (fun text => .selectRaw (.text text)) ∧
    List.Forall₂ (fun aliasName key => key.Bears q.driver.dialect t aliasName) aliases keys ∧
    List.Forall₂ (fun a text => renderings.render a q.driver.dialect = .ok text) aggregations texts

namespace Query
variable {q : Query} {renderings : Renderings} {t : Table} {aliases : List Value}
  {aggregations : List Aggregation} {aliasName : Value} {a : Aggregation}

/-- The query selects a key of a table under an alias, and groups by it. -/
def SelectsKey (q : Query) (t : Table) (aliasName : Value) : Prop :=
  ∃ key : GroupKey, key.Bears q.driver.dialect t aliasName ∧ key.steps ⊆ q.steps

def SelectsResult (q : Query) (aliasName : Value) : Prop :=
  ∃ text, q.driver.dialect.Names aliasName text ∧ .selectRaw (.text text) ∈ q.steps

theorem LaidOut.selectsKey (laid : q.LaidOut renderings t aliases aggregations)
    (member : aliasName ∈ aliases) : q.SelectsKey t aliasName := by
  obtain ⟨keys, texts, steps, borne, -⟩ := laid
  obtain ⟨key, listed, bears⟩ := exists_of_mem_left borne member
  refine ⟨key, bears, ?_⟩
  intro step inside
  rw [steps]
  have grouped : step ∈ keys.flatMap GroupKey.steps := List.mem_flatMap.mpr ⟨key, listed, inside⟩
  simp [grouped]

theorem LaidOut.selectsResult (laid : q.LaidOut renderings t aliases aggregations)
    (writes : renderings.writeAliases = true) (member : a ∈ aggregations) :
    q.SelectsResult a.aliasName := by
  obtain ⟨keys, texts, steps, -, rendered⟩ := laid
  obtain ⟨text, listed, written⟩ := exists_of_mem_left rendered member
  refine ⟨text, Renderings.render_names writes written, ?_⟩
  rw [steps]
  simp [listed]

end Query

namespace Planner
variable {p : Planner} {r : Resolved} {k : MergeKeys} {identifier : String} {t : Table}
  {q q' : Query} {aliasName : Value}

/-- The aliases of the keys that the query of a table selects. -/
def keyAliases (r : Resolved) (k : MergeKeys) (identifier : String) : List Value :=
  (r.dimensions.filter (·.table.identifier == identifier)).map (·.aliasName) ++
    ((k.dimensions.get? identifier).getD []).map (·.aliasName) ++
    ((k.columns.get? identifier).getD []).keys.map .text

def metricsOf (r : Resolved) (identifier : String) : List (Value × Aggregation) :=
  r.aggregations.filter fun e => (r.sources.get? e.1).any (·.table.identifier == identifier)

theorem mem_keyAliases :
    aliasName ∈ keyAliases r k identifier ↔ k.Yields r.dimensions identifier aliasName := by
  simp only [keyAliases, MergeKeys.Yields, List.mem_append, List.mem_map, List.mem_filter,
    beq_iff_eq]
  constructor
  · rintro ((⟨d, ⟨member, owner⟩, same⟩ | shared) | ⟨name, member, same⟩)
    · exact .inr (.inr ⟨d, member, owner, same⟩)
    · exact .inr (.inl shared)
    · exact .inl ⟨name, same.symm, member⟩
  · rintro (⟨name, same, member⟩ | shared | ⟨d, member, owner, same⟩)
    · exact .inr ⟨name, member, same.symm⟩
    · exact .inl (.inr shared)
    · exact .inl (.inl ⟨d, ⟨member, owner⟩, same⟩)

theorem selectOwned_ok {d : BoundDimension} (h : selectOwned q d = .ok q') :
    ∃ key : GroupKey, key.Bears q.driver.dialect d.table d.aliasName ∧
      q' = q.extend key.steps := by
  rw [selectOwned, Outcome.bind_eq_ok] at h
  obtain ⟨_, -, h⟩ := h
  exact Query.selectDimension_ok h

theorem selectAll_ok {f : Query → BoundDimension → Outcome Query} {items : List BoundDimension}
    (each : ∀ q d q', f q d = .ok q' →
      ∃ key : GroupKey, key.Bears q.driver.dialect d.table d.aliasName ∧ q' = q.extend key.steps)
    (own : ∀ d ∈ items, d.table = t) (run : items.foldlM f q = .ok q') :
    ∃ keys : List GroupKey,
      List.Forall₂ (fun aliasName key => key.Bears q.driver.dialect t aliasName)
        (items.map (·.aliasName)) keys ∧
      q' = q.extend (keys.flatMap GroupKey.steps) := by
  obtain ⟨keys, borne, rfl⟩ := Query.foldlM_extend
    (fun driver d key => key.Bears driver.dialect t d.aliasName) GroupKey.steps
    (fun q d member q' selected => own d member ▸ each q d q' selected) run
  exact ⟨keys, List.forall₂_map_left_iff.mpr borne, rfl⟩

theorem selectColumns_ok {columns : Entries String Value}
    (run : columns.foldlM (fun q (aliasName, column) =>
      q.selectKey (t.label ++ "." ++ column.toText) aliasName) q = .ok q') :
    ∃ keys : List GroupKey,
      List.Forall₂ (fun aliasName key => key.Bears q.driver.dialect t aliasName)
        (columns.keys.map .text) keys ∧
      q' = q.extend (keys.flatMap GroupKey.steps) := by
  obtain ⟨keys, borne, rfl⟩ := Query.foldlM_extend
    (fun driver e key => GroupKey.Bears driver.dialect t (.text e.1) key) GroupKey.steps
    (fun q e _ q' selected => ⟨.column (t.label ++ "." ++ e.2.toText) e.1, ⟨rfl, e.2, rfl⟩,
      Query.selectKey_ok selected⟩) run
  rw [Entries.keys, List.map_map]
  exact ⟨keys, List.forall₂_map_left_iff.mpr borne, rfl⟩

theorem selectPartials_ok {renderings : Renderings} {aggregations : List Aggregation}
    (run : aggregations.foldlM (·.selectMetric renderings ·) q = .ok q') :
    ∃ texts : List String,
      List.Forall₂ (fun a text => renderings.render a q.driver.dialect = .ok text) aggregations
        texts ∧
      q' = q.extend (texts.map fun text => .selectRaw (.text text)) := by
  obtain ⟨texts, rendered, rfl⟩ := Query.foldlM_extend
    (fun driver a text => renderings.render a driver.dialect = .ok text)
    (fun text => [.selectRaw (.text text)]) (fun q a _ q' => Query.selectMetric_ok) run
  exact ⟨texts, rendered, by rw [List.map_eq_flatMap]⟩

theorem selectMetrics_ok {renderings : Renderings} {metrics : Entries Value Aggregation}
    (run : metrics.foldlM (fun (q : Query) (e : Value × Aggregation) =>
      (partials e.2).foldlM (·.selectMetric renderings ·) q) q = .ok q') :
    ∃ texts : List String,
      List.Forall₂ (fun a text => renderings.render a q.driver.dialect = .ok text)
        (metrics.flatMap fun e => partials e.2) texts ∧
      q' = q.extend (texts.map fun text => .selectRaw (.text text)) := by
  obtain ⟨texts, rendered, rfl⟩ := Query.foldlM_extend
    (fun driver e texts => List.Forall₂
      (fun a text => renderings.render a driver.dialect = .ok text) (partials e.2) texts)
    (fun texts => texts.map fun text => .selectRaw (.text text))
    (fun q e _ q' => selectPartials_ok) run
  refine ⟨texts.flatten, ?_, by rw [List.map_flatten, List.flatMap]⟩
  clear run
  induction rendered with
  | nil => exact .nil
  | cons here _ ih => exact List.rel_append here ih

theorem tableQuery_ok (own : ∀ d ∈ r.dimensions, d.table.identifier = identifier → d.table = t)
    (shared : ∀ d ∈ (k.dimensions.get? identifier).getD [], d.table = t)
    (h : p.tableQuery r k identifier t = .ok q) :
    q.LaidOut p.renderings t (keyAliases r k identifier)
      ((metricsOf r identifier).flatMap fun e => partials e.2) := by
  simp only [tableQuery, Outcome.bind_eq_ok] at h
  obtain ⟨driver, -, q₀, read, q₁, owned, q₂, joined, q₃, columns, metrics⟩ := h
  obtain rfl := Driver.queryFor_ok read
  have belongs : ∀ d ∈ r.dimensions.filter (·.table.identifier == identifier), d.table = t := by
    intro d member
    obtain ⟨requested, same⟩ := List.mem_filter.mp member
    exact own d requested (beq_iff_eq.mp same)
  obtain ⟨keys₁, borne₁, rfl⟩ := selectAll_ok (fun q d q' => selectOwned_ok) belongs owned
  obtain ⟨keys₂, borne₂, rfl⟩ := selectAll_ok (fun q d q' => Query.selectDimension_ok) shared joined
  obtain ⟨keys₃, borne₃, rfl⟩ := selectColumns_ok columns
  obtain ⟨texts, rendered, rfl⟩ := selectMetrics_ok metrics
  refine ⟨keys₁ ++ keys₂ ++ keys₃, texts, ?_, ?_, rendered⟩
  · simp [Query.extend, Query.blank]
  · exact List.rel_append (List.rel_append borne₁ borne₂) borne₃

end Planner
end Datacube
