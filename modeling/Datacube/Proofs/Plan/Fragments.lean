import Datacube.Plan.Select
import Datacube.Proofs.Dialect.Aliasing
import Datacube.Proofs.Metric.Rendering
import Datacube.Proofs.Plan.Layout
import Datacube.Proofs.Query.Qualification

/-!
# Names of result columns

Metrics and time buckets are selected as expressions under a quoted name. The name is quoted as a
reference is, so a point, a star or an alias phrase in it makes more than one identifier of it or
none. A plain column is requested under a name that is quoted as a whole. The request is cut at its
alias phrase, whose position is the one in lower case, so that a letter that grows there costs the
name a letter.
-/

namespace Datacube
open Text

variable {d : Dialect} {name written : String}

/-- A name that is quoted as one identifier. -/
structure Undivided (name : String) : Prop where
  starless : name ≠ "*"
  pointless : '.' ∉ name.toList
  plain : Dialect.Unaliased name

namespace Dialect

theorem wrap_undivided (whole : Undivided name) : d.wrap name = .ok (d.quote name) := by
  rw [wrap_unaliased whole.plain, splitAll_of_absent whole.pointless, List.map_singleton,
    wrapPart_of_ne whole.starless, join, String.intercalate_singleton]

/-- Quoted parts begin with the first one, and a point follows it if there are more. -/
theorem wrapped_begins (d : Dialect) (name : String) :
    ∃ part rest, (join "." ((splitAll '.' name).map d.wrapPart)).toList =
      (d.wrapPart part).toList ++ rest ∧ (rest = [] ∧ '.' ∉ name.toList ∨ rest.head? = some '.') := by
  have whole : join "." (splitAll '.' name) = name := join_splitAll rfl name
  have absent := not_mem_splitAll (c := '.') name
  rcases parts : splitAll '.' name with _ | ⟨part, _ | ⟨next, more⟩⟩
  · exact absurd parts (splitAll_ne_nil '.' name)
  · rw [parts] at whole absent
    obtain rfl : part = name := String.intercalate_singleton.symm.trans whole
    refine ⟨part, [], ?_, .inl ⟨rfl, absent part List.mem_cons_self⟩⟩
    rw [List.map_singleton, join, String.intercalate_singleton, List.append_nil]
  · refine ⟨part, '.' :: (join "." ((next :: more).map d.wrapPart)).toList, ?_, .inr rfl⟩
    rw [List.map_cons, List.map_cons, join, String.intercalate_cons_cons, String.toList_append,
      String.toList_append, List.append_assoc]
    rfl

/-- A quoted form begins with a part, and ends with it only where a name is one part. -/
theorem wrapWithin_begins {fuel : Nat} (ends : d.wrapWithin fuel name = some written) :
    ∃ part rest, written.toList = (d.wrapPart part).toList ++ rest ∧
      rest.head? ≠ some d.quotes.2 ∧ (rest = [] → '.' ∉ name.toList ∧ Unaliased name) := by
  obtain ⟨-, -, point, blank⟩ := quotes_ne d
  induction fuel generalizing name written with
  | zero => cases ends
  | succ fuel ih =>
      cases cut : cutAlias? name with
      | some sides =>
          obtain ⟨left, right, found, -, rfl⟩ := (wrapWithin_cut cut).mp ends
          obtain ⟨part, rest, begins, apart, -⟩ := ih found
          have phrase : " AS ".toList = [' ', 'A', 'S', ' '] := rfl
          refine ⟨part, rest ++ " AS ".toList ++ right.toList, ?_, ?_, by simp [phrase]⟩
          · simp only [String.toList_append, begins, List.append_assoc]
          · cases rest with
            | nil => simpa [phrase] using Ne.symm blank
            | cons c rest => exact apart
      | none =>
          have plain := cutAlias?_eq_none.mp cut
          rw [wrapWithin_unaliased plain] at ends
          obtain rfl := Option.some.inj ends
          obtain ⟨part, rest, begins, ⟨rfl, absent⟩ | pointed⟩ := wrapped_begins d name
          · exact ⟨part, [], begins, by simp, fun _ => ⟨absent, plain⟩⟩
          · refine ⟨part, rest, begins, by simpa [pointed] using Ne.symm point, ?_⟩
            rintro rfl
            cases pointed

/-- A name is read back from its quoted form where it is quoted as one identifier, and only
there. -/
theorem unquote?_wrap (quoted : d.wrap name = .ok written) :
    d.unquote? written = some name ↔ Undivided name := by
  constructor
  · intro read
    obtain rfl := unquote?_eq_some.mp read
    obtain ⟨fuel, ends⟩ := wrap_eq_ok.mp quoted
    obtain ⟨part, rest, begins, apart, alone⟩ := wrapWithin_begins ends
    have starless : part ≠ "*" := by
      rintro rfl
      have star : d.wrapPart "*" = "*" := if_pos rfl
      rw [star, toList_quote, List.cons_append] at begins
      exact (quotes_ne d).1 (List.cons.inj begins).1
    rw [wrapPart_of_ne starless, toList_quote, toList_quote, List.append_assoc, List.cons_append,
      List.cons_append, List.cons.injEq, and_iff_right rfl, List.singleton_append] at begins
    -- Both names end at the first closing quote that stands alone, and so does the whole text.
    have ends := d.readName?_quoted name.toList
    rw [begins, readName?_inName apart, Option.some.injEq, Prod.mk.injEq] at ends
    obtain ⟨pointless, plain⟩ := alone ends.2
    refine ⟨?_, pointless, plain⟩
    rintro rfl
    exact quote_ne_star d "*" (Except.ok.inj quoted).symm
  · intro whole
    rw [wrap_undivided whole, Except.ok.injEq] at quoted
    exact unquote?_eq_some.mpr quoted.symm

end Dialect

/-! ## Fragments -/

variable {a : Aggregation} {b : BoundDimension} {column granularity : String} {precision : Value}
  {ordered : Bool}

/-- What a query selects under a name: an aggregation or a part of an average as the built-in
renderings write it, or the bucket of a time dimension. -/
inductive Dialect.Selects (d : Dialect) (name fragment : String) : Prop
  | metric (a : Aggregation) (named : a.aliasName = .text name)
      (rendered : Renderings.builtin.render a d = .ok fragment)
  | bucket (b : BoundDimension) (granularity : String) (precision : Value) (ordered : Bool)
      (later : List QueryStep) (timed : b.dimension.detail = .time granularity precision)
      (named : b.aliasName = .text name)
      (selected : b.steps d ordered = .ok (.selectRaw (.text fragment) :: later))

theorem Aggregation.aliasName_withAlias (a : Aggregation) (named : name ≠ "") :
    (a.withAlias name).aliasName = .text name := by
  have holds : (Value.text name).isTrue = true := by simpa [Value.isTrue] using named
  rw [aliasName, withAlias, Value.orElse, if_pos holds]

theorem BoundDimension.steps_time (timed : b.dimension.detail = .time granularity precision)
    {steps : List QueryStep} :
    b.steps d ordered = .ok steps ↔ ∃ bucket written,
      d.timeBucket b.table.name b.column granularity = .ok bucket ∧
      d.wrapValue b.aliasName = .ok written ∧
      steps = .selectRaw (.text (bucket ++ " AS " ++ written)) :: .groupRaw bucket ::
        (if ordered then [.orderRaw bucket] else []) := by
  rw [BoundDimension.steps, timed]
  simp only [Outcome.bind_eq_ok, Outcome.pure_eq_ok]
  constructor
  · rintro ⟨bucket, found, written, wrapped, rfl⟩
    exact ⟨bucket, written, found, wrapped, rfl⟩
  · rintro ⟨bucket, written, found, wrapped, rfl⟩
    exact ⟨bucket, found, written, wrapped, rfl⟩

theorem Dialect.Selects.names {fragment : String} (selects : d.Selects name fragment) :
    ∃ expression written, d.wrap name = .ok written ∧
      fragment = expression ++ " AS " ++ written := by
  cases selects with
  | metric a named rendered =>
      have names := Renderings.render_names Renderings.writeAliases_builtin rendered
      rw [named] at names
      obtain ⟨expression, written, wrapped, same⟩ := names
      exact ⟨expression, written, wrapped, same⟩
  | bucket b granularity precision ordered later timed named selected =>
      obtain ⟨bucket, written, -, wrapped, same⟩ := (BoundDimension.steps_time timed).mp selected
      rw [named] at wrapped
      obtain ⟨fragments, -⟩ := List.cons.inj same
      exact ⟨bucket, written, wrapped, Value.text.inj (QueryStep.selectRaw.inj fragments)⟩

/-- A column and an alias that can be quoted are rendered, except by a template. -/
theorem Rendering.render_ok {r : Rendering} (writes : r.writesAlias = true)
    (counted : a.column?.isSome = true) (quoted : d.wrap a.localReference = .ok column)
    (wrapped : d.wrapValue a.aliasName = .ok written) : ∃ fragment, r.render a d = .ok fragment := by
  cases r with
  | template => cases writes
  | countRows =>
      obtain ⟨own, found⟩ := Option.isSome_iff_exists.mp counted
      rw [render, wrapped, found, quoted]
      simp only [bind, Except.bind]
      split
      · contradiction
      · exact ⟨_, rfl⟩
      · exact ⟨_, rfl⟩
  | _ =>
      rw [render, quoted, wrapped]
      exact ⟨_, rfl⟩

theorem Renderings.render_ok {r : Rendering}
    (compiled : builtin.find? a.kind.name d.name = some r) (counted : a.column?.isSome = true)
    (quoted : d.wrap a.localReference = .ok column)
    (wrapped : d.wrapValue a.aliasName = .ok written) :
    ∃ expression, builtin.render a d = .ok (expression ++ " AS " ++ written) := by
  have writes := writesAlias_of_find? writeAliases_builtin compiled
  obtain ⟨fragment, rendered⟩ := Rendering.render_ok writes counted quoted wrapped
  obtain ⟨expression, written', wrapped', rfl⟩ := Rendering.render_names writes rendered
  rw [wrapped] at wrapped'
  obtain rfl := Except.ok.inj wrapped'
  exact ⟨expression, by rw [render, compiled]; exact rendered⟩

theorem Dialect.timeBucket_ok {table column : Value} (known : d.supports granularity = true) :
    ∃ bucket, d.timeBucket table column granularity = .ok bucket := by
  obtain ⟨write, found⟩ := Option.isSome_iff_exists.mp known
  rw [timeBucket, found]
  exact ⟨_, rfl⟩

/-- Every metric and every time bucket is selected as an expression under the quoted form of its
name, from which the name is read back where it is undivided, and only there. -/
theorem Dialect.selects_read_back (d : Dialect) (named : name ≠ "") :
    (∀ fragment, d.Selects name fragment → ∃ expression written, d.wrap name = .ok written ∧
      fragment = expression ++ " AS " ++ written ∧
      (d.unquote? written = some name ↔ Undivided name)) ∧
    (Undivided name →
      (∀ (a : Aggregation) r column, Renderings.builtin.find? a.kind.name d.name = some r →
        a.column?.isSome = true → d.wrap a.localReference = .ok column →
        ∃ expression, Renderings.builtin.render (a.withAlias name) d =
          .ok (expression ++ " AS " ++ d.quote name)) ∧
      ∀ (b : BoundDimension) granularity precision ordered,
        b.dimension.detail = .time granularity precision → b.aliasName = .text name →
        d.supports granularity = true →
        ∃ expression later, b.steps d ordered =
          .ok (.selectRaw (.text (expression ++ " AS " ++ d.quote name)) :: later)) := by
  constructor
  · intro fragment selects
    obtain ⟨expression, written, quoted, rfl⟩ := selects.names
    exact ⟨expression, written, quoted, rfl, unquote?_wrap quoted⟩
  · intro whole
    have wrapped : d.wrapValue (.text name) = .ok (d.quote name) := wrap_undivided whole
    constructor
    · intro a r column compiled counted quoted
      refine Renderings.render_ok (a := a.withAlias name) compiled counted quoted ?_
      rwa [a.aliasName_withAlias named]
    · intro b granularity precision ordered timed bears known
      obtain ⟨bucket, found⟩ := timeBucket_ok known
      exact ⟨bucket, _, (BoundDimension.steps_time timed).mpr
        ⟨bucket, d.quote name, found, bears ▸ wrapped, rfl⟩⟩

def netTotal : Aggregation := ⟨.sum, "orders.total", .null, 0.5⟩

theorem Dialect.selects_read_back_total :
    "net \"total\"" ≠ "" ∧ Undivided "net \"total\"" ∧ ∃ expression,
      Renderings.builtin.render (netTotal.withAlias "net \"total\"") postgres =
        .ok (expression ++ " AS " ++ "\"net \"\"total\"\"\"") := by
  have named : "net \"total\"" ≠ "" := by decide
  have whole : Undivided "net \"total\"" := ⟨by decide, by decide, by decide +kernel⟩
  exact ⟨named, whole, (postgres.selects_read_back named).2 whole |>.1 netTotal (.function "SUM")
    "\"orders\".\"total\"" rfl rfl rfl⟩

/-- A name with a point is quoted as a table and a column. -/
theorem Dialect.selects_divided :
    postgres.Selects "net.total" "SUM(\"orders\".\"total\") AS \"net\".\"total\"" ∧
      postgres.wrap "net.total" = .ok "\"net\".\"total\"" ∧
      postgres.unquote? "\"net\".\"total\"" = none :=
  ⟨.metric (netTotal.withAlias "net.total") rfl rfl, rfl, rfl⟩

/-! ## Columns under a name -/

section Columns
open Dialect Query Query.Relational

/-- A column of a table that is selected under a name. -/
structure NamedColumn where
  table : String
  column : String
  name : String

namespace NamedColumn
variable {c c' : NamedColumn} {d : Dialect}

def reference (c : NamedColumn) : String := c.table ++ "." ++ c.column

/-- The text by which a query is asked for the column. -/
def request (c : NamedColumn) : String := c.reference ++ " as " ++ c.name

/-- The column as it is written: its table and itself quoted, under the quoted name. -/
def sql (d : Dialect) (c : NamedColumn) : String :=
  d.quote c.table ++ "." ++ d.quote c.column ++ " AS " ++ d.quote c.name

/-- The name that is read from the request: what is left of it behind as many letters as grow in
lower case before it. -/
def readName (c : NamedColumn) : String :=
  strip (String.ofList (c.name.toList.drop (c.reference.toList.count 'İ')))

/-- Names without blanks around them that can be told apart in a request. -/
structure Regular (c : NamedColumn) : Prop where
  filled : c.table ≠ "" ∧ c.column ≠ "" ∧ c.name ≠ ""
  stripped : strip c.table = c.table ∧ strip c.column = c.column ∧ strip c.name = c.name
  starless : c.column ≠ "*"
  pointless : '.' ∉ c.column.toList
  plain : Unaliased (c.reference ++ " ")

theorem sql_eq (d : Dialect) (c : NamedColumn) :
    c.sql d = d.spelled [.name c.table, .name c.column] ++ " AS " ++ d.quote c.name := by
  rw [sql, spelled_two, Part.text, Part.text]

/-- What is selected under a name shows its parts and the name. -/
theorem named_unique {parts parts' : List Part} {name name' : String} (some : parts ≠ [])
    (some' : parts' ≠ [])
    (same : d.spelled parts ++ " AS " ++ d.quote name =
      d.spelled parts' ++ " AS " ++ d.quote name') : parts = parts' ∧ name = name' := by
  have divided : ∀ name, Divided (" AS ".toList ++ (d.quote name).toList) := by
    intro name c begins
    exact (Option.some.inj begins).symm
  have same := congrArg String.toList same
  simp only [String.toList_append, List.append_assoc] at same
  obtain ⟨alike, rest⟩ := spelled_unique some some' (divided name) (divided name') same
  have quoted := String.toList_injective (List.append_cancel_left rest)
  have read := unquote?_eq_some.mpr quoted
  rw [unquote?_eq_some.mpr rfl] at read
  exact ⟨alike, Option.some.inj read⟩

theorem sql_injective (same : c'.sql d = c.sql d) : c' = c := by
  rw [sql_eq, sql_eq] at same
  obtain ⟨parts, names⟩ := named_unique (List.cons_ne_nil _ _) (List.cons_ne_nil _ _) same
  simp only [List.cons.injEq, Part.name.injEq, and_true] at parts
  cases c
  cases c'
  simp_all

namespace Regular
variable (regular : c.Regular)
include regular

theorem reference_stripped : strip c.reference = c.reference := by
  obtain ⟨table, column, -⟩ := regular.filled
  obtain ⟨stripped, stripped', -⟩ := regular.stripped
  have chars : ∀ {s : String}, strip s = s → stripChars s.toList = s.toList := by
    intro s same
    simpa [strip] using congrArg String.toList same
  have filled : ∀ {s : String}, s ≠ "" → s.toList ≠ [] := by
    intro s apart
    simpa using apart
  refine String.toList_injective ?_
  rw [strip, String.toList_ofList, reference, String.toList_append, String.toList_append]
  exact stripChars_append (filled table) (filled column) (chars stripped) (chars stripped') _

/-- The request is cut at the phrase between the column and its name, or as many letters behind it
as grow in lower case before it. -/
theorem cut : ∃ left, cutAlias? c.request = some (left, c.readName) ∧
    ('İ' ∉ c.reference.toList → left = c.reference) := by
  refine ⟨_, cutAlias?_grown regular.plain c.name, fun undotted => ?_⟩
  have cut := (cutAlias?_aliased regular.reference_stripped regular.stripped.2.2
    regular.plain).1 undotted
  rw [cutAlias?_grown regular.plain] at cut
  exact (Prod.mk.inj (Option.some.inj cut)).1

theorem readName_eq_iff : c.readName = c.name ↔ 'İ' ∉ c.reference.toList := by
  constructor
  · intro same
    obtain ⟨left, cut, -⟩ := regular.cut
    rw [same] at cut
    exact (cutAlias?_aliased regular.reference_stripped regular.stripped.2.2
      regular.plain).2 regular.filled.2.2 cut
  · intro undotted
    rw [readName, List.count_eq_zero.mpr undotted, List.drop_zero, String.ofList_toList]
    exact regular.stripped.2.2

theorem column_reference (d : Dialect) :
    Relational.column d c.reference = d.spelled [.name c.table, .name c.column] := by
  rw [column_eq, reference, columnParts_qualified regular.filled.1 regular.pointless, Part.ofText,
    if_neg regular.starless]

/-- A request is answered with its column where no letter before the name grows in lower case. -/
theorem selected_iff (d : Dialect) :
    selected d c.request = c.sql d ↔ 'İ' ∉ c.reference.toList := by
  obtain ⟨left, cut, whole⟩ := regular.cut
  by_cases nameless : c.readName = ""
  · -- Nothing stands behind a column without a name, so it is no column under a name.
    have lost : c.readName ≠ c.name := nameless ▸ regular.filled.2.2.symm
    refine iff_of_false (fun same => ?_) (mt regular.readName_eq_iff.mpr lost)
    have spells : ¬ d.Spells (columnParts left)
        (d.spelled [.name c.table, .name c.column] ++ " AS " ++ d.quote c.name) :=
      d.not_spells_aliased (List.cons_ne_nil _ _) (d.quote c.name)
    rw [← sql_eq, ← same, selected, cut] at spells
    refine spells ⟨columnParts_ne_nil left, ?_⟩
    simp [nameless, column_eq]
  · have answered : selected d c.request =
        d.spelled (columnParts left) ++ " AS " ++ d.quote c.readName := by
      simp [selected, cut, nameless, column_eq]
    rw [← regular.readName_eq_iff, answered, sql_eq]
    constructor
    · exact fun same => (named_unique (columnParts_ne_nil left) (List.cons_ne_nil _ _) same).2
    · intro same
      rw [same, whole (regular.readName_eq_iff.mp same), ← column_eq, regular.column_reference]

end Regular
end NamedColumn

/-- A query is asked for a column under a name: as a dimension that is no time, or as a key by which
rows are merged. -/
inductive Query.Asks (q : Query) : NamedColumn → Query → Prop
  | dimension (b : BoundDimension) (ordered : Bool) (q' : Query)
      (plain : ∀ granularity precision, b.dimension.detail ≠ .time granularity precision)
      (selected : q.selectDimension b ordered = .ok q') :
      Asks q ⟨b.table.label, b.column.toText, b.aliasName.toText⟩ q'
  | key (c : NamedColumn) (q' : Query) (selected : q.selectKey c.reference c.name = .ok q') :
      Asks q c q'

namespace Query
variable {q q' : Query} {c : NamedColumn} {d : Dialect} {s : Relational.Selection}

/-- The column is requested and grouped by, and ordered by if it is asked for. -/
theorem Asks.steps (asks : q.Asks c q') : ∃ ordered : Bool,
    q' = q.extend ([.select [.text c.request], .group (.text c.reference)] ++
      if ordered then [.order (.text c.reference) (.text "asc")] else []) := by
  cases asks with
  | dimension b ordered q' plain selected =>
      rw [selectDimension, Outcome.bind_eq_ok] at selected
      obtain ⟨steps, written, added⟩ := selected
      rw [BoundDimension.steps] at written
      split at written
      · rename_i granularity precision timed
        exact absurd timed (plain granularity precision)
      · obtain rfl := Except.ok.inj written
        exact ⟨ordered, addAll_ok added⟩
  | key c q' selected => exact ⟨false, selectKey_ok selected⟩

/-- What a query asks for is selected behind what it selected before. -/
theorem Asks.columns (asks : q.Asks c q') (read : Relational.Selection.ofSteps d q.steps = .ok s) :
    ∃ s', Relational.Selection.ofSteps d q'.steps = .ok s' ∧
      s'.columns = s.columns ++ [selected d c.request] := by
  obtain ⟨ordered, rfl⟩ := asks.steps
  rw [Relational.Selection.ofSteps] at read ⊢
  rw [extend, List.foldlM_append, read]
  cases ordered with
  | false => exact ⟨_, rfl, rfl⟩
  | true => exact ⟨_, rfl, rfl⟩

end Query

/-- A column that is requested under a name is selected as its table and itself under the name if no
letter before the name grows in lower case, and only then; otherwise the name lacks its first
letters. -/
theorem NamedColumn.selected_alike_iff (d : Dialect) {c : NamedColumn} (regular : c.Regular) :
    (∀ s : Relational.Selection, s.extend d (.select [.text c.request]) =
      .ok { s with columns := s.columns ++ [c.sql d] } ↔ 'İ' ∉ c.reference.toList) ∧
    (∀ (q q' : Query) s, q.Asks c q' → Relational.Selection.ofSteps d q.steps = .ok s →
      ∃ s', Relational.Selection.ofSteps d q'.steps = .ok s' ∧
        (s'.columns = s.columns ++ [c.sql d] ↔ 'İ' ∉ c.reference.toList)) ∧
    (∀ c', c'.sql d = c.sql d → c' = c) ∧
    ∃ left, cutAlias? c.request = some (left, c.readName) := by
  refine ⟨fun s => ?_, fun q q' s asks read => ?_, fun c' => sql_injective, ?_⟩
  · rw [← regular.selected_iff d]
    have answered : s.extend d (.select [.text c.request]) =
      .ok { s with columns := s.columns ++ [selected d c.request] } := rfl
    rw [answered, Except.ok.injEq, Relational.Selection.mk.injEq]
    simp
  · obtain ⟨s', read', columns⟩ := asks.columns read
    rw [← regular.selected_iff d]
    exact ⟨s', read', by rw [columns]; simp⟩
  · obtain ⟨left, cut, -⟩ := regular.cut
    exact ⟨left, cut⟩

/-- A column whose name has an alias phrase, a point, quotes and a letter that grows. -/
def marked : NamedColumn := ⟨"shop.order lines", "as", "İ as \"net.total\""⟩

def warehouse : Driver := ⟨"main", "warehouse", .postgres, .relational, .bool true, .bool true⟩

theorem NamedColumn.selected_marked : marked.Regular ∧ 'İ' ∉ marked.reference.toList ∧
    marked.sql .postgres = "\"shop.order lines\".\"as\" AS \"İ as \"\"net.total\"\"\"" ∧
    Relational.Selection.empty.extend .postgres (.select [.text marked.request]) =
      .ok { Relational.Selection.empty with columns := [marked.sql .postgres] } ∧
    ∃ q', (blank warehouse).selectKey marked.reference marked.name = .ok q' ∧
      ∃ s', Relational.Selection.ofSteps .postgres q'.steps = .ok s' ∧
        s'.columns = [marked.sql .postgres] := by
  have regular : marked.Regular := by
    refine ⟨?_, ?_, ?_, ?_, ?_⟩ <;> decide +kernel
  have undotted : 'İ' ∉ marked.reference.toList := by decide +kernel
  obtain ⟨step, asked, -, -⟩ := selected_alike_iff .postgres regular
  refine ⟨regular, undotted, rfl, (step _).mpr undotted, _, rfl, ?_⟩
  obtain ⟨s', read, columns⟩ := asked (blank warehouse) _ .empty (.key marked _ rfl) rfl
  exact ⟨s', read, columns.mpr undotted⟩

/-- Behind a letter that grows the name loses its first one, and behind five the column takes letters
of it. -/
theorem NamedColumn.selected_shortened :
    Regular ⟨"İ", "x", "total"⟩ ∧
      selected .postgres (request ⟨"İ", "x", "total"⟩) = "\"İ\".\"x\" AS \"otal\"" ∧
      selected .postgres (request ⟨"İİİİİ", "x", "total sum"⟩) =
        "\"İİİİİ\".\"x as t\" AS \"sum\"" := by
  refine ⟨⟨?_, ?_, ?_, ?_, ?_⟩, rfl, rfl⟩ <;> decide +kernel

end Columns

end Datacube
