import Datacube.Proofs.Dialect.Spelling
import Datacube.Proofs.Outcome
import Datacube.Query.Relational

/-!
# Tables and their columns

A query names a table where it is read or joined, and its columns in every other clause. The table
is cut at its first point, a column at its last one, and an aggregation quotes what stands between
any two points by itself. So the three agree on a table without a point; a table with its schema
keeps its two identifiers in aggregations, and makes a single one in front of a column everywhere
else.
-/

namespace Datacube.Query.Relational
open Text Dialect

variable {d : Dialect} {t c s : String}

/-! ## Clauses -/

/-- The clauses that read a table. -/
inductive TableClause where
  | source
  | join (first operator second type : String)
  | crossJoin

/-- The step that reads a table in a clause. -/
def TableClause.step (table : String) : TableClause → QueryStep
  | source => .source (.text table)
  | join first operator second type =>
    .join (.text table) (.text first) (.text operator) (.text second) (.text type)
  | crossJoin => .crossJoin (.text table)

/-- The table that such a clause read last. -/
def TableClause.item? (s : Selection) : TableClause → Option String
  | source => s.source
  | join .. | crossJoin => s.links.getLast?.map (·.table)

/-- The clauses that name a column. Conditions on one of several values have a first one. -/
inductive ColumnClause where
  | select
  | group
  | order (direction : String)
  | filter (operator : String) (v : Value)
  | filterIn (v : Value) (rest : List Value)
  | filterOut (v : Value) (rest : List Value)
  | joinFirst (table operator second type : String)
  | joinSecond (table first operator type : String)

/-- The step that names a column in a clause. -/
def ColumnClause.step (reference : String) : ColumnClause → QueryStep
  | select => .select [.text reference]
  | group => .group (.text reference)
  | order direction => .order (.text reference) (.text direction)
  | filter operator v => .filter (.text reference) (.text operator) v
  | filterIn v rest => .filterIn (.text reference) (v :: rest)
  | filterOut v rest => .filterOut (.text reference) (v :: rest)
  | joinFirst table operator second type =>
    .join (.text table) (.text reference) (.text operator) (.text second) (.text type)
  | joinSecond table first operator type =>
    .join (.text table) (.text first) (.text operator) (.text reference) (.text type)

/-- What the clause was given last. -/
def ColumnClause.item? (s : Selection) : ColumnClause → Option String
  | select => s.columns.getLast?
  | group => s.groups.getLast?
  | order _ => s.orders.getLast?
  | filter .. | filterIn .. | filterOut .. => s.conditions.getLast?
  | joinFirst .. | joinSecond .. => s.links.getLast?.bind (·.condition)

/-- How the clause writes the column itself. -/
def ColumnClause.written (d : Dialect) (reference : String) : ColumnClause → String
  | select => selected d reference
  | _ => column d reference

theorem columnOf_text (d : Dialect) (reference : String) :
    columnOf d (.text reference) = .ok (column d reference) := rfl

/-- An operator is unknown, or stands between two sides. -/
theorem comparison_cases (operator : String) :
    (∀ left right, ∃ e, comparison left (.text operator) right = .error e) ∨
      ∃ before between, ∀ left right,
        comparison left (.text operator) right = .ok (before ++ left ++ between ++ right) := by
  by_cases negated : lower (strip operator) = "not like"
  · refine .inr ⟨"NOT ", " LIKE ", fun left right => ?_⟩
    simp [comparison, Value.onlyText, negated, bind, Except.bind, pure, Except.pure]
  · cases known : comparisons.lookup (lower (strip operator)) with
    | none =>
        refine .inl fun left right => ?_
        simp [comparison, Value.onlyText, negated, known, bind, Except.bind]
    | some sign =>
        refine .inr ⟨"", " " ++ sign ++ " ", fun left right => ?_⟩
        simp [comparison, Value.onlyText, negated, known, bind, Except.bind, pure, Except.pure,
          String.append_assoc]

/-- What stands behind a sort key does not depend on it. -/
theorem sortKey_eq (d : Dialect) (key : String) (descending : Bool) :
    sortKey d key descending = key ++ sortKey d "" descending := by
  cases descending <;> simp [sortKey, String.append_assoc]

/-- Both sides of a join with an operator that is known. -/
theorem extend_join {operator before between : String} (first second table type : String)
    (written : ∀ left right,
      comparison left (.text operator) right = .ok (before ++ left ++ between ++ right))
    (s : Selection) :
    s.extend d (.join (.text table) (.text first) (.text operator) (.text second) (.text type)) =
      .ok { s with links := s.links ++ [⟨upper type, Relational.table d table,
        some (before ++ column d first ++ between ++ column d second)⟩] } := by
  simp [Selection.extend, columnOf_text, written, Value.onlyText, bind, Except.bind, pure,
    Except.pure]

theorem extend_join_unknown {operator : String} (first second table type : String)
    (unknown : ∀ left right, ∃ e, comparison left (.text operator) right = .error e)
    (s : Selection) :
    ∃ e, s.extend d (.join (.text table) (.text first) (.text operator) (.text second)
      (.text type)) = .error e := by
  obtain ⟨e, refused⟩ := unknown (column d first) (column d second)
  exact ⟨e, by simp [Selection.extend, columnOf_text, refused, bind, Except.bind]⟩

/-- A clause refuses every table, or takes it in the same written form. -/
def TableClause.Takes (clause : TableClause) (d : Dialect) : Prop :=
  (∀ s table, ∃ e, Selection.extend d s (clause.step table) = .error e) ∨
    ∀ s table, ∃ s', Selection.extend d s (clause.step table) = .ok s' ∧
      clause.item? s' = some (Relational.table d table)

/-- A clause refuses every column, or writes it in one place of what it is given. -/
def ColumnClause.Places (clause : ColumnClause) (d : Dialect) : Prop :=
  (∀ s reference, ∃ e, Selection.extend d s (clause.step reference) = .error e) ∨
    ∃ before after, ∀ s reference, ∃ s',
      Selection.extend d s (clause.step reference) = .ok s' ∧
        clause.item? s' = some (before ++ clause.written d reference ++ after)

theorem TableClause.takes (clause : TableClause) (d : Dialect) : clause.Takes d := by
  cases clause with
  | source => exact .inr fun s table => ⟨_, rfl, rfl⟩
  | crossJoin => exact .inr fun s table => ⟨_, rfl, by simp [item?]⟩
  | join first operator second type =>
      rcases comparison_cases operator with unknown | ⟨before, between, written⟩
      · exact .inl fun s table => extend_join_unknown first second table type unknown s
      · exact .inr fun s table =>
          ⟨_, extend_join first second table type written s, by simp [item?]⟩

theorem ColumnClause.places (clause : ColumnClause) (d : Dialect) : clause.Places d := by
  cases clause with
  | select =>
      exact .inr ⟨"", "", fun s reference => ⟨_, rfl, by simp [item?, written]⟩⟩
  | group =>
      exact .inr ⟨"", "", fun s reference => ⟨_, rfl, by simp [item?, written]⟩⟩
  | order direction =>
      refine .inr ⟨"", sortKey d "" (lower direction == "desc"), fun s reference => ⟨_, rfl, ?_⟩⟩
      simp [item?, written, sortKey_eq d (column d reference)]
  | filter operator v =>
      rcases comparison_cases operator with unknown | ⟨before, between, writes⟩
      · refine .inl fun s reference => ?_
        obtain ⟨e, refused⟩ := unknown (column d reference)
          (Literal.standard d (isEquality (.text operator)) v)
        exact ⟨e, by simp [Selection.extend, step, condition, columnOf_text, refused, bind,
          Except.bind]⟩
      · let operand := Literal.standard d (isEquality (.text operator)) v
        refine .inr ⟨before, between ++ operand, fun s reference => ⟨{ s with
          conditions := s.conditions ++ [before ++ column d reference ++ between ++ operand] },
            ?_, ?_⟩⟩
        · simp [Selection.extend, step, condition, columnOf_text, writes, operand, bind,
            Except.bind, pure, Except.pure]
        · simp [item?, written, String.append_assoc]
  | filterIn v rest =>
      refine .inr ⟨"", " IN (" ++ join ", " ((v :: rest).map (Literal.standard d true)) ++ ")",
        fun s reference => ⟨_, rfl, ?_⟩⟩
      simp [item?, written, String.append_assoc]
  | filterOut v rest =>
      by_cases spoken : d = .clickhouse
      · refine .inr ⟨"NOT (",
          " IN (" ++ join ", " ((v :: rest).map (Literal.standard d true)) ++ "))",
          fun s reference => ⟨_, rfl, ?_⟩⟩
        simp [item?, written, spoken, String.append_assoc]
      · refine .inr ⟨"NOT ",
          " IN (" ++ join ", " ((v :: rest).map (Literal.standard d true)) ++ ")",
          fun s reference => ⟨_, rfl, ?_⟩⟩
        simp [item?, written, spoken, String.append_assoc]
  | joinFirst table operator second type =>
      rcases comparison_cases operator with unknown | ⟨before, between, writes⟩
      · exact .inl fun s reference => extend_join_unknown reference second table type unknown s
      · refine .inr ⟨before, between ++ column d second, fun s reference =>
          ⟨_, extend_join reference second table type writes s, ?_⟩⟩
        simp [item?, written, String.append_assoc]
  | joinSecond table first operator type =>
      rcases comparison_cases operator with unknown | ⟨before, between, writes⟩
      · exact .inl fun s reference => extend_join_unknown first reference table type unknown s
      · refine .inr ⟨before ++ column d first ++ between, "", fun s reference =>
          ⟨_, extend_join first reference table type writes s, ?_⟩⟩
        simp [item?, written]

/-! ## Identifiers -/

/-- The identifiers of a table: its schema before the first point, and its name. -/
def tableParts (t : String) : List Part :=
  match splitFirst? '.' t with
  | some (schema, name) => [.name schema, .name name]
  | none => [.name t]

/-- The identifiers of a column: its table before the last point if there is one, and its name. -/
def columnParts (reference : String) : List Part :=
  match splitLast? '.' reference with
  | some (table, column) =>
    if table.isEmpty then [.ofText column] else [.name table, .ofText column]
  | none => [.ofText reference]

theorem tableParts_ne_nil (t : String) : tableParts t ≠ [] := by
  unfold tableParts
  split <;> exact List.cons_ne_nil _ _

theorem append_ne_one (t : String) (p q : Part) : tableParts t ++ [p] ≠ [q] := by
  unfold tableParts
  split <;> simp

theorem columnParts_ne_nil (reference : String) : columnParts reference ≠ [] := by
  unfold columnParts
  split
  · split <;> exact List.cons_ne_nil _ _
  · exact List.cons_ne_nil _ _

theorem table_eq (d : Dialect) (t : String) : table d t = d.spelled (tableParts t) := by
  cases cut : splitFirst? '.' t with
  | none => rw [table, tableParts, cut, spelled_one, Part.text]
  | some sides => rw [table, tableParts, cut, spelled_two, Part.text, Part.text]

theorem column_eq (d : Dialect) (reference : String) :
    column d reference = d.spelled (columnParts reference) := by
  cases cut : splitLast? '.' reference with
  | none => rw [column, columnParts, cut, spelled_one, Part.text_ofText]
  | some sides =>
      simp only [column, columnParts, cut]
      split
      · rw [spelled_one, Part.text_ofText]
      · rw [spelled_two, Part.text_ofText, Part.text]

theorem table_spells (d : Dialect) (t : String) : d.Spells (tableParts t) (table d t) :=
  ⟨tableParts_ne_nil t, table_eq d t⟩

theorem columnParts_qualified (named : t ≠ "") (undotted : '.' ∉ c.toList) :
    columnParts (t ++ "." ++ c) = [.name t, .ofText c] := by
  have cut : splitLast? '.' (t ++ "." ++ c) = some (t, c) := by
    refine splitLast?_append undotted ?_
    rw [String.toList_append, String.toList_append, List.append_assoc]
    rfl
  simp [columnParts, cut, named]

/-- A column follows its table where that is one identifier. -/
theorem column_follows_iff (undotted : '.' ∉ c.toList) :
    tableParts t ++ [.ofText c] = columnParts s ↔
      t ≠ "" ∧ '.' ∉ t.toList ∧ s = t ++ "." ++ c := by
  constructor
  · intro same
    cases cut : splitLast? '.' s with
    | none =>
        rw [columnParts, cut] at same
        exact absurd same (append_ne_one t _ _)
    | some sides =>
        obtain ⟨table, column⟩ := sides
        simp only [columnParts, cut] at same
        split at same
        · exact absurd same (append_ne_one t _ _)
        · rename_i named
          have same : tableParts t ++ [Part.ofText c] = [.name table] ++ [.ofText column] := same
          obtain ⟨tables, columns⟩ := List.append_inj' same rfl
          cases first : splitFirst? '.' t with
          | some sides => simp [tableParts, first] at tables
          | none =>
              obtain rfl : t = table := by simpa [tableParts, first] using tables
              obtain rfl := Part.ofText_injective (List.cons.inj columns).1
              refine ⟨by simpa using named, splitFirst?_eq_none.mp first,
                String.toList_injective ?_⟩
              rw [(splitLast?_ok cut).1, String.toList_append, String.toList_append,
                List.append_assoc]
              rfl
  · rintro ⟨named, pointless, rfl⟩
    rw [columnParts_qualified named undotted, tableParts, splitFirst?_eq_none.mpr pointless]
    rfl

theorem ofText_eq_name_iff {s t : String} : Part.ofText s = .name t ↔ s ≠ "*" ∧ s = t := by
  rw [Part.ofText]
  split
  · rename_i star
    simp [star]
  · rename_i starless
    simp [starless]

/-- A table is quoted as it is written where it has one point at most, and no star beside it. -/
theorem quotedParts_eq_iff :
    tableParts t = quotedParts t ↔ (splitAll '.' t).length ≤ 2 ∧ "*" ∉ splitAll '.' t := by
  cases first : splitFirst? '.' t with
  | none =>
      have whole := splitAll_of_absent (splitFirst?_eq_none.mp first)
      simp [tableParts, quotedParts, first, whole, eq_comm (a := Part.name t), ofText_eq_name_iff,
        eq_comm (a := "*")]
  | some sides =>
      obtain ⟨schema, name⟩ := sides
      obtain ⟨whole, absent⟩ := splitFirst?_ok first
      have whole : t = schema ++ "." ++ name := by
        refine String.toList_injective ?_
        rw [whole, String.toList_append, String.toList_append, List.append_assoc]
        rfl
      have parts : splitAll '.' t = schema :: splitAll '.' name := by
        rw [whole, splitAll_append rfl, splitAll_of_absent absent, List.singleton_append]
      have inner : Text.join "." (splitAll '.' name) = name := join_splitAll rfl name
      rcases later : splitAll '.' name with _ | ⟨first', _ | ⟨second, more⟩⟩
      · exact absurd later (splitAll_ne_nil '.' name)
      · rw [later, Text.join, String.intercalate_singleton] at inner
        rw [tableParts, first, quotedParts, parts, later, inner]
        simp [eq_comm (a := Part.name _), ofText_eq_name_iff, eq_comm (a := "*")]
      · simp [tableParts, first, quotedParts, parts, later]

/-! ## Selected columns -/

/-- A reference that is selected as it is: it is not cut before an alias, and no blanks are taken
off. -/
def Bare (s : String) : Prop := cutAlias? s = none ∧ strip s = s ∨ cutAlias? s = some (s, "")

instance (s : String) : Decidable (Bare s) :=
  inferInstanceAs (Decidable (_ ∨ _))

theorem selected_follows_iff (undotted : '.' ∉ c.toList) :
    d.Spells (tableParts t ++ [.ofText c]) (selected d (t ++ "." ++ c)) ↔
      t ≠ "" ∧ '.' ∉ t.toList ∧ Bare (t ++ "." ++ c) := by
  cases cut : cutAlias? (t ++ "." ++ c) with
  | none =>
      rw [selected, cut, column_eq, spells_spelled_iff (columnParts_ne_nil _),
        column_follows_iff undotted, Bare, cut]
      simp
  | some sides =>
      obtain ⟨reference, aliased⟩ := sides
      by_cases unnamed : aliased = ""
      · have written : selected d (t ++ "." ++ c) = column d reference := by
          simp [selected, cut, unnamed]
        rw [written, column_eq, spells_spelled_iff (columnParts_ne_nil _),
          column_follows_iff undotted, Bare, cut]
        simp [unnamed]
      · have written : selected d (t ++ "." ++ c) =
            d.spelled (columnParts reference) ++ " AS " ++ d.quote aliased := by
          simp [selected, cut, unnamed, column_eq]
        rw [written]
        refine iff_of_false (not_spells_aliased (columnParts_ne_nil reference) _) ?_
        simp [Bare, cut, unnamed]

theorem ColumnClause.follows_iff (clause : ColumnClause) (undotted : '.' ∉ c.toList) :
    d.Spells (tableParts t ++ [.ofText c]) (clause.written d (t ++ "." ++ c)) ↔
      t ≠ "" ∧ '.' ∉ t.toList ∧ (clause = .select → Bare (t ++ "." ++ c)) := by
  cases clause with
  | select => simpa [written] using selected_follows_iff undotted
  | _ =>
      simp only [written, column_eq, spells_spelled_iff (columnParts_ne_nil _),
        column_follows_iff undotted, reduceCtorEq, false_implies, and_true]

theorem wrap_follows_iff (undotted : '.' ∉ c.toList) :
    (∃ quoted, d.wrap (t ++ "." ++ c) = .ok quoted ∧
      d.Spells (tableParts t ++ [.ofText c]) quoted) ↔
      (splitAll '.' t).length ≤ 2 ∧ "*" ∉ splitAll '.' t ∧ Unaliased (t ++ "." ++ c) := by
  have parts : quotedParts (t ++ "." ++ c) = quotedParts t ++ [.ofText c] := by
    rw [quotedParts, splitAll_append rfl, splitAll_of_absent undotted, List.map_append]
    rfl
  rw [wrap_spells_iff, parts, List.append_left_inj, quotedParts_eq_iff, and_comm, and_assoc]

/-- Every clause takes a table and a column in one written form. A column is written as its table
is, with its own name behind it, in aggregations where the table has one point at most, and in all
other clauses only where it has none. -/
theorem qualified_alike_iff (d : Dialect) (t : String) {c : String} (undotted : '.' ∉ c.toList) :
    (∀ clause : TableClause, clause.Takes d) ∧ (∀ clause : ColumnClause, clause.Places d) ∧
    ∃ parts, d.Spells parts (table d t) ∧
      (∀ clause : ColumnClause,
        d.Spells (parts ++ [.ofText c]) (clause.written d (t ++ "." ++ c)) ↔
          t ≠ "" ∧ '.' ∉ t.toList ∧ (clause = .select → Bare (t ++ "." ++ c))) ∧
      ((∃ quoted, d.wrap (t ++ "." ++ c) = .ok quoted ∧
        d.Spells (parts ++ [.ofText c]) quoted) ↔
          (splitAll '.' t).length ≤ 2 ∧ "*" ∉ splitAll '.' t ∧ Unaliased (t ++ "." ++ c)) :=
  ⟨(·.takes d), (·.places d), tableParts t, table_spells d t, (·.follows_iff undotted),
    wrap_follows_iff undotted⟩

theorem qualified_alike_orders :
    '.' ∉ "at[ ]".toList ∧ ∃ parts, sqlserver.Spells parts "[as orders]" ∧
      (∀ clause : ColumnClause, sqlserver.Spells (parts ++ [.name "at[ ]"])
        (clause.written sqlserver "as orders.at[ ]")) ∧
      ∃ quoted, sqlserver.wrap "as orders.at[ ]" = .ok quoted ∧
        sqlserver.Spells (parts ++ [.name "at[ ]"]) quoted := by
  have undotted : '.' ∉ "at[ ]".toList := by decide
  obtain ⟨-, -, parts, spells, follows, wrapped⟩ :=
    qualified_alike_iff sqlserver "as orders" undotted
  have bare : Bare "as orders.at[ ]" := by decide +kernel
  have plain : Unaliased "as orders.at[ ]" := by decide +kernel
  exact ⟨undotted, parts, spells,
    fun clause => (follows clause).mpr ⟨by decide, by decide, fun _ => bare⟩,
    wrapped.mpr ⟨by decide, by decide, plain⟩⟩

/-- With its schema a table is read as two identifiers, and stands as a single one in front of its
columns, except in aggregations. -/
theorem qualified_schema_apart :
    table postgres "shop.orders" = "\"shop\".\"orders\"" ∧
      (∀ clause : ColumnClause,
        clause.written postgres "shop.orders.total" = "\"shop.orders\".\"total\"") ∧
      postgres.wrap "shop.orders.total" = .ok "\"shop\".\"orders\".\"total\"" := by
  refine ⟨rfl, fun clause => ?_, rfl⟩
  cases clause <;> rfl

end Datacube.Query.Relational
