import Datacube.Proofs.Outcome
import Datacube.Proofs.Entries
import Datacube.Proofs.Text.Case
import Datacube.Schema.Table

/-!
# Reading what was written

A table that is written as a document and read again is written the same way. What counts as absent
is left out or replaced by its default when it is written, and reading does not tell the two apart:
a name that is the column, a label that is the name, a pivot that is empty.
-/

namespace Datacube
open Text

namespace Value

@[simp]
theorem named?_nil (name : String) : named? [] name = none := rfl

@[simp]
theorem named?_cons (key : String) (v : Value) (rest : List (Value × Value)) (name : String) :
    named? ((.text key, v) :: rest) name = if name = key then some v else named? rest name := by
  by_cases same : name = key <;> simp [named?, isText, same]

theorem orElse_self (v : Value) : v.orElse v = v := ite_self v

theorem orElse_of_true {v other : Value} (holds : v.isTrue = true) : v.orElse other = v :=
  if_pos holds

theorem orElse_of_false {v other : Value} (fails : v.isTrue = false) : v.orElse other = other :=
  if_neg (by simp [fails])

theorem orElse_list (items : List Value) : (list items).orElse (list []) = list items := by
  cases items <;> rfl

theorem orElse_object (fields : Entries Value Value) :
    (object fields).orElse (object []) = object fields := by
  cases fields <;> rfl

end Value

/-! ## Dimensions -/

namespace Dimension
variable {d : Dimension} {v : Value}

structure Restorable (d : Dimension) : Prop where
  referred : d.reference = "" → d.explicitName.isTrue = false
  labelled : d.label.isTrue = true → d.label.same d.name = true → d.label = d.name
  lowered : ∀ granularity precision, d.detail = .time granularity precision →
    lower granularity = granularity

theorem ofName?_name (kind : DimensionKind) : DimensionKind.ofName? kind.name = some kind := by
  cases kind <;> rfl

def written (d : Dimension) (metadata filters : Entries Value Value) : List (String × Value) :=
  [("kind", .text d.kind.name), ("reference", .text d.reference), ("name", d.name),
    ("label", d.label.orElse d.name), ("column", .text d.column), ("type", d.type),
    ("meta", .object metadata), ("filters", .object filters)] ++ detailFields d.detail

theorem document_eq_ok : d.document = .ok v ↔ ∃ metadata filters,
    d.metadata.toFields = .ok metadata ∧ d.filters.toFields = .ok filters ∧
      v = .record (d.written metadata filters) := by
  simp only [document, Outcome.bind_eq_ok, Outcome.pure_eq_ok, written]
  constructor
  · rintro ⟨metadata, first, filters, second, rfl⟩
    exact ⟨metadata, filters, first, second, rfl⟩
  · rintro ⟨metadata, filters, first, second, rfl⟩
    exact ⟨metadata, first, filters, second, rfl⟩

theorem detailOf_written (restorable : d.Restorable) (metadata filters : Entries Value Value) :
    detailOf d.kind ((d.written metadata filters).map fun f => (.text f.1, f.2)) = .ok d.detail := by
  have lowered := restorable.lowered
  cases made : d.detail with
  | time granularity precision =>
      simp [detailOf, kind, DimensionDetail.kind, made, written, detailFields,
        Value.toText, lowered granularity precision made]
  | _ =>
      simp [detailOf, kind, DimensionDetail.kind, made, written, detailFields,
        Value.toItems, bind, Except.bind, pure, Except.pure]

theorem firstSet_written (restorable : d.Restorable) (metadata filters : Entries Value Value) :
    firstSet ((d.written metadata filters).map fun f => (.text f.1, f.2))
      ["reference", "column", "name"] = .ok (.text d.reference) := by
  by_cases empty : d.reference = ""
  · -- Without a reference the column and the name are read in its place, and both are empty too.
    have name : d.name = .text "" := by
      rw [name, Value.orElse_of_false (restorable.referred empty), column, empty]
      rfl
    simp [firstSet, Value.optional, Value.required, written,
      Value.isTrue, empty, column, name, show columnOf "" = "" from rfl]
  · simp [firstSet, Value.optional, written, Value.isTrue, empty]

theorem kindOf_written (d : Dimension) (metadata filters : Entries Value Value) :
    kindOf ((d.written metadata filters).map fun f => (.text f.1, f.2)) = .ok d.kind := by
  simp [kindOf, written, ofName?_name]

theorem name_orElse_column (d : Dimension) : d.name.orElse (.text d.column) = d.name := by
  rw [name]
  cases set : d.explicitName.isTrue with
  | true => rw [Value.orElse_of_true set, Value.orElse_of_true set]
  | false => rw [Value.orElse_of_false set, Value.orElse_self]

def reread (d : Dimension) (metadata filters : Entries Value Value) : Dimension :=
  { d with
    label := if (d.label.orElse d.name).same d.name then .null else d.label.orElse d.name
    metadata := .object metadata
    filters := .object filters
    explicitName := if d.name.isTrue && !d.name.isText d.column then d.name else .null }

theorem ofDocument_written (restorable : d.Restorable) (metadata filters : Entries Value Value) :
    ofDocument (.record (d.written metadata filters)) = .ok (d.reread metadata filters) := by
  have name := d.name_orElse_column
  rw [column] at name
  simp only [ofDocument, Value.record, Value.objectFields, kindOf_written,
    firstSet_written restorable, detailOf_written restorable, bind, Except.bind, pure, Except.pure,
    Except.ok.injEq]
  simp [reread, Value.optional, written, name, column]

theorem reread_name (d : Dimension) (metadata filters : Entries Value Value) :
    (d.reread metadata filters).name = d.name := by
  show (if d.name.isTrue && !d.name.isText d.column then d.name else .null).orElse (.text d.column) =
    d.name
  split
  · rename_i shown
    rw [Bool.and_eq_true] at shown
    exact Value.orElse_of_true shown.1
  · rename_i hidden
    rw [Value.orElse_of_false rfl, ← name_orElse_column]
    cases set : d.name.isTrue with
    | false => rw [Value.orElse_of_false set]
    | true =>
        rw [Value.orElse_of_true set]
        have column : d.name.isText d.column = true := by simpa [set] using hidden
        exact ((Value.isText_iff _ _).mp column).symm

theorem reread_label (restorable : d.Restorable) (metadata filters : Entries Value Value) :
    (d.reread metadata filters).label.orElse d.name = d.label.orElse d.name := by
  show (if (d.label.orElse d.name).same d.name then .null else d.label.orElse d.name).orElse d.name =
    d.label.orElse d.name
  cases set : d.label.isTrue with
  | false =>
      rw [Value.orElse_of_false set]
      split
      · exact Value.orElse_of_false rfl
      · exact Value.orElse_self d.name
  | true =>
      rw [Value.orElse_of_true set]
      split
      · rename_i same
        rw [restorable.labelled set same]
        exact Value.orElse_of_false rfl
      · exact Value.orElse_of_true set

/-- A dimension is written the same way after it is read again. -/
theorem ofDocument_document (restorable : d.Restorable) (document : d.document = .ok v) :
    ∃ d', ofDocument v = .ok d' ∧ d'.document = .ok v := by
  obtain ⟨metadata, filters, -, -, rfl⟩ := document_eq_ok.mp document
  refine ⟨d.reread metadata filters, ofDocument_written restorable metadata filters, ?_⟩
  refine document_eq_ok.mpr ⟨metadata, filters, rfl, rfl, ?_⟩
  rw [written, written, reread_name, reread_label restorable]
  rfl

theorem reread_key (d : Dimension) (metadata filters : Entries Value Value) :
    (d.reread metadata filters).key = d.key := by
  rw [key, key, reread_name]
  rfl

end Dimension

/-! ## Relations -/

theorem RelationType.ofValue_name (type : RelationType) :
    RelationType.ofValue (.text type.name) = .ok type := by
  cases type <;> rfl

namespace Relation

def reread (r : Relation) : Relation := { r with pivot := r.pivot.orElse .null }

theorem ofDocument_document (name : Value) (r : Relation) :
    ofDocument name r.document = .ok r.reread := by
  cases set : r.pivot.isTrue with
  | true =>
      simp [ofDocument, document, reread, Value.record, Value.objectFields,
        Value.required, Value.optional, Value.toFields, RelationType.ofValue_name, set,
        Value.orElse, bind, Except.bind, pure, Except.pure]
  | false =>
      simp [ofDocument, document, reread, Value.record, Value.objectFields,
        Value.required, Value.optional, Value.toFields, RelationType.ofValue_name, set,
        Value.orElse, bind, Except.bind, pure, Except.pure]

theorem document_reread (r : Relation) : r.reread.document = r.document := by
  rw [document, document, reread]
  cases set : r.pivot.isTrue with
  | true => rw [Value.orElse_of_true set, set]
  | false => rw [Value.orElse_of_false set]; rfl

end Relation

namespace RelationGraph

theorem ofDocument_document (graph : RelationGraph) :
    ofDocument graph.document = .ok (graph.mapValues Relation.reread) := by
  unfold ofDocument
  split
  · rename_i empty
    cases graph with
    | nil => rfl
    | cons => cases empty
  · refine Outcome.mapM_eq_ok.mpr ?_
    unfold Entries.mapValues
    refine List.forall₂_map_left_iff.mpr (List.forall₂_map_right_iff.mpr
      (List.forall₂_same.mpr fun e _ => ?_))
    simp [Relation.ofDocument_document, bind, Except.bind, pure, Except.pure]

theorem document_reread (graph : RelationGraph) :
    RelationGraph.document (graph.mapValues Relation.reread) = graph.document := by
  simp [document, Entries.mapValues, Relation.document_reread]

end RelationGraph

/-! ## Catalogs of dimensions -/

namespace DimensionCatalog
variable {catalog : DimensionCatalog} {v : Value}

theorem document_eq_ok : document catalog = .ok v ↔ ∃ fields,
    catalog.mapM (fun e => do return (e.1, ← e.2.document)) = .ok fields ∧ v = .object fields := by
  simp only [document, Outcome.bind_eq_ok, Outcome.pure_eq_ok]
  exact exists_congr fun fields => and_congr_right fun _ => eq_comm

theorem ofDocument_object (fields : Entries Value Value) : ofDocument (.object fields) =
    fields.mapM fun e => do return (e.1, ← Dimension.ofDocument e.2) := by
  cases fields <;> rfl

theorem ofDocument_document (restorable : ∀ e ∈ catalog, e.2.Restorable)
    (written : document catalog = .ok v) : ∃ catalog', ofDocument v = .ok catalog' ∧
      document catalog' = .ok v ∧ List.Forall₂
        (fun e e' => e'.1 = e.1 ∧ e'.2.document = e.2.document) catalog catalog' := by
  obtain ⟨fields, run, rfl⟩ := document_eq_ok.mp written
  obtain ⟨catalog', back, again, related⟩ := Outcome.mapM_again
    (g := fun e => do return (e.1, ← Dimension.ofDocument e.2))
    (R := fun e e' => e'.1 = e.1 ∧ e'.2.document = e.2.document) run fun e listed f here => by
      simp only [Outcome.bind_eq_ok, Outcome.pure_eq_ok] at here
      obtain ⟨w, document, rfl⟩ := here
      obtain ⟨d, back, again⟩ := Dimension.ofDocument_document (restorable e listed) document
      refine ⟨(e.1, d), ?_, ?_, rfl, again.trans document.symm⟩
      · simp [back]
      · simp [again]
  exact ⟨catalog', (ofDocument_object fields).trans back, document_eq_ok.mpr ⟨fields, again, rfl⟩,
    related⟩

end DimensionCatalog

/-! ## Tables -/

theorem PrimaryKey.ofDocument_document (k : PrimaryKey) : ofDocument k.document = .ok k := by
  simp [document, ofDocument, Value.record, Value.objectFields, Value.toItems, bind, Except.bind,
    pure, Except.pure]

theorem PrimaryKey.ofOptional_document (key : Option PrimaryKey) : ofOptional (match key with
    | some key => key.document
    | none => .null) = .ok key := by
  cases key with
  | none => rfl
  | some key => exact congrArg (some <$> ·) key.ofDocument_document

namespace Table
variable {t t' : Table} {v connection : Value}

def written (t : Table) (dimensions : Value) (metadata : Entries Value Value) :
    List (String × Value) :=
  [("name", t.name), ("connection", t.connection),
    ("primaryKey", match t.primaryKey with
      | some key => key.document
      | none => .null),
    ("relations", RelationGraph.document t.relations), ("dimensions", dimensions),
    ("columns", .list t.columns), ("meta", .object metadata)] ++
    (if t.isVirtual then [("sql", t.sql)] else [])

theorem document_eq_ok : t.document = .ok v ↔ ∃ dimensions metadata,
    DimensionCatalog.document t.dimensions = .ok dimensions ∧ t.metadata.toFields = .ok metadata ∧
      v = .record (t.written dimensions metadata) := by
  simp only [document, Outcome.bind_eq_ok, Outcome.pure_eq_ok, written]
  constructor
  · rintro ⟨dimensions, first, metadata, second, rfl⟩
    exact ⟨dimensions, metadata, first, second, rfl⟩
  · rintro ⟨dimensions, metadata, first, second, rfl⟩
    exact ⟨dimensions, first, metadata, second, rfl⟩

theorem dimensionsOf_document {catalog : DimensionCatalog}
    (written : DimensionCatalog.document catalog = .ok v) :
    dimensionsOf v = DimensionCatalog.ofDocument v := by
  obtain ⟨fields, -, rfl⟩ := DimensionCatalog.document_eq_ok.mp written
  rfl

/-- What the fields of a document say of the table that is read from them. -/
structure Reads (provider : String) (connection : Value) (fields : Entries Value Value)
    (t : Table) : Prop where
  dimensions : dimensionsOf (Value.optional fields "dimensions") = .ok t.dimensions
  name : Value.required fields "name" = .ok t.name
  primaryKey : PrimaryKey.ofOptional (((Value.named? fields "primaryKey").or
    (Value.named? fields "primary_key")).getD .null) = .ok t.primaryKey
  relations : RelationGraph.ofDocument (Value.optional fields "relations") = .ok t.relations
  columns : ((Value.optional fields "columns").orElse (.list [])).toItems = .ok t.columns
  provider : t.provider = provider
  connection : t.connection = (Value.optional fields "connection").orElse connection
  sql : t.sql = Value.optional fields "sql"
  metadata : t.metadata = (Value.optional fields "meta").orElse (.object [])

theorem ofDocument_eq_ok {provider : String} {fields : Entries Value Value} :
    ofDocument provider connection (.object fields) = .ok t ↔
      Reads provider connection fields t := by
  simp only [ofDocument, Value.objectFields, Outcome.bind_eq_ok, Outcome.pure_eq_ok,
    Except.ok.injEq, exists_eq_left']
  constructor
  · rintro ⟨dimensions, first, name, second, key, third, relations, fourth, columns, fifth, rfl⟩
    exact ⟨first, second, third, fourth, fifth, rfl, rfl, rfl, rfl⟩
  · rintro ⟨first, second, third, fourth, fifth, rfl, connection, sql, metadata⟩
    refine ⟨_, first, _, second, _, third, _, fourth, _, fifth, ?_⟩
    rw [← connection, ← sql, ← metadata]

/-- The second table is the first one as it is read again. -/
structure Reread (t t' : Table) : Prop where
  name : t'.name = t.name
  provider : t'.provider = t.provider
  connection : t'.connection = t.connection
  primaryKey : t'.primaryKey = t.primaryKey
  relations : t'.relations = t.relations.mapValues Relation.reread
  dimensions : List.Forall₂ (fun e e' => e'.1 = e.1 ∧ e'.2.document = e.2.document)
    t.dimensions t'.dimensions
  columns : t'.columns = t.columns
  sql : t'.sql = t.sql

/-- A table is written the same way after it is read again. -/
theorem ofDocument_document (restorable : ∀ e ∈ t.dimensions, e.2.Restorable)
    (own : t.connection.orElse connection = t.connection) (document : t.document = .ok v) :
    ∃ t', ofDocument t.provider connection v = .ok t' ∧ t'.document = .ok v ∧ t.Reread t' := by
  obtain ⟨dimensions, metadata, first, second, rfl⟩ := document_eq_ok.mp document
  obtain ⟨catalog', back, again, related⟩ :=
    DimensionCatalog.ofDocument_document restorable first
  let t' : Table := { t with
    relations := t.relations.mapValues Relation.reread
    dimensions := catalog'
    metadata := .object metadata }
  refine ⟨t', ?_, document_eq_ok.mpr ⟨dimensions, metadata, again, rfl, ?_⟩,
    ⟨rfl, rfl, rfl, rfl, rfl, related, rfl, rfl⟩⟩
  · refine ofDocument_eq_ok.mpr ⟨?_, ?_, ?_, ?_, ?_, rfl, ?_, ?_, ?_⟩
    · simpa [written, Value.optional, dimensionsOf_document first] using back
    · simp [written, Value.required, t']
    · simpa [written] using PrimaryKey.ofOptional_document t.primaryKey
    · simpa [written, Value.optional] using RelationGraph.ofDocument_document t.relations
    · simp [written, Value.optional, Value.orElse_list, Value.toItems, t']
    · simpa [written, Value.optional] using own.symm
    · cases virtual : t.isVirtual with
      | true => simp [written, Value.optional, virtual, t']
      | false =>
          have null : t.sql = .null := Value.eq_null_of_isNull (by simpa [isVirtual] using virtual)
          simp [written, Value.optional, virtual, null, t']
    · simp [written, Value.optional, Value.orElse_object, t']
  · rw [written, written, RelationGraph.document_reread]
    rfl

namespace Reread

theorem identifier (reread : t.Reread t') : t'.identifier = t.identifier := by
  rw [Table.identifier, Table.identifier, label, label, reread.provider, reread.name]

theorem connectionKey (reread : t.Reread t') : t'.connectionKey = t.connectionKey := by
  rw [Table.connectionKey, Table.connectionKey, reread.provider, reread.connection]

theorem isVirtual (reread : t.Reread t') : t'.isVirtual = t.isVirtual := by
  rw [Table.isVirtual, Table.isVirtual, reread.sql]

theorem hasColumn (reread : t.Reread t') (column : Value) :
    t'.hasColumn column = t.hasColumn column := by
  rw [Table.hasColumn, Table.hasColumn, reread.columns]

theorem relations_written (reread : t.Reread t') :
    t'.relations.mapValues Relation.document = t.relations.mapValues Relation.document := by
  rw [reread.relations]
  simp [Entries.mapValues, Relation.document_reread]

theorem dimensions_written (reread : t.Reread t') :
    t'.dimensions.mapValues Dimension.document = t.dimensions.mapValues Dimension.document := by
  have related := reread.dimensions
  unfold Entries.mapValues
  generalize t.dimensions = dimensions, t'.dimensions = dimensions' at related
  induction related with
  | nil => rfl
  | cons here _ ih => rw [List.map_cons, List.map_cons, ih, here.1, here.2]

end Reread
end Table
end Datacube
