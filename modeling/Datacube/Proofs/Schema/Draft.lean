import Datacube.Proofs.Schema.Document
import Datacube.Schema.Draft

/-!
# Tables declared in code

Whatever calls declare a dimension, its metadata and filters are objects, its label is a text if it
has one, and its granularity is in lower case. So a table that is built of a draft loses nothing
when it is written as a document and read again.
-/

namespace Datacube
open Text

namespace Dimension
variable {d d' : Dimension}

/-- One call of a builder. -/
inductive Edit : Dimension → Dimension → Prop where
  | named {d : Dimension} (name : Value) : Edit d (d.withName name)
  | labelled {d : Dimension} (label : Option String) : Edit d (d.withLabel (.ofText? label))
  | typed {d : Dimension} (type : Value) : Edit d (d.withType type)
  | annotated {d d' : Dimension} {metadata : Value} (done : d.withMetadata metadata = .ok d') :
      Edit d d'
  | pinned {d : Dimension} (table : String) : Edit d (d.onTable table)
  | only {d d' : Dimension} {values : Value} (done : d.only values = .ok d') : Edit d d'
  | except {d d' : Dimension} {values : Value} (done : d.except values = .ok d') : Edit d d'
  | filtered {d d' : Dimension} {operator value : Value}
      (done : d.filtered operator value = .ok d') : Edit d d'
  | bucketed {d d' : Dimension} {granularity : String}
      (done : d.withGranularity granularity = .ok d') : Edit d d'
  | precise {d d' : Dimension} {precision : String} (done : d.withPrecision precision = .ok d') :
      Edit d d'
  | valued {d d' : Dimension} {values : Value} (done : d.withValues values = .ok d') : Edit d d'
  | extended {d d' : Dimension} {value : Value} (done : d.addValue value = .ok d') : Edit d d'
  | classed {d d' : Dimension} {className : Value} (done : d.withClassName className = .ok d') :
      Edit d d'
  | cased {d d' : Dimension} {cases : Value} (done : d.withCases cases = .ok d') : Edit d d'

/-- A dimension made by calls, from a reference that is not empty. -/
inductive Declared : Dimension → Prop where
  | make (kind : DimensionKind) {reference : String} (named : reference ≠ "") :
      Declared (.make kind reference)
  | ofEnumeration (className : String) (values : List Value) {reference : String}
      (named : reference ≠ "") : Declared (.ofEnumeration reference className values)
  | edit {d d' : Dimension} (declared : Declared d) (edit : Edit d d') : Declared d'

structure Regular (d : Dimension) : Prop where
  referred : d.reference ≠ ""
  labelled : ∃ label, d.label = .ofText? label
  metadata : ∃ fields, d.metadata = .object fields
  filters : ∃ fields, d.filters = .object fields
  lowered : ∀ granularity precision, d.detail = .time granularity precision →
    lower granularity = granularity

theorem regular_make (kind : DimensionKind) {reference : String} (named : reference ≠ "") :
    (make kind reference).Regular where
  referred := named
  labelled := ⟨none, rfl⟩
  metadata := ⟨[], rfl⟩
  filters := ⟨[], rfl⟩
  lowered := by
    intro granularity precision detail
    cases kind <;> cases detail
    decide +kernel

theorem Regular.addFilter (regular : d.Regular) {key : String} {v : Value}
    (done : d.addFilter key v = .ok d') : d'.Regular := by
  obtain ⟨fields, filters⟩ := regular.filters
  rw [Dimension.addFilter, filters, Except.ok.injEq] at done
  subst done
  exact { regular with filters := ⟨_, rfl⟩ }

theorem Regular.withDetail (regular : d.Regular) (detail : DimensionDetail)
    (lowered : ∀ granularity precision, detail = .time granularity precision →
      lower granularity = granularity) : { d with detail }.Regular :=
  { regular with lowered }

theorem Edit.regular (edit : Edit d d') (regular : d.Regular) : d'.Regular := by
  cases edit with
  | named name => exact { regular with }
  | labelled label => exact { regular with labelled := ⟨label, rfl⟩ }
  | typed type => exact { regular with }
  | annotated done =>
      simp only [withMetadata, Outcome.bind_eq_ok, Outcome.pure_eq_ok] at done
      obtain ⟨fields, -, rfl⟩ := done
      exact { regular with metadata := ⟨fields, rfl⟩ }
  | pinned table => exact { regular with referred := by simp [onTable] }
  | only done =>
      simp only [Dimension.only, Outcome.bind_eq_ok] at done
      obtain ⟨_, -, done⟩ := done
      exact regular.addFilter done
  | except done =>
      simp only [Dimension.except, Outcome.bind_eq_ok] at done
      obtain ⟨_, -, done⟩ := done
      exact regular.addFilter done
  | filtered done => exact regular.addFilter done
  | bucketed done =>
      unfold withGranularity at done
      split at done
      · rw [Except.ok.injEq] at done
        subst done
        refine regular.withDetail _ fun g p same => ?_
        rw [DimensionDetail.time.injEq] at same
        rw [← same.1, lower_lower]
      · cases done
  | precise done =>
      unfold withPrecision at done
      split at done
      · rename_i granularity precision detail
        rw [Except.ok.injEq] at done
        subst done
        refine regular.withDetail _ fun g p same => ?_
        rw [DimensionDetail.time.injEq] at same
        rw [← same.1]
        exact regular.lowered granularity precision detail
      · cases done
  | valued done =>
      unfold withValues at done
      split at done
      · simp only [Outcome.bind_eq_ok, Outcome.pure_eq_ok] at done
        obtain ⟨values, -, rfl⟩ := done
        exact regular.withDetail _ nofun
      · cases done
  | extended done =>
      unfold addValue at done
      split at done
      · rw [Except.ok.injEq] at done
        subst done
        exact regular.withDetail _ nofun
      · cases done
  | classed done =>
      unfold withClassName at done
      split at done
      · rw [Except.ok.injEq] at done
        subst done
        exact regular.withDetail _ nofun
      · cases done
  | cased done =>
      unfold withCases at done
      split at done
      · simp only [Outcome.bind_eq_ok, Outcome.pure_eq_ok] at done
        obtain ⟨values, -, rfl⟩ := done
        exact regular.withDetail _ nofun
      · cases done

theorem Declared.regular (declared : d.Declared) : d.Regular := by
  induction declared with
  | make kind named => exact regular_make kind named
  | ofEnumeration className values named => exact (regular_make .enum named).withDetail _ nofun
  | edit _ edit ih => exact edit.regular ih

theorem Regular.restorable (regular : d.Regular) : d.Restorable where
  referred := fun empty => absurd empty regular.referred
  labelled := by
    intro set same
    obtain ⟨label, text⟩ := regular.labelled
    cases label with
    | none =>
        rw [text] at set
        cases set
    | some label =>
        rw [text] at same ⊢
        exact (Value.same_text label d.name).mp same
  lowered := regular.lowered

theorem Regular.document (regular : d.Regular) : ∃ v, d.document = .ok v := by
  obtain ⟨metadata, first⟩ := regular.metadata
  obtain ⟨filters, second⟩ := regular.filters
  exact ⟨_, document_eq_ok.mpr ⟨metadata, filters, by rw [first]; rfl, by rw [second]; rfl, rfl⟩⟩

theorem Regular.written {e : Value × Dimension} (regular : e.2.Regular) :
    ∃ f : Value × Value, (do return (e.1, ← e.2.document) : Outcome (Value × Value)) = .ok f := by
  obtain ⟨v, document⟩ := regular.document
  exact ⟨(e.1, v), Outcome.bind_eq_ok.mpr ⟨v, document, rfl⟩⟩

end Dimension

namespace TableDraft
variable {draft draft' : TableDraft} {t : Table} {provider : String} {connection : Value}

/-- One call that declares something about a table. -/
inductive Edit : TableDraft → TableDraft → Prop where
  | connection {t : TableDraft} (connection : Value) : Edit t (t.onConnection connection)
  | primaryKey {t : TableDraft} (columns : List Value) (autoIncrement : Value) :
      Edit t (t.keyedBy columns autoIncrement)
  | columns {t : TableDraft} (columns : List Value) : Edit t (t.addColumns columns)
  | sql {t : TableDraft} (sql : Value) : Edit t (t.backedBy sql)
  | metadata {t : TableDraft} (metadata : Entries Value Value) : Edit t (t.annotate metadata)
  | relation {t : TableDraft} (relation : Relation) : Edit t (t.relate relation)
  | dimensions {t : TableDraft} {dimensions : List Dimension}
      (declared : ∀ d ∈ dimensions, d.Declared) : Edit t (t.addDimensions dimensions)
  | belongsTo {t : TableDraft} (name target foreignKey ownerKey : Value) :
      Edit t (t.belongsTo name target foreignKey ownerKey)
  | hasMany {t : TableDraft} (name target foreignKey localKey : Value) :
      Edit t (t.hasMany name target foreignKey localKey)
  | hasOne {t : TableDraft} (name target foreignKey localKey : Value) :
      Edit t (t.hasOne name target foreignKey localKey)
  | belongsToMany {t : TableDraft}
      (name target pivot foreignKey relatedKey localKey ownerKey : Value) :
      Edit t (t.belongsToMany name target pivot foreignKey relatedKey localKey ownerKey)
  | crossJoin {t : TableDraft} (target leftKey rightKey name : Value) :
      Edit t (t.crossJoin target leftKey rightKey name)

/-- A draft made by calls. -/
inductive Declared : TableDraft → Prop where
  | named (name : Value) : Declared (.named name)
  | edit {t t' : TableDraft} (declared : Declared t) (edit : Edit t t') : Declared t'

theorem Edit.dimensions_declared (edit : Edit draft draft')
    (declared : ∀ d ∈ draft.dimensions, d.Declared) : ∀ d ∈ draft'.dimensions, d.Declared := by
  cases edit with
  | dimensions more =>
      intro d member
      rcases List.mem_append.mp member with old | new
      · exact declared d old
      · exact more d new
  | _ => exact declared

theorem Declared.dimensions_declared (declared : draft.Declared) :
    ∀ d ∈ draft.dimensions, d.Declared := by
  induction declared with
  | named name => exact List.forall_mem_nil _
  | edit _ edit ih => exact edit.dimensions_declared ih

theorem build_eq_ok : draft.build provider connection = .ok t ↔ ∃ relations,
    RelationGraph.ofRelations draft.relations = .ok relations ∧
      t = ⟨draft.name, provider, draft.connection.orElse connection, draft.primaryKey, relations,
        .ofDimensions draft.dimensions, draft.columns, draft.sql, .object draft.metadata⟩ := by
  simp only [build, Outcome.bind_eq_ok, Outcome.pure_eq_ok]
  exact exists_congr fun relations => and_congr_right fun _ => eq_comm

theorem build_regular (declared : draft.Declared) (built : draft.build provider connection = .ok t) :
    ∀ e ∈ t.dimensions, e.2.Regular := by
  obtain ⟨relations, -, rfl⟩ := build_eq_ok.mp built
  intro e member
  obtain ⟨p, listed, same⟩ := Entries.mem_values_ofPairs (List.mem_map_of_mem (f := (·.2)) member)
  obtain ⟨d, among, rfl⟩ := List.mem_map.mp listed
  exact same ▸ (declared.dimensions_declared d among).regular

/-- A table that calls declare loses nothing when it is written and read again. -/
theorem build_reread (declared : draft.Declared)
    (built : draft.build provider connection = .ok t) : ∃ v t', t.document = .ok v ∧
      Table.ofDocument t.provider t.connection v = .ok t' ∧ t'.document = .ok v ∧
      t'.identifier = t.identifier ∧ t'.connectionKey = t.connectionKey ∧
      t'.isVirtual = t.isVirtual ∧ (∀ column, t'.hasColumn column = t.hasColumn column) ∧
      t'.relations.mapValues Relation.document = t.relations.mapValues Relation.document ∧
      t'.dimensions.mapValues Dimension.document = t.dimensions.mapValues Dimension.document ∧
      t'.columns = t.columns := by
  have regular := build_regular declared built
  have written : ∃ v, t.document = .ok v := by
    obtain ⟨fields, run⟩ := Outcome.exists_mapM_ok.mpr fun e listed =>
      (regular e listed).written
    obtain ⟨relations, -, rfl⟩ := build_eq_ok.mp built
    exact ⟨_, Table.document_eq_ok.mpr ⟨_, draft.metadata,
      DimensionCatalog.document_eq_ok.mpr ⟨fields, run, rfl⟩, rfl, rfl⟩⟩
  obtain ⟨v, written⟩ := written
  obtain ⟨t', back, again, reread⟩ := Table.ofDocument_document
    (fun e listed => (regular e listed).restorable) (Value.orElse_self t.connection) written
  exact ⟨v, t', written, back, again, reread.identifier, reread.connectionKey, reread.isVirtual,
    reread.hasColumn, reread.relations_written, reread.dimensions_written, reread.columns⟩

/-- Orders, with a time, a text and an enumeration, and with four kinds of relations. -/
def orders : TableDraft :=
  (((((((named "orders").keyedBy ["id"] (.bool true)).belongsTo "customer" "customers" .null
    "id").hasMany "items" "order_items" "order_id" "id").belongsToMany "tags" "tags" "order_tags"
    "order_id" "tag_id" "id" "id").crossJoin "calendar" .null .null .null).annotate
    [("owner", "sales")]).addDimensions
    [{ Dimension.make .time "created_at" with detail := .time "month" "timestamp" },
      ((Dimension.make .string "customers.name").withName "customer").withLabel "Customer",
      Dimension.ofEnumeration "status" "app.Status" ["new", "paid"]]

theorem build_reread_orders : orders.Declared ∧ ∃ t, orders.build "shop" "main" = .ok t ∧
    ∃ v t', t.document = .ok v ∧
      Table.ofDocument t.provider t.connection v = .ok t' ∧ t'.document = .ok v ∧
      t'.identifier = t.identifier ∧ t'.connectionKey = t.connectionKey ∧
      t'.isVirtual = t.isVirtual ∧ (∀ column, t'.hasColumn column = t.hasColumn column) ∧
      t'.relations.mapValues Relation.document = t.relations.mapValues Relation.document ∧
      t'.dimensions.mapValues Dimension.document = t.dimensions.mapValues Dimension.document ∧
      t'.columns = t.columns := by
  have dimensions : ∀ d ∈
      [{ Dimension.make .time "created_at" with detail := .time "month" "timestamp" },
        ((Dimension.make .string "customers.name").withName "customer").withLabel "Customer",
        Dimension.ofEnumeration "status" "app.Status" ["new", "paid"]], d.Declared := by
    intro d member
    simp only [List.mem_cons, List.not_mem_nil, or_false] at member
    rcases member with rfl | rfl | rfl
    · exact .edit (.make .time (show "created_at" ≠ "" by decide))
        (.bucketed (show Dimension.withGranularity _ "Month" = .ok _ from rfl))
    · exact .edit (.edit (.make .string (show "customers.name" ≠ "" by decide)) (.named "customer"))
        (.labelled (some "Customer"))
    · exact .ofEnumeration "app.Status" ["new", "paid"] (by decide)
  have declared : orders.Declared :=
    .edit (.edit (.edit (.edit (.edit (.edit (.edit (.named "orders")
      (.primaryKey ["id"] (.bool true))) (.belongsTo "customer" "customers" .null "id"))
      (.hasMany "items" "order_items" "order_id" "id"))
      (.belongsToMany "tags" "tags" "order_tags" "order_id" "tag_id" "id" "id"))
      (.crossJoin "calendar" .null .null .null)) (.metadata [("owner", "sales")]))
      (.dimensions dimensions)
  obtain ⟨t, built⟩ : ∃ t, orders.build "shop" "main" = .ok t := ⟨_, rfl⟩
  exact ⟨declared, t, built, build_reread declared built⟩

end TableDraft
end Datacube
