import Datacube.Proofs.Catalog.Scan
import Datacube.Proofs.Schema.Draft

/-!
# Dimensions and tables that are read again

A dimension is written with its name and label in full. When it is read again, a label that is the
name and a name that is the column are taken for unset ones. So the dimension that is read answers
as the first one does, and is the first one unless a label or name was set to what it is without.

A table that was read can be written if its metadata, and the metadata and filters of its
dimensions, can be taken for objects. Reading does not ask for that: what stands under their names
is kept as it is, a null too. What is written is read again as a table that is written the same way.
-/

namespace Datacube

/-! ## Declared dimensions -/

theorem Value.ofText?_injective : Function.Injective Value.ofText? := by
  intro a b same
  cases a <;> cases b <;> simp_all [Value.ofText?]

theorem Value.same_ofText? {a b : Option String} :
    (Value.ofText? a).same (.ofText? b) = true ↔ a = b := by
  cases a with
  | some s => rw [ofText?, same_text, ← ofText?, ofText?_injective.eq_iff]
  | none => cases b <;> simp [ofText?, same, magnitude?]

namespace Dimension
open Text

variable {d : Dimension} {metadata filters : Entries Value Value} {label explicit : Option String}
  {name : String}

/-- What is set explicitly is not empty, and differs from what would stand in its place. -/
structure Settled (d : Dimension) : Prop where
  label : ∀ label, d.label = .text label → label ≠ "" ∧ d.name ≠ .text label
  name : ∀ name, d.explicitName = .text name → name ≠ "" ∧ name ≠ d.column

/-- A text that is set to something else than a default. -/
def departs (default s : String) : Bool := s ≠ "" && s ≠ default

theorem name_text (named : d.explicitName = .ofText? explicit) : ∃ name, d.name = .text name := by
  rw [Dimension.name, named]
  cases explicit with
  | none => exact ⟨d.column, rfl⟩
  | some s =>
      unfold Value.orElse
      split
      · exact ⟨s, rfl⟩
      · exact ⟨d.column, rfl⟩

/-- Reading keeps the labels that differ from the name. -/
theorem label_reread (metadata filters : Entries Value Value) (labelled : d.label = .ofText? label)
    (shown : d.name = .text name) :
    (d.reread metadata filters).label = .ofText? (label.filter (departs name)) := by
  show (if (d.label.orElse d.name).same d.name then .null else d.label.orElse d.name) = _
  rw [labelled, shown]
  cases label with
  | none => simp [Value.ofText?, Value.orElse, Value.isTrue, Value.same]
  | some s =>
      by_cases empty : s = ""
      · simp [Value.ofText?, Value.orElse, Value.isTrue, Value.same, Option.filter_some, departs,
          empty]
      · by_cases same : s = name <;>
          simp [Value.ofText?, Value.orElse, Value.isTrue, Value.same, Option.filter_some, departs,
            empty, same]

/-- Reading keeps the names that differ from the column. -/
theorem explicitName_reread (metadata filters : Entries Value Value)
    (named : d.explicitName = .ofText? explicit) :
    (d.reread metadata filters).explicitName = .ofText? (explicit.filter (departs d.column)) := by
  show (if d.name.isTrue && !d.name.isText d.column then d.name else .null) = _
  rw [Dimension.name, named]
  cases explicit with
  | none => simp [Value.ofText?, Value.orElse, Value.isTrue, Value.isText]
  | some s =>
      by_cases empty : s = ""
      · simp [Value.ofText?, Value.orElse, Value.isTrue, Value.isText, Option.filter_some, departs,
          empty]
      · by_cases same : s = d.column
        · simp [Value.ofText?, Value.orElse, Value.isTrue, Value.isText, Option.filter_some,
            departs, same]
        · simp [Value.ofText?, Value.orElse, Value.isTrue, Value.isText, Option.filter_some,
            departs, empty, same, Ne.symm same]

theorem filter_departs {default : String} {set : Option String} :
    set.filter (departs default) = set ↔ ∀ s, set = some s → s ≠ "" ∧ s ≠ default := by
  cases set with
  | none => simp
  | some s => simp [Option.filter_some, departs]

theorem settled_iff (labelled : d.label = .ofText? label)
    (named : d.explicitName = .ofText? explicit) (shown : d.name = .text name) : d.Settled ↔
      label.filter (departs name) = label ∧ explicit.filter (departs d.column) = explicit := by
  have texts : ∀ {set : Option String} {s : String}, Value.ofText? set = .text s ↔ set = some s :=
    Value.ofText?_injective.eq_iff (b := some _)
  rw [filter_departs, filter_departs]
  constructor
  · rintro ⟨first, second⟩
    simp only [labelled, shown, named, texts, ne_eq, Value.text.injEq, eq_comm (a := name)]
      at first second
    exact ⟨first, second⟩
  · rintro ⟨first, second⟩
    refine ⟨?_, ?_⟩
    · simpa only [labelled, shown, texts, ne_eq, Value.text.injEq, eq_comm (a := name)] using first
    · simpa only [named, texts] using second

/-- The dimension that is read is the first one where nothing is set in vain, and only then. -/
theorem reread_eq_iff (regular : d.Regular) (named : d.explicitName = .ofText? explicit)
    (first : d.metadata = .object metadata) (second : d.filters = .object filters) :
    (d.reread metadata filters = d ↔ d.Settled) ∧
      ((d.reread metadata filters).same d = true → d.Settled) := by
  obtain ⟨label, labelled⟩ := regular.labelled
  obtain ⟨name, shown⟩ := name_text named
  have read := label_reread metadata filters labelled shown
  have read' := explicitName_reread metadata filters named
  rw [settled_iff labelled named shown]
  refine ⟨⟨fun same => ?_, fun ⟨same, same'⟩ => ?_⟩, fun same => ?_⟩
  · rw [same, labelled] at read
    rw [same, named] at read'
    exact ⟨Value.ofText?_injective read.symm, Value.ofText?_injective read'.symm⟩
  · have whole : d.reread metadata filters =
        { d with
          label := (d.reread metadata filters).label
          metadata := .object metadata
          filters := .object filters
          explicitName := (d.reread metadata filters).explicitName } := rfl
    rw [whole, read, read', same, same', ← labelled, ← named, ← first, ← second]
  · simp only [Dimension.same, Bool.and_eq_true, read, read', labelled, named,
      Value.same_ofText?] at same
    exact ⟨same.1.1.1.1.1.2, same.1.2⟩

/-- A dimension that calls declare, with a text for a name if one is set, is read back with the same
answers, and as itself just where no label or name is set in vain. What is read is read back as
itself. -/
theorem declared_reread_iff (declared : d.Declared)
    (named : ∃ explicit, d.explicitName = .ofText? explicit) :
    ∃ v r, d.document = .ok v ∧ ofDocument v = .ok r ∧
      r.kind = d.kind ∧ r.key = d.key ∧ r.aliasName = d.aliasName ∧ r.table? = d.table? ∧
      r.column = d.column ∧ r.document = .ok v ∧
      (∃ w, r.document = .ok w ∧ ofDocument w = .ok r) ∧
      (r = d ↔ d.Settled) ∧ (r.same d = true ↔ d.Settled ∧ d.same d = true) := by
  have regular := declared.regular
  obtain ⟨explicit, named⟩ := named
  obtain ⟨metadata, first⟩ := regular.metadata
  obtain ⟨filters, second⟩ := regular.filters
  have document : d.document = .ok (.record (d.written metadata filters)) :=
    document_eq_ok.mpr ⟨metadata, filters, by rw [first]; rfl, by rw [second]; rfl, rfl⟩
  have read := ofDocument_written regular.restorable metadata filters
  obtain ⟨r, back, again⟩ := ofDocument_document regular.restorable document
  obtain rfl := Except.ok.inj (read.symm.trans back)
  obtain ⟨equal, same⟩ := reread_eq_iff regular named first second
  refine ⟨_, _, document, read, rfl, d.reread_key metadata filters, d.reread_name metadata filters,
    rfl, rfl, again, ⟨_, again, read⟩, equal, fun alike => ?_, fun ⟨settled, alike⟩ => ?_⟩
  · refine ⟨same alike, ?_⟩
    rwa [equal.mpr (same alike)] at alike
  · rwa [equal.mpr settled]

/-- An empty name, and a label that is the name of the column. -/
def customerNames : Dimension :=
  ((Dimension.make .string "shop.customers.name").withName "").withLabel "name"

theorem declared_reread_customers :
    customerNames.Declared ∧ (∃ explicit, customerNames.explicitName = .ofText? explicit) ∧
    ∃ v r, customerNames.document = .ok v ∧ ofDocument v = .ok r ∧ r.key = "string::name" ∧
      r.table? = some "shop.customers" ∧ r.document = .ok v ∧ r ≠ customerNames ∧
      ∃ w, r.document = .ok w ∧ ofDocument w = .ok r := by
  have declared : customerNames.Declared :=
    .edit (.edit (.make .string (show "shop.customers.name" ≠ "" by decide)) (.named ""))
      (.labelled (some "name"))
  have named : ∃ explicit, customerNames.explicitName = .ofText? explicit := ⟨some "", rfl⟩
  obtain ⟨v, r, document, read, -, key, -, table, -, again, twice, equal, -⟩ :=
    declared_reread_iff declared named
  have unsettled : ¬ customerNames.Settled := fun settled => (settled.name "" rfl).1 rfl
  exact ⟨declared, named, v, r, document, read, key, table, again, unsettled ∘ equal.mp, twice⟩

end Dimension

/-! ## Documents that were read -/

namespace Value
variable {fields : Entries Value Value} {name : String} {v : Value}

/-- A value that can be taken for an object. -/
def Mapping (v : Value) : Prop := ∃ fields, v.toFields = .ok fields

/-- What is given under a name can be taken for an object. -/
def MappingAt (fields : Entries Value Value) (name : String) : Prop :=
  ∀ v, named? fields name = some v → v.Mapping

theorem mapping_object (fields : Entries Value Value) : (object fields).Mapping := ⟨fields, rfl⟩

theorem mapping_getD :
    ((named? fields name).getD (.object [])).Mapping ↔ MappingAt fields name := by
  cases given : named? fields name with
  | none => simp [MappingAt, given, mapping_object]
  | some v => simp [MappingAt, given]

theorem mapping_orElse (given : v.isTrue = true → v.Mapping) : (v.orElse (.object [])).Mapping := by
  cases set : v.isTrue with
  | true =>
      rw [orElse_of_true set]
      exact given set
  | false =>
      rw [orElse_of_false set]
      exact mapping_object []

end Value

namespace Dimension
open Value (MappingAt)

variable {d : Dimension} {fields : Entries Value Value}

/-- A dimension whose metadata and filters can be taken for objects. -/
structure Mapped (d : Dimension) : Prop where
  metadata : d.metadata.Mapping
  filters : d.filters.Mapping

theorem exists_document_iff : (∃ v, d.document = .ok v) ↔ d.Mapped := by
  constructor
  · rintro ⟨v, written⟩
    obtain ⟨metadata, filters, first, second, -⟩ := document_eq_ok.mp written
    exact ⟨⟨metadata, first⟩, ⟨filters, second⟩⟩
  · rintro ⟨⟨metadata, first⟩, ⟨filters, second⟩⟩
    exact ⟨_, document_eq_ok.mpr ⟨metadata, filters, first, second, rfl⟩⟩

/-- A document of a dimension whose metadata and filters, if given, can be taken for objects. -/
structure Sound (fields : Entries Value Value) : Prop where
  metadata : MappingAt fields "meta"
  filters : MappingAt fields "filters"

theorem mapped_iff_sound (read : ofDocument (.object fields) = .ok d) :
    d.Mapped ↔ Sound fields := by
  simp only [ofDocument, Value.objectFields, Outcome.bind_eq_ok, Except.ok.injEq,
    exists_eq_left'] at read
  obtain ⟨kind, -, v, -, read⟩ := read
  split at read
  · simp only [Outcome.bind_eq_ok, Outcome.pure_eq_ok] at read
    obtain ⟨detail, -, rfl⟩ := read
    constructor
    · rintro ⟨metadata, filters⟩
      exact ⟨Value.mapping_getD.mp metadata, Value.mapping_getD.mp filters⟩
    · rintro ⟨metadata, filters⟩
      exact ⟨Value.mapping_getD.mpr metadata, Value.mapping_getD.mpr filters⟩
  · cases read

theorem mapped_of_read {v : Value} (read : ofDocument v = .ok d)
    (sound : ∀ fields, v = .object fields → Sound fields) : d.Mapped := by
  cases v with
  | object fields => exact (mapped_iff_sound read).mpr (sound fields rfl)
  | _ => cases read

end Dimension

namespace Table
variable {t : Table} {provider : String} {connection v : Value} {fields : Entries Value Value}

/-- A table whose metadata can be taken for an object, like those of its dimensions. -/
structure Mapped (t : Table) : Prop where
  metadata : t.metadata.Mapping
  dimensions : ∀ e ∈ t.dimensions, e.2.Mapped

theorem exists_document_iff : (∃ v, t.document = .ok v) ↔ t.Mapped := by
  have catalog : (∃ v, DimensionCatalog.document t.dimensions = .ok v) ↔
      ∀ e ∈ t.dimensions, e.2.Mapped := by
    simp only [DimensionCatalog.document_eq_ok]
    rw [exists_comm]
    simp only [exists_and_left, exists_eq, and_true, Outcome.exists_mapM_ok, Outcome.bind_eq_ok,
      Outcome.pure_eq_ok]
    refine forall₂_congr fun e _ => ?_
    rw [exists_comm]
    simpa using Dimension.exists_document_iff
  constructor
  · rintro ⟨v, written⟩
    obtain ⟨dimensions, metadata, first, second, -⟩ := document_eq_ok.mp written
    exact ⟨⟨metadata, second⟩, catalog.mp ⟨dimensions, first⟩⟩
  · rintro ⟨⟨metadata, second⟩, each⟩
    obtain ⟨dimensions, first⟩ := catalog.mpr each
    exact ⟨_, document_eq_ok.mpr ⟨dimensions, metadata, first, second, rfl⟩⟩

/-- A document of a table whose metadata, if given, can be taken for an object, like those of the
dimensions. -/
structure Sound (fields : Entries Value Value) : Prop where
  metadata : (Value.optional fields "meta").isTrue = true → (Value.optional fields "meta").Mapping
  dimensions : ∀ own, .object own ∈ given (Value.optional fields "dimensions") →
    Dimension.Sound own

theorem Reads.mapped (reads : Reads provider connection fields t) (sound : Sound fields) :
    t.Mapped where
  metadata := reads.metadata ▸ Value.mapping_orElse sound.metadata
  dimensions := by
    intro e listed
    obtain ⟨w, member, read⟩ := given_of_dimensions reads.dimensions e listed
    exact Dimension.mapped_of_read read fun own object => sound.dimensions own (object ▸ member)

/-- What was read can be written if what it keeps as objects can be taken for ones, as it can where
the document gives objects. What is written is read as a table that is written the same way. -/
theorem ofDocument_rewritten (read : ofDocument provider connection (.object fields) = .ok t) :
    ((∃ w, t.document = .ok w) ↔ t.Mapped) ∧ (Sound fields → t.Mapped) ∧
      ∀ w, t.document = .ok w →
        ∃ t', ofDocument provider connection w = .ok t' ∧ t'.document = .ok w ∧ t.Reread t' := by
  have reads := ofDocument_eq_ok.mp read
  refine ⟨exists_document_iff, reads.mapped, fun w written => ?_⟩
  obtain ⟨t', back, again, reread⟩ :=
    ofDocument_document (restorable_of_dimensions reads.dimensions) reads.own written
  exact ⟨t', reads.provider ▸ back, again, reread⟩

/-- A table with fields that are null, empty or spelled in the other way. -/
def ordersFields : Entries Value Value :=
  let relations := Value.record [("customer", .record [("type", .text "belongs_to"),
    ("target", .text "customers"), ("name", .null), ("pivot", .text "")])]
  let created := Value.record [("kind", .text "time"), ("column", .text "created_at"),
    ("granularity", .text "MONTH"), ("label", .null)]
  let status := Value.record [("name", .text "status"), ("type", .null), ("meta", .list [])]
  [("name", .text "orders"), ("connection", .null), ("primary_key", .text "id"),
    ("columns", .null), ("sql", .text ""), ("meta", .null), ("relations", relations),
    ("dimensions", .list [created, status])].map fun f => (.text f.1, f.2)

theorem ordersFields_sound : Sound ordersFields where
  metadata := fun set => absurd set (by decide)
  dimensions := by
    intro own member
    simp [ordersFields, Value.optional, given, Value.record] at member
    rcases member with rfl | rfl
    · constructor <;> simp [Value.MappingAt]
    · constructor
      · simp only [Value.MappingAt, Value.named?_cons]
        rintro v ⟨⟩
        exact ⟨[], rfl⟩
      · simp [Value.MappingAt]

theorem ofDocument_rewritten_orders :
    ∃ t w t', ofDocument "shop" (.text "main") (.object ordersFields) = .ok t ∧
      t.document = .ok w ∧ ofDocument "shop" (.text "main") w = .ok t' ∧ t'.document = .ok w ∧
      t'.identifier = t.identifier ∧ t'.connectionKey = t.connectionKey := by
  obtain ⟨t, read⟩ := Outcome.exists_ok
    (x := ofDocument "shop" (.text "main") (.object ordersFields)) (by decide +kernel)
  obtain ⟨writable, mapped, again⟩ := ofDocument_rewritten read
  obtain ⟨w, written⟩ := writable.mpr (mapped ordersFields_sound)
  obtain ⟨t', back, same, reread⟩ := again w written
  exact ⟨t, w, t', read, written, back, same, reread.identifier, reread.connectionKey⟩

/-- A dimension whose metadata is null is read and cannot be written. -/
theorem hollow_metadata_unwritten : ∃ t, ofDocument "shop" .null (.record [("name", .text "orders"),
    ("dimensions", .list [.record [("reference", .text "status"), ("meta", .null)]])]) = .ok t ∧
      ∀ w, t.document ≠ .ok w := by
  refine ⟨_, rfl, fun w written => ?_⟩
  cases written

end Table
end Datacube
