import Datacube.Catalog.Basic
import Datacube.Proofs.Schema.Document
import Datacube.Proofs.Schema.Registry
import Datacube.Proofs.Value.Equality

/-!
# What a scan finds

The tables of a catalog have names of their own, and each of them is written the same way after it
is written and read again. So what is restored from the documents of a scan is what the scan found.
-/

namespace Datacube
open Text

/-! ## Documents that were read -/

namespace Dimension
variable {d : Dimension} {v : Value} {fields : Entries Value Value} {reference : String}

theorem firstSet_empty (found : firstSet fields ["reference", "column", "name"] = .ok (.text "")) :
    Value.optional fields "name" = .text "" := by
  have unset : ∀ {v : Value}, v.isTrue = true → Except.ok v ≠ (.ok (.text "") : Outcome Value) := by
    rintro v set same
    rw [Except.ok.inj same] at set
    cases set
  simp only [firstSet] at found
  split at found
  · rename_i set
    exact absurd found (unset set)
  · split at found
    · rename_i set
      exact absurd found (unset set)
    · rw [Value.required] at found
      split at found
      · rename_i named
        rw [Value.optional, named]
        exact Except.ok.inj found
      · cases found

theorem name_of_shown (name : Value) (column : String) :
    (if name.isTrue && !name.isText column then name else .null).orElse (.text column) =
      name.orElse (.text column) := by
  cases set : name.isTrue with
  | false =>
      rw [Value.orElse_of_false set, Bool.false_and, if_neg (by simp), Value.orElse_of_false rfl]
  | true =>
      cases same : name.isText column with
      | false => rw [Bool.true_and, if_pos (by rfl)]
      | true =>
          rw [Bool.true_and, if_neg (by simp), Value.orElse_of_false rfl,
            (Value.isText_iff name column).mp same, Value.orElse_self]

theorem lower_of_detailOf {kind : DimensionKind} {granularity : String} {precision : Value}
    (read : detailOf kind fields = .ok (.time granularity precision)) :
    lower granularity = granularity := by
  cases kind with
  | time =>
      simp only [detailOf, Except.ok.injEq, DimensionDetail.time.injEq] at read
      rw [← read.1, lower_lower]
  | plain => cases read
  | boolean => cases read
  | string =>
      simp only [detailOf, Outcome.bind_eq_ok, Outcome.pure_eq_ok, reduceCtorEq, and_false,
        exists_false] at read
  | enum =>
      simp only [detailOf, Outcome.bind_eq_ok, Outcome.pure_eq_ok, reduceCtorEq, and_false,
        exists_false] at read

theorem restorable_of_read (read : ofDocument v = .ok d) : d.Restorable := by
  simp only [ofDocument, Outcome.bind_eq_ok] at read
  obtain ⟨fields, -, kind, -, w, found, read⟩ := read
  split at read
  · rename_i reference
    simp only [Outcome.bind_eq_ok, Outcome.pure_eq_ok] at read
    obtain ⟨detail, detailed, rfl⟩ := read
    refine ⟨?_, ?_, fun granularity precision same =>
      lower_of_detailOf (detailed.trans (congrArg _ same))⟩
    · -- An empty reference was set by nothing but an empty name.
      rintro rfl
      simp only [firstSet_empty found]
      rfl
    · intro set same
      have shown := name_of_shown (Value.optional fields "name") (columnOf reference)
      simp only [name, column, shown] at set same
      split at set
      · cases set
      · rename_i differs
        rw [if_neg differs] at same
        exact absurd same differs
  · cases read

end Dimension

namespace Table
variable {t u : Table} {tables : List Table} {v connection : Value} {provider : String}
  {fields : Entries Value Value}

/-- The dimensions that a document gives, as a list or under their keys. -/
def given : Value → List Value
  | .list items => items
  | .object fields => fields.map (·.2)
  | _ => []

theorem given_of_dimensions {catalog : DimensionCatalog} (read : dimensionsOf v = .ok catalog) :
    ∀ e ∈ catalog, ∃ w ∈ given v, Dimension.ofDocument w = .ok e.2 := by
  intro e listed
  unfold dimensionsOf at read
  split at read
  · simp only [Outcome.bind_eq_ok, Outcome.pure_eq_ok] at read
    obtain ⟨dimensions, run, rfl⟩ := read
    obtain ⟨p, among, same⟩ := Entries.mem_values_ofPairs (List.mem_map_of_mem (f := (·.2)) listed)
    obtain ⟨d, found, rfl⟩ := List.mem_map.mp among
    obtain ⟨w, member, made⟩ := exists_of_mem_right (Outcome.mapM_ok run) found
    exact ⟨w, member, same ▸ made⟩
  · unfold DimensionCatalog.ofDocument at read
    split at read
    · cases Outcome.pure_eq_ok.mp read
      cases listed
    · obtain ⟨entries, object, run⟩ := Outcome.bind_eq_ok.mp read
      obtain ⟨f, member, made⟩ := exists_of_mem_right (Outcome.mapM_ok run) listed
      simp only [Outcome.bind_eq_ok, Outcome.pure_eq_ok] at made
      obtain ⟨d, made, rfl⟩ := made
      cases v with
      | object fields =>
          cases object
          exact ⟨f.2, List.mem_map_of_mem member, made⟩
      | _ => cases object

theorem restorable_of_dimensions {catalog : DimensionCatalog}
    (read : dimensionsOf v = .ok catalog) : ∀ e ∈ catalog, e.2.Restorable := by
  intro e listed
  obtain ⟨w, -, made⟩ := given_of_dimensions read e listed
  exact Dimension.restorable_of_read made

theorem Reads.own (reads : Reads provider connection fields t) :
    t.connection.orElse connection = t.connection := by
  rw [reads.connection]
  cases set : (Value.optional fields "connection").isTrue with
  | true => rw [Value.orElse_of_true set, Value.orElse_of_true set]
  | false => rw [Value.orElse_of_false set, Value.orElse_self]

def Apart (names : List Value) : Prop := names.Pairwise fun before after => after.same before = false

theorem apart_insertTable (keys : ∀ u ∈ tables, u.name.isKey = true) (key : t.name.isKey = true)
    (apart : Apart (tables.map (·.name))) :
    Apart ((Source.insertTable tables t).map (·.name)) := by
  induction tables with
  | nil => exact List.pairwise_singleton _ _
  | cons u rest ih =>
      obtain ⟨first, later⟩ := List.pairwise_cons.mp apart
      rw [Source.insertTable]
      split
      · rename_i same
        refine List.pairwise_cons.mpr ⟨?_, later⟩
        intro name listed
        obtain ⟨w, among, rfl⟩ := List.mem_map.mp listed
        rw [← Bool.not_eq_true]
        intro equal
        have other := first w.name listed
        rw [Value.same_trans (keys w (List.mem_cons_of_mem u among)) key equal same] at other
        cases other
      · rename_i differs
        refine List.pairwise_cons.mpr ⟨?_, ih (fun w among => keys w (.tail u among)) later⟩
        intro name listed
        obtain ⟨w, among, rfl⟩ := List.mem_map.mp listed
        rcases Source.mem_insertTable among with rfl | old
        · exact Bool.eq_false_iff.mpr differs
        · exact first w.name (List.mem_map_of_mem old)

theorem insertTable_apart (apart : Apart (tables.map (·.name) ++ [t.name])) :
    Source.insertTable tables t = tables ++ [t] := by
  induction tables with
  | nil => rfl
  | cons u rest ih =>
      obtain ⟨first, later⟩ := List.pairwise_cons.mp apart
      rw [Source.insertTable, first t.name (by simp), if_neg (by simp), ih later]
      rfl

end Table

/-! ## Scans -/

namespace Catalog
variable {files : Files} {c c' : Catalog} {t : Table} {tables found : List Table}
  {v : Value} {path path' : String}

structure Finds (c : Catalog) (t : Table) : Prop where
  provider : t.provider = c.name
  connection : t.connection.orElse c.connection = t.connection
  restorable : ∀ e ∈ t.dimensions, e.2.Restorable
  key : t.name.isKey = true

structure Indexes (c : Catalog) (tables : List Table) : Prop where
  finds : ∀ t ∈ tables, c.Finds t
  apart : Table.Apart (tables.map (·.name))

theorem addDocument_eq_ok : c.addDocument found v = .ok tables ↔
    ∃ t, Table.ofDocument c.name c.connection v = .ok t ∧ t.name.isKey = true ∧
      tables = Source.insertTable found t := by
  simp only [addDocument, Outcome.bind_eq_ok]
  refine exists_congr fun t => and_congr_right fun _ => ?_
  cases t.name.isKey with
  | true => simpa [Outcome.pure_eq_ok] using eq_comm
  | false => simp [fail]

theorem finds_of_read (read : Table.ofDocument c.name c.connection v = .ok t)
    (key : t.name.isKey = true) : c.Finds t := by
  cases v with
  | object fields =>
      have reads := Table.ofDocument_eq_ok.mp read
      exact ⟨reads.provider, reads.own, Table.restorable_of_dimensions reads.dimensions, key⟩
  | _ => cases read

theorem Indexes.addDocument (indexes : c.Indexes found) (added : c.addDocument found v = .ok tables) :
    c.Indexes tables := by
  obtain ⟨t, read, key, rfl⟩ := addDocument_eq_ok.mp added
  refine ⟨?_, Table.apart_insertTable (fun u listed => (indexes.finds u listed).key) key
    indexes.apart⟩
  intro u listed
  rcases Source.mem_insertTable listed with rfl | old
  · exact finds_of_read read key
  · exact indexes.finds u old

theorem indexes_of_discover (scanned : c.discover files = .ok tables) : c.Indexes tables := by
  refine Outcome.foldlM_keeps c.Indexes scanned ⟨by simp, List.Pairwise.nil⟩ ?_
  intro found path tables indexes step
  obtain ⟨documents, -, run⟩ := Outcome.bind_eq_ok.mp step
  exact Outcome.foldlM_keeps c.Indexes run indexes fun _ _ _ => Indexes.addDocument

/-! ## Steps of a catalog -/

section Steps
variable {cache : Cache} {now : Int} {use : Bool} {e : Error}

theorem scan_scanned (done : c.scanned = true) : c.scan files = (.ok (), c) := if_pos done

def filled (c : Catalog) (tables : List Table) : Catalog :=
  { c with tables, scanned := true, attempts := c.attempts + 1, completed := c.completed + 1 }

theorem scan_found (due : c.scanned = false) (found : c.discover files = .ok tables) :
    c.scan files = (.ok (), c.filled tables) := by
  rw [scan, if_neg (by simp [due]), found]
  rfl

theorem scan_failed (due : c.scanned = false) (failed : c.discover files = .error e) :
    c.scan files = (.error e, { c with attempts := c.attempts + 1 }) := by
  rw [scan, if_neg (by simp [due]), failed]

theorem store_catalog : (c.store now cache).2.1 = c := by
  unfold store
  split <;> rfl

theorem scanInto_catalog (done : c.scan files = (.ok (), c')) :
    (c.scanInto files now cache use).2.1 = c' := by
  rw [scanInto, done]
  cases use with
  | true => exact store_catalog
  | false => rfl

theorem scanInto_failed (failed : c.scan files = (.error e, c')) :
    c.scanInto files now cache use = (.error e, c', cache) := by
  rw [scanInto, failed]

/-- The catalog with a cache. -/
def given (c : Catalog) : Catalog := { c with cached := true }

/-- Where paths are free, a boot first asks the cache. -/
theorem boot_free (free : c.paths.all Files.isPath = true) :
    c.boot files now cache = match c.given.restored files cache with
      | .error e => (.error e, c.given, cache)
      | .ok (some c) => (.ok (), c, cache)
      | .ok none => c.given.scanInto files now cache cache.enabled := by
  simp only [boot, free, Bool.not_true, Bool.false_eq_true, if_false]
  rfl

end Steps

/-! ## Restoring -/

/-- Whoever asks gets the same answers of both tables. -/
def Alike (t t' : Table) : Prop := t'.identifier = t.identifier ∧ t'.document = t.document

theorem restore_found {documents : List Value} {before : List Table}
    (finds : ∀ t ∈ tables, c.Finds t)
    (apart : Table.Apart (before.map (·.name) ++ tables.map (·.name)))
    (written : List.Forall₂ (fun t v => t.document = .ok v) tables documents) :
    ∃ tables', documents.foldlM c.addDocument before = .ok (before ++ tables') ∧
      List.Forall₂ Alike tables tables' := by
  induction written generalizing before with
  | nil => exact ⟨[], by rw [List.append_nil]; rfl, .nil⟩
  | @cons t v tables documents document _ ih =>
      have found := finds t List.mem_cons_self
      -- The table that is read again bears the same name, so it is put last as the first one was.
      obtain ⟨t', read, again, reread⟩ :=
        Table.ofDocument_document found.restorable found.connection document
      have first : Table.Apart (before.map (·.name) ++ [t'.name]) := by
        rw [reread.name]
        refine apart.sublist (List.Sublist.append_left ?_ _)
        simp
      have added : c.addDocument before v = .ok (before ++ [t']) := by
        refine addDocument_eq_ok.mpr ⟨t', found.provider ▸ read, reread.name ▸ found.key, ?_⟩
        exact (Table.insertTable_apart first).symm
      have later : Table.Apart ((before ++ [t']).map (·.name) ++ tables.map (·.name)) := by
        simpa [reread.name] using apart
      obtain ⟨tables', run, alike⟩ := ih (fun u listed => finds u (.tail t listed)) later
      refine ⟨t' :: tables', ?_, .cons ⟨reread.identifier, again.trans document.symm⟩ alike⟩
      rw [List.foldlM_cons, Outcome.bind_eq_ok]
      exact ⟨_, added, by simpa using run⟩

/-! ## Files at the same places -/

theorem at?_of_file {f : CatalogFile} (found : files.file path = .ok f) :
    files.at? path = some f := by
  simp only [Files.file] at found
  split at found
  · cases found
  · split at found
    · cases found
    · split at found
      · rename_i here
        rw [here, Except.ok.inj found]
      · cases found
      · cases found

theorem tablesOf_path {documents : List Value} (read : tablesOf path' v = .ok documents) :
    tablesOf path v = .ok documents := by
  simp only [tablesOf] at read ⊢
  cases set : v.isTrue with
  | false => simpa [set] using read
  | true =>
      simp only [set, Bool.not_true, Bool.false_eq_true, if_false, Outcome.bind_eq_ok] at read ⊢
      obtain ⟨fields, object, read⟩ := read
      refine ⟨fields, object, ?_⟩
      split at read
      · exact read
      · exact read
      · exact read
      · cases read

theorem tablesOfFile_moved {f : CatalogFile} {documents : List Value}
    (place : Files.place path = Files.place path') (reached : files.file path = .ok f)
    (read : tablesOfFile files path' = .ok documents) :
    tablesOfFile files path = .ok documents := by
  simp only [tablesOfFile, Outcome.bind_eq_ok] at read ⊢
  obtain ⟨f', reached', read⟩ := read
  have same : f' = f := by
    have here := at?_of_file reached
    rw [Files.at?, place, ← Files.at?, at?_of_file reached'] at here
    exact Option.some.inj here
  subst same
  refine ⟨f', reached, ?_⟩
  split at read
  · rename_i v parsed
    exact tablesOf_path read
  · cases read
  · cases read

theorem discover_moved (name : c'.name = c.name) (connection : c'.connection = c.connection)
    (places : c'.paths.map Files.place = c.paths.map Files.place)
    (reached : ∀ path ∈ c.paths, ∃ f, files.file path = .ok f)
    (scanned : c'.discover files = .ok tables) : c.discover files = .ok tables := by
  have same : c'.addDocument = c.addDocument := by
    unfold addDocument
    rw [name, connection]
  have related : List.Forall₂ (fun path' path => Files.place path' = Files.place path)
      c'.paths c.paths := by
    refine List.forall₂_map_left_iff.mp (List.forall₂_map_right_iff.mp ?_)
    rw [places]
    exact List.forall₂_refl _
  have related := ((List.forall₂_and_left _ _).mpr ⟨reached, related.flip⟩).flip
  refine Outcome.foldlM_follows related scanned ?_
  rintro path' path ⟨⟨f, reached⟩, place⟩ found found' step
  obtain ⟨documents, read, run⟩ := Outcome.bind_eq_ok.mp step
  exact Outcome.bind_eq_ok.mpr
    ⟨documents, tablesOfFile_moved place.symm reached read, same ▸ run⟩

end Catalog
end Datacube
