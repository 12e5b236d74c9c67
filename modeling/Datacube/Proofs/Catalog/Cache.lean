import Datacube.Proofs.Catalog.Scan

/-!
# Registrations that share a cache

A cache keeps documents of scans under keys that leave out the order of the files and the default
connection. Where registrations under one key agree on both, and what they find can be written, a
shared cache makes no difference: each of them fails with the same error or finds the same tables.
-/

namespace Datacube

structure Registration where
  name : String
  paths : List String
  connection : Value
  now : Int

namespace Registration

def catalog (g : Registration) : Catalog := .unscanned g.name g.paths g.connection

/-- The tables that a registration leaves its provider with, and the cache after it. -/
def run (files : Files) (g : Registration) (cache : Cache) : Outcome (List Table) × Cache :=
  let (out, c, cache) := g.catalog.boot files g.now cache
  (out.map fun _ => c.source.tables, cache)

/-- What registrations with one cache lead to in turn. -/
def runAll (files : Files) (cache : Cache) : List Registration → List (Outcome (List Table))
  | [] => []
  | g :: rest => (g.run files cache).1 :: runAll files (g.run files cache).2 rest

/-- Both catalogs take their tables from the same files in the same order. -/
structure Agrees (g g' : Registration) : Prop where
  name : g.name = g'.name
  places : g.paths.map Files.place = g'.paths.map Files.place
  connection : g.connection = g'.connection

/-- Whatever a scan finds can be written as a document. -/
def Writable (files : Files) (g : Registration) : Prop :=
  ∀ tables, g.catalog.discover files = .ok tables → ∀ t ∈ tables, ∃ v, t.document = .ok v

instance (files : Files) (g : Registration) : Decidable (g.Writable files) :=
  decidable_of_iff
    (((g.catalog.discover files).toOption.getD []).all (·.document.toBool) = true) <| by
      cases found : g.catalog.discover files with
      | error e => simp [Writable, found, Except.toOption]
      | ok tables =>
          simp only [Writable, found, Except.toOption, Option.getD_some, List.all_eq_true,
            Except.ok.injEq, forall_eq']
          refine forall₂_congr fun t _ => ?_
          cases t.document <;> simp [Except.toBool]

/-- The same error, or tables that are alike in the same order. -/
def SameOutcome : Outcome (List Table) → Outcome (List Table) → Prop
  | .ok tables, .ok tables' => List.Forall₂ Catalog.Alike tables tables'
  | .error e, .error e' => e = e'
  | _, _ => False

end Registration

namespace Catalog
variable {files : Files} {c : Catalog} {documents : Entries Value Value} {v : Value}

theorem restored_absent (absent : documents.get? (.text c.cacheKey) = none) :
    c.restored files ⟨true, .own documents⟩ = .ok none := by
  have invalid : c.isCacheValid files ⟨true, .own documents⟩ = .ok false := by
    cases given : c.cached <;>
      simp [isCacheValid, Cache.get, given, absent, Value.isTrue, bind, Except.bind, pure,
        Except.pure]
  simp [restored, invalid, bind, Except.bind, pure, Except.pure]

/-- The document that a cache keeps of a scan. -/
def kept (c : Catalog) (items : List Value) (moment : Int) : Value :=
  .record [("provider", .text c.name), ("paths", .texts (c.paths.map Files.label)),
    ("tables", .list items), ("cached_at", .int moment)]

theorem snapshot_eq_ok {now : Int} : c.snapshot now = .ok v ↔
    ∃ items, c.tables.mapM Table.document = .ok items ∧ v = c.kept items now := by
  simp only [snapshot, Outcome.bind_eq_ok, Outcome.pure_eq_ok, kept]
  exact exists_congr fun items => and_congr_right fun _ => eq_comm

theorem exists_unchangedSince (files : Files) (c : Catalog) (moment : Int) :
    ∃ valid, c.unchangedSince files (.int moment) = .ok valid := by
  cases checked : c.unchangedSince files (.int moment) with
  | ok valid => exact ⟨valid, rfl⟩
  | error e =>
      obtain ⟨path, -, failed⟩ := Outcome.allM_error checked
      split at failed
      · cases failed
      · rw [Value.compare?] at failed
        · cases failed
        · simp
        · simp

theorem reached_of_unchanged {moment : Value} (valid : c.unchangedSince files moment = .ok true) :
    ∀ path ∈ c.paths, ∃ f, files.file path = .ok f := by
  intro path listed
  have reached := Outcome.allM_true valid path listed
  split at reached
  · cases reached
  · rename_i f found
    exact ⟨f, found⟩

variable {c' : Catalog} {items : List Value} {moment : Int} {valid : Bool}

theorem isCacheValid_kept (given : c.cached = true)
    (kept : documents.get? (.text c.cacheKey) = some (c'.kept items moment)) :
    c.isCacheValid files ⟨true, .own documents⟩ = c.unchangedSince files (.int moment) := by
  simp [isCacheValid, Cache.get, given, kept, Catalog.kept, Value.record, Value.isTrue,
    Value.objectFields, bind, Except.bind]

theorem restored_changed (given : c.cached = true)
    (kept : documents.get? (.text c.cacheKey) = some (c'.kept items moment))
    (changed : c.unchangedSince files (.int moment) = .ok false) :
    c.restored files ⟨true, .own documents⟩ = .ok none := by
  simp [restored, isCacheValid_kept given kept, changed, bind, Except.bind, pure, Except.pure]

theorem restored_unchanged {tables : List Table} (given : c.cached = true)
    (kept : documents.get? (.text c.cacheKey) = some (c'.kept items moment))
    (unchanged : c.unchangedSince files (.int moment) = .ok true)
    (read : items.foldlM c.addDocument [] = .ok tables) :
    c.restored files ⟨true, .own documents⟩ = .ok (some { c with tables, scanned := true }) := by
  simp [restored, isCacheValid_kept given kept, unchanged, Cache.has, Cache.get, Entries.has, kept,
    restore, Catalog.kept, Value.record, Value.objectFields, Value.toItems, read, bind, Except.bind,
    pure, Except.pure]

end Catalog

namespace Registration
variable {files : Files} {g : Registration} {history : List Registration}
  {documents : Entries Value Value} {tables : List Table} {e : Error}

/-- What a registration leads to without a cache. -/
def scan (files : Files) (g : Registration) : Outcome (List Table) :=
  if g.paths.all Files.isPath then g.catalog.discover files else fail .badValue

def booted (g : Registration) : Catalog := { g.catalog with cached := true }

theorem run_barred {cache : Cache} (barred : g.paths.all Files.isPath = false) :
    g.run files cache = (g.scan files, cache) := by
  simp [run, scan, Catalog.boot, catalog, Catalog.unscanned, barred, Except.map, fail]

theorem boot_free {cache : Cache} (free : g.paths.all Files.isPath = true) :
    g.catalog.boot files g.now cache = match g.booted.restored files cache with
      | .error e => (.error e, g.booted, cache)
      | .ok (some c) => (.ok (), c, cache)
      | .ok none => g.booted.scanInto files g.now cache cache.enabled :=
  Catalog.boot_free free

theorem run_restored {cache : Cache} {c : Catalog} (free : g.paths.all Files.isPath = true)
    (hit : g.booted.restored files cache = .ok (some c)) :
    g.run files cache = (.ok c.tables, cache) := by
  rw [run, boot_free free, hit]
  rfl

theorem run_failed {cache : Cache} (free : g.paths.all Files.isPath = true)
    (missed : g.booted.restored files cache = .ok none)
    (failed : g.catalog.discover files = .error e) : g.run files cache = (.error e, cache) := by
  have failed : g.booted.discover files = .error e := failed
  rw [run, boot_free free, missed]
  simp only [Catalog.scanInto_failed (Catalog.scan_failed rfl failed)]
  rfl

def filled (g : Registration) (tables : List Table) : Catalog :=
  { g.booted with tables, scanned := true, attempts := 1, completed := 1 }

theorem scan_booted (found : g.catalog.discover files = .ok tables) :
    g.booted.scan files = (.ok (), g.filled tables) :=
  Catalog.scan_found rfl found

theorem run_unused {cache : Cache} (free : g.paths.all Files.isPath = true)
    (missed : g.booted.restored files cache = .ok none) (off : cache.enabled = false)
    (found : g.catalog.discover files = .ok tables) : g.run files cache = (.ok tables, cache) := by
  rw [run, boot_free free, missed]
  simp only [Catalog.scanInto, scan_booted found, off]
  rfl

theorem run_stored {cache : Cache} {items : List Value} (free : g.paths.all Files.isPath = true)
    (missed : g.booted.restored files cache = .ok none) (on : cache.enabled = true)
    (found : g.catalog.discover files = .ok tables)
    (written : tables.mapM Table.document = .ok items) : g.run files cache =
      (.ok tables, cache.put g.catalog.cacheKey (g.catalog.kept items g.now)) := by
  have snapshot : (g.filled tables).snapshot g.now = .ok (g.catalog.kept items g.now) :=
    Catalog.snapshot_eq_ok.mpr ⟨items, written, rfl⟩
  rw [run, boot_free free, missed]
  simp only [Catalog.scanInto, scan_booted found, on, if_true, Catalog.store, snapshot]
  rfl

theorem run_disabled (files : Files) (g : Registration) :
    g.run files (.empty false) = (g.scan files, .empty false) := by
  cases free : g.paths.all Files.isPath with
  | false => exact run_barred free
  | true =>
      have missed : g.booted.restored files (.empty false) = .ok none := rfl
      rw [scan, if_pos free]
      cases found : g.catalog.discover files with
      | error e => exact run_failed free missed found
      | ok tables => exact run_unused free missed rfl found

/-! ## A shared cache -/

/-- Every document of the cache was written after the scan of a registration before. -/
def Recorded (files : Files) (history : List Registration) (documents : Entries Value Value) :
    Prop :=
  ∀ key v, documents.get? (.text key) = some v → ∃ g ∈ history, g.catalog.cacheKey = key ∧
    ∃ tables items moment, g.catalog.discover files = .ok tables ∧
      tables.mapM Table.document = .ok items ∧ v = g.catalog.kept items moment

theorem SameOutcome.refl (out : Outcome (List Table)) : SameOutcome out out := by
  cases out with
  | error e => rfl
  | ok tables => exact List.forall₂_same.mpr fun t _ => ⟨rfl, rfl⟩

theorem Recorded.mono {g : Registration} (recorded : Recorded files history documents) :
    Recorded files (history ++ [g]) documents := by
  intro key v kept
  obtain ⟨g', listed, rest⟩ := recorded key v kept
  exact ⟨g', List.mem_append_left _ listed, rest⟩

theorem Recorded.put {items : List Value} (recorded : Recorded files history documents)
    (found : g.catalog.discover files = .ok tables)
    (written : tables.mapM Table.document = .ok items) : Recorded files (history ++ [g])
      (documents.put (.text g.catalog.cacheKey) (g.catalog.kept items g.now)) := by
  intro key v kept
  by_cases same : key = g.catalog.cacheKey
  · subst same
    rw [Entries.get?_put_exact (Entries.exact_text _), Option.some.injEq] at kept
    exact ⟨g, by simp, rfl, tables, items, g.now, found, written, kept.symm⟩
  · rw [Entries.get?_put_apart (Entries.exact_text _) (Entries.exact_text _) (by simpa using same)]
      at kept
    exact recorded.mono key v kept

/-- What a registration with an enabled cache leads to, and what the cache holds after it. -/
structure Transparent (files : Files) (history : List Registration) (g : Registration)
    (cache : Cache) : Prop where
  outcome : SameOutcome (g.scan files) (g.run files cache).1
  after : ∃ documents, (g.run files cache).2 = ⟨true, .own documents⟩ ∧
    Recorded files (history ++ [g]) documents

theorem transparent_missed (recorded : Recorded files history documents)
    (writable : g.Writable files) (free : g.paths.all Files.isPath = true)
    (missed : g.booted.restored files ⟨true, .own documents⟩ = .ok none) :
    g.Transparent files history ⟨true, .own documents⟩ := by
  cases found : g.catalog.discover files with
  | error e =>
      have failed := run_failed free missed found
      refine ⟨?_, documents, by rw [failed], recorded.mono⟩
      rw [failed, scan, if_pos free, found]
      rfl
  | ok tables =>
      obtain ⟨items, written⟩ := Outcome.exists_mapM_ok.mpr (writable tables found)
      have stored := run_stored free missed rfl found written
      refine ⟨?_, _, by rw [stored]; rfl, recorded.put found written⟩
      rw [stored, scan, if_pos free, found]
      exact .refl _

theorem transparent (recorded : Recorded files history documents) (writable : g.Writable files)
    (told : ∀ g' ∈ history, g'.catalog.cacheKey = g.catalog.cacheKey → g'.Agrees g) :
    g.Transparent files history ⟨true, .own documents⟩ := by
  cases free : g.paths.all Files.isPath with
  | false =>
      refine ⟨?_, documents, by rw [run_barred free], recorded.mono⟩
      rw [run_barred free]
      exact .refl _
  | true =>
      cases known : documents.get? (.text g.catalog.cacheKey) with
      | none => exact transparent_missed recorded writable free (Catalog.restored_absent known)
      | some v =>
          obtain ⟨g', listed, same, tables, items, moment, found, written, rfl⟩ :=
            recorded _ v known
          obtain ⟨valid, checked⟩ := g.booted.exists_unchangedSince files moment
          cases valid with
          | false =>
              exact transparent_missed recorded writable free
                (Catalog.restored_changed rfl known checked)
          | true =>
              -- Whoever wrote the document scanned the same files, so a scan now would find the
              -- tables that the document was written for.
              obtain ⟨name, places, connection⟩ := told g' listed same
              have reached := Catalog.reached_of_unchanged (c := g.booted) checked
              have rescan : g.catalog.discover files = .ok tables :=
                Catalog.discover_moved name connection places reached found
              have indexes : g.booted.Indexes tables := Catalog.indexes_of_discover rescan
              obtain ⟨tables', read, alike⟩ := Catalog.restore_found indexes.finds
                (show Table.Apart (([] : List Table).map (·.name) ++ _) from indexes.apart)
                (Outcome.mapM_ok written)
              have hit := run_restored free
                (Catalog.restored_unchanged rfl known checked read)
              refine ⟨?_, documents, by rw [hit], recorded.mono⟩
              rw [hit, scan, if_pos free, rescan]
              exact alike

/-- A shared cache makes no difference to registrations that agree where they share a key. -/
theorem runAll_transparent {files : Files} {history : List Registration}
    (told : history.Pairwise fun g' g =>
      g'.catalog.cacheKey = g.catalog.cacheKey → g'.Agrees g)
    (writable : ∀ g ∈ history, g.Writable files) :
    List.Forall₂ SameOutcome (runAll files (.empty false) history)
      (runAll files (.empty true) history) := by
  -- By induction on what is still to come: the cache holds documents of those that came before.
  suffices shared : ∀ past documents, Recorded files past documents →
      (past ++ history).Pairwise (fun g' g =>
        g'.catalog.cacheKey = g.catalog.cacheKey → g'.Agrees g) →
      List.Forall₂ SameOutcome (runAll files (.empty false) history)
        (runAll files ⟨true, .own documents⟩ history) from
    shared [] [] (fun key v kept => by cases kept) told
  clear told
  induction history with
  | nil => exact fun _ _ _ _ => .nil
  | cons g rest ih =>
      intro past documents recorded told
      have before := (List.pairwise_append.mp told).2.2
      obtain ⟨outcome, documents', after, recorded'⟩ := transparent recorded
        (writable g List.mem_cons_self) fun g' listed => before g' listed g List.mem_cons_self
      rw [runAll, runAll, run_disabled, after]
      refine .cons outcome (ih (fun g' listed => writable g' (.tail g listed)) _ documents' recorded'
        ?_)
      simpa using told

/-! ## One file -/

def ordersFile : Files := .ofPaths [("a.yaml", ⟨"tables: [{name: orders, columns: [id]}]", 2000⟩)]

/-- Two catalogs of the file, and the first of them once more. -/
def shopTwice : List Registration :=
  [⟨"shop", ["a.yaml"], .text "main", 2025⟩, ⟨"crm", ["./a.yaml"], .text "main", 2026⟩,
    ⟨"shop", ["./a.yaml"], .text "main", 2030⟩]

/-- One catalog of the file, with one default connection and then with another. -/
def reconnected : List Registration :=
  [⟨"shop", ["a.yaml"], .text "main", 2025⟩, ⟨"shop", ["a.yaml"], .text "other", 2030⟩]

theorem runAll_transparent_shop :
    List.Forall₂ SameOutcome (runAll ordersFile (.empty false) shopTwice)
      (runAll ordersFile (.empty true) shopTwice) := by
  have apart : shopTwice.Pairwise fun g g' =>
      g.name = g'.name ∨ g'.catalog.cacheKey ≠ g.catalog.cacheKey := by decide +kernel
  have alike : shopTwice.Pairwise fun g g' => g.name = g'.name →
      g.paths.map Files.place = g'.paths.map Files.place := by decide +kernel
  have writable : ∀ g ∈ shopTwice, g.Writable ordersFile := by decide +kernel
  refine runAll_transparent ((apart.and alike).imp_of_mem ?_) writable
  rintro g g' listed listed' ⟨apart, places⟩ same
  have named := apart.resolve_right fun differ => differ same.symm
  refine ⟨named, places named, ?_⟩
  have main : ∀ g ∈ shopTwice, g.connection = .text "main" := by simp [shopTwice]
  rw [main g listed, main g' listed']

theorem SameOutcome.any {out out' : Outcome (List Table)} (same : SameOutcome out out')
    (p : Outcome Value → Bool) :
    out'.toOption.any (·.any (p ·.document)) = out.toOption.any (·.any (p ·.document)) := by
  cases out with
  | error e =>
      cases out' with
      | error e' => rfl
      | ok tables' => exact same.elim
  | ok tables =>
      cases out' with
      | error e' => exact same.elim
      | ok tables' =>
          show tables'.any _ = tables.any _
          induction (same : List.Forall₂ Catalog.Alike tables tables') with
          | nil => rfl
          | cons first _ ih => rw [List.any_cons, List.any_cons, first.2, ih]

/-- The key leaves out the default connection: what was found with one is restored with another. -/
theorem runAll_reconnected :
    ¬ List.Forall₂ SameOutcome (runAll ordersFile (.empty false) reconnected)
      (runAll ordersFile (.empty true) reconnected) := by
  intro transparent
  -- The second registration is told apart by the connection that its table is written with.
  let other (out : Outcome Value) : Bool :=
    out.toOption.any fun v => ((v.field? "connection").getD .null).isText "other"
  let shows (out : Outcome (List Table)) : Bool := out.toOption.any (·.any (other ·.document))
  have scanned : (runAll ordersFile (.empty false) reconnected).map shows = [false, true] := by
    decide +kernel
  have shared : (runAll ordersFile (.empty true) reconnected).map shows = [false, false] := by
    decide +kernel
  have same : (runAll ordersFile (.empty true) reconnected).map shows =
      (runAll ordersFile (.empty false) reconnected).map shows := by
    refine List.forall₂_eq_eq_eq ▸ List.forall₂_map_left_iff.mpr (List.forall₂_map_right_iff.mpr ?_)
    exact transparent.flip.imp fun _ _ same => SameOutcome.any same other
  rw [scanned, shared] at same
  cases same

end Registration
end Datacube
