import Datacube.Proofs.Catalog.Scan

/-!
# How often a catalog is scanned

Whatever is done with a catalog, at most one scan of its files is completed, and one more for every
rescan. A scan that fails makes the operation fail that began it. It leaves what was found before
and what the cache keeps, and the next operation that needs the tables begins another one.
-/

namespace Datacube

/-- What surrounds a catalog at a moment: its files, the time and the cache. -/
structure Moment where
  files : Files
  now : Int
  cache : Cache

namespace Catalog

/-! ## Operations -/

/-- What is asked of the tables of a catalog. -/
inductive Question where
  | tables
  | provides (identifier : String)
  | table (identifier : String)
  | metricSource (reference : String)
  | relations (identifier : String)
  | dimensions (identifier : String)
  | snapshot

/-- What can be done with a catalog. -/
inductive Operation where
  | look (question : Question)
  | boot
  | restore (v : Value)
  | rescan

inductive Reply where
  | done
  | tables (tables : List Table)
  | flag (holds : Bool)
  | table (t : Table)
  | metricSource (source : MetricSource)
  | relations (graph : RelationGraph)
  | dimensions (catalog : DimensionCatalog)
  | document (v : Value)

/-- What an operation answers, with the catalog and the cache after it. -/
structure Effect where
  reply : Outcome Reply
  catalog : Catalog
  cache : Cache

def Effect.ofChange : Outcome Unit × Catalog × Cache → Effect
  | (out, c, cache) => ⟨out.map fun _ => .done, c, cache⟩

namespace Question

/-- Whether the tables are looked at: identifiers of other providers and references without a column
are answered without them. -/
def needs (c : Catalog) : Question → Bool
  | provides identifier => !c.source.isForeign identifier
  | metricSource reference => (c.source.localName reference).toList.contains '.'
  | _ => true

/-- The answer of a catalog that has its tables. -/
def answer (now : Int) (c : Catalog) : Question → Outcome Reply
  | tables => .ok (.tables c.source.tables)
  | provides identifier => .ok (.flag (c.source.provides identifier))
  | table identifier => .table <$> c.source.table identifier
  | metricSource reference => .metricSource <$> c.source.metricSource reference
  | relations identifier => .relations <$> c.source.relations identifier
  | dimensions identifier => .dimensions <$> c.source.dimensions identifier
  | snapshot => .document <$> c.snapshot now

end Question

/-- Answers a question, after a scan if the tables are needed. -/
def ask (m : Moment) (c : Catalog) (question : Question) : Effect :=
  let (out, c) := if question.needs c then c.scan m.files else (.ok (), c)
  ⟨out.bind fun _ => question.answer m.now c, c, m.cache⟩

/-- Whether the cache can be asked and holds nothing that counts. -/
def misses (m : Moment) (c : Catalog) : Bool :=
  match c.given.restored m.files m.cache with
  | .ok none => true
  | _ => false

namespace Operation

def run (m : Moment) (c : Catalog) : Operation → Effect
  | look question => c.ask m question
  | boot => .ofChange (c.boot m.files m.now m.cache)
  | restore v => match c.restore v with
    | .ok c => ⟨.ok .done, c, m.cache⟩
    | .error e => ⟨.error e, c, m.cache⟩
  | rescan => .ofChange (c.rescan m.files m.now m.cache)

def isRescan : Operation → Bool
  | rescan => true
  | _ => false

/-- Whether an operation needs tables that are found by a scan. -/
def needs (m : Moment) (c : Catalog) : Operation → Bool
  | look question => question.needs c
  | boot => c.paths.all Files.isPath && c.misses m
  | restore _ => false
  | rescan => true

/-- The catalog as an operation hands it to the scan. -/
def entry (c : Catalog) : Operation → Catalog
  | look _ | restore _ => c
  | boot => c.given
  | rescan => { c with scanned := false }

/-- Whether an operation begins a scan. -/
def scans (m : Moment) (c : Catalog) (o : Operation) : Bool :=
  o.needs m c && (o.isRescan || !c.scanned)

end Operation

/-- The catalog after operations, each at a moment of its own. -/
def runAll (c : Catalog) (history : List (Moment × Operation)) : Catalog :=
  history.foldl (fun c step => (step.2.run step.1 c).catalog) c

def rescans (history : List (Moment × Operation)) : Nat := history.countP (·.2.isRescan)

variable {m : Moment} {c c' : Catalog} {o : Operation} {files : Files} {cache : Cache}
  {tables : List Table} {e : Error} {history : List (Moment × Operation)}

/-! ## Restoring -/

theorem restore_keeps {v : Value} (read : c.restore v = .ok c') :
    ∃ tables, c' = { c with tables, scanned := true } := by
  simp only [restore, Outcome.bind_eq_ok] at read
  obtain ⟨fields, -, read⟩ := read
  split at read <;>
    · obtain ⟨items, -, read⟩ := Outcome.bind_eq_ok.mp read
      obtain ⟨tables, -, read⟩ := Outcome.bind_eq_ok.mp read
      exact ⟨tables, (Outcome.pure_eq_ok.mp read).symm⟩

theorem restored_keeps (read : c.restored files cache = .ok (some c')) :
    ∃ tables, c' = { c with tables, scanned := true } := by
  unfold restored at read
  obtain ⟨valid, -, read⟩ := Outcome.bind_eq_ok.mp read
  split at read
  · simp only [Outcome.bind_eq_ok, Outcome.pure_eq_ok, Option.some.injEq, exists_eq_right] at read
    obtain ⟨v, -, read⟩ := read
    exact restore_keeps read
  · cases Outcome.pure_eq_ok.mp read

/-! ## One operation -/

/-- No scan was begun. -/
structure Idle (c c' : Catalog) : Prop where
  attempts : c'.attempts = c.attempts
  completed : c'.completed = c.completed
  scanned : c.scanned = true → c'.scanned = true

/-- A scan was completed. -/
structure Filled (tables : List Table) (c c' : Catalog) : Prop where
  attempts : c'.attempts = c.attempts + 1
  completed : c'.completed = c.completed + 1
  scanned : c'.scanned = true
  tables : c'.tables = tables

/-- A scan was begun and failed, with the operation and without any other effect. -/
structure Failed (m : Moment) (e : Error) (c : Catalog) (effect : Effect) : Prop where
  attempts : effect.catalog.attempts = c.attempts + 1
  completed : effect.catalog.completed = c.completed
  scanned : effect.catalog.scanned = false
  reply : effect.reply = .error e
  tables : effect.catalog.tables = c.tables
  cache : effect.cache = m.cache
  discover : ∀ files, effect.catalog.discover files = c.discover files

theorem idle_boot (unneeded : Operation.boot.needs m c = false) :
    Idle c (c.boot m.files m.now m.cache).2.1 := by
  cases free : c.paths.all Files.isPath with
  | false =>
      simp only [boot, free, Bool.not_false, if_true]
      exact ⟨rfl, rfl, id⟩
  | true =>
      rw [boot_free free]
      simp only [Operation.needs, free, Bool.true_and, misses] at unneeded
      split at unneeded
      · cases unneeded
      · split
        · exact ⟨rfl, rfl, id⟩
        · rename_i read
          obtain ⟨tables, rfl⟩ := restored_keeps read
          exact ⟨rfl, rfl, fun _ => rfl⟩
        · contradiction

theorem boot_needed (needed : Operation.boot.needs m c = true) :
    c.boot m.files m.now m.cache = c.given.scanInto m.files m.now m.cache m.cache.enabled := by
  rw [Operation.needs, Bool.and_eq_true, misses] at needed
  obtain ⟨free, missed⟩ := needed
  rw [boot_free free]
  split at missed
  · rename_i miss
    rw [miss]
  · cases missed

namespace Operation

theorem run_done (needed : o.needs m c = true) (done : (o.entry c).scan m.files = (.ok (), c')) :
    (o.run m c).catalog = c' := by
  cases o with
  | look question =>
      have needed : question.needs c = true := needed
      have done : c.scan m.files = (.ok (), c') := done
      rw [run, ask, if_pos needed, done]
  | boot =>
      rw [run, boot_needed needed]
      exact scanInto_catalog done
  | restore v => cases needed
  | rescan => exact scanInto_catalog done

theorem run_raised (needed : o.needs m c = true)
    (failed : (o.entry c).scan m.files = (.error e, c')) : o.run m c = ⟨.error e, c', m.cache⟩ := by
  cases o with
  | look question =>
      have needed : question.needs c = true := needed
      have failed : c.scan m.files = (.error e, c') := failed
      rw [run, ask, if_pos needed, failed]
      rfl
  | boot =>
      rw [run, boot_needed needed]
      exact congrArg Effect.ofChange (scanInto_failed failed)
  | restore v => cases needed
  | rescan => exact congrArg Effect.ofChange (scanInto_failed failed)

theorem run_unneeded (unneeded : o.needs m c = false) : Idle c (o.run m c).catalog := by
  cases o with
  | look question =>
      have unneeded : question.needs c = false := unneeded
      rw [run, ask, if_neg (by simp [unneeded])]
      exact ⟨rfl, rfl, id⟩
  | boot => exact idle_boot unneeded
  | restore v =>
      rw [run]
      split
      · rename_i read
        obtain ⟨tables, rfl⟩ := restore_keeps read
        exact ⟨rfl, rfl, fun _ => rfl⟩
      · exact ⟨rfl, rfl, id⟩
  | rescan => cases unneeded

theorem entry_discover (o : Operation) (c : Catalog) (files : Files) :
    (o.entry c).discover files = c.discover files := by
  cases o <;> rfl

theorem entry_scanned (o : Operation) (c : Catalog) :
    (o.entry c).scanned = (!o.isRescan && c.scanned) := by
  cases o <;> rfl

theorem entry_idle (o : Operation) (c : Catalog) : (o.entry c).attempts = c.attempts ∧
    (o.entry c).completed = c.completed ∧ (o.entry c).tables = c.tables := by
  cases o <;> exact ⟨rfl, rfl, rfl⟩

theorem run_idle (idle : o.scans m c = false) : Idle c (o.run m c).catalog := by
  cases needed : o.needs m c with
  | false => exact run_unneeded needed
  | true =>
      have done : (o.entry c).scanned = true := by
        rw [entry_scanned]
        simpa [scans, needed] using idle
      obtain ⟨attempts, completed, -⟩ := o.entry_idle c
      rw [run_done needed (scan_scanned done)]
      exact ⟨attempts, completed, fun _ => done⟩

theorem due_of_scans (due : o.scans m c = true) :
    o.needs m c = true ∧ (o.entry c).scanned = false := by
  rw [scans, Bool.and_eq_true] at due
  refine ⟨due.1, ?_⟩
  rw [entry_scanned]
  rcases Bool.or_eq_true_iff.mp due.2 with again | fresh
  · rw [again]
    rfl
  · rw [Bool.not_eq_true'] at fresh
    rw [fresh, Bool.and_false]

theorem run_filled (due : o.scans m c = true) (found : c.discover m.files = .ok tables) :
    Filled tables c (o.run m c).catalog := by
  obtain ⟨needed, due⟩ := due_of_scans due
  obtain ⟨attempts, completed, -⟩ := o.entry_idle c
  rw [run_done needed (scan_found due ((o.entry_discover c m.files).trans found))]
  exact ⟨congrArg (· + 1) attempts, congrArg (· + 1) completed, rfl, rfl⟩

theorem run_failed (due : o.scans m c = true) (failed : c.discover m.files = .error e) :
    Failed m e c (o.run m c) := by
  obtain ⟨needed, due⟩ := due_of_scans due
  obtain ⟨attempts, completed, tables⟩ := o.entry_idle c
  rw [run_raised needed (scan_failed due ((o.entry_discover c m.files).trans failed))]
  exact ⟨congrArg (· + 1) attempts, completed, due, rfl, tables, rfl, o.entry_discover c⟩

end Operation

/-! ## Histories -/

/-- The scans that were completed, and the one that still can be without a rescan. -/
def spent (c : Catalog) : Nat := c.completed + if c.scanned then 0 else 1

theorem spent_run (m : Moment) (c : Catalog) (o : Operation) :
    (o.run m c).catalog.spent ≤ c.spent + if o.isRescan then 1 else 0 := by
  unfold spent
  cases due : o.scans m c with
  | false =>
      obtain ⟨-, completed, kept⟩ := Operation.run_idle due
      rw [completed]
      cases done : c.scanned with
      | true =>
          rw [kept done]
          exact Nat.le_add_right _ _
      | false =>
          refine Nat.le_trans (Nat.add_le_add_left ?_ c.completed) (Nat.le_add_right _ _)
          split <;> simp
  | true =>
      have paid : c.completed + 1 ≤
          (c.completed + if c.scanned then 0 else 1) + if o.isRescan then 1 else 0 := by
        have begun := (Bool.and_eq_true_iff.mp due).2
        cases again : o.isRescan with
        | true => simp
        | false =>
            have fresh : c.scanned = false := by simpa [again] using begun
            simp [fresh]
      cases looked : c.discover m.files with
      | ok tables =>
          obtain ⟨-, completed, scanned, -⟩ := Operation.run_filled due looked
          rw [completed, scanned]
          exact paid
      | error e =>
          obtain ⟨-, completed, scanned, -⟩ := Operation.run_failed due looked
          rw [completed, scanned]
          exact paid

theorem spent_runAll (c : Catalog) (history : List (Moment × Operation)) :
    (c.runAll history).spent ≤ c.spent + rescans history := by
  induction history generalizing c with
  | nil => exact le_rfl
  | cons step rest ih =>
      have first := spent_run step.1 c step.2
      have later := ih (step.2.run step.1 c).catalog
      rw [rescans, List.countP_cons, ← rescans]
      show spent (runAll (step.2.run step.1 c).catalog rest) ≤ _
      omega

theorem runAll_scanned (done : c.scanned = true) (quiet : rescans history = 0) :
    (c.runAll history).attempts = c.attempts ∧ (c.runAll history).completed = c.completed := by
  induction history generalizing c with
  | nil => exact ⟨rfl, rfl⟩
  | cons step rest ih =>
      rw [rescans, List.countP_cons, Nat.add_eq_zero_iff] at quiet
      have once : step.2.isRescan = false := by simpa using quiet.2
      obtain ⟨attempts, completed, kept⟩ :=
        Operation.run_idle (m := step.1) (o := step.2) (c := c)
          (by simp [Operation.scans, once, done])
      obtain ⟨first, second⟩ := ih (kept done) quiet.1
      exact ⟨first.trans attempts, second.trans completed⟩

/-- A boot finds in the cache what counts, and restores the catalog from it. -/
structure Restores (m : Moment) (c c' : Catalog) : Prop where
  free : c.paths.all Files.isPath = true
  found : c.given.restored m.files m.cache = .ok (some c')

theorem Restores.boot (restores : Restores m c c') :
    (Operation.boot.run m c).reply = .ok .done ∧ (Operation.boot.run m c).catalog = c' := by
  rw [Operation.run, boot_free restores.free, restores.found]
  exact ⟨rfl, rfl⟩

/-- A scan that was begun and not completed has failed. -/
theorem Operation.exists_failed (begun : (o.run m c).catalog.attempts ≠ c.attempts)
    (unfinished : (o.run m c).catalog.completed = c.completed) :
    o.scans m c = true ∧ ∃ e, c.discover m.files = .error e := by
  cases due : o.scans m c with
  | false => exact absurd (run_idle due).attempts begun
  | true =>
      cases looked : c.discover m.files with
      | ok tables =>
          rw [(run_filled due looked).completed] at unfinished
          omega
      | error e => exact ⟨rfl, e, rfl⟩

/-- At most one scan is completed, and one more for every rescan. None is begun after a boot that
restored the catalog, until it is rescanned. A scan that is begun and not completed fails with the
operation, keeps the tables and the cache, and is tried again as soon as the tables are needed. -/
theorem scanned_once (name : String) (paths : List String) (connection : Value) :
    (∀ history, (runAll (.unscanned name paths connection) history).completed ≤
      1 + rescans history) ∧
    (∀ m c c', Restores m c c' → (Operation.boot.run m c).catalog = c' ∧
      ∀ history, rescans history = 0 →
        (c'.runAll history).attempts = c.attempts ∧ (c'.runAll history).completed = c.completed) ∧
    ∀ (m : Moment) (c : Catalog) (o : Operation) (after : Effect), o.run m c = after →
      after.catalog.attempts ≠ c.attempts → after.catalog.completed = c.completed →
      ∃ e, c.discover m.files = .error e ∧ Failed m e c after ∧
        ∀ (m' : Moment) (o' : Operation), o'.needs m' after.catalog = true →
          (∀ tables, c.discover m'.files = .ok tables →
            Filled tables after.catalog (o'.run m' after.catalog).catalog) ∧
          ∀ e', c.discover m'.files = .error e' →
            Failed m' e' after.catalog (o'.run m' after.catalog) := by
  refine ⟨fun history => ?_, fun m c c' restores => ⟨restores.boot.2, fun history quiet => ?_⟩, ?_⟩
  · have budget := spent_runAll (.unscanned name paths connection) history
    rw [show spent (.unscanned name paths connection) = 1 from rfl] at budget
    exact (Nat.le_add_right _ _).trans budget
  · obtain ⟨tables, rfl⟩ := restored_keeps restores.found
    exact runAll_scanned rfl quiet
  · rintro m c o _ rfl begun unfinished
    obtain ⟨due, e, failed⟩ := Operation.exists_failed begun unfinished
    have failure := Operation.run_failed due failed
    refine ⟨e, failed, failure, fun m' o' needed => ?_⟩
    have due' : o'.scans m' (o.run m c).catalog = true := by
      rw [Operation.scans, needed, failure.scanned]
      simp
    rw [← failure.discover]
    exact ⟨fun tables => Operation.run_filled due', fun e' => Operation.run_failed due'⟩

/-! ## One file -/

/-- A moment before the file of a catalog is written, and one after it. -/
def before : Moment := ⟨[], 1000, .empty true⟩

def later : Moment :=
  ⟨.ofPaths [("a.yaml", ⟨"tables: [{name: orders, columns: [id]}]", 2000⟩)], 3000, .empty true⟩

def shop : Catalog := .unscanned "shop" ["a.yaml"] .null

/-- The file is missing, is scanned and scanned again, and is missing at another rescan. -/
def visits : List (Moment × Operation) :=
  [(before, .look .tables), (later, .look (.table "orders")), (later, .boot), (later, .rescan),
    (before, .rescan), (before, .look (.provides "crm:orders"))]

theorem scanned_once_shop :
    ((shop.runAll visits).completed ≤ 1 + 2 ∧ (shop.runAll visits).attempts = 4) ∧
    (∃ c', Restores { later with cache := (Operation.boot.run later shop).cache } shop c' ∧
      (c'.runAll [(later, .look .tables), (before, .look .snapshot)]).completed = 0) ∧
    ∃ e, shop.discover before.files = .error e ∧
      Failed before e shop ((Operation.look .tables).run before shop) := by
  obtain ⟨bounded, restored, retried⟩ := scanned_once "shop" ["a.yaml"] .null
  refine ⟨⟨bounded visits, by decide +kernel⟩, ?_, ?_⟩
  · let again : Moment := { later with cache := (Operation.boot.run later shop).cache }
    obtain ⟨found, read, kept⟩ := Outcome.any_ok (f := Option.isSome)
      (x := shop.given.restored again.files again.cache) (by decide +kernel)
    obtain ⟨c', rfl⟩ := Option.isSome_iff_exists.mp kept
    have restores : Restores again shop c' := ⟨by decide +kernel, read⟩
    exact ⟨c', restores, ((restored again shop c' restores).2 _ rfl).2⟩
  · obtain ⟨e, failed, failure, -⟩ := retried before shop (.look .tables) _ rfl
      (by decide +kernel) (by decide +kernel)
    exact ⟨e, failed, failure⟩

end Catalog
end Datacube
