import Datacube.Plan.Software
import Datacube.Proofs.Join.Growth
import Datacube.Proofs.Schema.Registry

/-!
# The tables of a plan

A request is resolved to tables that the registry admits, each under its own identifier, with the
primary one at the front. The tables that joins pass through are added to them. In a software plan
every table bears a name: two different tables bear different ones.
-/

namespace Datacube

/-- Tables that a registry admits, each under its own identifier. -/
structure Tabled (registry : Registry) (tables : Entries String Table) : Prop where
  nodup : tables.keys.Nodup
  keyed : ∀ e ∈ tables, e.1 = e.2.identifier
  admitted : ∀ e ∈ tables, registry.Admits e.2

variable {registry : Registry} {tables : Entries String Table} {t u : Table} {identifier : String}
  {p : Planner} {metrics : List RequestedMetric} {dimensions : List Dimension} {r : Resolved}

namespace Tabled

theorem nil : Tabled registry [] := ⟨List.nodup_nil, nofun, nofun⟩

theorem append (tabled : Tabled registry tables) (admitted : registry.Admits t)
    (new : t.identifier ∉ tables.keys) : Tabled registry (tables ++ [(t.identifier, t)]) where
  nodup := by
    rw [Entries.keys_append_one, ← List.concat_eq_append]
    exact tabled.nodup.concat new
  keyed := by
    intro e member
    rcases List.mem_append.mp member with old | last
    · exact tabled.keyed e old
    · rw [List.mem_singleton.mp last]
  admitted := by
    intro e member
    rcases List.mem_append.mp member with old | last
    · exact tabled.admitted e old
    · rw [List.mem_singleton.mp last]
      exact admitted

theorem putNew (tabled : Tabled registry tables) (admitted : registry.Admits t) :
    Tabled registry (tables.putNew t.identifier t) := by
  by_cases known : t.identifier ∈ tables.keys
  · rw [Entries.putNew_known (Entries.exact_of_lawful _) known]
    exact tabled
  · rw [Entries.putNew_new (Entries.exact_of_lawful _) known]
    exact tabled.append admitted known

theorem get? (tabled : Tabled registry tables) (known : identifier ∈ tables.keys) :
    ∃ t, tables.get? identifier = some t ∧ (identifier, t) ∈ tables ∧
      t.identifier = identifier := by
  obtain ⟨t, found⟩ :=
    Option.isSome_iff_exists.mp ((Entries.isSome_get? (Entries.exact_of_lawful _)).mpr known)
  have member := Entries.mem_of_get? (Entries.exact_of_lawful _) found
  exact ⟨t, found, member, (tabled.keyed _ member).symm⟩

theorem distinct (tabled : Tabled registry tables) (member : t ∈ tables.values)
    (member' : u ∈ tables.values) (same : t.identifier = u.identifier) : t = u := by
  obtain ⟨e, listed, rfl⟩ := List.mem_map.mp member
  obtain ⟨e', listed', rfl⟩ := List.mem_map.mp member'
  rw [← tabled.keyed e listed, ← tabled.keyed e' listed'] at same
  rw [List.inj_on_of_nodup_map tabled.nodup listed listed' same]

theorem clear (tabled : Tabled registry tables) (indexed : registry.Indexed) {f : PathFinder}
    (compiled : registry.compile = .ok f.schema) : f.Clear tables.values := by
  refine PathFinder.clear_of_recognizes (indexed.unambiguous compiled) ?_ ?_
  · intro t member
    obtain ⟨e, listed, rfl⟩ := List.mem_map.mp member
    exact (tabled.admitted e listed).recognizes compiled
  · intro t member u member' same
    exact tabled.distinct member member' same

end Tabled

/-- Tables that are put under their identifiers, of which the first one of each stays. -/
def gather {α : Type} (table : α → Table) (tables : Entries String Table) (items : List α) :
    Entries String Table :=
  items.foldl (fun (acc : Entries String Table) x => acc.putNew (table x).identifier (table x))
    tables

theorem prefix_gather {α : Type} (table : α → Table) (tables : Entries String Table)
    (items : List α) : tables <+: gather table tables items := by
  induction items generalizing tables with
  | nil => exact List.prefix_rfl
  | cons x rest ih => exact Entries.prefix_putNew.trans (ih _)

theorem mem_gather {α : Type} {table : α → Table} {items : List α} {e : String × Table}
    (member : e ∈ gather table tables items) :
    e ∈ tables ∨ ∃ x ∈ items, e = ((table x).identifier, table x) := by
  induction items generalizing tables with
  | nil => exact .inl member
  | cons x rest ih =>
      have step : gather table tables (x :: rest) =
        gather table (tables.putNew (table x).identifier (table x)) rest := rfl
      rw [step] at member
      rcases ih member with put | ⟨y, later, same⟩
      · exact (Entries.mem_putNew put).imp_right fun same => ⟨x, List.mem_cons_self, same⟩
      · exact .inr ⟨y, List.mem_cons_of_mem x later, same⟩

theorem mem_keys_gather {α : Type} {table : α → Table} {items : List α} {x : α}
    (member : x ∈ items) : (table x).identifier ∈ (gather table tables items).keys := by
  induction items generalizing tables with
  | nil => cases member
  | cons y rest ih =>
      rcases List.mem_cons.mp member with rfl | later
      · have put : (table x).identifier ∈ (tables.putNew (table x).identifier (table x)).keys :=
          (Entries.mem_keys_putNew (Entries.exact_of_lawful _)).mpr (.inr rfl)
        exact List.map_subset _ (prefix_gather table _ rest).subset put
      · exact ih later

theorem Tabled.gather {α : Type} {items : List α} {table : α → Table}
    (tabled : Tabled registry tables) (admitted : ∀ x ∈ items, registry.Admits (table x)) :
    Tabled registry (gather table tables items) ∧ tables <+: gather table tables items ∧
      ∀ x ∈ items, (table x).identifier ∈ (gather table tables items).keys := by
  induction items generalizing tables with
  | nil => exact ⟨tabled, List.prefix_rfl, by simp⟩
  | cons x rest ih =>
      obtain ⟨tabled', start, all⟩ := ih (tabled.putNew (admitted x List.mem_cons_self))
        fun y later => admitted y (List.mem_cons_of_mem x later)
      refine ⟨tabled', prefix_gather table tables (x :: rest), ?_⟩
      intro y member
      rcases List.mem_cons.mp member with rfl | later
      · exact List.map_subset _ start.subset
          ((Entries.mem_keys_putNew (Entries.exact_of_lawful _)).mpr (.inr rfl))
      · exact all y later

/-! ## Resolving a request -/

def Brings (metrics : List RequestedMetric) (t : Table) : Prop :=
  ∃ source a, RequestedMetric.sourced source a ∈ metrics ∧ source.table = t

/-- A resolved request: its tables are admitted, and the primary one is the first. -/
structure Resolved.Sound (registry : Registry) (dimensions : List Dimension) (r : Resolved) :
    Prop where
  metricTables : Tabled registry r.metricTables
  starts : ∃ rest, r.metricTables = (r.primary.identifier, r.primary) :: rest
  sources : ∀ source ∈ r.sources.values, source.table.identifier ∈ r.metricTables.keys
  bound : ∀ d ∈ r.dimensions, (d.table ∈ registry.all ∨ d.table ∈ r.metricTables.values) ∧
    registry.Admits d.table ∧ d.dimension ∈ dimensions

namespace Planner

/-- What a request is resolved to: pairs of a source and an aggregation, one at least, and what is
read off them. -/
theorem resolve_ok (resolved : p.resolve metrics dimensions = .ok r) :
    ∃ first rest, metrics.filterMap p.source? = (first :: rest).map .ok ∧
      r.primary = first.1.table ∧
      r.sources = .ofPairs ((first :: rest).map fun pair => (pair.2.aliasName, pair.1)) ∧
      r.aggregations = .ofPairs ((first :: rest).map fun pair => (pair.2.aliasName, pair.2)) ∧
      r.metricTables = gather (·.1.table) [] (first :: rest) ∧
      dimensions.mapM (p.bindDimension r.metricTables.values r.primary) = .ok r.dimensions := by
  rw [resolve] at resolved
  split at resolved
  · cases resolved
  · rename_i first rest sources
    simp only [Outcome.bind_eq_ok] at resolved
    obtain ⟨first', rfl, rest', found, resolved⟩ := resolved
    split at resolved
    · obtain ⟨_, ⟨⟩, -⟩ := resolved
    · simp only [pure, Except.pure, bind, Except.bind] at resolved
      split at resolved
      · cases resolved
      · split at resolved
        · cases resolved
        · rename_i bound binds
          rw [Except.ok.injEq] at resolved
          subst resolved
          refine ⟨first', rest', ?_, rfl, rfl, rfl, rfl, binds⟩
          have same : List.Forall₂ (· = ·) rest (rest'.map Except.ok) :=
            List.forall₂_map_right_iff.mpr (Outcome.mapM_ok found)
          rw [List.forall₂_eq_eq_eq] at same
          rw [sources, List.map_cons, ← same]

section Aliases
variable {pairs : List (MetricSource × Aggregation)} {α : Type} (f : MetricSource × Aggregation → α)
  (texts : ∀ pair ∈ pairs, ∃ name, pair.2.aliasName = .text name)
include texts

theorem exact_aliases :
    ∀ e ∈ pairs.map fun pair => (pair.2.aliasName, f pair), Entries.Exact e.1 := by
  intro e member
  obtain ⟨pair, listed, rfl⟩ := List.mem_map.mp member
  obtain ⟨name, text⟩ := texts pair listed
  exact text ▸ Entries.exact_text name

theorem mem_keys_aliases {key : Value} :
    key ∈ (Entries.ofPairs (pairs.map fun pair => (pair.2.aliasName, f pair))).keys ↔
      key ∈ pairs.map (·.2.aliasName) := by
  rw [Entries.mem_keys_ofPairs (exact_aliases f texts), List.map_map]
  rfl

/-- No later aggregation overwrites an earlier one under an alias of its own. -/
theorem get?_aliases (distinct : (pairs.map (·.2.aliasName)).Nodup)
    {pair : MetricSource × Aggregation} (member : pair ∈ pairs) :
    (Entries.ofPairs (pairs.map fun pair => (pair.2.aliasName, f pair))).get? pair.2.aliasName =
      some (f pair) := by
  have listed := List.mem_map_of_mem (f := fun pair => (pair.2.aliasName, f pair)) member
  have distinct : ((pairs.map fun pair => (pair.2.aliasName, f pair)).map (·.1)).Nodup := by
    rw [List.map_map]
    exact distinct
  rw [Entries.ofPairs_of_nodup (exact_aliases f texts) distinct]
  exact Entries.get?_of_mem (exact_aliases f texts _ listed) distinct listed

end Aliases

theorem exists_source {pairs : List (MetricSource × Aggregation)}
    (sources : metrics.filterMap p.source? = pairs.map .ok) {pair : MetricSource × Aggregation}
    (member : pair ∈ pairs) : ∃ m ∈ metrics, p.source? m = some (.ok pair) :=
  List.mem_filterMap.mp (sources ▸ List.mem_map_of_mem member)

theorem source?_known {m : RequestedMetric} {pair : MetricSource × Aggregation}
    (member : m ∈ metrics) (found : p.source? m = some (.ok pair)) :
    pair.1.table ∈ p.registry.all ∨ Brings metrics pair.1.table := by
  cases m with
  | aggregation a =>
      simp only [source?, Option.some.injEq, Outcome.bind_eq_ok, Outcome.pure_eq_ok] at found
      obtain ⟨source, known, rfl⟩ := found
      exact .inl (Registry.mem_of_metricSource known)
  | sourced source a =>
      rw [source?, Option.some.injEq, Except.ok.injEq] at found
      subst found
      exact .inr ⟨source, a, member, rfl⟩
  | computed m => cases found

theorem source?_admits (indexed : p.registry.Indexed)
    (brought : ∀ t, Brings metrics t → p.registry.Admits t) {m : RequestedMetric}
    {pair : MetricSource × Aggregation} (member : m ∈ metrics)
    (found : p.source? m = some (.ok pair)) : p.registry.Admits pair.1.table :=
  (source?_known member found).elim indexed.admits (brought _)

theorem bindDimension_ok {metricTables : List Table} {primary : Table} {d : Dimension}
    {bound : BoundDimension} (binds : p.bindDimension metricTables primary d = .ok bound) :
    bound.dimension = d ∧
      (bound.table ∈ p.registry.all ∨ bound.table ∈ metricTables ∨ bound.table = primary) := by
  rw [bindDimension] at binds
  split at binds
  · simp only [Outcome.bind_eq_ok, Outcome.pure_eq_ok] at binds
    obtain ⟨t, found, rfl⟩ := binds
    exact ⟨rfl, .inl (Registry.mem_of_table found)⟩
  · simp only at binds
    split at binds
    · rename_i t column found
      rw [Except.ok.injEq] at binds
      subst binds
      obtain ⟨u, listed, same⟩ := List.exists_of_findSome?_eq_some found
      obtain ⟨_, -, pair⟩ := Option.map_eq_some_iff.mp same
      rw [Prod.mk.injEq] at pair
      exact ⟨rfl, .inr (.inl (pair.1 ▸ listed))⟩
    · rw [Except.ok.injEq] at binds
      subst binds
      exact ⟨rfl, .inr (.inr rfl)⟩

/-- What a request is resolved to is sound when the tables that it brings are admitted. -/
theorem resolve_sound (indexed : p.registry.Indexed)
    (brought : ∀ t, Brings metrics t → p.registry.Admits t)
    (resolved : p.resolve metrics dimensions = .ok r) : r.Sound p.registry dimensions := by
  obtain ⟨first, rest, listed, primary, sources, -, metricTables, binds⟩ := resolve_ok resolved
  have admitted : ∀ pair ∈ first :: rest, p.registry.Admits pair.1.table := by
    intro pair member
    obtain ⟨m, requested, found⟩ := exists_source listed member
    exact source?_admits indexed brought requested found
  have gathered := Tabled.nil.gather admitted
  have later := (Tabled.nil.putNew (admitted first List.mem_cons_self)).gather
    fun pair member => admitted pair (List.mem_cons_of_mem first member)
  rw [← metricTables] at gathered
  obtain ⟨tabled, -, all⟩ := gathered
  have starts : [(r.primary.identifier, r.primary)] <+: r.metricTables := by
    rw [metricTables, primary]
    exact later.2.1
  refine ⟨tabled, ?_, ?_, ?_⟩
  · obtain ⟨more, split⟩ := starts
    exact ⟨more, split.symm⟩
  · intro source member
    rw [sources] at member
    obtain ⟨_, listed, rfl⟩ := Entries.mem_values_ofPairs member
    obtain ⟨pair, inside, rfl⟩ := List.mem_map.mp listed
    exact all pair inside
  · intro d member
    obtain ⟨requested, listed, bound⟩ := exists_of_mem_right (Outcome.mapM_ok binds) member
    obtain ⟨same, place⟩ := bindDimension_ok bound
    have place : d.table ∈ p.registry.all ∨ d.table ∈ r.metricTables.values := by
      rcases place with known | metric | atPrimary
      · exact .inl known
      · exact .inr metric
      · rw [atPrimary]
        exact .inr (List.mem_map.mpr ⟨_, starts.subset (List.mem_singleton_self _), rfl⟩)
    refine ⟨place, ?_, same ▸ listed⟩
    rcases place with known | metric
    · exact indexed.admits known
    · obtain ⟨e, listed, same⟩ := List.mem_map.mp metric
      exact same ▸ tabled.admitted e listed

end Planner

/-- The participants are admitted tables with the primary one at the front, and every dimension is
read from one of them. -/
theorem Resolved.Sound.participants (sound : r.Sound registry dimensions) :
    Tabled registry r.participants ∧
      (∃ rest, r.participants = (r.primary.identifier, r.primary) :: rest) ∧
      r.metricTables <+: r.participants ∧
      ∀ d ∈ r.dimensions, d.table ∈ r.participants.values := by
  obtain ⟨tabled, start, all⟩ :=
    sound.metricTables.gather fun d member => (sound.bound d member).2.1
  obtain ⟨rest, starts⟩ := sound.starts
  refine ⟨tabled, ?_, start, ?_⟩
  · obtain ⟨more, split⟩ := start
    exact ⟨rest ++ more, by rw [← List.cons_append, ← starts]; exact split.symm⟩
  · -- The table that took the identifier first is the same one, since both are admitted.
    intro d member
    rcases (sound.bound d member).1 with known | metric
    · obtain ⟨t, -, listed, same⟩ := tabled.get? (all d member)
      rw [(tabled.admitted _ listed).unique d.table known same.symm]
      exact List.mem_map.mpr ⟨_, listed, rfl⟩
    · exact List.map_subset _ start.subset metric

theorem Planner.participants_keyed (resolved : p.resolve metrics dimensions = .ok r) :
    ∀ e ∈ r.participants, e.1 = e.2.identifier := by
  obtain ⟨first, rest, -, -, -, -, metricTables, -⟩ := resolve_ok resolved
  have gathered : r.participants = gather (·.table) r.metricTables r.dimensions := rfl
  intro e listed
  rw [gathered, metricTables] at listed
  rcases mem_gather listed with old | ⟨d, -, rfl⟩
  · obtain ⟨pair, -, rfl⟩ := (mem_gather old).resolve_left List.not_mem_nil
    rfl
  · rfl

/-- The tables that take part are known to the registry or brought by the request. -/
theorem Planner.participants_known (resolved : p.resolve metrics dimensions = .ok r) :
    ∀ t ∈ r.participants.values, t ∈ p.registry.all ∨ Brings metrics t := by
  obtain ⟨first, rest, listed, primary, -, -, metricTables, binds⟩ := resolve_ok resolved
  have paired : ∀ pair ∈ first :: rest,
      pair.1.table ∈ p.registry.all ∨ Brings metrics pair.1.table := by
    intro pair member
    obtain ⟨m, requested, found⟩ := exists_source listed member
    exact source?_known requested found
  have metric : ∀ t ∈ r.metricTables.values, t ∈ p.registry.all ∨ Brings metrics t := by
    intro t member
    obtain ⟨e, inside, rfl⟩ := List.mem_map.mp member
    rw [metricTables] at inside
    obtain ⟨pair, asked, rfl⟩ := (mem_gather inside).resolve_left List.not_mem_nil
    exact paired pair asked
  have gathered : r.participants = gather (·.table) r.metricTables r.dimensions := rfl
  intro t member
  rw [gathered] at member
  obtain ⟨e, inside, rfl⟩ := List.mem_map.mp member
  rcases mem_gather inside with old | ⟨d, read, same⟩
  · exact metric _ (List.mem_map_of_mem old)
  · rw [same]
    obtain ⟨requested, -, bound⟩ := exists_of_mem_right (Outcome.mapM_ok binds) read
    rcases (bindDimension_ok bound).2 with known | atMetric | atPrimary
    · exact .inl known
    · exact metric d.table atMetric
    · rw [atPrimary, primary]
      exact paired first List.mem_cons_self

/-! ## Tables on the way -/

namespace Planner
variable {schema : Schema} {tables' : Entries String Table} {joins : List JoinStep}

/-- An identifier that is known among some tables or to the schema. -/
def Located (schema : Schema) (tables : Entries String Table) (identifier : String) : Prop :=
  identifier ∈ tables.keys ∨ ∃ t, t.identifier = identifier ∧ schema.Holds t

theorem prefix_addPathTable (added : addPathTable schema tables identifier = .ok tables') :
    tables <+: tables' := by
  rw [addPathTable] at added
  split at added
  · exact Outcome.pure_eq_ok.mp added ▸ List.prefix_rfl
  · rename_i unknown
    rw [Entries.has_iff (Entries.exact_of_lawful _)] at unknown
    rw [Outcome.bind_eq_ok] at added
    obtain ⟨found, -, added⟩ := added
    cases found with
    | none => exact Outcome.pure_eq_ok.mp added ▸ List.prefix_rfl
    | some t =>
        rw [← Outcome.pure_eq_ok.mp added, Entries.put_new (Entries.exact_of_lawful _) unknown]
        exact List.prefix_append _ _

theorem prefix_pathTables (run : joins.foldlM (fun acc s => do
      addPathTable schema (← addPathTable schema acc s.sourceId) s.targetId) tables =
        .ok tables') : tables <+: tables' := by
  refine Outcome.foldlM_induction (fun _ now => tables <+: now) run List.prefix_rfl ?_
  intro _ s _ now next start added
  rw [Outcome.bind_eq_ok] at added
  obtain ⟨one, first, second⟩ := added
  exact start.trans ((prefix_addPathTable first).trans (prefix_addPathTable second))

theorem addPathTable_located (located : Located schema tables identifier)
    (added : addPathTable schema tables identifier = .ok tables') :
    identifier ∈ tables.keys ∧ tables' = tables ∨
      identifier ∉ tables.keys ∧ ∃ t, t.identifier = identifier ∧ schema.Holds t ∧
        tables' = tables ++ [(identifier, t)] := by
  rw [addPathTable] at added
  by_cases known : identifier ∈ tables.keys
  · rw [if_pos ((Entries.has_iff (Entries.exact_of_lawful _)).mpr known)] at added
    exact .inl ⟨known, (Except.ok.inj added).symm⟩
  · obtain ⟨t, rfl, held⟩ := located.resolve_left known
    have found : schema.find (.text t.identifier) .null = .ok (some t) :=
      Schema.find_identified .null rfl held
    rw [if_neg (by rw [Entries.has_iff (Entries.exact_of_lawful _)]; exact known), found] at added
    have put : tables.put t.identifier t = tables' := Except.ok.inj added
    rw [Entries.put_new (Entries.exact_of_lawful _) known] at put
    exact .inr ⟨known, t, rfl, held, put.symm⟩

theorem addPathTable_ok (indexed : registry.Indexed) (compiled : registry.compile = .ok schema)
    (tabled : Tabled registry tables) (located : Located schema tables identifier)
    (added : addPathTable schema tables identifier = .ok tables') :
    Tabled registry tables' ∧ tables <+: tables' ∧
      ∀ key, key ∈ tables'.keys ↔ key ∈ tables.keys ∨ key = identifier := by
  rcases addPathTable_located located added with ⟨known, rfl⟩ | ⟨new, t, rfl, held, rfl⟩
  · exact ⟨tabled, List.prefix_rfl, fun key => ⟨.inl, fun h => h.elim id fun same => same ▸ known⟩⟩
  · refine ⟨tabled.append (indexed.admits (Schema.get?_tables compiled held).2) new,
      List.prefix_append _ _, fun key => ?_⟩
    rw [Entries.keys_append_one, List.mem_append, List.mem_singleton]

/-- The tables of a plan: those that take part, and those that the joins name. -/
theorem pathTables_ok (indexed : registry.Indexed) (compiled : registry.compile = .ok schema)
    (tabled : Tabled registry tables)
    (located : ∀ s ∈ joins, Located schema tables s.sourceId ∧ Located schema tables s.targetId)
    (run : joins.foldlM (fun acc s => do
      addPathTable schema (← addPathTable schema acc s.sourceId) s.targetId) tables =
        .ok tables') :
    Tabled registry tables' ∧ tables <+: tables' ∧ ∀ key, key ∈ tables'.keys ↔
      key ∈ tables.keys ∨ ∃ s ∈ joins, key = s.sourceId ∨ key = s.targetId := by
  induction joins generalizing tables with
  | nil =>
      obtain rfl := Outcome.pure_eq_ok.mp run
      exact ⟨tabled, List.prefix_rfl, by simp⟩
  | cons s rest ih =>
      rw [List.foldlM_cons, Outcome.bind_eq_ok] at run
      obtain ⟨both, added, run⟩ := run
      rw [Outcome.bind_eq_ok] at added
      obtain ⟨one, first, second⟩ := added
      have ⟨atSource, atTarget⟩ := located s List.mem_cons_self
      obtain ⟨tabled₁, start₁, keys₁⟩ := addPathTable_ok indexed compiled tabled atSource first
      have grows₁ : ∀ key, Located schema tables key → Located schema one key :=
        fun key place => place.imp_left fun known => (keys₁ key).mpr (.inl known)
      obtain ⟨tabled₂, start₂, keys₂⟩ :=
        addPathTable_ok indexed compiled tabled₁ (grows₁ _ atTarget) second
      have grows₂ : ∀ key, Located schema tables key → Located schema both key :=
        fun key place => (grows₁ key place).imp_left fun known => (keys₂ key).mpr (.inl known)
      obtain ⟨tabled₃, start₃, keys₃⟩ := ih tabled₂ (fun step later =>
        have ⟨source, target⟩ := located step (List.mem_cons_of_mem s later)
        ⟨grows₂ _ source, grows₂ _ target⟩) run
      refine ⟨tabled₃, start₁.trans (start₂.trans start₃), fun key => ?_⟩
      rw [keys₃, keys₂, keys₁, List.exists_mem_cons_iff, or_assoc, or_assoc, or_assoc]

/-! ## Names -/

def nameAmong (tables : Entries String Table) (identifier : String) : Value :=
  ((participantNames tables).get? identifier).getD (.text identifier)

theorem nameAmong_eq (tabled : Tabled registry tables) (member : (identifier, t) ∈ tables) :
    nameAmong tables identifier = Schema.shortest tables.values t := by
  have keys : (participantNames tables).keys = tables.keys := by
    rw [participantNames, Entries.keys, List.map_map]
    rfl
  have named : (identifier, if Schema.owners tables.values t.name == 1 then t.name
      else .text identifier) ∈ participantNames tables :=
    List.mem_map.mpr ⟨_, member, rfl⟩
  have keyed : identifier = t.identifier := tabled.keyed _ member
  rw [nameAmong, Entries.get?_of_mem (Entries.exact_of_lawful _) (keys ▸ tabled.nodup) named,
    Option.getD_some, Schema.shortest, ← keyed]

theorem nameAmong_text (tabled : Tabled registry tables) (known : identifier ∈ tables.keys) :
    ∃ s, nameAmong tables identifier = .text s := by
  obtain ⟨t, -, member, -⟩ := tabled.get? known
  rw [nameAmong_eq tabled member]
  exact Schema.shortest_text (tabled.admitted _ member).plain

theorem nameAmong_injective (tabled : Tabled registry tables) {a b : String}
    (known : a ∈ tables.keys) (known' : b ∈ tables.keys)
    (same : nameAmong tables a = nameAmong tables b) : a = b := by
  obtain ⟨t, -, member, rfl⟩ := tabled.get? known
  obtain ⟨u, -, member', rfl⟩ := tabled.get? known'
  rw [nameAmong_eq tabled member, nameAmong_eq tabled member'] at same
  exact Schema.shortest_injective (tabled.admitted _ member).plain (tabled.admitted _ member').plain
    (List.mem_map_of_mem (f := (·.2)) member) (List.mem_map_of_mem (f := (·.2)) member') same

theorem names_nodup (tabled : Tabled registry tables) :
    (tables.keys.map (nameAmong tables)).Nodup :=
  tabled.nodup.map_on fun _ known _ known' same => nameAmong_injective tabled known known' same

end Planner

end Datacube
