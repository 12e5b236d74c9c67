import Datacube.Proofs.Plan.Reordering
import Datacube.Proofs.Plan.Strategies

/-!
# Computed metrics that could be derived next to their tables

The table of a computed metric that declares none is the only one that the aggregations below it
read. Every metric below it is followed once, however many depend on it. So a plan has a computed
metric derived by the database exactly when all aggregations below it read one table.
-/

namespace Datacube

/-! ## What computed metrics draw on -/

/-- A computed metric depends on a key, directly or through others of the list. -/
def Draws (computed : List Computed) (m : Computed) (key : Value) : Prop :=
  ∃ m', Relation.ReflTransGen (Reads computed) m m' ∧ key ∈ m'.dependencies

section Draws
variable {computed : List Computed} {m m' : Computed} {key : Value}

theorem mem_of_below (below : Relation.ReflTransGen (Reads computed) m m')
    (member : m ∈ computed) : m' ∈ computed := by
  rcases below.cases_tail with rfl | ⟨_, -, reads⟩
  · exact member
  · exact reads.target

theorem Draws.trans (draws : Draws computed m m'.aliasName) (member : m ∈ computed)
    (member' : m' ∈ computed) (depends : key ∈ m'.dependencies) : Draws computed m key := by
  obtain ⟨last, below, reads⟩ := draws
  exact ⟨m', below.tail ⟨mem_of_below below member, member', reads⟩, depends⟩

theorem Draws.of_below (below : Relation.ReflTransGen (Reads computed) m m')
    (draws : Draws computed m' key) : Draws computed m key := by
  obtain ⟨last, below', depends⟩ := draws
  exact ⟨last, below.trans below', depends⟩

theorem Draws.depends (draws : Draws computed m key) : m.dependencies ≠ [] := by
  obtain ⟨last, below, depends⟩ := draws
  rcases below.cases_head with rfl | ⟨_, reads, -⟩
  · exact List.ne_nil_of_mem depends
  · exact List.ne_nil_of_mem reads.depends

end Draws

namespace Planner
open MetricNode (margins)

variable {p : Planner} {computed : List Computed} {tables : Entries Value String} {m m' : Computed}
  {key : Value} {seen keys : List Value} {fuel : Nat}

/-! ## Following dependencies -/

/-- What is followed after a key: the dependencies of a computed metric. -/
def following (computed : Entries Value Computed) (tables : Entries Value String) (key : Value) :
    List Value :=
  match tables.get? key, computed.get? key with
  | none, some m => m.dependencies
  | _, _ => []

theorem tablesBelow_new {entries : Entries Value Computed} (new : ¬ seen.contains key = true) :
    tablesBelow entries tables (fuel + 1) seen (key :: keys) = (tables.get? key).toList ++
      tablesBelow entries tables fuel (key :: seen) (following entries tables key ++ keys) := by
  rw [tablesBelow, if_neg new, following]
  cases tables.get? key <;> cases entries.get? key <;> rfl

theorem dependencyCount_foldl (start : Nat) :
    computed.foldl (fun count m => count + m.dependencies.length) start =
      start + dependencyCount computed := by
  induction computed generalizing start with
  | nil => rfl
  | cons m rest ih =>
      rw [dependencyCount, List.foldl_cons, List.foldl_cons, ih, ih, Nat.zero_add, Nat.add_assoc]

theorem dependencyCount_cons (m : Computed) (rest : List Computed) :
    dependencyCount (m :: rest) = m.dependencies.length + dependencyCount rest := by
  rw [dependencyCount, List.foldl_cons, dependencyCount_foldl, Nat.zero_add]

theorem dependencyCount_append (before after : List Computed) :
    dependencyCount (before ++ after) = dependencyCount before + dependencyCount after := by
  rw [dependencyCount, List.foldl_append, dependencyCount_foldl]
  rfl

theorem dependencyCount_sublist {fewer : List Computed} (sub : fewer.Sublist computed) :
    dependencyCount fewer ≤ dependencyCount computed := by
  induction sub with
  | slnil => exact Nat.le_refl _
  | cons m _ ih =>
      rw [dependencyCount_cons]
      exact Nat.le_add_left_of_le ih
  | cons_cons m _ ih =>
      rw [dependencyCount_cons, dependencyCount_cons]
      exact Nat.add_le_add_left ih _

/-- How many dependencies the metrics have that are not seen yet. -/
def pending (computed : List Computed) (seen : List Value) : Nat :=
  dependencyCount (computed.filter (!seen.contains ·.aliasName))

theorem pending_nil (computed : List Computed) :
    pending computed [] = dependencyCount computed :=
  congrArg dependencyCount (List.filter_eq_self.mpr fun _ _ => rfl)

theorem pending_append (before after : List Computed) (seen : List Value) :
    pending (before ++ after) seen = pending before seen + pending after seen := by
  rw [pending, List.filter_append, dependencyCount_append]
  rfl

theorem pending_seen (computed : List Computed) (seen : List Value) (key : Value) :
    pending computed (key :: seen) ≤ pending computed seen := by
  refine dependencyCount_sublist (List.monotone_filter_right computed fun m unseen => ?_)
  rw [List.contains_cons, Bool.not_or, Bool.and_eq_true] at unseen
  exact unseen.2

theorem pending_metric (member : m ∈ computed) (text : ∃ name, m.aliasName = .text name)
    (new : m.aliasName ∉ seen) :
    m.dependencies.length + pending computed (m.aliasName :: seen) ≤ pending computed seen := by
  obtain ⟨before, after, rfl⟩ := List.append_of_mem member
  have front := pending_seen before seen m.aliasName
  have back := pending_seen after seen m.aliasName
  rw [← Value.contains_iff text, Bool.not_eq_true] at new
  have known : (m.aliasName :: seen).contains m.aliasName = true :=
    (Value.contains_iff text).mpr List.mem_cons_self
  have gone : pending (m :: after) (m.aliasName :: seen) = pending after (m.aliasName :: seen) := by
    rw [pending, List.filter_cons_of_neg (by rw [known]; exact Bool.false_ne_true)]
    rfl
  have left : pending (m :: after) seen = m.dependencies.length + pending after seen := by
    rw [pending, List.filter_cons_of_pos (by rw [new]; rfl), dependencyCount_cons]
    rfl
  rw [pending_append, pending_append, gone, left]
  omega

section ToldApart
variable (told : ToldApart computed tables.keys)
include told

theorem get?_byAlias_iff :
    (byAlias computed).get? key = some m ↔ m ∈ computed ∧ m.aliasName = key := by
  constructor
  · intro found
    rw [get?_byAlias told] at found
    have member := List.mem_of_find?_eq_some found
    have same := List.find?_some found
    obtain ⟨name, named⟩ := told.text m member
    rw [named] at same ⊢
    exact ⟨member, (Entries.exact_text name key).mp same⟩
  · rintro ⟨member, rfl⟩
    obtain ⟨name, named⟩ := told.text m member
    refine Entries.get?_of_mem (named ▸ Entries.exact_text name) ?_
      (List.mem_map_of_mem (f := fun m => (m.aliasName, m)) member)
    exact keys_byAlias computed ▸ told.distinct

theorem mem_following {next : Value} (listed : next ∈ following (byAlias computed) tables key) :
    ∃ m ∈ computed, m.aliasName = key ∧ next ∈ m.dependencies := by
  rw [following] at listed
  split at listed
  · rename_i m _ known
    obtain ⟨member, same⟩ := (get?_byAlias_iff told).mp known
    exact ⟨m, member, same, listed⟩
  · cases listed

theorem following_metric (member : m ∈ computed) :
    following (byAlias computed) tables m.aliasName = m.dependencies := by
  obtain ⟨name, named⟩ := told.text m member
  -- Its alias is that of no aggregation, so it is followed instead of read from a table.
  have absent : tables.get? m.aliasName = none :=
    (Entries.get?_eq_none (named ▸ Entries.exact_text name)).mpr (told.apart m member)
  rw [following, absent, (get?_byAlias_iff told).mpr ⟨member, rfl⟩]

theorem pending_following (new : key ∉ seen) :
    (following (byAlias computed) tables key).length + pending computed (key :: seen) ≤
      pending computed seen := by
  by_cases none : following (byAlias computed) tables key = []
  · rw [none, List.length_nil, Nat.zero_add]
    exact pending_seen computed seen key
  · obtain ⟨next, listed⟩ := List.exists_mem_of_ne_nil _ none
    obtain ⟨m, member, rfl, -⟩ := mem_following told listed
    rw [following_metric told member]
    exact pending_metric member (told.text m member) new

/-- Tables are found for keys that dependencies lead to. -/
theorem tablesBelow_sound {P : Value → Prop}
    (closed : ∀ m ∈ computed, P m.aliasName → ∀ key ∈ m.dependencies, P key)
    (start : ∀ key ∈ keys, P key) {table : String}
    (found : table ∈ tablesBelow (byAlias computed) tables fuel seen keys) :
    ∃ key, P key ∧ tables.get? key = some table := by
  induction fuel generalizing seen keys with
  | zero => cases found
  | succ fuel ih =>
      cases keys with
      | nil => cases found
      | cons key rest =>
          obtain ⟨here, later⟩ := List.forall_mem_cons.mp start
          by_cases known : seen.contains key = true
          · rw [tablesBelow, if_pos known] at found
            exact ih later found
          · rw [tablesBelow_new known] at found
            rcases List.mem_append.mp found with known | found
            · exact ⟨key, here, Option.mem_toList.mp known⟩
            · refine ih (List.forall_mem_append.mpr ⟨fun next listed => ?_, later⟩) found
              obtain ⟨m, member, rfl, depends⟩ := mem_following told listed
              exact closed m member here next depends

end ToldApart

/-- What was visited has its tables found, and its dependencies visited too, unless it had been seen
before. -/
structure Explored (computed : List Computed) (tables : Entries Value String)
    (seen visited : List Value) (found : List String) : Prop where
  kept : seen ⊆ visited
  closed : ∀ m ∈ computed, m.aliasName ∈ visited → m.aliasName ∉ seen → m.dependencies ⊆ visited
  found : ∀ key ∈ visited, key ∉ seen → ∀ table, tables.get? key = some table → table ∈ found

theorem Explored.visit {visited : List Value} {found : List String}
    (explored : Explored computed tables (key :: seen) visited found)
    (closed : ∀ m ∈ computed, m.aliasName = key → m.dependencies ⊆ visited) :
    Explored computed tables seen visited ((tables.get? key).toList ++ found) where
  kept := fun _ known => explored.kept (List.mem_cons_of_mem key known)
  closed := by
    intro m member reached new
    by_cases same : m.aliasName = key
    · exact closed m member same
    · exact explored.closed m member reached fun known => (List.mem_cons.mp known).elim same new
  found := by
    intro other reached new table known
    by_cases same : other = key
    · exact List.mem_append_left found (Option.mem_toList.mpr (same ▸ known))
    · refine List.mem_append_right _ (explored.found other reached (fun inside => ?_) table known)
      exact (List.mem_cons.mp inside).elim same new

/-- With fuel for all dependencies that are pending, every key is visited. -/
theorem tablesBelow_explored (told : ToldApart computed tables.keys)
    (texts : ∀ key ∈ keys, ∃ name, key = .text name)
    (enough : keys.length + pending computed seen < fuel) :
    ∃ visited, keys ⊆ visited ∧ Explored computed tables seen visited
      (tablesBelow (byAlias computed) tables fuel seen keys) := by
  induction fuel generalizing seen keys with
  | zero => cases enough
  | succ fuel ih =>
      cases keys with
      | nil =>
          exact ⟨seen, List.nil_subset seen, List.Subset.refl seen,
            fun _ _ known new => absurd known new, fun _ known new => absurd known new⟩
      | cons key rest =>
          obtain ⟨text, later⟩ := List.forall_mem_cons.mp texts
          rw [List.length_cons] at enough
          by_cases known : seen.contains key = true
          · rw [tablesBelow, if_pos known]
            obtain ⟨visited, all, explored⟩ := @ih seen rest later (by omega)
            have here := explored.kept ((Value.contains_iff text).mp known)
            exact ⟨visited, List.cons_subset.mpr ⟨here, all⟩, explored⟩
          · rw [tablesBelow_new known]
            rw [Value.contains_iff text] at known
            -- The dependencies that are added are no longer pending, so the fuel still lasts.
            have drops := pending_following told known
            obtain ⟨visited, all, explored⟩ :=
              @ih (key :: seen) (following (byAlias computed) tables key ++ rest)
                (List.forall_mem_append.mpr ⟨fun next listed => by
                  obtain ⟨m, member, -, depends⟩ := mem_following told listed
                  exact told.texts m member next depends, later⟩)
                (by rw [List.length_append]; omega)
            obtain ⟨below, all⟩ := List.append_subset.mp all
            refine ⟨visited, List.cons_subset.mpr ⟨explored.kept List.mem_cons_self, all⟩,
              explored.visit fun m member same => ?_⟩
            rwa [← same, following_metric told member] at below

/-! ## The table of a computed metric -/

/-- A table that is read below a metric, and the only one. -/
structure Single (computed : List Computed) (tables : Entries Value String) (m : Computed)
    (table : String) : Prop where
  drawn : ∃ key, Draws computed m key ∧ tables.get? key = some table
  only : ∀ key other, Draws computed m key → tables.get? key = some other → other = table

theorem Single.of_below {table : String} (single : Single computed tables m table)
    (below : Relation.ReflTransGen (Reads computed) m m')
    (draws : ∃ key ∈ tables.keys, Draws computed m' key)
    (texts : ∀ key ∈ tables.keys, ∃ name, key = .text name) : Single computed tables m' table where
  drawn := by
    obtain ⟨key, known, draws⟩ := draws
    obtain ⟨name, rfl⟩ := texts key known
    obtain ⟨other, found⟩ := Option.isSome_iff_exists.mp
      ((Entries.isSome_get? (Entries.exact_text name)).mpr known)
    obtain rfl := single.only _ other (draws.of_below below) found
    exact ⟨_, draws, found⟩
  only := fun key other draws => single.only key other (draws.of_below below)

section Member
variable (told : ToldApart computed tables.keys) (member : m ∈ computed)
include told member

theorem mem_tablesBelow_iff (enough : m.dependencies.length + dependencyCount computed < fuel)
    {table : String} : table ∈ tablesBelow (byAlias computed) tables fuel [] m.dependencies ↔
      ∃ key, Draws computed m key ∧ tables.get? key = some table := by
  constructor
  · intro found
    exact tablesBelow_sound told (fun _ member' draws _ depends =>
      draws.trans member member' depends) (fun _ depends => ⟨m, .refl, depends⟩) found
  · rintro ⟨key, ⟨last, below, depends⟩, known⟩
    obtain ⟨visited, all, explored⟩ := tablesBelow_explored told (told.texts m member)
      (by rwa [pending_nil])
    have reached : last.dependencies ⊆ visited := by
      clear depends
      induction below with
      | refl => exact all
      | tail _ reads ih => exact explored.closed _ reads.target (ih reads.depends) List.not_mem_nil
    exact explored.found key (reached depends) List.not_mem_nil table known

/-- A metric without a declared table has the single one that is read below it, if there is one. -/
theorem computedTable_ok (free : m.table.isTrue = false) :
    ∃ v, p.computedTable (byAlias computed) tables m = .ok v ∧
      (v = .null ∨ ∃ name, v = .text name) ∧
      ∀ name, v = .text name ↔ Single computed tables m name := by
  have listed := @mem_tablesBelow_iff computed tables m _ told member (Nat.lt_succ_self _)
  have apart : ∀ name, Value.null ≠ .text name := by simp
  rw [computedTable, if_neg (by rw [free]; exact Bool.false_ne_true)]
  dsimp only
  rw [values_byAlias]
  generalize tablesBelow (byAlias computed) tables _ [] m.dependencies = found at listed ⊢
  cases found with
  | nil =>
      refine ⟨.null, rfl, .inl rfl, fun name => iff_of_false (apart name) fun single => ?_⟩
      cases listed.mpr single.drawn
  | cons table rest =>
      have all_iff : rest.all (· == table) = true ↔ ∀ other ∈ table :: rest, other = table := by
        simp
      by_cases same : rest.all (· == table) = true
      · refine ⟨.text table, congrArg Except.ok (if_pos same), .inr ⟨table, rfl⟩, fun name => ?_⟩
        constructor
        · rintro ⟨⟩
          exact ⟨listed.mp List.mem_cons_self, fun key other draws known =>
            all_iff.mp same other (listed.mpr ⟨key, draws, known⟩)⟩
        · intro single
          obtain ⟨key, draws, known⟩ := listed.mp List.mem_cons_self
          rw [single.only key table draws known]
      · refine ⟨.null, congrArg Except.ok (if_neg same), .inl rfl, fun name =>
          iff_of_false (apart name) fun single => same (all_iff.mpr ?_)⟩
        have each : ∀ other ∈ table :: rest, other = name := by
          intro other inside
          obtain ⟨key, draws, known⟩ := listed.mp inside
          exact single.only key other draws known
        exact fun other inside => (each other inside).trans (each table List.mem_cons_self).symm

end Member

/-! ## The tables of nodes -/

section Sources
variable {sources : Entries Value MetricSource}

theorem get?_tablesOf :
    (tablesOf sources).get? key = (sources.get? key).map (·.table.identifier) := by
  rw [tablesOf, Entries.get?_mapValues]

theorem single_iff (texts : ∀ key ∈ sources.keys, ∃ name, key = .text name)
    (draws : ∃ key ∈ sources.keys, Draws computed m key) {table : String} :
    Single computed (tablesOf sources) m table ↔ ∀ key source, Draws computed m key →
      sources.get? key = some source → source.table.identifier = table := by
  constructor
  · intro single key source draws known
    refine single.only key _ draws ?_
    rw [get?_tablesOf, known]
    rfl
  · intro only
    refine ⟨?_, fun key other draws found => ?_⟩
    · obtain ⟨key, known, draws⟩ := draws
      obtain ⟨name, rfl⟩ := texts key known
      obtain ⟨source, found⟩ := Option.isSome_iff_exists.mp
        ((Entries.isSome_get? (Entries.exact_text name)).mpr known)
      refine ⟨_, draws, ?_⟩
      rw [get?_tablesOf, found, ← only _ source draws found]
      rfl
    · rw [get?_tablesOf, Option.map_eq_some_iff] at found
      obtain ⟨source, known, rfl⟩ := found
      exact only key source draws known

end Sources

section Nodes
variable {sources : Entries Value MetricSource} {nodes : List (MetricNode (Option Computed))}
  {n n' : MetricNode (Option Computed)} (depicts : Depicts p computed sources nodes)
include depicts

theorem Depicts.source {source : MetricSource} (known : (key, source) ∈ sources) :
    ∃ n ∈ nodes, n.key = key ∧ n.table = .text source.table.identifier := by
  obtain ⟨above, -, rfl⟩ := depicts
  refine ⟨_, List.mem_append_left _ (List.mem_map_of_mem (List.mem_map_of_mem known)), rfl, rfl⟩

theorem Depicts.below (below : Relation.ReflTransGen (MetricNode.Needs nodes) n n')
    (depends : key ∈ n'.dependencies) (member : m ∈ computed) (shows : Shows m n) :
    ∃ m', Relation.ReflTransGen (Reads computed) m m' ∧ Shows m' n' := by
  rcases Relation.reflTransGen_iff_eq_or_transGen.mp below with rfl | reaches
  · exact ⟨m, .refl, shows⟩
  · obtain ⟨_, -, needs⟩ := Relation.TransGen.tail'_iff.mp reaches
    rcases depicts.cases needs.target with ⟨-, none, -⟩ | ⟨m', member', shows'⟩
    · rw [none] at depends
      cases depends
    · exact ⟨m', (depicts.reads_of_reaches reaches shows shows' member member').to_reflTransGen,
        shows'⟩

variable (told : ToldApart computed sources.keys) (keyed : MetricNode.Keyed nodes)
  (undeclared : ∀ m ∈ computed, m.table.isTrue = false)
include told keyed undeclared

theorem Depicts.table (listed : n ∈ nodes) (member : m ∈ computed) (shows : Shows m n) :
    (n.table = .null ∨ ∃ name, n.table = .text name) ∧
      ∀ name, n.table = .text name ↔ Single computed (tablesOf sources) m name := by
  have told' : ToldApart computed (tablesOf sources).keys := keys_tablesOf.symm ▸ told
  obtain ⟨v, found, placed, single⟩ := computedTable_ok (p := p) told' member (undeclared m member)
  obtain ⟨above, made, rfl⟩ := depicts
  obtain ⟨n', listed', made⟩ := exists_of_mem_left (Outcome.mapM_ok made) member
  have same := (shows_of_nodeAbove made).key.trans shows.key.symm
  rw [nodeAbove, found] at made
  obtain rfl := Outcome.pure_eq_ok.mp made
  obtain rfl := keyed.unique (List.mem_append_right _ listed') listed same
  exact ⟨placed, single⟩

theorem Depicts.placed : MetricNode.Placed nodes := by
  intro n listed
  rcases depicts.cases listed with ⟨known, -⟩ | ⟨m, member, shows⟩
  · obtain ⟨entry, inside, same⟩ := List.mem_map.mp known
    obtain ⟨n', listed', same', table⟩ := depicts.source inside
    obtain rfl := keyed.unique listed' listed (same'.trans same)
    exact .inr ⟨_, table⟩
  · exact (depicts.table told keyed undeclared listed member shows).1

/-- Nodes of metrics that all draw on some aggregation are near when a single table is read below
them. -/
theorem Depicts.near_iff (texts : ∀ key ∈ sources.keys, ∃ name, key = .text name)
    (distinct : sources.keys.Nodup)
    (complete : ∀ m ∈ computed, ∀ key ∈ m.dependencies,
      key ∈ sources.keys ++ computed.map (·.aliasName))
    (draws : ∀ m ∈ computed, ∃ key ∈ sources.keys, Draws computed m key)
    (listed : n ∈ nodes) (member : m ∈ computed) (shows : Shows m n) :
    MetricNode.Near nodes n ↔ ∃ name, Single computed (tablesOf sources) m name := by
  constructor
  · rintro (free | resident)
    · obtain ⟨key, -, draws⟩ := draws m member
      exact absurd (shows.dependencies ▸ free) draws.depends
    · obtain ⟨placed, single⟩ := depicts.table told keyed undeclared listed member shows
      obtain ⟨name, named⟩ := placed.resolve_left resident.table
      exact ⟨name, (single name).mp named⟩
  · rintro ⟨name, single⟩
    have table : ∀ {m' n'}, Relation.ReflTransGen (Reads computed) m m' → n' ∈ nodes →
        Shows m' n' → n'.table = .text name := by
      intro m' n' below listed' shows'
      have member' := mem_of_below below member
      refine ((depicts.table told keyed undeclared listed' member' shows').2 name).mpr ?_
      exact single.of_below below (keys_tablesOf.symm ▸ draws m' member')
        (keys_tablesOf.symm ▸ texts)
    have here := table .refl listed shows
    refine .inr ⟨by simp [here], fun n' below key depends => ?_⟩
    obtain ⟨m', reads, shows'⟩ := depicts.below below depends member shows
    have member' := mem_of_below reads member
    rw [shows'.dependencies] at depends
    rw [here]
    rcases List.mem_append.mp (complete m' member' key depends) with known | aliased
    · obtain ⟨⟨key, source⟩, inside, rfl⟩ := List.mem_map.mp known
      obtain ⟨other, listed', same, identifier⟩ := depicts.source inside
      obtain ⟨text, rfl⟩ := texts key known
      have found : (tablesOf sources).get? (.text text) = some source.table.identifier := by
        rw [get?_tablesOf, Entries.get?_of_mem (Entries.exact_text text) distinct inside]
        rfl
      refine ⟨other, listed', same, ?_⟩
      rw [identifier, single.only _ _ ⟨m', reads, depends⟩ found]
    · obtain ⟨m'', member'', rfl⟩ := List.mem_map.mp aliased
      obtain ⟨other, listed', shows''⟩ := depicts.shown member''
      exact ⟨other, listed', shows''.key,
        table (reads.tail ⟨member', member'', depends⟩) listed' shows''⟩

end Nodes

/-! ## Plans -/

section Planned
variable {metrics : List RequestedMetric} {dimensions : List Dimension} {q : QueryPlan}
  (planned : p.plan metrics dimensions = .ok q)
  (texts : ∀ a ∈ aggregationsOf metrics, ∃ name, a.aliasName = .text name)
  (told : ToldApart (computedOf metrics) ((aggregationsOf metrics).map (·.aliasName)))
include planned texts told

/-- The computed metrics of a plan are planned over its own sources. -/
theorem plan_plansComputed : p.planComputed (computedOf metrics) q.sources = .ok q.computed ∧
    ToldApart (computedOf metrics) q.sources.keys ∧
    (∀ key ∈ q.sources.keys, ∃ name, key = .text name) ∧ q.sources.keys.Nodup := by
  obtain ⟨r, resolved, computed, -, sources⟩ := plan_resolved planned
  obtain ⟨first, rest, asked, -⟩ := resolve_ok resolved
  have names := texts_of_asked asked texts
  rw [resolve_asked names asked (List.cons_ne_nil first rest)] at resolved
  simp only [Outcome.bind_eq_ok, Outcome.pure_eq_ok] at resolved
  obtain ⟨plans, run, _, -, rfl⟩ := resolved
  rw [computed, sources]
  exact ⟨run, toldApart_of_asked asked texts told, texts_sourcesOf names,
    nodup_keys_sourcesOf names⟩

/-- When no computed metric declares a table and all draw on aggregations, those are derived by the
database below which a single table is read. -/
theorem plan_strategies (undeclared : ∀ m ∈ computedOf metrics, m.table.isTrue = false)
    (draws : ∀ m ∈ computedOf metrics, ∃ key ∈ q.sources.keys, Draws (computedOf metrics) m key) :
    (q.computed.map (·.metric)).Perm (computedOf metrics) ∧
    ∀ c ∈ q.computed, c.strategy = .database ↔
      ∃ name, Single (computedOf metrics) (tablesOf q.sources) c.metric name := by
  obtain ⟨run, told, texts, distinct⟩ := plan_plansComputed planned texts told
  obtain ⟨complete, -, nodes, depicts, arranged⟩ := planComputed_ok told texts distinct run
  have keyed := depicts.keyed told texts distinct
  refine ⟨depicts.metrics_perm told arranged, fun c inside => ?_⟩
  obtain ⟨n, listed, describes⟩ := arranged.of_mem inside
  obtain ⟨member, shows⟩ := depicts.entry listed describes
  obtain ⟨b, found, strategy⟩ := describes.strategy
  rw [← depicts.near_iff told keyed undeclared texts distinct complete draws listed member shows,
    ← MetricNode.isLocal_ok keyed (depicts.placed told keyed undeclared) listed found, strategy]
  cases b <;> simp [MetricNode.strategyOf]

end Planned

/-- Of nodes without cycles those are derived by the database that depend on nothing or have a table
which everything below them has. In a plan these are the computed metrics of which all aggregations
below read one table. -/
theorem database_derives :
    (∀ (μ : Type) (nodes : List (MetricNode μ)), MetricNode.Keyed nodes → MetricNode.Placed nodes →
      (∀ n, ¬ MetricNode.Reaches nodes n n) → ∃ database software,
        MetricNode.split nodes = .ok (database, software) ∧
        MetricNode.Parted nodes database software ∧
        ∀ n ∈ nodes, n ∈ database ↔ MetricNode.Near nodes n) ∧
    ∀ (p : Planner) metrics dimensions q, p.plan metrics dimensions = .ok q →
      (∀ a ∈ aggregationsOf metrics, ∃ name, a.aliasName = .text name) →
      ToldApart (computedOf metrics) ((aggregationsOf metrics).map (·.aliasName)) →
      (∀ m ∈ computedOf metrics, m.table.isTrue = false) →
      (∀ m ∈ computedOf metrics, ∃ key ∈ q.sources.keys, Draws (computedOf metrics) m key) →
      (q.computed.map (·.metric)).Perm (computedOf metrics) ∧
      ∀ c ∈ q.computed, c.strategy = .database ↔ ∃ table, ∀ key source,
        Draws (computedOf metrics) c.metric key → q.sources.get? key = some source →
          source.table.identifier = table := by
  refine ⟨fun μ nodes => MetricNode.split_near, ?_⟩
  intro p metrics dimensions q planned texts told undeclared draws
  obtain ⟨moved, strategies⟩ := plan_strategies planned texts told undeclared draws
  obtain ⟨-, -, names, -⟩ := plan_plansComputed planned texts told
  refine ⟨moved, fun c inside => (strategies c inside).trans (exists_congr fun table => ?_)⟩
  exact single_iff names (draws c.metric (moved.subset (List.mem_map_of_mem inside)))

/-- The targets, and the revenue beyond them, which is computed from two tables. -/
def goals : List Computed :=
  targets ++ [⟨"past + target", .combine .add (.metric "past") (.metric "target"), [], "goal",
    .null, .null, .int 2, false, .null⟩]

theorem goals_apart : ToldApart goals ["revenue", "past"] := by
  constructor <;> simp [goals, targets, Computed.aliasName, Computed.dependencies,
    Computed.referenced, Computed.addMissing, Formula.metrics, Value.orElse, Value.isTrue,
    Value.beq_text]

theorem goals_draw : ∀ m ∈ goals, Draws goals m "revenue" := by
  -- All goals are the target or depend on it, and it depends on the revenue.
  have below : ∀ m ∈ goals, m.aliasName = .text "target" ∨ .text "target" ∈ m.dependencies := by
    simp [goals, targets, Computed.aliasName, Computed.dependencies, Computed.referenced,
      Computed.addMissing, Formula.metrics, Value.orElse, Value.isTrue, Value.beq_text]
  have last : ∃ m ∈ goals, m.aliasName = .text "target" ∧ .text "revenue" ∈ m.dependencies := by
    simp [goals, targets, Computed.aliasName, Computed.dependencies, Computed.referenced,
      Computed.addMissing, Formula.metrics, Value.orElse, Value.isTrue, Value.beq_text]
  intro m member
  obtain ⟨target, listed, same, depends⟩ := last
  rcases below m member with here | reads
  · have equal := here.trans same.symm
    obtain rfl := List.inj_on_of_nodup_map goals_apart.distinct member listed equal
    exact ⟨_, .refl, depends⟩
  · exact ⟨target, .single ⟨member, listed, same ▸ reads⟩, depends⟩

/-- The margin reads what is not requested, and the goal reads two tables. -/
theorem database_derives_targets :
    (MetricNode.Keyed margins ∧ MetricNode.Placed margins ∧
      (∀ n, ¬ MetricNode.Reaches margins n n) ∧ ∃ database software,
        MetricNode.split margins = .ok (database, software) ∧
        MetricNode.Parted margins database software ∧
        ∀ n ∈ margins, n ∈ database ↔ MetricNode.Near margins n) ∧
    ∃ q, shop.plan (revenue ++ goals.map .computed) [] = .ok q ∧
      (∃ c ∈ q.computed, c.strategy = .database) ∧ (∃ c ∈ q.computed, c.strategy = .software) ∧
      (q.computed.map (·.metric)).Perm goals ∧
      ∀ c ∈ q.computed, c.strategy = .database ↔ ∃ table, ∀ key source,
        Draws goals c.metric key → q.sources.get? key = some source →
          source.table.identifier = table := by
  constructor
  · have keyed : MetricNode.Keyed margins := by constructor <;> simp [margins]
    have placed : MetricNode.Placed margins := by simp [MetricNode.Placed, margins]
    have acyclic : ∀ n, ¬ MetricNode.Reaches margins n n :=
      (MetricNode.resolve_acyclic keyed).mp (Outcome.exists_ok (by decide +kernel))
    exact ⟨keyed, placed, acyclic, database_derives.1 Unit margins keyed placed acyclic⟩
  · have built : (shop.plan (revenue ++ goals.map .computed) []).toOption.any (fun q =>
        q.sources.has "revenue" && q.computed.any (·.strategy = .database) &&
          q.computed.any (·.strategy = .software)) := by decide +kernel
    obtain ⟨q, planned, found⟩ := Outcome.any_ok built
    simp only [Bool.and_eq_true, List.any_eq_true, decide_eq_true_eq,
      Entries.has_iff (Entries.exact_text "revenue")] at found
    obtain ⟨⟨known, near⟩, far⟩ := found
    refine ⟨q, planned, near, far, ?_⟩
    refine database_derives.2 shop _ [] q planned ?_ goals_apart ?_ fun m member => ?_
    · simp [revenue, goals, targets, aggregationsOf, Aggregation.aliasName, Value.orElse,
        Value.isTrue]
    · simp [revenue, goals, targets, computedOf, Value.isTrue]
    · exact ⟨"revenue", known, goals_draw m member⟩

end Planner
end Datacube
