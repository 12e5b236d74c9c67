import Datacube.Proofs.Plan.Levels
import Datacube.Proofs.Plan.Participants

/-!
# The computed metrics of a plan

The computed metrics of a request and its aggregations are the nodes of a graph of dependencies.
Planning is refused when a dependency is not requested or the metrics depend on each other in a
circle. A plan lists every metric with its level and strategy after the metrics that it reads.
-/

namespace Datacube

/-- Computed metrics whose names and dependencies are texts, with aliases of their own that are not
among others. -/
structure ToldApart (computed : List Computed) (others : List Value) : Prop where
  text : ∀ m ∈ computed, ∃ name, m.aliasName = .text name
  texts : ∀ m ∈ computed, ∀ key ∈ m.dependencies, ∃ name, key = .text name
  distinct : (computed.map (·.aliasName)).Nodup
  apart : ∀ m ∈ computed, m.aliasName ∉ others

/-- A computed metric depends on another one of the list. -/
structure Reads (computed : List Computed) (m m' : Computed) : Prop where
  source : m ∈ computed
  target : m' ∈ computed
  depends : m'.aliasName ∈ m.dependencies

namespace Planner
variable {p : Planner} {computed : List Computed} {sources : Entries Value MetricSource}
  {nodes : List (MetricNode (Option Computed))}

/-! ## The graph of a request -/

def byAlias (computed : List Computed) : Entries Value Computed :=
  computed.map fun m => (m.aliasName, m)

def tablesOf (sources : Entries Value MetricSource) : Entries Value String :=
  sources.mapValues (·.table.identifier)

def nodesBelow (sources : Entries Value MetricSource) : List (MetricNode (Option Computed)) :=
  (tablesOf sources).map fun e => ⟨e.1, .text e.2, [], none⟩

def nodeAbove (p : Planner) (computed : List Computed) (sources : Entries Value MetricSource)
    (m : Computed) : Outcome (MetricNode (Option Computed)) := do
  return ⟨m.aliasName, ← p.computedTable (byAlias computed) (tablesOf sources) m, m.dependencies,
    some m⟩

/-- The metrics of a graph in the order of evaluation, with levels and strategies. -/
def arrange (nodes : List (MetricNode (Option Computed))) : Outcome (List ComputedPlan) := do
  let ordered ← MetricNode.resolve nodes
  let levels ← MetricNode.levels nodes
  let levelOf : Entries Value Nat :=
    Entries.ofPairs (levels.flatMap fun (l, group) => group.map fun n => (n.key, l))
  let (database, software) ← MetricNode.split nodes
  let strategyOf : Entries Value Strategy := Entries.ofPairs (
    (database.map fun n => (n.key, .database)) ++ software.map fun n => (n.key, .software))
  return ordered.filterMap fun n => n.metric.map fun m =>
    ⟨n.key, m, (levelOf.get? n.key).getD 0, (strategyOf.get? n.key).getD .software⟩

theorem byAlias_eq (text : ∀ m ∈ computed, ∃ name, m.aliasName = .text name)
    (distinct : (computed.map (·.aliasName)).Nodup) :
    Entries.ofPairs (computed.map fun m => (m.aliasName, m)) = byAlias computed := by
  apply Entries.ofPairs_of_nodup
  · intro pair member
    obtain ⟨m, listed, rfl⟩ := List.mem_map.mp member
    obtain ⟨name, named⟩ := text m listed
    exact named ▸ Entries.exact_text name
  · rw [List.map_map]
    exact distinct

theorem keys_byAlias (computed : List Computed) :
    (byAlias computed).keys = computed.map (·.aliasName) := by
  rw [byAlias, Entries.keys, List.map_map]
  rfl

theorem values_byAlias (computed : List Computed) : (byAlias computed).values = computed := by
  rw [byAlias, Entries.values, List.map_map]
  exact List.map_id computed

theorem keys_tablesOf : (tablesOf sources).keys = sources.keys := by
  rw [tablesOf, Entries.keys_mapValues]

theorem keys_nodesBelow : (nodesBelow sources).map (·.key) = sources.keys := by
  rw [nodesBelow, List.map_map]
  exact keys_tablesOf

theorem planComputed_filled (text : ∀ m ∈ computed, ∃ name, m.aliasName = .text name)
    (distinct : (computed.map (·.aliasName)).Nodup) (filled : computed ≠ []) :
    p.planComputed computed sources = (do
      checkDependencies (byAlias computed) (sources.keys ++ (byAlias computed).keys)
      let above ← computed.mapM (p.nodeAbove computed sources)
      arrange (nodesBelow sources ++ above)) := by
  have keys : computed.all (·.aliasName.isKey) = true := by
    rw [List.all_eq_true]
    intro m member
    obtain ⟨name, named⟩ := text m member
    rw [named]
    rfl
  have filled : computed.isEmpty = false := by simpa using filled
  have above : (byAlias computed).mapM (fun e => do
      return (⟨e.1, ← p.computedTable (byAlias computed) (tablesOf sources) e.2, e.2.dependencies,
        Option.some e.2⟩ : MetricNode (Option Computed))) =
      computed.mapM (p.nodeAbove computed sources) := by
    rw [byAlias, List.mapM_map]
    rfl
  rw [planComputed, filled, keys, byAlias_eq text distinct]
  simp only [← above]
  rfl

/-! ## Missing dependencies -/

theorem checkDependencies_ok (told : ToldApart computed sources.keys) {available : List Value}
    (checked : checkDependencies (byAlias computed) available = .ok ()) :
    ∀ m ∈ computed, ∀ key ∈ m.dependencies, key ∈ available := by
  intro m member key depends
  have inner := Outcome.forM_ok checked _ (List.mem_map_of_mem member)
  have here := Outcome.forM_ok inner key depends
  split at here
  · rename_i present
    exact (Value.contains_iff (told.texts m member key depends)).mp present
  · cases here

theorem checkDependencies_error (told : ToldApart computed sources.keys) {available : List Value}
    {e : Error} (checked : checkDependencies (byAlias computed) available = .error e) :
    ∃ m ∈ computed, ∃ key ∈ m.dependencies, key ∉ available ∧
      e = .refused (.unknownDependency m.aliasName key available) := by
  obtain ⟨entry, listed, failed⟩ := Outcome.forM_error checked
  obtain ⟨m, member, rfl⟩ := List.mem_map.mp listed
  obtain ⟨key, depends, failed⟩ := Outcome.forM_error failed
  refine ⟨m, member, key, depends, ?_⟩
  split at failed
  · cases failed
  · rename_i absent
    rw [Value.contains_iff (told.texts m member key depends)] at absent
    exact ⟨absent, (Except.error.inj failed).symm⟩

/-! ## Nodes -/

def Depicts (p : Planner) (computed : List Computed) (sources : Entries Value MetricSource)
    (nodes : List (MetricNode (Option Computed))) : Prop :=
  ∃ above, computed.mapM (p.nodeAbove computed sources) = .ok above ∧
    nodes = nodesBelow sources ++ above

/-- The node stands for a computed metric. -/
structure Shows (m : Computed) (n : MetricNode (Option Computed)) : Prop where
  key : n.key = m.aliasName
  dependencies : n.dependencies = m.dependencies
  metric : n.metric = some m

variable {n n' : MetricNode (Option Computed)} {m m' : Computed}

/-- A computed metric has a node unless its declared table is refused. -/
theorem nodeAbove_ok (resolves : m.table.isTrue = true → ∃ t, p.registry.named m.table = .ok t) :
    ∃ n, p.nodeAbove computed sources m = .ok n := by
  suffices table : ∃ v, p.computedTable (byAlias computed) (tablesOf sources) m = .ok v by
    obtain ⟨v, table⟩ := table
    exact ⟨_, by rw [nodeAbove, table]; rfl⟩
  rw [computedTable]
  split
  · rename_i declared
    obtain ⟨t, known⟩ := resolves declared
    exact ⟨_, by rw [known]; rfl⟩
  · dsimp only
    split
    · exact ⟨_, rfl⟩
    · exact ⟨_, rfl⟩

theorem shows_of_nodeAbove (made : p.nodeAbove computed sources m = .ok n) : Shows m n := by
  simp only [nodeAbove, Outcome.bind_eq_ok, Outcome.pure_eq_ok] at made
  obtain ⟨table, -, rfl⟩ := made
  exact ⟨rfl, rfl, rfl⟩

section Depicts
variable (depicts : Depicts p computed sources nodes)
include depicts

theorem Depicts.keys : nodes.map (·.key) = sources.keys ++ computed.map (·.aliasName) := by
  obtain ⟨above, made, rfl⟩ := depicts
  have shown := (Outcome.mapM_ok made).imp fun m n => shows_of_nodeAbove
  clear made
  have same : above.map (·.key) = computed.map (·.aliasName) := by
    induction shown with
    | nil => rfl
    | cons here _ ih => rw [List.map_cons, List.map_cons, ih, here.key]
  rw [List.map_append, same, keys_nodesBelow]

theorem Depicts.cases (member : n ∈ nodes) :
    n.key ∈ sources.keys ∧ n.dependencies = [] ∧ n.metric = none ∨ ∃ m ∈ computed, Shows m n := by
  obtain ⟨above, made, rfl⟩ := depicts
  rcases List.mem_append.mp member with below | above
  · obtain ⟨entry, listed, rfl⟩ := List.mem_map.mp below
    obtain ⟨source, known, rfl⟩ := List.mem_map.mp listed
    exact .inl ⟨List.mem_map_of_mem known, rfl, rfl⟩
  · obtain ⟨m, listed, made⟩ := exists_of_mem_right (Outcome.mapM_ok made) above
    exact .inr ⟨m, listed, shows_of_nodeAbove made⟩

theorem Depicts.shown (member : m ∈ computed) : ∃ n ∈ nodes, Shows m n := by
  obtain ⟨above, made, rfl⟩ := depicts
  obtain ⟨n, listed, made⟩ := exists_of_mem_left (Outcome.mapM_ok made) member
  exact ⟨n, List.mem_append_right _ listed, shows_of_nodeAbove made⟩

theorem Depicts.keyed (told : ToldApart computed sources.keys)
    (texts : ∀ key ∈ sources.keys, ∃ name, key = .text name) (distinct : sources.keys.Nodup) :
    MetricNode.Keyed nodes where
  text := by
    intro n member
    rcases depicts.cases member with ⟨known, -⟩ | ⟨m, listed, shows⟩
    · exact texts n.key known
    · exact shows.key ▸ told.text m listed
  texts := by
    intro n member key depends
    rcases depicts.cases member with ⟨-, none, -⟩ | ⟨m, listed, shows⟩
    · rw [none] at depends
      cases depends
    · exact told.texts m listed key (shows.dependencies ▸ depends)
  distinct := by
    rw [depicts.keys, List.nodup_append]
    refine ⟨distinct, told.distinct, ?_⟩
    intro key known other aliased same
    obtain ⟨m, listed, rfl⟩ := List.mem_map.mp aliased
    exact told.apart m listed (same ▸ known)

/-- What depends on another node stands for a computed metric. -/
theorem Depicts.shows_of_needs (needs : MetricNode.Needs nodes n n') :
    ∃ m ∈ computed, Shows m n := by
  rcases depicts.cases needs.source with ⟨-, none, -⟩ | shown
  · have depends := needs.depends
    rw [none] at depends
    cases depends
  · exact shown

theorem Depicts.reads_of_reaches (reaches : MetricNode.Reaches nodes n n')
    (shows : Shows m n) (shows' : Shows m' n') (member : m ∈ computed) (member' : m' ∈ computed) :
    Relation.TransGen (Reads computed) m m' := by
  induction reaches generalizing m' with
  | single needs =>
      exact .single ⟨member, member', by
        rw [← shows'.key, ← shows.dependencies]
        exact needs.depends⟩
  | tail _ needs ih =>
      obtain ⟨between, listed, shown⟩ := depicts.shows_of_needs needs
      exact (ih shown listed).tail ⟨listed, member', by
        rw [← shows'.key, ← shown.dependencies]
        exact needs.depends⟩

theorem Depicts.reaches_of_reads (reads : Relation.TransGen (Reads computed) m m')
    (member : n ∈ nodes) (member' : n' ∈ nodes) (shows : Shows m n) (shows' : Shows m' n') :
    MetricNode.Reaches nodes n n' := by
  induction reads generalizing n' with
  | single reads =>
      exact .single ⟨member, member', by
        rw [shows'.key, shows.dependencies]
        exact reads.depends⟩
  | tail _ reads ih =>
      obtain ⟨between, listed, shown⟩ := depicts.shown reads.source
      exact (ih listed shown).tail ⟨listed, member', by
        rw [shows'.key, shown.dependencies]
        exact reads.depends⟩

/-- A node that depends on itself stands for a computed metric that does. -/
theorem Depicts.reaches_iff :
    (∃ n, MetricNode.Reaches nodes n n) ↔ ∃ m, Relation.TransGen (Reads computed) m m := by
  constructor
  · rintro ⟨n, cycle⟩
    obtain ⟨next, needs, -⟩ := Relation.TransGen.head'_iff.mp cycle
    obtain ⟨m, listed, shows⟩ := depicts.shows_of_needs needs
    exact ⟨m, depicts.reads_of_reaches cycle shows shows listed listed⟩
  · rintro ⟨m, cycle⟩
    obtain ⟨next, reads, -⟩ := Relation.TransGen.head'_iff.mp cycle
    obtain ⟨n, member, shows⟩ := depicts.shown reads.source
    exact ⟨n, depicts.reaches_of_reads cycle member member shows shows⟩

end Depicts

/-! ## Arranging -/

/-- Whether the node could be derived next to its own table. -/
def Local (nodes : List (MetricNode (Option Computed))) (n : MetricNode (Option Computed))
    (b : Bool) : Prop :=
  MetricNode.isLocal nodes (MetricNode.depth nodes) [] n = .ok b

/-- The entry of a node's computed metric in a plan, with the level and the strategy of the node. -/
structure Describes (nodes : List (MetricNode (Option Computed)))
    (n : MetricNode (Option Computed)) (c : ComputedPlan) : Prop where
  key : c.aliasName = n.key
  metric : n.metric = some c.metric
  level : MetricNode.Height nodes n c.level
  strategy : ∃ b, Local nodes n b ∧ c.strategy = MetricNode.strategyOf b

/-- What is put under the keys of nodes can be found under each, if there is something for each. -/
theorem get?_labels {α : Type} {labels : List (Value × α)} (keyed : MetricNode.Keyed nodes)
    {P : MetricNode (Option Computed) → α → Prop}
    (right : ∀ label ∈ labels, ∃ n ∈ nodes, label.1 = n.key ∧ P n label.2)
    (member : n ∈ nodes) (labelled : n.key ∈ labels.map (·.1)) :
    ∃ a, (Entries.ofPairs labels).get? n.key = some a ∧ P n a := by
  have exact : ∀ label ∈ labels, Entries.Exact label.1 := by
    intro label listed
    obtain ⟨m, member, same, -⟩ := right label listed
    obtain ⟨name, text⟩ := keyed.text m member
    rw [same, text]
    exact Entries.exact_text name
  obtain ⟨name, text⟩ := keyed.text n member
  obtain ⟨a, found⟩ := Option.isSome_iff_exists.mp ((Entries.isSome_get?
    (text ▸ Entries.exact_text name)).mpr ((Entries.mem_keys_ofPairs exact).mpr labelled))
  obtain ⟨m, member', same, holds⟩ := right _ (Entries.mem_ofPairs exact
    (Entries.mem_of_get? (text ▸ Entries.exact_text name) found))
  exact ⟨a, found, keyed.unique member member' same ▸ holds⟩

theorem get?_levels (keyed : MetricNode.Keyed nodes)
    {groups : List (Nat × List (MetricNode (Option Computed)))}
    (heights : ∀ group ∈ groups, ∀ n ∈ group.2, n ∈ nodes ∧ MetricNode.Height nodes n group.1)
    (grouped : ∀ n ∈ nodes, ∃ group ∈ groups, n ∈ group.2) (member : n ∈ nodes) :
    ∃ l, (Entries.ofPairs (groups.flatMap fun group =>
      group.2.map fun n => (n.key, group.1))).get? n.key = some l ∧
        MetricNode.Height nodes n l := by
  refine get?_labels keyed ?_ member ?_
  · intro label listed
    obtain ⟨group, known, inside⟩ := List.mem_flatMap.mp listed
    obtain ⟨m, held, rfl⟩ := List.mem_map.mp inside
    exact ⟨m, (heights group known m held).1, rfl, (heights group known m held).2⟩
  · obtain ⟨group, known, held⟩ := grouped n member
    exact List.mem_map.mpr ⟨_, List.mem_flatMap.mpr ⟨group, known, List.mem_map_of_mem held⟩, rfl⟩

theorem get?_strategies (keyed : MetricNode.Keyed nodes)
    {database software : List (MetricNode (Option Computed))}
    (near : ∀ n ∈ database, n ∈ nodes ∧ Local nodes n true)
    (far : ∀ n ∈ software, n ∈ nodes ∧ Local nodes n false)
    (sides : ∀ n ∈ nodes, n ∈ database ∨ n ∈ software) (member : n ∈ nodes) :
    ∃ s, (Entries.ofPairs ((database.map fun n => (n.key, Strategy.database)) ++
      software.map fun n => (n.key, Strategy.software))).get? n.key = some s ∧
        ∃ b, Local nodes n b ∧ s = MetricNode.strategyOf b := by
  refine get?_labels (P := fun n s => ∃ b, Local nodes n b ∧ s = MetricNode.strategyOf b) keyed ?_
    member ?_
  · intro label listed
    rcases List.mem_append.mp listed with listed | listed
    · obtain ⟨m, held, rfl⟩ := List.mem_map.mp listed
      exact ⟨m, (near m held).1, rfl, true, (near m held).2, rfl⟩
    · obtain ⟨m, held, rfl⟩ := List.mem_map.mp listed
      exact ⟨m, (far m held).1, rfl, false, (far m held).2, rfl⟩
  · rw [List.map_append, List.mem_append, List.map_map, List.map_map]
    exact (sides n member).imp (fun near => List.mem_map.mpr ⟨n, near, rfl⟩)
      fun far => List.mem_map.mpr ⟨n, far, rfl⟩

/-- The entries of the nodes with a metric, in an order of all nodes in which each comes after those
that it depends on. -/
def Arranged (nodes : List (MetricNode (Option Computed))) (plans : List ComputedPlan) : Prop :=
  ∃ done entry?, MetricNode.Ordered nodes done ∧ (∀ n ∈ nodes, n ∈ done.values) ∧
    plans = done.values.filterMap entry? ∧
    ∀ n ∈ nodes, n.metric = none ∧ entry? n = none ∨ ∃ c, entry? n = some c ∧ Describes nodes n c

/-- Without cycles all metrics can be arranged. -/
theorem arrange_ok (keyed : MetricNode.Keyed nodes)
    (acyclic : ∀ n, ¬ MetricNode.Reaches nodes n n) :
    ∃ plans, arrange nodes = .ok plans ∧ Arranged nodes plans := by
  obtain ⟨ordered, resolved⟩ := (MetricNode.resolve_acyclic keyed).mpr acyclic
  obtain ⟨done, settled, rfl, all⟩ := MetricNode.resolve_ok keyed resolved
  obtain ⟨groups, leveled, heights, grouped⟩ := MetricNode.levels_ok keyed acyclic
  obtain ⟨database, software, split, near, far, sides⟩ := MetricNode.split_ok keyed acyclic
  refine ⟨_, by rw [arrange, resolved, leveled, split]; rfl, done, _, settled, all, rfl, ?_⟩
  intro n member
  cases shown : n.metric with
  | none => exact .inl ⟨rfl, rfl⟩
  | some m =>
      obtain ⟨l, known, height⟩ := get?_levels keyed heights grouped member
      obtain ⟨s, told, b, found, same⟩ := get?_strategies keyed near far sides member
      refine .inr ⟨⟨n.key, m, l, s⟩, ?_, rfl, shown, height, b, found, same⟩
      rw [Option.map_some, known, told]
      rfl

theorem arrange_error (keyed : MetricNode.Keyed nodes) {e : Error}
    (run : arrange nodes = .error e) : MetricNode.Circular nodes e := by
  by_cases acyclic : ∀ n, ¬ MetricNode.Reaches nodes n n
  · obtain ⟨plans, arranged, -⟩ := arrange_ok keyed acyclic
    rw [arranged] at run
    cases run
  · rw [arrange] at run
    rcases Outcome.bind_eq_error.mp run with failed | ⟨ordered, resolved, -⟩
    · exact MetricNode.resolve_error keyed failed
    · exact absurd ((MetricNode.resolve_acyclic keyed).mp ⟨ordered, resolved⟩) acyclic

section Arranged
variable {plans : List ComputedPlan} (arranged : Arranged nodes plans)
include arranged

theorem Arranged.of_mem {c : ComputedPlan} (listed : c ∈ plans) :
    ∃ n ∈ nodes, Describes nodes n c := by
  obtain ⟨done, entry?, ordered, -, rfl, entries⟩ := arranged
  obtain ⟨n, known, found⟩ := List.mem_filterMap.mp listed
  obtain ⟨e, held, rfl⟩ := List.mem_map.mp known
  have member := (ordered.keyed e held).2
  refine ⟨e.2, member, ?_⟩
  rcases entries e.2 member with ⟨-, none⟩ | ⟨c', some, describes⟩
  · rw [none] at found
    cases found
  · rw [some, Option.some.injEq] at found
    exact found ▸ describes

theorem Arranged.mem {n : MetricNode (Option Computed)} {m : Computed} (member : n ∈ nodes)
    (shown : n.metric = some m) : ∃ c ∈ plans, Describes nodes n c := by
  obtain ⟨done, entry?, -, all, rfl, entries⟩ := arranged
  rcases entries n member with ⟨none, -⟩ | ⟨c, some, describes⟩
  · rw [none] at shown
    cases shown
  · exact ⟨c, List.mem_filterMap.mpr ⟨n, all n member, some⟩, describes⟩

theorem Arranged.nodup : (plans.map (·.aliasName)).Nodup := by
  obtain ⟨done, entry?, ordered, -, rfl, entries⟩ := arranged
  have distinct := ordered.nodup
  have named : ∀ e ∈ done, ∀ c, entry? e.2 = some c → c.aliasName = e.1 := by
    intro e held c found
    obtain ⟨key, member⟩ := ordered.keyed e held
    rcases entries e.2 member with ⟨-, none⟩ | ⟨c', some, describes⟩
    · rw [none] at found
      cases found
    · rw [some, Option.some.injEq] at found
      rw [← found, describes.key, key]
  rw [Entries.keys, List.Nodup, List.pairwise_map] at distinct
  rw [Entries.values, List.filterMap_map, List.Nodup, List.pairwise_map, List.pairwise_filterMap]
  refine distinct.imp_of_mem fun {e e'} held held' apart c found c' found' => ?_
  rw [named e held c found, named e' held' c' found']
  exact apart

/-- The nodes that the metric of an entry depends on have no metric, or earlier entries. -/
theorem Arranged.before (keyed : MetricNode.Keyed nodes) {before after : List ComputedPlan}
    {c : ComputedPlan} (whole : plans = before ++ c :: after) :
    ∃ m ∈ nodes, Describes nodes m c ∧ ∀ n, MetricNode.Needs nodes m n →
      n.metric = none ∨ ∃ c' ∈ before, Describes nodes n c' := by
  obtain ⟨done, entry?, ordered, -, rfl, entries⟩ := arranged
  obtain ⟨first, rest, split, rfl, later⟩ := List.filterMap_eq_append_iff.mp whole
  obtain ⟨skipped, m, last, rfl, none, found, -⟩ := List.filterMap_eq_cons_iff.mp later
  rw [← List.append_assoc] at split
  obtain ⟨past, future, rfl, values, rest⟩ := List.map_eq_append_iff.mp split
  obtain ⟨entry, future, rfl, rfl, -⟩ := List.map_eq_cons_iff.mp rest
  have member := (ordered.keyed entry (by simp)).2
  refine ⟨entry.2, member, ?_, fun n needs => ?_⟩
  · rcases entries entry.2 member with ⟨-, absent⟩ | ⟨c', some, describes⟩
    · rw [absent] at found
      cases found
    · rw [some, Option.some.injEq] at found
      exact found ▸ describes
  · obtain ⟨e, held, same⟩ := List.mem_map.mp (ordered.split rfl needs)
    obtain ⟨key, known⟩ := ordered.keyed e (List.mem_append_left _ held)
    obtain rfl := keyed.unique known needs.target (key.symm.trans same)
    rcases entries e.2 known with ⟨absent, -⟩ | ⟨c', some, describes⟩
    · exact .inl absent
    · refine .inr ⟨c', ?_, describes⟩
      have inside : e.2 ∈ first ++ skipped := values ▸ List.mem_map_of_mem held
      rcases List.mem_append.mp inside with early | skip
      · exact List.mem_filterMap.mpr ⟨e.2, early, some⟩
      · rw [none e.2 skip] at some
        cases some

end Arranged

/-! ## Planning -/

section Planning
variable (told : ToldApart computed sources.keys)
  (texts : ∀ key ∈ sources.keys, ∃ name, key = .text name) (distinct : sources.keys.Nodup)
include told texts distinct

theorem planComputed_eq : p.planComputed computed sources = (do
    checkDependencies (byAlias computed) (sources.keys ++ (byAlias computed).keys)
    let above ← computed.mapM (p.nodeAbove computed sources)
    arrange (nodesBelow sources ++ above)) := by
  cases computed with
  | cons m rest => exact planComputed_filled told.text told.distinct (List.cons_ne_nil m rest)
  | nil =>
      -- Aggregations alone have no entries.
      have depicts : Depicts p [] sources (nodesBelow sources ++ []) := ⟨[], rfl, rfl⟩
      have acyclic : ∀ n, ¬ MetricNode.Reaches (nodesBelow sources ++ []) n n := by
        intro n cycle
        obtain ⟨next, needs, -⟩ := Relation.TransGen.head'_iff.mp cycle
        obtain ⟨m, listed, -⟩ := depicts.shows_of_needs needs
        cases listed
      obtain ⟨plans, arranges, arranged⟩ :=
        arrange_ok (depicts.keyed told texts distinct) acyclic
      have none : plans = [] := by
        rw [List.eq_nil_iff_forall_not_mem]
        intro c listed
        obtain ⟨n, member, describes⟩ := arranged.of_mem listed
        rcases depicts.cases member with ⟨-, -, none⟩ | ⟨m, listed, -⟩
        · rw [describes.metric] at none
          cases none
        · cases listed
      exact (none ▸ arranges).symm

/-- Planned metrics have all their dependencies, do not depend on themselves, and are arranged. -/
theorem planComputed_ok {plans : List ComputedPlan}
    (run : p.planComputed computed sources = .ok plans) :
    (∀ m ∈ computed, ∀ key ∈ m.dependencies, key ∈ sources.keys ++ computed.map (·.aliasName)) ∧
      (∀ m, ¬ Relation.TransGen (Reads computed) m m) ∧
      ∃ nodes, Depicts p computed sources nodes ∧ Arranged nodes plans := by
  rw [planComputed_eq told texts distinct] at run
  simp only [Outcome.bind_eq_ok] at run
  obtain ⟨⟨⟩, checked, above, made, arranges⟩ := run
  have depicts : Depicts p computed sources (nodesBelow sources ++ above) := ⟨above, made, rfl⟩
  have keyed := depicts.keyed told texts distinct
  have acyclic : ∀ n, ¬ MetricNode.Reaches (nodesBelow sources ++ above) n n := by
    obtain ⟨ordered, resolved, -⟩ := Outcome.bind_eq_ok.mp arranges
    exact (MetricNode.resolve_acyclic keyed).mp ⟨ordered, resolved⟩
  refine ⟨checkDependencies_ok told (keys_byAlias computed ▸ checked), fun m cycle => ?_,
    _, depicts, ?_⟩
  · obtain ⟨n, cycle⟩ := depicts.reaches_iff.mpr ⟨m, cycle⟩
    exact acyclic n cycle
  · obtain ⟨plans', arranges', arranged⟩ := arrange_ok keyed acyclic
    obtain rfl := Except.ok.inj (arranges.symm.trans arranges')
    exact arranged

/-- Planning is refused for a dependency that is not there, else for a metric that depends on
itself. -/
theorem planComputed_error {e : Error} (run : p.planComputed computed sources = .error e)
    (resolves : ∀ m ∈ computed, m.table.isTrue = true → ∃ t, p.registry.named m.table = .ok t) :
    (∃ m ∈ computed, ∃ key ∈ m.dependencies, key ∉ sources.keys ++ computed.map (·.aliasName) ∧
      e = .refused (.unknownDependency m.aliasName key
        (sources.keys ++ computed.map (·.aliasName)))) ∨
    (∀ m ∈ computed, ∀ key ∈ m.dependencies, key ∈ sources.keys ++ computed.map (·.aliasName)) ∧
      ∃ m, Relation.TransGen (Reads computed) m m ∧
        e = .refused (.circularDependency m.aliasName) := by
  rw [planComputed_eq told texts distinct, keys_byAlias] at run
  rcases Outcome.bind_eq_error.mp run with failed | ⟨⟨⟩, checked, run⟩
  · exact .inl (checkDependencies_error told failed)
  · refine .inr ⟨checkDependencies_ok told checked, ?_⟩
    rcases Outcome.bind_eq_error.mp run with failed | ⟨above, made, failed⟩
    · obtain ⟨m, member, failed⟩ := Outcome.mapM_error failed
      obtain ⟨n, made⟩ := nodeAbove_ok (resolves m member)
      rw [made] at failed
      cases failed
    · have depicts : Depicts p computed sources (nodesBelow sources ++ above) := ⟨above, made, rfl⟩
      obtain ⟨n, cycle, rfl⟩ := arrange_error (depicts.keyed told texts distinct) failed
      obtain ⟨next, needs, -⟩ := Relation.TransGen.head'_iff.mp cycle
      obtain ⟨m, listed, shows⟩ := depicts.shows_of_needs needs
      rw [shows.key]
      exact ⟨m, depicts.reads_of_reaches cycle shows shows listed listed, rfl⟩

end Planning

end Planner
end Datacube
