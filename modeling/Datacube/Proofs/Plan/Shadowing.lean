import Datacube.Proofs.Plan.Reordering

/-!
# Computed metrics under aliases of aggregations

Aggregations and computed metrics are nodes of one graph, and of nodes with one key the order of
evaluation keeps the first. So a plan lists each computed metric once whose alias no aggregation of
the request has, and loses the others without an error.
-/

namespace Datacube

namespace MetricNode
variable {μ : Type} {nodes below above ordered : List (MetricNode μ)} {n : MetricNode μ}
  {fuel : Nat} {done : Entries Value (MetricNode μ)}

/-! ## Nodes that depend on nothing -/

theorem visit_free (text : ∃ name, n.key = .text name) (free : n.dependencies = [])
    (new : n.key ∉ done.keys) :
    visit nodes (fuel + 1) [] done n = .ok (done ++ [(n.key, n)]) := by
  obtain ⟨name, named⟩ := text
  have exact : Entries.Exact n.key := named ▸ Entries.exact_text name
  rw [visit, if_neg (by rwa [Entries.has_iff exact]), if_neg (by simp), free]
  exact congrArg Except.ok (Entries.put_new exact new)

theorem visitAll_free (text : ∀ n ∈ below, ∃ name, n.key = .text name)
    (free : ∀ n ∈ below, n.dependencies = [])
    (distinct : (done.keys ++ below.map (·.key)).Nodup) :
    below.foldlM (visit nodes (fuel + 1) []) done =
      .ok (done ++ below.map fun n => (n.key, n)) := by
  induction below generalizing done with
  | nil => exact congrArg Except.ok (List.append_nil done).symm
  | cons n rest ih =>
      have new : n.key ∉ done.keys := fun known =>
        (List.nodup_append.mp distinct).2.2 n.key known n.key List.mem_cons_self rfl
      have later : ((done ++ [(n.key, n)]).keys ++ rest.map (·.key)).Nodup := by
        rw [Entries.keys_append_one, List.append_assoc]
        exact distinct
      rw [List.foldlM_cons, visit_free (text n List.mem_cons_self) (free n List.mem_cons_self) new]
      refine (ih (fun m member => text m (List.mem_cons_of_mem n member))
        (fun m member => free m (List.mem_cons_of_mem n member)) later).trans ?_
      rw [List.append_assoc]
      rfl

/-- Nodes in front that depend on nothing are kept, and every key is one of the order. -/
theorem resolve_free (text : ∀ n ∈ below ++ above, ∃ name, n.key = .text name)
    (free : ∀ n ∈ below, n.dependencies = []) (distinct : (below.map (·.key)).Nodup)
    (run : resolve (below ++ above) = .ok ordered) :
    ∃ done, Ordered (below ++ above) done ∧ ordered = done.values ∧
      (∀ n ∈ below, (n.key, n) ∈ done) ∧ ∀ n ∈ below ++ above, n.key ∈ done.keys := by
  simp only [resolve, Outcome.bind_eq_ok, Outcome.pure_eq_ok] at run
  obtain ⟨_, -, done, run, rfl⟩ := run
  rw [List.foldlM_append] at run
  obtain ⟨first, started, run⟩ := Outcome.bind_eq_ok.mp run
  obtain ⟨ordered, -, kept⟩ :=
    visitEach_ok text (List.subset_append_left below above) .nil started
  obtain ⟨ordered, start, holds⟩ :=
    visitEach_ok text (List.subset_append_right below above) ordered run
  rw [depth, visitAll_free (fun n member => text n (List.mem_append_left _ member)) free
    (by simpa using distinct), Except.ok.injEq] at started
  refine ⟨done, ordered, rfl, fun n member => start.subset ?_, fun n member => ?_⟩
  · rw [← started]
    exact List.mem_map_of_mem (f := fun n => (n.key, n)) member
  · rcases List.mem_append.mp member with member | member
    · exact List.map_subset _ start.subset (kept n member)
    · exact holds n member

end MetricNode

namespace Planner
variable {p : Planner} {metrics : List RequestedMetric} {dimensions : List Dimension}
  {q : QueryPlan} {computed : List Computed} {sources : Entries Value MetricSource}
  {nodes : List (MetricNode (Option Computed))} {plans : List ComputedPlan}

/-! ## The metrics that are kept -/

/-- The entries of a plan are those of the ordered nodes that have a metric. -/
theorem arrange_entries (run : arrange nodes = .ok plans) :
    ∃ ordered, MetricNode.resolve nodes = .ok ordered ∧
      plans.map (fun c => (c.aliasName, c.metric)) =
        ordered.filterMap fun n => n.metric.map (n.key, ·) := by
  simp only [arrange, Outcome.bind_eq_ok, Outcome.pure_eq_ok] at run
  obtain ⟨ordered, resolved, _, -, _, -, rfl⟩ := run
  refine ⟨ordered, resolved, ?_⟩
  rw [List.map_filterMap]
  refine congrArg (ordered.filterMap ·) (funext fun n => ?_)
  rw [Option.map_map]
  rfl

theorem unknown_iff {α : Type} {entries : Entries Value α} {key : Value}
    (text : ∃ name, key = .text name) : (!entries.has key) = true ↔ key ∉ entries.keys := by
  obtain ⟨name, rfl⟩ := text
  rw [Bool.not_eq_true', ← Bool.not_eq_true, Entries.has_iff (Entries.exact_text name)]

section Kept
variable (text : ∀ m ∈ computed, ∃ name, m.aliasName = .text name)
  (distinct : (computed.map (·.aliasName)).Nodup)
  (texts : ∀ key ∈ sources.keys, ∃ name, key = .text name) (single : sources.keys.Nodup)
include text distinct texts single

/-- In the order of the nodes of a request, a computed metric stands under its alias unless a source
stands there. -/
theorem Depicts.resolved {ordered : List (MetricNode (Option Computed))}
    (depicts : Depicts p computed sources nodes) (run : MetricNode.resolve nodes = .ok ordered) :
    ∃ done, MetricNode.Ordered nodes done ∧ ordered = done.values ∧ ∀ key m,
      (∃ e ∈ done, e.1 = key ∧ e.2.metric = some m) ↔
        m ∈ computed ∧ m.aliasName = key ∧ key ∉ sources.keys := by
  have whole := depicts
  obtain ⟨above, -, rfl⟩ := whole
  have named : ∀ n ∈ nodesBelow sources ++ above, ∃ name, n.key = .text name := by
    intro n member
    rcases depicts.cases member with ⟨known, -⟩ | ⟨m, listed, shows⟩
    · exact texts n.key known
    · exact shows.key ▸ text m listed
  have below : (nodesBelow sources).map (·.key) = sources.keys := keys_nodesBelow
  have free : ∀ n ∈ nodesBelow sources, n.dependencies = [] ∧ n.metric = none := by
    intro n member
    obtain ⟨_, -, rfl⟩ := List.mem_map.mp member
    exact ⟨rfl, rfl⟩
  obtain ⟨done, ordered, rfl, first, all⟩ :=
    MetricNode.resolve_free named (fun n member => (free n member).1) (below ▸ single) run
  refine ⟨done, ordered, rfl, fun key m => ⟨?_, ?_⟩⟩
  · rintro ⟨e, held, rfl, metric⟩
    obtain ⟨key, member⟩ := ordered.keyed e held
    rcases depicts.cases member with ⟨-, -, none⟩ | ⟨m', listed, shows⟩
    · rw [none] at metric
      cases metric
    · obtain rfl := Option.some.inj (shows.metric.symm.trans metric)
      refine ⟨listed, (key.trans shows.key).symm, fun known => ?_⟩
      -- The node of a source came first under its key, and it has no metric.
      obtain ⟨n, member, same⟩ := List.mem_map.mp (below ▸ known)
      have equal := List.inj_on_of_nodup_map ordered.nodup held (first n member) same.symm
      rw [equal, (free n member).2] at metric
      cases metric
  · rintro ⟨listed, rfl, unknown⟩
    obtain ⟨n, member, shows⟩ := depicts.shown listed
    obtain ⟨e, held, same⟩ := List.mem_map.mp (all n member)
    obtain ⟨key, member⟩ := ordered.keyed e held
    rcases depicts.cases member with ⟨known, -⟩ | ⟨m', listed', shows'⟩
    · rw [← key, same, shows.key] at known
      exact absurd known unknown
    · have equal : m'.aliasName = m.aliasName := by
        rw [← shows'.key, ← key, same, shows.key]
      obtain rfl := List.inj_on_of_nodup_map distinct listed' listed equal
      exact ⟨e, held, key.trans shows'.key, shows'.metric⟩

/-- Computed metrics are listed under their aliases, each once unless a source has its alias. -/
theorem planComputed_kept (run : p.planComputed computed sources = .ok plans) :
    (∀ c ∈ plans, c.aliasName = c.metric.aliasName) ∧
      (plans.map (·.metric)).Perm (computed.filter fun m => !sources.has m.aliasName) := by
  rcases eq_or_ne computed [] with rfl | filled
  · obtain rfl : plans = [] := (Except.ok.inj run).symm
    exact ⟨nofun, .nil⟩
  rw [planComputed_filled text distinct filled] at run
  simp only [Outcome.bind_eq_ok] at run
  obtain ⟨⟨⟩, -, above, made, arranges⟩ := run
  obtain ⟨ordered, resolved, entries⟩ := arrange_entries arranges
  obtain ⟨done, ordered, rfl, kept⟩ := Depicts.resolved text distinct texts single
    (⟨above, made, rfl⟩ : Depicts p computed sources _) resolved
  replace entries : plans.map (fun c => (c.aliasName, c.metric)) =
      done.filterMap fun e => e.2.metric.map (e.1, ·) := by
    rw [entries, Entries.values, List.filterMap_map]
    refine List.filterMap_congr fun e held => ?_
    rw [Function.comp_apply, (ordered.keyed e held).1]
  have listed : ∀ key m, (∃ c ∈ plans, c.aliasName = key ∧ c.metric = m) ↔
      m ∈ computed ∧ m.aliasName = key ∧ key ∉ sources.keys := by
    intro key m
    rw [← kept]
    simpa [Prod.ext_iff] using congrArg ((key, m) ∈ ·) entries
  have named : ∀ c ∈ plans, c.aliasName = c.metric.aliasName := fun c inside =>
    ((listed _ _).mp ⟨c, inside, rfl, rfl⟩).2.1.symm
  have aliases : (plans.map (·.aliasName)).Nodup := by
    have names : plans.map (·.aliasName) = Entries.keys (done.filterMap fun e =>
        e.2.metric.map (e.1, ·)) := by
      rw [← entries, Entries.keys, List.map_map]
      rfl
    exact names ▸ ordered.nodup.sublist (Entries.keys_filterMap done (·.metric))
  refine ⟨named, ?_⟩
  rw [List.perm_ext_iff_of_nodup (nodup_metrics named aliases) ((distinct.of_map _).filter _)]
  intro m
  rw [List.mem_map, List.mem_filter]
  constructor
  · rintro ⟨c, inside, rfl⟩
    obtain ⟨requested, same, unknown⟩ := (listed _ _).mp ⟨c, inside, rfl, rfl⟩
    exact ⟨requested, (unknown_iff (text _ requested)).mpr (same ▸ unknown)⟩
  · rintro ⟨requested, unknown⟩
    rw [unknown_iff (text m requested)] at unknown
    obtain ⟨c, inside, -, same⟩ := (listed _ _).mpr ⟨requested, rfl, unknown⟩
    exact ⟨c, inside, same⟩

end Kept

/-! ## Planning -/

/-- A plan lists the computed metrics of the request under their aliases, once each, except those
whose alias an aggregation has: so it lists all of them exactly when no aggregation has such an
alias. -/
theorem plan_lists_computed_iff (planned : p.plan metrics dimensions = .ok q)
    (texts : ∀ a ∈ aggregationsOf metrics, ∃ name, a.aliasName = .text name)
    (text : ∀ m ∈ computedOf metrics, ∃ name, m.aliasName = .text name)
    (distinct : ((computedOf metrics).map (·.aliasName)).Nodup) :
    (∀ c ∈ q.computed, c.aliasName = c.metric.aliasName) ∧
    (q.computed.map (·.metric)).Perm
      ((computedOf metrics).filter fun m => !q.aggregations.has m.aliasName) ∧
    ((q.computed.map (·.metric)).Perm (computedOf metrics) ↔
      ∀ m ∈ computedOf metrics, m.aliasName ∉ q.aggregations.keys) := by
  obtain ⟨r, resolved, computed, aggregations⟩ := plan_computed planned
  obtain ⟨first, rest, asked, -⟩ := resolve_ok resolved
  have names : ∀ pair ∈ first :: rest, ∃ name, pair.2.aliasName = .text name :=
    fun pair member => texts pair.2 (aggregation_of_asked asked member)
  rw [resolve_asked names asked (List.cons_ne_nil first rest)] at resolved
  simp only [Outcome.bind_eq_ok, Outcome.pure_eq_ok] at resolved
  obtain ⟨plans, run, _, -, rfl⟩ := resolved
  obtain ⟨named, kept⟩ := planComputed_kept text distinct (texts_sourcesOf names)
    (nodup_keys_sourcesOf names) run
  have same : ∀ m ∈ computedOf metrics, (sourcesOf (first :: rest)).has m.aliasName =
      q.aggregations.has m.aliasName := by
    intro m requested
    obtain ⟨name, told⟩ := text m requested
    rw [told, Bool.eq_iff_iff, Entries.has_iff (Entries.exact_text name),
      Entries.has_iff (Entries.exact_text name), aggregations, sourcesOf,
      mem_keys_aliases _ names, mem_keys_aliases _ names]
  rw [computed]
  rw [List.filter_congr fun m requested => congrArg (!·) (same m requested)] at kept
  refine ⟨named, kept, fun all m requested => ?_, fun apart => ?_⟩
  · have listed := (kept.symm.trans all).mem_iff.mpr requested
    exact (unknown_iff (text m requested)).mp (List.mem_filter.mp listed).2
  · have none : (computedOf metrics).filter (!q.aggregations.has ·.aliasName) =
        computedOf metrics := List.filter_eq_self.mpr fun m requested =>
      (unknown_iff (text m requested)).mpr (apart m requested)
    exact none ▸ kept

/-- The targets, and a computed metric under the alias of the revenue. -/
def shadowed : List Computed :=
  targets ++ [⟨"past * 2", .combine .multiply (.metric "past") (.number "2"), [], "revenue", .null,
    .null, .int 2, false, .null⟩]

theorem shop_plans_shadowed : ∃ q, shop.plan (revenue ++ shadowed.map .computed) [] = .ok q ∧
    q.computed.length = 2 := by
  have built : (shop.plan (revenue ++ shadowed.map .computed) []).toOption.any
      (·.computed.length == 2) := by decide +kernel
  obtain ⟨q, planned, two⟩ := Outcome.any_ok built
  exact ⟨q, planned, beq_iff_eq.mp two⟩

theorem shop_lists_targets : ∃ q, shop.plan (revenue ++ shadowed.map .computed) [] = .ok q ∧
    q.computed ≠ [] ∧ (q.computed.map (·.metric)).Perm
      (shadowed.filter fun m => !q.aggregations.has m.aliasName) := by
  obtain ⟨q, planned, two⟩ := shop_plans_shadowed
  refine ⟨q, planned, List.ne_nil_of_length_pos (by omega),
    (plan_lists_computed_iff planned ?_ ?_ ?_).2.1⟩ <;>
    simp [revenue, shadowed, targets, aggregationsOf, computedOf, Aggregation.aliasName,
      Computed.aliasName, Value.orElse, Value.isTrue]

/-- The request for these three metrics, whose aliases differ, is planned with two of them. -/
theorem shop_loses_shadowed : (shadowed.map (·.aliasName)).Nodup ∧
    ∃ q, shop.plan (revenue ++ shadowed.map .computed) [] = .ok q ∧
      ¬ (q.computed.map (·.metric)).Perm shadowed := by
  obtain ⟨q, planned, two⟩ := shop_plans_shadowed
  refine ⟨?_, q, planned, fun all => ?_⟩
  · simp [shadowed, targets, Computed.aliasName, Value.orElse, Value.isTrue]
  · have three := all.length_eq
    rw [List.length_map, two] at three
    cases three

end Planner
end Datacube
