import Datacube.Plan.Dependency
import Datacube.Proofs.Merge.Schedule
import Mathlib.Data.List.Perm.Subperm
import Mathlib.Logic.Relation

/-!
# Orders and cycles of metrics

Metrics are put in an order in which each comes after those it depends on, or one that depends on
itself is found. The search follows a chain of different metrics and never runs out of depth, so it
refuses nothing but cycles.
-/

namespace Datacube.MetricNode
variable {μ : Type} {nodes : List (MetricNode μ)} {n m : MetricNode μ} {fuel : Nat}
  {active : List Value} {done done' : Entries Value (MetricNode μ)} {key : Value} {e : Error}

/-- Nodes with texts of their own as keys, and with texts as dependencies. -/
structure Keyed (nodes : List (MetricNode μ)) : Prop where
  text : ∀ n ∈ nodes, ∃ name, n.key = .text name
  texts : ∀ n ∈ nodes, ∀ key ∈ n.dependencies, ∃ name, key = .text name
  distinct : (nodes.map (·.key)).Nodup

/-- A node depends on another one of the list. -/
structure Needs (nodes : List (MetricNode μ)) (n m : MetricNode μ) : Prop where
  source : n ∈ nodes
  target : m ∈ nodes
  depends : m.key ∈ n.dependencies

/-- A node depends on another one, directly or not. -/
def Reaches (nodes : List (MetricNode μ)) : MetricNode μ → MetricNode μ → Prop :=
  Relation.TransGen (Needs nodes)

theorem Keyed.unique (keyed : Keyed nodes) (member : n ∈ nodes) (member' : m ∈ nodes)
    (same : n.key = m.key) : n = m :=
  List.inj_on_of_nodup_map keyed.distinct member member' same

theorem Keyed.perm {nodes' : List (MetricNode μ)} (keyed : Keyed nodes)
    (moved : nodes.Perm nodes') : Keyed nodes' where
  text := fun n member => keyed.text n (moved.mem_iff.mpr member)
  texts := fun n member => keyed.texts n (moved.mem_iff.mpr member)
  distinct := (moved.map (·.key)).nodup_iff.mp keyed.distinct

/-- A text names the node with that key, if there is one. -/
theorem Keyed.named? (keyed : Keyed nodes) (text : ∃ name, key = .text name) :
    ∃ found, named? nodes key = .ok found ∧ ∀ m, found = some m ↔ m ∈ nodes ∧ m.key = key := by
  obtain ⟨name, rfl⟩ := text
  have reversed := keyed.perm nodes.reverse_perm.symm
  refine ⟨_, if_pos rfl, fun m => ?_⟩
  rw [Value.find?_text reversed.distinct, List.mem_reverse]

theorem checkKeys_ok (keyed : Keyed nodes) : checkKeys nodes = .ok () := by
  refine if_pos (List.all_eq_true.mpr fun n member => ?_)
  obtain ⟨name, text⟩ := keyed.text n member
  rw [text]
  rfl

/-! ## Chains of metrics that are being followed -/

/-- The active keys are those of a chain of different nodes that leads to the present one, and there
is depth left for all others. -/
structure Descent (nodes : List (MetricNode μ)) (fuel : Nat) (active : List Value)
    (n : MetricNode μ) : Prop where
  member : n ∈ nodes
  distinct : active.Nodup
  leads : ∀ key ∈ active, ∃ m ∈ nodes, m.key = key ∧ Reaches nodes m n
  room : nodes.length + 1 ≤ active.length + fuel

theorem Descent.start (member : n ∈ nodes) : Descent nodes (depth nodes) [] n where
  member := member
  distinct := List.nodup_nil
  leads := nofun
  room := by simp [depth]

theorem Descent.positive (descent : Descent nodes fuel active n) : fuel ≠ 0 := by
  rintro rfl
  have inside : active ⊆ nodes.map (·.key) := by
    intro key listed
    obtain ⟨m, member, rfl, -⟩ := descent.leads key listed
    exact List.mem_map_of_mem member
  have short := (List.subperm_of_subset descent.distinct inside).length_le
  rw [List.length_map] at short
  have room := descent.room
  omega

theorem Descent.cycle (keyed : Keyed nodes) (descent : Descent nodes fuel active n)
    (again : n.key ∈ active) : Reaches nodes n n := by
  obtain ⟨m, member, same, leads⟩ := descent.leads n.key again
  rwa [keyed.unique member descent.member same] at leads

theorem Descent.next (descent : Descent nodes (fuel + 1) active n) (new : n.key ∉ active)
    (needs : Needs nodes n m) : Descent nodes fuel (n.key :: active) m where
  member := needs.target
  distinct := List.nodup_cons.mpr ⟨new, descent.distinct⟩
  leads := by
    intro key listed
    rcases List.mem_cons.mp listed with rfl | listed
    · exact ⟨n, descent.member, rfl, .single needs⟩
    · obtain ⟨m', member, same, leads⟩ := descent.leads key listed
      exact ⟨m', member, same, leads.tail needs⟩
  room := by
    have room := descent.room
    rw [List.length_cons]
    omega

/-- The error is the refusal of a node that depends on itself. -/
def Circular (nodes : List (MetricNode μ)) (e : Error) : Prop :=
  ∃ n, Reaches nodes n n ∧ e = .refused (.circularDependency n.key)

theorem Descent.circular (keyed : Keyed nodes) (descent : Descent nodes fuel active n)
    (again : active.contains n.key = true) :
    Circular nodes (.refused (.circularDependency n.key)) :=
  ⟨n, descent.cycle keyed ((Value.contains_iff (keyed.text n descent.member)).mp again), rfl⟩

/-! ## Orders -/

/-- Nodes under their keys, each after the nodes that it depends on. -/
inductive Ordered (nodes : List (MetricNode μ)) : Entries Value (MetricNode μ) → Prop where
  | nil : Ordered nodes []
  | snoc {done : Entries Value (MetricNode μ)} {n : MetricNode μ} (ordered : Ordered nodes done)
    (member : n ∈ nodes) (new : n.key ∉ done.keys)
    (settled : ∀ m, Needs nodes n m → m.key ∈ done.keys) : Ordered nodes (done ++ [(n.key, n)])

theorem Ordered.keyed (ordered : Ordered nodes done) :
    ∀ e ∈ done, e.1 = e.2.key ∧ e.2 ∈ nodes := by
  induction ordered with
  | nil => simp
  | snoc ordered member new settled ih =>
      intro e listed
      rcases List.mem_append.mp listed with before | last
      · exact ih e before
      · rw [List.mem_singleton.mp last]
        exact ⟨rfl, member⟩

theorem Ordered.nodup (ordered : Ordered nodes done) : done.keys.Nodup := by
  induction ordered with
  | nil => exact List.nodup_nil
  | snoc ordered member new settled ih =>
      rw [Entries.keys_append_one, ← List.concat_eq_append]
      exact ih.concat new

/-- What a node depends on comes before it. -/
theorem Ordered.split (ordered : Ordered nodes done) {before after : Entries Value (MetricNode μ)}
    {entry : Value × MetricNode μ} (whole : done = before ++ entry :: after)
    (needs : Needs nodes entry.2 m) : m.key ∈ before.keys := by
  induction ordered generalizing after with
  | nil => simp at whole
  | @snoc done n ordered member new settled ih =>
      rcases List.eq_nil_or_concat after with rfl | ⟨rest, last, rfl⟩
      · obtain ⟨rfl, same⟩ := List.append_inj' whole rfl
        obtain rfl := List.singleton_inj.mp same
        exact settled m needs
      · rw [List.concat_eq_append, ← List.cons_append, ← List.append_assoc] at whole
        exact ih (List.append_inj' whole rfl).1

/-- What ordered nodes depend on is ordered too. -/
theorem Ordered.reaches (keyed : Keyed nodes) (ordered : Ordered nodes done)
    (member : n ∈ done.values) (reaches : Reaches nodes n m) : m ∈ done.values := by
  have step : ∀ {n m}, n ∈ done.values → Needs nodes n m → m ∈ done.values := by
    intro n m member needs
    obtain ⟨entry, listed, rfl⟩ := List.mem_map.mp member
    obtain ⟨before, after, whole⟩ := List.append_of_mem listed
    obtain ⟨found, inside, same⟩ := List.mem_map.mp (ordered.split whole needs)
    have held : found ∈ done := whole ▸ List.mem_append_left _ inside
    obtain ⟨key, known⟩ := ordered.keyed found held
    rw [← keyed.unique known needs.target (key.symm.trans same)]
    exact List.mem_map_of_mem held
  induction reaches with
  | single needs => exact step member needs
  | tail _ needs ih => exact step ih needs

theorem Ordered.acyclic (keyed : Keyed nodes) (ordered : Ordered nodes done) :
    ∀ n ∈ done.values, ¬ Reaches nodes n n := by
  induction ordered with
  | nil => simp [Entries.values]
  | @snoc done n ordered member new settled ih =>
      intro x listed cycle
      rw [Entries.values, List.map_append, List.mem_append] at listed
      rcases listed with before | last
      · exact ih x before cycle
      · obtain rfl := List.mem_singleton.mp last
        obtain ⟨next, needs, back⟩ := Relation.TransGen.head'_iff.mp cycle
        obtain ⟨found, inside, same⟩ := List.mem_map.mp (settled next needs)
        obtain ⟨key, known⟩ := ordered.keyed found inside
        obtain rfl := keyed.unique known needs.target (key.symm.trans same)
        have inner : x ∈ done.values := by
          rcases Relation.reflTransGen_iff_eq_or_transGen.mp back with rfl | back
          · exact List.mem_map_of_mem inside
          · exact ordered.reaches keyed (List.mem_map_of_mem inside) back
        obtain ⟨entry, held, rfl⟩ := List.mem_map.mp inner
        rw [← (ordered.keyed entry held).1] at new
        exact new (List.mem_map_of_mem held)

/-! ## Visiting -/

/-- The node is ordered, none of the active ones has come in, and the others keep their places. -/
structure Visited (nodes : List (MetricNode μ)) (active : List Value)
    (done : Entries Value (MetricNode μ)) (n : MetricNode μ)
    (done' : Entries Value (MetricNode μ)) : Prop where
  ordered : Ordered nodes done'
  start : done <+: done'
  holds : n.key ∈ done'.keys
  fresh : ∀ key ∈ active, key ∈ done'.keys → key ∈ done.keys

/-- What a key names among nodes whose keys are texts has that key, and a key that names nothing is
not theirs. -/
theorem named?_ok (text : ∀ n ∈ nodes, ∃ name, n.key = .text name)
    {found : Option (MetricNode μ)} (named : named? nodes key = .ok found) :
    (∀ m, found = some m → m ∈ nodes ∧ m.key = key) ∧ (found = none → ∀ m ∈ nodes, m.key ≠ key) := by
  rw [MetricNode.named?] at named
  split at named
  · obtain rfl := Except.ok.inj named
    constructor
    · intro m found
      have member := List.mem_reverse.mp (List.mem_of_find?_eq_some found)
      obtain ⟨name, same⟩ := text m member
      have equal := List.find?_some found
      refine ⟨member, ?_⟩
      rw [same] at equal ⊢
      exact (Value.same_text name key).mp equal
    · rintro none m member rfl
      obtain ⟨name, same⟩ := text m member
      refine List.find?_eq_none.mp none m (List.mem_reverse.mpr member) ?_
      rw [same]
      exact (Value.beq_text _ name).mpr rfl
  · cases named

/-- What visits of single nodes ensure holds of visits of all that a list of keys names. -/
theorem visitAll_ok (text : ∀ n ∈ nodes, ∃ name, n.key = .text name) (ordered : Ordered nodes done)
    {keys : List Value}
    (visits : ∀ {m now next}, m ∈ nodes → Ordered nodes now →
      visit nodes fuel active now m = .ok next → Visited nodes active now m next)
    (run : keys.foldlM (fun done key => do
      match ← named? nodes key with
      | some other => visit nodes fuel active done other
      | none => return done) done = .ok done') :
    Ordered nodes done' ∧ done <+: done' ∧
      (∀ m ∈ nodes, m.key ∈ keys → m.key ∈ done'.keys) ∧
        ∀ key ∈ active, key ∈ done'.keys → key ∈ done.keys := by
  refine Outcome.foldlM_induction (fun before now => Ordered nodes now ∧ done <+: now ∧
    (∀ m ∈ nodes, m.key ∈ before → m.key ∈ now.keys) ∧
      ∀ key ∈ active, key ∈ now.keys → key ∈ done.keys) run
    ⟨ordered, List.prefix_rfl, by simp, fun _ _ known => known⟩ ?_
  rintro before key inside now next ⟨ordered, start, settled, fresh⟩ stepped
  obtain ⟨found, named, stepped⟩ := Outcome.bind_eq_ok.mp stepped
  obtain ⟨known, unknown⟩ := named?_ok text named
  cases found with
  | none =>
      obtain rfl := Outcome.pure_eq_ok.mp stepped
      refine ⟨ordered, start, fun m target listed => ?_, fresh⟩
      rcases List.mem_append.mp listed with before | last
      · exact settled m target before
      · exact absurd (List.mem_singleton.mp last) (unknown rfl m target)
  | some other =>
      obtain ⟨target, same⟩ := known other rfl
      have step := visits target ordered stepped
      refine ⟨step.ordered, start.trans step.start, fun m target listed => ?_,
        fun key active present => fresh key active (step.fresh key active present)⟩
      rcases List.mem_append.mp listed with before | last
      · exact List.map_subset _ step.start.subset (settled m target before)
      · rw [List.mem_singleton.mp last, ← same]
        exact step.holds

theorem visit_ok (text : ∀ n ∈ nodes, ∃ name, n.key = .text name) (member : n ∈ nodes)
    (ordered : Ordered nodes done)
    (run : visit nodes fuel active done n = .ok done') : Visited nodes active done n done' := by
  induction fuel generalizing active done n done' with
  | zero => cases run
  | succ fuel ih =>
      obtain ⟨name, named⟩ := text n member
      have exact : Entries.Exact n.key := named ▸ Entries.exact_text name
      rw [visit] at run
      split at run
      · rename_i known
        obtain rfl := Except.ok.inj run
        exact ⟨ordered, List.prefix_rfl, (Entries.has_iff exact).mp known, fun _ _ known => known⟩
      · rename_i unknown
        rw [Entries.has_iff exact] at unknown
        split at run
        · cases run
        · rename_i inactive
          rw [Value.contains_iff ⟨name, named⟩] at inactive
          simp only [Outcome.bind_eq_ok, Outcome.pure_eq_ok] at run
          obtain ⟨below, run, rfl⟩ := run
          obtain ⟨ordered, start, settled, fresh⟩ := visitAll_ok text ordered ih run
          -- The node itself is active below, so it has not come in.
          have new : n.key ∉ below.keys := fun known =>
            unknown (fresh n.key List.mem_cons_self known)
          rw [Entries.put_new exact new]
          refine ⟨.snoc ordered member new fun m needs => settled m needs.target needs.depends,
            start.trans (List.prefix_append _ _), by simp [Entries.keys], ?_⟩
          intro key listed known
          rw [Entries.keys_append_one, List.mem_append, List.mem_singleton] at known
          rcases known with known | rfl
          · exact fresh key (List.mem_cons_of_mem _ listed) known
          · exact absurd listed inactive

theorem visit_error (keyed : Keyed nodes) (descent : Descent nodes fuel active n)
    (run : visit nodes fuel active done n = .error e) : Circular nodes e := by
  induction fuel generalizing active done n with
  | zero => exact absurd rfl descent.positive
  | succ fuel ih =>
      rw [visit] at run
      split at run
      · cases run
      · split at run
        · rename_i again
          rw [← Except.error.inj run]
          exact descent.circular keyed again
        · rename_i inactive
          rw [Value.contains_iff (keyed.text n descent.member)] at inactive
          rcases Outcome.bind_eq_error.mp run with failed | ⟨_, -, ⟨⟩⟩
          obtain ⟨now, key, depends, failed⟩ := Outcome.foldlM_error failed
          obtain ⟨found, named, known⟩ := keyed.named? (keyed.texts n descent.member key depends)
          rw [named] at failed
          cases found with
          | none => cases failed
          | some other =>
              obtain ⟨target, same⟩ := (known other).mp rfl
              exact ih (descent.next inactive ⟨descent.member, target, same ▸ depends⟩) failed

/-! ## Resolving -/

/-- Visits of nodes one after the other order all of them. -/
theorem visitEach_ok (text : ∀ n ∈ nodes, ∃ name, n.key = .text name) {items : List (MetricNode μ)}
    (inside : items ⊆ nodes) (ordered : Ordered nodes done)
    (run : items.foldlM (visit nodes fuel active) done = .ok done') :
    Ordered nodes done' ∧ done <+: done' ∧ ∀ n ∈ items, n.key ∈ done'.keys := by
  refine Outcome.foldlM_induction (fun before now => Ordered nodes now ∧ done <+: now ∧
    ∀ n ∈ before, n.key ∈ now.keys) run ⟨ordered, List.prefix_rfl, by simp⟩ ?_
  rintro before n listed now next ⟨ordered, start, holds⟩ stepped
  have step := visit_ok text (inside (listed.subset (by simp))) ordered stepped
  refine ⟨step.ordered, start.trans step.start, fun m member => ?_⟩
  rcases List.mem_append.mp member with earlier | last
  · exact List.map_subset _ step.start.subset (holds m earlier)
  · rw [List.mem_singleton.mp last]
    exact step.holds

theorem resolve_ok (keyed : Keyed nodes) {ordered : List (MetricNode μ)}
    (run : resolve nodes = .ok ordered) :
    ∃ done, Ordered nodes done ∧ ordered = done.values ∧ ∀ n ∈ nodes, n ∈ ordered := by
  simp only [resolve, Outcome.bind_eq_ok, Outcome.pure_eq_ok] at run
  obtain ⟨_, -, done, run, rfl⟩ := run
  obtain ⟨ordered, -, holds⟩ := visitEach_ok keyed.text (List.Subset.refl _) .nil run
  refine ⟨done, ordered, rfl, fun n member => ?_⟩
  obtain ⟨entry, listed, same⟩ := List.mem_map.mp (holds n member)
  obtain ⟨key, known⟩ := ordered.keyed entry listed
  rw [← keyed.unique known member (key.symm.trans same)]
  exact List.mem_map_of_mem listed

theorem resolve_error (keyed : Keyed nodes) (run : resolve nodes = .error e) :
    Circular nodes e := by
  simp only [resolve, checkKeys_ok keyed, Outcome.bind_eq_error] at run
  rcases run with ⟨⟨⟩⟩ | ⟨_, -, failed | ⟨_, -, ⟨⟩⟩⟩
  obtain ⟨now, n, member, failed⟩ := Outcome.foldlM_error failed
  exact visit_error keyed (.start member) failed

/-- Nodes can be ordered exactly when none of them depends on itself. -/
theorem resolve_acyclic (keyed : Keyed nodes) :
    (∃ ordered, resolve nodes = .ok ordered) ↔ ∀ n, ¬ Reaches nodes n n := by
  constructor
  · rintro ⟨ordered, run⟩ n cycle
    obtain ⟨done, ordered, rfl, all⟩ := resolve_ok keyed run
    obtain ⟨next, needs, -⟩ := Relation.TransGen.head'_iff.mp cycle
    exact ordered.acyclic keyed n (all n needs.source) cycle
  · intro acyclic
    cases run : resolve nodes with
    | ok ordered => exact ⟨ordered, rfl⟩
    | error e =>
        obtain ⟨n, cycle, -⟩ := resolve_error keyed run
        exact absurd cycle (acyclic n)

end Datacube.MetricNode
