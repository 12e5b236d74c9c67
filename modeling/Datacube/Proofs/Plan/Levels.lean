import Datacube.Proofs.Plan.Cycles

/-!
# Levels and strategies of metrics

The level of a metric is the length of its longest chain of dependencies, whatever the order in
which levels are found. Where nothing depends on itself every metric has a level below the number of
all, and whether it could be derived next to its own table can be told.
-/

namespace Datacube.MetricNode
variable {μ : Type} {nodes : List (MetricNode μ)} {n m : MetricNode μ} {fuel h k : Nat}
  {active : List Value} {known known' : Entries Value Nat} {key : Value} {e : Error}

/-! ## Chains of dependencies -/

/-- A chain of so many dependencies. -/
inductive Walk (nodes : List (MetricNode μ)) : Nat → MetricNode μ → MetricNode μ → Prop where
  | nil (n : MetricNode μ) : Walk nodes 0 n n
  | cons {k : Nat} {n m l : MetricNode μ} (needs : Needs nodes n m) (rest : Walk nodes k m l) :
    Walk nodes (k + 1) n l

/-- The longest chain of dependencies of a node has that length. -/
structure Height (nodes : List (MetricNode μ)) (n : MetricNode μ) (h : Nat) : Prop where
  reached : ∃ m, Walk nodes h n m
  longest : ∀ k m, Walk nodes k n m → k ≤ h

theorem Height.unique (height : Height nodes n h) (height' : Height nodes n k) : h = k := by
  obtain ⟨m, walk⟩ := height.reached
  obtain ⟨m', walk'⟩ := height'.reached
  exact Nat.le_antisymm (height'.longest h m walk) (height.longest k m' walk')

/-- Without cycles a chain goes through different nodes. -/
theorem Walk.nodes_on (acyclic : ∀ n, ¬ Reaches nodes n n) (walk : Walk nodes k n m) :
    ∃ through : List (MetricNode μ), through.length = k ∧ through.Nodup ∧
      ∀ x ∈ through, x ∈ nodes ∧ Reaches nodes n x := by
  induction walk with
  | nil n => exact ⟨[], rfl, List.nodup_nil, by simp⟩
  | @cons k n m l needs rest ih =>
      obtain ⟨through, length, distinct, reached⟩ := ih
      refine ⟨m :: through, by rw [List.length_cons, length], ?_, ?_⟩
      · exact List.nodup_cons.mpr ⟨fun again => acyclic m (reached m again).2, distinct⟩
      · intro x listed
        rcases List.mem_cons.mp listed with rfl | later
        · exact ⟨needs.target, .single needs⟩
        · exact ⟨(reached x later).1, .head needs (reached x later).2⟩

theorem Height.lt_depth (acyclic : ∀ n, ¬ Reaches nodes n n) (height : Height nodes n h) :
    h < depth nodes := by
  obtain ⟨m, walk⟩ := height.reached
  obtain ⟨through, length, distinct, inside⟩ := walk.nodes_on acyclic
  have short := (List.subperm_of_subset distinct fun x listed => (inside x listed).1).length_le
  rw [depth]
  omega

/-! ## Levels -/

def Known (nodes : List (MetricNode μ)) (known : Entries Value Nat) : Prop :=
  ∀ e ∈ known, ∃ m ∈ nodes, e.1 = m.key ∧ Height nodes m e.2

/-- The number is one more than the highest level of the nodes that a list of keys names, and zero
when it names none. -/
structure Peak (nodes : List (MetricNode μ)) (keys : List Value) (top : Nat) : Prop where
  bounds : ∀ m ∈ nodes, m.key ∈ keys → ∃ h, Height nodes m h ∧ h + 1 ≤ top
  attained : top = 0 ∨ ∃ m ∈ nodes, m.key ∈ keys ∧ ∃ h, Height nodes m h ∧ top = h + 1

section Peak
variable {keys : List Value} {top : Nat} (peak : Peak nodes keys top)
include peak

theorem Peak.absent (absent : ∀ m ∈ nodes, m.key ≠ key) : Peak nodes (keys ++ [key]) top where
  bounds := by
    intro m target listed
    rcases List.mem_append.mp listed with before | last
    · exact peak.bounds m target before
    · exact absurd (List.mem_singleton.mp last) (absent m target)
  attained := by
    rcases peak.attained with zero | ⟨m, target, listed, attains⟩
    · exact .inl zero
    · exact .inr ⟨m, target, List.mem_append_left _ listed, attains⟩

theorem Peak.next (keyed : Keyed nodes) (target : m ∈ nodes) (height : Height nodes m h) :
    Peak nodes (keys ++ [m.key]) (max top (h + 1)) where
  bounds := by
    intro other target' listed
    rcases List.mem_append.mp listed with before | last
    · obtain ⟨k, height', bound⟩ := peak.bounds other target' before
      exact ⟨k, height', Nat.le_trans bound (Nat.le_max_left _ _)⟩
    · obtain rfl := keyed.unique target' target (List.mem_singleton.mp last)
      exact ⟨h, height, Nat.le_max_right _ _⟩
  attained := by
    right
    rcases Nat.le_total (h + 1) top with lower | higher
    · rcases peak.attained with zero | ⟨other, target', listed, k, height', attains⟩
      · omega
      · exact ⟨other, target', List.mem_append_left _ listed, k, height',
          (Nat.max_eq_left lower).trans attains⟩
    · exact ⟨m, target, by simp, h, height, Nat.max_eq_right higher⟩

end Peak

/-- A node is on the level above all that it depends on. -/
theorem Peak.height {top : Nat} (peak : Peak nodes n.dependencies top) (member : n ∈ nodes) :
    Height nodes n top := by
  constructor
  · rcases peak.attained with zero | ⟨m, target, depends, h, height, rfl⟩
    · exact zero ▸ ⟨n, .nil n⟩
    · obtain ⟨l, walk⟩ := height.reached
      exact ⟨l, .cons ⟨member, target, depends⟩ walk⟩
  · intro k l walk
    cases walk with
    | nil => exact Nat.zero_le _
    | cons needs rest =>
        obtain ⟨h, height, bound⟩ := peak.bounds _ needs.target needs.depends
        exact Nat.le_trans (Nat.succ_le_succ (height.longest _ l rest)) bound

/-- What is found for single nodes gives the highest level of all that a list of keys names. -/
theorem levelAll_ok (keyed : Keyed nodes) (right : Known nodes known) {keys : List Value}
    (texts : ∀ key ∈ keys, ∃ name, key = .text name) {last : Nat × Entries Value Nat}
    (finds : ∀ {m now found}, m ∈ nodes → Known nodes now →
      level nodes fuel active now m = .ok found → Height nodes m found.1 ∧ Known nodes found.2)
    (run : keys.foldlM (fun (acc : Nat × Entries Value Nat) key => do
      match ← named? nodes key with
      | some other =>
        let (below, known) ← level nodes fuel active acc.2 other
        return (max acc.1 (below + 1), known)
      | none => return acc) (0, known) = .ok last) :
    Peak nodes keys last.1 ∧ Known nodes last.2 := by
  refine Outcome.foldlM_induction (fun before (now : Nat × Entries Value Nat) =>
    Peak nodes before now.1 ∧ Known nodes now.2) run ⟨⟨by simp, .inl rfl⟩, right⟩ ?_
  rintro before key inside now next ⟨peak, right⟩ stepped
  obtain ⟨found, named, known⟩ := keyed.named? (texts key (inside.subset (by simp)))
  simp only [named, Outcome.bind_eq_ok, Except.ok.injEq, exists_eq_left'] at stepped
  cases found with
  | none =>
      obtain rfl := Outcome.pure_eq_ok.mp stepped
      refine ⟨peak.absent fun m target same => ?_, right⟩
      cases (known m).mpr ⟨target, same⟩
  | some other =>
      simp only [Outcome.bind_eq_ok, Outcome.pure_eq_ok] at stepped
      obtain ⟨⟨below, later⟩, found, rfl⟩ := stepped
      obtain ⟨target, rfl⟩ := (known other).mp rfl
      obtain ⟨height, right⟩ := finds target right found
      exact ⟨peak.next keyed target height, right⟩

theorem level_ok (keyed : Keyed nodes) (member : n ∈ nodes) (right : Known nodes known)
    {found : Nat × Entries Value Nat} (run : level nodes fuel active known n = .ok found) :
    Height nodes n found.1 ∧ Known nodes found.2 := by
  induction fuel generalizing active known n found with
  | zero => cases run
  | succ fuel ih =>
      obtain ⟨name, text⟩ := keyed.text n member
      have exact : Entries.Exact n.key := text ▸ Entries.exact_text name
      rw [level] at run
      split at run
      · rename_i h held
        rw [← Except.ok.inj run]
        obtain ⟨m, member', same, height⟩ := right _ (Entries.mem_of_get? exact held)
        rw [keyed.unique member member' same]
        exact ⟨height, right⟩
      · split at run
        · cases run
        · simp only [Outcome.bind_eq_ok, Outcome.pure_eq_ok] at run
          obtain ⟨⟨highest, later⟩, run, rfl⟩ := run
          obtain ⟨peak, right⟩ := levelAll_ok keyed right (keyed.texts n member)
            (fun target right run => ih target right run) run
          have height := peak.height member
          refine ⟨height, fun e listed => ?_⟩
          rcases Entries.mem_put exact listed with rfl | old
          · exact ⟨n, member, rfl, height⟩
          · exact right e old

theorem level_error (keyed : Keyed nodes) (descent : Descent nodes fuel active n)
    (run : level nodes fuel active known n = .error e) : Circular nodes e := by
  induction fuel generalizing active known n with
  | zero => exact absurd rfl descent.positive
  | succ fuel ih =>
      rw [level] at run
      split at run
      · cases run
      · split at run
        · rename_i again
          rw [← Except.error.inj run]
          exact descent.circular keyed again
        · rename_i inactive
          rw [Value.contains_iff (keyed.text n descent.member)] at inactive
          rcases Outcome.bind_eq_error.mp run with failed | ⟨_, -, ⟨⟩⟩
          obtain ⟨now, key, depends, failed⟩ := Outcome.foldlM_error failed
          obtain ⟨found, named, known⟩ := keyed.named? (keyed.texts n descent.member key depends)
          rw [named] at failed
          cases found with
          | none => cases failed
          | some other =>
              obtain ⟨target, same⟩ := (known other).mp rfl
              rcases Outcome.bind_eq_error.mp failed with ⟨⟨⟩⟩ | ⟨_, found, failed⟩
              rw [← Except.ok.inj found] at failed
              rcases Outcome.bind_eq_error.mp failed with failed | ⟨_, -, ⟨⟩⟩
              exact ih (descent.next inactive ⟨descent.member, target, same ▸ depends⟩) failed

theorem leveled_ok (keyed : Keyed nodes) {pairs : List (Nat × MetricNode μ)}
    (run : leveled nodes = .ok pairs) :
    (∀ pair ∈ pairs, pair.2 ∈ nodes ∧ Height nodes pair.2 pair.1) ∧
      ∀ n ∈ nodes, ∃ h, (h, n) ∈ pairs := by
  simp only [leveled, Outcome.bind_eq_ok, Outcome.pure_eq_ok] at run
  obtain ⟨_, -, last, run, rfl⟩ := run
  suffices found : ((∀ pair ∈ last.1, pair.2 ∈ nodes ∧ Height nodes pair.2 pair.1) ∧
      ∀ n ∈ nodes, ∃ h, (h, n) ∈ last.1) ∧ Known nodes last.2 from found.1
  refine Outcome.foldlM_induction (fun before
      (now : List (Nat × MetricNode μ) × Entries Value Nat) =>
        ((∀ pair ∈ now.1, pair.2 ∈ nodes ∧ Height nodes pair.2 pair.1) ∧
          ∀ n ∈ before, ∃ h, (h, n) ∈ now.1) ∧ Known nodes now.2) run
    ⟨⟨by simp, by simp⟩, by simp [Known]⟩ ?_
  rintro before n inside now next ⟨⟨right, all⟩, known⟩ stepped
  simp only [Outcome.bind_eq_ok, Outcome.pure_eq_ok] at stepped
  obtain ⟨found, stepped, rfl⟩ := stepped
  have member : n ∈ nodes := inside.subset (by simp)
  obtain ⟨height, known⟩ := level_ok keyed member known stepped
  refine ⟨⟨fun pair listed => ?_, fun m listed => ?_⟩, known⟩
  · rcases List.mem_append.mp listed with earlier | last
    · exact right pair earlier
    · rw [List.mem_singleton.mp last]
      exact ⟨member, height⟩
  · rcases List.mem_append.mp listed with earlier | last
    · obtain ⟨h, listed⟩ := all m earlier
      exact ⟨h, List.mem_append_left _ listed⟩
    · rw [List.mem_singleton.mp last]
      exact ⟨found.1, by simp⟩

theorem leveled_error (keyed : Keyed nodes) (run : leveled nodes = .error e) :
    Circular nodes e := by
  simp only [leveled, checkKeys_ok keyed, Outcome.bind_eq_error] at run
  rcases run with ⟨⟨⟩⟩ | ⟨_, -, failed | ⟨_, -, ⟨⟩⟩⟩
  obtain ⟨now, n, member, failed⟩ := Outcome.foldlM_error failed
  rcases Outcome.bind_eq_error.mp failed with failed | ⟨_, -, ⟨⟩⟩
  exact level_error keyed (.start member) failed

/-- Without cycles every node has a level, the length of its longest chain of dependencies. -/
theorem levels_ok (keyed : Keyed nodes) (acyclic : ∀ n, ¬ Reaches nodes n n) :
    ∃ groups, levels nodes = .ok groups ∧
      (∀ group ∈ groups, ∀ m ∈ group.2, m ∈ nodes ∧ Height nodes m group.1) ∧
        ∀ n ∈ nodes, ∃ group ∈ groups, n ∈ group.2 := by
  have run : ∃ pairs, leveled nodes = .ok pairs := by
    cases run : leveled nodes with
    | ok pairs => exact ⟨pairs, rfl⟩
    | error e =>
        obtain ⟨m, cycle, -⟩ := leveled_error keyed run
        exact absurd cycle (acyclic m)
  obtain ⟨pairs, run⟩ := run
  obtain ⟨right, all⟩ := leveled_ok keyed run
  refine ⟨_, by rw [levels, run]; rfl, ?_, ?_⟩
  · intro group listed m inside
    obtain ⟨l, -, grouped⟩ := List.mem_filterMap.mp listed
    split at grouped
    · cases grouped
    · obtain rfl := Option.some.inj grouped
      obtain ⟨pair, held, rfl⟩ := List.mem_map.mp inside
      obtain ⟨held, same⟩ := List.mem_filter.mp held
      rw [← beq_iff_eq.mp same]
      exact right pair held
  · intro n member
    obtain ⟨h, listed⟩ := all n member
    have low : h < depth nodes := (right (h, n) listed).2.lt_depth acyclic
    have held : (h, n) ∈ pairs.filter (·.1 == h) := List.mem_filter.mpr ⟨listed, beq_self_eq_true h⟩
    refine ⟨(h, (pairs.filter (·.1 == h)).map (·.2)), ?_, List.mem_map_of_mem held⟩
    refine List.mem_filterMap.mpr ⟨h, List.mem_range.mpr low, ?_⟩
    split
    · rename_i none
      rw [none] at held
      cases held
    · rfl

/-! ## Strategies -/

theorem isLocal_error (keyed : Keyed nodes) (descent : Descent nodes fuel active n)
    (run : isLocal nodes fuel active n = .error e) : Circular nodes e := by
  induction fuel generalizing active n with
  | zero => exact absurd rfl descent.positive
  | succ fuel ih =>
      rw [isLocal] at run
      split at run
      · cases run
      · split at run
        · rename_i again
          rw [← Except.error.inj run]
          exact descent.circular keyed again
        · rename_i inactive
          rw [Value.contains_iff (keyed.text n descent.member)] at inactive
          obtain ⟨key, depends, failed⟩ := Outcome.allM_error run
          obtain ⟨found, named, known⟩ := keyed.named? (keyed.texts n descent.member key depends)
          rw [named] at failed
          cases found with
          | none => cases failed
          | some other =>
              obtain ⟨target, same⟩ := (known other).mp rfl
              rcases Outcome.bind_eq_error.mp failed with ⟨⟨⟩⟩ | ⟨_, found, failed⟩
              rw [← Except.ok.inj found] at failed
              simp only at failed
              split at failed
              · cases failed
              · exact ih (descent.next inactive ⟨descent.member, target, same ▸ depends⟩) failed

def strategyOf (isLocal : Bool) : Strategy := if isLocal then .database else .software

theorem strategies_ok (keyed : Keyed nodes) (acyclic : ∀ n, ¬ Reaches nodes n n) :
    ∃ pairs, strategies nodes = .ok pairs ∧
      (∀ pair ∈ pairs, pair.2 ∈ nodes ∧
        ∃ b, isLocal nodes (depth nodes) [] pair.2 = .ok b ∧ pair.1 = strategyOf b) ∧
      ∀ n ∈ nodes, ∃ strategy, (strategy, n) ∈ pairs := by
  cases run : strategies nodes with
  | error e =>
      obtain ⟨n, member, failed⟩ := Outcome.mapM_error run
      rcases Outcome.bind_eq_error.mp failed with failed | ⟨_, -, ⟨⟩⟩
      obtain ⟨m, cycle, -⟩ := isLocal_error keyed (.start member) failed
      exact absurd cycle (acyclic m)
  | ok pairs =>
      have related := Outcome.mapM_ok run
      refine ⟨pairs, rfl, fun pair listed => ?_, fun n member => ?_⟩
      · obtain ⟨n, member, found⟩ := exists_of_mem_right related listed
        simp only [Outcome.bind_eq_ok, Outcome.pure_eq_ok] at found
        obtain ⟨b, found, rfl⟩ := found
        exact ⟨member, b, found, rfl⟩
      · obtain ⟨pair, listed, found⟩ := exists_of_mem_left related member
        simp only [Outcome.bind_eq_ok, Outcome.pure_eq_ok] at found
        obtain ⟨b, -, rfl⟩ := found
        exact ⟨_, listed⟩

/-- Without cycles it can be told of every node whether it is local. -/
theorem split_ok (keyed : Keyed nodes) (acyclic : ∀ n, ¬ Reaches nodes n n) :
    ∃ database software, split nodes = .ok (database, software) ∧
      (∀ n ∈ database, n ∈ nodes ∧ isLocal nodes (depth nodes) [] n = .ok true) ∧
      (∀ n ∈ software, n ∈ nodes ∧ isLocal nodes (depth nodes) [] n = .ok false) ∧
      ∀ n ∈ nodes, n ∈ database ∨ n ∈ software := by
  obtain ⟨pairs, run, right, all⟩ := strategies_ok keyed acyclic
  have sorted : ∀ {n b}, n ∈ (pairs.filter (·.1 = strategyOf b)).map (·.2) →
      n ∈ nodes ∧ isLocal nodes (depth nodes) [] n = .ok b := by
    intro n b listed
    obtain ⟨pair, held, rfl⟩ := List.mem_map.mp listed
    obtain ⟨held, same⟩ := List.mem_filter.mp held
    obtain ⟨member, b', found, strategy⟩ := right pair held
    rw [strategy, decide_eq_true_eq] at same
    have agree : b' = b := by
      cases b <;> cases b' <;> first | rfl | cases same
    exact ⟨member, agree ▸ found⟩
  refine ⟨_, _, by rw [split, checkKeys_ok keyed, run]; rfl, fun n => sorted (b := true),
    fun n => sorted (b := false), fun n member => ?_⟩
  obtain ⟨strategy, listed⟩ := all n member
  cases strategy with
  | database => exact .inl (List.mem_map.mpr ⟨_, List.mem_filter.mpr ⟨listed, rfl⟩, rfl⟩)
  | software => exact .inr (List.mem_map.mpr ⟨_, List.mem_filter.mpr ⟨listed, rfl⟩, rfl⟩)

end Datacube.MetricNode
