import Datacube.Proofs.Plan.Levels
import Datacube.Proofs.Plan.Stability

/-!
# Metrics by level

Grouping metrics by level gives every metric once, on the level that its longest chain of
dependencies has steps, in the given order within a level. From the highest level down to the lowest
none is missing. Metrics cannot be grouped exactly when they cannot be ordered.
-/

namespace Datacube.MetricNode
variable {μ : Type} {nodes : List (MetricNode μ)} {n m l : MetricNode μ} {h j k : Nat}
  {pairs : List (Nat × MetricNode μ)} {e : Error}

/-! ## Chains -/

theorem Walk.trans (walk : Walk nodes j n m) (walk' : Walk nodes k m l) :
    Walk nodes (j + k) n l := by
  induction walk with
  | nil => rwa [Nat.zero_add]
  | cons needs _ ih =>
      rw [Nat.add_right_comm]
      exact .cons needs (ih walk')

theorem exists_walk (reaches : Reaches nodes n m) : ∃ k, Walk nodes (k + 1) n m := by
  induction reaches with
  | single needs => exact ⟨0, .cons needs (.nil _)⟩
  | tail _ needs ih =>
      obtain ⟨k, walk⟩ := ih
      exact ⟨k + 1, walk.trans (.cons needs (.nil _))⟩

theorem Height.acyclic (height : Height nodes n h) : ¬ Reaches nodes n n := by
  intro cycle
  obtain ⟨k, round⟩ := exists_walk cycle
  -- The longest chain could be made longer by going round the cycle first.
  obtain ⟨m, walk⟩ := height.reached
  have bound := height.longest _ m (round.trans walk)
  omega

theorem Height.next (height : Height nodes n (h + 1)) :
    ∃ m, Needs nodes n m ∧ Height nodes m h := by
  obtain ⟨last, walk⟩ := height.reached
  cases walk with
  | @cons _ _ m _ needs rest =>
      refine ⟨m, needs, ⟨last, rest⟩, fun k l walk => ?_⟩
      have bound := height.longest (k + 1) l (.cons needs walk)
      omega

theorem Height.descend (height : Height nodes n h) (member : n ∈ nodes) (low : k ≤ h) :
    ∃ m ∈ nodes, Height nodes m k := by
  induction h generalizing n with
  | zero =>
      obtain rfl := Nat.le_zero.mp low
      exact ⟨n, member, height⟩
  | succ h ih =>
      rcases Nat.le_succ_iff.mp low with low | rfl
      · obtain ⟨m, needs, height⟩ := height.next
        exact ih height needs.target low
      · exact ⟨n, member, height⟩

theorem Height.lt_of_needs (height : Height nodes n h) (height' : Height nodes m k)
    (needs : Needs nodes n m) : k < h := by
  obtain ⟨l, walk⟩ := height'.reached
  exact height.longest (k + 1) l (.cons needs walk)

/-! ## Pairs of levels and nodes -/

theorem leveled_nodes (run : leveled nodes = .ok pairs) : pairs.map (·.2) = nodes := by
  simp only [leveled, Outcome.bind_eq_ok, Outcome.pure_eq_ok] at run
  obtain ⟨_, -, last, run, rfl⟩ := run
  refine Outcome.foldlM_induction (fun before
    (now : List (Nat × MetricNode μ) × Entries Value Nat) => now.1.map (·.2) = before) run rfl ?_
  rintro before n - now next same stepped
  simp only [Outcome.bind_eq_ok, Outcome.pure_eq_ok] at stepped
  obtain ⟨found, -, rfl⟩ := stepped
  rw [List.map_append, same]
  rfl

/-- The nodes of pairs that are on a level. -/
def onLevel (pairs : List (Nat × MetricNode μ)) (level : Nat) : List (MetricNode μ) :=
  (pairs.filter (·.1 == level)).map (·.2)

theorem mem_onLevel : n ∈ onLevel pairs k ↔ (k, n) ∈ pairs := by
  simp [onLevel]

theorem levels_of_leveled (run : leveled nodes = .ok pairs) :
    levels nodes = .ok (((List.range (depth nodes)).filter fun k => !(onLevel pairs k).isEmpty).map
      fun k => (k, onLevel pairs k)) := by
  rw [levels, run, ← List.filterMap_eq_map (f := fun k => (k, onLevel pairs k)),
    List.filterMap_filter]
  refine congrArg (fun group => Except.ok ((List.range (depth nodes)).filterMap group)) ?_
  funext k
  split
  · rename_i none
    exact (if_neg (by simp [onLevel, none])).symm
  · rename_i some
    exact (if_pos (by simpa [onLevel] using some)).symm

/-- Levels of which each has all lower ones below it are those below some bound. -/
theorem filter_range {p : Nat → Bool} (closed : ∀ k, p (k + 1) = true → p k = true) (bound : Nat) :
    ∃ top, (List.range bound).filter p = List.range top := by
  have lower : ∀ {k}, p k = true → ∀ j ≤ k, p j = true := by
    intro k holds j low
    induction low using Nat.decreasingInduction with
    | self => exact holds
    | of_succ j _ ih => exact closed j ih
  induction bound with
  | zero => exact ⟨0, rfl⟩
  | succ bound ih =>
      rw [List.range_succ, List.filter_append]
      cases last : p bound with
      | false =>
          obtain ⟨top, same⟩ := ih
          exact ⟨top, by rw [same]; simp [last]⟩
      | true =>
          refine ⟨bound + 1, ?_⟩
          rw [List.filter_eq_self.mpr fun k inside => lower last k (List.mem_range.mp inside).le,
            List.range_succ]
          simp [last]

/-! ## Levels -/

/-- Groups of nodes by level: the levels from zero on without a gap, every node once on the level of
its longest chain, in the given order within a level and above all that it depends on. -/
structure Graded (nodes : List (MetricNode μ)) (groups : List (Nat × List (MetricNode μ))) :
    Prop where
  levels : groups.map (·.1) = List.range groups.length
  filled : ∀ group ∈ groups, group.2 ≠ []
  once : (groups.flatMap (·.2)).Perm nodes
  heights : ∀ group ∈ groups, ∀ n ∈ group.2, Height nodes n group.1
  inOrder : ∀ group ∈ groups, group.2.Sublist nodes
  lower : ∀ group ∈ groups, ∀ n ∈ group.2, ∀ m, Needs nodes n m →
    ∃ group' ∈ groups, m ∈ group'.2 ∧ group'.1 < group.1

theorem acyclic_of_leveled (keyed : Keyed nodes) (run : leveled nodes = .ok pairs) :
    ∀ n, ¬ Reaches nodes n n := by
  intro n cycle
  obtain ⟨right, all⟩ := leveled_ok keyed run
  obtain ⟨next, needs, -⟩ := Relation.TransGen.head'_iff.mp cycle
  obtain ⟨h, listed⟩ := all n needs.source
  exact (right (h, n) listed).2.acyclic cycle

theorem graded_of_leveled (keyed : Keyed nodes) (run : leveled nodes = .ok pairs) :
    ∃ groups, levels nodes = .ok groups ∧ Graded nodes groups := by
  obtain ⟨right, all⟩ := leveled_ok keyed run
  have same := leveled_nodes run
  have height : ∀ {k n}, n ∈ onLevel pairs k → Height nodes n k :=
    fun {k n} listed => (right (k, n) (mem_onLevel.mp listed)).2
  have listed : ∀ {k n}, n ∈ nodes → Height nodes n k → n ∈ onLevel pairs k := by
    intro k n member height
    obtain ⟨h, listed⟩ := all n member
    rw [mem_onLevel, height.unique (right (h, n) listed).2]
    exact listed
  have filled : ∀ k, (!(onLevel pairs k).isEmpty) = true ↔ ∃ n ∈ nodes, Height nodes n k := by
    intro k
    rw [Bool.not_eq_true', List.isEmpty_eq_false_iff_exists_mem]
    constructor
    · rintro ⟨n, inside⟩
      exact ⟨n, (right (k, n) (mem_onLevel.mp inside)).1, height inside⟩
    · rintro ⟨n, member, height⟩
      exact ⟨n, listed member height⟩
  -- Below a node there is one on every lower level, so no level between is missing.
  obtain ⟨top, below⟩ := filter_range (p := fun k => !(onLevel pairs k).isEmpty) (fun k holds => by
    obtain ⟨n, member, height⟩ := (filled (k + 1)).mp holds
    exact (filled k).mpr (height.descend member (Nat.le_succ k))) (depth nodes)
  have present : ∀ {k}, k ∈ List.range top ↔ ∃ n ∈ nodes, Height nodes n k := by
    intro k
    rw [← below, List.mem_filter, filled, List.mem_range, and_iff_right_iff_imp]
    rintro ⟨n, -, height⟩
    exact height.lt_depth (acyclic_of_leveled keyed run)
  rw [levels_of_leveled run, below]
  refine ⟨_, rfl, ⟨?_, ?_, ?_, ?_, ?_, ?_⟩⟩
  · rw [List.map_map, List.length_map, List.length_range]
    exact List.map_id _
  · intro group inside
    obtain ⟨k, low, rfl⟩ := List.mem_map.mp inside
    obtain ⟨n, member, height⟩ := present.mp low
    exact List.ne_nil_of_mem (listed member height)
  · rw [List.flatMap_map]
    refine (List.perm_ext_iff_of_nodup ?_ keyed.nodup).mpr fun n => ?_
    · rw [List.nodup_flatMap]
      refine ⟨fun k _ => keyed.nodup.sublist (same ▸ List.filter_sublist.map _), ?_⟩
      refine List.nodup_range.imp fun {j k} apart n inside inside' => ?_
      exact apart ((height inside).unique (height inside'))
    · rw [List.mem_flatMap]
      constructor
      · rintro ⟨k, -, inside⟩
        exact (right (k, n) (mem_onLevel.mp inside)).1
      · intro member
        obtain ⟨k, inside⟩ := all n member
        exact ⟨k, present.mpr ⟨n, member, (right (k, n) inside).2⟩, mem_onLevel.mpr inside⟩
  · intro group inside n member
    obtain ⟨k, -, rfl⟩ := List.mem_map.mp inside
    exact height member
  · intro group inside
    obtain ⟨k, -, rfl⟩ := List.mem_map.mp inside
    exact same ▸ List.filter_sublist.map _
  · intro group inside n member m needs
    obtain ⟨k, -, rfl⟩ := List.mem_map.mp inside
    obtain ⟨j, listed'⟩ := all m needs.target
    have height' := (right (j, m) listed').2
    exact ⟨_, List.mem_map_of_mem (present.mpr ⟨m, needs.target, height'⟩),
      listed needs.target height', (height member).lt_of_needs height' needs⟩

/-- Metrics can be grouped by level unless one depends on itself, which makes ordering them fail
too. The groups hold every metric once, on the level that is the length of its longest chain. -/
theorem levels_grades (keyed : Keyed nodes) :
    ((∃ key, levels nodes = refuse (.circularDependency key)) ↔
      ∃ key, resolve nodes = refuse (.circularDependency key)) ∧
    ((∀ key, resolve nodes ≠ refuse (.circularDependency key)) →
      ∃ groups, levels nodes = .ok groups ∧ Graded nodes groups) := by
  rw [← not_exists, resolve_circular_iff keyed]
  cases run : leveled nodes with
  | ok pairs =>
      obtain ⟨groups, grouped, graded⟩ := graded_of_leveled keyed run
      refine ⟨⟨?_, ?_⟩, fun _ => ⟨groups, grouped, graded⟩⟩
      · rintro ⟨key, refused⟩
        rw [grouped] at refused
        cases refused
      · rintro ⟨n, cycle⟩
        exact absurd cycle (acyclic_of_leveled keyed run n)
  | error e =>
      obtain ⟨n, cycle, rfl⟩ := leveled_error keyed run
      refine ⟨⟨fun _ => ⟨n, cycle⟩, fun _ => ⟨n.key, ?_⟩⟩, fun acyclic => absurd ⟨n, cycle⟩ acyclic⟩
      rw [levels, run]
      rfl

/-- The margin reads metrics of two levels, so it is on the level above both. -/
theorem levels_grades_margins : Keyed margins ∧ ∃ groups, levels margins = .ok groups ∧
    Graded margins groups ∧ groups.map (·.1) = [0, 1, 2] ∧
    ∃ n ∈ margins, n.key = .text "margin" ∧ Height margins n 2 := by
  have keyed : Keyed margins := by constructor <;> simp [margins]
  refine ⟨keyed, ?_⟩
  have ordered : (resolve margins).toBool = true := by decide +kernel
  obtain ⟨groups, run, graded⟩ := (levels_grades keyed).2 fun key refused => by
    rw [refused] at ordered
    cases ordered
  have top : (levels margins).toOption.any (fun groups => groups.length == 3 &&
      groups.any fun group => group.1 == 2 && group.2.any (·.key.isText "margin")) = true := by
    decide +kernel
  rw [run] at top
  change (groups.length == 3 && groups.any fun group =>
    group.1 == 2 && group.2.any (·.key.isText "margin")) = true at top
  simp only [Bool.and_eq_true, List.any_eq_true, beq_iff_eq] at top
  obtain ⟨three, group, inside, two, n, member, named⟩ := top
  refine ⟨groups, run, graded, by rw [graded.levels, three]; rfl, n,
    (graded.inOrder group inside).subset member, (Value.isText_iff n.key "margin").mp named, ?_⟩
  exact two ▸ graded.heights group inside n member

end Datacube.MetricNode
