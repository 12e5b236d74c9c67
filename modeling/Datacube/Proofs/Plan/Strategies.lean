import Datacube.Proofs.Plan.Heights

/-!
# Metrics that could be derived next to their table

Whether a metric is local is decided from what it depends on directly, and comes to a property of
all that it depends on: each of these metrics is in the list and reads the same table. The split
keeps every metric once and in order.
-/

namespace Datacube

namespace MetricNode
variable {μ : Type} {nodes : List (MetricNode μ)} {n m : MetricNode μ} {fuel : Nat}
  {active : List Value}

/-- Everything that a node depends on, directly or not, is in the list and reads its table. -/
structure Resident (nodes : List (MetricNode μ)) (n : MetricNode μ) : Prop where
  table : n.table ≠ .null
  shared : ∀ m, Relation.ReflTransGen (Needs nodes) n m → ∀ key ∈ m.dependencies,
    ∃ o ∈ nodes, o.key = key ∧ o.table = n.table

def Near (nodes : List (MetricNode μ)) (n : MetricNode μ) : Prop :=
  n.dependencies = [] ∨ Resident nodes n

/-- A node is resident when what it depends on directly has its table and is near too. -/
theorem resident_iff (keyed : Keyed nodes) (member : n ∈ nodes) (depends : n.dependencies ≠ []) :
    Resident nodes n ↔ ∀ key ∈ n.dependencies,
      ∃ o ∈ nodes, o.key = key ∧ n.table ≠ .null ∧ o.table = n.table ∧ Near nodes o := by
  constructor
  · intro resident key listed
    obtain ⟨o, inside, rfl, same⟩ := resident.shared n .refl key listed
    refine ⟨o, inside, rfl, resident.table, same, .inr ⟨same ▸ resident.table, fun m reaches => ?_⟩⟩
    rw [same]
    exact resident.shared m (reaches.head ⟨member, inside, listed⟩)
  · intro direct
    obtain ⟨first, rest, whole⟩ := List.exists_cons_of_ne_nil depends
    obtain ⟨-, -, -, table, -⟩ := direct first (whole ▸ List.mem_cons_self)
    refine ⟨table, fun m reaches key listed => ?_⟩
    rcases reaches.cases_head with rfl | ⟨next, needs, later⟩
    · obtain ⟨o, inside, same, -, shared, -⟩ := direct key listed
      exact ⟨o, inside, same, shared⟩
    · obtain ⟨o, inside, same, -, shared, near⟩ := direct next.key needs.depends
      obtain rfl := keyed.unique inside needs.target same
      rcases near with free | resident
      · -- What depends on nothing reaches nothing but itself.
        rcases later.cases_head with rfl | ⟨_, needs', -⟩
        · rw [free] at listed
          cases listed
        · have none := needs'.depends
          rw [free] at none
          cases none
      · rw [← shared]
        exact resident.shared m later key listed

/-! ## Local nodes -/

/-- Nodes whose tables are texts, or null where they have none. -/
def Placed (nodes : List (MetricNode μ)) : Prop :=
  ∀ n ∈ nodes, n.table = .null ∨ ∃ name, n.table = .text name

theorem apart_iff (placed : n.table = .null ∨ ∃ name, n.table = .text name) (table : Value) :
    (n.table.isNull || !table.same n.table) = false ↔ n.table ≠ .null ∧ table = n.table := by
  rcases placed with null | ⟨name, named⟩
  · simp [null, Value.isNull]
  · rw [named, Bool.or_eq_false_iff, Bool.not_eq_false', Value.same_text_right]
    simp [Value.isNull]

/-- What is found for single nodes tells of a dependency whether it is there, shares the table and
is near. -/
theorem dependency_ok (keyed : Keyed nodes) (placed : Placed nodes) (member : n ∈ nodes)
    {key : Value} (listed : key ∈ n.dependencies) {b : Bool}
    (finds : ∀ m ∈ nodes, ∀ b, isLocal nodes fuel active m = .ok b → (b = true ↔ Near nodes m))
    (run : (do
      match ← named? nodes key with
      | none => return false
      | some other =>
        if n.table.isNull || !other.table.same n.table then return false
        else isLocal nodes fuel active other) = .ok b) :
    b = true ↔ ∃ o ∈ nodes, o.key = key ∧ n.table ≠ .null ∧ o.table = n.table ∧ Near nodes o := by
  obtain ⟨found, named, known⟩ := keyed.named? (keyed.texts n member key listed)
  rw [named] at run
  cases found with
  | none =>
      obtain rfl := Outcome.pure_eq_ok.mp run
      refine iff_of_false Bool.false_ne_true ?_
      rintro ⟨o, inside, same, -⟩
      cases (known o).mpr ⟨inside, same⟩
  | some other =>
      obtain ⟨inside, same⟩ := (known other).mp rfl
      have unique : ∀ o ∈ nodes, o.key = key → o = other := fun o inside' same' =>
        keyed.unique inside' inside (same'.trans same.symm)
      change (if n.table.isNull || !other.table.same n.table then pure false
        else isLocal nodes fuel active other) = .ok b at run
      split at run
      · rename_i apart
        obtain rfl := Outcome.pure_eq_ok.mp run
        refine iff_of_false Bool.false_ne_true ?_
        rintro ⟨o, inside', same', table, shared, -⟩
        obtain rfl := unique o inside' same'
        rw [(apart_iff (placed n member) o.table).mpr ⟨table, shared⟩] at apart
        cases apart
      · rename_i together
        rw [Bool.not_eq_true, apart_iff (placed n member)] at together
        rw [finds other inside b run]
        constructor
        · exact fun near => ⟨other, inside, same, together.1, together.2, near⟩
        · rintro ⟨o, inside', same', -, -, near⟩
          exact unique o inside' same' ▸ near

/-- A node that is found to be local is near, and one that is found not to be is not. -/
theorem isLocal_ok (keyed : Keyed nodes) (placed : Placed nodes) (member : n ∈ nodes) {b : Bool}
    (run : isLocal nodes fuel active n = .ok b) : b = true ↔ Near nodes n := by
  induction fuel generalizing active n b with
  | zero => cases run
  | succ fuel ih =>
      rw [isLocal] at run
      split at run
      · rename_i free
        rw [← Except.ok.inj run]
        exact iff_of_true rfl (.inl (List.isEmpty_iff.mp free))
      · rename_i depends
        rw [List.isEmpty_iff] at depends
        split at run
        · cases run
        · rw [Near, or_iff_right depends, resident_iff keyed member depends]
          have finds : ∀ m ∈ nodes, ∀ b, isLocal nodes fuel (n.key :: active) m = .ok b →
              (b = true ↔ Near nodes m) := fun m inside b run => ih inside run
          cases b with
          | true =>
              refine iff_of_true rfl fun key listed => ?_
              have holds := Outcome.allM_true run key listed
              exact (dependency_ok keyed placed member listed finds holds).mp rfl
          | false =>
              refine iff_of_false Bool.false_ne_true fun all => ?_
              obtain ⟨key, listed, failed⟩ := Outcome.allM_false run
              cases (dependency_ok keyed placed member listed finds failed).mpr (all key listed)

/-! ## The split -/

theorem strategies_nodes {pairs : List (Strategy × MetricNode μ)}
    (run : strategies nodes = .ok pairs) : pairs.map (·.2) = nodes := by
  have same : List.Forall₂ (fun n pair => n = pair.2) nodes pairs := by
    refine (Outcome.mapM_ok run).imp fun n pair here => ?_
    obtain ⟨b, -, here⟩ := Outcome.bind_eq_ok.mp here
    rw [← Outcome.pure_eq_ok.mp here]
  rw [← List.forall₂_eq_eq_eq, List.forall₂_map_left_iff]
  exact same.flip.imp fun _ _ => Eq.symm

/-- Two classes that hold every node once, each in order. -/
structure Parted (nodes database software : List (MetricNode μ)) : Prop where
  once : (database ++ software).Perm nodes
  inOrder : database.Sublist nodes ∧ software.Sublist nodes

theorem split_parted {database software : List (MetricNode μ)}
    (run : split nodes = .ok (database, software)) : Parted nodes database software := by
  simp only [split, Outcome.bind_eq_ok, Outcome.pure_eq_ok, Prod.mk.injEq] at run
  obtain ⟨_, -, pairs, found, rfl, rfl⟩ := run
  have same := strategies_nodes found
  have other : pairs.filter (·.1 = .software) =
      pairs.filter fun pair => !decide (pair.1 = .database) := by
    refine List.filter_congr fun pair _ => ?_
    cases pair.1 <;> rfl
  refine ⟨?_, same ▸ List.filter_sublist.map _, same ▸ List.filter_sublist.map _⟩
  rw [← List.map_append, other, ← same]
  exact (List.filter_append_perm _ pairs).map _

/-- Without cycles nodes are split into those that are near and those that are not. -/
theorem split_near (keyed : Keyed nodes) (placed : Placed nodes)
    (acyclic : ∀ n, ¬ Reaches nodes n n) : ∃ database software,
      split nodes = .ok (database, software) ∧ Parted nodes database software ∧
        ∀ n ∈ nodes, n ∈ database ↔ Near nodes n := by
  obtain ⟨database, software, run, near, far, sides⟩ := split_ok keyed acyclic
  refine ⟨database, software, run, split_parted run, fun n member => ⟨fun listed => ?_, ?_⟩⟩
  · exact (isLocal_ok keyed placed member (near n listed).2).mp rfl
  · intro holds
    refine (sides n member).resolve_right fun listed => ?_
    cases (isLocal_ok keyed placed member (far n listed).2).mpr holds

end MetricNode
end Datacube
