import Datacube.Proofs.Plan.Cycles

/-!
# Stable orders of metrics

Ordering metrics finds a metric that depends on itself where there is one, and else moves them so
that each comes after those it depends on. Metrics that are in such an order already are not moved,
so ordering them again changes nothing.
-/

namespace Datacube

namespace MetricNode
variable {μ : Type} {nodes before after : List (MetricNode μ)} {n m : MetricNode μ}
  {fuel : Nat} {active : List Value} {done : Entries Value (MetricNode μ)}

/-- Every node comes after the nodes of the list that it depends on. -/
def Settled (nodes : List (MetricNode μ)) : Prop :=
  ∀ before n after, nodes = before ++ n :: after →
    ∀ m ∈ nodes, m.key ∈ n.dependencies → m ∈ before

def keyedBy (nodes : List (MetricNode μ)) : Entries Value (MetricNode μ) :=
  nodes.map fun n => (n.key, n)

theorem keys_keyedBy (nodes : List (MetricNode μ)) : (keyedBy nodes).keys = nodes.map (·.key) := by
  rw [keyedBy, Entries.keys, List.map_map]
  rfl

theorem values_keyedBy (nodes : List (MetricNode μ)) : (keyedBy nodes).values = nodes := by
  rw [keyedBy, Entries.values, List.map_map]
  exact List.map_id nodes

/-! ## Nodes in order -/

theorem visit_known (text : ∃ name, n.key = .text name) (known : n.key ∈ done.keys) :
    visit nodes (fuel + 1) active done n = .ok done := by
  obtain ⟨name, named⟩ := text
  rw [visit, if_pos ((Entries.has_iff (named ▸ Entries.exact_text name)).mpr known)]

/-- A node whose dependencies are all ordered comes right after the ordered ones. -/
theorem visit_ready (keyed : Keyed nodes) (member : n ∈ nodes) (new : n.key ∉ done.keys)
    (ready : ∀ m, Needs nodes n m → m.key ∈ done.keys) :
    visit nodes (fuel + 2) [] done n = .ok (done ++ [(n.key, n)]) := by
  obtain ⟨name, named⟩ := keyed.text n member
  have exact : Entries.Exact n.key := named ▸ Entries.exact_text name
  rw [visit, if_neg (by rwa [Entries.has_iff exact]), if_neg (by simp), Outcome.foldlM_fixed]
  · exact congrArg Except.ok (Entries.put_new exact new)
  · intro key depends
    obtain ⟨found, names, known⟩ := keyed.named? (keyed.texts n member key depends)
    rw [names]
    cases found with
    | none => rfl
    | some other =>
        obtain ⟨target, rfl⟩ := (known other).mp rfl
        exact visit_known (keyed.text other target) (ready other ⟨member, target, depends⟩)

theorem visitEach_settled (keyed : Keyed nodes) (settled : Settled nodes)
    (split : nodes = before ++ after) :
    after.foldlM (visit nodes (depth nodes) []) (keyedBy before) = .ok (keyedBy nodes) := by
  induction after generalizing before with
  | nil => rw [split, List.append_nil]; rfl
  | cons n rest ih =>
      have member : n ∈ nodes := split ▸ List.mem_append_right before List.mem_cons_self
      -- A visit goes down to the dependencies and no further, for these stand in front.
      obtain ⟨fuel, enough⟩ : ∃ fuel, depth nodes = fuel + 2 :=
        ⟨nodes.length - 1, by rw [depth]; have := List.length_pos_of_mem member; omega⟩
      have new : n.key ∉ (keyedBy before).keys := by
        have distinct := keyed.distinct
        rw [split, List.map_append, List.nodup_append] at distinct
        rw [keys_keyedBy]
        exact fun known => distinct.2.2 _ known _ List.mem_cons_self rfl
      have ready : ∀ m, Needs nodes n m → m.key ∈ (keyedBy before).keys := by
        intro m needs
        rw [keys_keyedBy]
        exact List.mem_map_of_mem (settled before n rest split m needs.target needs.depends)
      rw [List.foldlM_cons, enough, visit_ready keyed member new ready, ← enough]
      have next : nodes = (before ++ [n]) ++ rest := by rw [split, List.append_assoc]; rfl
      have same : keyedBy before ++ [(n.key, n)] = keyedBy (before ++ [n]) := by simp [keyedBy]
      rw [same]
      exact ih next

/-- Nodes that are in order stay as they are. -/
theorem resolve_settled (keyed : Keyed nodes) (settled : Settled nodes) :
    resolve nodes = .ok nodes := by
  have run := visitEach_settled keyed settled (List.nil_append nodes).symm
  rw [resolve, checkKeys_ok keyed]
  change (nodes.foldlM (visit nodes (depth nodes) []) (keyedBy []) >>= fun done =>
    pure done.values) = _
  rw [run]
  exact congrArg Except.ok (values_keyedBy nodes)

/-! ## Nodes in any order -/

section Ordered
variable (keyed : Keyed nodes) (ordered : Ordered nodes done)
include ordered

theorem Ordered.keys_eq : done.keys = done.values.map (·.key) := by
  rw [Entries.keys, Entries.values, List.map_map]
  exact List.map_congr_left fun e held => (ordered.keyed e held).1

theorem Ordered.perm (distinct : nodes.Nodup) (all : ∀ n ∈ nodes, n ∈ done.values) :
    done.values.Perm nodes := by
  have once : done.values.Nodup := .of_map (·.key) (ordered.keys_eq ▸ ordered.nodup)
  rw [List.perm_ext_iff_of_nodup once distinct]
  refine fun n => ⟨fun listed => ?_, all n⟩
  obtain ⟨e, held, rfl⟩ := List.mem_map.mp listed
  exact (ordered.keyed e held).2

include keyed

theorem Ordered.settled : Settled done.values := by
  intro before n after whole m listed depends
  obtain ⟨early, late, rfl, rfl, rest⟩ := List.map_eq_append_iff.mp whole
  obtain ⟨entry, later, rfl, rfl, -⟩ := List.map_eq_cons_iff.mp rest
  obtain ⟨e, held, rfl⟩ := List.mem_map.mp listed
  have target := (ordered.keyed e held).2
  have source := (ordered.keyed entry (by simp)).2
  obtain ⟨first, inside, same⟩ := List.mem_map.mp (ordered.split rfl ⟨source, target, depends⟩)
  obtain ⟨key, known⟩ := ordered.keyed first (List.mem_append_left _ inside)
  exact List.mem_map.mpr ⟨first, inside, keyed.unique known target (key.symm.trans same)⟩

end Ordered

theorem Keyed.nodup (keyed : Keyed nodes) : nodes.Nodup := .of_map (·.key) keyed.distinct

theorem resolve_circular_iff (keyed : Keyed nodes) :
    (∃ key, resolve nodes = refuse (.circularDependency key)) ↔ ∃ n, Reaches nodes n n := by
  constructor
  · rintro ⟨key, refused⟩
    obtain ⟨n, cycle, -⟩ := resolve_error keyed refused
    exact ⟨n, cycle⟩
  · rintro ⟨n, cycle⟩
    cases run : resolve nodes with
    | ok ordered => exact absurd cycle ((resolve_acyclic keyed).mp ⟨ordered, run⟩ n)
    | error e =>
        obtain ⟨m, -, rfl⟩ := resolve_error keyed run
        exact ⟨m.key, rfl⟩

/-- Ordering nodes names one on a cycle if there is any; else it moves them so that each comes after
those it depends on, which a second time changes nothing. Nodes that are in order stay as they are.
-/
theorem resolve_sorts (keyed : Keyed nodes) :
    ((∃ key, resolve nodes = refuse (.circularDependency key)) ↔ ∃ n, Reaches nodes n n) ∧
    (∀ key, resolve nodes = refuse (.circularDependency key) →
      ∃ n, n.key = key ∧ Reaches nodes n n) ∧
    ((∀ n, ¬ Reaches nodes n n) → ∃ ordered, resolve nodes = .ok ordered ∧
      ordered.Perm nodes ∧ Settled ordered ∧ resolve ordered = .ok ordered) ∧
    (Settled nodes → resolve nodes = .ok nodes) := by
  refine ⟨resolve_circular_iff keyed, fun key refused => ?_, fun acyclic => ?_,
    resolve_settled keyed⟩
  · obtain ⟨n, cycle, same⟩ := resolve_error keyed refused
    rw [Error.refused.injEq, Cause.circularDependency.injEq] at same
    exact ⟨n, same.symm, cycle⟩
  · obtain ⟨ordered, run⟩ := (resolve_acyclic keyed).mpr acyclic
    obtain ⟨done, order, rfl, all⟩ := resolve_ok keyed run
    have perm := order.perm keyed.nodup all
    have settled := order.settled keyed
    exact ⟨done.values, run, perm, settled, resolve_settled (keyed.perm perm.symm) settled⟩

/-- A margin requested before what it is computed from, and a metric that is not requested. -/
def margins : List (MetricNode Unit) :=
  [⟨"margin", "orders", ["profit", "revenue", "tax"], ()⟩,
    ⟨"profit", "orders", ["revenue", "cost", "cost"], ()⟩, ⟨"revenue", "orders", [], ()⟩,
    ⟨"cost", "orders", [], ()⟩]

/-- Metrics of which two read each other and a third one reads both. -/
def loop : List (MetricNode Unit) :=
  [⟨"total", "orders", ["net", "gross"], ()⟩, ⟨"net", "orders", ["gross"], ()⟩,
    ⟨"gross", "orders", ["net"], ()⟩]

theorem resolve_sorts_margins : Keyed margins ∧ Keyed loop ∧
    (∃ ordered, resolve margins = .ok ordered ∧ ordered ≠ margins ∧ ordered.Perm margins ∧
      Settled ordered ∧ resolve ordered = .ok ordered) ∧
    ∃ n, n.key = .text "net" ∧ Reaches loop n n := by
  have keyed : Keyed margins := by constructor <;> simp [margins]
  have keyed' : Keyed loop := by constructor <;> simp [loop]
  refine ⟨keyed, keyed', ?_, ?_⟩
  · have moved : (resolve margins).toOption.any (fun ordered =>
        ordered.head?.any (·.key.isText "revenue")) = true := by decide +kernel
    obtain ⟨ordered, run, moved⟩ := Outcome.any_ok moved
    obtain ⟨circular, -, sorts, -⟩ := resolve_sorts keyed
    have acyclic : ∀ n, ¬ Reaches margins n n := by
      intro n cycle
      obtain ⟨key, refused⟩ := circular.mpr ⟨n, cycle⟩
      rw [run] at refused
      cases refused
    obtain ⟨ordered', run', perm, settled, again⟩ := sorts acyclic
    obtain rfl := Except.ok.inj (run.symm.trans run')
    refine ⟨ordered, run, ?_, perm, settled, again⟩
    rintro rfl
    cases moved
  · have refused : resolve loop = refuse (.circularDependency "net") := rfl
    exact (resolve_sorts keyed').2.1 "net" refused

end MetricNode
end Datacube
