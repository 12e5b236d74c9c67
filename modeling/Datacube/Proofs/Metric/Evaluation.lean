import Datacube.Plan.Run
import Datacube.Proofs.Entries
import Datacube.Proofs.Outcome

/-!
# Values of computed metrics

The value of a computed metric on a row is that of its formula for the values of the metrics that it
reads. Metrics that are evaluated one after the other, each after those that it reads, come to the
values that a recursion through the formulas gives, whatever their order is otherwise.
-/

namespace Datacube

/-! ## Formulas -/

namespace Formula
variable {read read' : String → Outcome (Option Float)}

mutual

/-- The value of a formula depends on the metrics that it reads only. -/
theorem evaluate_congr : (f : Formula) → (∀ name ∈ f.metrics, read name = read' name) →
    f.evaluate read = f.evaluate read'
  | null, _ => rfl
  | number _, _ => by rw [evaluate, evaluate]
  | metric name, same => by
      rw [evaluate, evaluate, same name (by simp [metrics])]
  | group e, same => by
      rw [evaluate, evaluate, evaluate_congr e (by simpa [metrics] using same)]
  | negate e, same => by
      rw [evaluate, evaluate, evaluate_congr e (by simpa [metrics] using same)]
  | combine op left right, same => by
      rw [metrics, List.forall_mem_append] at same
      rw [evaluate, evaluate, evaluate_congr left same.1, evaluate_congr right same.2]
  | nullIf e other, same => by
      rw [metrics, List.forall_mem_append] at same
      rw [evaluate, evaluate, evaluate_congr e same.1, evaluate_congr other same.2]
  | coalesce candidates, same => by
      rw [evaluate, evaluate, evaluateFirst_congr candidates (by simpa [metrics] using same)]
  | absolute e, same => by
      rw [evaluate, evaluate, evaluate_congr e (by simpa [metrics] using same)]
  | refused _, _ => by rw [evaluate, evaluate]

theorem evaluateFirst_congr : (candidates : List Formula) →
    (∀ name ∈ metricsOf candidates, read name = read' name) →
    evaluateFirst read candidates = evaluateFirst read' candidates
  | [], _ => by rw [evaluateFirst, evaluateFirst]
  | e :: rest, same => by
      rw [metricsOf, List.forall_mem_append] at same
      rw [evaluateFirst, evaluateFirst, evaluate_congr e same.1, evaluateFirst_congr rest same.2]

end

end Formula

/-! ## Computed metrics -/

namespace Computed
variable {c : Computed} {name : String}

theorem mem_addMissing {α : Type} [BEq α] {known names : List α} {x : α}
    (exact : Entries.Exact x) (member : x ∈ known ∨ x ∈ names) : x ∈ addMissing known names := by
  induction names generalizing known with
  | nil => exact member.resolve_right List.not_mem_nil
  | cons y rest ih =>
      refine ih ?_
      rw [List.mem_cons] at member
      dsimp only
      split
      · rename_i contained
        obtain ⟨z, inside, same⟩ := List.contains_iff_exists_mem_beq.mp contained
        rcases member with old | rfl | later
        · exact .inl old
        · exact .inl ((exact z).mp same ▸ inside)
        · exact .inr later
      · rw [List.mem_append, List.mem_singleton, or_assoc]
        exact member

theorem reads_depends (reads : name ∈ c.formula.metrics) : .text name ∈ c.dependencies := by
  refine mem_addMissing (Entries.exact_text name) (.inr (List.mem_map_of_mem ?_))
  exact mem_addMissing (Entries.exact_of_lawful name) (.inr reads)

theorem evaluate_congr {read read' : String → Outcome (Option Float)}
    (same : ∀ name ∈ c.formula.metrics, read name = read' name) :
    c.evaluate read = c.evaluate read' := by
  rw [evaluate, evaluate, run, run, Formula.evaluate_congr c.formula same]

/-! ## Evaluating dependencies first -/

/-- The value under an alias, with the computed metrics below it evaluated first, as deep as given.
What is no computed metric is read off the row. -/
def valueOf (computed : List Computed) (row : Row) : Nat → Value → Outcome Value
  | 0, _ => fail .endless
  | depth + 1, key => match computed.find? (·.aliasName == key) with
    | none => .ok (row.cell key)
    | some m => do
      let v ← m.evaluate fun name => do (← valueOf computed row depth (.text name)).toNumber
      v.normalizeNumber

/-- Entries of computed metrics under aliases that are texts of their own, each after those of the
metrics that it depends on. -/
structure Sorted (computed : List Computed) (plans : List ComputedPlan) : Prop where
  text : ∀ m ∈ computed, ∃ name, m.aliasName = .text name
  distinct : (computed.map (·.aliasName)).Nodup
  named : ∀ c ∈ plans, c.aliasName = c.metric.aliasName
  perm : (plans.map (·.metric)).Perm computed
  earlier : ∀ {before c after}, plans = before ++ c :: after →
    ∀ m ∈ computed, m.aliasName ∈ c.metric.dependencies → m ∈ before.map (·.metric)

/-- The row with the values of all computed metrics, and nothing else changed. -/
structure Evaluated (computed : List Computed) (row row' : Row) : Prop where
  value : ∀ m ∈ computed, ∃ v, valueOf computed row (computed.length + 1) m.aliasName = .ok v ∧
    row'.get? m.aliasName = some v
  rest : ∀ key, key ∉ computed.map (·.aliasName) → row'.get? key = row.get? key

/-- The row as it is after some entries. -/
structure Reached (computed : List Computed) (row : Row) (before : List ComputedPlan)
    (row' : Row) : Prop where
  value : ∀ m ∈ before.map (·.metric), ∃ v, row'.get? m.aliasName = some v ∧
    ∀ depth, before.length < depth → valueOf computed row depth m.aliasName = .ok v
  rest : ∀ key, key ∉ before.map (·.metric.aliasName) → row'.get? key = row.get? key

variable {computed : List Computed} {plans before after : List ComputedPlan} {row row' : Row}
  {c : ComputedPlan} {m : Computed} {depth : Nat}

theorem extend_eq : c.extend row =
    (row.put c.aliasName ·) <$> (c.metric.onRow row >>= Value.normalizeNumber) := by
  rw [ComputedPlan.extend, map_eq_pure_bind, bind_assoc]

section Sorted
variable (sorted : Sorted computed plans)
include sorted

theorem Sorted.find?_alias (member : m ∈ computed) :
    computed.find? (·.aliasName == m.aliasName) = some m := by
  obtain ⟨name, text⟩ := sorted.text m member
  rw [text]
  exact (Value.find?_text sorted.distinct).mpr ⟨member, text⟩

theorem Sorted.valueOf_eq (split : plans = before ++ c :: after)
    (reached : Reached computed row before row') (deep : before.length < depth) :
    valueOf computed row (depth + 1) c.aliasName =
      c.metric.onRow row' >>= Value.normalizeNumber := by
  have listed : ∀ c ∈ plans, c.metric ∈ computed :=
    fun c member => sorted.perm.subset (List.mem_map_of_mem member)
  have inside : c ∈ plans := split ▸ List.mem_append_right before List.mem_cons_self
  rw [valueOf, sorted.named c inside, sorted.find?_alias (listed c inside)]
  refine congrArg (· >>= Value.normalizeNumber) (evaluate_congr fun name reads => ?_)
  -- The row before the entry has the values of all metrics that its formula reads.
  suffices valueOf computed row depth (.text name) = .ok (row'.cell (.text name)) by
    rw [this]
    rfl
  by_cases aliased : ∃ m ∈ computed, m.aliasName = .text name
  · obtain ⟨m, member, same⟩ := aliased
    have early := sorted.earlier split m member (same ▸ reads_depends reads)
    obtain ⟨v, found, value⟩ := reached.value m early
    rw [← same, value depth deep, Row.cell, found]
    rfl
  · have none : computed.find? (·.aliasName == .text name) = none := by
      rw [List.find?_eq_none]
      intro m member same
      exact aliased ⟨m, member, (Value.beq_text m.aliasName name).mp same⟩
    obtain ⟨depth, rfl⟩ := Nat.exists_eq_add_of_lt deep
    rw [valueOf, none, Row.cell, Row.cell, reached.rest]
    intro known
    obtain ⟨c', early, same⟩ := List.mem_map.mp known
    exact aliased ⟨c'.metric, listed c' (split ▸ List.mem_append_left _ early), same⟩

/-- No two entries have one alias. -/
theorem Sorted.nodup : (plans.map (·.metric.aliasName)).Nodup := by
  have distinct := (sorted.perm.map (·.aliasName)).nodup_iff.mpr sorted.distinct
  rw [List.map_map] at distinct
  exact distinct

theorem Sorted.unique {c' : ComputedPlan} (inside : c ∈ plans) (inside' : c' ∈ plans)
    (same : c.aliasName = c'.aliasName) : c = c' := by
  rw [sorted.named c inside, sorted.named c' inside'] at same
  exact List.inj_on_of_nodup_map sorted.nodup inside inside' same

theorem Sorted.fresh (split : plans = before ++ c :: after) :
    c.metric.aliasName ∉ before.map (·.metric.aliasName) := by
  have distinct := sorted.nodup
  rw [split, List.map_append, List.nodup_append] at distinct
  exact fun early => distinct.2.2 _ early _ List.mem_cons_self rfl

theorem Sorted.reached_next (split : plans = before ++ c :: after)
    (reached : Reached computed row before row') {next : Row} (run : c.extend row' = .ok next) :
    Reached computed row (before ++ [c]) next := by
  have inside : c ∈ plans := split ▸ List.mem_append_right before List.mem_cons_self
  have fresh := sorted.fresh split
  have evaluates : ∀ depth, before.length < depth → valueOf computed row (depth + 1) c.aliasName =
      c.metric.onRow row' >>= Value.normalizeNumber :=
    fun depth => sorted.valueOf_eq split reached
  obtain ⟨name, text⟩ := sorted.text c.metric (sorted.perm.subset (List.mem_map_of_mem inside))
  rw [extend_eq, map_eq_pure_bind, Outcome.bind_eq_ok] at run
  obtain ⟨v, evaluated, put⟩ := run
  obtain rfl := Outcome.pure_eq_ok.mp put
  rw [sorted.named c inside, text] at evaluates ⊢
  constructor
  · intro m member
    rw [List.map_append, List.mem_append, List.map_singleton, List.mem_singleton] at member
    rcases member with early | rfl
    · obtain ⟨w, found, value⟩ := reached.value m early
      obtain ⟨c', member, rfl⟩ := List.mem_map.mp early
      refine ⟨w, ?_, fun depth deep => value depth ?_⟩
      · rw [Entries.get?_put_differs (Entries.exact_text name), found]
        rw [Value.beq_text]
        exact fun same => fresh (List.mem_map.mpr ⟨c', member, same.trans text.symm⟩)
      · rw [List.length_append] at deep
        omega
    · rw [text]
      refine ⟨v, Entries.get?_put_exact (Entries.exact_text name), fun depth deep => ?_⟩
      obtain ⟨depth, rfl⟩ := Nat.exists_eq_add_of_lt (Nat.zero_lt_of_lt deep)
      rw [List.length_append, List.length_singleton] at deep
      rw [Nat.zero_add, evaluates depth (by omega), evaluated]
  · intro key new
    rw [List.map_append, List.mem_append, not_or, List.map_singleton, List.mem_singleton] at new
    rw [Entries.get?_put_differs (Entries.exact_text name), reached.rest key new.1]
    rw [Value.beq_text]
    exact fun same => new.2 (same.trans text.symm)

theorem Sorted.reached (split : plans = before ++ after)
    (run : before.foldlM ComputedPlan.extend row = .ok row') :
    Reached computed row before row' := by
  refine Outcome.foldlM_induction (Reached computed row) run ⟨by simp, fun _ _ => rfl⟩ ?_
  rintro earlier c ⟨later, rfl⟩ a b reached stepped
  have next : plans = earlier ++ c :: (later ++ after) := by
    rw [split, List.append_assoc, List.append_assoc]
    rfl
  exact sorted.reached_next next reached stepped

theorem Sorted.length_eq : plans.length = computed.length := by
  rw [← sorted.perm.length_eq, List.length_map]

/-- Evaluating the metrics one after the other comes to what a recursion gives. -/
theorem Sorted.evaluated (run : plans.foldlM ComputedPlan.extend row = .ok row') :
    Evaluated computed row row' := by
  have reached := sorted.reached (List.append_nil plans).symm run
  constructor
  · intro m member
    obtain ⟨v, found, value⟩ := reached.value m (sorted.perm.mem_iff.mpr member)
    exact ⟨v, value _ (by rw [sorted.length_eq]; exact Nat.lt_succ_self _), found⟩
  · intro key new
    refine reached.rest key fun known => new ?_
    rw [← (sorted.perm.map (·.aliasName)).mem_iff, List.map_map]
    exact known

theorem Sorted.evaluates_iff :
    (∃ row', plans.foldlM ComputedPlan.extend row = .ok row') ↔
      ∀ m ∈ computed, ∃ v, valueOf computed row (computed.length + 1) m.aliasName = .ok v := by
  constructor
  · rintro ⟨row', run⟩ m member
    obtain ⟨v, value, -⟩ := (sorted.evaluated run).value m member
    exact ⟨v, value⟩
  · intro values
    cases run : plans.foldlM ComputedPlan.extend row with
    | ok row' => exact ⟨row', rfl⟩
    | error e =>
        obtain ⟨before, c, after, row', split, ran, failed⟩ := Outcome.foldlM_stops run
        have reached := sorted.reached split ran
        have inside : c ∈ plans := split ▸ List.mem_append_right before List.mem_cons_self
        obtain ⟨v, value⟩ := values c.metric (sorted.perm.subset (List.mem_map_of_mem inside))
        have deep : before.length < computed.length := by
          rw [← sorted.length_eq, split, List.length_append, List.length_cons]
          omega
        rw [← sorted.named c inside, sorted.valueOf_eq split reached deep] at value
        rw [extend_eq, value] at failed
        cases failed

end Sorted

theorem Sorted.moved {computed' : List Computed} (sorted : Sorted computed plans)
    (moved : computed.Perm computed') : Sorted computed' plans where
  text := fun m member => sorted.text m (moved.mem_iff.mpr member)
  distinct := (moved.map (·.aliasName)).nodup_iff.mp sorted.distinct
  named := sorted.named
  perm := sorted.perm.trans moved
  earlier := fun split m member => sorted.earlier split m (moved.mem_iff.mpr member)

theorem Evaluated.unique {row'' : Row} (evaluated : Evaluated computed row row')
    (evaluated' : Evaluated computed row row'') (key : Value) : row'.get? key = row''.get? key := by
  by_cases aliased : key ∈ computed.map (·.aliasName)
  · obtain ⟨m, member, rfl⟩ := List.mem_map.mp aliased
    obtain ⟨v, value, found⟩ := evaluated.value m member
    obtain ⟨v', value', found'⟩ := evaluated'.value m member
    rw [found, found', Except.ok.inj (value.symm.trans value')]
  · rw [evaluated.rest key aliased, evaluated'.rest key aliased]

end Computed

end Datacube
