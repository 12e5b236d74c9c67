import Datacube.Proofs.Grouping
import Datacube.Proofs.Outcome
import Datacube.Merge.Group

/-!
# Results without dimensions

Without dimensions all merged rows are one group, whose row holds every metric: null where no merged
row has a number for it. Where nothing is merged there is no group and no row, unlike in the answer
of a query that aggregates without grouping.
-/

namespace Datacube
open Rollup

/-- The partial results of all metrics in a row can be read. -/
def MergePlan.Readable (p : MergePlan) (row : Row) : Prop :=
  ∀ m ∈ p.metrics, ∀ column ∈ (p.rollup m).partials m, ∃ x, (row.cell column).toNumber = .ok x

/-- The one row of an aggregate over rows: the metrics with what is combined for each, which is null
when no row carries a number for it. -/
structure MergePlan.Totals (p : MergePlan) (rows : List Row) (row : Row) : Prop where
  aliases : ∀ key, key ∈ row.keys ↔ key ∈ p.metrics
  distinct : row.keys.Nodup
  value : ∀ m ∈ p.metrics, row.get? m = some ((p.rollup m).combine m rows)
  null : ∀ m ∈ p.metrics, (∀ r ∈ rows, ∀ column ∈ (p.rollup m).partials m,
    number? r column = none) → row.get? m = some .null

/-! ## Metrics without a number -/

theorem Rollup.numbers_eq_nil {rows : List Row} {column : Value} :
    numbers rows column = [] ↔ ∀ row ∈ rows, number? row column = none :=
  List.filterMap_eq_nil_iff

/-- What no row carries a number for is combined to null. -/
theorem Rollup.combine_null {r : Rollup} {aliasName : Value} {rows : List Row}
    (none : ∀ row ∈ rows, ∀ column ∈ r.partials aliasName, number? row column = none) :
    r.combine aliasName rows = .null := by
  have absent : ∀ column ∈ r.partials aliasName, numbers rows column = [] :=
    fun column listed => numbers_eq_nil.mpr fun row member => none row member column listed
  cases r with
  | avg => simp [combine, absent _ List.mem_cons_self]
  | _ => rw [combine, absent _ List.mem_cons_self]

namespace MergePlan
variable {p : MergePlan} {row : Row} {rows kept : List Row} {results : Entries Value (List Row)}

theorem check_iff (keys : ∀ v ∈ p.dimensions ++ p.groupKey row ++ p.metrics, v.isKey = true) :
    p.check row = .ok () ↔ p.Readable row := by
  have step : p.check row = p.metrics.forM fun m => ((p.rollup m).partials m).forM fun column => do
      let _ ← (row.cell column).toNumber
      return () := by
    rw [check, List.all_eq_true.mpr keys]
    rfl
  simp only [step, Outcome.forM_eq_ok, Outcome.bind_eq_ok, Outcome.pure_eq_ok, and_true]
  rfl

theorem readable_of_check (checked : p.check row = .ok ()) : p.Readable row := by
  cases keys : (p.dimensions ++ p.groupKey row ++ p.metrics).all (·.isKey) with
  | false =>
      rw [check, keys] at checked
      cases checked
  | true => exact (check_iff (List.all_eq_true.mp keys)).mp checked

theorem get?_metric {m : Value} (texts : ∀ m ∈ p.metrics, ∃ name, m = .text name)
    (key : List Value) (members : List Row) (listed : m ∈ p.metrics) :
    (p.resultRow key members).get? m = some ((p.rollup m).combine m members) := by
  have put : p.resultRow key members = Entries.putAll (Entries.ofPairs (p.dimensions.zip key))
      (p.metrics.map fun m => (m, (p.rollup m).combine m members)) := by
    rw [resultRow, Entries.putAll, List.foldl_map]
  have exact : ∀ m ∈ p.metrics, Entries.Exact m := by
    intro m member
    obtain ⟨name, rfl⟩ := texts m member
    exact Entries.exact_text name
  rw [put, Entries.get?_putAll_map exact listed]

/-! ## One group -/

section Ungrouped
variable (ungrouped : p.dimensions = [])
include ungrouped

theorem groups_ungrouped (filled : rows ≠ []) : p.groups rows = [([], rows)] := by
  have key : ∀ row, p.groupKey row = [] := fun row => by rw [groupKey, ungrouped]; rfl
  obtain ⟨first, rest, rfl⟩ := List.exists_cons_of_ne_nil filled
  change Entries.grouped p.groupKey (first :: rest) = _
  induction rest using List.reverseRecOn with
  | nil =>
      rw [Entries.grouped, List.foldl_cons, key]
      rfl
  | append_singleton rest row ih =>
      rw [← List.cons_append, Entries.grouped_concat, ih (List.cons_ne_nil first rest), key]
      rfl

theorem resultRow_ungrouped : p.resultRow [] rows =
    Entries.ofPairs (p.metrics.map fun m => (m, (p.rollup m).combine m rows)) := by
  rw [resultRow, ungrouped]
  exact (List.foldl_map (f := fun m => (m, (p.rollup m).combine m rows))
    (g := fun acc pair => Entries.put acc pair.1 pair.2)).symm

theorem check_ungrouped (texts : ∀ m ∈ p.metrics, ∃ name, m = .text name) :
    p.check row = .ok () ↔ p.Readable row := by
  apply check_iff
  rw [groupKey, ungrouped]
  intro m member
  obtain ⟨name, rfl⟩ := texts m (by simpa using member)
  rfl

theorem totals_resultRow (texts : ∀ m ∈ p.metrics, ∃ name, m = .text name) :
    p.Totals rows (p.resultRow [] rows) := by
  have exact : ∀ pair ∈ p.metrics.map fun m => (m, (p.rollup m).combine m rows),
      Entries.Exact pair.1 := by
    intro pair listed
    obtain ⟨m, member, rfl⟩ := List.mem_map.mp listed
    obtain ⟨name, rfl⟩ := texts m member
    exact Entries.exact_text name
  have aliases : ∀ key, key ∈ (p.resultRow [] rows).keys ↔ key ∈ p.metrics := by
    intro key
    rw [resultRow_ungrouped ungrouped, Entries.mem_keys_ofPairs exact, List.map_map]
    exact iff_of_eq (congrArg (key ∈ ·) (List.map_id p.metrics))
  have value : ∀ m ∈ p.metrics,
      (p.resultRow [] rows).get? m = some ((p.rollup m).combine m rows) :=
    fun m member => get?_metric texts [] rows member
  refine ⟨aliases, ?_, value, fun m member none => ?_⟩
  · rw [resultRow_ungrouped ungrouped]
    exact Entries.nodup_keys_ofPairs exact
  · rw [value m member, combine_null none]

/-- Merged rows without dimensions come to one row with all metrics exactly when there are any and
their partial results can be read. Where there are none, the result has no row. -/
theorem run_ungrouped_iff (texts : ∀ m ∈ p.metrics, ∃ name, m = .text name)
    (merged : mergeResults p.primary p.relations results = .ok rows)
    (filtered : Row.filterAll p.filters rows = .ok kept) :
    (kept = [] → p.run results = .ok []) ∧
    ((∃ row, p.run results = .ok [row] ∧ p.Totals kept row) ↔
      kept ≠ [] ∧ ∀ row ∈ kept, p.Readable row) := by
  have run : p.run results = p.group kept := by
    rw [MergePlan.run, merged]
    exact congrArg (· >>= p.group) filtered
  have none : kept = [] → p.run results = .ok [] := by
    rintro rfl
    exact run
  refine ⟨none, ?_⟩
  constructor
  · rintro ⟨row, answered, -⟩
    refine ⟨fun empty => ?_, fun row member => ?_⟩
    · rw [none empty] at answered
      cases answered
    · rw [run, MergePlan.group] at answered
      obtain ⟨⟨⟩, checked, -⟩ := Outcome.bind_eq_ok.mp answered
      exact (check_ungrouped ungrouped texts).mp (Outcome.forM_ok checked row member)
  · rintro ⟨filled, readable⟩
    refine ⟨p.resultRow [] kept, ?_, totals_resultRow ungrouped texts⟩
    have checked : kept.forM p.check = .ok () :=
      Outcome.forM_eq_ok.mpr fun row member =>
        (check_ungrouped ungrouped texts).mpr (readable row member)
    rw [run, MergePlan.group, checked, groups_ungrouped ungrouped filled]
    rfl

end Ungrouped

/-- Turnovers of orders and cases of tickets, merged by customers. -/
def care (type : String) : MergePlan where
  primary := "orders"
  relations := [⟨"customer", "orders", "tickets", .text type, "customer", "customer"⟩]
  dimensions := []
  metrics := ["turnover", "cases"]
  rollups := []
  filters := .object []
  joinAliases := []

/-- Two orders of one customer, and a ticket of another. -/
def careResults : Entries Value (List Row) :=
  [("orders", [[("customer", .int 1), ("turnover", .float 2.5)],
      [("customer", .int 1), ("turnover", .null)]]),
    ("tickets", [[("customer", .int 2), ("cases", .float 1.0)]])]

theorem run_ungrouped_left : ∃ rows row,
    mergeResults "orders" (care "left").relations careResults = .ok rows ∧
    (care "left").run careResults = .ok [row] ∧ (care "left").Totals rows row := by
  have texts : ∀ m ∈ (care "left").metrics, ∃ name, m = .text name := by
    simp [care]
  have made : (mergeResults "orders" (care "left").relations careResults).toOption.any (fun rows =>
      !rows.isEmpty && rows.all fun row => (care "left").metrics.all fun m =>
        (row.cell m).toNumber.toBool) := by decide +kernel
  obtain ⟨rows, merged, checked⟩ := Outcome.any_ok made
  rw [Bool.and_eq_true, List.all_eq_true] at checked
  have readable : ∀ row ∈ rows, (care "left").Readable row := by
    intro row member m listed column partial'
    obtain rfl := List.mem_singleton.mp partial'
    exact Outcome.exists_ok (List.all_eq_true.mp (checked.2 row member) column listed)
  obtain ⟨row, answered, totals⟩ :=
    (run_ungrouped_iff rfl texts merged rfl).2.mpr ⟨by simpa using checked.1, readable⟩
  exact ⟨rows, row, merged, answered, totals⟩

/-- Where no rows match there is no row of totals. -/
theorem run_ungrouped_inner : (care "inner").dimensions = [] ∧ (care "inner").metrics ≠ [] ∧
    (∃ rows, mergeResults "orders" (care "inner").relations careResults = .ok rows) ∧
    (care "inner").run careResults = .ok [] := by
  have none : ((care "inner").run careResults).toOption.any (·.isEmpty) := by decide +kernel
  obtain ⟨rows, answered, none⟩ := Outcome.any_ok none
  refine ⟨rfl, List.cons_ne_nil _ _, Outcome.exists_ok (by decide +kernel), ?_⟩
  rw [answered, List.isEmpty_iff.mp none]

end MergePlan
end Datacube
