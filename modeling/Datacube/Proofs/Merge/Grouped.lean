import Datacube.Proofs.Merge.Accumulation
import Datacube.Proofs.Merge.Counting
import Datacube.Proofs.Merge.Sorting
import Datacube.Proofs.Value.Rank

/-!
# What grouping gives

Grouping rows whose dimension values can be sorted gives one row for each combination of them. It
has the accumulated metrics of the rows with this combination, and the rows are in the order of
their dimension values.
-/

namespace Datacube

deriving instance DecidableEq for Canon

namespace Row
variable {columns : List Value} {row other row' : Row}

instance (columns : List Value) (row other : Row) : Decidable (row.Alike columns other) :=
  decidable_of_iff (∀ c ∈ columns, (row.cell c).key? ≠ none ∧
    (row.cell c).key? = (other.cell c).key?) <| by
      refine forall₂_congr fun c _ => ?_
      rw [Option.ne_none_iff_exists']
      constructor
      · rintro ⟨⟨form, here⟩, same⟩
        exact ⟨form, here, same ▸ here⟩
      · rintro ⟨form, here, there⟩
        exact ⟨⟨form, here⟩, here.trans there.symm⟩

def ranks (columns : List Value) (row : Row) : List Rank := columns.map fun c => (row.cell c).rank

/-- The places of the values in the order that has texts before numbers. -/
def turns (columns : List Value) (row : Row) : List Rank :=
  columns.map fun c => (row.cell c).turned

theorem ranks_cons (column : Value) (rest : List Value) (row : Row) :
    row.ranks (column :: rest) = (row.cell column).rank :: row.ranks rest :=
  rfl

theorem turns_cons (column : Value) (rest : List Value) (row : Row) :
    row.turns (column :: rest) = (row.cell column).turned :: row.turns rest :=
  rfl

/-- The values of a row in some columns are keys, and no missing numbers. -/
structure Proper (columns : List Value) (row : Row) : Prop where
  keys : ∀ c ∈ columns, (row.cell c).isKey = true
  numbers : ∀ c ∈ columns, (row.cell c).isNaN = false

theorem Proper.of_cons {column : Value} {rest : List Value} (proper : row.Proper (column :: rest)) :
    row.Proper rest :=
  ⟨fun c later => proper.keys c (List.mem_cons_of_mem column later),
    fun c later => proper.numbers c (List.mem_cons_of_mem column later)⟩

/-- The values of two rows can be sorted, column by column. -/
def Sorts (columns : List Value) (row other : Row) : Prop :=
  ∀ c ∈ columns, (row.cell c).Sorts (other.cell c)

theorem Alike.symm (alike : row.Alike columns other) : other.Alike columns row := by
  intro c member
  obtain ⟨form, here, there⟩ := alike c member
  exact ⟨form, there, here⟩

theorem alike_congr (same : ∀ c ∈ columns, row.cell c = row'.cell c) :
    row.Alike columns other ↔ row'.Alike columns other :=
  forall₂_congr fun c member => by rw [same c member]

theorem alike_iff_cells (keys : ∀ c ∈ columns, (row.cell c).isKey = true)
    (keys' : ∀ c ∈ columns, (other.cell c).isKey = true) :
    row.Alike columns other ↔ (columns.map row.cell == columns.map other.cell) = true := by
  refine ⟨fun alike => ?_, fun equal => MergePlan.alike_of_cells equal ?_ ?_⟩
  · induction columns with
    | nil => rfl
    | cons column rest ih =>
        rw [List.forall_mem_cons] at keys keys'
        obtain ⟨form, here, there⟩ := alike column List.mem_cons_self
        rw [List.map_cons, List.map_cons, List.cons_beq_cons, Value.same_of_key? here there,
          Bool.true_and]
        exact ih keys.2 keys'.2 fun c later => alike c (List.mem_cons_of_mem column later)
  · simpa using keys
  · simpa using keys'

theorem Proper.alike_iff_ranks (proper : row.Proper columns) (proper' : other.Proper columns) :
    row.Alike columns other ↔ row.ranks columns = other.ranks columns := by
  rw [ranks, ranks, List.map_inj_left]
  refine forall₂_congr fun c member => ?_
  have key := proper.keys c member
  have key' := proper'.keys c member
  rw [← Value.same_iff_rank key key' (proper.numbers c member) (proper'.numbers c member)]
  constructor
  · rintro ⟨form, here, there⟩
    exact Value.same_of_key? here there
  · exact Value.key?_of_same key key'

theorem Sorts.proper (sorts : row.Sorts columns other) : row.Proper columns :=
  ⟨fun c member => (sorts c member).key, fun c member => (sorts c member).number⟩

theorem Sorts.proper' (sorts : row.Sorts columns other) : other.Proper columns :=
  ⟨fun c member => (sorts c member).key', fun c member => (sorts c member).number'⟩

theorem Sorts.alike_iff_ranks (sorts : row.Sorts columns other) :
    row.Alike columns other ↔ row.ranks columns = other.ranks columns :=
  sorts.proper.alike_iff_ranks sorts.proper'

theorem comesBefore_cons (a b : Value) (as bs : List Value) :
    MergePlan.comesBefore (a :: as) (b :: bs) =
      if a.same b then MergePlan.comesBefore as bs else a.before b :=
  rfl

/-- The first column in which two rows differ: it decides how they stand to each other, in the order
of values and in the one with texts before numbers. -/
structure Differs (columns : List Value) (row other : Row) (c : Value) : Prop where
  member : c ∈ columns
  apart : (row.cell c).rank ≠ (other.cell c).rank
  test : MergePlan.comesBefore (columns.map row.cell) (columns.map other.cell) =
    (row.cell c).before (other.cell c)
  ranks : row.ranks columns < other.ranks columns ↔ (row.cell c).rank < (other.cell c).rank
  turns : row.turns columns < other.turns columns ↔ (row.cell c).turned < (other.cell c).turned

theorem Proper.exists_differs (proper : row.Proper columns) (proper' : other.Proper columns) :
    (MergePlan.comesBefore (columns.map row.cell) (columns.map other.cell) = .ok false ∧
      row.ranks columns = other.ranks columns ∧ row.turns columns = other.turns columns) ∨
    ∃ c, row.Differs columns other c := by
  induction columns with
  | nil => exact .inl ⟨rfl, rfl, rfl⟩
  | cons column rest ih =>
      have key := proper.keys column List.mem_cons_self
      have key' := proper'.keys column List.mem_cons_self
      have number := proper.numbers column List.mem_cons_self
      have number' := proper'.numbers column List.mem_cons_self
      have equal := Value.same_iff_rank key key' number number'
      have equal' := Value.same_iff_turned key key' number number'
      cases same : (row.cell column).same (other.cell column) with
      | true =>
          have rank := equal.mp same
          have turned := equal'.mp same
          have skips : MergePlan.comesBefore ((column :: rest).map row.cell)
              ((column :: rest).map other.cell) =
                MergePlan.comesBefore (rest.map row.cell) (rest.map other.cell) :=
            (comesBefore_cons _ _ _ _).trans (if_pos same)
          rw [skips]
          rcases ih proper.of_cons proper'.of_cons with ⟨test, ranks, turns⟩ | ⟨c, differs⟩
          · refine .inl ⟨test, ?_, ?_⟩
            · rw [ranks_cons, ranks_cons, rank, ranks]
            · rw [turns_cons, turns_cons, turned, turns]
          · refine .inr ⟨c, List.mem_cons_of_mem _ differs.member, differs.apart,
              skips.trans differs.test, ?_, ?_⟩
            · rw [ranks_cons, ranks_cons, List.cons_lt_cons_iff, ← differs.ranks]
              simp [rank]
            · rw [turns_cons, turns_cons, List.cons_lt_cons_iff, ← differs.turns]
              simp [turned]
      | false =>
          have apart : (row.cell column).rank ≠ (other.cell column).rank := by
            simp [← equal, same]
          have apart' : (row.cell column).turned ≠ (other.cell column).turned := by
            simp [← equal', same]
          refine .inr ⟨column, List.mem_cons_self, apart, ?_, ?_, ?_⟩
          · rw [List.map_cons, List.map_cons, comesBefore_cons, same]
            rfl
          · rw [ranks_cons, ranks_cons, List.cons_lt_cons_iff]
            simp [apart]
          · rw [turns_cons, turns_cons, List.cons_lt_cons_iff]
            simp [apart']

/-- Sorting compares the places of values, from the first column on. -/
theorem Sorts.comesBefore_eq (sorts : row.Sorts columns other) :
    MergePlan.comesBefore (columns.map row.cell) (columns.map other.cell) =
      .ok (decide (row.ranks columns < other.ranks columns)) := by
  rcases sorts.proper.exists_differs sorts.proper' with ⟨test, same, -⟩ | ⟨c, differs⟩
  · simp [test, same]
  · rw [differs.test, (sorts c differs.member).before_eq differs.apart]
    simp only [differs.ranks]

end Row

theorem Value.equates_lists :
    Entries.Equates fun values : List Value => ∀ v ∈ values, v.isKey = true where
  symm := by
    intro as bs keys keys' equal
    induction as generalizing bs with
    | nil => cases bs <;> simp at equal ⊢
    | cons a as ih =>
        cases bs with
        | nil => simp at equal
        | cons b bs =>
            rw [List.forall_mem_cons] at keys keys'
            rw [List.cons_beq_cons, Bool.and_eq_true] at equal ⊢
            exact ⟨Value.same_symm keys.1 keys'.1 equal.1, ih keys.2 keys'.2 equal.2⟩
  trans := by
    intro as bs cs keys keys' keys'' equal equal'
    induction as generalizing bs cs with
    | nil => cases bs <;> simp_all
    | cons a as ih =>
        cases bs with
        | nil => simp at equal
        | cons b bs =>
            cases cs with
            | nil => simp at equal'
            | cons c cs =>
                rw [List.forall_mem_cons] at keys keys' keys''
                rw [List.cons_beq_cons, Bool.and_eq_true] at equal equal' ⊢
                exact ⟨Value.same_trans keys.1 keys'.1 equal.1 equal'.1,
                  ih keys.2 keys'.2 keys''.2 equal.2 equal'.2⟩

namespace MergePlan
variable {p : MergePlan} {rows result : List Row} {row row' out out' : Row}

/-- The aliases of dimensions and metrics are texts that differ from each other. -/
structure Named (p : MergePlan) : Prop where
  texts : ∀ c ∈ p.dimensions ++ p.metrics, ∃ s, c = .text s
  distinct : (p.dimensions ++ p.metrics).Nodup

/-- The dimension values of rows can be sorted, and their partial results can be read. -/
structure Groupable (p : MergePlan) (rows : List Row) : Prop where
  sorts : ∀ row ∈ rows, ∀ other ∈ rows, row.Sorts p.dimensions other
  readable : ∀ row ∈ rows, p.Readable row

/-- The result of grouping rows: a row for every combination of dimension values, with the values
of its first row and what the metrics accumulate over all its rows. -/
structure Grouped (p : MergePlan) (rows result : List Row) : Prop where
  covered : ∀ row ∈ rows, ∃ out ∈ result, out.Alike p.dimensions row
  distinct : result.Pairwise fun out out' => ¬ out.Alike p.dimensions out'
  first : ∀ out ∈ result, ∃ row, rows.find? (out.Alike p.dimensions ·) = some row ∧
    ∀ c ∈ p.dimensions, out.cell c = row.cell c
  columns : ∀ out ∈ result, out.keys = p.dimensions ++ p.metrics
  value : ∀ out ∈ result, ∀ m ∈ p.metrics, out.get? m = some
    (((rows.filter (out.Alike p.dimensions ·)).foldl
      (Accumulator.add (p.rollup m) m) .start).value (p.rollup m))
  null : ∀ out ∈ result, ∀ m ∈ p.metrics, p.rollup m ≠ .avg → (out.get? m = some .null ↔
    ∀ row ∈ rows, out.Alike p.dimensions row → Rollup.number? row m = none)
  ascending : result.Pairwise fun out out' => out.ranks p.dimensions < out'.ranks p.dimensions

/-! ## Rows of groups -/

theorem keys_pairs (columns : List Value) (f : Value → Value) :
    Entries.keys (columns.map fun c => (c, f c)) = columns := by
  rw [Entries.keys, List.map_map]
  exact List.map_id columns

theorem resultRow_eq (named : p.Named) (row : Row) (members : List Row) :
    p.resultRow (p.groupKey row) members = p.dimensions.map (fun c => (c, row.cell c)) ++
      p.metrics.map fun m => (m, (p.rollup m).combine m members) := by
  have exact : ∀ c ∈ p.dimensions ++ p.metrics, Entries.Exact c := by
    intro c member
    obtain ⟨s, rfl⟩ := named.texts c member
    exact Entries.exact_text s
  have heads : Entries.ofPairs (p.dimensions.zip (p.groupKey row)) =
      p.dimensions.map fun c => (c, row.cell c) := by
    rw [groupKey, ← List.map_prod_left_eq_zip]
    refine Entries.ofPairs_of_nodup ?_ ?_
    · intro pair listed
      obtain ⟨c, member, rfl⟩ := List.mem_map.mp listed
      exact exact c (List.mem_append_left _ member)
    · rw [← Entries.keys, keys_pairs]
      exact (List.nodup_append.mp named.distinct).1
  have put : p.resultRow (p.groupKey row) members =
      Entries.putAll (p.dimensions.map fun c => (c, row.cell c))
        (p.metrics.map fun m => (m, (p.rollup m).combine m members)) := by
    rw [resultRow, heads, Entries.putAll, List.foldl_map]
  rw [put]
  refine Entries.putAll_new ?_ ?_
  · intro pair listed
    obtain ⟨m, member, rfl⟩ := List.mem_map.mp listed
    exact exact m (List.mem_append_right _ member)
  · rw [← Entries.keys, keys_pairs, keys_pairs]
    exact named.distinct

theorem columns_resultRow (named : p.Named) (row : Row) (members : List Row) :
    (p.resultRow (p.groupKey row) members).keys = p.dimensions ++ p.metrics := by
  rw [resultRow_eq named, Entries.keys, List.map_append, ← Entries.keys, ← Entries.keys, keys_pairs,
    keys_pairs]

theorem get?_resultRow (named : p.Named) {members : List Row} {k v : Value}
    (member : (k, v) ∈ p.resultRow (p.groupKey row) members) :
    (p.resultRow (p.groupKey row) members).get? k = some v := by
  have columns := columns_resultRow named row members
  obtain ⟨s, rfl⟩ := named.texts k (columns ▸ List.mem_map_of_mem member)
  exact Entries.get?_of_mem (Entries.exact_text s) (columns ▸ named.distinct) member

theorem cell_resultRow (named : p.Named) (members : List Row) {c : Value}
    (requested : c ∈ p.dimensions) :
    (p.resultRow (p.groupKey row) members).cell c = row.cell c := by
  have listed : (c, row.cell c) ∈ p.resultRow (p.groupKey row) members := by
    rw [resultRow_eq named]
    exact List.mem_append_left _ (List.mem_map_of_mem requested)
  rw [Row.cell, get?_resultRow named listed, Option.getD_some]

/-- The result row of the group of a row: it has the values of this row and combines the metrics of
all rows that are like it. -/
structure Heads (p : MergePlan) (rows : List Row) (row out : Row) : Prop where
  first : rows.find? (row.Alike p.dimensions ·) = some row
  cells : ∀ c ∈ p.dimensions, out.cell c = row.cell c
  columns : out.keys = p.dimensions ++ p.metrics
  value : ∀ m ∈ p.metrics, out.get? m =
    some ((p.rollup m).combine m (rows.filter (row.Alike p.dimensions ·)))

theorem heads_resultRow (named : p.Named)
    (first : rows.find? (row.Alike p.dimensions ·) = some row) :
    p.Heads rows row
      (p.resultRow (p.groupKey row) (rows.filter (row.Alike p.dimensions ·))) := by
  refine ⟨first, fun c requested => cell_resultRow named _ requested, columns_resultRow named row _,
    fun m listed => get?_resultRow named ?_⟩
  rw [resultRow_eq named]
  exact List.mem_append_right _ (List.mem_map_of_mem listed)

theorem Heads.alike (heads : p.Heads rows row out) :
    (fun other => decide (out.Alike p.dimensions other)) =
      fun other => decide (row.Alike p.dimensions other) :=
  funext fun _ => decide_eq_decide.mpr (Row.alike_congr heads.cells)

theorem Named.keys (named : p.Named) (keys : ∀ c ∈ p.dimensions, (row.cell c).isKey = true) :
    ∀ v ∈ p.dimensions ++ p.groupKey row ++ p.metrics, v.isKey = true := by
  have texts : ∀ v ∈ p.dimensions ++ p.metrics, v.isKey = true := by
    intro v name
    obtain ⟨s, rfl⟩ := named.texts v name
    rfl
  intro v listed
  simp only [List.mem_append] at listed
  rcases listed with (dimension | key) | metric
  · exact texts v (List.mem_append_left _ dimension)
  · obtain ⟨c, requested, rfl⟩ := List.mem_map.mp key
    exact keys c requested
  · exact texts v (List.mem_append_right _ metric)

/-! ## Groups -/

section Groups
variable (groupable : p.Groupable rows)
include groupable

theorem Groupable.keys (member : row ∈ rows) : ∀ c ∈ p.dimensions, (row.cell c).isKey = true :=
  fun c requested => (groupable.sorts row member row member c requested).key

theorem Groupable.alike_iff (member : row ∈ rows) (member' : out ∈ rows) :
    row.Alike p.dimensions out ↔ (p.groupKey row == p.groupKey out) = true :=
  Row.alike_iff_cells (groupable.keys member) (groupable.keys member')

theorem Groupable.alike_self (member : row ∈ rows) : row.Alike p.dimensions row :=
  (groupable.sorts row member row member).alike_iff_ranks.mpr rfl

/-- Every group has the key of its first row and all rows that are like it. -/
theorem Groupable.group (named : p.Named) {e : List Value × List Row} (member : e ∈ p.groups rows) :
    ∃ row ∈ rows, e.1 = p.groupKey row ∧ e.2 = rows.filter (row.Alike p.dimensions ·) ∧
      p.Heads rows row (p.resultRow e.1 e.2) := by
  obtain ⟨inside, first, rest, begins, key, -⟩ := Entries.mem_grouped member
  have listed : first ∈ rows := inside.subset (begins ▸ List.mem_cons_self)
  have kind : ∀ row ∈ rows, ∀ v ∈ p.groupKey row, v.isKey = true := by
    intro row here v inside
    obtain ⟨c, requested, rfl⟩ := List.mem_map.mp inside
    exact groupable.keys here c requested
  -- A row is like itself, as none of its values is a missing number; so its group is found again.
  have reflexive := (groupable.alike_iff listed listed).mp (groupable.alike_self listed)
  have all := Entries.group_eq_filter Value.equates_lists kind member (key ▸ reflexive)
  have alike : e.2 = rows.filter (first.Alike p.dimensions ·) := by
    rw [all, ← key]
    refine List.filter_congr fun row here => ?_
    rw [Bool.eq_iff_iff, decide_eq_true_iff]
    exact (groupable.alike_iff listed here).symm
  have found : rows.find? (first.Alike p.dimensions ·) = some first := by
    rw [← List.head?_filter, ← alike, begins]
    rfl
  refine ⟨first, listed, key.symm, alike, ?_⟩
  rw [← key, alike]
  exact heads_resultRow named found

theorem Groupable.sorts_heads (heads : p.Heads rows row out) (listed : row ∈ rows)
    (heads' : p.Heads rows row' out') (listed' : row' ∈ rows) : out.Sorts p.dimensions out' := by
  intro c requested
  rw [heads.cells c requested, heads'.cells c requested]
  exact groupable.sorts row listed row' listed' c requested

theorem Groupable.checked (named : p.Named) : rows.forM p.check = .ok () :=
  Outcome.forM_eq_ok.mpr fun row member =>
    (check_iff (named.keys (groupable.keys member))).mpr (groupable.readable row member)

theorem Groupable.sort_eq_ok (named : p.Named) : ∃ result, p.group rows = .ok result ∧
    result.Perm ((p.groups rows).map fun e => p.resultRow e.1 e.2) ∧
      result.Pairwise fun out out' => out.ranks p.dimensions ≤ out'.ranks p.dimensions := by
  have compares : Merge.Compares (fun a b => comesBefore (p.sortKey a) (p.sortKey b))
      (Row.ranks p.dimensions) ((p.groups rows).map fun e => p.resultRow e.1 e.2) := by
    intro out member out' member'
    obtain ⟨e, grouped, rfl⟩ := List.mem_map.mp member
    obtain ⟨e', grouped', rfl⟩ := List.mem_map.mp member'
    obtain ⟨row, listed, -, -, heads⟩ := groupable.group named grouped
    obtain ⟨row', listed', -, -, heads'⟩ := groupable.group named grouped'
    have sorts := groupable.sorts_heads heads listed heads' listed'
    exact sorts.comesBefore_eq.trans (congrArg _ (decide_eq_decide.mpr Iff.rfl))
  obtain ⟨result, sorted, ascending, perm⟩ := Merge.sort_eq_ok compares
  exact ⟨result, Outcome.bind_eq_ok.mpr ⟨(), groupable.checked named, sorted⟩, perm, ascending⟩

theorem Groupable.covered (named : p.Named) (member : row ∈ rows) :
    ∃ e ∈ p.groups rows, (p.resultRow e.1 e.2).Alike p.dimensions row := by
  have inside := (Entries.grouped_perm p.groupKey rows).mem_iff.mpr member
  obtain ⟨e, grouped, inside⟩ := List.mem_flatMap.mp inside
  obtain ⟨first, -, -, all, heads⟩ := groupable.group named grouped
  rw [all] at inside
  exact ⟨e, grouped, (Row.alike_congr heads.cells).mpr
    (of_decide_eq_true (List.mem_filter.mp inside).2)⟩

theorem Groupable.distinct (named : p.Named) :
    ((p.groups rows).map fun e => p.resultRow e.1 e.2).Pairwise fun out out' =>
      ¬ out.Alike p.dimensions out' := by
  have apart := List.pairwise_map.mp (Entries.grouped_apart p.groupKey rows)
  refine List.pairwise_map.mpr (apart.imp_of_mem fun {e e'} member member' differ alike => ?_)
  obtain ⟨row, listed, key, -, heads⟩ := groupable.group named member
  obtain ⟨row', listed', key', -, heads'⟩ := groupable.group named member'
  have alike : row'.Alike p.dimensions row :=
    ((Row.alike_congr heads'.cells).mp ((Row.alike_congr heads.cells).mp alike).symm)
  rw [key, key', (groupable.alike_iff listed' listed).mp alike] at differ
  cases differ

end Groups

/-- Rows whose dimension values can be sorted, and whose partial results can be read, are grouped
by their dimension values. -/
theorem group_grouped (named : p.Named) (groupable : p.Groupable rows) :
    ∃ result, p.group rows = .ok result ∧ p.Grouped rows result := by
  obtain ⟨result, answered, perm, ascending⟩ := groupable.sort_eq_ok named
  have each : ∀ out ∈ result, ∃ row ∈ rows, p.Heads rows row out := by
    intro out member
    obtain ⟨e, grouped, rfl⟩ := List.mem_map.mp (perm.subset member)
    obtain ⟨row, listed, -, -, heads⟩ := groupable.group named grouped
    exact ⟨row, listed, heads⟩
  have distinct : result.Pairwise fun out out' => ¬ out.Alike p.dimensions out' :=
    (perm.pairwise_iff fun differ alike => differ alike.symm).mpr (groupable.distinct named)
  refine ⟨result, answered, fun row member => ?_, distinct, fun out member => ?_,
    fun out member => ?_, fun out member m listed => ?_, fun out member m listed apart => ?_, ?_⟩
  · obtain ⟨e, grouped, alike⟩ := groupable.covered named member
    exact ⟨_, perm.symm.subset (List.mem_map_of_mem grouped), alike⟩
  · obtain ⟨row, -, heads⟩ := each out member
    exact ⟨row, heads.alike ▸ heads.first, heads.cells⟩
  · obtain ⟨row, -, heads⟩ := each out member
    exact heads.columns
  · obtain ⟨row, -, heads⟩ := each out member
    rw [heads.value m listed, heads.alike, Accumulator.value_foldl]
  · obtain ⟨row, -, heads⟩ := each out member
    rw [heads.value m listed, ← heads.alike, Option.some_inj,
      Accumulator.combine_eq_null apart]
    simp
  · -- Rows of different groups have different places, so the order is strict.
    refine (ascending.and distinct).imp_of_mem fun {out out'} member member' ⟨before, differ⟩ => ?_
    obtain ⟨row, listed, heads⟩ := each out member
    obtain ⟨row', listed', heads'⟩ := each out' member'
    have sorts := groupable.sorts_heads heads listed heads' listed'
    exact lt_of_le_of_ne before fun equal => differ (sorts.alike_iff_ranks.mpr equal)

/-- Totals and average rates by city and year. -/
def tour : MergePlan where
  primary := "sales"
  relations := []
  dimensions := ["city", "year"]
  metrics := ["total", "rate"]
  rollups := [("total", .max), ("rate", .avg)]
  filters := .object []
  joinAliases := []

/-- One year is written as two kinds of number, and one city is null in a row and missing in another
one. -/
def tourRows : List Row :=
  [[("city", "Rome"), ("year", .int 2024), ("total", .int 5), ("rate__sum", .float 1.5),
      ("rate__count", .int 2)],
    [("city", .null), ("year", .int 2023), ("total", .null)],
    [("city", "Rome"), ("year", .float 2024.0), ("total", .float 2.5)],
    [("year", .bool true), ("total", "7")], [("year", .int 2023)]]

theorem group_grouped_tour : tour.Named ∧ tour.Groupable tourRows ∧
    ∃ result, tour.group tourRows = .ok result ∧ tour.Grouped tourRows result := by
  have named : tour.Named := ⟨by simp [tour], by simp [tour]⟩
  have sorts : tourRows.all (fun row => tourRows.all fun other => tour.dimensions.all fun c =>
      (row.cell c).isKey && (other.cell c).isKey && !(row.cell c).isNaN && !(other.cell c).isNaN &&
        ((row.cell c).isNull || (other.cell c).isNull ||
          ((row.cell c).order (other.cell c)).toBool)) = true := by decide +kernel
  have readable : tourRows.all (fun row => tour.metrics.all fun m =>
      ((tour.rollup m).partials m).all fun column => (row.cell column).toNumber.toBool) = true := by
    decide +kernel
  simp only [List.all_eq_true, Bool.and_eq_true, Bool.or_eq_true, Bool.not_eq_true'] at sorts
  simp only [List.all_eq_true] at readable
  have groupable : tour.Groupable tourRows := by
    refine ⟨fun row member other member' c requested => ?_,
      fun row member m listed column part => ?_⟩
    · obtain ⟨⟨⟨⟨key, key'⟩, number⟩, number'⟩, ordered⟩ :=
        sorts row member other member' c requested
      refine ⟨key, key', number, number', fun set set' => Outcome.exists_ok ?_⟩
      simpa [set, set'] using ordered
    · exact Outcome.exists_ok (readable row member m listed column part)
  exact ⟨named, groupable, group_grouped named groupable⟩

end MergePlan
end Datacube
