import Datacube.Proofs.Merge.Grouped
import Datacube.Proofs.Value.Verdict

/-!
# Filtering before and after grouping

Filters of dimensions say the same of all rows of a group, so the kept groups are the groups of the
kept rows. Result rows are sorted by values that need not all have an order: it is enough that the
sort never comes to a number and a text. Such a sort does as well with texts before numbers as
behind them, so where it has a result the rows stand in both orders, and any two of them can be
compared. Then leaving groups out changes nothing in the order of the others.
-/

namespace Datacube

namespace Row
variable {columns : List Value} {row other : Row} {rows kept : List Row}

/-! ## Rows that can be compared -/

/-- Where a comparison of rows has a result, it is that of both orders. -/
theorem Proper.comesBefore_decides (proper : row.Proper columns) (proper' : other.Proper columns)
    {before : Bool}
    (test : MergePlan.comesBefore (columns.map row.cell) (columns.map other.cell) = .ok before) :
    before = decide (row.ranks columns < other.ranks columns) ∧
      before = decide (row.turns columns < other.turns columns) := by
  rcases proper.exists_differs proper' with ⟨equal, ranks, turns⟩ | ⟨c, differs⟩
  · rw [equal, Except.ok.injEq] at test
    simp [← test, ranks, turns]
  · rw [differs.test] at test
    have sorts := Value.sorts_of_before (proper.keys c differs.member)
      (proper'.keys c differs.member) (proper.numbers c differs.member)
      (proper'.numbers c differs.member) test
    rw [sorts.before_eq differs.apart, Except.ok.injEq] at test
    simp only [← test, differs.ranks, differs.turns, sorts.turned_lt_iff, and_self]

/-- One row stands before another in both orders, or in neither. -/
def InStep (columns : List Value) (row other : Row) : Prop :=
  row.ranks columns < other.ranks columns ↔ row.turns columns < other.turns columns

theorem Proper.comesBefore_eq (proper : row.Proper columns) (proper' : other.Proper columns)
    (inStep : InStep columns row other) :
    MergePlan.comesBefore (columns.map row.cell) (columns.map other.cell) =
      .ok (decide (row.ranks columns < other.ranks columns)) := by
  rcases proper.exists_differs proper' with ⟨equal, ranks, -⟩ | ⟨c, differs⟩
  · simp [equal, ranks]
  · rw [InStep, differs.ranks, differs.turns] at inStep
    have sorts := Value.sorts_of_turned (proper.keys c differs.member)
      (proper'.keys c differs.member) (proper.numbers c differs.member)
      (proper'.numbers c differs.member) differs.apart inStep
    rw [differs.test, sorts.before_eq differs.apart]
    simp only [differs.ranks]

theorem Proper.ranks_eq_iff (proper : row.Proper columns) (proper' : other.Proper columns) :
    row.ranks columns = other.ranks columns ↔ row.turns columns = other.turns columns := by
  rw [ranks, ranks, turns, turns, List.map_inj_left, List.map_inj_left]
  refine forall₂_congr fun c member => ?_
  have key := proper.keys c member
  have key' := proper'.keys c member
  have number := proper.numbers c member
  have number' := proper'.numbers c member
  rw [← Value.same_iff_rank key key' number number', Value.same_iff_turned key key' number number']

/-! ## Filters -/

section Filters
variable {fields : Entries Value Value} {columns : List Value} {test : Row → Outcome Bool}
  {keep : Row → Bool}

theorem keepWhere_eq_filter (answers : ∀ row ∈ rows, test row = .ok (keep row)) :
    keepWhere test rows = .ok (rows.filter keep) := by
  induction rows with
  | nil => rfl
  | cons row rest ih =>
      rw [List.forall_mem_cons] at answers
      rw [keepWhere, answers.1, ih answers.2, List.filter_cons]
      cases keep row <;> rfl

theorem answers_of_keepWhere (run : keepWhere test rows = .ok kept) :
    ∀ row ∈ rows, ∃ answer, test row = .ok answer := by
  induction rows generalizing kept with
  | nil => nofun
  | cons row rest ih =>
      obtain ⟨answer, here, run⟩ := Outcome.bind_eq_ok.mp run
      obtain ⟨others, later, -⟩ := Outcome.bind_eq_ok.mp run
      exact List.forall_mem_cons.mpr ⟨⟨answer, here⟩, ih later⟩

/-- What filters say of a row, if they say anything. -/
def verdict (fields : Entries Value Value) (row : Row) : Bool :=
  (row.passes fields).toOption.getD false

theorem verdict_eq {answer : Bool} (passed : row.passes fields = .ok answer) :
    row.verdict fields = answer := by
  rw [verdict, passed]
  rfl

theorem filterAll_object (fields : Entries Value Value) (rows : List Row) :
    filterAll (.object fields) rows = keepWhere (passes fields) rows := by
  rw [filterAll]
  split
  · rfl
  · rename_i off
    rcases fields with _ | ⟨f, rest⟩
    · have all : keepWhere (passes []) rows = .ok (rows.filter fun _ => true) :=
        keepWhere_eq_filter fun _ _ => rfl
      rw [all, List.filter_true]
      rfl
    · cases rows with
      | nil => rfl
      | cons => simp [Value.isTrue] at off

theorem filterAll_eq_ok : filterAll (.object fields) rows = .ok kept ↔
    (∀ row ∈ rows, row.passes fields = .ok (row.verdict fields)) ∧
      kept = rows.filter (verdict fields) := by
  rw [filterAll_object]
  constructor
  · intro run
    have answers : ∀ row ∈ rows, row.passes fields = .ok (row.verdict fields) := by
      intro row member
      obtain ⟨answer, passed⟩ := answers_of_keepWhere run row member
      rw [verdict_eq passed, passed]
    rw [keepWhere_eq_filter answers, Except.ok.injEq] at run
    exact ⟨answers, run.symm⟩
  · rintro ⟨answers, rfl⟩
    exact keepWhere_eq_filter answers

theorem passes_cons (f : Value × Value) (rest : Entries Value Value) (row : Row) :
    row.passes (f :: rest) = (row.cell f.1).passes f.2 >>= fun passed =>
      if passed then row.passes rest else .ok false := by
  rw [passes, List.allM]
  refine congrArg _ (funext fun passed => ?_)
  cases passed <;> rfl

theorem passes_congr (cells : ∀ f ∈ fields, row.cell f.1 = other.cell f.1) :
    row.passes fields = other.passes fields := by
  induction fields with
  | nil => rfl
  | cons f rest ih =>
      rw [List.forall_mem_cons] at cells
      rw [passes_cons, passes_cons, cells.1, ih cells.2]

theorem Proper.twins (proper : row.Proper columns) (proper' : other.Proper columns)
    (alike : row.Alike columns other) {c : Value} (member : c ∈ columns) :
    Value.Twins (row.cell c) (other.cell c) := by
  obtain ⟨form, here, there⟩ := alike c member
  exact ⟨proper.keys c member, proper'.keys c member, proper.numbers c member,
    Value.same_of_key? here there⟩

/-- Filters say the same of rows with equal values. -/
theorem Proper.passes_eq (proper : row.Proper columns) (proper' : other.Proper columns)
    (alike : row.Alike columns other) (about : ∀ f ∈ fields, f.1 ∈ columns) {answer answer' : Bool}
    (passed : row.passes fields = .ok answer) (passed' : other.passes fields = .ok answer') :
    answer = answer' := by
  induction fields with
  | nil => exact Except.ok.inj (passed.symm.trans passed')
  | cons f rest ih =>
      rw [List.forall_mem_cons] at about
      rw [passes_cons] at passed passed'
      obtain ⟨first, here, passed⟩ := Outcome.bind_eq_ok.mp passed
      obtain ⟨first', here', passed'⟩ := Outcome.bind_eq_ok.mp passed'
      obtain rfl := (proper.twins proper' alike about.1).passes_eq here here'
      cases first with
      | false => exact Except.ok.inj (passed.symm.trans passed')
      | true => exact ih about.2 passed passed'

end Filters
end Row

namespace MergePlan
variable {p : MergePlan} {rows result outs kept : List Row} {fields : Entries Value Value}

/-! ## Groups -/

/-- Rows that a sort has put into order can all be compared. -/
theorem compares_of_sort (proper : ∀ out ∈ outs, out.Proper p.dimensions)
    (sorted : p.sort outs = .ok result) :
    Merge.Compares (fun a b => comesBefore (p.sortKey a) (p.sortKey b)) (Row.ranks p.dimensions)
      outs := by
  have ranked : Merge.Agrees (fun a b => comesBefore (p.sortKey a) (p.sortKey b))
      (Row.ranks p.dimensions) outs := by
    intro out member out' member' before test
    have told := (proper out member).comesBefore_decides (proper out' member') test
    exact told.1.trans (decide_eq_decide.mpr Iff.rfl)
  have turned : Merge.Agrees (fun a b => comesBefore (p.sortKey a) (p.sortKey b))
      (Row.turns p.dimensions) outs := by
    intro out member out' member' before test
    have told := (proper out member).comesBefore_decides (proper out' member') test
    exact told.2.trans (decide_eq_decide.mpr Iff.rfl)
  obtain ⟨ascending, perm⟩ := ranked.ascending sorted
  have both := ascending.and (turned.ascending sorted).1
  have proper' : ∀ out ∈ result, out.Proper p.dimensions := fun out member =>
    proper out (perm.subset member)
  have forward : result.Pairwise (Row.InStep p.dimensions) := by
    refine both.imp_of_mem fun {out out'} member member' ⟨ranks, turns⟩ => ?_
    rw [Row.InStep, ranks.lt_iff_ne, turns.lt_iff_ne]
    exact not_congr ((proper' out member).ranks_eq_iff (proper' out' member'))
  have backward : result.Pairwise fun out out' => out'.InStep p.dimensions out :=
    both.imp fun {out out'} ⟨ranks, turns⟩ => iff_of_false ranks.not_gt turns.not_gt
  have same : ∀ out ∈ result, out.InStep p.dimensions out := fun _ _ =>
    iff_of_false (lt_irrefl _) (lt_irrefl _)
  have inStep := List.Pairwise.forall_of_forall_of_flip same forward backward
  intro out member out' member'
  have test := (proper out member).comesBefore_eq (proper out' member')
    (inStep (perm.symm.subset member) (perm.symm.subset member'))
  exact test.trans (congrArg _ (decide_eq_decide.mpr Iff.rfl))

theorem ranks_congr {columns : List Value} {row other : Row}
    (cells : ∀ c ∈ columns, row.cell c = other.cell c) : row.ranks columns = other.ranks columns :=
  List.map_congr_left fun c member => congrArg Value.rank (cells c member)

theorem alike_iff_groupKey {row other : Row} (proper : row.Proper p.dimensions)
    (proper' : other.Proper p.dimensions) :
    row.Alike p.dimensions other ↔ (p.groupKey row == p.groupKey other) = true :=
  Row.alike_iff_cells proper.keys proper'.keys

section Groups
variable (named : p.Named) (proper : ∀ row ∈ rows, row.Proper p.dimensions)
include named proper

/-- The result row of a group has the values of a row that all rows of the group are like. -/
theorem exists_head {e : List Value × List Row} (member : e ∈ p.groups rows) :
    ∃ first ∈ e.2, e.1 = p.groupKey first ∧
      (∀ row ∈ e.2, row ∈ rows ∧ row.Alike p.dimensions first) ∧
      ∀ c ∈ p.dimensions, (p.resultRow e.1 e.2).cell c = first.cell c := by
  obtain ⟨inside, first, rest, begins, key, equal⟩ := Entries.mem_grouped member
  have listed : first ∈ e.2 := begins ▸ List.mem_cons_self
  have here := proper first (inside.subset listed)
  refine ⟨first, listed, key.symm, fun row belongs => ⟨inside.subset belongs, ?_⟩,
    fun c requested => ?_⟩
  · rw [begins] at belongs
    rcases List.mem_cons.mp belongs with rfl | later
    · exact (here.alike_iff_ranks here).mpr rfl
    · have there := proper row (inside.subset (begins ▸ belongs))
      have same := equal row later
      rw [← key] at same
      exact (alike_iff_groupKey there here).mpr same
  · rw [← key]
    exact cell_resultRow named e.2 requested

theorem proper_resultRow {out : Row}
    (member : out ∈ (p.groups rows).map fun e => p.resultRow e.1 e.2) :
    out.Proper p.dimensions := by
  obtain ⟨e, grouped, rfl⟩ := List.mem_map.mp member
  obtain ⟨first, listed, -, alike, cells⟩ := exists_head named proper grouped
  have here := proper first (alike first listed).1
  refine ⟨fun c requested => ?_, fun c requested => ?_⟩
  · rw [cells c requested]
    exact here.keys c requested
  · rw [cells c requested]
    exact here.numbers c requested

theorem ranks_injective {out out' : Row}
    (member : out ∈ (p.groups rows).map fun e => p.resultRow e.1 e.2)
    (member' : out' ∈ (p.groups rows).map fun e => p.resultRow e.1 e.2)
    (same : out.ranks p.dimensions = out'.ranks p.dimensions) : out = out' := by
  refine List.inj_on_of_nodup_map (f := Row.ranks p.dimensions) ?_ member member' same
  have apart := List.pairwise_map.mp (Entries.grouped_apart p.groupKey rows)
  refine List.pairwise_map.mpr (List.pairwise_map.mpr (apart.imp_of_mem ?_))
  intro e e' grouped grouped' differ equal
  obtain ⟨first, listed, key, alike, cells⟩ := exists_head named proper grouped
  obtain ⟨first', listed', key', alike', cells'⟩ := exists_head named proper grouped'
  have here := proper first (alike first listed).1
  have here' := proper first' (alike' first' listed').1
  have same : first'.Alike p.dimensions first := by
    rw [here'.alike_iff_ranks here, ← ranks_congr cells, ← ranks_congr cells', equal]
  rw [key, key', (alike_iff_groupKey here' here).mp same] at differ
  cases differ

/-- The filters say of the result row of a group what they say of all its rows. -/
theorem verdict_group (about : ∀ f ∈ fields, f.1 ∈ p.dimensions)
    (answers : ∀ row ∈ rows, row.passes fields = .ok (row.verdict fields))
    {e : List Value × List Row} (member : e ∈ p.groups rows) :
    (p.resultRow e.1 e.2).passes fields = .ok (e.2.all (Row.verdict fields)) := by
  obtain ⟨first, listed, -, alike, cells⟩ := exists_head named proper member
  have here := (alike first listed).1
  have all : e.2.all (Row.verdict fields) = first.verdict fields := by
    have same : ∀ row ∈ e.2, row.verdict fields = first.verdict fields := fun row belongs =>
      (proper row (alike row belongs).1).passes_eq (proper first here) (alike row belongs).2 about
        (answers row (alike row belongs).1) (answers first here)
    rw [Bool.eq_iff_iff, List.all_eq_true]
    exact ⟨fun kept => kept first listed, fun kept row belongs => (same row belongs).trans kept⟩
  rw [all, ← answers first here]
  exact Row.passes_congr fun f member => cells f.1 (about f member)

end Groups

/-- Filtering the groups of rows gives the groups of the filtered rows. -/
theorem group_filter (named : p.Named)
    (numbers : ∀ row ∈ rows, ∀ c ∈ p.dimensions, (row.cell c).isNaN = false)
    (about : ∀ f ∈ fields, f.1 ∈ p.dimensions)
    (filtered : Row.filterAll (.object fields) rows = .ok kept)
    (grouped : p.group rows = .ok result) :
    ∃ out, p.group kept = .ok out ∧ Row.filterAll (.object fields) result = .ok out := by
  obtain ⟨answers, rfl⟩ := Row.filterAll_eq_ok.mp filtered
  obtain ⟨⟨⟩, checked, sorted⟩ := Outcome.bind_eq_ok.mp grouped
  have checks := Outcome.forM_eq_ok.mp checked
  have proper : ∀ row ∈ rows, row.Proper p.dimensions := fun row member =>
    ⟨fun c requested => keys_of_check (checks row member) _ (List.mem_map_of_mem requested),
      numbers row member⟩
  -- The result rows of the kept rows are those result rows that are kept.
  have kept : (p.groups (rows.filter (Row.verdict fields))).map (fun e => p.resultRow e.1 e.2) =
      ((p.groups rows).map fun e => p.resultRow e.1 e.2).filter (Row.verdict fields) := by
    have alike : ∀ row ∈ rows, ∀ other ∈ rows, (p.groupKey row == p.groupKey other) = true →
        row.verdict fields = other.verdict fields := by
      intro row member other member' equal
      have here := proper row member
      have there := proper other member'
      exact here.passes_eq there ((alike_iff_groupKey here there).mpr equal) about
        (answers row member) (answers other member')
    rw [List.filter_map]
    refine congrArg (List.map _) ((Entries.grouped_filter alike).trans ?_)
    refine List.filter_congr fun e member => ?_
    exact (Row.verdict_eq (verdict_group named proper about answers member)).symm
  have compares := compares_of_sort (fun out => proper_resultRow named proper) sorted
  refine ⟨result.filter (Row.verdict fields), Outcome.bind_eq_ok.mpr ⟨(), ?_, ?_⟩,
    Row.filterAll_eq_ok.mpr ⟨fun out member => ?_, rfl⟩⟩
  · exact Outcome.forM_eq_ok.mpr fun row member => checks row (List.mem_of_mem_filter member)
  · rw [kept]
    exact Merge.sort_filter compares (fun _ member _ member' =>
      ranks_injective named proper member member') sorted (Row.verdict fields)
  · obtain ⟨_, sorted', -, perm⟩ := Merge.sort_eq_ok compares
    obtain rfl := Except.ok.inj (sorted.symm.trans sorted')
    obtain ⟨e, listed, rfl⟩ := List.mem_map.mp (perm.subset member)
    have told := verdict_group named proper about answers listed
    rw [told, Row.verdict_eq told]

/-- Totals and average rates by year and code. -/
def ledger : MergePlan where
  primary := "sales"
  relations := []
  dimensions := ["year", "code"]
  metrics := ["total", "rate"]
  rollups := [("total", .max), ("rate", .avg)]
  filters := .object []
  joinAliases := []

/-- One year is written as three kinds of value, and codes of different years have no order. -/
def ledgerRows : List Row :=
  [[("year", .int 2), ("code", .int 7), ("total", "7")],
    [("year", .int 1), ("code", "a"), ("total", .int 5), ("rate__sum", .float 1.5),
      ("rate__count", .int 2)],
    [("year", .null), ("code", "a"), ("total", .int 9)],
    [("year", .bool true), ("code", "a"), ("total", .float 2.5)],
    [("year", .float 1.0), ("code", "b")], [("year", .float 2.0), ("total", .int 1)]]

/-- The first year and those after it, with some codes less one of them. -/
def ledgerFilters : Entries Value Value :=
  [("year", .record [("where", .record [("operator", ">="), ("value", .float 1.0)])]),
    ("code", .record [("only", .list ["a", "b", .null, .int 7]), ("except", .list ["b"])])]

theorem group_filter_ledger : ledger.Named ∧
    (∀ row ∈ ledgerRows, ∀ c ∈ ledger.dimensions, (row.cell c).isNaN = false) ∧
    (∀ f ∈ ledgerFilters, f.1 ∈ ledger.dimensions) ∧ ∃ kept result out,
      Row.filterAll (.object ledgerFilters) ledgerRows = .ok kept ∧
      ledger.group ledgerRows = .ok result ∧ kept.length = 4 ∧ result.length = 5 ∧
      ledger.group kept = .ok out ∧ Row.filterAll (.object ledgerFilters) result = .ok out := by
  have named : ledger.Named := ⟨by simp [ledger], by simp [ledger]⟩
  have numbers : ∀ row ∈ ledgerRows, ∀ c ∈ ledger.dimensions, (row.cell c).isNaN = false := by
    decide +kernel
  have about : ∀ f ∈ ledgerFilters, f.1 ∈ ledger.dimensions := by
    simp [ledgerFilters, ledger]
  have some : (Row.filterAll (.object ledgerFilters) ledgerRows).toOption.any
      (·.length == 4) := by decide +kernel
  have all : (ledger.group ledgerRows).toOption.any (·.length == 5) := by decide +kernel
  obtain ⟨kept, filtered, four⟩ := Outcome.any_ok some
  obtain ⟨result, grouped, five⟩ := Outcome.any_ok all
  obtain ⟨out, again, same⟩ := group_filter named numbers about filtered grouped
  exact ⟨named, numbers, about, kept, result, out, filtered, grouped, beq_iff_eq.mp four,
    beq_iff_eq.mp five, again, same⟩

end MergePlan
end Datacube
