import Datacube.Proofs.Merge.Grouped
import Datacube.Proofs.Number.Whole
import Datacube.Value.Number

/-!
# Totals of whole numbers

Partial results are added up as floats. Where they are whole numbers, the total is a whole number
too: each partial result is rounded to a float, and so is the total after every step. So it is exact
as long as all of these are floats, and whole numbers of up to 53 bits are.
-/

namespace Datacube
open Number Float.Model Float.Model.UnpackedFloat

/-- What a running total of whole numbers has come to. -/
inductive Total where
  | whole (n : Int)
  | infinite (negative : Bool)

namespace Total
variable {t : Total} {n : Int} {u : UnpackedFloat} {x y : Float} {xs : List Float} {ns : List Int}

/-- A whole number as a running total keeps it. -/
def rounded (n : Int) : Total :=
  if InRange n then .whole (nearest n) else .infinite (nearest n < 0)

/-- Adds to a running total; an infinite one stays so. -/
def add : Total → Int → Total
  | whole m, n => rounded (m + n)
  | infinite negative, _ => infinite negative

/-- The total of whole numbers, from the first to the last. Each of them is rounded, and so is what
the total has come to with it. -/
def sum (ns : List Int) : Total := (ns.map nearest).foldl add (.whole 0)

def value : Total → Value
  | whole n => .int n
  | infinite negative => .float (signed negative (1.0 / 0.0))

/-- The float is what the total has come to. -/
def Reached : Total → Float → Prop
  | whole n, x => wholePart? x = some n
  | infinite negative, x => parts x = .infinite negative

theorem reached_rounded (means : Means (nearest n) u) : (rounded n).Reached (packed u) := by
  rw [rounded]
  split_ifs with inside
  · exact means.wholePart?_packed inside
  · exact parts_infinite.mpr (means.packed_eq (not_lt.mp inside))

theorem Reached.add (reached : t.Reached x) (whole : wholePart? y = some n) :
    (t.add n).Reached (x + y) := by
  obtain ⟨v, second, -, unpacked'⟩ := exists_means whole
  have sum : x + y = packed (UnpackedFloat.add Format.binary64 x.toModel.unpack v) :=
    unpacked' ▸ rfl
  rw [sum]
  cases t with
  | whole m =>
      obtain ⟨u, first, -, unpacked⟩ := exists_means reached
      rw [unpacked]
      exact reached_rounded (add_means first second)
  | infinite negative =>
      rw [parts_infinite.mp reached, unpack_packed_infinity]
      apply parts_infinite.mpr
      cases second <;> rfl

theorem Reached.foldl (reached : t.Reached x)
    (whole : List.Forall₂ (fun y n => wholePart? y = some n) xs ns) :
    (ns.foldl Total.add t).Reached (xs.foldl (· + ·) x) := by
  induction whole generalizing t x with
  | nil => exact reached
  | cons first _ ih => exact ih (reached.add first)

theorem Reached.ofFloat_eq (reached : t.Reached x) : Value.ofFloat x = t.value := by
  cases t with
  | whole n =>
      have whole : wholePart? x = some n := reached
      rw [Value.ofFloat, whole, value]
  | infinite negative =>
      have infinite : parts x = .infinite negative := reached
      have same : packed (.infinity (signOf negative)) = signed negative (1.0 / 0.0) := by
        cases negative <;> exact eq_of_bits (by decide +kernel)
      rw [Value.ofFloat, wholePart?, infinite, value, ← same, ← parts_infinite.mp infinite]

/-- A total in which everything is a float is exact. -/
theorem sum_eq (terms : ∀ n ∈ ns, Representable n)
    (totals : ∀ ms, ms <+: ns → Representable ms.sum) : sum ns = .whole ns.sum := by
  induction ns using List.reverseRecOn with
  | nil => rfl
  | append_singleton ns n ih =>
      have before := ih (fun m member => terms m (List.mem_append_left _ member))
        fun ms begins => totals ms (begins.trans (List.prefix_append ns [n]))
      have term := (representable_iff.mp (terms n (by simp))).1
      obtain ⟨same, inside⟩ := representable_iff.mp (totals _ List.prefix_rfl)
      rw [List.sum_append, List.sum_singleton] at same inside ⊢
      rw [sum] at before
      rw [sum, List.map_append, List.foldl_append, before]
      change rounded (ns.sum + nearest n) = _
      rw [term, rounded, if_pos inside, same]

theorem natAbs_sum_le (ns : List Int) : ns.sum.natAbs ≤ (ns.map Int.natAbs).sum := by
  induction ns with
  | nil => exact le_rfl
  | cons n ns ih =>
      rw [List.sum_cons, List.map_cons, List.sum_cons]
      exact (Int.natAbs_add_le n ns.sum).trans (Nat.add_le_add_left ih _)

theorem sum_of_small (small : (ns.map Int.natAbs).sum ≤ 2 ^ 53) : sum ns = .whole ns.sum := by
  refine sum_eq (fun n member => ?_) fun ms begins => ?_
  · have part := List.single_le_sum (l := ns.map Int.natAbs) (fun _ _ => Nat.zero_le _) _
      (List.mem_map_of_mem member)
    exact representable_of_small (part.trans small)
  · obtain ⟨rest, rfl⟩ := begins
    rw [List.map_append, List.sum_append] at small
    exact representable_of_small ((natAbs_sum_le ms).trans (by omega))

end Total

/-! ## Whole numbers as values -/

namespace Value
variable {n : Int}

theorem toNumber_int (inside : InRange n) :
    ∃ x, (Value.int n).toNumber = .ok (some x) ∧ wholePart? x = some (nearest n) := by
  obtain ⟨x, found, whole⟩ := floatOfInt?_inRange inside
  refine ⟨x, ?_, whole⟩
  rw [toNumber, floatOfInt, found]
  rfl

theorem toNumber_int_beyond (beyond : ¬ InRange n) : (Value.int n).toNumber = fail .overflow := by
  rw [toNumber, floatOfInt, floatOfInt?_beyond beyond]
  rfl

theorem normalizeNumber_int (n : Int) : normalizeNumber (.int n) =
    if InRange n then .ok (.int (nearest n)) else fail .overflow := by
  split_ifs with inside
  · obtain ⟨x, read, whole⟩ := toNumber_int inside
    rw [normalizeNumber, read]
    exact congrArg Except.ok (Total.Reached.ofFloat_eq (t := .whole (nearest n)) whole)
  · rw [normalizeNumber, toNumber_int_beyond inside]
    rfl

theorem normalizeNumber_int_iff : normalizeNumber (.int n) = .ok (.int n) ↔ Representable n := by
  rw [normalizeNumber_int, representable_iff, and_comm]
  split_ifs with inside
  · simp [inside]
  · simp [inside, fail]

/-- Normalizing a whole number gives the nearest one for which a float stands, or fails beyond the
range of floats. -/
structure Normalizes (n : Int) : Prop where
  inside : InRange n → normalizeNumber (.int n) = .ok (.int (nearest n))
  beyond : ¬ InRange n → normalizeNumber (.int n) = fail .overflow
  float : InRange n → Representable (nearest n)
  closest : ∀ b, Representable b → |nearest n - n| ≤ |b - n|
  unchanged : normalizeNumber (.int n) = .ok (.int n) ↔ Representable n

theorem normalizes (n : Int) : Normalizes n where
  inside := fun inside => (normalizeNumber_int n).trans (if_pos inside)
  beyond := fun beyond => (normalizeNumber_int n).trans (if_neg beyond)
  float := nearest_representable
  closest := fun _ representable => nearest_le representable n
  unchanged := normalizeNumber_int_iff

end Value

/-! ## Groups -/

section Rollup
variable {rows : List Row} {m : Value} {ns : List Int}

theorem Rollup.numbers_whole (cells : rows.map (·.cell m) = ns.map .int)
    (inside : ∀ n ∈ ns, InRange n) :
    List.Forall₂ (fun y n => wholePart? y = some n) (numbers rows m) (ns.map nearest) := by
  induction rows generalizing ns with
  | nil =>
      obtain rfl := List.map_eq_nil_iff.mp cells.symm
      exact .nil
  | cons row rows ih =>
      obtain ⟨n, rest, rfl, here, later⟩ := List.map_eq_cons_iff.mp cells.symm
      rw [List.forall_mem_cons] at inside
      obtain ⟨x, read, whole⟩ := Value.toNumber_int inside.1
      have found : number? row m = some x := by
        have here : row.cell m = .int n := here.symm
        rw [number?, here, read]
      rw [numbers, List.filterMap_cons, found]
      exact .cons whole (ih later.symm inside.2)

theorem Rollup.combine_whole (filled : rows ≠ []) (cells : rows.map (·.cell m) = ns.map .int)
    (inside : ∀ n ∈ ns, InRange n) : Rollup.sum.combine m rows = (Total.sum ns).value := by
  have whole := numbers_whole cells inside
  have zero : wholePart? 0.0 = some 0 := by decide +kernel
  have start : (Total.whole 0).Reached 0.0 := zero
  have reached : (Total.sum ns).Reached (total (numbers rows m)) := start.foldl whole
  have some : numbers rows m ≠ [] := by
    intro none
    rw [none, List.forall₂_nil_left_iff, List.map_eq_nil_iff] at whole
    rw [whole] at cells
    exact filled (List.map_eq_nil_iff.mp cells)
  rw [combine, ← reached.ofFloat_eq]
  cases found : numbers rows m with
  | nil => exact absurd found some
  | cons x xs => rfl

end Rollup

namespace MergePlan
variable {p : MergePlan} {rows result : List Row} {row : Row}

/-- The partial results of all metrics in the rows are whole numbers or can be read. -/
def WholeOrReadable (p : MergePlan) (rows : List Row) : Prop :=
  ∀ row ∈ rows, ∀ m ∈ p.metrics, ∀ column ∈ (p.rollup m).partials m,
    (∃ n, row.cell column = .int n) ∨ ∃ x, (row.cell column).toNumber = .ok x

/-- The whole numbers among the partial results lie in the range of floats. -/
def Within (p : MergePlan) (rows : List Row) : Prop :=
  ∀ row ∈ rows, ∀ m ∈ p.metrics, ∀ column ∈ (p.rollup m).partials m,
    ∀ n, row.cell column = .int n → InRange n

theorem within_of_readable (readable : ∀ row ∈ rows, p.Readable row) : p.Within rows := by
  intro row member m listed column part n cell
  obtain ⟨x, read⟩ := readable row member m listed column part
  by_contra beyond
  rw [cell, Value.toNumber_int_beyond beyond] at read
  cases read

theorem readable_of_within (parts : p.WholeOrReadable rows) (within : p.Within rows) :
    ∀ row ∈ rows, p.Readable row := by
  intro row member m listed column part
  rcases parts row member m listed column part with ⟨n, cell⟩ | read
  · obtain ⟨x, read, -⟩ := Value.toNumber_int (within row member m listed column part n cell)
    exact ⟨_, cell ▸ read⟩
  · exact read

theorem check_error (keys : ∀ v ∈ p.dimensions ++ p.groupKey row ++ p.metrics, v.isKey = true)
    (parts : p.WholeOrReadable rows) (member : row ∈ rows) {e : Error}
    (failed : p.check row = .error e) : e = .fault .overflow := by
  rw [check, List.all_eq_true.mpr keys] at failed
  obtain ⟨m, listed, failed⟩ := Outcome.forM_error failed
  obtain ⟨column, part, failed⟩ := Outcome.forM_error failed
  rcases Outcome.bind_eq_error.mp failed with failed | ⟨_, -, failed⟩
  · rcases parts row member m listed column part with ⟨n, cell⟩ | ⟨x, read⟩
    · by_cases inside : InRange n
      · obtain ⟨x, read, -⟩ := Value.toNumber_int inside
        rw [cell, read] at failed
        cases failed
      · rw [cell, Value.toNumber_int_beyond inside] at failed
        cases failed
        rfl
    · rw [read] at failed
      cases failed
  · cases failed

/-- The partial results of a metric that is added up, in the rows of a group, are these whole
numbers. -/
structure AddsWhole (p : MergePlan) (members : List Row) (m : Value) (ns : List Int) : Prop where
  metric : m ∈ p.metrics
  added : p.rollup m = .sum
  cells : members.map (·.cell m) = ns.map .int

/-- The result of grouping rows, as far as whole numbers are added up. A total is exact if all
partial results, and all that the total comes to on the way, are floats. -/
structure SumsWhole (p : MergePlan) (rows result : List Row) : Prop where
  perm : result.Perm ((p.groups rows).map fun e => p.resultRow e.1 e.2)
  total : ∀ e ∈ p.groups rows, ∀ m ns, p.AddsWhole e.2 m ns →
    (p.resultRow e.1 e.2).get? m = some (Total.sum ns).value
  exact : ∀ e ∈ p.groups rows, ∀ m ns, p.AddsWhole e.2 m ns → (∀ n ∈ ns, Representable n) →
    (∀ ms, ms <+: ns → Representable ms.sum) →
    (p.resultRow e.1 e.2).get? m = some (.int ns.sum)
  small : ∀ e ∈ p.groups rows, ∀ m ns, p.AddsWhole e.2 m ns → (ns.map Int.natAbs).sum ≤ 2 ^ 53 →
    (p.resultRow e.1 e.2).get? m = some (.int ns.sum)

theorem sums_whole (texts : ∀ m ∈ p.metrics, ∃ name, m = .text name)
    (answered : p.group rows = .ok result) : p.SumsWhole rows result := by
  obtain ⟨⟨⟩, checked, sorted⟩ := Outcome.bind_eq_ok.mp answered
  have within := within_of_readable fun row member =>
    readable_of_check (Outcome.forM_ok checked row member)
  have total : ∀ e ∈ p.groups rows, ∀ m ns, p.AddsWhole e.2 m ns →
      (p.resultRow e.1 e.2).get? m = some (Total.sum ns).value := by
    intro e grouped m ns adds
    obtain ⟨inside, first, rest, begins, -⟩ := Entries.mem_grouped grouped
    have filled : e.2 ≠ [] := by
      rw [begins]
      exact List.cons_ne_nil first rest
    have range : ∀ n ∈ ns, InRange n := by
      intro n member
      have listed : Value.int n ∈ e.2.map (·.cell m) := by
        rw [adds.cells]
        exact List.mem_map_of_mem member
      obtain ⟨row, here, cell⟩ := List.mem_map.mp listed
      refine within row (inside.subset here) m adds.metric m ?_ n cell
      rw [adds.added]
      exact List.mem_cons_self
    rw [get?_metric texts e.1 e.2 adds.metric, adds.added,
      Rollup.combine_whole filled adds.cells range]
  refine ⟨Merge.sort_perm sorted, total, fun e grouped m ns adds terms totals => ?_,
    fun e grouped m ns adds small => ?_⟩
  · rw [total e grouped m ns adds, Total.sum_eq terms totals, Total.value]
  · rw [total e grouped m ns adds, Total.sum_of_small small, Total.value]

theorem group_overflow (named : p.Named)
    (sorts : ∀ row ∈ rows, ∀ other ∈ rows, row.Sorts p.dimensions other)
    (parts : p.WholeOrReadable rows) (beyond : ¬ p.Within rows) :
    p.group rows = fail .overflow := by
  have keys : ∀ row ∈ rows, ∀ v ∈ p.dimensions ++ p.groupKey row ++ p.metrics, v.isKey = true :=
    fun row member => named.keys fun c requested => (sorts row member row member c requested).key
  cases checked : rows.forM p.check with
  | ok =>
      exact absurd (within_of_readable fun row member =>
        readable_of_check (Outcome.forM_ok checked row member)) beyond
  | error e =>
      obtain ⟨row, member, failed⟩ := Outcome.forM_error checked
      rw [group, checked, check_error (keys row member) parts member failed]
      rfl

/-- Metrics that are added up have the totals of floats, where their partial results are whole
numbers. Grouping fails only where one of these lies beyond the range of floats. -/
theorem group_whole (texts : ∀ m ∈ p.metrics, ∃ name, m = .text name) (rows : List Row) :
    (∀ result, p.group rows = .ok result → p.SumsWhole rows result) ∧
    (p.Named → (∀ row ∈ rows, ∀ other ∈ rows, row.Sorts p.dimensions other) →
      p.WholeOrReadable rows →
        (p.Within rows → ∃ result, p.group rows = .ok result ∧ p.Grouped rows result) ∧
        (¬ p.Within rows → p.group rows = fail .overflow)) ∧
    ∀ n, Value.Normalizes n := by
  refine ⟨fun result => sums_whole texts, fun named sorts parts => ⟨fun within => ?_, ?_⟩,
    Value.normalizes⟩
  · exact group_grouped named ⟨sorts, readable_of_within parts within⟩
  · exact group_overflow named sorts parts

/-- Coins in the tills of two shops. -/
def coins : MergePlan where
  primary := "tills"
  relations := []
  dimensions := ["shop"]
  metrics := ["coins"]
  rollups := [("coins", .sum)]
  filters := .object []
  joinAliases := []

/-- The coins of one shop take more than 53 bits, those of the other one do not. -/
def coinRows : List Row :=
  [[("shop", "Rome"), ("coins", .int 9007199254740992)], [("shop", "Oslo"), ("coins", .int 3)],
    [("shop", "Rome"), ("coins", .int 1)], [("shop", "Oslo"), ("coins", .int (-5))]]

theorem group_whole_coins : (∀ m ∈ coins.metrics, ∃ name, m = .text name) ∧ coins.Named ∧
    (∀ row ∈ coinRows, ∀ other ∈ coinRows, row.Sorts coins.dimensions other) ∧
    coins.WholeOrReadable coinRows ∧ coins.Within coinRows ∧
    ∃ result, coins.group coinRows = .ok result ∧ coins.Grouped coinRows result ∧
      coins.SumsWhole coinRows result := by
  have texts : ∀ m ∈ coins.metrics, ∃ name, m = .text name := by
    simp [coins]
  have named : coins.Named := ⟨by simp [coins], by simp [coins]⟩
  have cells : ∀ row ∈ coinRows, ∃ s n, row.cell "shop" = .text s ∧ row.cell "coins" = .int n ∧
      InRange n := by
    simp only [coinRows, List.forall_mem_cons]
    exact ⟨⟨_, _, rfl, rfl, by decide +kernel⟩, ⟨_, _, rfl, rfl, by decide +kernel⟩,
      ⟨_, _, rfl, rfl, by decide +kernel⟩, ⟨_, _, rfl, rfl, by decide +kernel⟩, nofun⟩
  have column : ∀ m ∈ coins.metrics, ∀ c ∈ (coins.rollup m).partials m, c = "coins" := by
    intro m listed c part
    obtain rfl := List.mem_singleton.mp listed
    exact List.mem_singleton.mp part
  have ordered : coinRows.all (fun row => coinRows.all fun other =>
      ((row.cell "shop").order (other.cell "shop")).toBool) = true := by decide +kernel
  simp only [List.all_eq_true] at ordered
  have sorts : ∀ row ∈ coinRows, ∀ other ∈ coinRows, row.Sorts coins.dimensions other := by
    intro row member other member' c requested
    obtain rfl := List.mem_singleton.mp requested
    obtain ⟨s, -, here, -⟩ := cells row member
    obtain ⟨s', -, there, -⟩ := cells other member'
    have comparable := Outcome.exists_ok (ordered row member other member')
    rw [here, there] at comparable ⊢
    exact ⟨rfl, rfl, rfl, rfl, fun _ _ => comparable⟩
  have parts : coins.WholeOrReadable coinRows := by
    intro row member m listed c part
    obtain rfl := column m listed c part
    obtain ⟨-, n, -, cell, -⟩ := cells row member
    exact .inl ⟨n, cell⟩
  have within : coins.Within coinRows := by
    intro row member m listed c part n cell
    obtain rfl := column m listed c part
    obtain ⟨-, n', -, cell', inside⟩ := cells row member
    obtain rfl := Value.int.inj (cell.symm.trans cell')
    exact inside
  obtain ⟨sums, made, -⟩ := group_whole texts coinRows
  obtain ⟨result, answered, grouped⟩ := (made named sorts parts).1 within
  exact ⟨texts, named, sorts, parts, within, result, answered, grouped, sums result answered⟩

/-- One coin is lost among more of them than floats can count. -/
theorem group_coins_lost :
    (∃ e ∈ coins.groups coinRows, coins.AddsWhole e.2 "coins" [9007199254740992, 1]) ∧
    coins.group coinRows = .ok [[("shop", "Oslo"), ("coins", .int (-2))],
      [("shop", "Rome"), ("coins", .int 9007199254740992)]] ∧
    List.sum [9007199254740992, 1] = (9007199254740993 : Int) ∧
    Value.normalizeNumber (.int 9007199254740993) = .ok (.int 9007199254740992) := by
  refine ⟨⟨_, List.mem_cons_self, ?_⟩, rfl, rfl, rfl⟩
  exact ⟨List.mem_cons_self, rfl, rfl⟩

end MergePlan
end Datacube
