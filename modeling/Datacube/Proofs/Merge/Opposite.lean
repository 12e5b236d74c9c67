import Datacube.Proofs.Merge.Filtered

/-!
# Opposite operators

A filter keeps by an operator the rows that it drops by the opposite one: equal and unequal, greater
and not greater, less and not less. A number that is none stands in neither relation to others, so
there may be none among the values and the target, not even in a list. Likeness is no operator of
these filters: like every unknown operator it compares for equality, and so does its negation.
-/

namespace Datacube
open Number

namespace Value
variable {v a b target : Value} {o : Comparison}

mutual

/-- Whether the value is among the numbers without being one, or a list that holds such a value. -/
def holdsNaN : Value → Bool
  | .list items => anyNaN items
  | v => v.isNaN

def anyNaN : List Value → Bool
  | [] => false
  | v :: rest => holdsNaN v || anyNaN rest

end

theorem isNaN_of_holdsNaN (none : v.holdsNaN = false) : v.isNaN = false := by
  cases v with
  | list => rfl
  | _ => simpa only [holdsNaN] using none

theorem canon_of_magnitude {x : Magnitude} (found : a.magnitude? = some x)
    (number : a.isNaN = false) : ∃ c, x.canon? = some c := by
  rw [isNaN, found] at number
  cases x with
  | finite x => exact ⟨_, rfl⟩
  | infinite negative => exact ⟨_, rfl⟩
  | nan => cases number
  | invalid => cases number

/-- Values without missing numbers stand in an order where they can be compared. -/
theorem compare?_ordered (compared : a.compare? b = some o) (number : a.holdsNaN = false)
    (number' : b.holdsNaN = false) : o ≠ .unordered := by
  refine compare?.induct
    (fun a b => compare? a b = some o → holdsNaN a = false → holdsNaN b = false → o ≠ .unordered)
    (fun as bs => compareItems? as bs = some o → anyNaN as = false → anyNaN bs = false →
      o ≠ .unordered)
    ?texts ?lists ?numbers ?apart ?alike ?shorter ?longer ?same ?differ a b compared number number'
  case texts =>
    intro s t compared _ _
    rw [compare?, Option.some.injEq] at compared
    rw [← compared]
    split
    · simp
    · split <;> simp
  case lists =>
    intro as bs ih compared number number'
    rw [compare?] at compared
    exact ih compared number number'
  case numbers =>
    intro a b _ _ x y found' found compared number number'
    rw [compare?_of_magnitude found, found', Option.map_some, Option.some.injEq] at compared
    obtain ⟨c, form⟩ := canon_of_magnitude found (isNaN_of_holdsNaN number)
    obtain ⟨c', form'⟩ := canon_of_magnitude found' (isNaN_of_holdsNaN number')
    have compares := compareMagnitudes_rank (a.isDecimal || b.isDecimal) (magnitude_valid found)
      (magnitude_valid found') form form'
    rintro rfl
    rw [compared] at compares
    exact compares
  case apart =>
    intro a b texts lists apart compared _ _
    rw [compare?.eq_3 _ _ texts lists] at compared
    split at compared
    · rename_i x y found found'
      exact absurd found' (apart x y found)
    · cases compared
  case alike =>
    intro compared _ _
    rw [← Option.some.inj compared]
    simp
  case shorter =>
    intro head rest compared _ _
    rw [← Option.some.inj compared]
    simp
  case longer =>
    intro head rest compared _ _
    rw [← Option.some.inj compared]
    simp
  case same =>
    intro a as b bs same ih compared number number'
    rw [compareItems?, if_pos same] at compared
    rw [anyNaN, Bool.or_eq_false_iff] at number number'
    exact ih compared number.2 number'.2
  case differ =>
    intro a as b bs differ ih compared number number'
    rw [compareItems?, if_neg differ] at compared
    rw [anyNaN, Bool.or_eq_false_iff] at number number'
    exact ih compared number.1 number'.1

theorem equals_eq_ok (number : a.isNaN = false) (number' : b.isNaN = false) :
    a.equals b = .ok (a.same b) := by
  have quiet : ∀ {v : Value}, v.isNaN = false → v.isSignaling = false := by
    intro v number
    cases v with
    | decimal d =>
        cases d with
        | nan => cases number
        | _ => rfl
    | _ => rfl
  rw [equals, quiet number, quiet number']
  rfl

/-- The test of an operator that compares by order. -/
theorem relates_of_order {operator : String} {holds : Comparison → Bool}
    (test : orderTest? operator = some holds) (set : v.isNull = false)
    (set' : target.isNull = false) (ordered : v.order target = .ok o) :
    v.relates operator target = .ok (holds o) := by
  have orders : (operator == "!=" || operator == "<>") = false := by
    rw [Bool.or_eq_false_iff, beq_eq_false_iff_ne, beq_eq_false_iff_ne]
    constructor
    · rintro rfl
      cases test
    · rintro rfl
      cases test
  rw [relates, orders, test, set, set', ordered]
  rfl

/-- The pairs of operators of which one holds where the other one does not. -/
def opposites : List (String × String) := [("=", "!="), ("==", "<>"), (">", "<="), ("<", ">=")]

/-- The first operators of those pairs that compare by order. -/
def orders : List String := [">", "<"]

/-- Whether a value stands to a target as the first operator of a pair says. -/
def stands (v : Value) (operator : String) (target : Value) : Bool :=
  match operator with
  | ">" => (v.order target).toOption == some .greater
  | "<" => (v.order target).toOption == some .less
  | _ => v == target

/-- Of two opposite operators one holds where the other one does not. -/
theorem relates_opposites {operator opposite : String} (pair : (operator, opposite) ∈ opposites)
    (set : v.isNull = false) (set' : target.isNull = false) (number : v.holdsNaN = false)
    (number' : target.holdsNaN = false)
    (comparable : operator ∈ orders → ∃ o, v.order target = .ok o) :
    v.relates operator target = .ok (v.stands operator target) ∧
      v.relates opposite target = .ok (!v.stands operator target) := by
  have equal : v.equals target = .ok (v == target) :=
    equals_eq_ok (isNaN_of_holdsNaN number) (isNaN_of_holdsNaN number')
  have unequal : (v.equals target >>= fun same => .ok !same) = .ok !(v == target) := by
    rw [equal]
    rfl
  have order : operator ∈ orders → ∃ o, v.order target = .ok o ∧
      (o = .less ∨ o = .same ∨ o = .greater) := by
    intro orders
    obtain ⟨o, ordered⟩ := comparable orders
    obtain ⟨compared, valid⟩ := order_eq_ok.mp ordered
    have comparison := compare?_ordered compared number number'
    refine ⟨o, ordered, ?_⟩
    cases o <;> simp at valid comparison ⊢
  simp only [opposites, List.mem_cons, Prod.mk.injEq, List.not_mem_nil, or_false] at pair
  rcases pair with ⟨rfl, rfl⟩ | ⟨rfl, rfl⟩ | ⟨rfl, rfl⟩ | ⟨rfl, rfl⟩
  · exact ⟨equal, unequal⟩
  · exact ⟨equal, unequal⟩
  · obtain ⟨o, ordered, comparison⟩ := order (by simp [orders])
    rw [relates_of_order rfl set set' ordered, relates_of_order rfl set set' ordered, stands,
      ordered]
    rcases comparison with rfl | rfl | rfl <;> exact ⟨rfl, rfl⟩
  · obtain ⟨o, ordered, comparison⟩ := order (by simp [orders])
    rw [relates_of_order rfl set set' ordered, relates_of_order rfl set set' ordered, stands,
      ordered]
    rcases comparison with rfl | rfl | rfl <;> exact ⟨rfl, rfl⟩

end Value

namespace Row
variable {rows : List Row} {column target : Value}

/-- Filters that compare the values of one dimension with a target. -/
def whereFilters (column : Value) (operator : String) (target : Value) : Entries Value Value :=
  [(column, .record [("where", .record [("operator", .text operator), ("value", target)])])]

theorem passes_whereFilters (row : Row) (operator : String) :
    row.passes (whereFilters column operator target) =
      (row.cell column).relates (Text.lower operator) target := by
  have where_ : (row.cell column).passes
      (.record [("where", .record [("operator", .text operator), ("value", target)])]) =
        (row.cell column).relates (Text.lower operator) target := rfl
  rw [whereFilters, passes_cons, where_]
  rcases (row.cell column).relates (Text.lower operator) target with e | ⟨_ | _⟩ <;> rfl

theorem filterAll_whereFilters {operator : String} (keep : Value → Bool)
    (answers : ∀ row ∈ rows,
      (row.cell column).relates (Text.lower operator) target = .ok (keep (row.cell column))) :
    filterAll (.object (whereFilters column operator target)) rows =
      .ok (rows.filter fun row => keep (row.cell column)) := by
  rw [filterAll_object]
  exact keepWhere_eq_filter fun row member =>
    (passes_whereFilters row operator).trans (answers row member)

/-- Where values of a dimension are compared with a target, opposite operators share the rows out
among them. Likeness and its negation both keep the rows that have the target as their value. -/
theorem filterAll_opposites (set : target.isNull = false) (number : target.holdsNaN = false)
    (values : ∀ row ∈ rows, (row.cell column).isNull = false ∧ (row.cell column).holdsNaN = false) :
    (∀ operator opposite,
      (Text.lower operator, Text.lower opposite) ∈ Value.opposites →
      (Text.lower operator ∈ Value.orders →
        ∀ row ∈ rows, ∃ o, (row.cell column).order target = .ok o) →
      filterAll (.object (whereFilters column operator target)) rows =
        .ok (rows.filter fun row => (row.cell column).stands (Text.lower operator) target) ∧
      filterAll (.object (whereFilters column opposite target)) rows =
        .ok (rows.filter fun row => !(row.cell column).stands (Text.lower operator) target)) ∧
    ∀ operator, Text.lower operator ∈ ["like", "not like"] →
      filterAll (.object (whereFilters column operator target)) rows =
        .ok (rows.filter fun row => row.cell column == target) := by
  refine ⟨fun operator opposite pair comparable => ?_, fun operator likeness => ?_⟩
  · have both : ∀ row ∈ rows, (row.cell column).relates (Text.lower operator) target =
        .ok ((row.cell column).stands (Text.lower operator) target) ∧
        (row.cell column).relates (Text.lower opposite) target =
          .ok (!(row.cell column).stands (Text.lower operator) target) := fun row member =>
      Value.relates_opposites pair (values row member).1 set (values row member).2 number
        fun orders => comparable orders row member
    exact ⟨filterAll_whereFilters (·.stands (Text.lower operator) target)
        fun row member => (both row member).1,
      filterAll_whereFilters (!·.stands (Text.lower operator) target)
        fun row member => (both row member).2⟩
  · refine filterAll_whereFilters (· == target) fun row member => ?_
    have equal := Value.equals_eq_ok (Value.isNaN_of_holdsNaN (values row member).2)
      (Value.isNaN_of_holdsNaN number)
    simp only [List.mem_cons, List.not_mem_nil, or_false] at likeness
    rcases likeness with like | notLike
    · rw [like]
      exact equal
    · rw [notLike]
      exact equal

/-- Versions as lists of numbers of several kinds. -/
def versions : List Row :=
  [[("version", .list [.int 1, .decimal (.finite false 25 (-1))])],
    [("version", .list [.bool true, .float 2.5, "a"])], [("version", .list [.float 1.0])]]

theorem filterAll_opposites_versions :
    (∀ row ∈ versions, (row.cell "version").isNull = false ∧
      (row.cell "version").holdsNaN = false) ∧
    (∀ row ∈ versions, ∃ o, (row.cell "version").order (.list [.int 1, .float 2.5]) = .ok o) ∧
    filterAll (.object (whereFilters "version" ">" (.list [.int 1, .float 2.5]))) versions =
      .ok (versions.filter fun row =>
        (row.cell "version").stands ">" (.list [.int 1, .float 2.5])) ∧
    filterAll (.object (whereFilters "version" "<=" (.list [.int 1, .float 2.5]))) versions =
      .ok (versions.filter fun row =>
        !(row.cell "version").stands ">" (.list [.int 1, .float 2.5])) ∧
    filterAll (.object (whereFilters "version" "Not Like" (.list [.int 1, .float 2.5]))) versions =
      .ok (versions.filter fun row => row.cell "version" == .list [.int 1, .float 2.5]) := by
  have values : ∀ row ∈ versions, (row.cell "version").isNull = false ∧
      (row.cell "version").holdsNaN = false := by decide +kernel
  have comparable : ∀ row ∈ versions,
      ∃ o, (row.cell "version").order (.list [.int 1, .float 2.5]) = .ok o := by
    have compared : versions.all (fun row =>
      ((row.cell "version").order (.list [.int 1, .float 2.5])).toBool) = true := by decide +kernel
    exact fun row member => Outcome.exists_ok (List.all_eq_true.mp compared row member)
  obtain ⟨both, likeness⟩ := @filterAll_opposites versions "version" (.list [.int 1, .float 2.5])
    rfl (by decide +kernel) values
  have greater : Text.lower ">" = ">" := by decide +kernel
  obtain ⟨first, second⟩ := both ">" "<=" (by decide +kernel) fun _ => comparable
  rw [greater] at first second
  exact ⟨values, comparable, first, second, likeness "Not Like" (by decide +kernel)⟩

/-- A text passes the filter by likeness and the one by its negation, and a list of a missing number
passes neither of two opposite ones. -/
theorem filterAll_unopposed :
    filterAll (.object (whereFilters "name" "like" "x")) [[("name", "x")]] =
      .ok [[("name", "x")]] ∧
    filterAll (.object (whereFilters "name" "not like" "x")) [[("name", "x")]] =
      .ok [[("name", "x")]] ∧
    filterAll (.object (whereFilters "sizes" ">" (.list [.nan 1]))) [[("sizes", .list [.nan 0])]] =
      .ok [] ∧
    filterAll (.object (whereFilters "sizes" "<=" (.list [.nan 1]))) [[("sizes", .list [.nan 0])]] =
      .ok [] :=
  ⟨rfl, rfl, rfl, rfl⟩

end Row
end Datacube
