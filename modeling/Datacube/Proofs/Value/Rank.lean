import Datacube.Proofs.Outcome
import Datacube.Proofs.Value.Equality
import Datacube.Value.Order
import Mathlib.Data.Prod.Lex
import Mathlib.Data.String.Basic

/-!
# The order of values

Null comes first, then numbers in the order of their exact values, then texts. Where two values can
be compared, the comparison gives this order; numbers and texts cannot be compared with each other.
-/

namespace Datacube
open Number

/-- A place in the order of values: a kind, and the place of a number or a text within it. -/
abbrev Rank := ℕ ×ₗ ℚ ×ₗ String

namespace Rank
variable {k k' : ℕ} {x x' : ℚ} {s s' : String}

def of (kind : ℕ) (x : ℚ) (s : String) : Rank := toLex (kind, toLex (x, s))

@[simp] theorem of_lt : of k x s < of k' x' s' ↔ k < k' ∨ k = k' ∧ (x < x' ∨ x = x' ∧ s < s') := by
  simp [of, Prod.Lex.toLex_lt_toLex]

@[simp] theorem of_inj : of k x s = of k' x' s' ↔ k = k' ∧ x = x' ∧ s = s' := by
  simp [of]

end Rank

namespace Canon
variable {c c' : Canon}

def isNaN : Canon → Bool
  | .nan _ | .invalid _ => true
  | _ => false

/-- Infinite numbers stand on both sides of the finite ones. -/
def rank : Canon → Rank
  | .null | .nan _ | .invalid _ => .of 0 0 ""
  | .infinite true => .of 1 0 ""
  | .finite x => .of 2 x ""
  | .infinite false => .of 3 0 ""
  | .text s => .of 4 0 s

theorem null_lt_rank (number : c.isNaN = false) (set : c ≠ .null) : Canon.null.rank < c.rank := by
  rcases c with _ | _ | _ | _ | (_ | _) | _ <;> simp_all [isNaN, rank]

theorem rank_injective (number : c.isNaN = false) (number' : c'.isNaN = false)
    (same : c.rank = c'.rank) : c = c' := by
  rcases c with _ | _ | _ | _ | (_ | _) | _ <;> rcases c' with _ | _ | _ | _ | (_ | _) | _ <;>
    simp_all [rank, isNaN]

/-- The places of values in the order that has texts before numbers. -/
def turned : Canon → Rank
  | .null | .nan _ | .invalid _ => .of 0 0 ""
  | .text s => .of 1 0 s
  | .infinite true => .of 2 0 ""
  | .finite x => .of 3 x ""
  | .infinite false => .of 4 0 ""

theorem turned_inj (number : c.isNaN = false) (number' : c'.isNaN = false) :
    c.turned = c'.turned ↔ c.rank = c'.rank := by
  rcases c with _ | _ | _ | _ | (_ | _) | _ <;> rcases c' with _ | _ | _ | _ | (_ | _) | _ <;>
    simp_all [rank, turned, isNaN]

/-- Both orders have null before all else, and they have numbers and texts in one order among
themselves. -/
theorem turned_lt_iff (number : c.isNaN = false) (number' : c'.isNaN = false)
    (kinds : c ≠ .null → c' ≠ .null → c.isNumber = c'.isNumber) :
    c.turned < c'.turned ↔ c.rank < c'.rank := by
  rcases c with _ | _ | _ | _ | (_ | _) | _ <;> rcases c' with _ | _ | _ | _ | (_ | _) | _ <;>
    simp_all [rank, turned, isNaN, isNumber]

/-- A number and a text stand differently in the two orders. -/
theorem isNumber_eq_of_lt (number : c.isNaN = false) (number' : c'.isNaN = false)
    (set : c ≠ .null) (set' : c' ≠ .null) (before : c.rank < c'.rank)
    (before' : c.turned < c'.turned) : c.isNumber = c'.isNumber := by
  rcases c with _ | _ | _ | _ | (_ | _) | _ <;> rcases c' with _ | _ | _ | _ | (_ | _) | _ <;>
    simp_all [rank, turned, isNaN, isNumber]

end Canon

/-- What a comparison says of two places in an order. -/
def Comparison.Compares {κ : Type} [LT κ] (a b : κ) : Comparison → Prop
  | .less => a < b
  | .same => a = b
  | .greater => b < a
  | .unordered | .invalid => False

namespace Value
variable {a b : Value} {c c' : Canon} {o : Comparison}

def rank (v : Value) : Rank := (v.canon?.getD .null).rank

/-- Whether the value is among the numbers without being one. -/
def isNaN (v : Value) : Bool :=
  match v.magnitude? with
  | some .nan | some .invalid => true
  | _ => false

theorem rank_eq (form : a.canon? = some c) : a.rank = c.rank := by
  rw [rank, form, Option.getD_some]

/-- A key other than a number that is none has a canonical form. -/
theorem exists_canon (key : a.isKey = true) (number : a.isNaN = false) :
    ∃ c, a.canon? = some c ∧ c.isNaN = false := by
  cases a with
  | null => exact ⟨.null, rfl, rfl⟩
  | bool b => exact ⟨_, rfl, rfl⟩
  | int n => exact ⟨_, rfl, rfl⟩
  | float x =>
      have form : (Value.float x).canon? = (Magnitude.ofFloat x).canon? := rfl
      rw [form]
      cases place : Magnitude.ofFloat x with
      | finite => exact ⟨_, rfl, rfl⟩
      | infinite => exact ⟨_, rfl, rfl⟩
      | _ => simp [isNaN, magnitude?, place] at number
  | nan => cases number
  | decimal d =>
      cases d with
      | nan => cases number
      | _ => exact ⟨_, rfl, rfl⟩
  | text s => exact ⟨.text s, rfl, rfl⟩
  | list => cases key
  | object => cases key

/-- Keys that are no missing numbers are equal when they have one place. -/
theorem same_iff_rank (key : a.isKey = true) (key' : b.isKey = true) (number : a.isNaN = false)
    (number' : b.isNaN = false) : same a b = true ↔ a.rank = b.rank := by
  obtain ⟨c, form, set⟩ := exists_canon key number
  obtain ⟨c', form', set'⟩ := exists_canon key' number'
  rw [same_iff key, rank_eq form, rank_eq form']
  constructor
  · rintro ⟨c, here, there⟩
    rw [Option.some.inj (form.symm.trans here), Option.some.inj (form'.symm.trans there)]
  · intro equal
    exact ⟨c, form, form'.trans (congrArg some (Canon.rank_injective set set' equal).symm)⟩

theorem compareMagnitudes_rank {x y : Magnitude} (decimals : Bool) (valid : x.Valid)
    (valid' : y.Valid) (form : x.canon? = some c) (form' : y.canon? = some c') :
    (compareMagnitudes decimals x y).Compares c.rank c'.rank := by
  cases x <;> cases y <;>
    simp only [Magnitude.canon?, Option.some.injEq, reduceCtorEq] at form form'
  case finite.finite x y =>
      subst form form'
      have order := Scaled.order_compares valid valid'
      rw [compareMagnitudes]
      cases compared : x.order y <;> rw [compared] at order <;>
        simpa [Comparison.Compares, Canon.rank] using order
  case finite.infinite negative =>
      subst form form'
      cases negative <;> simp [compareMagnitudes, Comparison.Compares, Canon.rank]
  case infinite.finite negative _ =>
      subst form form'
      cases negative <;> simp [compareMagnitudes, Comparison.Compares, Canon.rank]
  case infinite.infinite negative negative' =>
      subst form form'
      cases negative <;> cases negative' <;>
        simp [compareMagnitudes, Comparison.Compares, Canon.rank]

theorem magnitude_canon {x : Magnitude} (found : a.magnitude? = some x)
    (form : a.canon? = some c) (number : c.isNaN = false) : x.canon? = some c := by
  rcases canon?_eq_some.mp form with single | measured
  · cases single_of_single? single with
    | nan => cases number
    | invalid => cases number
    | _ => cases found
  · rwa [found, Option.bind_some] at measured

theorem order_eq_ok : a.order b = .ok o ↔ a.compare? b = some o ∧ o ≠ .invalid := by
  rw [order]
  split
  · rename_i found
    rw [found]
    simp only [fail, reduceCtorEq, Option.some.injEq, false_iff, not_and, not_not]
    exact Eq.symm
  · rename_i c found invalid
    rw [invalid, Except.ok.injEq, Option.some.injEq]
    refine ⟨fun same => ⟨same, ?_⟩, And.left⟩
    rintro rfl
    exact found same
  · rename_i none
    rw [none]
    simp [fail]

/-- A comparison of two keys that succeeds tells how they stand to each other. -/
theorem order_rank (key : a.isKey = true) (key' : b.isKey = true) (number : a.isNaN = false)
    (number' : b.isNaN = false) (ordered : a.order b = .ok o) : o.Compares a.rank b.rank := by
  obtain ⟨c, form, set⟩ := exists_canon key number
  obtain ⟨c', form', set'⟩ := exists_canon key' number'
  have compared := (order_eq_ok.mp ordered).1
  rw [compare?.eq_def] at compared
  split at compared
  · rename_i s t
    rw [← Option.some.inj compared, rank_eq (a := .text s) rfl, rank_eq (a := .text t) rfl]
    rcases lt_trichotomy s t with less | rfl | greater
    · simp [less.ne, less, Comparison.Compares, Canon.rank]
    · simp [Comparison.Compares]
    · simp [greater.ne', greater.not_gt, greater, Comparison.Compares, Canon.rank]
  · cases key
  · split at compared
    · rename_i x y found found'
      rw [← Option.some.inj compared, rank_eq form, rank_eq form']
      exact compareMagnitudes_rank _ (magnitude_valid found) (magnitude_valid found')
        (magnitude_canon found form set) (magnitude_canon found' form' set')
    · cases compared

theorem isNull_eq_false (key : a.isKey = true) (form : a.canon? = some c) :
    a.isNull = false ↔ c ≠ .null := by
  rw [← Bool.not_eq_true, not_iff_not]
  constructor
  · intro null
    rw [eq_null_of_isNull null] at form
    exact (Option.some.inj form).symm
  · rintro rfl
    rw [key?_eq_null.mp (key?_eq_some.mpr ⟨key, form⟩)]
    rfl

theorem null_lt_rank (key : a.isKey = true) (number : a.isNaN = false) (set : a.isNull = false) :
    Value.null.rank < a.rank := by
  obtain ⟨c, form, proper⟩ := exists_canon key number
  rw [rank_eq form]
  exact Canon.null_lt_rank proper ((isNull_eq_false key form).mp set)

/-- Two values can be sorted: they are keys, none is a missing number, and where neither is null
they can be compared. -/
structure Sorts (a b : Value) : Prop where
  key : a.isKey = true
  key' : b.isKey = true
  number : a.isNaN = false
  number' : b.isNaN = false
  ordered : a.isNull = false → b.isNull = false → ∃ o, a.order b = .ok o

/-- Whether a value comes before one that differs from it: null before all else, and what can be
compared in the order of the comparison. -/
def before (a b : Value) : Outcome Bool :=
  if a.isNull || b.isNull then .ok a.isNull else do return (← a.order b) = .less

theorem Sorts.before_eq (sorts : a.Sorts b) (differ : a.rank ≠ b.rank) :
    a.before b = .ok (decide (a.rank < b.rank)) := by
  rw [before]
  cases null : a.isNull with
  | true =>
      have here := eq_null_of_isNull null
      have set : b.isNull = false := by
        rw [← Bool.not_eq_true]
        intro null'
        exact differ (by rw [here, eq_null_of_isNull null'])
      rw [here, decide_eq_true (null_lt_rank sorts.key' sorts.number' set)]
      rfl
  | false =>
      cases null' : b.isNull with
      | true =>
          have after := null_lt_rank sorts.key sorts.number null
          rw [eq_null_of_isNull null', decide_eq_false after.not_gt]
          rfl
      | false =>
          obtain ⟨o, ordered⟩ := sorts.ordered null null'
          have compares := order_rank sorts.key sorts.key' sorts.number sorts.number' ordered
          rw [ordered]
          cases o with
          | less =>
              have less : a.rank < b.rank := compares
              rw [decide_eq_true less]
              rfl
          | same => exact absurd compares differ
          | greater =>
              have greater : b.rank < a.rank := compares
              rw [decide_eq_false greater.not_gt]
              rfl
          | unordered => cases compares
          | invalid => cases compares

theorem sorts_of_before {less : Bool} (key : a.isKey = true) (key' : b.isKey = true)
    (number : a.isNaN = false) (number' : b.isNaN = false) (test : a.before b = .ok less) :
    a.Sorts b := by
  refine ⟨key, key', number, number', fun set set' => ?_⟩
  rw [before, set, set'] at test
  obtain ⟨o, ordered, -⟩ := Outcome.bind_eq_ok.mp test
  exact ⟨o, ordered⟩

/-! ## Texts before numbers -/

def turned (v : Value) : Rank := (v.canon?.getD .null).turned

theorem turned_eq (form : a.canon? = some c) : a.turned = c.turned := by
  rw [turned, form, Option.getD_some]

theorem same_iff_turned (key : a.isKey = true) (key' : b.isKey = true) (number : a.isNaN = false)
    (number' : b.isNaN = false) : same a b = true ↔ a.turned = b.turned := by
  obtain ⟨c, form, proper⟩ := exists_canon key number
  obtain ⟨c', form', proper'⟩ := exists_canon key' number'
  rw [same_iff_rank key key' number number', rank_eq form, rank_eq form', turned_eq form,
    turned_eq form', Canon.turned_inj proper proper']

theorem isNumber_of_order (key : a.isKey = true) (form : a.canon? = some c)
    (form' : b.canon? = some c') (number : c.isNaN = false) (number' : c'.isNaN = false)
    (ordered : a.order b = .ok o) : c.isNumber = c'.isNumber := by
  have compared := (order_eq_ok.mp ordered).1
  rw [compare?.eq_def] at compared
  split at compared
  · rw [← Option.some.inj form, ← Option.some.inj form']
    rfl
  · cases key
  · split at compared
    · rename_i x y found found'
      have measured := magnitude_canon found form number
      have measured' := magnitude_canon found' form' number'
      rw [isNumber_of_magnitude? (Option.bind_eq_some_iff.mpr ⟨x, found, measured⟩),
        isNumber_of_magnitude? (Option.bind_eq_some_iff.mpr ⟨y, found', measured'⟩)]
    · cases compared

theorem compare?_of_magnitude {x : Magnitude} (found : a.magnitude? = some x) : a.compare? b =
    b.magnitude?.map fun y => compareMagnitudes (a.isDecimal || b.isDecimal) x y := by
  rw [compare?.eq_def]
  split
  · cases found
  · cases found
  · rw [found]
    cases b.magnitude? <;> rfl

theorem text_of_canon? (form : a.canon? = some c) (number : c.isNaN = false) (set : c ≠ .null)
    (kind : c.isNumber = false) : ∃ s, a = .text s := by
  rcases canon?_eq_some.mp form with single | measured
  · cases single_of_single? single with
    | null => exact absurd rfl set
    | text s => exact ⟨s, rfl⟩
    | nan => cases number
    | invalid => cases number
  · rw [isNumber_of_magnitude? measured] at kind
    cases kind

theorem magnitude_of_canon? (form : a.canon? = some c) (kind : c.isNumber = true) :
    ∃ x, a.magnitude? = some x ∧ x.canon? = some c := by
  rcases canon?_eq_some.mp form with single | measured
  · rw [isNumber_of_single? single] at kind
    cases kind
  · exact Option.bind_eq_some_iff.mp measured

/-- Two numbers can be compared, and so can two texts. -/
theorem exists_order (form : a.canon? = some c) (form' : b.canon? = some c')
    (number : c.isNaN = false) (number' : c'.isNaN = false) (set : c ≠ .null) (set' : c' ≠ .null)
    (kinds : c.isNumber = c'.isNumber) : ∃ o, a.order b = .ok o := by
  cases kind : c.isNumber with
  | false =>
      obtain ⟨s, rfl⟩ := text_of_canon? form number set kind
      obtain ⟨t, rfl⟩ := text_of_canon? form' number' set' (kinds ▸ kind)
      refine ⟨_, order_eq_ok.mpr ⟨compare?.eq_def _ _, ?_⟩⟩
      split
      · simp
      · split <;> simp
  | true =>
      obtain ⟨x, found, measured⟩ := magnitude_of_canon? form kind
      obtain ⟨y, found', measured'⟩ := magnitude_of_canon? form' (kinds ▸ kind)
      have compares := compareMagnitudes_rank (a.isDecimal || b.isDecimal)
        (magnitude_valid found) (magnitude_valid found') measured measured'
      have compared : a.compare? b = some (compareMagnitudes (a.isDecimal || b.isDecimal) x y) := by
        rw [compare?_of_magnitude found, found', Option.map_some]
      refine ⟨_, order_eq_ok.mpr ⟨compared, fun invalid => ?_⟩⟩
      rw [invalid] at compares
      exact compares

/-- Values that can be sorted stand alike in both orders. -/
theorem Sorts.turned_lt_iff (sorts : a.Sorts b) : a.turned < b.turned ↔ a.rank < b.rank := by
  obtain ⟨c, form, number⟩ := exists_canon sorts.key sorts.number
  obtain ⟨c', form', number'⟩ := exists_canon sorts.key' sorts.number'
  rw [turned_eq form, turned_eq form', rank_eq form, rank_eq form']
  refine Canon.turned_lt_iff number number' fun set set' => ?_
  obtain ⟨o, ordered⟩ := sorts.ordered ((isNull_eq_false sorts.key form).mpr set)
    ((isNull_eq_false sorts.key' form').mpr set')
  exact isNumber_of_order sorts.key form form' number number' ordered

/-- Values that stand alike in both orders can be sorted. -/
theorem sorts_of_turned (key : a.isKey = true) (key' : b.isKey = true) (number : a.isNaN = false)
    (number' : b.isNaN = false) (differ : a.rank ≠ b.rank)
    (alike : a.rank < b.rank ↔ a.turned < b.turned) : a.Sorts b := by
  refine ⟨key, key', number, number', fun set set' => ?_⟩
  obtain ⟨c, form, number⟩ := exists_canon key number
  obtain ⟨c', form', number'⟩ := exists_canon key' number'
  rw [isNull_eq_false key form] at set
  rw [isNull_eq_false key' form'] at set'
  rw [rank_eq form, rank_eq form', turned_eq form, turned_eq form'] at alike
  rw [rank_eq form, rank_eq form'] at differ
  refine exists_order form form' number number' set set' ?_
  rcases lt_or_gt_of_ne differ with before | behind
  · exact Canon.isNumber_eq_of_lt number number' set set' before (alike.mp before)
  · have apart := mt (Canon.turned_inj number number').mp differ
    have behind' := lt_of_le_of_ne (not_lt.mp (mt alike.mpr behind.not_gt)) (Ne.symm apart)
    exact (Canon.isNumber_eq_of_lt number' number set' set behind behind').symm

end Value
end Datacube
