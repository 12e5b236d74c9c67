import Datacube.Merge.Filter
import Datacube.Proofs.Outcome
import Datacube.Proofs.Value.Rank

/-!
# What filters say of equal values

A filter says the same of values that are equal, whatever kinds of numbers they are: it compares
them with what it holds by their exact values. Only where a comparison fails can two of them differ,
as a decimal cannot be compared with a number that is none.
-/

namespace Datacube.Value
open Number

variable {a b v target condition filters : Value} {o o' : Comparison} {x x' y : Magnitude}
  {kept kept' : Bool}

/-- Two keys that are equal, and no missing numbers. -/
structure Twins (a b : Value) : Prop where
  key : a.isKey = true
  key' : b.isKey = true
  number : a.isNaN = false
  equal : same a b = true

theorem isSignaling_of_isKey (key : a.isKey = true) : a.isSignaling = false := by
  cases a with
  | decimal d => simpa [isKey] using key
  | _ => rfl

/-- What an operator says of a value and a target. -/
def relates (v : Value) (operator : String) (target : Value) : Outcome Bool :=
  if operator == "!=" || operator == "<>" then do return !(← v.equals target)
  else match orderTest? operator with
    | none => v.equals target
    | some holds =>
      if v.isNull || target.isNull then .ok false
      else do return holds (← v.order target)

theorem satisfies_relates : v.satisfies condition = condition.objectFields >>= fun fields =>
    v.relates (Text.lower ((named? fields "operator").getD "=").toText)
      (optional fields "value") :=
  rfl

/-- Whether the value occurs in what the filters hold under a name, or an answer where there is
none. -/
def occursUnder (v filters : Value) (name : String) (otherwise : Bool) : Outcome Bool := do
  match ← filters.filterUnder name with
  | some values => v.occursIn values
  | none => return otherwise

theorem passes_occursUnder : v.passes filters =
    (v.occursUnder filters "only" true >>= fun kept =>
      if !kept then .ok false
      else v.occursUnder filters "except" false >>= fun dropped =>
        if dropped then .ok false
        else filters.filterUnder "where" >>= fun found => match found with
          | some condition => v.satisfies condition
          | none => .ok true) := by
  rw [passes, occursUnder, occursUnder]
  cases filters.filterUnder "only" with
  | error => rfl
  | ok only =>
      cases filters.filterUnder "except" with
      | error => cases only <;> rfl
      | ok except => cases only <;> cases except <;> rfl

/-- Magnitudes of one number stand alike to every other one, unless the comparison is invalid. -/
theorem compareMagnitudes_same_left (decimals decimals' : Bool) (valid : x.Valid)
    (valid' : x'.Valid) (valid'' : y.Valid) (same : compareMagnitudes false x x' = .same)
    (compared : compareMagnitudes decimals x y ≠ .invalid)
    (compared' : compareMagnitudes decimals' x' y ≠ .invalid) :
    compareMagnitudes decimals x y = compareMagnitudes decimals' x' y := by
  obtain ⟨c, form, form'⟩ := (compareMagnitudes_same valid valid').mp same
  cases x <;> cases x' <;>
    simp only [Magnitude.canon?, Option.some.injEq, reduceCtorEq] at form form' <;>
    rw [← form] at form' <;> simp only [Canon.finite.injEq, Canon.infinite.injEq, reduceCtorEq]
      at form'
  case finite.finite x x' =>
      cases y with
      | finite y =>
          have order := Scaled.order_compares valid valid''
          rw [← form'] at order
          rw [compareMagnitudes, compareMagnitudes,
            Ordering.Compares.inj order (Scaled.order_compares valid' valid'')]
      | infinite => rfl
      | nan => cases decimals <;> cases decimals' <;> simp_all [compareMagnitudes]
      | invalid => exact absurd rfl compared
  case infinite.infinite negative negative' =>
      subst form'
      cases y with
      | finite | infinite => rfl
      | nan => cases decimals <;> cases decimals' <;> simp_all [compareMagnitudes]
      | invalid => exact absurd rfl compared

namespace Twins
variable (twins : Twins a b)
include twins

theorem same_eq (v : Value) : same a v = same b v := by
  rw [Bool.eq_iff_iff]
  exact ⟨same_trans twins.key' twins.key (same_symm twins.key twins.key' twins.equal),
    same_trans twins.key twins.key' twins.equal⟩

/-- Twins are one value, or the same number. -/
theorem cases : a = b ∨ ∃ x x', a.magnitude? = some x ∧ b.magnitude? = some x' ∧
    compareMagnitudes false x x' = .same := by
  refine ((same_cases twins.key).mp twins.equal).imp_left ?_
  rintro ⟨c, single, single'⟩
  have number := twins.number
  cases single_of_single? single with
  | null => cases single_of_single? single'; rfl
  | text s => cases single_of_single? single'; rfl
  | nan => cases number
  | invalid => cases number

theorem equals_eq : a.equals = b.equals := by
  funext v
  have number : a.magnitude?.isSome = b.magnitude?.isSome := by
    obtain rfl | ⟨x, x', found, found', -⟩ := twins.cases
    · rfl
    · rw [found, found']
      rfl
  rw [equals, equals, isSignaling_of_isKey twins.key, isSignaling_of_isKey twins.key', number,
    twins.same_eq]

theorem occursIn_eq : a.occursIn = b.occursIn := by
  funext v
  obtain rfl | ⟨x, x', found, found', -⟩ := twins.cases
  · rfl
  · cases v with
    | list items => rw [occursIn, occursIn, twins.equals_eq]
    | object fields =>
        rw [occursIn, occursIn, twins.key, twins.key']
        simp only [twins.same_eq]
    | text s => cases a <;> cases found <;> cases b <;> cases found' <;> rfl
    | _ => rfl

theorem isNull_eq : a.isNull = b.isNull := by
  obtain rfl | ⟨x, x', found, found', -⟩ := twins.cases
  · rfl
  · cases a <;> cases found <;> cases b <;> cases found' <;> rfl

theorem order_eq (ordered : a.order v = .ok o) (ordered' : b.order v = .ok o') : o = o' := by
  obtain rfl | ⟨x, x', found, found', same⟩ := twins.cases
  · exact Except.ok.inj (ordered.symm.trans ordered')
  · rw [order_eq_ok, compare?_of_magnitude found, Option.map_eq_some_iff] at ordered
    rw [order_eq_ok, compare?_of_magnitude found', Option.map_eq_some_iff] at ordered'
    obtain ⟨⟨y, there, rfl⟩, compared⟩ := ordered
    obtain ⟨⟨y', there', rfl⟩, compared'⟩ := ordered'
    obtain rfl := Option.some.inj (there.symm.trans there')
    exact compareMagnitudes_same_left _ _ (magnitude_valid found) (magnitude_valid found')
      (magnitude_valid there) same compared compared'

theorem relates_eq {operator : String} (run : a.relates operator target = .ok kept)
    (run' : b.relates operator target = .ok kept') : kept = kept' := by
  rw [relates] at run run'
  rw [← twins.equals_eq, ← twins.isNull_eq] at run'
  split at run
  · rename_i differ
    rw [if_pos differ, run] at run'
    exact Except.ok.inj run'
  · rename_i operator
    rw [if_neg operator] at run'
    split at run
    · rename_i none
      rw [none, run] at run'
      exact Except.ok.inj run'
    · rename_i holds some
      rw [some] at run'
      simp only at run'
      split at run
      · rename_i null
        rw [if_pos null, run] at run'
        exact Except.ok.inj run'
      · rename_i set
        rw [if_neg set] at run'
        obtain ⟨o, ordered, run⟩ := Outcome.bind_eq_ok.mp run
        obtain ⟨o', ordered', run'⟩ := Outcome.bind_eq_ok.mp run'
        rw [← Outcome.pure_eq_ok.mp run, ← Outcome.pure_eq_ok.mp run',
          twins.order_eq ordered ordered']

theorem satisfies_eq (run : a.satisfies condition = .ok kept)
    (run' : b.satisfies condition = .ok kept') : kept = kept' := by
  rw [satisfies_relates] at run run'
  obtain ⟨fields, opened, run⟩ := Outcome.bind_eq_ok.mp run
  obtain ⟨fields', opened', run'⟩ := Outcome.bind_eq_ok.mp run'
  obtain rfl := Except.ok.inj (opened.symm.trans opened')
  exact twins.relates_eq run run'

/-- The filters of a dimension say the same of equal values. -/
theorem passes_eq (run : a.passes filters = .ok kept) (run' : b.passes filters = .ok kept') :
    kept = kept' := by
  have occurs : ∀ name otherwise,
      b.occursUnder filters name otherwise = a.occursUnder filters name otherwise := by
    intro name otherwise
    rw [occursUnder, occursUnder, twins.occursIn_eq]
  rw [passes_occursUnder, Outcome.bind_eq_ok] at run run'
  rw [occurs, occurs] at run'
  obtain ⟨only, found, run⟩ := run
  obtain ⟨only', found', run'⟩ := run'
  obtain rfl := Except.ok.inj (found.symm.trans found')
  split at run
  · rename_i dropped
    rw [if_pos dropped, run] at run'
    exact Except.ok.inj run'
  · rename_i allowed
    rw [if_neg allowed] at run'
    obtain ⟨except, found, run⟩ := Outcome.bind_eq_ok.mp run
    obtain ⟨except', found', run'⟩ := Outcome.bind_eq_ok.mp run'
    obtain rfl := Except.ok.inj (found.symm.trans found')
    split at run
    · rename_i dropped
      rw [if_pos dropped, run] at run'
      exact Except.ok.inj run'
    · rename_i allowed
      rw [if_neg allowed] at run'
      obtain ⟨condition?, found, run⟩ := Outcome.bind_eq_ok.mp run
      obtain ⟨condition?', found', run'⟩ := Outcome.bind_eq_ok.mp run'
      obtain rfl := Except.ok.inj (found.symm.trans found')
      cases condition? with
      | none => exact Except.ok.inj (run.symm.trans run')
      | some condition => exact twins.satisfies_eq run run'

end Twins
end Datacube.Value
