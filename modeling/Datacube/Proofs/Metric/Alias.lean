import Datacube.Metric.Aggregation
import Datacube.Proofs.Text.Cut
import Mathlib.Data.List.Forall2

/-!
# Default aliases

Without an alias of its own an aggregation is named by its kind and its reference, with underscores
for the colon and the points. Two aggregations get one name when they are of one kind and their
references differ at most where both hold a point, a colon or an underscore, which names are free to
hold. References whose names hold none of them never do.
-/

namespace Datacube.Aggregation
open Text

variable {a b : Aggregation}

/-- The characters that a default alias does not tell apart. -/
def isMark (c : Char) : Bool := c = '.' || c = ':' || c = '_'

/-- Two aggregations of one kind, whose references differ in nothing but marks. -/
def Blurs (a b : Aggregation) : Prop :=
  a.kind = b.kind ∧ List.Forall₂ (fun x y => x = y ∨ isMark x = true ∧ isMark y = true)
    a.reference.toList b.reference.toList

instance (a b : Aggregation) : Decidable (a.Blurs b) := inferInstanceAs (Decidable (_ ∧ _))

/-! ## Names -/

/-- A character as it stands in a default alias. -/
def fused (c : Char) : Char := if c = ':' ∨ c = '.' then '_' else c

theorem fused_eq_iff {x y : Char} :
    fused x = fused y ↔ x = y ∨ isMark x = true ∧ isMark y = true := by
  simp only [fused, isMark, Bool.or_eq_true, decide_eq_true_eq]
  constructor
  · intro same
    split at same <;> split at same <;> grind
  · rintro (rfl | ⟨left, right⟩)
    · rfl
    · split <;> split <;> grind

theorem blurs_iff :
    a.Blurs b ↔ a.kind = b.kind ∧ a.reference.toList.map fused = b.reference.toList.map fused := by
  simp only [Blurs, ← fused_eq_iff]
  rw [← List.forall₂_eq_eq_eq, List.forall₂_map_left_iff, List.forall₂_map_right_iff]

theorem aliasName_default (unnamed : a.explicitAlias.isTrue = false) :
    a.aliasName =
      .text (String.ofList (a.kind.name.toList ++ '_' :: a.reference.toList.map fused)) := by
  have letters : (substitute '.' '_' (substitute ':' '_' a.reference)).toList =
      a.reference.toList.map fused := by
    simp only [substitute, String.toList_ofList, List.map_map]
    refine List.map_congr_left fun c _ => ?_
    rw [Function.comp_apply, fused]
    split <;> grind
  rw [aliasName, Value.orElse, unnamed]
  refine congrArg Value.text (String.toList_injective ?_)
  simp only [String.toList_append, String.toList_ofList, letters, List.append_assoc]
  rfl

/-- Aggregations without aliases of their own get one name exactly when they blur. -/
theorem aliasName_eq_iff (unnamed : a.explicitAlias.isTrue = false)
    (unnamed' : b.explicitAlias.isTrue = false) : a.aliasName = b.aliasName ↔ a.Blurs b := by
  have bare : ∀ kind : AggregationKind, '_' ∉ kind.name.toList := by
    intro kind
    cases kind <;> decide
  have told : ∀ kind kind' : AggregationKind, kind.name.toList = kind'.name.toList →
      kind = kind' := by
    intro kind kind'
    cases kind <;> cases kind' <;> decide
  rw [aliasName_default unnamed, aliasName_default unnamed', Value.text.injEq, blurs_iff]
  constructor
  · intro same
    -- The kind ends at the first underscore.
    obtain ⟨kinds, references⟩ := first_unique (bare a.kind) (bare b.kind)
      (String.ofList_injective same)
    exact ⟨told _ _ kinds, references⟩
  · rintro ⟨kind, reference⟩
    rw [kind, reference]

/-! ## References without marks in their names -/

/-- A text without marks. -/
def Unmarked (name : List Char) : Prop := ∀ c ∈ name, isMark c = false

theorem Unmarked.free {name : List Char} (unmarked : Unmarked name) : '_' ∉ name :=
  fun member => absurd (unmarked '_' member) (by decide)

theorem fused_of_unmarked {name : List Char} (unmarked : Unmarked name) :
    name.map fused = name := by
  refine (List.map_congr_left fun c member => ?_).trans (List.map_id name)
  have plain := unmarked c member
  simp only [isMark, Bool.or_eq_false_iff, decide_eq_false_iff_not] at plain
  rw [fused, if_neg (by tauto)]
  rfl

/-- A column of a table, with or without a provider in front, where no name holds a mark. -/
inductive Plain : List Char → Prop where
  | bare {table column : List Char} (named : Unmarked table) (bears : Unmarked column) :
    Plain (table ++ '.' :: column)
  | owned {provider table column : List Char} (owns : Unmarked provider) (named : Unmarked table)
    (bears : Unmarked column) : Plain (provider ++ ':' :: (table ++ '.' :: column))

/-- A name in front of a mark can be told from what comes after it. -/
theorem fused_cut {name name' rest rest' : List Char} {mark mark' : Char} (free : Unmarked name)
    (free' : Unmarked name') (marks : fused mark = '_') (marks' : fused mark' = '_')
    (same : (name ++ mark :: rest).map fused = (name' ++ mark' :: rest').map fused) :
    name = name' ∧ rest.map fused = rest'.map fused := by
  rw [List.map_append, List.map_append, List.map_cons, List.map_cons, marks, marks',
    fused_of_unmarked free, fused_of_unmarked free'] at same
  exact first_unique free.free free'.free same

theorem fused_unmarked_ne {name before after : List Char} {mark : Char} (free : Unmarked name)
    (marks : fused mark = '_') : name.map fused ≠ (before ++ mark :: after).map fused := by
  intro same
  rw [fused_of_unmarked free, List.map_append, List.map_cons, marks] at same
  exact free.free (by simp [same])

/-- What is written in a default alias for a reference tells the reference where it is plain. -/
theorem Plain.fused_inj {chars chars' : List Char} (plain : Plain chars) (plain' : Plain chars')
    (same : chars.map fused = chars'.map fused) : chars = chars' := by
  cases plain with
  | bare named bears => cases plain' with
    | bare named' bears' =>
        obtain ⟨rfl, columns⟩ := fused_cut named named' rfl rfl same
        rw [fused_of_unmarked bears, fused_of_unmarked bears'] at columns
        rw [columns]
    | owned owns' named' bears' =>
        exact absurd (fused_cut named owns' rfl rfl same).2 (fused_unmarked_ne bears rfl)
  | owned owns named bears => cases plain' with
    | bare named' bears' =>
        exact absurd (fused_cut owns named' rfl rfl same).2.symm (fused_unmarked_ne bears' rfl)
    | owned owns' named' bears' =>
        obtain ⟨rfl, rest⟩ := fused_cut owns owns' rfl rfl same
        obtain ⟨rfl, columns⟩ := fused_cut named named' rfl rfl rest
        rw [fused_of_unmarked bears, fused_of_unmarked bears'] at columns
        rw [columns]

theorem Blurs.eq_of_plain (blurs : a.Blurs b) (plain : Plain a.reference.toList)
    (plain' : Plain b.reference.toList) : a.kind = b.kind ∧ a.reference = b.reference :=
  ⟨blurs.1, String.toList_injective (plain.fused_inj plain' (blurs_iff.mp blurs).2)⟩

end Datacube.Aggregation
