import Datacube.Proofs.Merge.Columns

/-!
# Where merged rows come from

A merge can be traced: every merged row is kept together with the places of the rows that it is made
from, one of the primary table and at most one of every other table. Tracing changes no row, and no
two merged rows are made from the same rows.
-/

namespace Datacube

/-- A merged row, with the places of the rows that it is made from in the results of their
tables. -/
structure Traced where
  row : Row
  places : Entries Value Nat

namespace Traced
variable {name own theirs other : Value} {right : List Row} {keep : Bool} {t new : Traced}
  {row : Row} {i : Nat}

def place? (t : Traced) (name : Value) : Option Nat := t.places.get? name

def start (name : Value) (rows : List Row) : List Traced :=
  rows.zipIdx.map fun e => ⟨e.1, [(name, e.2)]⟩

/-- The rows that a merged row becomes with those of the next table. -/
def joinOne (name : Value) (right : List Row) (own theirs : Value) (keep : Bool) (t : Traced) :
    List Traced :=
  match right.zipIdx.filter fun e => t.row.meets own theirs e.1 with
  | [] => if keep then [{ t with row := t.row.pad (Row.columns right) }] else []
  | found => found.map fun e => ⟨t.row.merge e.1, t.places ++ [(name, e.2)]⟩

theorem start_rows (name : Value) (rows : List Row) : (start name rows).map (·.row) = rows := by
  rw [start, List.map_map]
  exact List.zipIdx_map_fst 0 rows

theorem joinOne_rows (name : Value) (right : List Row) (own theirs : Value) (keep : Bool)
    (t : Traced) : (joinOne name right own theirs keep t).map (·.row) =
      Row.joinOne right own theirs keep t.row := by
  have found : right.filter (t.row.meets own theirs) =
      (right.zipIdx.filter fun e => t.row.meets own theirs e.1).map (·.1) := by
    conv_lhs => rw [← List.zipIdx_map_fst 0 right]
    rw [List.filter_map]
    rfl
  rw [joinOne, Row.joinOne, found]
  cases right.zipIdx.filter fun e => t.row.meets own theirs e.1 with
  | nil => cases keep <;> rfl
  | cons first rest => simp

theorem mem_joinOne (member : new ∈ joinOne name right own theirs keep t) :
    (∃ row i, right[i]? = some row ∧ t.row.meets own theirs row = true ∧
      new = ⟨t.row.merge row, t.places ++ [(name, i)]⟩) ∨
    (∀ row ∈ right, t.row.meets own theirs row = false) ∧
      new = { t with row := t.row.pad (Row.columns right) } := by
  rw [joinOne] at member
  split at member
  · rename_i none
    split at member
    · refine .inr ⟨fun row listed => ?_, List.mem_singleton.mp member⟩
      obtain ⟨i, found⟩ := List.mem_iff_getElem?.mp listed
      have unmet := List.filter_eq_nil_iff.mp none (row, i)
        (List.mk_mem_zipIdx_iff_getElem?.mpr found)
      exact Bool.eq_false_iff.mpr unmet
    · cases member
  · obtain ⟨⟨row, i⟩, found, rfl⟩ := List.mem_map.mp member
    obtain ⟨listed, meets⟩ := List.mem_filter.mp found
    exact .inl ⟨row, i, List.mk_mem_zipIdx_iff_getElem?.mp listed, meets, rfl⟩

/-! ## Places -/

theorem place?_merge (t : Traced) (row : Row) (i : Nat) :
    place? ⟨row, t.places ++ [(name, i)]⟩ other =
      (t.place? other).or (if other == name then some i else none) := by
  rw [place?, place?, Entries.get?, List.lookup_append, ← Entries.get?, ← Entries.get?,
    Entries.get?_cons]
  rfl

theorem place?_eq_none (text : ∃ s, other = .text s) (absent : other ∉ t.places.keys) :
    t.place? other = none := by
  obtain ⟨s, rfl⟩ := text
  exact (Entries.get?_eq_none (Entries.exact_text s)).mpr absent

theorem keys_joinOne (member : new ∈ joinOne name right own theirs keep t) :
    new.places.keys ⊆ t.places.keys ++ [name] := by
  rcases mem_joinOne member with ⟨row, i, -, -, rfl⟩ | ⟨-, rfl⟩
  · rw [Entries.keys_append_one]
    exact List.Subset.refl _
  · exact List.subset_append_left _ _

section Places
variable (text : ∃ s, name = .text s) (absent : name ∉ t.places.keys)
include text

include absent in
theorem place?_merge_self (row : Row) (i : Nat) :
    place? ⟨row, t.places ++ [(name, i)]⟩ name = some i := by
  rw [place?_merge, place?_eq_none text absent]
  obtain ⟨s, rfl⟩ := text
  rw [if_pos ((Entries.exact_text s _).mpr rfl)]
  rfl

theorem place?_merge_other (row : Row) (i : Nat) (differs : other ≠ name) :
    place? ⟨row, t.places ++ [(name, i)]⟩ other = t.place? other := by
  obtain ⟨s, rfl⟩ := text
  rw [place?_merge, if_neg (by rw [Value.beq_text]; exact differs), Option.or_none]

theorem place?_joinOne (member : new ∈ joinOne name right own theirs keep t)
    (differs : other ≠ name) : new.place? other = t.place? other := by
  rcases mem_joinOne member with ⟨row, i, -, -, rfl⟩ | ⟨-, rfl⟩
  · exact place?_merge_other text _ i differs
  · rfl

end Places

/-- Two merged rows are made from different rows of one of some tables. -/
def Apart (names : List Value) (t t' : Traced) : Prop :=
  ∃ name ∈ names, t.place? name ≠ t'.place? name

theorem zipIdx_apart (rows : List Row) : rows.zipIdx.Pairwise fun e e' => e.2 ≠ e'.2 := by
  apply List.pairwise_map.mp
  rw [List.zipIdx_map_snd]
  exact List.nodup_range'

theorem start_apart (text : ∃ s, name = .text s) (rows : List Row) :
    (start name rows).Pairwise (Apart [name]) := by
  rw [start, List.pairwise_map]
  refine (zipIdx_apart rows).imp fun {e e'} differ => ?_
  refine ⟨name, List.mem_singleton_self name, ?_⟩
  have single : ∀ e : Row × Nat, place? ⟨e.1, [(name, e.2)]⟩ name = some e.2 :=
    fun e => place?_merge_self (t := ⟨[], []⟩) text List.not_mem_nil e.1 e.2
  rw [single, single]
  exact fun same => differ (Option.some.inj same)

theorem joinOne_apart (text : ∃ s, name = .text s) (absent : name ∉ t.places.keys)
    {names : List Value} (named : name ∈ names) :
    (joinOne name right own theirs keep t).Pairwise (Apart names) := by
  rw [joinOne]
  split
  · split
    · exact List.pairwise_singleton _ _
    · exact .nil
  · rw [List.pairwise_map]
    refine ((zipIdx_apart right).sublist List.filter_sublist).imp fun {e e'} differ => ?_
    refine ⟨name, named, ?_⟩
    rw [place?_merge_self text absent, place?_merge_self text absent]
    exact fun same => differ (Option.some.inj same)

end Traced

namespace MergeStep
variable {results : Entries Value (List Row)} {ts ts' : List Traced} {s : MergeStep}

/-- A merge with the places of its rows. It fails where the merge fails. -/
def trace (results : Entries Value (List Row)) (ts : List Traced) (s : MergeStep) :
    Outcome (List Traced) := do
  let _ ← apply results (ts.map (·.row)) s
  let keep ← Row.keepsUnmatched s.type
  return ts.flatMap (Traced.joinOne s.table ((results.get? s.table).getD []) s.own s.theirs keep)

theorem trace_rows (results : Entries Value (List Row)) (ts : List Traced) (s : MergeStep) :
    (trace results ts s).map (List.map (·.row)) = apply results (ts.map (·.row)) s := by
  rw [trace]
  cases joined : apply results (ts.map (·.row)) s with
  | error e => rfl
  | ok rows =>
      obtain ⟨keep, kept, rfl⟩ := Row.join_ok joined
      rw [kept]
      refine congrArg Except.ok ?_
      rw [List.map_flatMap, List.flatMap_map]
      congr 1
      funext t
      exact Traced.joinOne_rows _ _ _ _ keep t

theorem trace_ok (traced : trace results ts s = .ok ts') :
    (∃ rows, apply results (ts.map (·.row)) s = .ok rows) ∧ ∃ keep,
      ts' = ts.flatMap (Traced.joinOne s.table ((results.get? s.table).getD []) s.own s.theirs
        keep) := by
  simp only [trace, Outcome.bind_eq_ok, Outcome.pure_eq_ok] at traced
  obtain ⟨rows, joined, keep, -, rfl⟩ := traced
  exact ⟨⟨rows, joined⟩, keep, rfl⟩

end MergeStep

/-- Merges the results of all tables into those of the primary table, with the places of their
rows. -/
def traceResults (primary : Value) (relations : List JoinRelation)
    (results : Entries Value (List Row)) : Outcome (List Traced) :=
  (MergeStep.schedule [primary] relations).1.foldlM (MergeStep.trace results)
    (Traced.start primary ((results.get? primary).getD []))

namespace MergeStep
variable {results : Entries Value (List Row)} {relations : List JoinRelation} {primary : Value}

theorem trace_foldlM (steps : List MergeStep) (ts : List Traced) :
    (steps.foldlM (trace results) ts).map (List.map (·.row)) =
      steps.foldlM (apply results) (ts.map (·.row)) := by
  induction steps generalizing ts with
  | nil => rfl
  | cons s rest ih =>
      rw [List.foldlM_cons, List.foldlM_cons, ← trace_rows]
      cases trace results ts s with
      | error e => rfl
      | ok ts' => exact ih ts'

theorem traceResults_rows (ordered : Ordered [primary] relations) :
    mergeResults primary relations results =
      (traceResults primary relations results).map (List.map (·.row)) := by
  rw [mergeResults_ordered ordered, traceResults, schedule_ordered ordered, trace_foldlM,
    Traced.start_rows]

end MergeStep
end Datacube
