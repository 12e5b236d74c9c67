import Datacube.Proofs.Merge.Join
import Datacube.Proofs.Merge.Schedule

/-!
# The columns of merged rows

A merged row has no columns but those of the rows that it is made from, which are rows of tables
that are merged. Where relations are ordered, a relation starts at a merged table and leads to one
that is not.
-/

namespace Datacube

namespace Row
variable {left right rows : List Row} {own theirs type : Value} {row other merged : Row} {c : Value}
  {keep : Bool}

theorem mem_collect {columns acc : List Value} (member : c ∈ columns.foldl
      (fun acc column => if acc.contains column then acc else acc ++ [column]) acc) :
    c ∈ acc ∨ c ∈ columns := by
  induction columns generalizing acc with
  | nil => exact .inl member
  | cons column rest ih =>
      rw [List.foldl_cons] at member
      rcases ih member with before | later
      · split at before
        · exact .inl before
        · rcases List.mem_append.mp before with old | new
          · exact .inl old
          · exact .inr (List.mem_singleton.mp new ▸ List.mem_cons_self)
      · exact .inr (List.mem_cons_of_mem column later)

theorem mem_columns (member : c ∈ columns rows) : ∃ row ∈ rows, c ∈ row.keys := by
  rw [columns, ← List.foldl_flatMap] at member
  exact List.mem_flatMap.mp ((mem_collect member).resolve_left List.not_mem_nil)

theorem mem_keys_merge (member : c ∈ (row.merge other).keys) : c ∈ row.keys ∨ c ∈ other.keys := by
  rw [merge, Entries.putAll] at member
  induction other generalizing row with
  | nil => exact .inl member
  | cons e rest ih =>
      rw [List.foldl_cons] at member
      rcases ih member with before | later
      · rcases Entries.mem_keys_of_put before with old | rfl
        · exact .inl old
        · exact .inr List.mem_cons_self
      · exact .inr (List.mem_cons_of_mem e.1 later)

theorem mem_keys_pad {added : List Value} (member : c ∈ (row.pad added).keys) :
    c ∈ row.keys ∨ c ∈ added := by
  rw [pad] at member
  induction added generalizing row with
  | nil => exact .inl member
  | cons column rest ih =>
      rcases ih member with before | later
      · obtain ⟨e, listed, rfl⟩ := List.mem_map.mp before
        rcases Entries.mem_putNew listed with old | rfl
        · exact .inl (List.mem_map_of_mem old)
        · exact .inr List.mem_cons_self
      · exact .inr (List.mem_cons_of_mem column later)

theorem mem_joinOne (member : merged ∈ joinOne right own theirs keep row) :
    (∃ other ∈ right, row.meets own theirs other = true ∧ merged = row.merge other) ∨
      merged = row.pad (columns right) := by
  rw [joinOne] at member
  split at member
  · split at member
    · exact .inr (List.mem_singleton.mp member)
    · cases member
  · obtain ⟨other, found, rfl⟩ := List.mem_map.mp member
    obtain ⟨listed, meets⟩ := List.mem_filter.mp found
    exact .inl ⟨other, listed, meets, rfl⟩

/-! ## Cells -/

theorem cell_of_not_mem (text : ∃ s, c = .text s) (absent : c ∉ row.keys) : row.cell c = .null := by
  obtain ⟨s, rfl⟩ := text
  rw [cell, (Entries.get?_eq_none (Entries.exact_text s)).mpr absent, Option.getD_none]

theorem cell_pad (added : List Value) : (row.pad added).cell c = row.cell c := by
  rw [pad]
  induction added generalizing row with
  | nil => rfl
  | cons column rest ih =>
      rw [List.foldl_cons, ih, Entries.putNew]
      split
      · rfl
      · rw [cell, cell, Entries.get?, List.lookup_append, ← Entries.get?, ← Entries.get?,
          Entries.get?_cons]
        cases Entries.get? row c with
        | some v => rfl
        | none => split <;> rfl

section Merge
variable (text : ∃ s, c = .text s) (texts : ∀ column ∈ other.keys, ∃ s, column = .text s)
include text texts

theorem cell_merge_left (absent : c ∉ other.keys) : (row.merge other).cell c = row.cell c := by
  obtain ⟨s, rfl⟩ := text
  rw [merge, Entries.putAll]
  induction other generalizing row with
  | nil => rfl
  | cons e rest ih =>
      rw [Entries.keys_cons, List.mem_cons, not_or] at absent
      obtain ⟨t, column⟩ := texts e.1 List.mem_cons_self
      rw [List.foldl_cons, ih (fun column later => texts column (List.mem_cons_of_mem _ later))
        absent.2, cell, cell, column, Entries.get?_put_apart (Entries.exact_text t)
        (Entries.exact_text s) (column ▸ absent.1)]

theorem cell_merge_right (once : other.keys.Nodup) (present : c ∈ other.keys) :
    (row.merge other).cell c = other.cell c := by
  induction other generalizing row with
  | nil => cases present
  | cons e rest ih =>
      have later : ∀ column ∈ Entries.keys rest, ∃ s, column = .text s :=
        fun column later => texts column (List.mem_cons_of_mem _ later)
      rw [Entries.keys_cons, List.nodup_cons] at once
      have step : merge row (e :: rest) = merge (row.put e.1 e.2) rest := rfl
      rw [step, cell, cell, Entries.get?_cons]
      obtain ⟨s, rfl⟩ := text
      rcases List.mem_cons.mp present with (here : .text s = e.1) | behind
      · rw [if_pos ((Entries.exact_text s e.1).mpr here), ← cell,
          cell_merge_left ⟨s, rfl⟩ later (here ▸ once.1), cell, ← here,
          Entries.get?_put_exact (Entries.exact_text s)]
      · have differs : ¬ (Value.text s == e.1) = true := by
          rw [Entries.exact_text s e.1]
          rintro same
          exact once.1 (same ▸ behind)
        rw [if_neg differs, ← cell, ← cell, ih later once.2 behind]

end Merge

/-- A joined row has no columns but those of both sides. -/
theorem keys_join (joined : join left right own theirs type = .ok rows) (member : merged ∈ rows)
    (inside : c ∈ merged.keys) :
    (∃ row ∈ left, c ∈ row.keys) ∨ ∃ other ∈ right, c ∈ other.keys := by
  obtain ⟨keep, -, rfl⟩ := join_ok joined
  obtain ⟨row, listed, member⟩ := List.mem_flatMap.mp member
  rcases mem_joinOne member with ⟨other, found, -, rfl⟩ | rfl
  · rcases mem_keys_merge inside with own | added
    · exact .inl ⟨row, listed, own⟩
    · exact .inr ⟨other, found, added⟩
  · rcases mem_keys_pad inside with own | padded
    · exact .inl ⟨row, listed, own⟩
    · exact .inr (mem_columns padded)

end Row

namespace MergeStep
variable {merged : List Value} {before after relations : List JoinRelation} {r : JoinRelation}
  {results : Entries Value (List Row)} {primary : Value} {rows : List Row}

theorem keys_merged (run : (relations.map forward).foldlM (apply results)
      ((results.get? primary).getD []) = .ok rows) {row : Row} (member : row ∈ rows) {c : Value}
    (inside : c ∈ row.keys) : ∃ name ∈ primary :: relations.map (·.target),
      ∃ other ∈ (results.get? name).getD [], c ∈ other.keys := by
  have final := Outcome.foldlM_induction (fun steps (rows : List Row) => ∀ row ∈ rows,
    ∀ c ∈ row.keys, ∃ name ∈ primary :: steps.map (·.table),
      ∃ other ∈ (results.get? name).getD [], c ∈ other.keys) run ?_ ?_
  · rw [List.map_map] at final
    exact final row member c inside
  · exact fun row listed c inside => ⟨primary, List.mem_cons_self, row, listed, inside⟩
  · intro done step _ rows next all joined row member c inside
    rcases Row.keys_join joined member inside with ⟨row, listed, inside⟩ | ⟨other, found, inside⟩
    · obtain ⟨name, known, origin⟩ := all row listed c inside
      refine ⟨name, ?_, origin⟩
      rw [List.map_append, ← List.cons_append]
      exact List.mem_append_left _ known
    · exact ⟨step.table, by simp, other, found, inside⟩

theorem Ordered.split (ordered : Ordered merged (before ++ r :: after)) :
    (merged ++ before.map (·.target)).contains r.source = true ∧
      (merged ++ before.map (·.target)).contains r.target = false := by
  induction before generalizing merged with
  | nil => exact ⟨by simpa using ordered.1, by simpa using ordered.2.1⟩
  | cons first rest ih => simpa using ih ordered.2.2

theorem target_new (distinct : (primary :: (before ++ r :: after).map (·.target)).Nodup) :
    r.target ∉ primary :: before.map (·.target) := by
  rw [List.map_append, List.map_cons, ← List.cons_append] at distinct
  exact fun known => List.disjoint_of_nodup_append distinct known List.mem_cons_self

end MergeStep
end Datacube
