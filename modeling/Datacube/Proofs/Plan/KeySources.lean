import Datacube.Proofs.Plan.MergeKeys

/-!
# Where keys come from

What a table selects for a merge is traced to the joins of its plan. A key column bears the name of
its table in its alias, and a dimension is a key of a table only where a join on this dimension ends
in the table, which does not select it anyway.
-/

namespace Datacube

namespace MergeKeys
variable {k : MergeKeys} {identifier name other : String} {column : Value} {e : String × Value}
  {b d : BoundDimension}

theorem mem_columns_addColumn
    (member : e ∈ ((k.addColumn identifier name column).columns.get? other).getD []) :
    e ∈ (k.columns.get? other).getD [] ∨ other = identifier ∧ e = (name, column) := by
  rw [columns_addColumn] at member
  split at member
  · rename_i same
    rcases Entries.mem_put (Entries.exact_of_lawful _) member with new | old
    · exact .inr ⟨same, new⟩
    · exact .inl (same ▸ old)
  · exact .inl member

theorem nodup_columns_addColumn (distinct : ∀ other, ((k.columns.get? other).getD []).keys.Nodup) :
    ∀ other, (((k.addColumn identifier name column).columns.get? other).getD []).keys.Nodup := by
  intro other
  rw [columns_addColumn]
  split
  · exact Entries.nodup_keys_put (Entries.exact_of_lawful _) (distinct identifier)
  · exact distinct other

theorem mem_dimensions_addDimension
    (member : b ∈ ((k.addDimension identifier d).dimensions.get? other).getD []) :
    b ∈ (k.dimensions.get? other).getD [] ∨ other = identifier ∧ b = d := by
  rw [dimensions_addDimension] at member
  split at member
  · rename_i same
    rcases List.mem_append.mp member with old | new
    · exact .inl (same ▸ old)
    · exact .inr ⟨same, List.mem_singleton.mp new⟩
  · exact .inl member

end MergeKeys

namespace Planner
variable {tables : Entries String Table} {dimensions : List BoundDimension} {k k' : MergeKeys}
  {s : JoinStep} {registry : Registry} {joins : List JoinStep} {identifier : String}
  {b : BoundDimension}

/-- A join on a requested dimension ends in a table, and so makes the dimension one of its keys. -/
structure KeyedBy (tables : Entries String Table) (dimensions : List BoundDimension)
    (identifier : String) (b : BoundDimension) (s : JoinStep) : Prop where
  shared : s.relation.type = .dimension
  requested : ∃ d, dimensions.find? (·.aliasName == s.relation.key "alias") = some d ∧
    b.dimension = d.dimension
  known : tables.get? identifier = some b.table
  column : s.sourceId = identifier ∧ b.column = s.relation.key "left" ∨
    s.targetId = identifier ∧ b.column = s.relation.key "right"
  foreign : ∀ d ∈ dimensions, (d.aliasName == s.relation.key "alias") = true →
    d.table.identifier ≠ identifier

/-- What tables select for a merge comes from joins of their plan. -/
structure Sourced (tables : Entries String Table) (dimensions : List BoundDimension)
    (joins : List JoinStep) (k : MergeKeys) : Prop where
  keyedBy : ∀ identifier, ∀ b ∈ (k.dimensions.get? identifier).getD [],
    ∃ s ∈ joins, KeyedBy tables dimensions identifier b s
  aliased : ∀ identifier, ∀ e ∈ (k.columns.get? identifier).getD [],
    keyAlias (nameAmong tables identifier) e.2 = .ok e.1
  compared : ∀ identifier, ∀ e ∈ (k.columns.get? identifier).getD [], ∃ rel ∈ k.relations,
    rel.source = nameAmong tables identifier ∧ rel.sourceAlias = .text e.1 ∨
      rel.target = nameAmong tables identifier ∧ rel.targetAlias = .text e.1
  distinct : ∀ identifier, ((k.columns.get? identifier).getD []).keys.Nodup
  relations : List.Forall₂ (fun s r => r.source = nameAmong tables s.sourceId ∧
    r.target = nameAmong tables s.targetId ∧
    ∃ k before, Keyed tables dimensions k s before r.sourceAlias r.targetAlias) joins k.relations

theorem mem_addDimensionKey {requested : Dimension} {aliasName : Value} {t : Table} {column : Value}
    (member : b ∈ ((addDimensionKey dimensions requested aliasName t column k).dimensions.get?
      identifier).getD []) :
    b ∈ (k.dimensions.get? identifier).getD [] ∨
      identifier = t.identifier ∧ b = ⟨requested, t, column⟩ ∧
        ∀ d ∈ dimensions, (d.aliasName == aliasName) = true → d.table.identifier ≠ identifier := by
  rw [addDimensionKey] at member
  split at member
  · exact .inl member
  · rename_i foreign
    refine (MergeKeys.mem_dimensions_addDimension member).imp_right ?_
    rintro ⟨rfl, rfl⟩
    refine ⟨rfl, rfl, fun d listed bears same => foreign (List.any_eq_true.mpr ⟨d, listed, ?_⟩)⟩
    rw [bears, same, beq_self_eq_true, Bool.and_true]

section Keyed
variable {before : MergeKeys} {own theirs : Value}
  (keyed : Keyed tables dimensions k s before own theirs)
include keyed

theorem Keyed.mem_dimensions (tabled : Tabled registry tables)
    (member : b ∈ (before.dimensions.get? identifier).getD []) :
    b ∈ (k.dimensions.get? identifier).getD [] ∨ KeyedBy tables dimensions identifier b s := by
  have keyed' : ∀ {key : String} {t : Table}, tables.get? key = some t → key = t.identifier :=
    fun found => tabled.keyed _ (Entries.mem_of_get? (Entries.exact_of_lawful _) found)
  cases keyed with
  | unkeyed => exact .inl member
  | dimension shared requested source target =>
      rcases mem_addDimensionKey member with earlier | ⟨same, rfl, foreign⟩
      · refine (mem_addDimensionKey earlier).imp_right ?_
        rintro ⟨same, rfl, foreign⟩
        rw [← keyed' source] at same
        exact ⟨shared, ⟨_, requested, rfl⟩, same ▸ source, .inl ⟨same.symm, rfl⟩, foreign⟩
      · rw [← keyed' target] at same
        exact .inr ⟨shared, ⟨_, requested, rfl⟩, same ▸ target, .inr ⟨same.symm, rfl⟩, foreign⟩
  | columns => exact .inl member

theorem Keyed.mem_columns {e : String × Value}
    (member : e ∈ (before.columns.get? identifier).getD []) :
    e ∈ (k.columns.get? identifier).getD [] ∨
      keyAlias (nameAmong tables identifier) e.2 = .ok e.1 ∧
        (s.sourceId = identifier ∧ own = .text e.1 ∨
          s.targetId = identifier ∧ theirs = .text e.1) := by
  cases keyed with
  | unkeyed => exact .inl member
  | dimension =>
      simp only [addDimensionKey] at member
      split at member <;> split at member <;> exact .inl member
  | columns _ source target =>
      rcases MergeKeys.mem_columns_addColumn member with earlier | ⟨rfl, rfl⟩
      · refine (MergeKeys.mem_columns_addColumn earlier).imp_right ?_
        rintro ⟨rfl, rfl⟩
        exact ⟨source, .inl ⟨rfl, rfl⟩⟩
      · exact .inr ⟨target, .inr ⟨rfl, rfl⟩⟩

theorem Keyed.nodup_columns (distinct : ∀ other, ((k.columns.get? other).getD []).keys.Nodup) :
    ∀ other, ((before.columns.get? other).getD []).keys.Nodup := by
  cases keyed with
  | unkeyed => exact distinct
  | dimension =>
      simp only [addDimensionKey]
      split <;> split <;> exact distinct
  | columns => exact MergeKeys.nodup_columns_addColumn (MergeKeys.nodup_columns_addColumn distinct)

end Keyed

/-- The keys of a plan come from its joins. -/
theorem keys_sourced (tabled : Tabled registry tables)
    (run : joins.foldlM (addJoin tables (participantNames tables) dimensions) .none = .ok k) :
    Sourced tables dimensions joins k := by
  refine Outcome.foldlM_induction (Sourced tables dimensions) run
    ⟨nofun, nofun, nofun, fun _ => List.nodup_nil, .nil⟩ ?_
  intro done s _ a b sourced added
  obtain ⟨before, own, theirs, keyed, rfl⟩ := addJoin_ok added
  have last : s ∈ done ++ [s] := List.mem_append_right _ (List.mem_singleton_self s)
  refine ⟨?_, ?_, ?_, keyed.nodup_columns sourced.distinct, ?_⟩
  · intro identifier b member
    rcases keyed.mem_dimensions tabled member with old | new
    · obtain ⟨s', listed, by'⟩ := sourced.keyedBy identifier b old
      exact ⟨s', List.mem_append_left _ listed, by'⟩
    · exact ⟨s, last, new⟩
  · intro identifier e member
    exact (keyed.mem_columns member).elim (sourced.aliased identifier e) And.left
  · intro identifier e member
    rw [MergeKeys.addRelation, keyed.relations]
    rcases keyed.mem_columns member with old | ⟨-, new⟩
    · obtain ⟨rel, listed, compares⟩ := sourced.compared identifier e old
      exact ⟨rel, List.mem_append_left _ listed, compares⟩
    · refine ⟨_, List.mem_append_right _ (List.mem_singleton_self _), ?_⟩
      exact new.imp (.imp_left (congrArg (nameAmong tables)))
        (.imp_left (congrArg (nameAmong tables)))
  · rw [MergeKeys.addRelation, keyed.relations]
    exact List.rel_append sourced.relations (.cons ⟨rfl, rfl, _, _, keyed⟩ .nil)

end Planner
end Datacube
