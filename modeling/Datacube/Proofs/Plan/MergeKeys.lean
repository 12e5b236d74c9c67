import Datacube.Proofs.Plan.Participants

/-!
# The keys of merges

Every join of a software plan becomes a relation between two named tables. Its keys are registered
with the tables that have to select them, unless a table selects them as one of its dimensions, and
what is registered once stays.
-/

namespace Datacube

namespace MergeKeys
variable {k k' : MergeKeys} {dimensions : List BoundDimension} {identifier : String}
  {aliasName : Value}

/-- The query of a table selects an alias: as a key column, as a dimension that serves as key, or as
a dimension of its own. -/
def Yields (k : MergeKeys) (dimensions : List BoundDimension) (identifier : String)
    (aliasName : Value) : Prop :=
  (∃ name, aliasName = .text name ∧ name ∈ ((k.columns.get? identifier).getD []).keys) ∨
    (∃ d ∈ (k.dimensions.get? identifier).getD [], d.aliasName = aliasName) ∨
    ∃ d ∈ dimensions, d.table.identifier = identifier ∧ d.aliasName = aliasName

/-- What is selected before is selected after. -/
def Grows (k k' : MergeKeys) : Prop :=
  ∀ dimensions identifier aliasName, k.Yields dimensions identifier aliasName →
    k'.Yields dimensions identifier aliasName

theorem Grows.trans {k'' : MergeKeys} (first : k.Grows k') (second : k'.Grows k'') : k.Grows k'' :=
  fun dimensions identifier aliasName yields =>
    second dimensions identifier aliasName (first dimensions identifier aliasName yields)

theorem grows_addRelation (k : MergeKeys) (source target type own theirs : Value) :
    k.Grows (k.addRelation source target type own theirs) :=
  fun _ _ _ yields => yields

theorem columns_addColumn (k : MergeKeys) (identifier name : String) (column : Value)
    (other : String) : ((k.addColumn identifier name column).columns.get? other).getD [] =
      if other = identifier then ((k.columns.get? identifier).getD []).put name column
      else (k.columns.get? other).getD [] := by
  change ((k.columns.put identifier _).get? other).getD [] = _
  split
  · rename_i same
    rw [same, Entries.get?_put_self, Option.getD_some]
  · rename_i differs
    rw [Entries.get?_put_of_ne _ _ differs]

theorem yields_addColumn (k : MergeKeys) (dimensions : List BoundDimension)
    (identifier name : String) (column : Value) :
    (k.addColumn identifier name column).Yields dimensions identifier (.text name) := by
  refine .inl ⟨name, rfl, ?_⟩
  rw [columns_addColumn, if_pos rfl, Entries.mem_keys_put (Entries.exact_of_lawful _)]
  exact .inr rfl

theorem grows_addColumn (k : MergeKeys) (identifier name : String) (column : Value) :
    k.Grows (k.addColumn identifier name column) := by
  intro dimensions other aliasName yields
  rcases yields with ⟨selected, text, member⟩ | elsewhere
  · refine .inl ⟨selected, text, ?_⟩
    rw [columns_addColumn]
    split
    · rename_i same
      rw [Entries.mem_keys_put (Entries.exact_of_lawful _), ← same]
      exact .inl member
    · exact member
  · exact .inr elsewhere

theorem dimensions_addDimension (k : MergeKeys) (identifier : String) (d : BoundDimension)
    (other : String) : ((k.addDimension identifier d).dimensions.get? other).getD [] =
      if other = identifier then (k.dimensions.get? identifier).getD [] ++ [d]
      else (k.dimensions.get? other).getD [] := by
  rw [addDimension, Entries.push]
  split
  · rename_i same
    rw [same, Entries.get?_put_self, Option.getD_some]
  · rename_i differs
    rw [Entries.get?_put_of_ne _ _ differs]

theorem yields_addDimension (k : MergeKeys) (dimensions : List BoundDimension)
    (identifier : String) (d : BoundDimension) :
    (k.addDimension identifier d).Yields dimensions identifier d.aliasName := by
  refine .inr (.inl ⟨d, ?_, rfl⟩)
  rw [dimensions_addDimension, if_pos rfl]
  simp

theorem grows_addDimension (k : MergeKeys) (identifier : String) (d : BoundDimension) :
    k.Grows (k.addDimension identifier d) := by
  intro dimensions other aliasName yields
  rcases yields with column | ⟨e, member, same⟩ | own
  · exact .inl column
  · refine .inr (.inl ⟨e, ?_, same⟩)
    rw [dimensions_addDimension]
    split
    · rename_i equal
      rw [← equal]
      exact List.mem_append_left _ member
    · exact member
  · exact .inr (.inr own)

end MergeKeys

namespace Planner
variable {tables : Entries String Table} {dimensions : List BoundDimension} {k k' : MergeKeys}
  {s : JoinStep} {registry : Registry}

/-! ## Dimensions as keys -/

theorem grows_addDimensionKey (dimensions : List BoundDimension) (requested : Dimension)
    (aliasName : Value) (t : Table) (column : Value) (k : MergeKeys) :
    k.Grows (addDimensionKey dimensions requested aliasName t column k) := by
  rw [addDimensionKey]
  split
  · exact fun _ _ _ yields => yields
  · exact k.grows_addDimension _ _

theorem yields_addDimensionKey {requested : Dimension} {name : String} (t : Table) (column : Value)
    (k : MergeKeys) (text : requested.aliasName = .text name) :
    (addDimensionKey dimensions requested (.text name) t column k).Yields dimensions t.identifier
      (.text name) := by
  rw [addDimensionKey]
  split
  · rename_i own
    obtain ⟨d, member, same⟩ := List.any_eq_true.mp own
    rw [Bool.and_eq_true, Value.beq_text, beq_iff_eq] at same
    exact .inr (.inr ⟨d, member, same.2, same.1⟩)
  · rw [← text]
    exact k.yields_addDimension dimensions t.identifier ⟨requested, t, column⟩

/-! ## Joins as relations -/

/-- The keys of a join are registered: none for an unkeyed cross join, a shared dimension, or one
column of each table. -/
inductive Keyed (tables : Entries String Table) (dimensions : List BoundDimension) (k : MergeKeys)
    (s : JoinStep) : MergeKeys → Value → Value → Prop where
  | unkeyed (declared : s.relation.type ≠ .dimension) : Keyed tables dimensions k s k "" ""
  | dimension {d : BoundDimension} {a b : Table} (shared : s.relation.type = .dimension)
      (requested : dimensions.find? (·.aliasName == s.relation.key "alias") = some d)
      (source : tables.get? s.sourceId = some a) (target : tables.get? s.targetId = some b) :
      Keyed tables dimensions k s
        (addDimensionKey dimensions d.dimension (s.relation.key "alias") b (s.relation.key "right")
          (addDimensionKey dimensions d.dimension (s.relation.key "alias") a
            (s.relation.key "left") k))
        (s.relation.key "alias") (s.relation.key "alias")
  | columns {sourceAlias targetAlias : String} {own theirs : Value}
      (declared : s.relation.type ≠ .dimension)
      (source : keyAlias (nameAmong tables s.sourceId) own = .ok sourceAlias)
      (target : keyAlias (nameAmong tables s.targetId) theirs = .ok targetAlias) :
      Keyed tables dimensions k s
        ((k.addColumn s.sourceId sourceAlias own).addColumn s.targetId targetAlias theirs)
        (.text sourceAlias) (.text targetAlias)

theorem joinColumns_none {r : Relation} (unkeyed : joinColumns r = .ok none) :
    r.type ≠ .dimension := by
  intro shared
  simp [joinColumns, shared] at unkeyed

theorem joinColumns_dimension {r : Relation} {own theirs : Value} (shared : r.type = .dimension)
    (keyed : joinColumns r = .ok (some (own, theirs))) :
    own = r.key "left" ∧ theirs = r.key "right" := by
  simp only [joinColumns, shared, Except.ok.injEq, Option.some.injEq, Prod.mk.injEq] at keyed
  exact ⟨keyed.1.symm, keyed.2.symm⟩

theorem addJoin_ok (added : addJoin tables (participantNames tables) dimensions k s = .ok k') :
    ∃ before own theirs, Keyed tables dimensions k s before own theirs ∧
      k' = before.addRelation (nameAmong tables s.sourceId) (nameAmong tables s.targetId) s.type
        own theirs := by
  simp only [addJoin, Outcome.bind_eq_ok] at added
  obtain ⟨columns, compared, added⟩ := added
  cases columns with
  | none =>
      obtain rfl := Outcome.pure_eq_ok.mp added
      exact ⟨_, _, _, .unkeyed (joinColumns_none compared), rfl⟩
  | some columns =>
      simp only at added
      split at added
      · rename_i shared
        obtain ⟨own, theirs⟩ := joinColumns_dimension shared compared
        split at added
        · cases added
        · rename_i d a b requested source target
          obtain rfl := Outcome.pure_eq_ok.mp added
          rw [own, theirs]
          exact ⟨_, _, _, .dimension shared requested source target, rfl⟩
        · cases added
      · rename_i declared
        simp only [Outcome.bind_eq_ok, Outcome.pure_eq_ok] at added
        obtain ⟨sourceAlias, source, targetAlias, target, rfl⟩ := added
        exact ⟨_, _, _, .columns declared source target, rfl⟩

/-- The dimensions that serve as keys of a table are read from it. -/
def Owned (tables : Entries String Table) (k : MergeKeys) : Prop :=
  ∀ identifier t, tables.get? identifier = some t →
    ∀ d ∈ (k.dimensions.get? identifier).getD [], d.table = t

theorem Owned.addDimensionKey (owned : Owned tables k) {requested : Dimension} {t : Table}
    {aliasName column : Value} (known : tables.get? t.identifier = some t) :
    Owned tables (addDimensionKey dimensions requested aliasName t column k) := by
  rw [Planner.addDimensionKey]
  split
  · exact owned
  · intro identifier u found d member
    rw [MergeKeys.dimensions_addDimension] at member
    split at member
    · rename_i same
      rw [same, known, Option.some.injEq] at found
      rcases List.mem_append.mp member with old | last
      · exact owned identifier u (by rw [same, known, found]) d (same ▸ old)
      · rw [List.mem_singleton.mp last]
        exact found
    · exact owned identifier u found d member

section Keyed
variable {before : MergeKeys} {own theirs : Value}
  (keyed : Keyed tables dimensions k s before own theirs)
include keyed

theorem Keyed.relations : before.relations = k.relations := by
  cases keyed with
  | unkeyed => rfl
  | dimension =>
      simp only [addDimensionKey]
      split <;> split <;> rfl
  | columns => rfl

theorem Keyed.grows : k.Grows before := by
  cases keyed with
  | unkeyed => exact fun _ _ _ yields => yields
  | dimension =>
      exact (grows_addDimensionKey _ _ _ _ _ k).trans (grows_addDimensionKey _ _ _ _ _ _)
  | columns => exact (k.grows_addColumn _ _ _).trans (MergeKeys.grows_addColumn _ _ _ _)

theorem Keyed.owned (tabled : Tabled registry tables) (owned : Owned tables k) :
    Owned tables before := by
  have known : ∀ {identifier : String} {t : Table}, tables.get? identifier = some t →
      tables.get? t.identifier = some t := by
    intro identifier t found
    rw [← tabled.keyed _ (Entries.mem_of_get? (Entries.exact_of_lawful _) found)]
    exact found
  cases keyed with
  | unkeyed => exact owned
  | dimension _ _ source target =>
      exact (owned.addDimensionKey (known source)).addDimensionKey (known target)
  | columns => exact owned

/-- Both tables select the keys of a join, unless it has none. -/
theorem Keyed.yields (tabled : Tabled registry tables)
    (texts : ∀ d ∈ dimensions, ∃ name, d.aliasName = .text name) :
    own = "" ∧ theirs = "" ∨
      before.Yields dimensions s.sourceId own ∧ before.Yields dimensions s.targetId theirs := by
  cases keyed with
  | unkeyed => exact .inl ⟨rfl, rfl⟩
  | @dimension d a b _ requested source target =>
      obtain ⟨name, text⟩ := texts d (List.mem_of_find?_eq_some requested)
      have same := List.find?_some requested
      rw [text] at same
      rw [← (Value.same_text name _).mp same]
      have atSource := tabled.keyed _ (Entries.mem_of_get? (Entries.exact_of_lawful _) source)
      have atTarget := tabled.keyed _ (Entries.mem_of_get? (Entries.exact_of_lawful _) target)
      simp only at atSource atTarget
      rw [atSource, atTarget]
      exact .inr ⟨grows_addDimensionKey _ _ _ _ _ _ _ _ _ (yields_addDimensionKey a _ k text),
        yields_addDimensionKey b _ _ text⟩
  | columns =>
      exact .inr ⟨MergeKeys.grows_addColumn _ _ _ _ _ _ _ (k.yields_addColumn _ _ _ _),
        MergeKeys.yields_addColumn _ _ _ _ _⟩

end Keyed

/-- A relation goes along a join, with keys that both tables select. -/
structure Along (tables : Entries String Table) (dimensions : List BoundDimension) (k : MergeKeys)
    (s : JoinStep) (r : JoinRelation) : Prop where
  source : r.source = nameAmong tables s.sourceId
  target : r.target = nameAmong tables s.targetId
  keys : r.sourceAlias = "" ∧ r.targetAlias = "" ∨
    k.Yields dimensions s.sourceId r.sourceAlias ∧ k.Yields dimensions s.targetId r.targetAlias

theorem Along.grow {r : JoinRelation} (along : Along tables dimensions k s r) (grows : k.Grows k') :
    Along tables dimensions k' s r where
  source := along.source
  target := along.target
  keys := along.keys.imp_right fun ⟨atSource, atTarget⟩ =>
    ⟨grows _ _ _ atSource, grows _ _ _ atTarget⟩

variable {joins : List JoinStep}

theorem relations_endpoints
    (run : joins.foldlM (addJoin tables (participantNames tables) dimensions) .none = .ok k) :
    k.relations.map (fun r => (r.source, r.target)) =
      joins.map fun s => (nameAmong tables s.sourceId, nameAmong tables s.targetId) := by
  refine Outcome.foldlM_induction (fun done k => k.relations.map (fun r => (r.source, r.target)) =
    done.map fun s => (nameAmong tables s.sourceId, nameAmong tables s.targetId)) run rfl ?_
  intro done s _ a b now added
  obtain ⟨before, own, theirs, keyed, rfl⟩ := addJoin_ok added
  rw [MergeKeys.addRelation, List.map_append, List.map_append, keyed.relations, now]
  rfl

theorem keys_owned (tabled : Tabled registry tables)
    (run : joins.foldlM (addJoin tables (participantNames tables) dimensions) .none = .ok k) :
    Owned tables k := by
  have start : Owned tables .none := by simp [Owned, MergeKeys.none]
  refine Outcome.foldlM_induction (fun _ k => Owned tables k) run start ?_
  intro done s _ a b owned added
  obtain ⟨before, own, theirs, keyed, rfl⟩ := addJoin_ok added
  exact keyed.owned tabled owned

/-- The relations of a plan go along its joins. -/
theorem relations_along (tabled : Tabled registry tables)
    (texts : ∀ d ∈ dimensions, ∃ name, d.aliasName = .text name)
    (run : joins.foldlM (addJoin tables (participantNames tables) dimensions) .none = .ok k) :
    List.Forall₂ (Along tables dimensions k) joins k.relations := by
  refine Outcome.foldlM_induction
    (fun done k => List.Forall₂ (Along tables dimensions k) done k.relations) run .nil ?_
  intro done s _ a b now added
  obtain ⟨before, own, theirs, keyed, rfl⟩ := addJoin_ok added
  have related := before.grows_addRelation (nameAmong tables s.sourceId)
    (nameAmong tables s.targetId) s.type own theirs
  have kept := List.Forall₂.imp (fun _ _ along => along.grow (keyed.grows.trans related)) now
  rw [← keyed.relations] at kept
  refine List.rel_append kept (.cons ⟨rfl, rfl, ?_⟩ .nil)
  exact (keyed.yields tabled texts).imp_right fun ⟨atSource, atTarget⟩ =>
    ⟨related _ _ _ atSource, related _ _ _ atTarget⟩

end Planner
end Datacube
