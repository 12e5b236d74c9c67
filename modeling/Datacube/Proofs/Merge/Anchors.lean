import Datacube.Proofs.Merge.Places

/-!
# Anchored tables

A table is anchored in a merge when the rows of every other table are told apart, within a group, by
the key of its relation towards the table. A table that all relations touch is anchored wherever
tables group by nothing but dimensions and what relations compare.
-/

namespace Datacube

/-- The relation compares a key of its source that is no dimension. -/
def JoinRelation.climbs (dimensions : List Value) (r : JoinRelation) : Bool :=
  r.keyed && !dimensions.contains r.sourceAlias

/-- A table, and the tables above it that are each merged with the next one by such a key. -/
def tablesAbove (dimensions : List Value) (name : Value) (relations : List JoinRelation) :
    List Value :=
  relations.foldr (fun r names =>
    if names.contains r.target && r.climbs dimensions then r.source :: names else names) [name]

/-- The keys of a table are dimensions or some columns. -/
def Headings.within (h : Headings) (dimensions columns : List Value) : Bool :=
  h.keys.all fun c => columns.contains c || dimensions.contains c

/-- Besides dimensions, the queries of all other tables group at most by the key of their relation
towards a table. -/
def isAnchored (h : Value → Headings) (dimensions : List Value) (primary : Value)
    (relations : List JoinRelation) (name : Value) : Bool :=
  let names := tablesAbove dimensions name relations
  (names.contains primary || (h primary).within dimensions []) && relations.all fun r =>
    if names.contains r.target then
      !r.climbs dimensions || (h r.source).within dimensions [r.sourceAlias]
    else (h r.target).within dimensions (if r.keyed then [r.targetAlias] else [])

theorem Headings.within_iff {h : Headings} {dimensions columns : List Value}
    (texts : ∀ c ∈ h.keys, ∃ s, c = .text s) : h.within dimensions columns = true ↔
      ∀ c ∈ h.keys, c ∉ dimensions → c ∈ columns := by
  rw [Headings.within, List.all_eq_true]
  refine forall₂_congr fun c key => ?_
  rw [Bool.or_eq_true, Value.contains_iff (texts c key), Value.contains_iff (texts c key),
    or_comm, or_iff_not_imp_left]

section Above
variable {dimensions : List Value} {name : Value} {before after : List JoinRelation}
  {rel : JoinRelation}

variable (dimensions name) in
theorem tablesAbove_append (before after : List JoinRelation) :
    tablesAbove dimensions name after ⊆ tablesAbove dimensions name (before ++ after) := by
  induction before with
  | nil => exact List.Subset.refl _
  | cons r rest ih =>
      intro other member
      rw [List.cons_append, tablesAbove, List.foldr_cons]
      split
      · exact List.mem_cons_of_mem _ (ih member)
      · exact ih member

variable (dimensions name) in
theorem self_mem_tablesAbove (relations : List JoinRelation) :
    name ∈ tablesAbove dimensions name relations := by
  have last := tablesAbove_append dimensions name relations []
  rw [List.append_nil] at last
  exact last List.mem_cons_self

theorem source_of_mem_tablesAbove {relations : List JoinRelation} {other : Value}
    (member : other ∈ tablesAbove dimensions name relations) (differs : other ≠ name) :
    ∃ rel ∈ relations, rel.source = other := by
  induction relations with
  | nil => exact absurd (List.mem_singleton.mp member) differs
  | cons rel rest ih =>
      rw [tablesAbove, List.foldr_cons, ← tablesAbove] at member
      split at member
      · rcases List.mem_cons.mp member with rfl | inside
        · exact ⟨rel, List.mem_cons_self, rfl⟩
        · obtain ⟨rel', later, up⟩ := ih inside
          exact ⟨rel', List.mem_cons_of_mem rel later, up⟩
      · obtain ⟨rel', later, up⟩ := ih member
        exact ⟨rel', List.mem_cons_of_mem rel later, up⟩

theorem source_mem_tablesAbove {relations : List JoinRelation} (member : rel ∈ relations)
    (text : ∃ s, rel.target = .text s) (climbs : rel.climbs dimensions = true) :
    rel.source ∈ tablesAbove dimensions rel.target relations := by
  obtain ⟨before, after, rfl⟩ := List.append_of_mem member
  apply tablesAbove_append
  have inside := (Value.contains_iff text).mpr
    (self_mem_tablesAbove dimensions rel.target after)
  rw [tablesAbove, List.foldr_cons, ← tablesAbove, inside, climbs]
  exact List.mem_cons_self

end Above

/-! ## Centers -/

section Center
variable {h : Value → Headings} {dimensions : List Value} {primary name : Value}
  {relations : List JoinRelation} {rel rel' : JoinRelation}

/-- A table groups by nothing but dimensions and what relations compare with columns of others. -/
def Compares (h : Value → Headings) (dimensions : List Value) (relations : List JoinRelation)
    (name : Value) : Prop :=
  ∀ c ∈ (h name).keys, c ∉ dimensions → ∃ rel ∈ relations, rel.keyed = true ∧
    (rel.source = name ∧ c = rel.sourceAlias ∨ rel.target = name ∧ c = rel.targetAlias)

variable (laid : Laid h dimensions primary relations)
include laid

theorem Laid.unique (member : rel ∈ relations) (member' : rel' ∈ relations)
    (same : rel.target = rel'.target) : rel = rel' :=
  List.inj_on_of_nodup_map (List.nodup_cons.mp laid.distinct).2 member member' same

/-- A table is merged before others are merged into it. -/
theorem Laid.source_ne_later {before after : List JoinRelation}
    (split : relations = before ++ rel :: after) (member : rel' ∈ before) :
    rel'.source ≠ rel.target := by
  intro same
  apply laid.fresh split
  obtain ⟨first, rest, rfl⟩ := List.append_of_mem member
  rw [List.append_assoc, List.cons_append] at split
  rw [← same, List.map_append, ← List.cons_append]
  exact List.mem_append_left _ (laid.start split)

theorem Laid.acyclic (member : rel ∈ relations) (member' : rel' ∈ relations)
    (there : rel.source = rel'.target) (back : rel'.source = rel.target) : False := by
  obtain ⟨before, after, split⟩ := List.append_of_mem member
  rw [split] at member'
  rcases List.mem_append.mp member' with earlier | others
  · exact laid.source_ne_later split earlier back
  · rcases List.mem_cons.mp others with rfl | later
    · exact laid.fresh split (back ▸ laid.start split)
    · obtain ⟨first, rest, rfl⟩ := List.append_of_mem later
      rw [← List.cons_append, ← List.append_assoc] at split
      exact laid.source_ne_later split (by simp) there

theorem Laid.source_ne_target (member : rel ∈ relations) : rel.source ≠ rel.target :=
  fun same => laid.acyclic member member same same

variable (center : ∀ rel ∈ relations, rel.source = name ∨ rel.target = name)
include center

theorem Laid.unique_of_center {other : Value} (differs : other ≠ name) (member : rel ∈ relations)
    (member' : rel' ∈ relations) (touches : rel.source = other ∨ rel.target = other)
    (touches' : rel'.source = other ∨ rel'.target = other) : rel' = rel := by
  have ends : ∀ rel ∈ relations, rel.source = other ∨ rel.target = other →
      rel.source = name ∧ rel.target = other ∨ rel.source = other ∧ rel.target = name := by
    rintro rel member (source | target)
    · exact .inr ⟨source, (center rel member).resolve_left fun same =>
        differs (source.symm.trans same)⟩
    · exact .inl ⟨(center rel member).resolve_right fun same =>
        differs (target.symm.trans same), target⟩
  rcases ends rel member touches with ⟨source, target⟩ | ⟨source, target⟩ <;>
    rcases ends rel' member' touches' with ⟨source', target'⟩ | ⟨source', target'⟩
  · exact laid.unique member' member (target'.trans target.symm)
  · exact (laid.acyclic member member' (source.trans target'.symm)
      (source'.trans target.symm)).elim
  · exact (laid.acyclic member member' (source.trans target'.symm)
      (source'.trans target.symm)).elim
  · exact laid.unique member' member (target'.trans target.symm)

theorem Laid.key_of_center {other c : Value} (compares : Compares h dimensions relations other)
    (differs : other ≠ name) (member : rel ∈ relations)
    (touches : rel.source = other ∨ rel.target = other) (key : c ∈ (h other).keys)
    (free : c ∉ dimensions) : rel.keyed = true ∧
      (rel.source = other ∧ c = rel.sourceAlias ∨ rel.target = other ∧ c = rel.targetAlias) := by
  obtain ⟨rel', member', keyed, own⟩ := compares c key free
  obtain rfl := laid.unique_of_center center differs member member' touches
    (own.imp And.left And.left)
  exact ⟨keyed, own⟩

theorem anchored_of_center
    (compares : ∀ table ∈ primary :: relations.map (·.target),
      Compares h dimensions relations table) :
    isAnchored h dimensions primary relations name = true := by
  have texts : ∀ table ∈ primary :: relations.map (·.target), ∀ c ∈ (h table).keys,
      ∃ s, c = .text s := fun table merged c key =>
    laid.texts table merged c (List.mem_append_left _ key)
  have targets : ∀ rel ∈ relations, rel.target ∈ primary :: relations.map (·.target) :=
    fun rel member => List.mem_cons_of_mem _ (List.mem_map_of_mem member)
  have self : name ∈ tablesAbove dimensions name relations :=
    self_mem_tablesAbove dimensions name relations
  have root : primary ∈ primary :: relations.map (·.target) := List.mem_cons_self
  rw [isAnchored, Bool.and_eq_true, Bool.or_eq_true, List.all_eq_true,
    Value.contains_iff (laid.names primary root), Headings.within_iff (texts primary root)]
  constructor
  · refine or_iff_not_imp_left.mpr fun outside c key free => ?_
    obtain ⟨rel, member, keyed, ⟨rfl, rfl⟩ | ⟨target, -⟩⟩ := compares primary root c key free
    · rcases center rel member with source | rfl
      · exact absurd (source ▸ self) outside
      · refine absurd (source_mem_tablesAbove member (laid.names _ (targets rel member)) ?_) outside
        have column := laid.texts _ root _ (laid.compares rel member keyed)
        rw [JoinRelation.climbs, keyed, Bool.true_and, Bool.not_eq_true', ← Bool.not_eq_true,
          Value.contains_iff column]
        exact free
    · exact absurd (target ▸ List.mem_map_of_mem member) (List.nodup_cons.mp laid.distinct).1
  · intro rel member
    have target := targets rel member
    have source := laid.source_mem member
    split
    · -- A table above the center is merged with nothing but the center.
      rename_i inside
      rw [Bool.or_eq_true, Headings.within_iff (texts _ source)]
      refine .inr fun c key free => List.mem_singleton.mpr ?_
      have differs : rel.source ≠ name := by
        rintro rfl
        have apart : rel.target ≠ rel.source := (laid.source_ne_target member).symm
        obtain ⟨rel', member', up⟩ := source_of_mem_tablesAbove
          ((Value.contains_iff (laid.names _ target)).mp inside) apart
        obtain rfl := laid.unique_of_center center apart member member' (.inr rfl) (.inl up)
        exact laid.source_ne_target member up
      rcases laid.key_of_center center (compares _ source) differs member (.inl rfl) key free with
        ⟨-, ⟨-, own⟩ | ⟨loop, -⟩⟩
      · exact own
      · exact absurd loop.symm (laid.source_ne_target member)
    · rename_i outside
      rw [Headings.within_iff (texts _ target)]
      intro c key free
      have differs : rel.target ≠ name := by
        rintro rfl
        exact outside ((Value.contains_iff (laid.names _ target)).mpr self)
      rcases laid.key_of_center center (compares _ target) differs member (.inr rfl) key free with
        ⟨keyed, ⟨loop, -⟩ | ⟨-, theirs⟩⟩
      · exact absurd loop (laid.source_ne_target member)
      · rw [if_pos keyed]
        exact List.mem_singleton.mpr theirs

end Center
end Datacube
