import Datacube.Proofs.Join.Shared
import Datacube.Proofs.Merge.Columns
import Datacube.Proofs.Plan.Binding
import Datacube.Proofs.Plan.Naming

/-!
# Aliases that meet

The queries of a software plan select dimensions, keys and results under aliases. Two tables select
the same alias only for one dimension that all its joins compare, and these start at one table. So
where rows of two tables are merged, what they have in common is what they are merged by.
-/

namespace Datacube

/-! ## Relations on an alias -/

/-- The relations on one alias that start at a table, with this table and those that they lead to. -/
def JoinedOn (relations : List JoinRelation) (aliasName start name : Value) : Prop :=
  ∃ rel ∈ relations, rel.sourceAlias = aliasName ∧ rel.targetAlias = aliasName ∧
    rel.source = start ∧ (name = rel.source ∨ name = rel.target)

/-- Where a merged table and the next one are joined on an alias with one table, the next one is
merged by this alias. -/
theorem MergeStep.aliases_of_joinedOn {primary aliasName start name : Value}
    {relations before after : List JoinRelation} {rel : JoinRelation}
    (ordered : Ordered [primary] relations) (distinct : (primary :: relations.map (·.target)).Nodup)
    (split : relations = before ++ rel :: after) (text : ∃ s, rel.target = .text s)
    (merged : name ∈ primary :: before.map (·.target))
    (joined : JoinedOn relations aliasName start name)
    (joined' : JoinedOn relations aliasName start rel.target) :
    rel.sourceAlias = aliasName ∧ rel.targetAlias = aliasName := by
  obtain ⟨atPrimary, once⟩ := List.nodup_cons.mp distinct
  have here : rel ∈ relations := by simp [split]
  have new := target_new (split ▸ distinct)
  obtain ⟨rel', member', own, theirs, from', source | target⟩ := joined'
  · -- The table would be the start of a relation that was walked before it was merged.
    exfalso
    obtain ⟨other, member, -, -, start', atSource | behind⟩ := joined
    · exact new (source.trans (from'.trans (start'.symm.trans atSource.symm)) ▸ merged)
    · have walked : other ∈ before := by
        rcases List.mem_cons.mp merged with root | later
        · exact absurd (root ▸ behind ▸ List.mem_map_of_mem member) atPrimary
        · obtain ⟨earlier, inside, same⟩ := List.mem_map.mp later
          have member' : earlier ∈ relations := by simp [split, inside]
          exact List.inj_on_of_nodup_map once member' member (same.trans behind) ▸ inside
      obtain ⟨first, rest, parts⟩ := List.append_of_mem walked
      rw [split, parts, List.append_assoc, List.cons_append] at ordered
      have starts := ordered.split.1
      obtain ⟨s, text⟩ := text
      rw [start', ← from', ← source, text, Value.contains_text, ← text] at starts
      apply new
      rw [parts, List.map_append, ← List.cons_append]
      exact List.mem_append_left _ starts
  · obtain rfl := List.inj_on_of_nodup_map once here member' target
    exact ⟨own, theirs⟩

/-- What tables select under one alias is one selection of one table, or one requested dimension that
relations from one table join them on. -/
def SoftwarePlan.MeetsOnJoins (sp : SoftwarePlan) (dimensions : List Dimension)
    (selected : String → List Selection) : Prop :=
  ∀ e ∈ sp.tables, ∀ e' ∈ sp.tables, ∀ s ∈ selected e.2.table.identifier,
    ∀ s' ∈ selected e'.2.table.identifier, (s.aliasName == s'.aliasName) = true →
      e = e' ∧ s = s' ∨ ∃ b b' start, s = .dimension b ∧ s' = .dimension b' ∧
        b.dimension = b'.dimension ∧ b.dimension ∈ dimensions ∧
        JoinedOn sp.relations b.aliasName start e.1 ∧ JoinedOn sp.relations b.aliasName start e'.1

/-- Whenever a row of a table is merged into a row of the tables merged before, the two rows agree on
every column that they share, for all results whose rows have the selected columns. -/
def SoftwarePlan.MergesAgree (sp : SoftwarePlan) (selected : String → List Selection) : Prop :=
  ∀ results : Entries Value (List Row),
    (∀ e ∈ sp.tables, ∀ row ∈ (results.get? e.1).getD [],
      row.keys ⊆ (selected e.2.table.identifier).map (·.aliasName)) →
    ∀ before rel after rows, sp.relations = before ++ rel :: after →
      (before.map .forward).foldlM (MergeStep.apply results)
        ((results.get? sp.primary).getD []) = .ok rows →
      ∀ row ∈ rows, ∀ other ∈ (results.get? rel.target).getD [],
        row.meets rel.sourceAlias rel.targetAlias other = true →
          ∀ c ∈ row.keys, c ∈ other.keys → (row.cell c == other.cell c) = true

namespace Planner
open JoinGraph Text
variable {p : Planner} {metrics : List RequestedMetric} {dimensions : List Dimension} {r : Resolved}
  {schema : Schema} {joins : JoinGraph} {tables : Entries String Table} {k : MergeKeys}
  {plans : Entries Value TablePlan} {filters : Value} {q : QueryPlan} {sp : SoftwarePlan}
  {connected : List Table} {registry : Registry} {s : JoinStep} {b b' : BoundDimension}
  {d own theirs : Dimension} {t : Table} {aliasName : Value}
  {start start' identifier other : String}

/-! ## Joins on dimensions -/

/-- A table is an end of a join on a dimension of some alias, which starts at another one or at the
table itself. -/
def Ends (joins : List JoinStep) (aliasName : Value) (start identifier : String) : Prop :=
  ∃ s ∈ joins, s.relation.type = .dimension ∧ s.relation.key "alias" = aliasName ∧
    s.sourceId = start ∧ (identifier = s.sourceId ∨ identifier = s.targetId)

theorem key_sharedDimension (d own theirs : Dimension) (t : Table) :
    (sharedDimension d own theirs t).key "alias" = d.aliasName ∧
      (sharedDimension d own theirs t).key "left" = .text own.column ∧
      (sharedDimension d own theirs t).key "right" = .text theirs.column :=
  ⟨rfl, rfl, rfl⟩

section Joins
variable (tabled : Tabled registry tables) (inside : connected ⊆ tables.values)
  (shares : ∀ s ∈ joins, s.relation.type = .dimension → Shares connected dimensions s)
  (groups : ∀ d ∈ dimensions, ∀ d' ∈ dimensions, d.aliasName = d'.aliasName → d = d')
  (texts : ∀ d ∈ dimensions, ∃ name, d.aliasName = .text name)
  (sourced : Sourced tables r.dimensions joins k)
  (bound : ∀ b ∈ r.dimensions, b.dimension ∈ dimensions)

include shares groups in
/-- All joins on a dimension start at one table. -/
theorem Ends.start_eq (ends : Ends joins aliasName start identifier)
    (ends' : Ends joins aliasName start' other) : start = start' := by
  obtain ⟨s, member, shared, rfl, rfl, -⟩ := ends
  obtain ⟨s', member', shared', same, rfl, -⟩ := ends'
  obtain ⟨d, requested, source, own, target, theirs, found, -, -, rfl⟩ := shares s member shared
  obtain ⟨d', requested', source', own', target', theirs', found', -, -, rfl⟩ :=
    shares s' member' shared'
  obtain rfl := groups d' requested' d requested same
  rw [found, Option.some.injEq, Prod.mk.injEq] at found'
  rw [JoinStep.between, JoinStep.between, found'.1]

include texts bound

theorem KeyedBy.key_alias (keyed : KeyedBy tables r.dimensions identifier b s) :
    s.relation.key "alias" = b.aliasName := by
  obtain ⟨wanted, bears, same⟩ := keyed.requested
  obtain ⟨name, text⟩ := texts _ (bound wanted (List.mem_of_find?_eq_some bears))
  have bears := List.find?_some bears
  rw [BoundDimension.aliasName, text] at bears
  rw [BoundDimension.aliasName, same, text]
  exact ((Value.same_text name _).mp bears).symm

theorem KeyedBy.ends (keyed : KeyedBy tables r.dimensions identifier b s) (member : s ∈ joins) :
    Ends joins b.aliasName s.sourceId identifier :=
  ⟨s, member, keyed.shared, keyed.key_alias texts bound, rfl,
    keyed.column.imp (fun left => left.1.symm) fun right => right.1.symm⟩

include tabled inside shares groups

theorem KeyedBy.declares (keyed : KeyedBy tables r.dimensions identifier b s) (member : s ∈ joins) :
    ∃ m, b.table.dimensions.get? (.text b.dimension.key) = some m ∧ b.column = .text m.column := by
  have aliased := keyed.key_alias texts bound
  obtain ⟨d, requested, source, own, target, theirs, found, listed, declares, rfl⟩ :=
    shares s member keyed.shared
  obtain ⟨atSource, declares'⟩ := declarer?_some found
  obtain ⟨wanted, bears, same⟩ := keyed.requested
  have wanted := bound wanted (List.mem_of_find?_eq_some bears)
  rw [← same] at wanted
  obtain rfl : d = b.dimension := groups d requested _ wanted aliased
  have here : b.table ∈ tables.values := Entries.mem_values_of_get? keyed.known
  have known : identifier = b.table.identifier :=
    tabled.keyed _ (Entries.mem_of_get? (Entries.exact_of_lawful _) keyed.known)
  rcases keyed.column with ⟨left, column⟩ | ⟨right, column⟩
  · have table := tabled.distinct (inside atSource) here (left.trans known)
    exact ⟨own, table ▸ declares', column⟩
  · have table := tabled.distinct (inside listed) here (right.trans known)
    exact ⟨theirs, table ▸ declares, column⟩

include sourced

/-- A table selects a dimension once, and where another one selects it, both are joined by it with
one table. -/
theorem dimensions_apart
    (once : ∀ b ∈ r.dimensions, ∀ b' ∈ r.dimensions, b.dimension = b'.dimension → b = b')
    (reads : ∀ b ∈ r.dimensions, ∀ start identifier, Ends joins b.aliasName start identifier →
      ∃ start', Ends joins b.aliasName start' b.table.identifier)
    (selected : b ∈ r.dimensions ∧ b.table.identifier = identifier ∨
      b ∈ (k.dimensions.get? identifier).getD [])
    (selected' : b' ∈ r.dimensions ∧ b'.table.identifier = other ∨
      b' ∈ (k.dimensions.get? other).getD [])
    (same : b.dimension = b'.dimension) : identifier = other ∧ b = b' ∨ identifier ≠ other ∧
      ∃ start, Ends joins b.aliasName start identifier ∧ Ends joins b.aliasName start other := by
  have alias' : b'.aliasName = b.aliasName := congrArg Dimension.aliasName same.symm
  -- A table that a dimension is read from does not have it as a key as well.
  have foreign : ∀ {b b' : BoundDimension} {identifier : String}, b ∈ r.dimensions →
      b' ∈ (k.dimensions.get? identifier).getD [] → b.aliasName = b'.aliasName →
        b.table.identifier ≠ identifier := by
    intro b b' identifier own shared equal
    obtain ⟨s, member, keyed⟩ := sourced.keyedBy identifier b' shared
    refine keyed.foreign b own ?_
    obtain ⟨name, text⟩ := texts _ (bound b own)
    rw [keyed.key_alias texts bound, ← equal, BoundDimension.aliasName, text]
    exact (Value.same_text name _).mpr rfl
  rcases selected with ⟨own, rfl⟩ | shared
  · rcases selected' with ⟨own', rfl⟩ | shared'
    · obtain rfl := once b own b' own' same
      exact .inl ⟨rfl, rfl⟩
    · refine .inr ⟨foreign own shared' alias'.symm, ?_⟩
      obtain ⟨s, member, keyed⟩ := sourced.keyedBy other b' shared'
      have ends := alias' ▸ keyed.ends texts bound member
      obtain ⟨start, read⟩ := reads b own _ _ ends
      exact ⟨start, read, read.start_eq shares groups ends ▸ ends⟩
  · obtain ⟨s, member, keyed⟩ := sourced.keyedBy identifier b shared
    have ends := keyed.ends texts bound member
    rcases selected' with ⟨own', rfl⟩ | shared'
    · refine .inr ⟨(foreign own' shared alias').symm, ?_⟩
      obtain ⟨start, read⟩ := reads b' own' _ _ (alias' ▸ ends)
      rw [alias'] at read
      exact ⟨start, read.start_eq shares groups ends ▸ ends, read⟩
    · obtain ⟨s', member', keyed'⟩ := sourced.keyedBy other b' shared'
      by_cases one : identifier = other
      · subst one
        refine .inl ⟨rfl, ?_⟩
        have table : b.table = b'.table := Option.some.inj (keyed.known.symm.trans keyed'.known)
        obtain ⟨m, declares, column⟩ :=
          keyed.declares tabled inside shares groups texts bound member
        obtain ⟨m', declares', column'⟩ :=
          keyed'.declares tabled inside shares groups texts bound member'
        rw [← table, ← same, declares, Option.some.injEq] at declares'
        cases b
        cases b'
        simp_all
      · have ends' := alias' ▸ keyed'.ends texts bound member'
        exact .inr ⟨one, s.sourceId, ends, ends'.start_eq shares groups ends ▸ ends'⟩

end Joins

/-! ## Relations and joins -/

theorem joinedOn_of_ends (sourced : Sourced tables r.dimensions joins k)
    (ends : Ends joins aliasName start identifier) :
    JoinedOn k.relations aliasName (nameAmong tables start) (nameAmong tables identifier) := by
  obtain ⟨s, member, shared, rfl, rfl, place⟩ := ends
  obtain ⟨rel, listed, source, target, _, _, keyed⟩ := exists_of_mem_left sourced.relations member
  refine ⟨rel, listed, ?_, ?_, source, ?_⟩
  · generalize rel.sourceAlias = own, rel.targetAlias = theirs at keyed
    cases keyed with
    | unkeyed declared => exact absurd shared declared
    | dimension => rfl
    | columns declared => exact absurd shared declared
  · generalize rel.sourceAlias = own, rel.targetAlias = theirs at keyed
    cases keyed with
    | unkeyed declared => exact absurd shared declared
    | dimension => rfl
    | columns declared => exact absurd shared declared
  · rw [source, target]
    exact place.imp (congrArg (nameAmong tables)) (congrArg (nameAmong tables))

theorem ends_of_joinedOn {name : String} {first at' : Value} (stem : Stem name)
    (sourced : Sourced tables r.dimensions joins k)
    (joined : JoinedOn k.relations (.text name) first at') : ∃ start identifier,
      Ends joins (.text name) start identifier ∧ at' = nameAmong tables identifier := by
  obtain ⟨rel, listed, own, theirs, -, place⟩ := joined
  obtain ⟨s, member, source, target, _, _, keyed⟩ := exists_of_mem_right sourced.relations listed
  rw [source, target] at place
  have shared : s.relation.type = .dimension ∧ s.relation.key "alias" = .text name := by
    rw [own, theirs] at keyed
    generalize same : Value.text name = aliasName at keyed
    cases keyed with
    | unkeyed => exact absurd (Value.text.inj same) stem.1
    | dimension shared => exact ⟨shared, rfl⟩
    | columns _ source =>
        rw [keyAlias_ok source] at same
        exact absurd (Value.text.inj same) (PartedName.stem_ne_parted stem _ _)
  rcases place with atSource | atTarget
  · exact ⟨_, s.sourceId, ⟨s, member, shared.1, shared.2, rfl, .inl rfl⟩, atSource⟩
  · exact ⟨_, s.targetId, ⟨s, member, shared.1, shared.2, rfl, .inr rfl⟩, atTarget⟩

/-! ## Plans -/

theorem resolve_once (resolved : p.resolve metrics dimensions = .ok r) :
    ∀ b ∈ r.dimensions, ∀ b' ∈ r.dimensions, b.dimension = b'.dimension → b = b' := by
  intro b member b' member' same
  obtain ⟨_, _, -, -, -, -, -, binds⟩ := resolve_ok resolved
  obtain ⟨d, -, bound⟩ := exists_of_mem_right (Outcome.mapM_ok binds) member
  obtain ⟨d', -, bound'⟩ := exists_of_mem_right (Outcome.mapM_ok binds) member'
  rw [← (bindDimension_ok bound).1, same, (bindDimension_ok bound').1] at bound
  exact Except.ok.inj (bound.symm.trans bound')

theorem mem_selections_dimension : .dimension b ∈ selections r k identifier ↔
    b ∈ r.dimensions ∧ b.table.identifier = identifier ∨
      b ∈ (k.dimensions.get? identifier).getD [] := by
  simp [selections]

section Assembled
variable (indexed : p.registry.Indexed) (sound : r.Sound p.registry dimensions)
  (assembled : Assembled p r dimensions schema joins tables k plans filters)
  (resolved : p.resolve metrics dimensions = .ok r)
  (declared : ∀ t, t ∈ p.registry.all ∨ Brings metrics t →
    ∀ rel ∈ t.relations.values, rel.type ≠ .dimension)
  (measured : r.Measured) (texts : ∀ d ∈ dimensions, ∃ name, d.aliasName = .text name)
  (named : WellNamed dimensions r.aggregations tables)
  (reads : ∀ b ∈ r.dimensions, ∀ start name, JoinedOn k.relations b.aliasName start name →
    ∃ start', JoinedOn k.relations b.aliasName start' (nameAmong tables b.table.identifier))
include indexed sound assembled

include resolved declared in
theorem Assembled.shares : ∃ connected ⊆ tables.values, ∀ s ∈ joins,
    s.relation.type = .dimension → Shares connected dimensions s := by
  obtain ⟨tabled, -, -, -⟩ := sound.participants
  have clear : PathFinder.Clear ⟨schema, false, p.joinType⟩ r.participants.values :=
    tabled.clear indexed assembled.compiled
  obtain ⟨connected, inside, shares⟩ := build_shares clear (Schema.nodup_keys assembled.compiled)
    (by
      rintro t ⟨start, requested, path, chain⟩ rel listed
      refine declared t ?_ rel listed
      rcases chain.holds_or_eq (indexed.unambiguous assembled.compiled) with rfl | held
      · exact participants_known resolved t requested
      · exact .inl (Schema.get?_tables assembled.compiled held).2) assembled.built
  obtain ⟨-, start, -⟩ := assembled.tabled indexed sound
  exact ⟨connected, List.Subset.trans inside (List.map_subset _ start.subset), shares⟩

theorem Assembled.placed {e : Value × TablePlan} (listed : e ∈ plans) :
    e.2.table.identifier ∈ tables.keys ∧ e.1 = nameAmong tables e.2.table.identifier ∧
      p.tableQuery r k e.2.table.identifier e.2.table = .ok e.2.query := by
  obtain ⟨tabled, -, -⟩ := assembled.tabled indexed sound
  obtain ⟨e', member, planned⟩ := exists_of_mem_right (assembled.plans_ok tabled) listed
  rw [planned.table, ← tabled.keyed e' member]
  exact ⟨List.mem_map_of_mem member, planned.name, planned.query⟩

theorem Assembled.ends_known (ends : Ends joins aliasName start identifier) :
    identifier ∈ tables.keys := by
  obtain ⟨-, -, same⟩ := assembled.tabled indexed sound
  obtain ⟨tree, -⟩ := assembled.tree indexed sound
  obtain ⟨s, member, -, -, -, rfl | rfl⟩ := ends
  · exact same.mem_iff.mpr (tree.source_mem member)
  · exact same.mem_iff.mpr (List.mem_cons_of_mem _ (List.mem_map_of_mem member))

include texts named reads

theorem Assembled.reads_end : ∀ b ∈ r.dimensions, ∀ start identifier,
    Ends joins b.aliasName start identifier →
      ∃ start', Ends joins b.aliasName start' b.table.identifier := by
  intro b member start identifier ends
  obtain ⟨tabled, within, -⟩ := assembled.tabled indexed sound
  have sourced := keys_sourced tabled assembled.keyed
  obtain ⟨-, -, -, participates⟩ := sound.participants
  obtain ⟨start', joined⟩ := reads b member _ _ (joinedOn_of_ends sourced ends)
  obtain ⟨name, text, stem⟩ := named.stem texts (sound.bound b member).2.2
  rw [BoundDimension.aliasName, text] at joined ⊢
  obtain ⟨first, other, ends', equal⟩ := ends_of_joinedOn stem sourced joined
  have known : b.table.identifier ∈ tables.keys := by
    obtain ⟨e, listed, same⟩ :=
      List.mem_map.mp (List.map_subset _ within.subset (participates b member))
    rw [← same, ← tabled.keyed e listed]
    exact List.mem_map_of_mem listed
  rw [nameAmong_injective tabled known (assembled.ends_known indexed sound ends') equal]
  exact ⟨first, ends'⟩

include resolved declared measured

theorem Assembled.meets :
    (assemble r tables k plans filters).MeetsOnJoins dimensions (selections r k) := by
  obtain ⟨tabled, -, -⟩ := assembled.tabled indexed sound
  obtain ⟨connected, inside, shares⟩ := assembled.shares indexed sound resolved declared
  have sourced := keys_sourced tabled assembled.keyed
  have bound : ∀ b ∈ r.dimensions, b.dimension ∈ dimensions :=
    fun b member => (sound.bound b member).2.2
  intro e listed e' listed' s selected s' selected' equal
  obtain ⟨known, name, -⟩ := assembled.placed indexed sound listed
  obtain ⟨known', name', -⟩ := assembled.placed indexed sound listed'
  have one : e.2.table.identifier = e'.2.table.identifier → e = e' := by
    intro same
    refine List.inj_on_of_nodup_map (assembled.plans_nodup tabled) listed listed' ?_
    rw [name, name', same]
  rcases selections_apart named measured sourced texts bound known known' selected selected' equal
    with ⟨same, rfl⟩ | ⟨b, b', rfl, rfl, same⟩
  · exact .inl ⟨one same, rfl⟩
  · rw [mem_selections_dimension] at selected selected'
    rcases dimensions_apart tabled inside shares named.groups texts sourced bound
      (resolve_once resolved) (assembled.reads_end indexed sound texts named reads)
      selected selected' same with ⟨here, rfl⟩ | ⟨-, start, ends, ends'⟩
    · exact .inl ⟨one here, rfl⟩
    · refine .inr ⟨b, b', nameAmong tables start, rfl, rfl, same,
        requested_of_selected sourced bound selected, ?_, ?_⟩
      · rw [name]
        exact joinedOn_of_ends sourced ends
      · rw [name']
        exact joinedOn_of_ends sourced ends'

theorem Assembled.agrees :
    (assemble r tables k plans filters).MergesAgree (selections r k) := by
  obtain ⟨tabled, -, -⟩ := assembled.tabled indexed sound
  obtain ⟨ordered, once⟩ := assembled.ordered indexed sound
  have distinct := once.nodup_iff.mpr (assembled.plans_nodup tabled)
  have sourced := keys_sourced tabled assembled.keyed
  have bound : ∀ b ∈ r.dimensions, b.dimension ∈ dimensions :=
    fun b member => (sound.bound b member).2.2
  intro results selected before rel after rows split run row member other listed meet c own theirs
  have split : k.relations = before ++ rel :: after := split
  -- The column comes from a table that is merged, and from the next one.
  obtain ⟨name, merged, origin, from', has⟩ := MergeStep.keys_merged run member own
  have within : before.map (·.target) ⊆ k.relations.map (·.target) := by
    rw [split]
    exact List.map_subset _ (List.subset_append_left _ _)
  have earlier : name ∈ plans.keys := once.subset (List.cons_subset_cons _ within merged)
  have next : rel.target ∈ plans.keys :=
    once.subset (List.mem_cons_of_mem _ (List.mem_map_of_mem (by simp [split])))
  obtain ⟨e, planned, rfl⟩ := List.mem_map.mp earlier
  obtain ⟨e', planned', same⟩ := List.mem_map.mp next
  obtain ⟨known, -, -⟩ := assembled.placed indexed sound planned
  obtain ⟨known', name', -⟩ := assembled.placed indexed sound planned'
  obtain ⟨s, taken, rfl⟩ := List.mem_map.mp (selected e planned origin from' has)
  obtain ⟨s', taken', equal⟩ := List.mem_map.mp (selected e' planned' other (same ▸ listed) theirs)
  obtain ⟨n, -, text, -⟩ := selections_origin named measured sourced texts bound known taken
  have alike : (s.aliasName == s'.aliasName) = true := by
    rw [equal, text]
    exact (Value.same_text _ _).mpr rfl
  rcases assembled.meets indexed sound resolved declared measured texts named reads e planned e'
    planned' s taken s' taken' alike with ⟨rfl, -⟩ | ⟨b, b', start, rfl, rfl, -, requested, on, on'⟩
  · exact absurd (same ▸ merged) (MergeStep.target_new (split ▸ distinct))
  · rw [show e'.1 = rel.target from same] at on'
    obtain ⟨ownAlias, theirAlias⟩ := MergeStep.aliases_of_joinedOn ordered distinct split
      (by rw [← same, name']; exact nameAmong_text tabled known') merged on on'
    obtain ⟨name, written, stem⟩ := named.stem texts requested
    have holds : b.aliasName.isTrue = true := by
      rw [BoundDimension.aliasName, written]
      simp [Value.isTrue, stem.1]
    rw [ownAlias, theirAlias] at meet
    simp only [Row.meets, holds, Bool.not_true, Bool.and_self, Bool.false_or, Bool.and_eq_true]
      at meet
    exact meet.2

end Assembled

/-- In a plan of several queries, the selections of all tables meet under an alias only on joins by
a requested dimension, so rows that are merged agree on what they share. This holds where requested
names and the names of tables are apart, relations on dimensions are left to the planner, and a
dimension that tables are joined by is read from one of them. -/
theorem plan_aliases_meet (indexed : p.registry.Indexed)
    (brought : ∀ t, Brings metrics t → p.registry.Admits t)
    (measures : ∀ a, Asks metrics a → ∃ name, a.aliasName = .text name)
    (texts : ∀ d ∈ dimensions, ∃ name, d.aliasName = .text name)
    (declared : ∀ t, t ∈ p.registry.all ∨ Brings metrics t →
      ∀ rel ∈ t.relations.values, rel.type ≠ .dimension)
    (resolved : p.resolve metrics dimensions = .ok r)
    (planned : p.plan metrics dimensions = .ok q) (software : q.joinPlan = .software sp)
    (named : WellNamed dimensions q.aggregations q.tables)
    (reads : ∀ b ∈ r.dimensions, ∀ start name, JoinedOn sp.relations b.aliasName start name →
      ∃ start', JoinedOn sp.relations b.aliasName start'
        (nameAmong q.tables b.table.identifier)) :
    ∃ selected : String → List Selection,
      (∀ e ∈ sp.tables, e.2.query.Takes p.renderings e.2.table
        (selected e.2.table.identifier)) ∧
      sp.MeetsOnJoins dimensions selected ∧ sp.MergesAgree selected ∧
      ∀ results, mergeResults sp.primary sp.relations results =
        (sp.relations.map .forward).foldlM (MergeStep.apply results)
          ((results.get? sp.primary).getD []) := by
  obtain ⟨r', resolved', built⟩ := plan_software planned software
  obtain rfl := Except.ok.inj (resolved.symm.trans resolved')
  obtain ⟨schema, joins, k, filters, assembled, whole, -, aggregations⟩ :=
    softwarePlan_ok built software
  have sound := resolve_sound indexed brought resolved
  have measured := resolve_measured measures resolved
  rw [aggregations] at named
  rw [whole] at reads ⊢
  refine ⟨selections r k, ?_, ?_, ?_, ?_⟩
  · intro e listed
    exact tableQuery_takes (assembled.placed indexed sound listed).2.2
  · exact assembled.meets indexed sound resolved declared measured texts named reads
  · exact assembled.agrees indexed sound resolved declared measured texts named reads
  · exact fun _ => MergeStep.mergeResults_ordered (assembled.ordered indexed sound).1

/-! ## Orders, visits and returns by year -/

open PathFinder (belonging)

def yearly (provider name : String) (targets : List (String × String)) : Table :=
  { belonging provider name targets with dimensions := .ofDimensions [.make .plain "year"] }

/-- Orders of customers, and visits and returns that only the year relates with them, each of a
provider of its own. -/
def desk : Planner where
  registry := .ofSources [
    ⟨"shop", .indexed, .null, [yearly "shop" "orders" [("customer", "customers")]]⟩,
    ⟨"crm", .indexed, .null, [belonging "crm" "customers" []]⟩,
    ⟨"web", .indexed, .null, [yearly "web" "visits" []]⟩,
    ⟨"depot", .indexed, .null, [yearly "depot" "returns" []]⟩]
  drivers := ⟨[], some ⟨"main", "main", .sqlite, .relational, .bool true, .bool true⟩⟩
  renderings := .builtin
  joinType := "left"

def turnover : List RequestedMetric :=
  [.aggregation ⟨.avg, "orders.amount", "mean", 0.5⟩,
    .aggregation ⟨.count, "customers.id", "clients", 0.5⟩,
    .aggregation ⟨.count, "visits.id", "visitors", 0.5⟩,
    .aggregation ⟨.count, "returns.id", "returned", 0.5⟩]

theorem desk_indexed : desk.registry.Indexed := by
  apply Registry.indexed_ofSources
  intro s member
  simp only [List.mem_cons, List.not_mem_nil, or_false] at member
  rcases member with rfl | rfl | rfl | rfl <;>
    exact ⟨rfl, by simp [belonging, yearly], by simp [Table.Plain, belonging, yearly],
      List.nodup_singleton _⟩

theorem desk_declared : ∀ t, t ∈ desk.registry.all ∨ Brings turnover t →
    ∀ rel ∈ t.relations.values, rel.type ≠ .dimension := by
  have declared : (desk.registry.all.all fun t =>
      t.relations.values.all fun rel => rel.type != .dimension) = true := by decide +kernel
  rintro t (known | ⟨source, a, member, -⟩) rel listed
  · simpa using List.all_eq_true.mp (List.all_eq_true.mp declared t known) rel listed
  · simp [turnover] at member

def turnoverNames : List String := ["mean", "clients", "visitors", "returned"]

theorem turnover_named (a : Aggregation) (asked : Asks turnover a) :
    ∃ name, a.aliasName = .text name := by
  rcases asked with member | ⟨source, member⟩
  · simp only [turnover, List.mem_cons, List.not_mem_nil, or_false,
      RequestedMetric.aggregation.injEq] at member
    rcases member with rfl | rfl | rfl | rfl <;> exact ⟨_, rfl⟩
  · simp [turnover] at member

theorem desk_aliases_meet : ∃ q sp selected, desk.plan turnover [anyYear] = .ok q ∧
    q.joinPlan = .software sp ∧ sp.MeetsOnJoins [anyYear] selected ∧ sp.MergesAgree selected := by
  have shape : ((do
      let r ← desk.resolve turnover [anyYear]
      let q ← desk.plan turnover [anyYear]
      return (r, q) : Outcome (Resolved × QueryPlan)).toOption.any fun pair =>
        (pair.2.aggregations.keys.all fun v => turnoverNames.any fun name => v.isText name) &&
        decide (∀ identifier ∈ pair.2.tables.keys, Text.Stem (keyStem pair.2.tables identifier)) &&
        decide (pair.2.tables.keys.map (keyStem pair.2.tables)).Nodup &&
        (pair.2.tables.keys.all fun identifier =>
          !turnoverNames.contains (keyStem pair.2.tables identifier)) &&
        (pair.1.dimensions.all fun b => b.aliasName.isText "year" &&
          (nameAmong pair.2.tables b.table.identifier).isText "orders") &&
        (pair.2.joinPlan.software?.any fun sp => sp.relations.any fun rel =>
          rel.sourceAlias.isText "year" && rel.targetAlias.isText "year" &&
            rel.source.isText "orders")) = true := by decide +kernel
  obtain ⟨⟨r, q⟩, run, shape⟩ := Outcome.any_ok shape
  simp only [Outcome.bind_eq_ok, Outcome.pure_eq_ok, Prod.mk.injEq] at run
  obtain ⟨r, resolved, q, planned, rfl, rfl⟩ := run
  simp only [Bool.and_eq_true, decide_eq_true_eq, List.all_eq_true] at shape
  obtain ⟨⟨⟨⟨⟨metrics, stems⟩, distinct⟩, apart⟩, places⟩, shape⟩ := shape
  have requested : ∀ v ∈ q.aggregations.keys, ∃ name ∈ turnoverNames, v = .text name := by
    intro v member
    obtain ⟨name, listed, same⟩ := List.any_eq_true.mp (metrics v member)
    exact ⟨name, listed, (Value.isText_iff v name).mp same⟩
  obtain ⟨sp, software, shape⟩ := JoinPlan.any_software shape
  obtain ⟨rel, listed, holds⟩ := List.any_eq_true.mp shape
  simp only [Bool.and_eq_true, Value.isText_iff] at holds
  have named : WellNamed [anyYear] q.aggregations q.tables := by
    refine ⟨by simp, ?_, ?_, stems, distinct, ?_⟩
    · intro d member known
      obtain ⟨name, among, same⟩ := requested _ known
      rw [List.mem_singleton.mp member] at same
      have year : name = "year" := (Value.text.inj same).symm
      exact absurd (year ▸ among) (by decide)
    · intro name member
      rcases List.mem_append.mp member with year | metric
      · rw [Value.text.inj (List.mem_singleton.mp year)]
        decide
      · obtain ⟨name', among, same⟩ := requested _ metric
        rw [Value.text.inj same]
        have sealed : ∀ name ∈ turnoverNames, Text.Stem name := by decide
        exact sealed name' among
    · intro e member _ identifier known same
      obtain ⟨name, among, same'⟩ := requested e.1 (List.mem_map_of_mem member)
      have free := apart identifier known
      rw [← Value.text.inj (same'.symm.trans same)] at free
      simp [among] at free
  have reads : ∀ b ∈ r.dimensions, ∀ start name,
      JoinedOn sp.relations b.aliasName start name → ∃ start',
        JoinedOn sp.relations b.aliasName start' (nameAmong q.tables b.table.identifier) := by
    intro b member _ _ _
    have place := places b member
    simp only [Value.isText_iff] at place
    rw [place.1, place.2]
    exact ⟨"orders", rel, listed, holds.1.1, holds.1.2, holds.2, .inl holds.2.symm⟩
  obtain ⟨selected, -, meets, agrees, -⟩ := plan_aliases_meet desk_indexed
    (by rintro t ⟨source, a, member, -⟩; simp [turnover] at member) turnover_named
    (by simpa using ⟨"year", rfl⟩) desk_declared resolved planned software named reads
  exact ⟨q, sp, selected, planned, software, meets, agrees⟩

def sales : List RequestedMetric :=
  [.aggregation ⟨.sum, "orders.amount", "sales", 0.5⟩]

def statuses : List Dimension := [.make .plain "orders.status", .make .plain "customers.status"]

/-- An open order of a customer of the status `gold`. -/
def goldenOrder : Entries Value (List Row) :=
  [("orders", [[("status", "open"), ("orders__customer_id", .int 1), ("sales", .int 5)]]),
    ("customers", [[("status", "gold"), ("customers__id", .int 1)]])]

/-- Statuses of orders and of customers are selected under one alias, though no join is on a
dimension, and merging an order with its customer loses the status of the order. -/
theorem desk_statuses_collide : ∃ q sp b b' rows, desk.plan sales statuses = .ok q ∧
    q.joinPlan = .software sp ∧ q.Selects b ∧ q.Selects b' ∧
    b.aliasName = .text "status" ∧ b'.aliasName = .text "status" ∧
    b.table.identifier = "shop:orders" ∧ b'.table.identifier = "crm:customers" ∧
    (∀ rel ∈ sp.relations, rel.sourceAlias ≠ .text "status") ∧
    mergeResults sp.primary sp.relations goldenOrder = .ok rows ∧
    rows.map (·.cell "status") = [.text "gold"] := by
  have shape : ((do
      let r ← desk.resolve sales statuses
      let q ← desk.plan sales statuses
      return (r, q) : Outcome (Resolved × QueryPlan)).toOption.any fun pair =>
        decide (NamedApart pair.2.tables) &&
        (pair.1.dimensions.any fun b =>
          b.aliasName.isText "status" && b.table.identifier == "shop:orders") &&
        (pair.1.dimensions.any fun b =>
          b.aliasName.isText "status" && b.table.identifier == "crm:customers") &&
        (pair.2.joinPlan.software?.any fun sp =>
          (sp.relations.all fun rel => !rel.sourceAlias.isText "status") &&
            (mergeResults sp.primary sp.relations goldenOrder).toOption.any fun rows =>
              rows.length == 1 && rows.all fun row => (row.cell "status").isText "gold")) =
        true := by decide +kernel
  obtain ⟨⟨r, q⟩, run, shape⟩ := Outcome.any_ok shape
  simp only [Outcome.bind_eq_ok, Outcome.pure_eq_ok, Prod.mk.injEq] at run
  obtain ⟨r, resolved, q, planned, rfl, rfl⟩ := run
  simp only [Bool.and_eq_true, decide_eq_true_eq, List.any_eq_true, beq_iff_eq, Value.isText_iff]
    at shape
  obtain ⟨⟨⟨apart, b, member, status, here⟩, b', member', status', here'⟩, shape⟩ := shape
  obtain ⟨sp, software, shape⟩ := JoinPlan.any_software shape
  simp only [Bool.and_eq_true, List.all_eq_true] at shape
  obtain ⟨unrelated, shape⟩ := shape
  obtain ⟨rows, merged, shape⟩ := Outcome.any_ok shape
  simp only [Bool.and_eq_true, beq_iff_eq, List.all_eq_true, Value.isText_iff] at shape
  obtain ⟨row, rfl⟩ := List.length_eq_one_iff.mp shape.1
  obtain ⟨r', resolved', built⟩ := plan_software planned software
  obtain rfl := Except.ok.inj (resolved.symm.trans resolved')
  have sound : r.Sound desk.registry statuses := resolve_sound desk_indexed
    (by rintro t ⟨source, a, listed, -⟩; simp [sales] at listed) resolved
  have selects : ∀ b ∈ r.dimensions, q.Selects b := by
    intro b member
    obtain ⟨tabled, -, -, participates⟩ := sound.participants
    obtain ⟨e, listed, table⟩ := List.mem_map.mp (participates b member)
    rw [QueryPlan.Selects, software]
    apply softwarePlan_selects built software apart member
    rw [← table, ← tabled.keyed e listed]
    exact listed
  refine ⟨q, sp, b, b', [row], planned, software, selects b member, selects b' member', status,
    status', here, here', ?_, merged, ?_⟩
  · intro rel listed same
    have differs := unrelated rel listed
    rw [same] at differs
    cases differs
  · rw [List.map_singleton, shape.2 row (List.mem_singleton_self row)]

end Planner
end Datacube
