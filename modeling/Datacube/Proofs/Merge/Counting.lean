import Datacube.Merge.Group
import Datacube.Proofs.Merge.Anchors

/-!
# Counting rows once

A fetched row is counted once in a group when its place in a merged row determines all other rows
that the merged row is made from. It does where every other table is told apart, within a group, by
the key of its relation towards the table of the row.
-/

namespace Datacube

/-- Two rows have one key in every dimension. -/
def Row.Alike (dimensions : List Value) (row other : Row) : Prop :=
  ∀ c ∈ dimensions, ∃ form, (row.cell c).key? = some form ∧ (other.cell c).key? = some form

theorem Headings.Heads.unique {h : Headings} {rows : List Row} {row row' : Row} {i j : Nat}
    (heads : h.Heads rows) (found : rows[i]? = some row) (found' : rows[j]? = some row')
    (alike : row.Alike h.keys row') : i = j := by
  have same : ∀ c ∈ h.keys, (row.cell c == row'.cell c) = true ∧
      (row'.cell c == row.cell c) = true := by
    intro c key
    obtain ⟨form, here, there⟩ := alike c key
    exact ⟨Value.same_of_key? here there, Value.same_of_key? there here⟩
  obtain ⟨within, rfl⟩ := List.getElem?_eq_some_iff.mp found
  obtain ⟨within', rfl⟩ := List.getElem?_eq_some_iff.mp found'
  have apart := List.pairwise_iff_getElem.mp heads.apart
  rcases Nat.lt_trichotomy i j with less | equal | greater
  · obtain ⟨c, key, differ⟩ := apart i j within within' less
    rw [(same c key).1] at differ
    cases differ
  · exact equal
  · obtain ⟨c, key, differ⟩ := apart j i within' within greater
    rw [(same c key).2] at differ
    cases differ

namespace Traced
variable {results : Entries Value (List Row)} {h : Value → Headings} {dimensions : List Value}
  {primary name : Value} {relations : List JoinRelation} {rel : JoinRelation} {t t' : Traced}
  {i j : Nat}

section Alike
variable (heads : ∀ name ∈ primary :: relations.map (·.target),
    (h name).Heads (fetched results name))
  (made : Made results h dimensions primary relations t)
  (made' : Made results h dimensions primary relations t')
  (alike : t.row.Alike dimensions t'.row)
include heads made made' alike

/-- Merged rows of one group are made from one row of a table, where its keys that are no dimensions
are the same. -/
theorem place_unique (merged : name ∈ primary :: relations.map (·.target))
    (place : t.place? name = some i) (place' : t'.place? name = some j)
    (keys : ∀ c ∈ (h name).keys, c ∉ dimensions → ∀ row row',
      (fetched results name)[i]? = some row → (fetched results name)[j]? = some row' →
        ∃ form, (row.cell c).key? = some form ∧ (row'.cell c).key? = some form) : i = j := by
  obtain ⟨row, found, agrees⟩ := (made.holds name merged).present i place
  obtain ⟨row', found', agrees'⟩ := (made'.holds name merged).present j place'
  refine (heads name merged).unique found found' fun c key => ?_
  by_cases requested : c ∈ dimensions
  · have column : c ∈ (h name).all := List.mem_append_left _ key
    rw [(agrees c column).1, (agrees' c column).1]
    exact alike c requested
  · exact keys c key requested row row' found found'

end Alike

section Once
variable (laid : Laid h dimensions primary relations)
include laid

theorem target_merged (member : rel ∈ relations) :
    rel.target ∈ primary :: relations.map (·.target) ∧ ∃ s, rel.target = .text s := by
  have merged : rel.target ∈ primary :: relations.map (·.target) :=
    List.mem_cons_of_mem _ (List.mem_map_of_mem member)
  exact ⟨merged, laid.names _ merged⟩

theorem Made.source_present (made : Made results h dimensions primary relations t)
    (member : rel ∈ relations) (keyed : rel.keyed = true) (free : rel.sourceAlias ∉ dimensions)
    (place : t.place? rel.target = some i) : ∃ j, t.place? rel.source = some j := by
  cases above : t.place? rel.source with
  | some j => exact ⟨j, rfl⟩
  | none =>
      obtain ⟨before, after, split⟩ := List.append_of_mem member
      obtain ⟨row, found, -⟩ := (made.holds _ (target_merged laid member).1).present i place
      obtain ⟨form, key, -, set⟩ := (made.follows rel member).linked keyed i row place found
      have null := (made.holds rel.source (laid.source_mem member)).absent above rel.sourceAlias
        (laid.compares rel member keyed) free
      rw [null] at key
      exact absurd (Option.some.inj key).symm set

theorem Made.own_key (made : Made results h dimensions primary relations t)
    (member : rel ∈ relations) (keyed : rel.keyed = true) (place : t.place? rel.source = some i)
    {row : Row} (found : (fetched results rel.source)[i]? = some row) :
    (row.cell rel.sourceAlias).key? = (t.row.cell rel.sourceAlias).key? := by
  obtain ⟨row', found', agrees⟩ := (made.holds _ (laid.source_mem member)).present i place
  obtain rfl := Option.some.inj (found.symm.trans found')
  exact (agrees _ (laid.compares rel member keyed)).1

theorem Made.place_ne_none (made : Made results h dimensions primary relations t)
    (made' : Made results h dimensions primary relations t') (member : rel ∈ relations)
    (key : rel.keyed = true →
      (t.row.cell rel.sourceAlias).key? = (t'.row.cell rel.sourceAlias).key?)
    (place : t.place? rel.target = some i) : t'.place? rel.target ≠ none := by
  intro none
  obtain ⟨row, found, -⟩ := (made.holds _ (target_merged laid member).1).present i place
  have listed := List.mem_of_getElem? found
  cases keyed : rel.keyed with
  | true =>
      have links := (made.follows rel member).linked keyed i row place found
      exact (made'.follows rel member).unlinked keyed none row listed (links.congr (key keyed))
  | false =>
      rw [(made'.follows rel member).crossed keyed none] at listed
      cases listed

theorem texts_of_keys (merged : name ∈ primary :: relations.map (·.target)) :
    ∀ c ∈ (h name).keys, ∃ s, c = .text s :=
  fun c key => laid.texts name merged c (List.mem_append_left _ key)

variable (heads : ∀ name ∈ primary :: relations.map (·.target),
    (h name).Heads (fetched results name))
  (made : Made results h dimensions primary relations t)
  (made' : Made results h dimensions primary relations t')
  (alike : t.row.Alike dimensions t'.row)
include heads made made' alike

omit heads in
/-- Merged rows of one group that have the same row of a table have its key. -/
theorem own_key_unique (member : rel ∈ relations) (keyed : rel.keyed = true)
    (same : t.place? rel.source = t'.place? rel.source) :
    (t.row.cell rel.sourceAlias).key? = (t'.row.cell rel.sourceAlias).key? := by
  have source := laid.source_mem member
  have column := laid.compares rel member keyed
  by_cases requested : rel.sourceAlias ∈ dimensions
  · obtain ⟨form, key, key'⟩ := alike _ requested
    rw [key, key']
  · cases place : t.place? rel.source with
    | some j =>
        obtain ⟨row, found, -⟩ := (made.holds _ source).present j place
        rw [← made.own_key laid member keyed place found,
          ← made'.own_key laid member keyed (same ▸ place) found]
    | none =>
        rw [(made.holds _ source).absent place _ column requested,
          (made'.holds _ source).absent (same ▸ place) _ column requested]

theorem source_unique (member : rel ∈ relations) (climbs : rel.climbs dimensions = true)
    (within : (h rel.source).within dimensions [rel.sourceAlias] = true)
    (place : t.place? rel.target = some i) (place' : t'.place? rel.target = some i) :
    ∃ j, t.place? rel.source = some j ∧ t'.place? rel.source = some j := by
  obtain ⟨keyed, free⟩ := Bool.and_eq_true_iff.mp climbs
  have source := laid.source_mem member
  have column := laid.compares rel member keyed
  rw [Bool.not_eq_true', ← Bool.not_eq_true, Value.contains_iff (laid.texts _ source _ column)]
    at free
  obtain ⟨j, above⟩ := made.source_present laid member keyed free place
  obtain ⟨j', above'⟩ := made'.source_present laid member keyed free place'
  obtain ⟨row, found, -⟩ := (made.holds _ (target_merged laid member).1).present i place
  obtain ⟨form, key, shared, -⟩ := (made.follows rel member).linked keyed i row place found
  obtain ⟨form', key', shared', -⟩ := (made'.follows rel member).linked keyed i row place' found
  obtain rfl := Option.some.inj (shared.symm.trans shared')
  have equal : j = j' := by
    refine place_unique heads made made' alike source above above' ?_
    intro c own foreign up up' at' at''
    obtain rfl := List.mem_singleton.mp
      ((Headings.within_iff (texts_of_keys laid source)).mp within c own foreign)
    exact ⟨form, (made.own_key laid member keyed above at').trans key,
      (made'.own_key laid member keyed above' at'').trans key'⟩
  exact ⟨j, above, equal ▸ above'⟩

/-- Merged rows whose key is the same have the same row of the next table. -/
theorem target_unique (member : rel ∈ relations)
    (within : (h rel.target).within dimensions (if rel.keyed then [rel.targetAlias] else []) = true)
    (key : rel.keyed = true →
      (t.row.cell rel.sourceAlias).key? = (t'.row.cell rel.sourceAlias).key?) :
    t.place? rel.target = t'.place? rel.target := by
  have target := (target_merged laid member).1
  have keys := (Headings.within_iff (texts_of_keys laid target)).mp within
  cases place : t.place? rel.target with
  | none =>
      cases place' : t'.place? rel.target with
      | none => rfl
      | some j =>
          exact absurd place (made'.place_ne_none laid made member
            (fun keyed => (key keyed).symm) place')
  | some i =>
      cases place' : t'.place? rel.target with
      | none => exact absurd place' (made.place_ne_none laid made' member key place)
      | some j =>
          rw [place_unique heads made made' alike target place place']
          intro c own foreign row row' found found'
          have listed := keys c own foreign
          split at listed
          · rename_i keyed
            obtain rfl := List.mem_singleton.mp listed
            obtain ⟨form, here, there, -⟩ :=
              (made.follows rel member).linked keyed i row place found
            obtain ⟨form', here', there', -⟩ :=
              (made'.follows rel member).linked keyed j row' place' found'
            rw [key keyed, here'] at here
            exact ⟨form, there, (Option.some.inj here) ▸ there'⟩
          · cases listed

variable (anchors : isAnchored h dimensions primary relations name = true)
  (place : t.place? name = some i) (place' : t'.place? name = some i)
include anchors place place'

/-- The rows above a row are the same in all merged rows of a group that the row is in. -/
theorem above_unique {before after : List JoinRelation} (split : relations = before ++ after) :
    ∀ other ∈ tablesAbove dimensions name after,
      ∃ j, t.place? other = some j ∧ t'.place? other = some j := by
  -- The relations are climbed from the last one, each with the key of the row below it.
  induction after generalizing before with
  | nil =>
      intro other member
      rw [List.mem_singleton.mp member]
      exact ⟨i, place, place'⟩
  | cons rel after ih =>
      have ih := ih (split.trans (List.append_cons before rel after))
      have member : rel ∈ relations := by simp [split]
      have text := (target_merged laid member).2
      intro other inside
      rw [tablesAbove, List.foldr_cons, ← tablesAbove] at inside
      split at inside
      · rename_i climb
        rcases List.mem_cons.mp inside with rfl | inside
        · rw [Bool.and_eq_true, Value.contains_iff text] at climb
          obtain ⟨below, climbs⟩ := climb
          have below' : (tablesAbove dimensions name relations).contains rel.target = true := by
            rw [Value.contains_iff text, split, List.append_cons]
            exact tablesAbove_append dimensions name _ _ below
          have within := List.all_eq_true.mp (Bool.and_eq_true_iff.mp anchors).2 rel member
          rw [if_pos below', climbs] at within
          obtain ⟨j, down, down'⟩ := ih rel.target below
          exact source_unique laid heads made made' alike member climbs within down down'
        · exact ih other inside
      · exact ih other inside

/-- All rows are the same in all merged rows of a group that a row is in. -/
theorem all_unique {before after : List JoinRelation} (split : relations = before ++ after) :
    ∀ other ∈ primary :: before.map (·.target), t.place? other = t'.place? other := by
  obtain ⟨first, others⟩ := Bool.and_eq_true_iff.mp anchors
  have above := above_unique laid heads made made' alike anchors place place'
    (List.nil_append relations).symm
  -- Tables that are merged earlier have the same rows, and these have the key of the next one.
  induction before using List.reverseRecOn generalizing after with
  | nil =>
      intro other member
      rw [List.mem_singleton.mp member]
      have root : primary ∈ primary :: relations.map (·.target) := List.mem_cons_self
      rw [Bool.or_eq_true, Value.contains_iff (laid.names primary root)] at first
      rcases first with inside | within
      · obtain ⟨j, here, here'⟩ := above primary inside
        rw [here, here']
      · obtain ⟨j, here⟩ := made.rooted
        obtain ⟨j', here'⟩ := made'.rooted
        rw [here, here', place_unique heads made made' alike root here here']
        intro c own foreign
        exact absurd ((Headings.within_iff (texts_of_keys laid root)).mp within c own foreign)
          List.not_mem_nil
  | append_singleton before rel ih =>
      rw [List.append_assoc] at split
      have ih := ih split
      have member : rel ∈ relations := by simp [split]
      have text := (target_merged laid member).2
      intro other merged
      rw [List.map_append, ← List.cons_append, List.mem_append, List.map_singleton,
        List.mem_singleton] at merged
      rcases merged with earlier | rfl
      · exact ih other earlier
      · have within := List.all_eq_true.mp others rel member
        split at within
        · rename_i inside
          obtain ⟨j, here, here'⟩ := above rel.target ((Value.contains_iff text).mp inside)
          rw [here, here']
        · refine target_unique laid heads made made' alike member within fun keyed => ?_
          exact own_key_unique laid made made' alike member keyed
            (ih rel.source (laid.start split))

end Once

/-- No row of a table is in two merged rows of a group. -/
theorem once_of_anchors {ts : List Traced} (laid : Laid h dimensions primary relations)
    (heads : ∀ name ∈ primary :: relations.map (·.target), (h name).Heads (fetched results name))
    (anchors : isAnchored h dimensions primary relations name = true)
    (traced : traceResults primary relations results = .ok ts) :
    ts.Pairwise fun t t' => t.row.Alike dimensions t'.row →
      ∀ i, t.place? name = some i → t'.place? name ≠ some i := by
  obtain ⟨made, apart⟩ := made_of_trace laid heads traced
  refine apart.imp_of_mem fun {t t'} member member' ⟨other, merged, differ⟩ => ?_
  intro alike i place place'
  exact differ (all_unique laid heads (made t member) (made t' member') alike anchors place place'
    (List.append_nil relations).symm other merged)

theorem Made.number (made : Made results h dimensions primary relations t) {c : Value}
    (merged : name ∈ primary :: relations.map (·.target)) (column : c ∈ (h name).all)
    (free : c ∉ dimensions) : Rollup.number? t.row c =
      (t.place? name).bind fun i =>
        ((fetched results name)[i]?).bind (Rollup.number? · c) := by
  cases place : t.place? name with
  | none =>
      rw [Rollup.number?, (made.holds name merged).absent place c column free]
      rfl
  | some i =>
      obtain ⟨row, found, agrees⟩ := (made.holds name merged).present i place
      rw [Option.bind_some, found, Option.bind_some, Rollup.number?, Rollup.number?,
        (agrees c column).2 free]

end Traced

/-! ## Groups -/

theorem Row.sublist_keepWhere {test : Row → Outcome Bool} {rows kept : List Row}
    (run : keepWhere test rows = .ok kept) : kept.Sublist rows := by
  induction rows generalizing kept with
  | nil =>
      rw [← Except.ok.inj run]
  | cons row rest ih =>
      simp only [keepWhere, Outcome.bind_eq_ok, Outcome.pure_eq_ok] at run
      obtain ⟨passed, -, others, later, rfl⟩ := run
      split
      · exact (ih later).cons_cons row
      · exact (ih later).cons row

theorem Row.sublist_filterAll {filters : Value} {rows kept : List Row}
    (run : filterAll filters rows = .ok kept) : kept.Sublist rows := by
  rw [filterAll] at run
  split at run
  · obtain ⟨fields, -, run⟩ := Outcome.bind_eq_ok.mp run
    exact sublist_keepWhere run
  · rw [← Outcome.pure_eq_ok.mp run]

namespace MergePlan
variable {m : MergePlan} {rows : List Row} {row row' : Row} {g : List Value × List Row}

theorem alike_of_cells {columns : List Value}
    (equal : (columns.map row.cell == columns.map row'.cell) = true)
    (keys : ∀ v ∈ columns.map row.cell, v.isKey = true)
    (keys' : ∀ v ∈ columns.map row'.cell, v.isKey = true) : row.Alike columns row' := by
  induction columns with
  | nil => nofun
  | cons column rest ih =>
      rw [List.map_cons, List.forall_mem_cons] at keys keys'
      rw [List.map_cons, List.map_cons, List.cons_beq_cons, Bool.and_eq_true] at equal
      intro c member
      rcases List.mem_cons.mp member with rfl | later
      · exact Value.key?_of_same keys.1 keys'.1 equal.1
      · exact ih equal.2 keys.2 keys'.2 c later

theorem keys_of_check (checked : m.check row = .ok ()) : ∀ v ∈ m.groupKey row, v.isKey = true := by
  rw [check] at checked
  split at checked
  · cases checked
  · rename_i keyed
    intro v member
    rw [Bool.not_eq_true', Bool.not_eq_false, List.all_eq_true] at keyed
    exact keyed v (by simp [member])

theorem alike_of_group (checked : ∀ row ∈ rows, m.check row = .ok ()) (member : g ∈ m.groups rows) :
    g.2.Sublist rows ∧ g.2.Pairwise (Row.Alike m.dimensions) := by
  obtain ⟨inside, first, rest, group, key, equal⟩ := Entries.mem_grouped member
  have keys : ∀ row ∈ g.2, ∀ v ∈ m.groupKey row, v.isKey = true :=
    fun row listed => keys_of_check (checked row (inside.subset listed))
  rw [group] at keys ⊢
  rw [← key] at equal
  have alike : ∀ row ∈ rest, row.Alike m.dimensions first := fun row later =>
    alike_of_cells (equal row later) (keys row (List.mem_cons_of_mem first later))
      (keys first List.mem_cons_self)
  refine ⟨group ▸ inside, List.pairwise_cons.mpr ⟨?_, ?_⟩⟩
  · intro row later c requested
    obtain ⟨form, here, there⟩ := alike row later c requested
    exact ⟨form, there, here⟩
  · refine List.pairwise_of_forall_mem_list fun row later row' later' c requested => ?_
    obtain ⟨form, here, there⟩ := alike row later c requested
    obtain ⟨form', here', there'⟩ := alike row' later' c requested
    obtain rfl := Option.some.inj (there.symm.trans there')
    exact ⟨form, here, here'⟩

end MergePlan

/-- No group of an answer counts a row of a table twice: merged rows of a group have it at different
places of its results, and their numbers are those at the places. -/
def MergePlan.CountsOnce (m : MergePlan) (results : Entries Value (List Row)) (name : Value)
    (columns : List Value) (answer : List Row) : Prop :=
  ∃ ts kept, traceResults m.primary m.relations results = .ok ts ∧
    mergeResults m.primary m.relations results = .ok (ts.map (·.row)) ∧
    Row.filterAll m.filters (ts.map (·.row)) = .ok kept ∧
    m.sort ((m.groups kept).map fun g => m.resultRow g.1 g.2) = .ok answer ∧
    ∀ g ∈ m.groups kept, (∃ members : List Traced, members.Sublist ts ∧
        g.2 = members.map (·.row)) ∧
      ∀ members : List Traced, members.Sublist ts → g.2 = members.map (·.row) →
        (members.filterMap (·.place? name)).Nodup ∧
        ∀ c ∈ columns, Rollup.numbers g.2 c =
          (members.filterMap (·.place? name)).filterMap fun i =>
            ((Traced.fetched results name)[i]?).bind (Rollup.number? · c)

theorem MergePlan.countsOnce {m : MergePlan} {results : Entries Value (List Row)}
    {h : Value → Headings} {name : Value} {columns : List Value} {answer : List Row}
    (laid : Laid h m.dimensions m.primary m.relations)
    (heads : ∀ name ∈ m.primary :: m.relations.map (·.target),
      (h name).Heads (Traced.fetched results name))
    (anchors : isAnchored h m.dimensions m.primary m.relations name = true)
    (merged : name ∈ m.primary :: m.relations.map (·.target))
    (inside : columns ⊆ (h name).all) (free : ∀ c ∈ columns, c ∉ m.dimensions)
    (run : m.run results = .ok answer) : m.CountsOnce results name columns answer := by
  simp only [MergePlan.run, group, Outcome.bind_eq_ok, MergeStep.traceResults_rows laid.ordered]
    at run
  obtain ⟨rows, traced, kept, filtered, ⟨⟩, checked, sorted⟩ := run
  cases trace : traceResults m.primary m.relations results with
  | error e =>
      rw [trace] at traced
      cases traced
  | ok ts =>
      rw [trace] at traced
      obtain rfl := Except.ok.inj traced
      obtain ⟨made, -⟩ := Traced.made_of_trace laid heads trace
      have once := Traced.once_of_anchors laid heads anchors trace
      refine ⟨ts, kept, trace, ?_, filtered, sorted, fun g listed => ?_⟩
      · rw [MergeStep.traceResults_rows laid.ordered, trace]
        rfl
      obtain ⟨within, alike⟩ := alike_of_group (Outcome.forM_ok checked) listed
      refine ⟨List.sublist_map_iff.mp (within.trans (Row.sublist_filterAll filtered)), ?_⟩
      rintro members among group
      rw [group] at alike ⊢
      constructor
      · refine List.pairwise_filterMap.mpr ?_
        refine ((once.sublist among).and (List.pairwise_map.mp alike)).imp ?_
        rintro t t' ⟨differ, alike⟩ i place j place' rfl
        exact differ alike i place place'
      · intro c column
        rw [Rollup.numbers, List.filterMap_map, List.filterMap_filterMap]
        apply List.filterMap_congr
        intro t member
        exact (made t (among.subset member)).number merged (inside column) (free c column)

end Datacube
