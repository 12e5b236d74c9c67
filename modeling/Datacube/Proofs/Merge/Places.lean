import Datacube.Proofs.Merge.Trace

/-!
# What merged rows keep

Where the tables of a merge share no columns but dimensions that the next table is merged by, a
merged row keeps the cells of all rows that it is made from. It has nulls in the columns of a table
that it has no row of, and then no row of this table has its key.
-/

namespace Datacube

/-- Whether the merge along the relation compares columns. -/
def JoinRelation.keyed (r : JoinRelation) : Bool := r.sourceAlias.isTrue || r.targetAlias.isTrue

/-- The columns of the results of a table: those that its query groups by, and the others. -/
structure Headings where
  keys : List Value
  others : List Value

namespace Headings

def all (h : Headings) : List Value := h.keys ++ h.others

/-- The rows can be the result of a query that groups by the keys: no two have the same keys. -/
structure Heads (h : Headings) (rows : List Row) : Prop where
  inside : ∀ row ∈ rows, row.keys ⊆ h.all
  once : ∀ row ∈ rows, row.keys.Nodup
  apart : rows.Pairwise fun row other => ∃ c ∈ h.keys, (row.cell c == other.cell c) = false

/-- Whether the rows can be the result of such a query, where all columns are texts. -/
def admits (h : Headings) (rows : List Row) : Bool :=
  (h.all.all fun c => c.isText c.toText) &&
    (rows.all fun row => row.keys.all h.all.contains &&
      decide (row.keys.Pairwise fun c c' => (c == c') = false)) &&
    decide (rows.Pairwise fun row other =>
      (h.keys.any fun c => !(row.cell c == other.cell c)) = true)

theorem heads_of_admits {h : Headings} {rows : List Row} (admits : h.admits rows = true) :
    h.Heads rows := by
  simp only [Headings.admits, Bool.and_eq_true, List.all_eq_true, decide_eq_true_eq] at admits
  obtain ⟨⟨texts, listed⟩, apart⟩ := admits
  have inside : ∀ row ∈ rows, row.keys ⊆ h.all := by
    intro row member c column
    have known := (listed row member).1 c column
    rw [List.contains_eq_any_beq, List.any_eq_true] at known
    obtain ⟨v, named, same⟩ := known
    rw [(Value.isText_iff v _).mp (texts v named), Value.beq_text,
      ← (Value.isText_iff v _).mp (texts v named)] at same
    exact same ▸ named
  refine ⟨inside, fun row member => ?_, apart.imp fun {row other} differ => ?_⟩
  · refine (listed row member).2.imp_of_mem fun {c c'} column _ differ same => ?_
    rw [← same, (Value.isText_iff c _).mp (texts c (inside row member column)),
      (Value.beq_text _ _).mpr rfl] at differ
    cases differ
  · obtain ⟨c, key, differ⟩ := List.any_eq_true.mp differ
    exact ⟨c, key, by simpa using differ⟩

end Headings

/-- The tables of ordered relations have columns that can be merged: relations compare columns of
their tables, and the next table shares a column with those before it only where the column is a
dimension that both are merged by. -/
structure Laid (h : Value → Headings) (dimensions : List Value) (primary : Value)
    (relations : List JoinRelation) : Prop where
  ordered : MergeStep.Ordered [primary] relations
  distinct : (primary :: relations.map (·.target)).Nodup
  names : ∀ name ∈ primary :: relations.map (·.target), ∃ s, name = .text s
  texts : ∀ name ∈ primary :: relations.map (·.target), ∀ c ∈ (h name).all, ∃ s, c = .text s
  compares : ∀ rel ∈ relations, rel.keyed = true → rel.sourceAlias ∈ (h rel.source).all
  shared : ∀ before rel after, relations = before ++ rel :: after →
    ∀ name ∈ primary :: before.map (·.target), ∀ c ∈ (h name).all, c ∈ (h rel.target).all →
      c ∈ dimensions ∧ rel.keyed = true ∧ c = rel.sourceAlias ∧ c = rel.targetAlias

/-- Whether the next tables share no columns with those before them but dimensions that they are
merged by. -/
def columnsApart (h : Value → Headings) (dimensions : List Value) :
    List Value → List JoinRelation → Bool
  | _, [] => true
  | names, r :: rest =>
    (names.all fun name => (h name).all.all fun c => !(h r.target).all.contains c ||
      dimensions.contains c && r.keyed && r.sourceAlias == c && r.targetAlias == c) &&
    columnsApart h dimensions (names ++ [r.target]) rest

theorem shared_of_columnsApart {h : Value → Headings} {dimensions names : List Value}
    {relations before after : List JoinRelation} {rel : JoinRelation}
    (apart : columnsApart h dimensions names relations = true)
    (split : relations = before ++ rel :: after) {name c : Value} (text : ∃ s, c = .text s)
    (merged : name ∈ names ++ before.map (·.target)) (column : c ∈ (h name).all)
    (column' : c ∈ (h rel.target).all) :
    c ∈ dimensions ∧ rel.keyed = true ∧ c = rel.sourceAlias ∧ c = rel.targetAlias := by
  obtain ⟨s, rfl⟩ := text
  induction before generalizing names relations with
  | nil =>
      rw [split, List.nil_append, columnsApart, Bool.and_eq_true] at apart
      rw [List.map_nil, List.append_nil] at merged
      have shared := List.all_eq_true.mp (List.all_eq_true.mp apart.1 name merged) _ column
      rw [(Value.contains_text s _).mpr column'] at shared
      simp only [Bool.not_true, Bool.false_or, Bool.and_eq_true, Value.contains_text,
        Value.beq_text] at shared
      exact ⟨shared.1.1.1, shared.1.1.2, shared.1.2.symm, shared.2.symm⟩
  | cons first rest ih =>
      rw [split, List.cons_append, columnsApart, Bool.and_eq_true] at apart
      exact ih apart.2 rfl (by simpa using merged)

section Laid
variable {h : Value → Headings} {dimensions : List Value} {primary : Value}
  {relations before after : List JoinRelation} {rel : JoinRelation}
  (laid : Laid h dimensions primary relations) (split : relations = before ++ rel :: after)
include laid split

theorem Laid.fresh : rel.target ∉ primary :: before.map (·.target) :=
  MergeStep.target_new (split ▸ laid.distinct)

theorem Laid.start : rel.source ∈ primary :: before.map (·.target) := by
  have starts := (split ▸ laid.ordered).split.1
  rw [List.singleton_append, List.contains_eq_any_beq, List.any_eq_true] at starts
  obtain ⟨name, merged, same⟩ := starts
  obtain ⟨s, text⟩ := laid.names name (by
    rw [split, List.map_append, ← List.cons_append]
    exact List.mem_append_left _ merged)
  rw [text, Value.beq_text, ← text] at same
  exact same ▸ merged

omit split in
theorem Laid.source_mem (member : rel ∈ relations) :
    rel.source ∈ primary :: relations.map (·.target) := by
  obtain ⟨before, after, split⟩ := List.append_of_mem member
  rw [split, List.map_append, ← List.cons_append]
  exact List.mem_append_left _ (laid.start split)

end Laid

namespace Row
variable {dimensions : List Value} {c : Value} {row other next : Row} {rel : JoinRelation}

/-- Two rows have one key in a column, and one value where the column is no dimension. -/
def Agrees (dimensions : List Value) (c : Value) (row other : Row) : Prop :=
  (row.cell c).key? = (other.cell c).key? ∧ (c ∉ dimensions → row.cell c = other.cell c)

theorem Agrees.of_eq (same : row.cell c = other.cell c) : Agrees dimensions c row other :=
  ⟨congrArg Value.key? same, fun _ => same⟩

theorem Agrees.trans (first : Agrees dimensions c row other)
    (second : Agrees dimensions c other next) : Agrees dimensions c row next :=
  ⟨first.1.trans second.1, fun free => (first.2 free).trans (second.2 free)⟩

theorem meets_unkeyed (unkeyed : rel.keyed = false) :
    row.meets rel.sourceAlias rel.targetAlias other = true := by
  rw [JoinRelation.keyed, Bool.or_eq_false_iff] at unkeyed
  rw [meets, unkeyed.1, unkeyed.2]
  rfl

theorem meets_iff_links (keyed : rel.keyed = true) (key : (row.cell rel.sourceAlias).isKey = true)
    (key' : (other.cell rel.targetAlias).isKey = true) :
    row.meets rel.sourceAlias rel.targetAlias other = true ↔
      (row.cell rel.sourceAlias).Links (other.cell rel.targetAlias) := by
  rw [Value.links_iff key key', meets, ← Bool.not_or, ← JoinRelation.keyed, keyed]
  rfl

end Row

namespace Traced
variable {results : Entries Value (List Row)} {h : Value → Headings} {dimensions : List Value}
  {primary : Value} {relations done after : List JoinRelation} {rel : JoinRelation}
  {t new : Traced} {keep : Bool}

def fetched (results : Entries Value (List Row)) (name : Value) : List Row :=
  (results.get? name).getD []

/-- What a merged row holds of one table: the cells of its row, or nulls. -/
structure Holds (results : Entries Value (List Row)) (h : Value → Headings)
    (dimensions : List Value) (t : Traced) (name : Value) : Prop where
  present : ∀ i, t.place? name = some i → ∃ row, (fetched results name)[i]? = some row ∧
    ∀ c ∈ (h name).all, Row.Agrees dimensions c row t.row
  absent : t.place? name = none → ∀ c ∈ (h name).all, c ∉ dimensions → t.row.cell c = .null

/-- How a merged row follows a relation: to a row of the target with its key, or there is none. -/
structure Follows (results : Entries Value (List Row)) (t : Traced) (rel : JoinRelation) :
    Prop where
  linked : rel.keyed = true → ∀ i row, t.place? rel.target = some i →
    (fetched results rel.target)[i]? = some row →
      (t.row.cell rel.sourceAlias).Links (row.cell rel.targetAlias)
  unlinked : rel.keyed = true → t.place? rel.target = none → ∀ row ∈ fetched results rel.target,
    ¬ (t.row.cell rel.sourceAlias).Links (row.cell rel.targetAlias)
  crossed : rel.keyed = false → t.place? rel.target = none → fetched results rel.target = []

/-- A merged row is made from rows of the tables that are merged along some relations. -/
structure Made (results : Entries Value (List Row)) (h : Value → Headings)
    (dimensions : List Value) (primary : Value) (done : List JoinRelation) (t : Traced) : Prop where
  inside : t.places.keys ⊆ primary :: done.map (·.target)
  rooted : ∃ i, t.place? primary = some i
  holds : ∀ name ∈ primary :: done.map (·.target), Holds results h dimensions t name
  unseen : ∀ c, (∃ s, c = .text s) →
    (∀ name ∈ primary :: done.map (·.target), c ∉ (h name).all) → t.row.cell c = .null
  follows : ∀ rel ∈ done, Follows results t rel

theorem Holds.carry {name : Value} (holds : Holds results h dimensions t name)
    (place : new.place? name = t.place? name)
    (keeps : ∀ c ∈ (h name).all, Row.Agrees dimensions c t.row new.row) :
    Holds results h dimensions new name where
  present i here := by
    obtain ⟨row, found, agrees⟩ := holds.present i (place ▸ here)
    exact ⟨row, found, fun c column => (agrees c column).trans (keeps c column)⟩
  absent none c column free := by
    rw [← (keeps c column).2 free, holds.absent (place ▸ none) c column free]

theorem Follows.carry (follows : Follows results t rel)
    (place : new.place? rel.target = t.place? rel.target)
    (key : rel.keyed = true →
      (t.row.cell rel.sourceAlias).key? = (new.row.cell rel.sourceAlias).key?) :
    Follows results new rel where
  linked keyed i row here found :=
    (follows.linked keyed i row (place ▸ here) found).congr (key keyed)
  unlinked keyed none row listed links :=
    follows.unlinked keyed (place ▸ none) row listed (links.congr (key keyed).symm)
  crossed unkeyed none := follows.crossed unkeyed (place ▸ none)

theorem Made.start (laid : Laid h dimensions primary relations)
    (heads : (h primary).Heads (fetched results primary))
    (member : t ∈ start primary (fetched results primary)) :
    Made results h dimensions primary [] t := by
  obtain ⟨⟨row, i⟩, listed, rfl⟩ := List.mem_map.mp member
  have text := laid.names primary List.mem_cons_self
  have here : place? ⟨row, [(primary, i)]⟩ primary = some i :=
    place?_merge_self (t := ⟨row, []⟩) text List.not_mem_nil row i
  have found := List.mk_mem_zipIdx_iff_getElem?.mp listed
  refine ⟨List.Subset.refl _, ⟨i, here⟩, ?_, ?_, nofun⟩
  · intro name merged
    obtain rfl := List.mem_singleton.mp merged
    refine ⟨fun j place => ?_, fun none => ?_⟩
    · obtain rfl := Option.some.inj (here.symm.trans place)
      exact ⟨row, found, fun c _ => .of_eq rfl⟩
    · cases here.symm.trans none
  · intro c column free
    refine Row.cell_of_not_mem column fun inside => ?_
    exact free primary List.mem_cons_self (heads.inside row (List.mem_of_getElem? found) inside)

/-! ## One step -/

section Step
variable (laid : Laid h dimensions primary relations) (split : relations = done ++ rel :: after)
include laid split

section Cells
variable {row : Row} (heads : (h rel.target).Heads (fetched results rel.target))
  (listed : row ∈ fetched results rel.target)
  (linked : rel.keyed = true → (t.row.cell rel.sourceAlias).Links (row.cell rel.targetAlias))
  {c : Value}
include heads listed linked

theorem merge_keeps (seen : ∃ name ∈ primary :: done.map (·.target), c ∈ (h name).all) :
    Row.Agrees dimensions c t.row (t.row.merge row) := by
  obtain ⟨name, merged, column⟩ := seen
  have within : primary :: done.map (·.target) ⊆ primary :: relations.map (·.target) := by
    rw [split]
    exact List.cons_subset_cons _ (List.map_subset _ (List.subset_append_left _ _))
  have text := laid.texts name (within merged) c column
  have texts : ∀ c ∈ row.keys, ∃ s, c = .text s := fun c member =>
    laid.texts rel.target (by simp [split]) c (heads.inside row listed member)
  by_cases here : c ∈ row.keys
  · obtain ⟨requested, keyed, own, theirs⟩ :=
      laid.shared done rel after split name merged c column (heads.inside row listed here)
    obtain ⟨form, key, key', -⟩ := linked keyed
    rw [← own] at key
    rw [← theirs] at key'
    refine ⟨?_, fun free => absurd requested free⟩
    rw [Row.cell_merge_right text texts (heads.once row listed) here, key, key']
  · exact .of_eq (Row.cell_merge_left text texts here).symm

theorem merge_takes (made : Made results h dimensions primary done t)
    (column : c ∈ (h rel.target).all) : Row.Agrees dimensions c row (t.row.merge row) := by
  have target : rel.target ∈ primary :: relations.map (·.target) := by simp [split]
  have text := laid.texts rel.target target c column
  have texts : ∀ c ∈ row.keys, ∃ s, c = .text s := fun c member =>
    laid.texts rel.target target c (heads.inside row listed member)
  by_cases here : c ∈ row.keys
  · exact .of_eq (Row.cell_merge_right text texts (heads.once row listed) here).symm
  · apply Row.Agrees.of_eq
    have null : row.cell c = .null := Row.cell_of_not_mem text here
    rw [Row.cell_merge_left text texts here, null, made.unseen c text]
    intro name merged seen
    -- A column that is shared would have a key to be merged by.
    obtain ⟨-, keyed, -, theirs⟩ := laid.shared done rel after split name merged c seen column
    obtain ⟨form, -, key, set⟩ := linked keyed
    rw [← theirs, null] at key
    exact set (Option.some.inj key).symm

end Cells

theorem source_merged {rel' : JoinRelation} (member : rel' ∈ done ++ [rel]) :
    rel' ∈ relations ∧ rel'.source ∈ primary :: done.map (·.target) := by
  constructor
  · rw [split, List.append_cons]
    exact List.mem_append_left _ member
  · rcases List.mem_append.mp member with old | here
    · obtain ⟨before, rest, rfl⟩ := List.append_of_mem old
      rw [List.append_assoc, List.cons_append] at split
      rw [List.map_append, ← List.cons_append]
      exact List.mem_append_left _ (laid.start split)
    · exact List.mem_singleton.mp here ▸ laid.start split

/-- What keeps the cells of a merged row, and holds of the next table as well, is made from it. -/
theorem Made.grow (made : Made results h dimensions primary done t)
    (inside : new.places.keys ⊆ t.places.keys ++ [rel.target])
    (others : ∀ name, name ≠ rel.target → new.place? name = t.place? name)
    (keeps : ∀ c, (∃ name ∈ primary :: done.map (·.target), c ∈ (h name).all) →
      Row.Agrees dimensions c t.row new.row)
    (frees : ∀ c, (∃ s, c = .text s) → c ∉ (h rel.target).all → new.row.cell c = t.row.cell c)
    (holds : Holds results h dimensions new rel.target)
    (follows : (rel.keyed = true →
        (t.row.cell rel.sourceAlias).key? = (new.row.cell rel.sourceAlias).key?) →
      Follows results new rel) : Made results h dimensions primary (done ++ [rel]) new := by
  have fresh := laid.fresh split
  have merged : primary :: (done ++ [rel]).map (·.target) =
      (primary :: done.map (·.target)) ++ [rel.target] := by simp
  -- A relation compares a column that is merged before, which keeps its key.
  have key : ∀ rel' ∈ done ++ [rel], rel'.keyed = true →
      (t.row.cell rel'.sourceAlias).key? = (new.row.cell rel'.sourceAlias).key? := by
    intro rel' member keyed
    obtain ⟨listed, source⟩ := source_merged laid split member
    exact (keeps _ ⟨rel'.source, source, laid.compares rel' listed keyed⟩).1
  refine ⟨?_, ?_, ?_, ?_, ?_⟩
  · rw [merged]
    exact List.Subset.trans inside
      (List.append_subset.mpr ⟨List.subset_append_of_subset_left _ made.inside,
        List.subset_append_right _ _⟩)
  · obtain ⟨i, place⟩ := made.rooted
    refine ⟨i, ?_⟩
    rw [others primary fun same => fresh (same ▸ List.mem_cons_self), place]
  · rw [merged]
    intro name member
    rcases List.mem_append.mp member with old | here
    · exact (made.holds name old).carry (others name fun same => fresh (same ▸ old))
        fun c column => keeps c ⟨name, old, column⟩
    · exact List.mem_singleton.mp here ▸ holds
  · rw [merged]
    intro c text free
    rw [frees c text (free rel.target (by simp))]
    exact made.unseen c text fun name old => free name (List.mem_append_left _ old)
  · intro rel' member
    rcases List.mem_append.mp member with old | here
    · refine (made.follows rel' old).carry (others _ fun same => fresh ?_) (key rel' member)
      exact same ▸ List.mem_cons_of_mem _ (List.mem_map_of_mem old)
    · obtain rfl := List.mem_singleton.mp here
      exact follows (key rel' member)

/-- What a merge makes of a merged row is made from the next table as well. -/
theorem Made.step (made : Made results h dimensions primary done t)
    (heads : (h rel.target).Heads (fetched results rel.target))
    (keys : rel.keyed = true → (t.row.cell rel.sourceAlias).isKey = true ∧
      ∀ row ∈ fetched results rel.target, (row.cell rel.targetAlias).isKey = true)
    (member : new ∈ joinOne rel.target (fetched results rel.target) rel.sourceAlias
      rel.targetAlias keep t) : Made results h dimensions primary (done ++ [rel]) new := by
  have target : rel.target ∈ primary :: relations.map (·.target) := by simp [split]
  have text := laid.names rel.target target
  have fresh : rel.target ∉ t.places.keys := fun known => laid.fresh split (made.inside known)
  have links : rel.keyed = true → ∀ row ∈ fetched results rel.target,
      (t.row.meets rel.sourceAlias rel.targetAlias row = true ↔
        (t.row.cell rel.sourceAlias).Links (row.cell rel.targetAlias)) := fun keyed row listed =>
    Row.meets_iff_links keyed (keys keyed).1 ((keys keyed).2 row listed)
  have grow := made.grow laid split (keys_joinOne member) fun name => place?_joinOne text member
  rcases mem_joinOne member with ⟨row, i, found, meets, rfl⟩ | ⟨unmet, rfl⟩
  -- The new row is the old one with a row that it meets, or the old one with nulls.
  · have listed := List.mem_of_getElem? found
    have linked := fun keyed => (links keyed row listed).mp meets
    have place := place?_merge_self text fresh (t.row.merge row) i
    refine grow (fun c => merge_keeps laid split heads listed linked) ?_ ⟨?_, ?_⟩ fun key =>
      ⟨?_, ?_, ?_⟩
    · intro c column foreign
      exact Row.cell_merge_left column
        (fun c member => laid.texts rel.target target c (heads.inside row listed member))
        fun here => foreign (heads.inside row listed here)
    · intro j place'
      obtain rfl := Option.some.inj (place.symm.trans place')
      exact ⟨row, found, fun c => merge_takes laid split heads listed linked made⟩
    · intro none
      cases place.symm.trans none
    · intro keyed j row' place' found'
      obtain rfl := Option.some.inj (place.symm.trans place')
      obtain rfl := Option.some.inj (found.symm.trans found')
      exact (linked keyed).congr (key keyed)
    · intro keyed none
      cases place.symm.trans none
    · intro unkeyed none
      cases place.symm.trans none
  · have place := place?_eq_none text fresh
    refine grow (fun c _ => .of_eq (Row.cell_pad _).symm) (fun c _ _ => Row.cell_pad _) ⟨?_, ?_⟩
      fun key => ⟨?_, ?_, ?_⟩
    · intro j place'
      cases place.symm.trans place'
    · intro _ c column free
      rw [Row.cell_pad]
      refine made.unseen c (laid.texts rel.target target c column) fun name merged seen => ?_
      exact free (laid.shared done rel after split name merged c seen column).1
    · intro keyed j row place'
      cases place.symm.trans place'
    · intro keyed _ row listed linked
      have meets := (links keyed row listed).mpr (linked.congr (key keyed).symm)
      cases (unmet row listed).symm.trans meets
    · intro unkeyed _
      apply List.eq_nil_iff_forall_not_mem.mpr
      intro row listed
      cases (unmet row listed).symm.trans (Row.meets_unkeyed unkeyed)

end Step

/-! ## A whole merge -/

/-- Merged rows are made from rows of the tables, and no two of them from the same ones. -/
theorem made_of_trace {ts : List Traced} (laid : Laid h dimensions primary relations)
    (heads : ∀ name ∈ primary :: relations.map (·.target),
      (h name).Heads (fetched results name))
    (traced : traceResults primary relations results = .ok ts) :
    (∀ t ∈ ts, Made results h dimensions primary relations t) ∧
      ts.Pairwise (Apart (primary :: relations.map (·.target))) := by
  rw [traceResults, MergeStep.schedule_ordered laid.ordered, List.foldlM_map] at traced
  refine Outcome.foldlM_induction (fun done ts =>
    (∀ t ∈ ts, Made results h dimensions primary done t) ∧
      ts.Pairwise (Apart (primary :: done.map (·.target)))) traced ⟨?_, ?_⟩ ?_
  · exact fun t => .start laid (heads primary List.mem_cons_self)
  · exact start_apart (laid.names primary List.mem_cons_self) _
  · rintro done rel ⟨after, split⟩ ts ts' ⟨made, apart⟩ traced
    rw [List.append_assoc, List.singleton_append] at split
    have target : rel.target ∈ primary :: relations.map (·.target) := by simp [← split]
    have text := laid.names rel.target target
    have fresh : ∀ t ∈ ts, rel.target ∉ t.places.keys := fun t listed known =>
      laid.fresh split.symm ((made t listed).inside known)
    obtain ⟨⟨rows, joined⟩, keep, rfl⟩ := MergeStep.trace_ok traced
    have keys : rel.keyed = true → (∀ row ∈ fetched results rel.target,
        (row.cell rel.targetAlias).isKey = true) ∧
          ∀ row ∈ ts.map (·.row), (row.cell rel.sourceAlias).isKey = true := by
      intro keyed
      refine Row.join_keyed joined ?_
      rw [← Bool.not_or]
      exact congrArg (!·) keyed
    constructor
    · intro new member
      obtain ⟨t, listed, member⟩ := List.mem_flatMap.mp member
      exact (made t listed).step laid split.symm (heads rel.target target) (fun keyed =>
        ⟨(keys keyed).2 t.row (List.mem_map_of_mem listed), (keys keyed).1⟩) member
    · rw [List.pairwise_flatMap]
      refine ⟨fun t listed => joinOne_apart text (fresh t listed) (by simp), ?_⟩
      refine apart.imp_of_mem fun {t t'} listed listed' separate => ?_
      obtain ⟨name, merged, differ⟩ := separate
      intro new member new' member'
      have other : name ≠ rel.target := fun same => laid.fresh split.symm (same ▸ merged)
      refine ⟨name, ?_, ?_⟩
      · rw [List.map_append, ← List.cons_append]
        exact List.mem_append_left _ merged
      · rw [place?_joinOne text member other, place?_joinOne text member' other]
        exact differ

end Traced
end Datacube
