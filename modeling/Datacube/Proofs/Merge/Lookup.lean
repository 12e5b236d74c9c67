import Datacube.Proofs.Merge.NestedLoop

/-!
# Left joins on unique keys

Where no key but null stands twice in the key column of the right side, a left join looks every row
of the left side up: the row gets the columns of the one row with its key, or nulls in them. So
merging tables along such joins gives one row for each row of the primary table, in their order, and
changes no column that only the primary table has.
-/

namespace Datacube

namespace Row
variable {left right rows : List Row} {own theirs column : Value} {row other : Row} {s : String}

/-- No key but null stands in a column twice. -/
def Unique (column : Value) (rows : List Row) : Prop :=
  rows.Pairwise fun row other =>
    (row.cell column).isNull = false → (row.cell column == other.cell column) = false

instance (column : Value) (rows : List Row) : Decidable (Unique column rows) :=
  inferInstanceAs (Decidable (List.Pairwise _ rows))

/-- The row in one with the first row of the other side that it meets, or with nulls in the columns
of the other side where it meets none. -/
def lookUp (right : List Row) (own theirs : Value) (row : Row) : Row :=
  match right.find? (row.meets own theirs) with
  | some other => row.merge other
  | none => row.pad (columns right)

theorem filter_eq_find? {α : Type} {test : α → Bool} {items : List α}
    (once : items.Pairwise fun x y => test x = true → test y = false) :
    items.filter test = (items.find? test).toList := by
  induction once with
  | nil => rfl
  | cons first _ ih =>
      rw [List.filter_cons, List.find?_cons]
      split
      · rename_i here
        rw [here, Option.toList_some, List.filter_eq_nil_iff.mpr]
        intro y later
        simp [first y later here]
      · rename_i away
        rw [Bool.eq_false_iff.mpr away]
        exact ih

/-- Of rows with unique keys a row meets one at most. -/
theorem joinOne_unique (named : (!own.isTrue && !theirs.isTrue) = false)
    (unique : Unique theirs right) (keys : ∀ other ∈ right, (other.cell theirs).isKey = true)
    (key : (row.cell own).isKey = true) :
    joinOne right own theirs true row = [row.lookUp right own theirs] := by
  have once : right.Pairwise fun first second =>
      row.meets own theirs first = true → row.meets own theirs second = false := by
    refine List.Pairwise.imp_of_mem (fun {first second} listed listed' apart meets => ?_) unique
    simp only [Row.meets, named, Bool.false_or, Bool.and_eq_true, Bool.not_eq_true'] at meets
    obtain ⟨⟨-, set⟩, equal⟩ := meets
    rw [← Bool.not_eq_true]
    intro also
    simp only [Row.meets, named, Bool.false_or, Bool.and_eq_true, Bool.not_eq_true'] at also
    have same := Value.same_trans (keys first listed) key
      (Value.same_symm key (keys first listed) equal) also.2
    exact absurd same (Bool.eq_false_iff.mp (apart set))
  rw [joinOne, filter_eq_find? once, lookUp]
  cases right.find? (row.meets own theirs) <;> rfl

/-- A left join on unique keys looks every row up; it fails where a key cannot be compared. -/
theorem join_unique (key : own.isKey = true) (key' : theirs.isKey = true)
    (named : (!own.isTrue && !theirs.isTrue) = false) (unique : Unique theirs right)
    {type : String} (kind : Text.lower type = "left") :
    join left right own theirs (.text type) =
      if right.all (keyed theirs) && left.all (keyed own) then
        .ok (left.map (lookUp right own theirs))
      else fail .wrongType := by
  split
  · rename_i checked
    simp only [Bool.and_eq_true, List.all_eq_true, keyed] at checked
    have keys := fun other member => (checked.1 other member).2
    have keys' := fun row member => (checked.2 row member).2
    rw [join_eq_ok key key' (fun _ => ⟨keys', keys⟩), kind, List.map_eq_flatMap,
      List.flatMap_def, List.flatMap_def]
    refine congrArg (Except.ok ∘ List.flatten) (List.map_congr_left fun row member => ?_)
    exact joinOne_unique named unique keys (keys' row member)
  · rename_i unchecked
    simp only [join, keepsUnmatched, named, unchecked]
    rfl

/-! ## Columns that a row keeps -/

theorem get?_put_text {key v : Value} (apart : key ≠ .text s) :
    Entries.get? (row.put key v) (.text s) = row.get? (.text s) := by
  induction row with
  | nil =>
      have differs : ¬ (Value.text s == key) = true := fun same =>
        apart ((Value.same_text s key).mp same).symm
      rw [Entries.put, Entries.get?_cons, if_neg differs]
  | cons e rest ih =>
      rw [Entries.put]
      split
      · rename_i known
        have differs : ¬ (Value.text s == e.1) = true := by
          intro same
          rw [← (Value.same_text s e.1).mp same, Value.beq_text] at known
          exact apart known
        rw [Entries.get?_cons, Entries.get?_cons, if_neg differs, if_neg differs]
      · rw [Entries.get?_cons, Entries.get?_cons, ih]

theorem get?_merge_text (absent : .text s ∉ other.keys) :
    (row.merge other).get? (.text s) = row.get? (.text s) := by
  rw [merge, Entries.putAll]
  induction other generalizing row with
  | nil => rfl
  | cons e rest ih =>
      rw [Entries.keys_cons, List.mem_cons, not_or] at absent
      rw [List.foldl_cons, ih absent.2, get?_put_text fun same => absent.1 same.symm]

theorem get?_pad_text {added : List Value} (absent : .text s ∉ added) :
    (row.pad added).get? (.text s) = row.get? (.text s) := by
  rw [pad]
  induction added generalizing row with
  | nil => rfl
  | cons column rest ih =>
      rw [List.mem_cons, not_or] at absent
      rw [List.foldl_cons, ih absent.2, Entries.putNew]
      split
      · rfl
      · have differs : ¬ (Value.text s == column) = true := fun same =>
          absent.1 ((Value.same_text s column).mp same)
        rw [Entries.get?, List.lookup_append, ← Entries.get?, ← Entries.get?, Entries.get?_cons,
          if_neg differs, Entries.get?_nil, Option.or_none]

theorem get?_lookUp (absent : ∀ other ∈ right, .text s ∉ other.keys) :
    (row.lookUp right own theirs).get? (.text s) = row.get? (.text s) := by
  rw [lookUp]
  split
  · rename_i other found
    exact get?_merge_text (absent other (List.mem_of_find?_eq_some found))
  · refine get?_pad_text fun listed => ?_
    obtain ⟨other, member, inside⟩ := mem_columns listed
    exact absent other member inside

end Row

/-- A left join on a column of each side. -/
structure JoinRelation.LooksUp (r : JoinRelation) : Prop where
  sourceAlias : ∃ s, s ≠ "" ∧ r.sourceAlias = .text s
  targetAlias : ∃ s, s ≠ "" ∧ r.targetAlias = .text s
  type : ∃ s, Text.lower s = "left" ∧ r.type = .text s

namespace MergeStep
variable {relations : List JoinRelation} {r : JoinRelation} {primary : Value} {rows : List Row}
  {row : Row} {results : Entries Value (List Row)} {s : String}

def rowsOf (results : Entries Value (List Row)) (table : Value) : List Row :=
  (results.get? table).getD []

/-- The row as the merge along a relation leaves it. -/
def widen (results : Entries Value (List Row)) (row : Row) (r : JoinRelation) : Row :=
  row.lookUp (rowsOf results r.target) r.sourceAlias r.targetAlias

/-- Every key that the merges along some relations compare is one: those of the tables, and those of
the merged rows as each merge finds them. -/
def keysCompare (results : Entries Value (List Row)) : List JoinRelation → List Row → Bool
  | [], _ => true
  | r :: rest, rows =>
    (rowsOf results r.target).all (Row.keyed r.targetAlias) &&
      rows.all (Row.keyed r.sourceAlias) &&
      keysCompare results rest (rows.map (widen results · r))

/-- A merge along a left join on unique keys looks every merged row up. -/
theorem apply_unique (looksUp : r.LooksUp)
    (unique : Row.Unique r.targetAlias (rowsOf results r.target)) (rows : List Row) :
    apply results rows (forward r) =
      if (rowsOf results r.target).all (Row.keyed r.targetAlias) &&
          rows.all (Row.keyed r.sourceAlias) then
        .ok (rows.map (widen results · r))
      else fail .wrongType := by
  obtain ⟨⟨own, set, source⟩, ⟨theirs, -, target⟩, type, kind, left⟩ := looksUp
  rw [target] at unique
  have named : (!(Value.text own).isTrue && !(Value.text theirs).isTrue) = false := by
    simp [Value.isTrue, set]
  simp only [apply, forward, widen, left, source, target]
  exact Row.join_unique rfl rfl named unique kind

theorem foldlM_unique (looksUp : ∀ r ∈ relations, r.LooksUp)
    (unique : ∀ r ∈ relations, Row.Unique r.targetAlias (rowsOf results r.target))
    (rows : List Row) : (relations.map forward).foldlM (apply results) rows =
      if keysCompare results relations rows then
        .ok (rows.map fun row => relations.foldl (widen results) row)
      else fail .wrongType := by
  induction relations generalizing rows with
  | nil =>
      rw [keysCompare, if_pos rfl]
      exact congrArg Except.ok (List.map_id rows).symm
  | cons r rest ih =>
      rw [List.forall_mem_cons] at looksUp unique
      rw [List.map_cons, List.foldlM_cons, apply_unique looksUp.1 unique.1, keysCompare]
      cases (rowsOf results r.target).all (Row.keyed r.targetAlias) &&
          rows.all (Row.keyed r.sourceAlias) with
      | false => rfl
      | true =>
          refine (ih looksUp.2 unique.2 (rows.map (widen results · r))).trans ?_
          rw [List.map_map, Bool.true_and]
          rfl

theorem get?_widened (absent : ∀ r ∈ relations, ∀ other ∈ rowsOf results r.target,
      .text s ∉ other.keys) :
    (relations.foldl (widen results) row).get? (.text s) = row.get? (.text s) := by
  induction relations generalizing row with
  | nil => rfl
  | cons r rest ih =>
      rw [List.forall_mem_cons] at absent
      rw [List.foldl_cons, ih absent.2, widen, Row.get?_lookUp absent.1]

/-- Merging along left joins on unique keys gives a row for each row of the primary table, in their
order, with what each table has for it, and keeps the columns that no other table has. It fails
exactly where a key that a merge compares is none. -/
theorem mergeResults_unique (ordered : Ordered [primary] relations)
    (looksUp : ∀ r ∈ relations, r.LooksUp)
    (unique : ∀ r ∈ relations, Row.Unique r.targetAlias (rowsOf results r.target)) :
    mergeResults primary relations results =
      (if keysCompare results relations (rowsOf results primary) then
        .ok ((rowsOf results primary).map fun row => relations.foldl (widen results) row)
      else fail .wrongType) ∧
    ∀ row ∈ rowsOf results primary, ∀ s : String,
      (∀ r ∈ relations, ∀ other ∈ rowsOf results r.target, .text s ∉ other.keys) →
        (relations.foldl (widen results) row).get? (.text s) = row.get? (.text s) := by
  refine ⟨?_, fun row _ s absent => get?_widened absent⟩
  rw [mergeResults_ordered ordered]
  exact foldlM_unique looksUp unique (rowsOf results primary)

/-- Stays are joined with guests, guests with countries and stays with rooms. -/
def visits : List JoinRelation :=
  [⟨"stays->guests", "stays", "guests", "left", "guest", "id"⟩,
    ⟨"guests->countries", "guests", "countries", "LEFT", "country", "code"⟩,
    ⟨"stays->rooms", "stays", "rooms", "left", "room", "room"⟩]

/-- Two guests have no key, one stay has a guest that is not known, and rooms give nights too. -/
def booked : Entries Value (List Row) :=
  [("stays", [[("guest", .bool true), ("nights", .int 2), ("room", "a")],
      [("guest", .null), ("nights", .int 5)], [("guest", .int 9), ("paid", .int 30)]]),
    ("guests", [[("id", .null), ("name", "Ann")], [("id", .float 1.0), ("country", "x")],
      [("id", .null)], [("id", .int 3), ("country", "y")]]),
    ("countries", [[("code", "y")], [("code", "x"), ("name", "Xenia")]]),
    ("rooms", [[("room", "b"), ("nights", .null)], [("room", "a"), ("nights", .int 1)]])]

theorem mergeResults_unique_booked : Ordered ["stays"] visits ∧ (∀ r ∈ visits, r.LooksUp) ∧
    (∀ r ∈ visits, Row.Unique r.targetAlias (rowsOf booked r.target)) ∧
    keysCompare booked visits (rowsOf booked "stays") = true ∧
    mergeResults "stays" visits booked =
      (if keysCompare booked visits (rowsOf booked "stays") then
        .ok ((rowsOf booked "stays").map fun row => visits.foldl (widen booked) row)
      else fail .wrongType) ∧
    ∀ row ∈ rowsOf booked "stays", ∀ s : String,
      (∀ r ∈ visits, ∀ other ∈ rowsOf booked r.target, .text s ∉ other.keys) →
        (visits.foldl (widen booked) row).get? (.text s) = row.get? (.text s) := by
  have ordered : Ordered ["stays"] visits := ⟨rfl, rfl, rfl, rfl, rfl, rfl, trivial⟩
  have looksUp : ∀ r ∈ visits, r.LooksUp := by
    intro r member
    simp only [visits, List.mem_cons, List.not_mem_nil, or_false] at member
    rcases member with rfl | rfl | rfl <;>
      exact ⟨⟨_, by decide, rfl⟩, ⟨_, by decide, rfl⟩, ⟨_, by decide +kernel, rfl⟩⟩
  have unique : ∀ r ∈ visits, Row.Unique r.targetAlias (rowsOf booked r.target) := by
    decide +kernel
  exact ⟨ordered, looksUp, unique, by decide +kernel,
    mergeResults_unique ordered looksUp unique⟩

def packed : List JoinRelation := [⟨"boxes->labels", "boxes", "labels", "left", "code", "code"⟩]

def codes : Entries Value (List Row) :=
  [("boxes", [[("code", .list [.int 1])]]), ("labels", [[("code", .list [.int 1])]])]

/-- A list is no key that rows can be joined on, though it be unique. -/
theorem mergeResults_packed : Ordered ["boxes"] packed ∧ (∀ r ∈ packed, r.LooksUp) ∧
    (∀ r ∈ packed, Row.Unique r.targetAlias (rowsOf codes r.target)) ∧
    ∀ rows, mergeResults "boxes" packed codes ≠ .ok rows := by
  have ordered : Ordered ["boxes"] packed := ⟨rfl, rfl, trivial⟩
  refine ⟨ordered, ?_, by decide +kernel, fun rows merged => ?_⟩
  · intro r member
    rw [List.mem_singleton.mp member]
    exact ⟨⟨_, by decide, rfl⟩, ⟨_, by decide, rfl⟩, ⟨_, by decide +kernel, rfl⟩⟩
  · rw [mergeResults_ordered ordered] at merged
    cases merged

end MergeStep
end Datacube
