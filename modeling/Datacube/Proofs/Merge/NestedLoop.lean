import Datacube.Proofs.Merge.Columns

/-!
# The nested-loop join

What joining rows by an index comes to, said without an index: every row of the left side is put
together with each row of the right side that has its key, in order, and where the join keeps rows
without a match, one that has none gets nulls for the columns of the right side that it lacks.
-/

namespace Datacube

/-- Columns are texts, and no column stands in the row twice. -/
structure Row.Formed (row : Row) : Prop where
  texts : ∀ c ∈ row.keys, ∃ s, c = .text s
  once : row.keys.Nodup

namespace Row
variable {left right rows : List Row} {own theirs c : Value} {row other : Row} {type : String}

/-- Both rows in one: the columns of the first, with the values of the second where it has them,
then what only the second has. -/
def unite (row other : Row) : Row :=
  row.map (fun e => (e.1, (other.get? e.1).getD e.2)) ++ other.filter fun e => !row.has e.1

/-- The columns of any of the rows that a row lacks, each once. -/
def lacking (row : Row) (rows : List Row) : List Value :=
  (rows.flatMap Entries.keys).eraseDups.filter fun c => !row.has c

/-- Every row of the left side with those of the right side that it meets. -/
def nestedLoop (met : Row → Row → Bool) (keep : Bool) (left right : List Row) : List Row :=
  left.flatMap fun row =>
    match right.filter (met row) with
    | [] => if keep then [row ++ (row.lacking right).map (·, .null)] else []
    | found => found.map row.unite

/-! ## Unions -/

theorem Formed.cons {e : Value × Value} {rest : Row} (formed : Formed (e :: rest)) :
    Entries.Exact e.1 ∧ e.1 ∉ rest.keys ∧ rest.Formed := by
  obtain ⟨texts, once⟩ := formed
  rw [Entries.keys_cons, List.nodup_cons] at once
  obtain ⟨s, text⟩ := texts e.1 List.mem_cons_self
  exact ⟨text ▸ Entries.exact_text s, once.1,
    fun c member => texts c (List.mem_cons_of_mem _ member), once.2⟩

theorem Formed.exact (formed : row.Formed) {e : Value × Value} (member : e ∈ row) :
    Entries.Exact e.1 := by
  obtain ⟨s, text⟩ := formed.texts e.1 (List.mem_map_of_mem member)
  exact text ▸ Entries.exact_text s

theorem put_known {k v : Value} (exact : Entries.Exact k) (formed : row.Formed)
    (known : k ∈ row.keys) :
    row.put k v = row.map fun e => (e.1, if k == e.1 then v else e.2) := by
  induction row with
  | nil => cases known
  | cons e rest ih =>
      obtain ⟨-, fresh, later⟩ := formed.cons
      rw [Entries.put, List.map_cons]
      split
      · rename_i here
        have same := (exact e.1).mp here
        -- No later column is the one that is put.
        have kept : rest.map (fun e => (e.1, if k == e.1 then v else e.2)) = rest := by
          refine (List.map_congr_left fun e' member => ?_).trans (List.map_id rest)
          have apart : ¬ (k == e'.1) = true := by
            rw [exact e'.1]
            rintro rfl
            exact fresh (same ▸ List.mem_map_of_mem member)
          rw [if_neg apart]
          rfl
        rw [kept]
      · rename_i apart
        have differs : k ≠ e.1 := fun same => apart ((exact e.1).mpr same)
        rw [ih later ((List.mem_cons.mp known).resolve_left differs)]

theorem has_map {f : Value × Value → Value} (row : Row) (c : Value) :
    Entries.has (row.map fun e => (e.1, f e)) c = row.has c := by
  rw [Entries.has, Entries.has]
  induction row with
  | nil => rfl
  | cons e rest ih =>
      rw [List.map_cons, Entries.get?_cons, Entries.get?_cons]
      split
      · rfl
      · exact ih

theorem unite_put {e : Value × Value} {rest : Row} (formed : row.Formed)
    (formed' : Formed (e :: rest)) : unite (row.put e.1 e.2) rest = row.unite (e :: rest) := by
  obtain ⟨exact, fresh, later⟩ := formed'.cons
  have absent : rest.get? e.1 = none := (Entries.get?_eq_none exact).mpr fresh
  by_cases known : e.1 ∈ row.keys
  · have held : row.has e.1 = true := (Entries.has_iff exact).mpr known
    rw [put_known exact formed known, unite, unite, List.map_map, List.filter_cons, held]
    congr 1
    · refine List.map_congr_left fun e' member => ?_
      rw [Function.comp_apply, Entries.get?_cons]
      by_cases here : e'.1 = e.1
      · rw [here, if_pos ((exact e.1).mpr rfl), absent, if_pos ((exact e.1).mpr rfl)]
        rfl
      · rw [if_neg (fun same => here ((formed.exact member e.1).mp same)),
          if_neg (fun same => here ((exact e'.1).mp same).symm)]
    · exact List.filter_congr fun e' _ => by rw [has_map]
  · have free : row.has e.1 = false := by
      rw [← Bool.not_eq_true, Entries.has_iff exact]
      exact known
    have apart : ∀ {e' : Value × Value}, e' ∈ row → ¬ (e'.1 == e.1) = true := by
      intro e' member same
      exact known ((formed.exact member e.1).mp same ▸ List.mem_map_of_mem member)
    rw [Entries.put_new exact known, unite, unite, List.map_append, List.map_singleton, absent,
      List.filter_cons, free, List.append_assoc]
    congr 1
    · refine List.map_congr_left fun e' member => ?_
      rw [Entries.get?_cons, if_neg (apart member)]
    · refine congrArg _ (List.filter_congr fun e' member => ?_)
      have differs : ¬ (e'.1 == e.1) = true := by
        intro same
        exact fresh ((later.exact member e.1).mp same ▸ List.mem_map_of_mem member)
      rw [Entries.has, Entries.get?, List.lookup_append, ← Entries.get?, ← Entries.get?,
        Entries.get?_cons, if_neg differs]
      simp [Entries.has]

theorem Formed.put {k v : Value} (formed : row.Formed) (exact : Entries.Exact k)
    (text : ∃ s, k = .text s) : Formed (row.put k v) where
  texts := by
    intro c member
    rcases (Entries.mem_keys_put exact).mp member with old | rfl
    · exact formed.texts c old
    · exact text
  once := Entries.nodup_keys_put exact formed.once

/-- Merging two rows gives their union. -/
theorem merge_eq_unite (formed : row.Formed) (formed' : other.Formed) :
    row.merge other = row.unite other := by
  induction other generalizing row with
  | nil => simp [merge, unite, Entries.putAll]
  | cons e rest ih =>
      obtain ⟨exact, -, later⟩ := formed'.cons
      have put := formed.put (v := e.2) exact (formed'.texts e.1 List.mem_cons_self)
      rw [← unite_put formed formed', ← ih put later]
      rfl

/-! ## Missing columns -/

theorem collect_eq (values acc : List Value) : values.foldl
    (fun acc column => if acc.contains column then acc else acc ++ [column]) acc.reverse =
      List.eraseDupsBy.loop (· == ·) values acc := by
  induction values generalizing acc with
  | nil => rfl
  | cons v rest ih =>
      rw [List.foldl_cons, List.eraseDupsBy.loop, List.contains_eq_any_beq, List.any_reverse]
      cases acc.any (v == ·) with
      | true => exact ih acc
      | false =>
          rw [← ih (v :: acc), List.reverse_cons]
          rfl

theorem columns_eq (rows : List Row) : columns rows = (rows.flatMap Entries.keys).eraseDups := by
  rw [columns, ← List.foldl_flatMap]
  exact collect_eq _ []

theorem nodup_collect {values acc : List Value} (texts : ∀ c ∈ values, ∃ s, c = .text s)
    (distinct : acc.Nodup) : (values.foldl
      (fun acc column => if acc.contains column then acc else acc ++ [column]) acc).Nodup := by
  induction values generalizing acc with
  | nil => exact distinct
  | cons v rest ih =>
      rw [List.foldl_cons]
      refine ih (fun c later => texts c (List.mem_cons_of_mem v later)) ?_
      split
      · exact distinct
      · rename_i new
        rw [Value.contains_iff (texts v List.mem_cons_self)] at new
        rw [← List.concat_eq_append]
        exact distinct.concat new

theorem nodup_columns (formed : ∀ other ∈ rows, other.Formed) : (columns rows).Nodup := by
  rw [columns, ← List.foldl_flatMap]
  refine nodup_collect (fun c member => ?_) List.nodup_nil
  obtain ⟨other, listed, inside⟩ := List.mem_flatMap.mp member
  exact (formed other listed).texts c inside

theorem pad_eq {added : List Value} (texts : ∀ c ∈ added, ∃ s, c = .text s)
    (distinct : added.Nodup) :
    row.pad added = row ++ (added.filter fun c => !row.has c).map (·, .null) := by
  induction added generalizing row with
  | nil => exact (List.append_nil row).symm
  | cons v rest ih =>
      rw [List.nodup_cons] at distinct
      have step : row.pad (v :: rest) = pad rest (row.putNew v .null) := rfl
      have later : ∀ c ∈ rest, ∃ s, c = .text s := fun c member =>
        texts c (List.mem_cons_of_mem v member)
      rw [step, ih later distinct.2, List.filter_cons, Entries.putNew]
      cases known : row.has v with
      | true => rfl
      | false =>
          have same : rest.filter (fun c => !Entries.has (row ++ [(v, .null)]) c) =
              rest.filter fun c => !row.has c := by
            refine List.filter_congr fun c member => ?_
            have apart : ¬ (c == v) = true := by
              obtain ⟨s, rfl⟩ := later c member
              rw [Entries.exact_text s v]
              rintro rfl
              exact distinct.1 member
            rw [Entries.has, Entries.get?, List.lookup_append, ← Entries.get?, ← Entries.get?,
              Entries.get?_cons, if_neg apart]
            simp [Entries.has]
          rw [if_neg Bool.false_ne_true, same]
          simp

theorem pad_columns (formed : ∀ other ∈ right, other.Formed) :
    row.pad (columns right) = row ++ (row.lacking right).map (·, .null) := by
  rw [pad_eq _ (nodup_columns formed), lacking, columns_eq]
  intro c member
  obtain ⟨other, listed, inside⟩ := mem_columns member
  exact (formed other listed).texts c inside

/-! ## Joins -/

theorem joinOne_eq (formed : row.Formed) (formed' : ∀ other ∈ right, other.Formed) (keep : Bool) :
    joinOne right own theirs keep row = match right.filter (meets own theirs row) with
      | [] => if keep then [row ++ (row.lacking right).map (·, .null)] else []
      | found => found.map row.unite := by
  have united : (right.filter (meets own theirs row)).map row.merge =
      (right.filter (meets own theirs row)).map row.unite :=
    List.map_congr_left fun other member =>
      merge_eq_unite formed (formed' other (List.mem_filter.mp member).1)
  rw [joinOne]
  generalize right.filter (meets own theirs row) = found at united
  cases found with
  | nil => rw [pad_columns formed']
  | cons => exact united

/-- Where all keys can be compared, a join on columns has a result. -/
theorem join_eq_ok (named : own.isKey = true) (named' : theirs.isKey = true)
    (keys : (!own.isTrue && !theirs.isTrue) = false →
      (∀ row ∈ left, (row.cell own).isKey = true) ∧
        ∀ other ∈ right, (other.cell theirs).isKey = true) (type : String) :
    join left right own theirs (.text type) =
      .ok (left.flatMap (joinOne right own theirs (Text.lower type == "left"))) := by
  refine Outcome.bind_eq_ok.mpr ⟨_, rfl, ?_⟩
  split
  · rename_i unnamed
    rw [product_eq unnamed]
    rfl
  · rename_i columns
    obtain ⟨keys, keys'⟩ := keys (Bool.eq_false_iff.mpr columns)
    have checked : (right.all (keyed theirs) && left.all (keyed own)) = true := by
      simp only [Bool.and_eq_true, List.all_eq_true, keyed, named, named', Bool.true_and]
      exact ⟨keys', keys⟩
    rw [if_pos checked, equiJoin_eq (Bool.eq_false_iff.mpr columns) keys' keys]
    rfl

theorem meets_iff {own theirs : String} (keys : ¬ (own = "" ∧ theirs = "") →
      (row.cell (.text own)).isKey = true ∧ (other.cell (.text theirs)).isKey = true) :
    meets (.text own) (.text theirs) row other = true ↔
      own = "" ∧ theirs = "" ∨
        Value.Links (row.cell (.text own)) (other.cell (.text theirs)) := by
  by_cases unnamed : own = "" ∧ theirs = ""
  · simp [meets, Value.isTrue, unnamed]
  · obtain ⟨key, key'⟩ := keys unnamed
    rw [Value.links_iff key key', meets, Bool.or_eq_true]
    simp [Value.isTrue]

/-- Joining by an index is joining by a nested loop. Two rows meet where their keys are one number
or one text, and all of them do where neither side names a column. -/
theorem join_eq_nestedLoop {own theirs : String} (formed : ∀ row ∈ left, row.Formed)
    (formed' : ∀ other ∈ right, other.Formed)
    (keys : ¬ (own = "" ∧ theirs = "") → ∀ row ∈ left, (row.cell (.text own)).isKey = true)
    (keys' : ¬ (own = "" ∧ theirs = "") →
      ∀ other ∈ right, (other.cell (.text theirs)).isKey = true) (type : String) :
    join left right (.text own) (.text theirs) (.text type) = .ok
      (nestedLoop (meets (.text own) (.text theirs)) (Text.lower type == "left") left right) ∧
    ∀ row ∈ left, ∀ other ∈ right, meets (.text own) (.text theirs) row other = true ↔
      own = "" ∧ theirs = "" ∨
        Value.Links (row.cell (.text own)) (other.cell (.text theirs)) := by
  refine ⟨?_, fun row member other member' => meets_iff fun named =>
    ⟨keys named row member, keys' named other member'⟩⟩
  rw [join_eq_ok rfl rfl, nestedLoop, List.flatMap_def, List.flatMap_def]
  · refine congrArg _ (congrArg _ (List.map_congr_left fun row member => ?_))
    exact joinOne_eq (formed row member) formed' _
  · intro columns
    have named : ¬ (own = "" ∧ theirs = "") := by
      rintro ⟨rfl, rfl⟩
      cases columns
    exact ⟨keys named, keys' named⟩

/-- Orders with the same customer written in three ways, with none and without the column. -/
def placed : List Row :=
  [[("customer", .int 1), ("total", .int 5)], [("customer", .bool true), ("name", "Eve")],
    [("customer", .null)], [("total", .int 7)], [("customer", .float 2.0)]]

/-- Customers, of whom one stands there twice and one has no key. -/
def known : List Row :=
  [[("id", .float 1.0), ("name", "Ada")], [("id", .null), ("age", .int 30)],
    [("id", .int 1), ("town", "Rome")]]

theorem join_eq_nestedLoop_left :
    join placed known "customer" "id" "LEFT" = .ok
      (nestedLoop (meets "customer" "id") (Text.lower "LEFT" == "left") placed known) ∧
    ∀ row ∈ placed, ∀ other ∈ known, meets "customer" "id" row other = true ↔
      "customer" = "" ∧ "id" = "" ∨ Value.Links (row.cell "customer") (other.cell "id") := by
  refine join_eq_nestedLoop (fun row member => ?_) (fun row member => ?_) (fun _ => ?_)
    (fun _ => ?_) "LEFT"
  · simp only [placed, List.mem_cons, List.not_mem_nil, or_false] at member
    rcases member with rfl | rfl | rfl | rfl | rfl <;> exact ⟨by simp, by simp⟩
  · simp only [known, List.mem_cons, List.not_mem_nil, or_false] at member
    rcases member with rfl | rfl | rfl <;> exact ⟨by simp, by simp⟩
  · exact List.all_eq_true.mp (by decide +kernel : placed.all fun row =>
      (row.cell "customer").isKey)
  · exact List.all_eq_true.mp (by decide +kernel : known.all fun row =>
      (row.cell "id").isKey)

end Row
end Datacube
