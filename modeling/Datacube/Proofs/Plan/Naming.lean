import Datacube.Proofs.Plan.Completeness
import Datacube.Proofs.Plan.KeySources
import Datacube.Proofs.Plan.Selections
import Datacube.Proofs.Text.Parts

/-!
# The names of selections

Dimensions and metrics are selected under names that a request gives. Key columns and the partial
results of averages get names of two parts. Where requested names differ and are stems, and so are
the names of tables, a name tells what is selected under it.
-/

namespace Datacube

namespace Planner
open Text
variable {p : Planner} {r : Resolved} {k : MergeKeys} {tables : Entries String Table}
  {dimensions : List Dimension} {joins : List JoinStep} {identifier other : String}
  {s s' : Selection} {n : PartedName} {a b : Aggregation} {name : String} {v : Value}

/-- What stands before the column in the aliases of the key columns of a table. -/
def keyStem (tables : Entries String Table) (identifier : String) : String :=
  substitute ':' '_' (nameAmong tables identifier).toText

theorem keyAlias_ok (named : keyAlias (nameAmong tables identifier) v = .ok name) :
    name = PartedName.text ⟨keyStem tables identifier, some v.toText⟩ := by
  simp only [keyAlias, Outcome.bind_eq_ok, Outcome.pure_eq_ok] at named
  obtain ⟨written, only, rfl⟩ := named
  cases known : nameAmong tables identifier with
  | text s =>
      rw [known] at only
      rw [PartedName.text, keyStem, known, ← Except.ok.inj only]
      rfl
  | _ =>
      rw [known] at only
      cases only

/-- The names that a request chooses are stems, and so are those of the tables before key columns. No
two of either are the same, but for a dimension that is requested twice, and no average bears the
name of a table. -/
structure WellNamed (dimensions : List Dimension) (aggregations : Entries Value Aggregation)
    (tables : Entries String Table) : Prop where
  groups : ∀ d ∈ dimensions, ∀ d' ∈ dimensions, d.aliasName = d'.aliasName → d = d'
  metrics : ∀ d ∈ dimensions, d.aliasName ∉ aggregations.keys
  requested : ∀ name, .text name ∈ dimensions.map (·.aliasName) ++ aggregations.keys → Stem name
  stems : ∀ identifier ∈ tables.keys, Stem (keyStem tables identifier)
  distinct : (tables.keys.map (keyStem tables)).Nodup
  averages : ∀ e ∈ aggregations, e.2.kind = .avg →
    ∀ identifier ∈ tables.keys, e.1 ≠ .text (keyStem tables identifier)

theorem WellNamed.stem {aggregations : Entries Value Aggregation}
    (named : WellNamed dimensions aggregations tables)
    (texts : ∀ d ∈ dimensions, ∃ name, d.aliasName = .text name) {d : Dimension}
    (requested : d ∈ dimensions) : ∃ name, d.aliasName = .text name ∧ Stem name := by
  obtain ⟨name, text⟩ := texts d requested
  refine ⟨name, text, named.requested name (List.mem_append_left _ ?_)⟩
  exact List.mem_map.mpr ⟨d, requested, text⟩

/-! ## Partial results -/

/-- The part that the name of a partial result has: none unless it is one of an average. -/
def partialPart (a part : Aggregation) : Option String :=
  if a.kind = .avg then some part.kind.name else none

theorem partial_named (listed : b ∈ partials a) (text : a.aliasName = .text name) :
    b.aliasName = .text (PartedName.text ⟨name, partialPart a b⟩) := by
  rw [partials] at listed
  rw [partialPart]
  split
  · rename_i average
    rw [if_pos average] at listed
    simp only [Aggregation.partialAliases, text, List.mem_cons, List.not_mem_nil, or_false]
      at listed
    rcases listed with rfl | rfl
    · rw [aliasName_partial .sum _ _ (by decide)]
      simp [PartedName.text, AggregationKind.name, Value.toText, String.append_assoc]
    · rw [aliasName_partial .count _ _ (by decide)]
      simp [PartedName.text, AggregationKind.name, Value.toText, String.append_assoc]
  · rename_i single
    rw [if_neg single] at listed
    rw [List.mem_singleton.mp listed, text]
    rfl

theorem partial_unique {b' : Aggregation} (listed : b ∈ partials a) (listed' : b' ∈ partials a)
    (same : partialPart a b = partialPart a b') : b = b' := by
  rw [partials] at listed listed'
  rw [partialPart, partialPart] at same
  split at listed
  · rename_i average
    rw [if_pos average] at listed'
    rw [if_pos average, if_pos average, Option.some.injEq] at same
    simp only [List.mem_cons, List.not_mem_nil, or_false] at listed listed'
    rcases listed with rfl | rfl <;> rcases listed' with rfl | rfl
    · rfl
    · simp [AggregationKind.name] at same
    · simp [AggregationKind.name] at same
    · rfl
  · rename_i single
    rw [if_neg single] at listed'
    rw [List.mem_singleton.mp listed, List.mem_singleton.mp listed']

/-! ## Origins -/

/-- What a table selects under a name. -/
inductive Origin (r : Resolved) (k : MergeKeys) (tables : Entries String Table)
    (identifier : String) (n : PartedName) : Selection → Prop where
  | dimension {b : BoundDimension} (requested : b ∈ r.dimensions ∧ b.table.identifier = identifier ∨
        b ∈ (k.dimensions.get? identifier).getD [])
      (text : b.aliasName = .text n.stem) (whole : n.part? = none) :
      Origin r k tables identifier n (.dimension b)
  | column {name : String} {v : Value} (key : (name, v) ∈ (k.columns.get? identifier).getD [])
      (stem : n.stem = keyStem tables identifier) (part : n.part? = some v.toText) :
      Origin r k tables identifier n (.column name v)
  | result {e : Value × Aggregation} {a : Aggregation} (metric : e ∈ metricsOf r identifier)
      (listed : a ∈ partials e.2) (text : e.1 = .text n.stem)
      (part : n.part? = partialPart e.2 a) : Origin r k tables identifier n (.result a)

section Names
variable (named : WellNamed dimensions r.aggregations tables) (measured : r.Measured)
  (sourced : Sourced tables r.dimensions joins k)
  (texts : ∀ d ∈ dimensions, ∃ name, d.aliasName = .text name)
  (bound : ∀ b ∈ r.dimensions, b.dimension ∈ dimensions)
include sourced bound

theorem requested_of_selected {b : BoundDimension}
    (selected : b ∈ r.dimensions ∧ b.table.identifier = identifier ∨
      b ∈ (k.dimensions.get? identifier).getD []) : b.dimension ∈ dimensions := by
  rcases selected with ⟨own, -⟩ | shared
  · exact bound b own
  · obtain ⟨s, -, keyed⟩ := sourced.keyedBy identifier b shared
    obtain ⟨d, found, same⟩ := keyed.requested
    rw [same]
    exact bound d (List.mem_of_find?_eq_some found)

include named measured texts

/-- Everything that a table selects has an origin, whose name it bears. -/
theorem selections_origin (known : identifier ∈ tables.keys)
    (selected : s ∈ selections r k identifier) :
    ∃ n, Origin r k tables identifier n s ∧ s.aliasName = .text n.text ∧ Stem n.stem := by
  have origin : ∀ b : BoundDimension, (b ∈ r.dimensions ∧ b.table.identifier = identifier ∨
      b ∈ (k.dimensions.get? identifier).getD []) → ∃ n,
        Origin r k tables identifier n (.dimension b) ∧
          (Selection.dimension b).aliasName = .text n.text ∧ Stem n.stem := by
    intro b selected
    obtain ⟨name, text, stem⟩ :=
      named.stem texts (requested_of_selected sourced bound selected)
    exact ⟨⟨name, none⟩, .dimension selected text rfl, text, stem⟩
  simp only [selections, List.mem_append, List.mem_map] at selected
  rcases selected with ((⟨b, own, rfl⟩ | ⟨b, shared, rfl⟩) | ⟨⟨name, v⟩, key, rfl⟩) | ⟨a, part, rfl⟩
  · obtain ⟨requested, here⟩ := List.mem_filter.mp own
    exact origin b (.inl ⟨requested, beq_iff_eq.mp here⟩)
  · exact origin b (.inr shared)
  · exact ⟨⟨keyStem tables identifier, some v.toText⟩, .column key rfl rfl,
      congrArg Value.text (keyAlias_ok (sourced.aliased identifier _ key)),
      named.stems identifier known⟩
  · obtain ⟨e, metric, listed⟩ := List.mem_flatMap.mp part
    have member := (List.mem_filter.mp metric).1
    obtain ⟨same, name, text⟩ := measured.named e member
    refine ⟨⟨name, partialPart e.2 a⟩, .result metric listed text rfl,
      partial_named listed (same ▸ text), named.requested name ?_⟩
    exact List.mem_append_right _ (List.mem_map.mpr ⟨e, member, text⟩)

/-- What two tables select under one alias is one selection of one table, or one dimension. -/
theorem selections_apart (known : identifier ∈ tables.keys) (known' : other ∈ tables.keys)
    (selected : s ∈ selections r k identifier) (selected' : s' ∈ selections r k other)
    (same : (s.aliasName == s'.aliasName) = true) : identifier = other ∧ s = s' ∨
      ∃ b b', s = .dimension b ∧ s' = .dimension b' ∧ b.dimension = b'.dimension := by
  obtain ⟨n, origin, written, stem⟩ :=
    selections_origin named measured sourced texts bound known selected
  obtain ⟨n', origin', written', stem'⟩ :=
    selections_origin named measured sourced texts bound known' selected'
  rw [written, written', Value.beq_text, Value.text.injEq] at same
  obtain rfl := PartedName.text_injective stem stem' same
  have clash : ∀ {b : BoundDimension} {e : Value × Aggregation}, b.dimension ∈ dimensions →
      b.aliasName = .text n.stem → e ∈ r.aggregations → e.1 = .text n.stem → False := by
    intro b e requested text member text'
    refine named.metrics b.dimension requested (List.mem_map.mpr ⟨e, member, ?_⟩)
    rw [text']
    exact text.symm
  have average : ∀ {e : Value × Aggregation} {a : Aggregation} {id : String},
      e ∈ r.aggregations → id ∈ tables.keys → n.stem = keyStem tables id →
        e.1 = .text n.stem → partialPart e.2 a ≠ none → False := by
    intro e a id member inside table text part
    have kind : e.2.kind = .avg := by
      by_contra single
      exact part (if_neg single)
    exact named.averages e member kind id inside (table ▸ text)
  cases origin with
  | @dimension b here text whole =>
      have requested := requested_of_selected sourced bound here
      cases origin' with
      | @dimension b' here' text' =>
          have requested' := requested_of_selected sourced bound here'
          exact .inr ⟨b, b', rfl, rfl,
            named.groups _ requested _ requested' (text.trans text'.symm)⟩
      | column _ _ part => simp [whole] at part
      | result metric _ text' =>
          exact (clash requested text (List.mem_filter.mp metric).1 text').elim
  | @column name v key table part =>
      cases origin' with
      | dimension _ _ whole => simp [whole] at part
      | column key' table' part' =>
          have one : identifier = other := List.inj_on_of_nodup_map named.distinct known known'
            (table.symm.trans table')
          subst one
          obtain rfl := Value.text.inj (written.trans written'.symm)
          have entries := List.inj_on_of_nodup_map (sourced.distinct identifier) key key' rfl
          rw [(Prod.mk.inj entries).2]
          exact .inl ⟨rfl, rfl⟩
      | result metric listed text part' =>
          exact (average (List.mem_filter.mp metric).1 known table text
            (by rw [← part', part]; exact nofun)).elim
  | @result e a metric listed text part =>
      obtain ⟨member, owner⟩ := List.mem_filter.mp metric
      cases origin' with
      | dimension here text' =>
          exact (clash (requested_of_selected sourced bound here) text' member text).elim
      | column _ table' part' =>
          exact (average member known' table' text (by rw [← part, part']; exact nofun)).elim
      | @result e' a' metric' listed' text' part' =>
          obtain ⟨member', owner'⟩ := List.mem_filter.mp metric'
          obtain rfl := List.inj_on_of_nodup_map measured.distinct member member'
            (text.trans text'.symm)
          obtain rfl := partial_unique listed listed' (part.symm.trans part')
          obtain ⟨source, from'⟩ := measured.sourced e member
          simp only [from', Option.any_some, beq_iff_eq] at owner owner'
          exact .inl ⟨owner.symm.trans owner', rfl⟩

end Names
end Planner
end Datacube
