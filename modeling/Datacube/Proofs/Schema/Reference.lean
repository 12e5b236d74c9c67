import Datacube.Metric.Aggregation
import Datacube.Proofs.Schema.Lookup

/-!
# References to columns

An aggregation cuts its reference at the last point, and the registry cuts it at the first one and
has no provider where nothing stands in front of the colon. The two agree on the table and the
column exactly where the column that the registry finds holds no point and the provider is not
empty.
-/

namespace Datacube
open Text
open PathFinder (belonging)

/-- The table of an aggregation, with the provider in front where the reference has one. -/
def Aggregation.tableReference (a : Aggregation) : String :=
  match a.provider? with
  | some provider => provider ++ ":" ++ a.table
  | none => a.table

/-! ## Cutting -/

namespace Aggregation
variable {a : Aggregation} {kind : AggregationKind} {reference front column : String}

theorem reference_of_make (accepted : make kind (.text reference) = .ok a) :
    a.reference = reference := by
  simp only [make] at accepted
  split at accepted
  · rw [← Except.ok.inj accepted]
  · cases accepted

theorem splitReference_eq (a : Aggregation) :
    Registry.splitReference a.reference = (a.provider?, a.localReference) := by
  rw [Registry.splitReference, provider?, localReference]
  cases splitFirst? ':' a.reference <;> rfl

theorem column?_iff (whole : a.localReference = front ++ "." ++ column) :
    a.column? = some column ↔ '.' ∉ column.toList := by
  have letters : a.localReference.toList = front.toList ++ '.' :: column.toList := by simp [whole]
  constructor
  · intro same
    obtain ⟨⟨before, after⟩, cut, rfl⟩ := Option.map_eq_some_iff.mp same
    exact (splitLast?_ok cut).2
  · intro single
    rw [column?, splitLast?_append single letters]
    rfl

theorem table_eq (whole : a.localReference = front ++ "." ++ column)
    (single : '.' ∉ column.toList) : a.table = front := by
  have letters : a.localReference.toList = front.toList ++ '.' :: column.toList := by simp [whole]
  rw [table, splitLast?_append single letters]

end Aggregation

/-! ## Sources -/

namespace Source
variable {s : Source} {name reference : String} {t : Table} {source : MetricSource}

theorem startsWith_tag (s : Source) (name : String) : startsWith s.tag (s.tag ++ name) = true := by
  rw [startsWith, String.toList_append, dropStart?_append]
  rfl

theorem localName_tag (s : Source) (name : String) : s.localName (s.tag ++ name) = name := by
  rw [localName, withoutStart, String.toList_append, dropStart?_append]
  exact String.ofList_toList

theorem localName_cases (s : Source) (reference : String) :
    s.localName reference = reference ∨ reference = s.tag ++ s.localName reference := by
  rw [localName, withoutStart]
  cases dropped : dropStart? s.tag.toList reference.toList with
  | none => exact .inl rfl
  | some rest =>
      refine .inr (String.toList_injective ?_)
      rw [prefix_of_dropStart? dropped, String.toList_append, String.toList_ofList]

theorem table_of_named (found : s.named? (s.localName reference) = some t) :
    s.table reference = .ok t := by
  rw [table, found]

theorem localName_named (found : s.table reference = .ok t) :
    s.named? (s.localName reference) = some t := by
  rw [table] at found
  split at found
  · rename_i named
    rw [named, Except.ok.inj found]
  · cases found

section Sound
variable (sound : s.Sound)
include sound

theorem Sound.bare (found : s.named? name = some t) : ':' ∉ name.toList := by
  obtain ⟨own, text, bare⟩ := sound.plain t (Registry.mem_of_named? found)
  rw [Registry.name_of_named? found, Value.text.injEq] at text
  exact text ▸ bare

/-- A name leads to its table with and without the provider in front. -/
theorem Sound.provides_named (found : s.named? name = some t) :
    (s.provides name = true ∧ s.table name = .ok t) ∧
      s.provides (s.tag ++ name) = true ∧ s.table (s.tag ++ name) = .ok t := by
  have bare := sound.bare found
  refine ⟨⟨?_, ?_⟩, ?_, ?_⟩
  · rw [provides_bare bare, found]
    rfl
  · rw [table_bare bare, found]
  · simp [provides, sound.indexed, isForeign, startsWith_tag, localName_tag, found]
  · exact table_of_named (by rw [localName_tag, found])

/-- The column begins behind the name of its table, before which the provider may stand. -/
theorem Sound.metricSource_cut (found : s.metricSource reference = .ok source) :
    ∃ name, s.named? name = some source.table ∧ '.' ∉ name.toList ∧
      (reference = name ++ "." ++ source.column ∨
        reference = s.tag ++ name ++ "." ++ source.column) := by
  simp only [metricSource, sound.indexed] at found
  cases cut : splitFirst? '.' (s.localName reference) with
  | none => simp [cut, refuse] at found
  | some parts =>
      obtain ⟨name, column⟩ := parts
      simp only [cut] at found
      cases known : s.named? name with
      | none => simp [known, refuse] at found
      | some t =>
          simp only [known] at found
          split at found
          · rw [← Except.ok.inj found]
            obtain ⟨whole, single⟩ := splitFirst?_ok cut
            have local' : s.localName reference = name ++ "." ++ column :=
              String.toList_injective (by simp [whole])
            refine ⟨name, known, single, ?_⟩
            rcases s.localName_cases reference with same | tagged
            · exact .inl (same.symm.trans local')
            · exact .inr (by rw [tagged, local']; simp only [String.append_assoc])
          · cases found

end Sound
end Source

/-! ## The registry -/

namespace Registry
variable {r : Registry} {s : Source} {reference name provider : String} {t : Table}
  {source : MetricSource} {a : Aggregation} {kind : AggregationKind}

theorem Indexed.of_get? (indexed : r.Indexed) (known : r.get? provider = some s) :
    s.Sound ∧ s.name = provider := by
  have listed := Entries.mem_of_get? (Entries.exact_of_lawful _) known
  exact ⟨indexed.sound _ listed, indexed.named _ listed⟩

/-- A metric reference is cut behind its provider, at the first point. -/
theorem cutMetric_ok {identifier column : String}
    (cut : cutMetric reference = .ok (identifier, column)) :
    ∃ name, splitFirst? '.' (splitReference reference).2 = some (name, column) ∧
      ((splitReference reference).1 = none → identifier = name) ∧
      ∀ provider ≠ "", (splitReference reference).1 = some provider →
        identifier = provider ++ ":" ++ name := by
  rw [cutMetric] at cut
  revert cut
  obtain ⟨owner, rest⟩ := splitReference reference
  intro cut
  dsimp only at cut
  split at cut
  · cases cut
  · rename_i name after first
    refine ⟨name, ?_, ?_, ?_⟩
    · split at cut <;> exact (Prod.mk.inj (Except.ok.inj cut)).2 ▸ first
    · rintro ⟨⟩
      exact (Prod.mk.inj (Except.ok.inj cut)).1.symm
    · rintro provider named ⟨⟩
      split at cut
      · rename_i empty
        exact absurd (Option.some.inj empty) named
      · cases ‹some provider = none›
      · rename_i p _ given
        rw [Option.some.inj given]
        exact (Prod.mk.inj (Except.ok.inj cut)).1.symm

theorem metricSource_ok (found : r.metricSource reference = .ok source) :
    ∃ identifier column t s, cutMetric reference = .ok (identifier, column) ∧
      r.table identifier = .ok t ∧ r.get? t.provider = some s ∧
      s.metricSource (t.label ++ "." ++ column) = .ok source := by
  rw [metricSource, Outcome.bind_eq_ok] at found
  obtain ⟨⟨identifier, column⟩, cut, found⟩ := found
  obtain ⟨t, leads, found⟩ := Outcome.bind_eq_ok.mp found
  split at found
  · rename_i s known
    exact ⟨identifier, column, t, s, cut, leads, known, found⟩
  · cases found

theorem table_provided (bare : ':' ∉ provider.toList) (known : r.get? provider = some s)
    (provides : s.provides name = true) :
    r.table (provider ++ ":" ++ name) = s.table name := by
  simp only [table, splitReference_tag bare, known, provides, if_true]

theorem provided_of_table (bare : ':' ∉ provider.toList)
    (found : r.table (provider ++ ":" ++ name) = .ok t) :
    ∃ s, r.get? provider = some s ∧ s.table name = .ok t := by
  simp only [table, splitReference_tag bare] at found
  split at found
  · cases found
  · rename_i s known
    split at found
    · exact ⟨s, known, found⟩
    · cases found

section Indexed
variable (indexed : r.Indexed)
include indexed

theorem Indexed.named_of_bare (bare : ':' ∉ name.toList) (found : r.table name = .ok t) :
    t.name = .text name := by
  rw [indexed.table_bare bare] at found
  split at found
  · cases found
  · rename_i u single
    rw [← Except.ok.inj found]
    have held : u ∈ r.bearing name := single ▸ List.mem_singleton_self u
    exact (Value.isText_iff _ _).mp (List.mem_filter.mp held).2
  · cases found

/-- A reference without a provider is the name of the table and the column. -/
theorem Indexed.metricSource_bare (bare : ':' ∉ reference.toList)
    (found : r.metricSource reference = .ok source) :
    ∃ front, reference = front ++ "." ++ source.column ∧ r.table front = .ok source.table := by
  have whole : splitReference reference = (none, reference) := by
    rw [splitReference, splitFirst?_eq_none.mpr bare]
  obtain ⟨identifier, column, t, s, cut, leads, known, found⟩ := metricSource_ok found
  obtain ⟨name, first, unowned, -⟩ := cutMetric_ok cut
  obtain rfl := unowned (by rw [whole])
  rw [whole] at first
  obtain ⟨letters, pointless⟩ := splitFirst?_ok first
  have bare' : ':' ∉ identifier.toList := by
    intro held
    exact bare (letters ▸ List.mem_append_left _ held)
  have text := indexed.named_of_bare bare' leads
  obtain ⟨sound, -⟩ := indexed.of_get? known
  have label : t.label = identifier := by rw [Table.label, text]; rfl
  rw [label] at found
  obtain ⟨own, named, single, same | tagged⟩ := sound.metricSource_cut found
  · have split := congrArg String.toList same
    simp only [String.toList_append, List.append_assoc] at split
    obtain ⟨names, columns⟩ := first_unique pointless single split
    obtain rfl := String.toList_injective names
    obtain rfl := String.toList_injective columns
    refine ⟨identifier, String.toList_injective (by simp [letters]), ?_⟩
    have own := indexed.named?_iff.mpr ⟨mem_of_table leads, rfl, text⟩
    rw [known, Option.bind_some, named, Option.some.injEq] at own
    rw [leads, own]
  · -- What begins with a provider holds a colon.
    refine absurd ?_ bare
    have held : ':' ∈ (identifier ++ "." ++ column).toList := by
      rw [tagged]
      simp [Source.tag]
    rw [letters]
    simpa using held

/-- Behind a provider the reference is the name of the table, which may have the provider in front
once more, and the column. -/
theorem Indexed.metricSource_prefixed {rest : String}
    (whole : splitReference reference = (some provider, rest)) (named : provider ≠ "")
    (found : r.metricSource reference = .ok source) :
    ∃ front, rest = front ++ "." ++ source.column ∧
      r.table (provider ++ ":" ++ front) = .ok source.table := by
  have bare : ':' ∉ provider.toList := by
    rw [splitReference] at whole
    split at whole
    · rename_i cut
      obtain ⟨provided, -⟩ := Prod.mk.inj whole
      exact Option.some.inj provided ▸ (splitFirst?_ok cut).2
    · cases whole
  obtain ⟨identifier, column, t, s', cut, leads, known', found⟩ := metricSource_ok found
  obtain ⟨name, first, -, owned⟩ := cutMetric_ok cut
  obtain rfl := owned provider named (by rw [whole])
  rw [whole] at first
  obtain ⟨letters, pointless⟩ := splitFirst?_ok first
  obtain ⟨s, known, own⟩ := provided_of_table bare leads
  obtain ⟨sound, rfl⟩ := indexed.of_get? known
  have names := Source.localName_named own
  have owned : t.provider = s.name := sound.owned t (mem_of_named? names)
  have label : t.label = s.localName name := by rw [Table.label, name_of_named? names]; rfl
  have rest_eq : rest = name ++ "." ++ column := String.toList_injective (by simp [letters])
  rw [owned, known] at known'
  obtain rfl := Option.some.inj known'
  rw [label] at found
  obtain ⟨own, held, single, same⟩ := sound.metricSource_cut found
  obtain ⟨⟨plain, leads⟩, tagged, leads'⟩ := sound.provides_named held
  rcases s.localName_cases name with direct | doubled
  · rw [direct] at same
    rcases same with same | same
    · exact ⟨own, rest_eq.trans same, (table_provided bare known plain).trans leads⟩
    · exact ⟨s.tag ++ own, rest_eq.trans same, (table_provided bare known tagged).trans leads'⟩
  · rcases same with same | same
    · refine ⟨s.tag ++ own, ?_, (table_provided bare known tagged).trans leads'⟩
      calc rest = s.tag ++ s.localName name ++ "." ++ column := by rw [rest_eq, ← doubled]
        _ = s.tag ++ (s.localName name ++ "." ++ column) := by simp only [String.append_assoc]
        _ = s.tag ++ own ++ "." ++ source.column := by rw [same]; simp only [String.append_assoc]
    · -- The name would begin with the provider twice, and no table has the provider in its name.
      exfalso
      have split : (s.localName name).toList ++ '.' :: column.toList =
          (s.tag.toList ++ own.toList) ++ '.' :: source.column.toList := by
        simpa using congrArg String.toList same
      have absent : '.' ∉ (s.localName name).toList := by
        intro held
        apply pointless
        rw [doubled, String.toList_append]
        exact List.mem_append_right _ held
      have absent' : '.' ∉ s.tag.toList ++ own.toList := by
        intro held
        rcases List.mem_append.mp held with tag | name
        · apply pointless
          rw [doubled, String.toList_append]
          exact List.mem_append_left _ tag
        · exact single name
      have equal := (first_unique absent absent' split).1
      apply sound.bare names
      rw [equal]
      exact List.mem_append_left _ s.colon_mem_tag

/-- An aggregation and the registry agree on the table and the column of a reference exactly where
the column holds no point and the provider is not empty. -/
theorem metricSource_agrees_iff (named : "" ∉ r.keys)
    (accepted : Aggregation.make kind (.text reference) = .ok a)
    (found : r.metricSource reference = .ok source) :
    (r.table a.tableReference = .ok source.table ∧ a.column? = some source.column) ↔
      '.' ∉ source.column.toList ∧ a.provider? ≠ some "" := by
  have cut := a.splitReference_eq
  rw [Aggregation.reference_of_make accepted] at cut
  rw [Aggregation.tableReference]
  rcases owner : a.provider? with - | provider
  · rw [owner] at cut
    have bare : ':' ∉ reference.toList := by
      rw [splitReference] at cut
      split at cut
      · cases cut
      · rename_i none
        exact splitFirst?_eq_none.mp none
    obtain ⟨front, whole, leads⟩ := indexed.metricSource_bare bare found
    have whole : a.localReference = front ++ "." ++ source.column := by
      rw [splitReference, splitFirst?_eq_none.mpr bare] at cut
      rw [← (Prod.mk.inj cut).2, whole]
    rw [Aggregation.column?_iff whole]
    constructor
    · exact fun both => ⟨both.2, (Option.some_ne_none "").symm⟩
    · rintro ⟨single, -⟩
      exact ⟨by rw [Aggregation.table_eq whole single, leads], single⟩
  · rw [owner] at cut
    by_cases empty : provider = ""
    · subst empty
      refine iff_of_false (fun both => ?_) (fun both => both.2 rfl)
      obtain ⟨s, known, -⟩ := provided_of_table (List.not_mem_nil) both.1
      exact named ((Entries.isSome_get? (Entries.exact_of_lawful _)).mp (by rw [known]; rfl))
    · obtain ⟨front, whole, leads⟩ := indexed.metricSource_prefixed cut empty found
      rw [Aggregation.column?_iff whole]
      constructor
      · exact fun both => ⟨both.2, fun same => empty (Option.some.inj same)⟩
      · rintro ⟨single, -⟩
        exact ⟨by simp only [Aggregation.table_eq whole single, leads], single⟩

end Indexed

/-- The orders of the north, with the provider written twice. -/
theorem metricSource_agrees_north : ∃ a source,
    Aggregation.make .sum (.text "north:north:orders.total") = .ok a ∧
    branches.metricSource "north:north:orders.total" = .ok source ∧
    branches.table a.tableReference = .ok source.table ∧ a.column? = some source.column := by
  have made : (branches.metricSource "north:north:orders.total").toOption.any fun source =>
      !source.column.toList.contains '.' := by decide +kernel
  obtain ⟨source, found, single⟩ := Outcome.any_ok made
  refine ⟨_, source, rfl, found, (metricSource_agrees_iff branches_indexed (by decide) rfl
    found).mpr ⟨by simpa using single, by decide +kernel⟩⟩

/-- Sales, and the orders of a schema of that name. -/
def warehouse : Registry := .ofSources [
  ⟨"main", .indexed, .null, [belonging "main" "sales" [], belonging "main" "sales.orders" []]⟩]

/-- The registry finds a column of the sales where the aggregation names one of the orders. -/
theorem warehouse_cuts_apart : ∃ a source orders,
    Aggregation.make .sum (.text "sales.orders.total") = .ok a ∧
    warehouse.metricSource "sales.orders.total" = .ok source ∧
    warehouse.table a.tableReference = .ok orders ∧ orders ≠ source.table ∧
    source.column = "orders.total" ∧ a.column? = some "total" := by
  have made : (warehouse.metricSource "sales.orders.total").toOption.any fun source =>
      source.table.label == "sales" && source.column == "orders.total" := by decide +kernel
  have named : (warehouse.table "sales.orders").toOption.any (·.label == "sales.orders") := by
    decide +kernel
  obtain ⟨source, found, placed⟩ := Outcome.any_ok made
  obtain ⟨orders, leads, label⟩ := Outcome.any_ok named
  simp only [Bool.and_eq_true, beq_iff_eq] at placed label
  refine ⟨_, source, orders, rfl, found, ?_, ?_, placed.2, by decide +kernel⟩
  · exact leads
  · rintro rfl
    exact absurd (label.symm.trans placed.1) (by decide)

/-- Without a name in front of the colon the registry asks all providers for the table of a metric,
and none for the table itself. -/
theorem branches_unowned : ∃ a source,
    Aggregation.make .sum (.text ":customers.id") = .ok a ∧
    branches.metricSource ":customers.id" = .ok source ∧
    ∀ t, branches.table a.tableReference ≠ .ok t := by
  have made : (branches.metricSource ":customers.id").toBool := by decide +kernel
  have refused : !(branches.table ":customers").toBool := by decide +kernel
  obtain ⟨source, found⟩ := Outcome.exists_ok made
  refine ⟨_, source, rfl, found, fun t leads => ?_⟩
  have leads : branches.table ":customers" = .ok t := leads
  rw [leads] at refused
  cases refused

end Registry
end Datacube
