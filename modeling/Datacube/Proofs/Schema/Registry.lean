import Datacube.Proofs.Schema.Resolution
import Datacube.Proofs.Text.Cut
import Datacube.Schema.Registry

/-!
# Registries of indexed sources

An indexed source holds tables of its own, one per name. Where no name holds the colon that ends the
provider, the identifier tells provider and name, so the tables of a registry have identifiers of
their own and its schema is unambiguous.
-/

namespace Datacube

namespace Table
variable {t u : Table}

def Plain (t : Table) : Prop := ∃ name, t.name = .text name ∧ ':' ∉ name.toList

theorem identifier_eq {name : String} (text : t.name = .text name) :
    t.identifier = t.provider ++ ":" ++ name := by
  rw [identifier, label, text]
  rfl

theorem cut_unique {mark : Char} {before before' after after' : List Char}
    (same : before ++ mark :: after = before' ++ mark :: after') (bare : mark ∉ after)
    (bare' : mark ∉ after') : before = before' ∧ after = after' := by
  rcases List.append_eq_append_iff.mp same with ⟨more, rfl, rest⟩ | ⟨more, rfl, rest⟩
  · cases more with
    | nil => simpa using rest
    | cons c more =>
        rw [List.cons_append, List.cons.injEq] at rest
        exact absurd (by simp [rest.2]) bare
  · cases more with
    | nil => simpa [eq_comm] using rest
    | cons c more =>
        rw [List.cons_append, List.cons.injEq] at rest
        exact absurd (by simp [rest.2]) bare'

/-- Where a provider bears no colon, the first colon of an identifier ends the provider. -/
theorem identifier_inj (bare : ':' ∉ t.provider.toList) (bare' : ':' ∉ u.provider.toList)
    (same : t.identifier = u.identifier) : t.provider = u.provider ∧ t.label = u.label := by
  have letters := congrArg String.toList same
  simp only [identifier, String.toList_append, List.append_assoc] at letters
  obtain ⟨providers, names⟩ := Text.first_unique bare bare' letters
  exact ⟨String.toList_injective providers, String.toList_injective names⟩

theorem Plain.of_identifier (plain : t.Plain) (plain' : u.Plain)
    (same : t.identifier = u.identifier) : t.provider = u.provider ∧ t.name = u.name := by
  obtain ⟨name, text, bare⟩ := plain
  obtain ⟨name', text', bare'⟩ := plain'
  rw [identifier_eq text, identifier_eq text'] at same
  have letters := congrArg String.toList same
  rw [String.toList_append, String.toList_append, String.toList_append, String.toList_append,
    List.append_assoc, List.append_assoc] at letters
  obtain ⟨providers, names⟩ := cut_unique letters bare bare'
  rw [text, text', String.toList_injective names]
  exact ⟨String.toList_injective providers, rfl⟩

theorem Plain.name_ne (plain : t.Plain) (u : Table) : t.name ≠ .text u.identifier := by
  obtain ⟨name, text, bare⟩ := plain
  intro same
  rw [text, Value.text.injEq] at same
  apply bare
  rw [same]
  simp [identifier]

end Table

/-! ## References that tell tables apart -/

namespace Schema
variable {t u : Table} {tables : List Table}

/-- The shortest reference that names a table among others: the bare name where it is the only one,
else the identifier. -/
def shortest (tables : List Table) (t : Table) : Value :=
  if owners tables t.name == 1 then t.name else .text t.identifier

theorem eq_of_owners {name : String} (text : t.name = .text name)
    (alone : owners tables t.name = 1) (member : t ∈ tables) (member' : u ∈ tables)
    (same : t.name = u.name) : t = u := by
  obtain ⟨v, only⟩ := List.length_eq_one_iff.mp alone
  have bears : t.name.same t.name = true := by
    rw [text, Value.same_text]
  have first : t ∈ tables.filter fun w => w.name.same t.name := List.mem_filter.mpr ⟨member, bears⟩
  have second : u ∈ tables.filter fun w => w.name.same t.name :=
    List.mem_filter.mpr ⟨member', same ▸ bears⟩
  rw [only, List.mem_singleton] at first second
  rw [first, second]

/-- Where providers bear no colon, the name of one owner leads to the table that its identifier
leads to. -/
theorem unambiguous_of_bare {s : Schema} {owned : List (String × Table)}
    (named : ∀ t ∈ owned.map (·.2), ∃ name, t.name = .text name)
    (bare : ∀ t ∈ owned.map (·.2), ':' ∉ t.provider.toList)
    (compiled : ofOwned owned = .ok s) : s.Unambiguous := by
  intro reference preferred t found
  have member := mem_of_find compiled found
  rcases find_cases found with ⟨identifier, known⟩ | bears
  · obtain ⟨rfl, -⟩ := get?_tables compiled known
    exact known
  · rw [(ofOwned_ok compiled).2] at bears
    simp only [unshared, Entries.values, List.map_map, List.mem_map, List.mem_filter] at bears
    obtain ⟨_, ⟨-, alone⟩, rfl⟩ := bears
    have known := mem_keys_tables compiled member
    rw [← Entries.isSome_get? (Entries.exact_of_lawful _), Option.isSome_iff_exists] at known
    obtain ⟨u, known⟩ := known
    obtain ⟨same, listed⟩ := get?_tables compiled known
    obtain ⟨name, text⟩ := named _ member
    obtain ⟨name', text'⟩ := named _ listed
    have labels := (Table.identifier_inj (bare _ member) (bare _ listed) same.symm).2
    simp only [Table.label, text, text', Value.toText] at labels
    have names := text.trans ((congrArg Value.text labels).trans text'.symm)
    rw [Holds, known, eq_of_owners text (beq_iff_eq.mp alone) member listed names]

theorem shortest_text (plain : t.Plain) : ∃ s, shortest tables t = .text s := by
  rw [shortest]
  split
  · obtain ⟨name, text, -⟩ := plain
    exact ⟨name, text⟩
  · exact ⟨t.identifier, rfl⟩

/-- The shortest references of different plain tables are different. -/
theorem shortest_injective (plain : t.Plain) (plain' : u.Plain) (member : t ∈ tables)
    (member' : u ∈ tables) (same : shortest tables t = shortest tables u) :
    t.identifier = u.identifier := by
  rw [shortest, shortest] at same
  split at same
  · rename_i alone
    split at same
    · obtain ⟨name, text, -⟩ := plain
      rw [eq_of_owners text (beq_iff_eq.mp alone) member member' same]
    · exact absurd same (plain.name_ne u)
  · split at same
    · exact absurd same.symm (plain'.name_ne t)
    · exact Value.text.inj same

end Schema

/-! ## Sources -/

namespace Source
variable {s s' : Source} {t u : Table} {tables : List Table}

/-- An indexed source of plain tables. -/
structure Sound (s : Source) : Prop where
  indexed : s.kind = .indexed
  owned : ∀ t ∈ s.tables, t.provider = s.name
  plain : ∀ t ∈ s.tables, t.Plain
  distinct : (s.tables.map (·.name)).Nodup

theorem sound_empty (name : String) (connection : Value) : (empty name connection).Sound where
  indexed := rfl
  owned := by simp [empty]
  plain := by simp [empty]
  distinct := List.nodup_nil

theorem mem_insertTable (member : u ∈ insertTable tables t) : u = t ∨ u ∈ tables := by
  induction tables with
  | nil => exact .inl (by simpa [insertTable] using member)
  | cons first rest ih =>
      rw [insertTable] at member
      split at member
      · exact (List.mem_cons.mp member).imp_right (List.mem_cons_of_mem first)
      · rcases List.mem_cons.mp member with rfl | later
        · exact .inr List.mem_cons_self
        · exact (ih later).imp_right (List.mem_cons_of_mem first)

theorem distinct_insertTable (plain : t.Plain) (distinct : (tables.map (·.name)).Nodup) :
    ((insertTable tables t).map (·.name)).Nodup := by
  obtain ⟨name, text, -⟩ := plain
  induction tables with
  | nil => exact List.nodup_singleton _
  | cons first rest ih =>
      rw [List.map_cons, List.nodup_cons] at distinct
      rw [insertTable]
      split
      · rename_i same
        rw [text, Value.same_text, ← text] at same
        rw [List.map_cons, same]
        exact List.nodup_cons.mpr distinct
      · rename_i differs
        rw [text, Value.same_text, ← text] at differs
        refine List.nodup_cons.mpr ⟨?_, ih distinct.2⟩
        intro member
        obtain ⟨u, listed, same⟩ := List.mem_map.mp member
        rcases mem_insertTable listed with rfl | old
        · exact differs same
        · exact distinct.1 (List.mem_map.mpr ⟨u, old, same⟩)

theorem Sound.add (sound : s.Sound) (plain : t.Plain) (added : s.add t = .ok s') : s'.Sound := by
  rw [Source.add] at added
  split at added
  · cases added
  · rename_i own
    split at added
    · rw [Except.ok.injEq] at added
      subst added
      refine ⟨sound.indexed, ?_, ?_, distinct_insertTable plain sound.distinct⟩
      · intro u member
        rcases mem_insertTable member with rfl | old
        · simpa using own
        · exact sound.owned u old
      · intro u member
        rcases mem_insertTable member with rfl | old
        · exact plain
        · exact sound.plain u old
    · cases added

end Source

/-! ## Registries -/

namespace Registry
variable {r : Registry} {t u : Table} {reference : String}

/-- The registry holds sound sources by the names of their providers. -/
structure Indexed (r : Registry) : Prop where
  nodup : r.keys.Nodup
  named : ∀ e ∈ r, e.2.name = e.1
  sound : ∀ e ∈ r, e.2.Sound

theorem indexed_ofSources {sources : List Source} (sound : ∀ s ∈ sources, s.Sound) :
    (ofSources sources).Indexed := by
  have exact : ∀ pair ∈ sources.map fun s => (s.name, s), Entries.Exact pair.1 :=
    fun _ _ => Entries.exact_of_lawful _
  refine ⟨Entries.nodup_keys_ofPairs exact, ?_, ?_⟩
  · intro e member
    obtain ⟨s, -, rfl⟩ := List.mem_map.mp (Entries.mem_ofPairs exact member)
    rfl
  · intro e member
    obtain ⟨s, listed, rfl⟩ := List.mem_map.mp (Entries.mem_ofPairs exact member)
    exact sound s listed

def all (r : Registry) : List Table := r.owned.map (·.2)

theorem mem_all : t ∈ r.all ↔ ∃ e ∈ r, t ∈ e.2.tables := by
  simp only [all, owned, List.map_flatMap, List.map_map, List.mem_flatMap]
  refine exists_congr fun e => and_congr_right fun _ => ?_
  simp

theorem mem_all_of_values {source : Source} (listed : source ∈ r.values)
    (member : t ∈ source.tables) : t ∈ r.all := by
  obtain ⟨e, known, rfl⟩ := List.mem_map.mp listed
  exact mem_all.mpr ⟨e, known, member⟩

theorem Indexed.plain (indexed : r.Indexed) (member : t ∈ r.all) : t.Plain := by
  obtain ⟨e, listed, inside⟩ := mem_all.mp member
  exact (indexed.sound e listed).plain t inside

theorem Indexed.unique (indexed : r.Indexed) (member : t ∈ r.all) (member' : u ∈ r.all)
    (same : t.identifier = u.identifier) : t = u := by
  obtain ⟨e, listed, inside⟩ := mem_all.mp member
  obtain ⟨e', listed', inside'⟩ := mem_all.mp member'
  obtain ⟨providers, names⟩ :=
    (indexed.plain member).of_identifier (indexed.plain member') same
  rw [(indexed.sound e listed).owned t inside, (indexed.sound e' listed').owned u inside',
    indexed.named e listed, indexed.named e' listed'] at providers
  obtain rfl := List.inj_on_of_nodup_map indexed.nodup listed listed' providers
  exact List.inj_on_of_nodup_map (indexed.sound e listed).distinct inside inside' names

theorem all_eq (r : Registry) : r.all = r.flatMap (·.2.tables) := by
  simp [all, owned, List.map_flatMap, Function.comp_def]

theorem Indexed.nodup_all (indexed : r.Indexed) : r.all.Nodup := by
  rw [all_eq, List.nodup_flatMap]
  constructor
  · intro e listed
    exact List.Nodup.of_map _ (indexed.sound e listed).distinct
  · refine (List.pairwise_map.mp indexed.nodup).imp_of_mem fun {e e'} listed listed' differ => ?_
    intro t inside inside'
    apply differ
    rw [← indexed.named e listed, ← indexed.named e' listed',
      ← (indexed.sound e listed).owned t inside, ← (indexed.sound e' listed').owned t inside']

/-! ## References -/

theorem mem_of_named? {s : Source} {name : String} (found : s.named? name = some t) :
    t ∈ s.tables :=
  List.mem_of_find?_eq_some found

theorem name_of_named? {s : Source} {name : String} (found : s.named? name = some t) :
    t.name = .text name := by
  have bears := List.find?_some found
  exact (Value.isText_iff t.name name).mp bears

theorem named?_of_sourceTable {s : Source} (found : s.table reference = .ok t) :
    ∃ name, s.named? name = some t := by
  rw [Source.table] at found
  split at found
  · rename_i named
    exact ⟨_, named.trans (congrArg some (Except.ok.inj found))⟩
  · cases found

theorem mem_of_sourceTable {s : Source} (found : s.table reference = .ok t) : t ∈ s.tables :=
  have ⟨_, named⟩ := named?_of_sourceTable found
  mem_of_named? named

theorem mem_of_table (found : r.table reference = .ok t) : t ∈ r.all := by
  rw [table] at found
  split at found
  · split at found
    · cases found
    · rename_i source known
      split at found
      · exact mem_all_of_values (Entries.mem_values_of_get? known) (mem_of_sourceTable found)
      · cases found
  · split at found
    · cases found
    · rename_i source owners
      have listed : source ∈ r.owners reference := by simp_all
      exact mem_all_of_values (List.mem_filter.mp listed).1 (mem_of_sourceTable found)
    · cases found

theorem named?_of_sourceMetric {s : Source} {source : MetricSource}
    (found : s.metricSource reference = .ok source) :
    ∃ name, s.named? name = some source.table := by
  rw [Source.metricSource] at found
  split at found
  · cases found
  · cases found
  · split at found
    · cases found
    · rename_i u named
      split at found
      · rw [← Except.ok.inj found]
        exact ⟨_, named⟩
      · cases found
  · simp only [Outcome.bind_eq_ok, Outcome.pure_eq_ok] at found
    obtain ⟨u, found, rfl⟩ := found
    exact named?_of_sourceTable found

theorem named?_of_metricSource {source : MetricSource}
    (found : r.metricSource reference = .ok source) :
    ∃ s ∈ r.values, ∃ name, s.named? name = some source.table := by
  rw [metricSource, Outcome.bind_eq_ok] at found
  obtain ⟨⟨identifier, column⟩, -, found⟩ := found
  rw [Outcome.bind_eq_ok] at found
  obtain ⟨t, -, found⟩ := found
  split at found
  · rename_i s known
    exact ⟨s, Entries.mem_values_of_get? known, named?_of_sourceMetric found⟩
  · cases found

theorem mem_of_metricSource {source : MetricSource}
    (found : r.metricSource reference = .ok source) : source.table ∈ r.all :=
  have ⟨_, listed, _, named⟩ := named?_of_metricSource found
  mem_all_of_values listed (mem_of_named? named)

/-! ## Compiling -/

theorem Indexed.unambiguous (indexed : r.Indexed) {s : Schema} (compiled : r.compile = .ok s) :
    s.Unambiguous :=
  Schema.unambiguous_of_unique compiled fun _ member _ member' same =>
    indexed.unique member member' same

/-- A plain table that no table of the registry contradicts. -/
structure Admits (r : Registry) (t : Table) : Prop where
  plain : t.Plain
  unique : ∀ u ∈ r.all, u.identifier = t.identifier → u = t

theorem Indexed.admits (indexed : r.Indexed) (member : t ∈ r.all) : r.Admits t where
  plain := indexed.plain member
  unique := fun _ member' same => indexed.unique member' member same

theorem Admits.recognizes (admitted : r.Admits t) {s : Schema} (compiled : r.compile = .ok s) :
    s.Recognizes t := by
  intro u found
  obtain ⟨same, member⟩ := Schema.get?_tables compiled found
  exact admitted.unique u member same

end Registry
end Datacube
