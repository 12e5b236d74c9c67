import Datacube.Proofs.Grouping
import Datacube.Proofs.Join.Path
import Datacube.Proofs.Schema.Registry
import Datacube.Proofs.Text.Cut

/-!
# The ways to look up a table

The registry answers a reference by asking its sources, the compiled schema by its tables, and the
list of all tables has a reference of its own for each. Where no provider and no table holds a colon
in its name, the three agree on every reference with at most one colon.
-/

namespace Datacube
open Text
open PathFinder (belonging)

/-! ## Names without a colon -/

namespace Source
variable {s : Source} {name : String}

theorem colon_mem_tag (s : Source) : ':' ∈ s.tag.toList := by simp [tag]

theorem localName_bare (bare : ':' ∉ name.toList) : s.localName name = name :=
  withoutStart_of_absent s.colon_mem_tag bare

theorem provides_bare (bare : ':' ∉ name.toList) : s.provides name = (s.named? name).isSome := by
  have native : s.isForeign name = false := by
    simp [isForeign, bare]
  cases kind : s.kind <;> simp [provides, kind, native, localName_bare bare]

theorem table_bare (bare : ':' ∉ name.toList) : s.table name =
    match s.named? name with
    | some t => .ok t
    | none => refuse (.tableNotFound name s.name none .null) := by
  cases known : s.named? name <;> simp only [table, localName_bare bare, known]

theorem isSome_named? (s : Source) (name : String) :
    (s.named? name).isSome = s.tables.any (·.name.isText name) := by
  rw [Bool.eq_iff_iff, named?, List.find?_isSome, List.any_eq_true]

/-- A sound source holds at most one table of a name. -/
theorem Sound.bearing (sound : s.Sound) (name : String) :
    s.tables.filter (·.name.isText name) = (s.named? name).toList := by
  have bears : ∀ t ∈ s.tables.filter (·.name.isText name), t.name = .text name := fun t member =>
    (Value.isText_iff t.name name).mp (List.mem_filter.mp member).2
  have distinct : ((s.tables.filter (·.name.isText name)).map (·.name)).Nodup :=
    sound.distinct.sublist (List.filter_sublist.map Table.name)
  rw [named?, ← List.head?_filter]
  generalize s.tables.filter (·.name.isText name) = held at bears distinct
  match held with
  | [] => rfl
  | [_] => rfl
  | t :: u :: rest =>
    rw [List.map_cons, List.map_cons, bears t (by simp), bears u (by simp)] at distinct
    simp at distinct

end Source

/-! ## The registry -/

namespace Registry
variable {r : Registry} {t : Table} {name reference : String}

/-- The tables of a name, in the order of registration. -/
def bearing (r : Registry) (name : String) : List Table := r.all.filter (·.name.isText name)

/-- The sources with a table of a name, in the order of registration. -/
def bearers (r : Registry) (name : String) : List Source :=
  r.values.filter fun s => s.tables.any (·.name.isText name)

/-- A reference is refused since no table of that name is known. -/
def Misses (r : Registry) (reference : String) : Prop :=
  ∃ table provider available reason,
    r.table reference = refuse (.tableNotFound table provider available reason)

theorem owners_bare (bare : ':' ∉ name.toList) : r.owners name = r.bearers name := by
  apply List.filter_congr
  intro s _
  rw [Source.provides_bare bare, Source.isSome_named?]

theorem bearers_related {sources : List Source} (sound : ∀ s ∈ sources, s.Sound) (name : String) :
    List.Forall₂ (fun s t => s.named? name = some t)
      (sources.filter fun s => s.tables.any (·.name.isText name))
      ((sources.flatMap (·.tables)).filter (·.name.isText name)) := by
  induction sources with
  | nil => exact .nil
  | cons s rest ih =>
      have later := ih fun s member => sound s (List.mem_cons_of_mem _ member)
      rw [List.flatMap_cons, List.filter_append, (sound s List.mem_cons_self).bearing name,
        List.filter_cons, ← Source.isSome_named?]
      cases found : s.named? name with
      | none => exact later
      | some t => exact .cons found later

variable (indexed : r.Indexed)
include indexed

theorem Indexed.bearers_bearing (name : String) :
    List.Forall₂ (fun s t => s.named? name = some t) (r.bearers name) (r.bearing name) := by
  have sources : r.all = r.values.flatMap (·.tables) := by
    rw [all_eq, Entries.values, List.flatMap_map]
  rw [bearing, sources]
  refine bearers_related ?_ name
  intro s member
  obtain ⟨e, listed, rfl⟩ := List.mem_map.mp member
  exact indexed.sound e listed

theorem Indexed.table_bare (bare : ':' ∉ name.toList) :
    r.table name = match r.bearing name with
      | [] => refuse (.tableNotFound name .null (some (r.keys.map .text)) .null)
      | [t] => .ok t
      | _ => refuse (.ambiguousTable name ((r.bearers name).map fun s => .text s.name)) := by
  have whole : splitReference name = (none, name) := by
    rw [splitReference, splitFirst?_eq_none.mpr bare]
  rw [table, whole]
  simp only [owners_bare bare]
  have related := indexed.bearers_bearing name
  revert related
  generalize r.bearing name = tables
  generalize r.bearers name = sources
  rintro (_ | ⟨found, _ | ⟨_, _⟩⟩)
  · rfl
  · simp only [Source.table_bare bare, found]
  · rfl

omit indexed in
/-- A reference with a provider leads to the table of that name there, or is refused. -/
theorem table_prefixed {provider : String}
    (whole : splitReference reference = (some provider, name)) (bare : ':' ∉ name.toList) :
    (∃ t, (r.get? provider).bind (·.named? name) = some t ∧ r.table reference = .ok t) ∨
      (r.get? provider).bind (·.named? name) = none ∧ r.Misses reference := by
  simp only [Misses, table, whole]
  cases known : r.get? provider with
  | none => exact .inr ⟨rfl, _, _, _, _, rfl⟩
  | some s =>
      simp only [Source.provides_bare bare, Source.table_bare bare, Option.bind_some]
      cases found : s.named? name with
      | none => exact .inr ⟨rfl, _, _, _, _, rfl⟩
      | some t => exact .inl ⟨t, rfl, rfl⟩

theorem Indexed.named?_iff {provider : String} :
    (r.get? provider).bind (·.named? name) = some t ↔
      t ∈ r.all ∧ t.provider = provider ∧ t.name = .text name := by
  rw [Option.bind_eq_some_iff]
  constructor
  · rintro ⟨s, known, found⟩
    have listed := Entries.mem_of_get? (Entries.exact_of_lawful _) known
    have inside := mem_of_named? found
    exact ⟨mem_all.mpr ⟨_, listed, inside⟩,
      ((indexed.sound _ listed).owned t inside).trans (indexed.named _ listed),
      name_of_named? found⟩
  · rintro ⟨member, rfl, bears⟩
    obtain ⟨e, listed, inside⟩ := mem_all.mp member
    have provider := ((indexed.sound e listed).owned t inside).trans (indexed.named e listed)
    refine ⟨e.2, ?_, ?_⟩
    · rw [provider]
      exact Entries.get?_of_mem (Entries.exact_of_lawful _) indexed.nodup listed
    · have held : t ∈ e.2.tables.filter (·.name.isText name) :=
        List.mem_filter.mpr ⟨inside, (Value.isText_iff _ _).mpr bears⟩
      rw [(indexed.sound e listed).bearing name] at held
      exact Option.mem_toList.mp held

end Registry

/-! ## The compiled schema -/

namespace Schema
variable {s : Schema} {owned : List (String × Table)} {t : Table} {name reference : String}

theorem isText_eq (name : String) (t : Table) :
    (Value.text name == t.name) = t.name.isText name := by
  rw [Bool.eq_iff_iff, Value.isText_iff, eq_comm (a := t.name)]
  exact Value.same_text name t.name

theorem get?_named (tables : List Table) (name : String) :
    Entries.get? (tables.map fun t => (t.name, t)) (.text name) =
      tables.find? (·.name.isText name) := by
  induction tables with
  | nil => rfl
  | cons t rest ih =>
      rw [List.map_cons, Entries.get?_cons, ih, List.find?_cons, isText_eq]
      cases t.name.isText name <;> rfl

theorem owners_eq {tables : List Table} (bears : t.name.isText name = true) :
    owners tables t.name = (tables.filter (·.name.isText name)).length := by
  rw [(Value.isText_iff _ _).mp bears, owners]
  congr 2
  funext u
  rw [Bool.eq_iff_iff, Value.isText_iff]
  exact Value.same_text_right u.name name

/-- Among the tables of unshared names stands the one that has the name to itself. -/
theorem get?_unshared (tables : List Table) (name : String) :
    (unshared tables).get? (.text name) = match tables.filter (·.name.isText name) with
      | [t] => some t
      | _ => none := by
  rw [unshared, get?_named, List.find?_filter, ← List.head?_filter]
  have alone : (tables.filter fun t => owners tables t.name == 1 && t.name.isText name) =
      if (tables.filter (·.name.isText name)).length = 1 then tables.filter (·.name.isText name)
      else [] := by
    split
    · rename_i single
      apply List.filter_congr
      intro t _
      cases bears : t.name.isText name with
      | false => rw [Bool.and_false]
      | true => simp [owners_eq bears, single]
    · rename_i several
      rw [List.filter_eq_nil_iff]
      intro t _ both
      rw [Bool.and_eq_true, beq_iff_eq] at both
      exact several (owners_eq both.2 ▸ both.1)
  simp only [Bool.decide_and, Bool.decide_eq_true, alone]
  generalize tables.filter (·.name.isText name) = held
  rcases held with _ | ⟨t, _ | ⟨u, rest⟩⟩
  · rfl
  · rfl
  · simp

theorem identified?_bare (compiled : ofOwned owned = .ok s) (bare : ':' ∉ name.toList) :
    s.identified? (.text name) = none := by
  cases found : s.tables.get? name with
  | none => exact found
  | some t =>
      have same := (get?_tables compiled found).1
      exact absurd (by simp [← same, Table.identifier]) bare

/-- A bare name leads to the only table of that name. -/
theorem find_bare (compiled : ofOwned owned = .ok s) (bare : ':' ∉ name.toList) :
    s.find (.text name) .null =
      .ok (match (owned.map (·.2)).filter (·.name.isText name) with
        | [t] => some t
        | _ => none) := by
  rw [find_unidentified .null rfl (identified?_bare compiled bare), ← get?_unshared, named?,
    (ofOwned_ok compiled).2]
  rfl

/-- A reference with a colon leads to the table that it identifies. -/
theorem find_prefixed (compiled : ofOwned owned = .ok s)
    (plain : ∀ t ∈ owned.map (·.2), t.Plain)
    (unique : ∀ t ∈ owned.map (·.2), ∀ u ∈ owned.map (·.2), t.identifier = u.identifier → t = u)
    (marked : ':' ∈ reference.toList) :
    s.find (.text reference) .null = .ok (some t) ↔
      t ∈ owned.map (·.2) ∧ t.identifier = reference := by
  constructor
  · intro found
    refine ⟨mem_of_find compiled found, ?_⟩
    cases known : s.identified? (.text reference) with
    | some u =>
        rw [find_identified .null rfl known, Except.ok.injEq, Option.some.injEq] at found
        exact found ▸ (get?_tables compiled known).1
    | none =>
        -- No table bears a name with a colon.
        have named : s.byName.get? (.text reference) = some t := by
          rw [find_unidentified .null rfl known] at found
          exact Except.ok.inj found
        rw [(ofOwned_ok compiled).2] at named
        have listed := Entries.mem_of_get? (Entries.exact_text reference) named
        obtain ⟨u, alone, same⟩ := List.mem_map.mp listed
        obtain ⟨name, text, bare⟩ := plain u (List.mem_filter.mp alone).1
        rw [Prod.mk.injEq, text, Value.text.injEq] at same
        exact absurd (same.1 ▸ marked) bare
  · rintro ⟨member, rfl⟩
    exact find_identified .null rfl (holds_of_unique compiled unique member)

end Schema

/-! ## Agreement -/

theorem Schema.find_eq_none {s : Schema} {reference : String} :
    s.find (.text reference) .null = .ok none ↔
      ∀ t, s.find (.text reference) .null ≠ .ok (some t) := by
  obtain ⟨found, answered⟩ := s.find_text reference .null
  rw [answered]
  cases found <;> simp

namespace Registry
variable {r : Registry} {s : Schema} {t : Table} {name reference : String}

/-- The form names a column of a table of the source, and what stands before the column leads to
that table. -/
def Suggests (r : Registry) (reference : String) (source : Source) (form : String) : Prop :=
  form = source.name ++ ":" ++ reference ++ ".column" ∧ ∃ t ∈ source.tables,
    t.name = .text reference ∧ r.table (source.name ++ ":" ++ reference) = .ok t

/-- What a registry says to a reference its compiled schema says too. -/
structure AnsweredAlike (r : Registry) (s : Schema) (reference : String) : Prop where
  found : ∀ t, r.table reference = .ok t ↔ s.find (.text reference) .null = .ok (some t)
  missing : s.find (.text reference) .null = .ok none ↔ r.Misses reference ∨
    ∃ table providers, r.table reference = refuse (.ambiguousTable table providers)
  -- A name is shared when several sources bear it, and all of them are listed.
  shared : ∀ table providers, r.table reference = refuse (.ambiguousTable table providers) ↔
    ':' ∉ reference.toList ∧ 2 ≤ (r.bearers reference).length ∧ table = .text reference ∧
      providers = (r.bearers reference).map fun source => .text source.name
  suggested : ∀ table providers, r.table reference = refuse (.ambiguousTable table providers) →
    List.Forall₂ (r.Suggests reference) (r.bearers reference) (Cause.qualified table providers)

theorem splitReference_tag {provider : String} (bare : ':' ∉ provider.toList) (name : String) :
    splitReference (provider ++ ":" ++ name) = (some provider, name) := by
  rw [splitReference, splitFirst?_append bare]
  simp

section Indexed
variable (indexed : r.Indexed)
include indexed

theorem Indexed.table_identifier {provider : String} (bare : ':' ∉ provider.toList)
    (member : t ∈ r.all) (owned : t.provider = provider) (named : t.name = .text name)
    (plain : ':' ∉ name.toList) : r.table (provider ++ ":" ++ name) = .ok t := by
  have known := indexed.named?_iff.mpr ⟨member, owned, named⟩
  rcases table_prefixed (r := r) (splitReference_tag bare name) plain with
    ⟨u, found, answered⟩ | ⟨absent, -⟩
  · rw [known, Option.some.injEq] at found
    rw [answered, found]
  · rw [known] at absent
    cases absent

theorem Indexed.unmarked_bearer (unmarked : ∀ provider ∈ r.keys, ':' ∉ provider.toList)
    {source : Source} (member : source ∈ r.values) : ':' ∉ source.name.toList := by
  obtain ⟨e, listed, rfl⟩ := List.mem_map.mp member
  rw [indexed.named e listed]
  exact unmarked e.1 (List.mem_map_of_mem listed)

/-- The forms suggested for a shared name lead to the tables of that name. -/
theorem Indexed.suggestions (unmarked : ∀ provider ∈ r.keys, ':' ∉ provider.toList)
    (bare : ':' ∉ reference.toList) :
    List.Forall₂ (r.Suggests reference) (r.bearers reference) (Cause.qualified
      (.text reference) ((r.bearers reference).map fun source => .text source.name)) := by
  rw [Cause.qualified, List.map_map, List.forall₂_map_right_iff, List.forall₂_same]
  intro source bearer
  obtain ⟨known, holds⟩ := List.mem_filter.mp bearer
  obtain ⟨e, listed, rfl⟩ := List.mem_map.mp known
  obtain ⟨t, inside, bears⟩ := List.any_eq_true.mp holds
  have named := (Value.isText_iff t.name reference).mp bears
  exact ⟨rfl, t, inside, named, indexed.table_identifier (indexed.unmarked_bearer unmarked known)
    (mem_all_of_values known inside) ((indexed.sound e listed).owned t inside) named bare⟩

theorem Indexed.alike_bare (unmarked : ∀ provider ∈ r.keys, ':' ∉ provider.toList)
    (compiled : r.compile = .ok s) (bare : ':' ∉ reference.toList) :
    r.AnsweredAlike s reference := by
  have told := indexed.table_bare bare
  have kept : s.find (.text reference) .null = .ok (match r.bearing reference with
      | [t] => some t
      | _ => none) := Schema.find_bare compiled bare
  have count := (indexed.bearers_bearing reference).length_eq
  have suggestions := indexed.suggestions unmarked bare
  match held : r.bearing reference with
  | [] =>
    rw [held] at told kept count
    refine ⟨?_, ?_, ?_, ?_⟩
    · simp [told, kept, refuse]
    · simp [told, kept, refuse, Misses]
    · simp [told, refuse, count]
    · simp [told, refuse]
  | [t] =>
    rw [held] at told kept count
    refine ⟨?_, ?_, ?_, ?_⟩
    · simp [told, kept]
    · simp [told, kept, refuse, Misses]
    · simp [told, refuse, count]
    · simp [told, refuse]
  | t :: u :: rest =>
    rw [held] at told kept count
    have several : 2 ≤ (r.bearers reference).length := by simp [count]
    refine ⟨?_, ?_, ?_, ?_⟩
    · simp [told, kept, refuse]
    · simp [told, kept, refuse]
    · simp [told, refuse, bare, several, eq_comm]
    · intro table providers refused
      simp only [told, refuse, Except.error.injEq, Error.refused.injEq,
        Cause.ambiguousTable.injEq] at refused
      rw [← refused.1, ← refused.2]
      exact suggestions

/-- A reference with a provider in front names the table with that identifier. -/
theorem Indexed.named?_identifier {provider : String} (bare : ':' ∉ name.toList) :
    (r.get? provider).bind (·.named? name) = some t ↔
      t ∈ r.all ∧ t.identifier = provider ++ ":" ++ name := by
  rw [indexed.named?_iff]
  refine and_congr_right fun member => ?_
  obtain ⟨own, text, plain⟩ := indexed.plain member
  rw [Table.identifier_eq text, text, Value.text.injEq]
  constructor
  · rintro ⟨rfl, rfl⟩
    rfl
  · intro same
    have letters := congrArg String.toList same
    simp only [String.toList_append, List.append_assoc] at letters
    obtain ⟨providers, names⟩ := Table.cut_unique letters plain bare
    exact ⟨String.toList_injective providers, String.toList_injective names⟩

theorem Indexed.alike_prefixed (compiled : r.compile = .ok s) {provider : String}
    (whole : reference = provider ++ ":" ++ name) (first : ':' ∉ provider.toList)
    (bare : ':' ∉ name.toList) : r.AnsweredAlike s reference := by
  have marked : ':' ∈ reference.toList := by simp [whole]
  have kept : ∀ t, s.find (.text reference) .null = .ok (some t) ↔
      (r.get? provider).bind (·.named? name) = some t := by
    intro t
    rw [indexed.named?_identifier bare, ← whole]
    exact Schema.find_prefixed compiled (fun _ member => indexed.plain member)
      (fun _ member _ member' same => indexed.unique member member' same) marked
  have told := table_prefixed (r := r) (whole ▸ splitReference_tag first name) bare
  rcases told with ⟨u, known, told⟩ | ⟨unknown, misses⟩
  · refine ⟨?_, ?_, ?_, ?_⟩
    · intro t
      rw [kept t, told, known, Except.ok.injEq, Option.some.injEq]
    · rw [(kept u).mpr known]
      simp [told, refuse, Misses]
    · simp [told, refuse, marked]
    · simp [told, refuse]
  · obtain ⟨table, known, available, reason, told⟩ := id misses
    refine ⟨?_, ?_, ?_, ?_⟩
    · intro t
      rw [kept t, told, unknown]
      simp [refuse]
    · rw [Schema.find_eq_none]
      exact iff_of_true (fun t found => by simp [kept t, unknown] at found) (.inl misses)
    · simp [told, refuse, marked]
    · simp [told, refuse]

/-! ## Compiling -/

theorem Indexed.compiles : ∃ s, r.compile = .ok s := by
  have keys : (r.owned.map (·.2)).all (·.name.isKey) = true := by
    rw [List.all_eq_true]
    intro t member
    obtain ⟨name, text, -⟩ := indexed.plain member
    rw [text]
    rfl
  exact ⟨_, by rw [compile, Schema.ofOwned, if_pos keys]⟩

theorem Indexed.ofTables_all : Schema.ofTables r.all = r.compile := by
  rw [Schema.ofTables, compile, all, List.map_map]
  congr 1
  refine (List.map_congr_left ?_).trans (List.map_id r.owned)
  intro o member
  obtain ⟨e, listed, inside⟩ := List.mem_flatMap.mp member
  obtain ⟨t, held, rfl⟩ := List.mem_map.mp inside
  exact congrArg (·, t) (((indexed.sound e listed).owned t held).trans (indexed.named e listed))

/-! ## The list of all tables -/

def IsText (v : Value) : Prop := ∃ name, v = .text name

omit indexed in
theorem equates_texts : Entries.Equates IsText where
  symm := by
    rintro _ _ ⟨a, rfl⟩ ⟨b, rfl⟩ same
    rw [← (Value.same_text a _).mp same]
    exact (Value.same_text a _).mpr rfl
  trans := by
    rintro _ _ c ⟨a, rfl⟩ ⟨b, rfl⟩ - same next
    rw [(Value.same_text a _).mp same]
    exact next

theorem Indexed.isText : ∀ t ∈ r.all, IsText t.name := by
  intro t member
  obtain ⟨name, text, -⟩ := indexed.plain member
  exact ⟨name, text⟩

def groups (r : Registry) : Entries Value (List Table) := Entries.grouped (·.name) r.all

theorem Indexed.mem_groups {e : Value × List Table} (member : e ∈ r.groups) :
    (∀ t ∈ e.2, t.name = e.1) ∧ e.2.length = Schema.owners r.all e.1 := by
  have exact : ∀ t ∈ r.all, Entries.Exact t.name := by
    intro t listed
    obtain ⟨name, text⟩ := indexed.isText t listed
    rw [text]
    exact Entries.exact_text name
  obtain ⟨name, text⟩ : IsText e.1 :=
    Entries.grouped_keys indexed.isText e.1 (List.mem_map_of_mem member)
  have found := Entries.get?_of_mem (text ▸ Entries.exact_text name)
    (Entries.nodup_keys_grouped exact) member
  have group := Entries.get?_grouped equates_texts indexed.isText (k := e.1) ⟨name, text⟩
  rw [found, Option.getD_some] at group
  rw [group, text]
  refine ⟨fun t inside => ?_, ?_⟩
  · exact ((Value.same_text name t.name).mp (List.mem_filter.mp inside).2).symm
  · rw [Schema.owners]
    congr 2
    funext t
    rw [Bool.eq_iff_iff, Value.same_text_right]
    exact (Value.same_text name t.name).trans eq_comm

/-- The tables of a group under the references that the list of all tables has for them. -/
def labelled : Value × List Table → List (Value × Table)
  | (name, [t]) => [(name, t)]
  | (_, ts) => ts.map fun t => (.text t.identifier, t)

theorem Indexed.labelled_eq {e : Value × List Table} (member : e ∈ r.groups) :
    labelled e = e.2.map fun t => (Schema.shortest r.all t, t) := by
  obtain ⟨bear, count⟩ := indexed.mem_groups member
  obtain ⟨name, ts⟩ := e
  rw [labelled.eq_def]
  split
  · rename_i t same
    obtain ⟨rfl, rfl⟩ := Prod.mk.inj same
    have own := bear t (List.mem_singleton_self t)
    rw [List.map_singleton, Schema.shortest, own, ← count]
    rfl
  · rename_i rest several same
    obtain ⟨rfl, rfl⟩ := Prod.mk.inj same
    refine List.map_congr_left fun t inside => ?_
    have shared : Schema.owners r.all t.name ≠ 1 := by
      rw [bear t inside, ← count]
      intro single
      obtain ⟨u, rfl⟩ := List.length_eq_one_iff.mp single
      exact several u rfl
    rw [Schema.shortest, if_neg (by simpa using shared)]

/-- The list of all tables holds each of them under its shortest reference. -/
theorem Indexed.allTables_perm : ∃ listing, r.allTables = .ok listing ∧
    listing.Perm (r.all.map fun t => (Schema.shortest r.all t, t)) := by
  have keys : r.all.all (·.name.isKey) = true := by
    rw [List.all_eq_true]
    intro t member
    obtain ⟨name, text⟩ := indexed.isText t member
    rw [text]
    rfl
  have listed : r.allTables = .ok (.ofPairs (r.groups.flatMap labelled)) := if_pos keys
  have labels : r.groups.flatMap labelled =
      (r.groups.flatMap (·.2)).map fun t => (Schema.shortest r.all t, t) := by
    rw [List.map_flatMap]
    exact List.flatMap_congr fun e member => indexed.labelled_eq member
  have perm : (r.groups.flatMap labelled).Perm
      (r.all.map fun t => (Schema.shortest r.all t, t)) :=
    labels ▸ (Entries.grouped_perm _ r.all).map _
  have distinct : (r.all.map (Schema.shortest r.all)).Nodup :=
    indexed.nodup_all.map_on fun t member u member' same =>
      indexed.unique member member' (Schema.shortest_injective (indexed.plain member)
        (indexed.plain member') member member' same)
  refine ⟨_, listed, ?_⟩
  rw [Entries.ofPairs_of_nodup]
  · exact perm
  · intro pair member
    obtain ⟨t, held, rfl⟩ := List.mem_map.mp (perm.mem_iff.mp member)
    obtain ⟨text, same⟩ : ∃ text, Schema.shortest r.all t = .text text :=
      Schema.shortest_text (indexed.plain held)
    exact same ▸ Entries.exact_text text
  · rw [(perm.map _).nodup_iff, List.map_map]
    exact distinct

theorem Indexed.table_shortest (unmarked : ∀ provider ∈ r.keys, ':' ∉ provider.toList)
    (member : t ∈ r.all) :
    ∃ reference, Schema.shortest r.all t = .text reference ∧ r.table reference = .ok t := by
  obtain ⟨name, text, bare⟩ := indexed.plain member
  rw [Schema.shortest]
  split
  · rename_i alone
    refine ⟨name, text, ?_⟩
    have bears : t.name.isText name = true := (Value.isText_iff _ _).mpr text
    obtain ⟨u, only⟩ := List.length_eq_one_iff.mp
      ((Schema.owners_eq bears).symm.trans (beq_iff_eq.mp alone))
    have single : r.bearing name = [t] := by
      have held : t ∈ r.bearing name := List.mem_filter.mpr ⟨member, bears⟩
      rw [bearing, only, List.mem_singleton] at held
      rw [bearing, only, held]
    rw [indexed.table_bare bare, single]
  · obtain ⟨e, listed, inside⟩ := mem_all.mp member
    have owned := ((indexed.sound e listed).owned t inside).trans (indexed.named e listed)
    refine ⟨t.identifier, rfl, ?_⟩
    rw [Table.identifier_eq text, owned]
    exact indexed.table_identifier (unmarked e.1 (List.mem_map_of_mem listed)) member owned text
      bare

end Indexed

/-- The registry, its compiled schema and the list of all tables agree, and the schema of the tables
alone is the same as the compiled one. -/
theorem lookups_agree (indexed : r.Indexed)
    (unmarked : ∀ provider ∈ r.keys, ':' ∉ provider.toList) :
    ∃ s, r.compile = .ok s ∧ Schema.ofTables r.all = .ok s ∧
      (∀ reference : String, reference.toList.count ':' ≤ 1 → r.AnsweredAlike s reference) ∧
      ∃ listing, r.allTables = .ok listing ∧ listing.values.Perm r.all ∧ r.all.Nodup ∧
        ∀ entry ∈ listing, ∃ reference, entry.1 = .text reference ∧
          r.table reference = .ok entry.2 := by
  obtain ⟨s, compiled⟩ := indexed.compiles
  obtain ⟨listing, listed, perm⟩ := indexed.allTables_perm
  refine ⟨s, compiled, indexed.ofTables_all.trans compiled, ?_, listing, listed, ?_,
    indexed.nodup_all, ?_⟩
  · intro reference few
    cases cut : splitFirst? ':' reference with
    | none => exact indexed.alike_bare unmarked compiled (splitFirst?_eq_none.mp cut)
    | some parts =>
        obtain ⟨whole, first⟩ := splitFirst?_ok cut
        have bare : ':' ∉ parts.2.toList := by
          rw [whole, List.count_append, List.count_cons_self] at few
          exact List.count_eq_zero.mp (by omega)
        refine indexed.alike_prefixed compiled (String.toList_injective ?_) first bare
        rw [whole, String.toList_append, String.toList_append, List.append_assoc]
        rfl
  · have values := perm.map (·.2)
    rw [List.map_map] at values
    exact values.trans (.of_eq (List.map_id _))
  · intro entry member
    obtain ⟨t, held, rfl⟩ := List.mem_map.mp (perm.mem_iff.mp member)
    exact indexed.table_shortest unmarked held

/-- Two shops with orders each; the customers are those of one of them. -/
def branches : Registry := .ofSources [
  ⟨"north", .indexed, .null, [belonging "north" "orders" [], belonging "north" "customers" []]⟩,
  ⟨"south", .indexed, .null, [belonging "south" "orders" []]⟩]

theorem branches_indexed : branches.Indexed := by
  apply indexed_ofSources
  intro s member
  simp only [List.mem_cons, List.not_mem_nil, or_false] at member
  rcases member with rfl | rfl <;>
    exact ⟨rfl, by simp [belonging], by simp [Table.Plain, belonging], by simp [belonging]⟩

theorem lookups_agree_branches :
    ∃ s, branches.compile = .ok s ∧ Schema.ofTables branches.all = .ok s ∧
    (∀ reference : String, reference.toList.count ':' ≤ 1 → branches.AnsweredAlike s reference) ∧
    ∃ listing, branches.allTables = .ok listing ∧ listing.values.Perm branches.all ∧
      branches.all.Nodup ∧ ∀ entry ∈ listing, ∃ reference, entry.1 = .text reference ∧
        branches.table reference = .ok entry.2 :=
  lookups_agree branches_indexed (by decide)

end Registry
end Datacube
