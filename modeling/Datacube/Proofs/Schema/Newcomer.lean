import Datacube.Proofs.Schema.Lookup
import Datacube.Proofs.Value.Equality

/-!
# A further provider

A provider that is registered last changes no reference with a provider in front, and a bare name
only by bearing it as well: then the name is ambiguous. In the schema its tables may take a bare name
from another table; a reference that is none of their names or identifiers leads where it led before.
-/

namespace Datacube

/-! ## Outcomes beside an ambiguity -/

namespace Outcome
variable {α β γ : Type} {clash clash' : Prop} {x x' : Outcome α}

def IsAmbiguous (x : Outcome α) : Prop :=
  ∃ name providers, x = refuse (.ambiguousTable name providers)

/-- A result stays what it was, unless there is a clash: then it is refused as ambiguous. -/
def SameUnless (clash : Prop) (x x' : Outcome α) : Prop :=
  ∀ a, x = .ok a → ¬ clash ∧ x' = .ok a ∨ clash ∧ x'.IsAmbiguous

theorem IsAmbiguous.bind (ambiguous : x.IsAmbiguous) (f : α → Outcome β) :
    IsAmbiguous (x >>= f) := by
  obtain ⟨name, providers, rfl⟩ := ambiguous
  exact ⟨name, providers, rfl⟩

theorem not_ambiguous_ok (a : α) : ¬ IsAmbiguous (.ok a : Outcome α) := by
  rintro ⟨name, providers, ⟨⟩⟩

theorem sameUnless_of_ok (same : ∀ a, x = .ok a → x' = .ok a) : SameUnless False x x' :=
  fun a found => .inl ⟨id, same a found⟩

theorem SameUnless.congr (same : SameUnless clash x x') (iff : clash ↔ clash') :
    SameUnless clash' x x' := by
  rwa [← propext iff]

theorem SameUnless.bind {f f' : α → Outcome β} (first : SameUnless clash x x')
    (later : ∀ a, x = .ok a → SameUnless clash' (f a) (f' a)) :
    SameUnless (clash ∨ clash') (x >>= f) (x' >>= f') := by
  intro b run
  obtain ⟨a, found, run⟩ := bind_eq_ok.mp run
  rcases first a found with ⟨free, found'⟩ | ⟨clashes, ambiguous⟩
  · rcases later a found b run with ⟨free', run'⟩ | ⟨clashes', ambiguous⟩
    · exact .inl ⟨not_or.mpr ⟨free, free'⟩, bind_eq_ok.mpr ⟨a, found', run'⟩⟩
    · exact .inr ⟨.inr clashes', by rw [found']; exact ambiguous⟩
  · exact .inr ⟨.inl clashes, ambiguous.bind f'⟩

theorem SameUnless.next {f f' : α → Outcome β} (first : SameUnless clash x x')
    (later : ∀ a b, x = .ok a → f a = .ok b → f' a = .ok b) :
    SameUnless clash (x >>= f) (x' >>= f') :=
  (first.bind fun a found => sameUnless_of_ok fun b => later a b found).congr (or_iff_left id)

theorem sameUnless_after {f f' : α → Outcome β}
    (later : ∀ a, x = .ok a → SameUnless clash (f a) (f' a)) :
    SameUnless clash (x >>= f) (x >>= f') :=
  ((sameUnless_of_ok fun _ found => found).bind later).congr (or_iff_right id)

theorem SameUnless.mapM {items : List γ} {f f' : γ → Outcome α} {clashes : γ → Prop}
    (each : ∀ i ∈ items, SameUnless (clashes i) (f i) (f' i)) :
    SameUnless (∃ i ∈ items, clashes i) (items.mapM f) (items.mapM f') := by
  induction items with
  | nil => exact (sameUnless_of_ok fun _ found => found).congr (by simp)
  | cons i rest ih =>
      rw [List.mapM_cons, List.mapM_cons]
      refine ((each i List.mem_cons_self).bind fun a _ =>
        (ih fun j later => each j (.tail i later)).next fun _ _ _ found => found).congr ?_
      rw [List.exists_mem_cons_iff]

end Outcome

open Outcome

/-! ## Unrelated sources -/

namespace Source

/-- A bare name that a table of the source bears. -/
def Takes (source : Source) (name : String) : Prop :=
  ':' ∉ name.toList ∧ ∃ t ∈ source.tables, t.name = .text name

theorem takes_iff {source : Source} {name : String} (bare : ':' ∉ name.toList) :
    source.Takes name ↔ (source.named? name).isSome = true := by
  rw [Takes, and_iff_right bare, isSome_named?, List.any_eq_true]
  simp only [Value.isText_iff]

/-- An indexed source beside tables of other providers, none of which declares a relation to a table
of the source. Its name has no colon, and neither have the names of the other providers, or else
those of its tables. -/
structure Unrelated (source : Source) (among : Table → Prop) : Prop where
  indexed : source.kind = .indexed
  keyed : ∀ t ∈ source.tables, t.name.isKey = true
  owned : ∀ t ∈ source.tables, t.provider = source.name
  unmarked : ':' ∉ source.name.toList
  bare : (∀ u, among u → ':' ∉ u.provider.toList) ∨ ∀ t ∈ source.tables, ':' ∉ t.label.toList
  foreign : ∀ u, among u → u.provider ≠ source.name
  untargeted : ∀ u, among u → ∀ r ∈ u.relations.values, ∀ t ∈ source.tables,
    (r.target == t.name) = false ∧ r.target ≠ .text t.identifier

variable {source : Source} {among : Table → Prop} {t u : Table}

theorem Unrelated.apart (unrelated : source.Unrelated among) (here : among u)
    (listed : t ∈ source.tables) (name : String) : u.provider ++ ":" ++ name ≠ t.identifier := by
  intro same
  have letters : u.provider.toList ++ ':' :: name.toList =
      source.name.toList ++ ':' :: t.label.toList := by
    rw [Table.identifier, unrelated.owned t listed] at same
    simpa using congrArg String.toList same
  have unmarked : ':' ∉ u.provider.toList := by
    rcases unrelated.bare with bare | bare
    · exact bare u here
    · -- The identifier of the source has one colon, which is the one after the other provider.
      have once := congrArg (List.count ':') letters
      rw [List.count_append, List.count_append, List.count_cons_self, List.count_cons_self,
        List.count_eq_zero.mpr unrelated.unmarked, List.count_eq_zero.mpr (bare t listed)] at once
      exact List.count_eq_zero.mp (by omega)
  exact unrelated.foreign u here
    (String.toList_injective (Text.first_unique unmarked unrelated.unmarked letters).1)

end Source

/-! ## Schemas with more tables -/

namespace Schema
variable {s s' : Schema} {owned more : List (String × Table)} {tables others : List Table}
  {t : Table} {v preferred : Value} {identifier : String}

theorem isKey_of_compiled (compiled : ofOwned owned = .ok s) :
    ∀ t ∈ owned.map (·.2), t.name.isKey = true := by
  simp only [ofOwned] at compiled
  split at compiled
  · rename_i keys
    exact List.all_eq_true.mp keys
  · cases compiled

theorem exists_ofOwned (keys : ∀ t ∈ owned.map (·.2), t.name.isKey = true) :
    ∃ s, ofOwned owned = .ok s :=
  ⟨_, if_pos (List.all_eq_true.mpr keys)⟩

theorem get?_byName (tables : List Table) (v : Value) :
    Entries.get? (tables.map fun t => (t.name, t)) v = tables.find? (v == ·.name) := by
  induction tables with
  | nil => rfl
  | cons t rest ih =>
      rw [List.map_cons, Entries.get?_cons, List.find?_cons, ih]
      cases v == t.name <;> rfl

theorem owners_more (key : v.isKey = true) (keys : ∀ t ∈ others, t.name.isKey = true)
    (named : t.name.isKey = true) (bears : (v == t.name) = true)
    (absent : ∀ u ∈ others, (v == u.name) = false) :
    owners (tables ++ others) t.name = owners tables t.name := by
  have none : others.filter (fun u => u.name.same t.name) = [] := by
    rw [List.filter_eq_nil_iff]
    intro u listed same
    have back := Value.same_symm (keys u listed) named same
    exact Bool.eq_false_iff.mp (absent u listed) (Value.same_trans key named bears back)
  rw [owners, List.filter_append, none, List.append_nil]
  rfl

/-- More tables leave alone the names that they do not bear. -/
theorem get?_unshared_more (key : v.isKey = true)
    (keys : ∀ t ∈ tables, t.name.isKey = true) (keys' : ∀ t ∈ others, t.name.isKey = true)
    (absent : ∀ u ∈ others, (v == u.name) = false) :
    (unshared (tables ++ others)).get? v = (unshared tables).get? v := by
  rw [unshared, unshared, get?_byName, get?_byName, List.filter_append, List.find?_append,
    List.find?_filter, List.find?_filter, List.find?_filter]
  have none : others.find? (fun u =>
      decide (owners (tables ++ others) u.name == 1 ∧ (v == u.name) = true)) = none := by
    rw [List.find?_eq_none]
    intro u listed
    simp [absent u listed]
  rw [none, Option.or_none]
  refine List.find?_congr fun t listed => ?_
  cases bears : v == t.name with
  | false => simp
  | true => rw [owners_more key keys' (keys t listed) bears absent]

section More
variable (compiled : ofOwned owned = .ok s) (compiled' : ofOwned (owned ++ more) = .ok s')
include compiled compiled'

theorem tables_more : s'.tables = s.tables.putAll (more.map fun e => (e.2.identifier, e.2)) := by
  rw [(ofOwned_ok compiled).1, (ofOwned_ok compiled').1, byIdentifier, byIdentifier,
    Entries.ofPairs, Entries.ofPairs, Entries.putAll, Entries.putAll, Entries.putAll,
    List.map_append, List.map_append, List.foldl_append, List.map_map, List.map_map]
  rfl

theorem keys_more : ∃ extra, s'.tables.keys = s.tables.keys ++ extra ∧
    ∀ x ∈ extra, ∃ t ∈ more.map (·.2), t.identifier = x := by
  rw [tables_more compiled compiled']
  have exact : ∀ pair ∈ more.map fun e => (e.2.identifier, e.2), Entries.Exact pair.1 :=
    fun pair _ => Entries.exact_of_lawful pair.1
  obtain ⟨extra, keys, new⟩ := Entries.keys_putAll_append exact s.tables
  refine ⟨extra, keys, fun x listed => ?_⟩
  obtain ⟨pair, paired, rfl⟩ := List.mem_map.mp (new listed)
  obtain ⟨e, inside, rfl⟩ := List.mem_map.mp paired
  exact ⟨e.2, List.mem_map_of_mem inside, rfl⟩

theorem get?_tables_more (absent : ∀ t ∈ more.map (·.2), t.identifier ≠ identifier) :
    s'.tables.get? identifier = s.tables.get? identifier := by
  rw [tables_more compiled compiled']
  refine Entries.get?_putAll_absent (Entries.exact_of_lawful _)
    (fun _ _ => Entries.exact_of_lawful _) fun pair paired => ?_
  obtain ⟨e, inside, rfl⟩ := List.mem_map.mp paired
  exact absent e.2 (List.mem_map_of_mem inside)

theorem named?_more (key : v.isKey = true)
    (absent : ∀ t ∈ more.map (·.2), (v == t.name) = false) : s'.named? v = s.named? v := by
  rw [named?, named?, (ofOwned_ok compiled).2, (ofOwned_ok compiled').2, List.map_append]
  have keys := isKey_of_compiled compiled'
  rw [List.map_append] at keys
  exact get?_unshared_more key (fun t listed => keys t (List.mem_append_left _ listed))
    (fun t listed => keys t (List.mem_append_right _ listed)) absent

/-- A reference that no further table answers leads where it led before. -/
theorem find_more (unnamed : ∀ t ∈ more.map (·.2), (v == t.name) = false ∧ v ≠ .text t.identifier)
    (apart : ∀ t ∈ more.map (·.2), ∀ name, preferred.toText ++ ":" ++ name ≠ t.identifier) :
    s'.find v preferred = s.find v preferred := by
  cases key : v.isKey with
  | false => simp [find, key, fail, bind, Except.bind]
  | true =>
      have identified : s'.identified? v = s.identified? v := by
        cases v with
        | text identifier =>
            refine get?_tables_more compiled compiled' fun t listed same => ?_
            exact (unnamed t listed).2 (congrArg _ same.symm)
        | _ => rfl
      have favoured : s'.preferred? v preferred.toText = s.preferred? v preferred.toText := by
        cases v with
        | text name =>
            rw [preferred?, preferred?, get?_tables_more compiled compiled']
            exact fun t listed => (apart t listed name).symm
        | _ => rfl
      cases known : s.identified? v with
      | some t => rw [find_identified preferred key known, find_identified preferred key
          (identified.trans known)]
      | none => rw [find_unidentified preferred key known, find_unidentified preferred key
          (identified.trans known), favoured,
          named?_more compiled compiled' key fun t listed => (unnamed t listed).1]

theorem find_identifier_more (known : identifier ∈ s.tables.keys)
    (absent : ∀ t ∈ more.map (·.2), t.identifier ≠ identifier) :
    s'.find (.text identifier) preferred = s.find (.text identifier) preferred := by
  obtain ⟨t, found⟩ := Option.isSome_iff_exists.mp
    ((Entries.isSome_get? (Entries.exact_of_lawful _)).mpr known)
  have kept : s'.tables.get? identifier = some t :=
    (get?_tables_more compiled compiled' absent).trans found
  have before : s.find (.text identifier) preferred = .ok (some t) :=
    find_identified preferred rfl found
  rw [before]
  exact find_identified preferred rfl kept

end More
end Schema

/-! ## Registries with one more source -/

namespace Registry
variable {r : Registry} {source : Source} {t : Table} {reference name : String} {v : Value}

def register (r : Registry) (source : Source) : Registry := r.put source.name source

section Fresh
variable (fresh : source.name ∉ r.keys)
include fresh

theorem register_eq : r.register source = r ++ [(source.name, source)] :=
  Entries.put_new (Entries.exact_of_lawful _) fresh

theorem owned_register :
    (r.register source).owned = r.owned ++ source.tables.map fun t => (source.name, t) := by
  rw [register_eq fresh, owned, owned, List.flatMap_append, List.flatMap_singleton]

theorem get?_register {provider : String} {other : Source}
    (known : r.get? provider = some other) : (r.register source).get? provider = some other := by
  rw [register_eq fresh, Entries.get?, List.lookup_append, ← Entries.get?, known, Option.some_or]

theorem owners_register (bare : ':' ∉ name.toList) : (r.register source).owners name =
    r.owners name ++ if (source.named? name).isSome then [source] else [] := by
  rw [register_eq fresh, owners, owners, Entries.values, Entries.values, List.map_append,
    List.filter_append, List.map_singleton, List.filter_singleton, Source.provides_bare bare,
    Bool.cond_eq_ite]

theorem table_bare_register (bare : ':' ∉ reference.toList) :
    SameUnless (source.Takes reference) (r.table reference)
      ((r.register source).table reference) := by
  intro t found
  have whole : splitReference reference = (none, reference) := by
    rw [splitReference, Text.splitFirst?_eq_none.mpr bare]
  rw [table, whole] at found ⊢
  simp only [owners_register fresh bare] at found ⊢
  -- A name that was found has one owner, and the new source is a second one if it bears it too.
  split at found
  · cases found
  · rename_i other owned
    rw [owned, Source.takes_iff bare]
    cases (source.named? reference).isSome with
    | false => exact .inl ⟨Bool.false_ne_true, found⟩
    | true => exact .inr ⟨rfl, _, _, rfl⟩
  · cases found

/-- A reference leads to the same table, unless it is a bare name that the new source takes. -/
theorem table_register : SameUnless (source.Takes reference) (r.table reference)
    ((r.register source).table reference) := by
  by_cases bare : ':' ∈ reference.toList
  · intro t found
    refine .inl ⟨fun takes => takes.1 bare, ?_⟩
    rw [table] at found ⊢
    split at found
    · split at found
      · cases found
      · rename_i other known
        simp only [get?_register fresh known]
        exact found
    · rename_i whole
      rw [splitReference] at whole
      split at whole
      · cases whole
      · rename_i cut
        exact absurd bare (Text.splitFirst?_eq_none.mp cut)
  · exact table_bare_register fresh bare

theorem named_register : SameUnless (∃ name, v = .text name ∧ source.Takes name) (r.named v)
    ((r.register source).named v) := by
  cases v with
  | text name => exact (table_register fresh).congr (by simp)
  | _ => exact fun t found => by cases found

theorem metricSource_register : SameUnless
    (∃ name column, cutMetric reference = .ok (name, column) ∧ source.Takes name)
    (r.metricSource reference) ((r.register source).metricSource reference) := by
  cases cut : cutMetric reference with
  | error e =>
      intro t found
      rw [metricSource, cut] at found
      cases found
  | ok parts =>
      obtain ⟨name, column⟩ := parts
      rw [metricSource, metricSource, cut]
      have looked : SameUnless (source.Takes name) (r.table name)
        ((r.register source).table name) := table_register fresh
      refine (looked.next ?_).congr (by simp)
      intro t found leads placed
      split at placed
      · rename_i other known
        rw [get?_register fresh known]
        exact placed
      · cases placed

end Fresh
end Registry
end Datacube
