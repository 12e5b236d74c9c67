import Datacube.Schema.Compiled
import Datacube.Proofs.Entries
import Datacube.Proofs.Outcome

/-!
# What references lead to

A schema is unambiguous when every reference leads to a table that its own identifier leads to. Two
tables can come to bear one identifier, as a name may hold the colon that ends the provider; then a
bare name may lead to the one of them and the identifier to the other. Where no two tables share an
identifier the schema is unambiguous.
-/

namespace Datacube.Schema

def Holds (s : Schema) (t : Table) : Prop := s.tables.get? t.identifier = some t

def Recognizes (s : Schema) (t : Table) : Prop := ∀ u, s.tables.get? t.identifier = some u → u = t

/-- Every reference leads to a table that its own identifier leads to. -/
def Unambiguous (s : Schema) : Prop :=
  ∀ reference preferred t, s.find reference preferred = .ok (some t) → s.Holds t

variable {s : Schema} {owned : List (String × Table)} {t u : Table}

theorem Holds.recognizes (held : s.Holds t) : s.Recognizes t := by
  intro u found
  rw [Holds, found] at held
  exact Option.some.inj held

theorem Holds.unique (held : s.Holds t) (held' : s.Holds u) (same : t.identifier = u.identifier) :
    t = u := by
  rw [Holds, same, held'] at held
  exact (Option.some.inj held).symm

theorem Recognizes.unique (known : s.Recognizes t) (held : s.Holds u)
    (same : u.identifier = t.identifier) : u = t :=
  known u (by rw [← same]; exact held)

theorem Holds.mem_keys (held : s.Holds t) : t.identifier ∈ s.tables.keys := by
  rw [← Entries.isSome_get? (Entries.exact_of_lawful _), held]
  rfl

/-! ## Compiled schemas -/

theorem ofOwned_ok (compiled : ofOwned owned = .ok s) :
    s.tables = byIdentifier (owned.map (·.2)) ∧ s.byName = unshared (owned.map (·.2)) := by
  simp only [ofOwned] at compiled
  split at compiled
  · rw [← Except.ok.inj compiled]
    exact ⟨rfl, rfl⟩
  · cases compiled

theorem nodup_keys (compiled : ofOwned owned = .ok s) : s.tables.keys.Nodup := by
  rw [(ofOwned_ok compiled).1, byIdentifier]
  exact Entries.nodup_keys_ofPairs fun _ _ => Entries.exact_of_lawful _

theorem get?_tables (compiled : ofOwned owned = .ok s) {identifier : String}
    (found : s.tables.get? identifier = some t) :
    t.identifier = identifier ∧ t ∈ owned.map (·.2) := by
  have member := Entries.mem_of_get? (Entries.exact_of_lawful _) found
  rw [(ofOwned_ok compiled).1, byIdentifier] at member
  obtain ⟨u, listed, equal⟩ := List.mem_map.mp
    (Entries.mem_ofPairs (fun _ _ => Entries.exact_of_lawful _) member)
  rw [Prod.mk.injEq] at equal
  obtain ⟨rfl, rfl⟩ := equal
  exact ⟨rfl, listed⟩

theorem holds_of_values (compiled : ofOwned owned = .ok s) (member : t ∈ s.tables.values) :
    s.Holds t ∧ t ∈ owned.map (·.2) := by
  obtain ⟨e, listed, rfl⟩ := List.mem_map.mp member
  have found : s.tables.get? e.1 = some e.2 :=
    Entries.get?_of_mem (Entries.exact_of_lawful _) (nodup_keys compiled) listed
  obtain ⟨same, owns⟩ := get?_tables compiled found
  rw [Holds, same]
  exact ⟨found, owns⟩

theorem mem_keys_tables (compiled : ofOwned owned = .ok s) (member : t ∈ owned.map (·.2)) :
    t.identifier ∈ s.tables.keys := by
  rw [(ofOwned_ok compiled).1, byIdentifier,
    Entries.mem_keys_ofPairs fun _ _ => Entries.exact_of_lawful _, List.map_map]
  exact List.mem_map_of_mem (f := Table.identifier) member

/-! ## References -/

theorem find_identified {reference : Value} (preferred : Value) (key : reference.isKey = true)
    (known : s.identified? reference = some t) : s.find reference preferred = .ok (some t) := by
  simp only [find, key, known]
  rfl

theorem find_unidentified {reference : Value} (preferred : Value) (key : reference.isKey = true)
    (unknown : s.identified? reference = none) :
    s.find reference preferred =
      (if preferred.isTrue then s.preferred? reference preferred.toText else .ok none).map
        fun found => found.or (s.named? reference) := by
  simp only [find, key, unknown]
  cases preferred.isTrue with
  | false => rfl
  | true =>
      cases s.preferred? reference preferred.toText <;>
        simp [bind, Except.bind, Except.map, pure, Except.pure]

theorem isKey_of_find {reference preferred : Value} {found : Option Table}
    (h : s.find reference preferred = .ok found) : reference.isKey = true := by
  by_contra refused
  rw [Bool.not_eq_true] at refused
  simp [find, refused, fail, bind, Except.bind] at h

theorem find_cases {reference preferred : Value}
    (found : s.find reference preferred = .ok (some t)) :
    (∃ identifier, s.tables.get? identifier = some t) ∨ t ∈ s.byName.values := by
  have key := isKey_of_find found
  cases known : s.identified? reference with
  | some u =>
      rw [find_identified preferred key known, Except.ok.injEq, Option.some.injEq] at found
      cases reference with
      | text identifier => exact .inl ⟨identifier, found ▸ known⟩
      | _ => simp [identified?] at known
  | none =>
      rw [find_unidentified preferred key known] at found
      split at found
      · cases reference with
        | text name =>
            simp only [preferred?, Except.map, Except.ok.injEq] at found
            split at found
            · rw [Option.none_or] at found
              exact .inr (Entries.mem_values_of_get? found)
            · rcases Option.or_eq_some_iff.mp found with preference | ⟨-, named⟩
              · exact .inl ⟨_, preference⟩
              · exact .inr (Entries.mem_values_of_get? named)
        | _ => simp [preferred?, fail, Except.map] at found
      · simp only [Except.map, Option.none_or, Except.ok.injEq] at found
        exact .inr (Entries.mem_values_of_get? found)

theorem find_text (s : Schema) (name : String) (preferred : Value) :
    ∃ found, s.find (.text name) preferred = .ok found := by
  cases known : s.identified? (.text name) with
  | some t => exact ⟨_, find_identified preferred rfl known⟩
  | none =>
      rw [find_unidentified preferred rfl known]
      split
      · exact ⟨_, rfl⟩
      · exact ⟨_, rfl⟩

theorem mem_of_find (compiled : ofOwned owned = .ok s) {reference preferred : Value}
    (found : s.find reference preferred = .ok (some t)) : t ∈ owned.map (·.2) := by
  rcases find_cases found with ⟨identifier, found⟩ | named
  · exact (get?_tables compiled found).2
  · rw [(ofOwned_ok compiled).2] at named
    simp only [unshared, Entries.values, List.map_map, List.mem_map, List.mem_filter] at named
    obtain ⟨u, ⟨member, -⟩, rfl⟩ := named
    exact List.mem_map.mpr member

/-! ## Unique identifiers -/

theorem holds_of_unique (compiled : ofOwned owned = .ok s)
    (unique : ∀ t ∈ owned.map (·.2), ∀ u ∈ owned.map (·.2), t.identifier = u.identifier → t = u)
    (member : t ∈ owned.map (·.2)) : s.Holds t := by
  have known := mem_keys_tables compiled member
  rw [← Entries.isSome_get? (Entries.exact_of_lawful _), Option.isSome_iff_exists] at known
  obtain ⟨u, found⟩ := known
  have kept := get?_tables compiled found
  rw [Holds, found, unique t member u kept.2 kept.1.symm]

theorem unambiguous_of_unique (compiled : ofOwned owned = .ok s)
    (unique : ∀ t ∈ owned.map (·.2), ∀ u ∈ owned.map (·.2), t.identifier = u.identifier → t = u) :
    s.Unambiguous :=
  fun _ _ _ found => holds_of_unique compiled unique (mem_of_find compiled found)

end Datacube.Schema
