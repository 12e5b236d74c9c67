import Datacube.Value.Basic
import Mathlib.Data.List.Find
import Mathlib.Data.List.Induction
import Mathlib.Data.List.Nodup

/-!
# Looking up entries

What is found under a key, for keys that equal nothing but themselves. Texts are such keys among
all values.
-/

namespace Datacube

namespace Value

theorem same_text (s : String) (v : Value) : same (.text s) v = true ↔ Value.text s = v := by
  cases v <;> simp [same, magnitude?]

theorem same_text_right (v : Value) (s : String) : same v (.text s) = true ↔ v = .text s := by
  cases v with
  | text t => simp [same]
  | decimal d => cases d <;> simp [same, magnitude?]
  | _ => simp [same, magnitude?]

theorem isText_iff (v : Value) (s : String) : v.isText s = true ↔ v = .text s := by
  cases v with
  | text t => rw [isText, beq_iff_eq, text.injEq, eq_comm]
  | _ => simp [isText]

theorem beq_text (v : Value) (s : String) : (v == Value.text s) = true ↔ v = .text s :=
  same_text_right v s

theorem eq_null_of_isNull {v : Value} (null : v.isNull = true) : v = .null := by
  cases v with
  | null => rfl
  | _ => cases null

/-! ## Items told apart by values -/

section Find
variable {α : Type} {items items' : List α} {f : α → Value} {x : α} {s : String}
  (distinct : (items.map f).Nodup)
include distinct

theorem find?_text : items.find? (f · == .text s) = some x ↔ x ∈ items ∧ f x = .text s := by
  constructor
  · intro found
    have same := List.find?_some found
    exact ⟨List.mem_of_find?_eq_some found, (beq_text (f x) s).mp same⟩
  · rintro ⟨member, same⟩
    have known : (items.find? (f · == .text s)).isSome := by
      rw [List.find?_isSome]
      exact ⟨x, member, (beq_text (f x) s).mpr same⟩
    obtain ⟨y, found⟩ := Option.isSome_iff_exists.mp known
    have same' := List.find?_some found
    rw [beq_text] at same'
    rw [found, List.inj_on_of_nodup_map distinct (List.mem_of_find?_eq_some found) member
      (same'.trans same.symm)]

/-- What is found under a key does not depend on the order. -/
theorem find?_perm (text : ∀ x ∈ items, ∃ s, f x = .text s) (moved : items.Perm items')
    (key : Value) : items.find? (f · == key) = items'.find? (f · == key) := by
  apply List.find?_eq_find?_of_perm moved
  rintro x ⟨member, same⟩ y ⟨member', same'⟩
  obtain ⟨s, named⟩ := text x member
  obtain ⟨s', named'⟩ := text y member'
  refine List.inj_on_of_nodup_map distinct member member' ?_
  rw [named] at same
  rw [named'] at same'
  rw [named, named', (same_text s key).mp same, (same_text s' key).mp same']

end Find

end Value

namespace Entries
variable {α β : Type} [BEq α]

def Exact (key : α) : Prop := ∀ other, (key == other) = true ↔ key = other

theorem exact_of_lawful [LawfulBEq α] (key : α) : Exact key := fun _ => beq_iff_eq

theorem exact_text (s : String) : Exact (Value.text s) := Value.same_text s

variable {entries : Entries α β} {key : α} {value : β}

theorem mem_of_get? (exact : Exact key) (found : entries.get? key = some value) :
    (key, value) ∈ entries := by
  induction entries with
  | nil => simp at found
  | cons e rest ih =>
      rw [get?_cons] at found
      split at found
      · rename_i equal
        rw [(exact e.1).mp equal, ← Option.some.inj found]
        exact List.mem_cons_self
      · exact List.mem_cons_of_mem e (ih found)

theorem mem_values_of_get? (found : entries.get? key = some value) : value ∈ entries.values := by
  induction entries with
  | nil => simp at found
  | cons e rest ih =>
      rw [get?_cons] at found
      split at found
      · rw [← Option.some.inj found]
        exact List.mem_cons_self
      · exact List.mem_cons_of_mem e.2 (ih found)

theorem get?_eq_none (exact : Exact key) : entries.get? key = none ↔ key ∉ entries.keys := by
  induction entries with
  | nil => simp
  | cons e rest ih =>
      rw [get?_cons, keys_cons, List.mem_cons, not_or]
      split
      · rename_i equal
        simp [(exact e.1).mp equal]
      · rename_i unequal
        rw [exact e.1] at unequal
        rw [ih, and_iff_right unequal]

theorem get?_of_mem (exact : Exact key) (distinct : entries.keys.Nodup)
    (member : (key, value) ∈ entries) : entries.get? key = some value := by
  induction entries with
  | nil => simp at member
  | cons e rest ih =>
      rw [keys_cons, List.nodup_cons] at distinct
      rw [get?_cons]
      rcases List.mem_cons.mp member with rfl | member
      · rw [if_pos ((exact key).mpr rfl)]
      · have unequal : ¬ (key == e.1) = true := by
          rw [exact e.1]
          rintro rfl
          exact distinct.1 (List.mem_map_of_mem (f := (·.1)) member)
        rw [if_neg unequal, ih distinct.2 member]

theorem isSome_get? (exact : Exact key) : (entries.get? key).isSome ↔ key ∈ entries.keys := by
  rw [← not_iff_not, ← get?_eq_none exact, Bool.not_eq_true, Option.isSome_eq_false_iff,
    Option.isNone_iff_eq_none]

theorem has_iff (exact : Exact key) : entries.has key = true ↔ key ∈ entries.keys :=
  isSome_get? exact

omit [BEq α] in
theorem keys_mapValues {γ : Type} (f : β → γ) : (entries.mapValues f).keys = entries.keys := by
  rw [keys, mapValues, List.map_map]
  rfl

theorem get?_mapValues {γ : Type} (f : β → γ) :
    (entries.mapValues f).get? key = (entries.get? key).map f := by
  induction entries with
  | nil => rfl
  | cons e rest ih =>
      rw [mapValues, List.map_cons, get?_cons, get?_cons]
      split
      · rfl
      · exact ih

/-! ## Putting -/

theorem put_unequal (unequal : ∀ e ∈ entries, (key == e.1) = false) :
    entries.put key value = entries ++ [(key, value)] := by
  induction entries with
  | nil => rfl
  | cons e rest ih =>
      rw [put, if_neg (by simp [unequal e List.mem_cons_self]),
        ih fun e later => unequal e (List.mem_cons_of_mem _ later), List.cons_append]

theorem put_new (exact : Exact key) (absent : key ∉ entries.keys) :
    entries.put key value = entries ++ [(key, value)] := by
  apply put_unequal
  intro e member
  rw [← Bool.not_eq_true, exact e.1]
  rintro rfl
  exact absent (List.mem_map_of_mem member)

theorem get?_put_exact (exact : Exact key) : (entries.put key value).get? key = some value := by
  have same := (exact key).mpr rfl
  induction entries with
  | nil => rw [put, get?_cons, if_pos same]
  | cons e rest ih =>
      rw [put]
      split
      · rename_i known
        rw [get?_cons, if_pos known]
      · rename_i unknown
        rw [get?_cons, if_neg unknown, ih]

theorem get?_put_differs {other : α} (exact : Exact key) (unequal : ¬ (other == key) = true) :
    (entries.put key value).get? other = entries.get? other := by
  induction entries with
  | nil => rw [put, get?_cons, if_neg unequal]
  | cons e rest ih =>
      rw [put]
      split
      · rename_i known
        have differs : ¬ (other == e.1) = true := (exact e.1).mp known ▸ unequal
        rw [get?_cons, get?_cons, if_neg differs, if_neg differs]
      · rw [get?_cons, get?_cons, ih]

theorem get?_put_apart {other : α} (exact : Exact key) (exact' : Exact other)
    (apart : other ≠ key) : (entries.put key value).get? other = entries.get? other :=
  get?_put_differs exact fun same => apart ((exact' key).mp same)

theorem keys_put_known (exact : Exact key) (known : key ∈ entries.keys) :
    (entries.put key value).keys = entries.keys := by
  induction entries with
  | nil => simp at known
  | cons e rest ih =>
      rw [put]
      split
      · rfl
      · rename_i unequal
        rw [exact e.1] at unequal
        rw [keys_cons, keys_cons, ih ((List.mem_cons.mp known).resolve_left unequal)]

omit [BEq α] in
theorem keys_append_one : keys (entries ++ [(key, value)]) = entries.keys ++ [key] := by
  simp [keys]

theorem mem_keys_put (exact : Exact key) {other : α} :
    other ∈ (entries.put key value).keys ↔ other ∈ entries.keys ∨ other = key := by
  by_cases known : key ∈ entries.keys
  · rw [keys_put_known exact known]
    exact ⟨.inl, fun h => h.elim id fun equal => equal ▸ known⟩
  · rw [put_new exact known, keys_append_one, List.mem_append, List.mem_singleton]

theorem mem_put (exact : Exact key) {e : α × β} (member : e ∈ entries.put key value) :
    e = (key, value) ∨ e ∈ entries := by
  induction entries with
  | nil => exact .inl (by simpa [put] using member)
  | cons first rest ih =>
      rw [put] at member
      split at member
      · rename_i equal
        rw [← (exact first.1).mp equal] at member
        rcases List.mem_cons.mp member with here | later
        · exact .inl here
        · exact .inr (List.mem_cons_of_mem first later)
      · rcases List.mem_cons.mp member with rfl | later
        · exact .inr List.mem_cons_self
        · exact (ih later).imp_right (List.mem_cons_of_mem first)

theorem nodup_keys_put (exact : Exact key) (distinct : entries.keys.Nodup) :
    (entries.put key value).keys.Nodup := by
  by_cases known : key ∈ entries.keys
  · rw [keys_put_known exact known]
    exact distinct
  · rw [put_new exact known, keys_append_one]
    simpa using List.Nodup.concat known distinct

theorem putNew_known (exact : Exact key) (known : key ∈ entries.keys) :
    entries.putNew key value = entries := by
  rw [putNew, if_pos ((has_iff exact).mpr known)]

theorem putNew_new (exact : Exact key) (absent : key ∉ entries.keys) :
    entries.putNew key value = entries ++ [(key, value)] := by
  rw [putNew, if_neg (by rw [has_iff exact]; exact absent)]

theorem mem_keys_putNew (exact : Exact key) {other : α} :
    other ∈ (entries.putNew key value).keys ↔ other ∈ entries.keys ∨ other = key := by
  by_cases known : key ∈ entries.keys
  · rw [putNew_known exact known]
    exact ⟨.inl, fun h => h.elim id fun equal => equal ▸ known⟩
  · rw [putNew_new exact known, keys_append_one, List.mem_append, List.mem_singleton]

theorem prefix_putNew : entries <+: entries.putNew key value := by
  rw [putNew]
  split
  · exact List.prefix_rfl
  · exact List.prefix_append _ _

theorem mem_putNew {e : α × β} (member : e ∈ entries.putNew key value) :
    e ∈ entries ∨ e = (key, value) := by
  rw [putNew] at member
  split at member
  · exact .inl member
  · exact (List.mem_append.mp member).imp_right List.mem_singleton.mp

omit [BEq α] in
theorem keys_filterMap {γ : Type} (entries : Entries α β) (f : β → Option γ) :
    (keys (entries.filterMap fun e => (f e.2).map fun y => (e.1, y))).Sublist entries.keys := by
  induction entries with
  | nil => exact List.Sublist.slnil
  | cons e rest ih =>
      cases image : f e.2 with
      | none =>
          rw [List.filterMap_cons_none (by rw [image]; rfl)]
          exact ih.cons e.1
      | some y =>
          rw [List.filterMap_cons_some (by rw [image]; rfl)]
          exact ih.cons_cons e.1

/-! ## Entries of pairs -/

theorem nodup_keys_putAll {pairs : List (α × β)} (exact : ∀ pair ∈ pairs, Exact pair.1)
    (distinct : entries.keys.Nodup) : (entries.putAll pairs).keys.Nodup := by
  induction pairs generalizing entries with
  | nil => exact distinct
  | cons pair rest ih =>
      exact ih (fun p member => exact p (List.mem_cons_of_mem pair member))
        (nodup_keys_put (exact pair List.mem_cons_self) distinct)

theorem mem_putAll {pairs : List (α × β)} (exact : ∀ pair ∈ pairs, Exact pair.1) {e : α × β}
    (member : e ∈ entries.putAll pairs) : e ∈ entries ∨ e ∈ pairs := by
  induction pairs generalizing entries with
  | nil => exact .inl member
  | cons pair rest ih =>
      rcases ih (fun p member => exact p (List.mem_cons_of_mem pair member)) member with put | later
      · rcases mem_put (exact pair List.mem_cons_self) put with rfl | old
        · exact .inr List.mem_cons_self
        · exact .inl old
      · exact .inr (List.mem_cons_of_mem pair later)

theorem mem_keys_putAll {pairs : List (α × β)} (exact : ∀ pair ∈ pairs, Exact pair.1) :
    key ∈ (entries.putAll pairs).keys ↔ key ∈ entries.keys ∨ key ∈ pairs.map (·.1) := by
  induction pairs generalizing entries with
  | nil => simp [putAll]
  | cons pair rest ih =>
      have step : entries.putAll (pair :: rest) = (entries.put pair.1 pair.2).putAll rest := rfl
      rw [step, ih (fun p member => exact p (List.mem_cons_of_mem pair member)),
        mem_keys_put (exact pair List.mem_cons_self), List.map_cons, List.mem_cons, or_assoc]

theorem get?_putAll_absent {pairs : List (α × β)} (exact : Exact key)
    (exacts : ∀ pair ∈ pairs, Exact pair.1) (absent : ∀ pair ∈ pairs, pair.1 ≠ key) :
    (entries.putAll pairs).get? key = entries.get? key := by
  induction pairs generalizing entries with
  | nil => rfl
  | cons pair rest ih =>
      have step : entries.putAll (pair :: rest) = (entries.put pair.1 pair.2).putAll rest := rfl
      rw [step, ih (fun p later => exacts p (List.mem_cons_of_mem pair later))
        (fun p later => absent p (List.mem_cons_of_mem pair later)),
        get?_put_apart (exacts pair List.mem_cons_self) exact (absent pair List.mem_cons_self).symm]

/-- Keys with the values of a function have them, however often a key is put. -/
theorem get?_putAll_map {f : α → β} {keys : List α} (exact : ∀ k ∈ keys, Exact k)
    (listed : key ∈ keys) :
    (entries.putAll (keys.map fun k => (k, f k))).get? key = some (f key) := by
  induction keys using List.reverseRecOn with
  | nil => cases listed
  | append_singleton keys last ih =>
      have told := exact last (List.mem_append_right _ List.mem_cons_self)
      have step : entries.putAll ((keys ++ [last]).map fun k => (k, f k)) =
          (entries.putAll (keys.map fun k => (k, f k))).put last (f last) := by
        rw [putAll, putAll, List.map_append, List.foldl_append]
        rfl
      rw [step]
      by_cases same : key = last
      · rw [same, get?_put_exact told]
      · rw [get?_put_apart told (exact key listed) same]
        exact ih (fun k member => exact k (List.mem_append_left _ member))
          ((List.mem_append.mp listed).resolve_right (mt List.mem_singleton.mp same))

/-- Keys that are put come after the keys before. -/
theorem keys_putAll_append {pairs : List (α × β)} (exact : ∀ pair ∈ pairs, Exact pair.1)
    (entries : Entries α β) : ∃ extra, (entries.putAll pairs).keys = entries.keys ++ extra ∧
      extra ⊆ pairs.map (·.1) := by
  induction pairs generalizing entries with
  | nil => exact ⟨[], (List.append_nil _).symm, List.nil_subset _⟩
  | cons pair rest ih =>
      have step : entries.putAll (pair :: rest) = (entries.put pair.1 pair.2).putAll rest := rfl
      obtain ⟨extra, keys, new⟩ := ih (fun p later =>
        exact p (List.mem_cons_of_mem pair later)) (entries.put pair.1 pair.2)
      rw [← step] at keys
      by_cases known : pair.1 ∈ entries.keys
      · rw [keys_put_known (exact pair List.mem_cons_self) known] at keys
        exact ⟨extra, keys, List.subset_cons_of_subset _ new⟩
      · rw [put_new (exact pair List.mem_cons_self) known, keys_append_one, List.append_assoc]
          at keys
        exact ⟨pair.1 :: extra, keys, List.cons_subset_cons _ new⟩

theorem mem_values_put {v : β} (member : v ∈ (entries.put key value).values) :
    v = value ∨ v ∈ entries.values := by
  induction entries with
  | nil => exact .inl (by simpa [put, values] using member)
  | cons e rest ih =>
      rw [put] at member
      split at member
      · exact (List.mem_cons.mp member).imp_right (List.mem_cons_of_mem e.2)
      · rcases List.mem_cons.mp member with rfl | later
        · exact .inr List.mem_cons_self
        · exact (ih later).imp_right (List.mem_cons_of_mem e.2)

theorem mem_values_putAll {pairs : List (α × β)} {v : β}
    (member : v ∈ (entries.putAll pairs).values) : v ∈ entries.values ∨ ∃ p ∈ pairs, p.2 = v := by
  induction pairs generalizing entries with
  | nil => exact .inl member
  | cons pair rest ih =>
      rcases ih member with put | ⟨p, later, same⟩
      · rcases mem_values_put put with rfl | old
        · exact .inr ⟨pair, List.mem_cons_self, rfl⟩
        · exact .inl old
      · exact .inr ⟨p, List.mem_cons_of_mem pair later, same⟩

theorem mem_values_ofPairs {pairs : List (α × β)} {v : β}
    (member : v ∈ (ofPairs pairs).values) : ∃ p ∈ pairs, p.2 = v :=
  (mem_values_putAll member).resolve_left List.not_mem_nil

theorem nodup_keys_ofPairs {pairs : List (α × β)} (exact : ∀ pair ∈ pairs, Exact pair.1) :
    (ofPairs pairs).keys.Nodup :=
  nodup_keys_putAll exact List.nodup_nil

theorem mem_ofPairs {pairs : List (α × β)} (exact : ∀ pair ∈ pairs, Exact pair.1) {e : α × β}
    (member : e ∈ ofPairs pairs) : e ∈ pairs :=
  (mem_putAll exact member).resolve_left List.not_mem_nil

theorem mem_keys_ofPairs {pairs : List (α × β)} (exact : ∀ pair ∈ pairs, Exact pair.1) :
    key ∈ (ofPairs pairs).keys ↔ key ∈ pairs.map (·.1) :=
  (mem_keys_putAll exact).trans (or_iff_right List.not_mem_nil)

theorem putAll_new {pairs : List (α × β)} (exact : ∀ pair ∈ pairs, Exact pair.1)
    (distinct : (entries.keys ++ pairs.map (·.1)).Nodup) :
    entries.putAll pairs = entries ++ pairs := by
  induction pairs generalizing entries with
  | nil => exact (List.append_nil _).symm
  | cons pair rest ih =>
      have step : entries.putAll (pair :: rest) = (entries.put pair.1 pair.2).putAll rest := rfl
      have absent : pair.1 ∉ entries.keys := fun known =>
        List.disjoint_of_nodup_append distinct known List.mem_cons_self
      rw [step, put_new (exact pair List.mem_cons_self) absent,
        ih (fun p member => exact p (List.mem_cons_of_mem pair member)), List.append_assoc,
        List.singleton_append]
      rw [keys_append_one, List.append_assoc, List.singleton_append]
      exact distinct

theorem ofPairs_of_nodup {pairs : List (α × β)} (exact : ∀ pair ∈ pairs, Exact pair.1)
    (distinct : (pairs.map (·.1)).Nodup) : ofPairs pairs = pairs :=
  putAll_new exact (by simpa using distinct)

end Entries
end Datacube
