import Datacube.Proofs.Entries
import Mathlib.Data.List.Induction

/-!
# Grouping by keys

Items are put into groups under keys that are compared by an equality of their own. Where this
equality is symmetric and transitive, the group of a key holds the items with an equal key, in their
order.
-/

namespace Datacube

namespace Entries
variable {α β : Type} [BEq α] {entries : Entries α β} {key : α} {value : β}

/-- The equality of keys is symmetric and transitive among those of a kind, if not reflexive. -/
structure Equates (K : α → Prop) : Prop where
  symm : ∀ {a b}, K a → K b → (a == b) = true → (b == a) = true
  trans : ∀ {a b c}, K a → K b → K c → (a == b) = true → (b == c) = true → (a == c) = true

theorem mem_keys_of_put {k : α} (member : k ∈ (entries.put key value).keys) :
    k ∈ entries.keys ∨ k = key := by
  induction entries with
  | nil => exact .inr (List.mem_singleton.mp member)
  | cons e rest ih =>
      rw [put] at member
      split at member
      · exact .inl member
      · rcases List.mem_cons.mp member with rfl | later
        · exact .inl List.mem_cons_self
        · exact (ih later).imp_left (List.mem_cons_of_mem e.1)

theorem mem_put_known {e : α × β} (member : e ∈ entries.put key value) :
    e ∈ entries ∨ e = (key, value) ∧ entries.get? key = none ∨
      ∃ old, (e.1, old) ∈ entries ∧ entries.get? key = some old ∧ (key == e.1) = true ∧
        e.2 = value := by
  induction entries with
  | nil => exact .inr (.inl ⟨List.mem_singleton.mp member, rfl⟩)
  | cons first rest ih =>
      rw [put] at member
      split at member
      · rename_i known
        rcases List.mem_cons.mp member with rfl | later
        · have found : get? (first :: rest) key = some first.2 := by rw [get?_cons, if_pos known]
          exact .inr (.inr ⟨first.2, List.mem_cons_self, found, known, rfl⟩)
        · exact .inl (List.mem_cons_of_mem first later)
      · rename_i unknown
        rw [get?_cons, if_neg unknown]
        rcases List.mem_cons.mp member with rfl | later
        · exact .inl List.mem_cons_self
        · refine (ih later).imp (List.mem_cons_of_mem first) (.imp_right ?_)
          rintro ⟨old, listed, found⟩
          exact ⟨old, List.mem_cons_of_mem first listed, found⟩

section Equates
variable {K : α → Prop} (equates : Equates K) (kind : ∀ k ∈ entries.keys, K k) {other : α}
  (here : K key) (there : K other)
include equates kind here there

omit there kind in
theorem equal_of_equal (there : K other) (equal : (other == key) = true) {k : α} (kind : K k) :
    (other == k) = (key == k) := by
  rw [Bool.eq_iff_iff]
  exact ⟨equates.trans here there kind (equates.symm there here equal),
    equates.trans there here kind equal⟩

theorem get?_equal (equal : (other == key) = true) : entries.get? other = entries.get? key := by
  induction entries with
  | nil => rfl
  | cons e rest ih =>
      rw [get?_cons, get?_cons,
        equal_of_equal equates here there equal (kind e.1 List.mem_cons_self),
        ih fun k later => kind k (List.mem_cons_of_mem _ later)]

theorem get?_put_equal (equal : (other == key) = true) :
    (entries.put key value).get? other = some value := by
  induction entries with
  | nil => rw [put, get?_cons, if_pos equal]
  | cons e rest ih =>
      have alike := equal_of_equal equates here there equal (kind e.1 List.mem_cons_self)
      rw [put]
      split
      · rename_i known
        rw [get?_cons, alike, if_pos known]
      · rename_i unknown
        rw [get?_cons, alike, if_neg unknown,
          ih fun k later => kind k (List.mem_cons_of_mem _ later)]

theorem get?_put_unequal (unequal : (other == key) = false) :
    (entries.put key value).get? other = entries.get? other := by
  induction entries with
  | nil => rw [put, get?_cons, unequal]; rfl
  | cons e rest ih =>
      have first : K e.1 := kind e.1 List.mem_cons_self
      rw [put]
      split
      · rename_i known
        have apart : ¬ (other == e.1) = true := by
          intro same
          have equal := equates.trans there first here same (equates.symm here first known)
          rw [unequal] at equal
          cases equal
        rw [get?_cons, get?_cons, if_neg apart, if_neg apart]
      · rw [get?_cons, get?_cons, ih fun k later => kind k (List.mem_cons_of_mem _ later)]

end Equates

/-! ## Groups -/

section Grouping
variable {γ : Type} {K : α → Prop} {key : γ → α} {items : List γ} {key' : α}

def grouped (key : γ → α) (items : List γ) : Entries α (List γ) :=
  items.foldl (fun acc x => acc.push (key x) x) []

theorem grouped_concat (x : γ) :
    grouped key (items ++ [x]) = (grouped key items).push (key x) x := by
  rw [grouped, List.foldl_append]
  rfl

/-- A group holds items in their order. The first one has its key, and the others equal ones. -/
theorem mem_grouped {e : α × List γ} (member : e ∈ grouped key items) : e.2.Sublist items ∧
    ∃ first rest, e.2 = first :: rest ∧ key first = e.1 ∧ ∀ x ∈ rest, (key x == e.1) = true := by
  induction items using List.reverseRecOn generalizing e with
  | nil => cases member
  | append_singleton items x ih =>
      rw [grouped_concat, push] at member
      rcases mem_put_known member with before | ⟨rfl, new⟩ | ⟨old, listed, found, equal, added⟩
      · obtain ⟨inside, group⟩ := ih before
        exact ⟨inside.trans (List.sublist_append_left _ _), group⟩
      · rw [new]
        exact ⟨List.sublist_append_right _ _, x, [], rfl, rfl, nofun⟩
      · obtain ⟨inside, first, rest, rfl, here, others⟩ := ih listed
        rw [added, found]
        refine ⟨inside.append_right [x], first, rest ++ [x], rfl, here, ?_⟩
        intro y later
        rcases List.mem_append.mp later with earlier | last
        · exact others y earlier
        · rw [List.mem_singleton.mp last]
          exact equal

theorem push_perm (entries : Entries α (List γ)) (k : α) (x : γ) :
    ((entries.push k x).flatMap (·.2)).Perm (entries.flatMap (·.2) ++ [x]) := by
  induction entries with
  | nil => exact .refl _
  | cons e rest ih =>
      rw [push, put, get?_cons]
      split
      · rename_i known
        rw [Option.getD_some, List.flatMap_cons, List.flatMap_cons, List.append_assoc,
          List.append_assoc]
        exact List.perm_append_comm.append_left e.2
      · rw [List.flatMap_cons, List.flatMap_cons, List.append_assoc]
        exact ih.append_left e.2

theorem grouped_perm (key : γ → α) (items : List γ) :
    ((grouped key items).flatMap (·.2)).Perm items := by
  induction items using List.reverseRecOn with
  | nil => exact .refl _
  | append_singleton rest x ih =>
      rw [grouped_concat]
      exact (push_perm _ _ _).trans (ih.append_right [x])

theorem keys_put_cases (entries : Entries α β) (k : α) (value : β) :
    (entries.put k value).keys = entries.keys ∨
      (∀ other ∈ entries.keys, (k == other) = false) ∧
        (entries.put k value).keys = entries.keys ++ [k] := by
  induction entries with
  | nil => exact .inr ⟨fun _ member => absurd member List.not_mem_nil, rfl⟩
  | cons e rest ih =>
      rw [put]
      cases known : k == e.1 with
      | true => exact .inl rfl
      | false =>
          rcases ih with same | ⟨new, keys⟩
          · exact .inl (congrArg (e.1 :: ·) same)
          · exact .inr ⟨List.forall_mem_cons.mpr ⟨known, new⟩, congrArg (e.1 :: ·) keys⟩

/-- No two groups have equal keys. -/
theorem grouped_apart (key : γ → α) (items : List γ) :
    (grouped key items).keys.Pairwise fun k k' => (k' == k) = false := by
  induction items using List.reverseRecOn with
  | nil => exact .nil
  | append_singleton rest x ih =>
      rw [grouped_concat, push]
      rcases keys_put_cases (grouped key rest) (key x) _ with same | ⟨new, keys⟩
      · rw [same]
        exact ih
      · rw [keys, List.pairwise_append]
        refine ⟨ih, List.pairwise_singleton _ _, fun k member k' last => ?_⟩
        rw [List.mem_singleton.mp last]
        exact new k member

theorem get?_of_apart (apart : entries.keys.Pairwise fun k k' => (k' == k) = false)
    (member : (key', value) ∈ entries) (reflexive : (key' == key') = true) :
    entries.get? key' = some value := by
  induction entries with
  | nil => cases member
  | cons e rest ih =>
      rw [keys_cons, List.pairwise_cons] at apart
      rw [get?_cons]
      rcases List.mem_cons.mp member with rfl | later
      · rw [if_pos reflexive]
      · rw [apart.1 key' (List.mem_map_of_mem later), if_neg Bool.false_ne_true]
        exact ih apart.2 later

theorem nodup_keys_grouped (exact : ∀ x ∈ items, Exact (key x)) :
    (grouped key items).keys.Nodup := by
  induction items using List.reverseRecOn with
  | nil => exact List.nodup_nil
  | append_singleton rest x ih =>
      rw [grouped_concat, push]
      exact nodup_keys_put (exact x (by simp))
        (ih fun y listed => exact y (List.mem_append_left _ listed))

theorem push_filter {keep : γ → Bool} {entries : Entries α (List γ)} {k : α} {x : γ}
    (alike : ∀ e ∈ entries, (k == e.1) = true → e.2.all keep = keep x) :
    (entries.push k x).filter (fun e => e.2.all keep) =
      if keep x then push (entries.filter fun e => e.2.all keep) k x
      else entries.filter fun e => e.2.all keep := by
  induction entries with
  | nil => cases kept : keep x <;> simp [push, put, kept]
  | cons e rest ih =>
      rw [List.forall_mem_cons] at alike
      rw [push, put, get?_cons]
      split
      · rename_i known
        have here := alike.1 known
        cases kept : keep x with
        | true => simp [push, put, get?_cons, known, here, kept]
        | false => simp [here, kept]
      · rename_i unknown
        have later := ih alike.2
        rw [push] at later
        rw [List.filter_cons, List.filter_cons, later]
        cases keep x <;> cases e.2.all keep <;> simp [push, put, get?_cons, unknown]

/-- Where items with equal keys are kept together, the groups of the kept items are the kept
groups. -/
theorem grouped_filter {keep : γ → Bool}
    (alike : ∀ x ∈ items, ∀ y ∈ items, (key x == key y) = true → keep x = keep y) :
    grouped key (items.filter keep) = (grouped key items).filter fun e => e.2.all keep := by
  induction items using List.reverseRecOn with
  | nil => rfl
  | append_singleton rest x ih =>
      have earlier := ih fun y listed z listed' =>
        alike y (List.mem_append_left _ listed) z (List.mem_append_left _ listed')
      -- A group with the key of the item is kept if the item is, as its first item is.
      have verdict : ∀ e ∈ grouped key rest, (key x == e.1) = true → e.2.all keep = keep x := by
        intro e member equal
        obtain ⟨inside, first, others, all, here, equals⟩ := mem_grouped member
        have listed : ∀ y ∈ e.2, y ∈ rest ++ [x] := fun y member =>
          List.mem_append_left _ (inside.subset member)
        have starts : first ∈ e.2 := all ▸ List.mem_cons_self
        have same : keep x = keep first :=
          alike x (by simp) first (listed first starts) (here ▸ equal)
        rw [all, List.all_cons, ← same, Bool.and_eq_left_iff_imp, List.all_eq_true]
        intro kept y later
        rw [alike y (listed y (all ▸ List.mem_cons_of_mem first later)) first
          (listed first starts) (here ▸ equals y later), ← same, kept]
      rw [grouped_concat, push_filter verdict, List.filter_append, ← earlier]
      cases kept : keep x with
      | true => rw [List.filter_cons_of_pos kept, List.filter_nil, grouped_concat, if_pos rfl]
      | false => simp [kept]

variable (equates : Equates K) (kind : ∀ x ∈ items, K (key x))
include kind

theorem grouped_keys : ∀ k ∈ (grouped key items).keys, K k := by
  induction items using List.reverseRecOn with
  | nil => nofun
  | append_singleton rest x ih =>
      intro k member
      rw [grouped_concat, push] at member
      rcases mem_keys_of_put member with old | rfl
      · exact ih (fun y listed => kind y (List.mem_append_left _ listed)) k old
      · exact kind x (by simp)

include equates

theorem get?_grouped {k : α} (here : K k) :
    ((grouped key items).get? k).getD [] = items.filter fun x => k == key x := by
  induction items using List.reverseRecOn with
  | nil => rfl
  | append_singleton rest x ih =>
      have earlier : ∀ y ∈ rest, K (key y) := fun y listed => kind y (List.mem_append_left _ listed)
      have last : K (key x) := kind x (by simp)
      rw [grouped_concat, push, List.filter_append, List.filter_singleton]
      cases equal : k == key x with
      | true =>
          have known := grouped_keys earlier
          rw [get?_put_equal equates known last here equal, Option.getD_some,
            ← get?_equal equates known last here equal, ih earlier]
          rfl
      | false =>
          rw [get?_put_unequal equates (grouped_keys earlier) last here equal, ih earlier]
          simp

/-- A group holds all items with an equal key, in their order. -/
theorem group_eq_filter {e : α × List γ} (member : e ∈ grouped key items)
    (reflexive : (e.1 == e.1) = true) : e.2 = items.filter fun x => e.1 == key x := by
  have here := grouped_keys kind e.1 (List.mem_map_of_mem member)
  rw [← get?_grouped equates kind here, get?_of_apart (grouped_apart key items) member reflexive,
    Option.getD_some]

end Grouping

end Entries
end Datacube
