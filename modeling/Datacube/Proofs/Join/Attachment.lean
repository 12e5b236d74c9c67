import Datacube.Proofs.Join.Graph
import Mathlib.Logic.Relation

/-!
# Orders of attachment

Tables are attached in the given order, each to one that is connected before it: along relations, or
by a requested dimension that both declare. Steps along relations make up longer paths, shared
dimensions do not. So without requested dimensions the order does not matter, and with them a table
can come too early.
-/

namespace Datacube.JoinGraph
open PathFinder

/-- Both tables declare one of the dimensions. -/
def ShareDimension (dimensions : List Dimension) (s t : Table) : Prop :=
  ∃ d ∈ dimensions, (s.dimensions.get? (.text d.key)).isSome ∧
    (t.dimensions.get? (.text d.key)).isSome

/-- The second table can be attached to the first one. -/
def Linked (f : PathFinder) (dimensions : List Dimension) (s t : Table) : Prop :=
  (∃ path, f.Chain s path t) ∨ ShareDimension dimensions s t

/-- Each table of the list can be attached to a connected one or to one before it. -/
def Attachable (f : PathFinder) (dimensions : List Dimension) (connected order : List Table) :
    Prop :=
  ∀ before t after, order = before ++ t :: after →
    ∃ s ∈ connected ++ before, Linked f dimensions s t

/-- Links between tables of the list lead to the table. -/
def Connected (f : PathFinder) (dimensions : List Dimension) (first : Table) (rest : List Table) :
    Table → Prop :=
  Relation.ReflTransGen (fun s t => t ∈ rest ∧ Linked f dimensions s t) first

variable {f : PathFinder} {owned : List (String × Table)} {tables connected order rest : List Table}
  {first s t target : Table} {dimensions : List Dimension} {g : Growth}

/-- A join graph is built from the first table for the others in this order. -/
def Builds (f : PathFinder) (dimensions : List Dimension) (first : Table) (order : List Table) :
    Prop :=
  ∃ joins, build f (first :: order) dimensions = .ok joins

theorem Linked.refl (f : PathFinder) (dimensions : List Dimension) (t : Table) :
    Linked f dimensions t t :=
  .inl ⟨[], .nil t⟩

theorem attachable_nil (f : PathFinder) (dimensions : List Dimension) (connected : List Table) :
    Attachable f dimensions connected [] :=
  fun before t after split => absurd split (by simp)

theorem attachable_cons : Attachable f dimensions connected (t :: order) ↔
    (∃ s ∈ connected, Linked f dimensions s t) ∧
      Attachable f dimensions (connected ++ [t]) order := by
  constructor
  · intro attachable
    refine ⟨by simpa using attachable [] t order rfl, fun before u after split => ?_⟩
    rw [List.append_assoc]
    exact attachable (t :: before) u after (congrArg (t :: ·) split)
  · rintro ⟨first, later⟩ before u after split
    cases before with
    | nil =>
        obtain ⟨rfl, -⟩ := List.cons_eq_cons.mp split
        rwa [List.append_nil]
    | cons b before =>
        obtain ⟨rfl, inner⟩ := List.cons_eq_cons.mp split
        rw [List.append_cons]
        exact later before u after inner

theorem Attachable.mono {more : List Table} (attachable : Attachable f dimensions connected order)
    (within : connected ⊆ more) : Attachable f dimensions more order := by
  intro before t after split
  obtain ⟨s, member, linked⟩ := attachable before t after split
  refine ⟨s, ?_, linked⟩
  exact List.mem_append.mpr ((List.mem_append.mp member).imp_left (within ·))

/-! ## Attaching one table -/

theorem dimensionJoin?_isSome : (dimensionJoin? connected target dimensions).isSome ↔
    ∃ s ∈ connected, ShareDimension dimensions s target := by
  rw [dimensionJoin?, List.findSome?_isSome_iff]
  constructor
  · rintro ⟨d, requested, joined⟩
    obtain ⟨step, joined⟩ := Option.isSome_iff_exists.mp joined
    obtain ⟨theirs, declared, joined⟩ := Option.bind_eq_some_iff.mp joined
    obtain ⟨s, member, joined⟩ := List.exists_of_findSome?_eq_some joined
    obtain ⟨own, declared', -⟩ := Option.map_eq_some_iff.mp joined
    exact ⟨s, member, d, requested, by rw [declared']; rfl, by rw [declared]; rfl⟩
  · rintro ⟨s, member, d, requested, declared', declared⟩
    refine ⟨d, requested, ?_⟩
    obtain ⟨theirs, declared⟩ := Option.isSome_iff_exists.mp declared
    rw [declared, Option.bind_some, List.findSome?_isSome_iff]
    exact ⟨s, member, by rw [Option.isSome_map]; exact declared'⟩

section Attach
variable (clear : f.Clear tables) (nodup : f.schema.tables.keys.Nodup)
  (sound : ∀ s ∈ tables, ∀ e, ¬ f.Breaks s e)
include clear nodup sound

theorem find_isSome (member : s ∈ tables) (wanted : t ∈ tables) :
    ∃ found, f.find s t = .ok found ∧ (found.isSome ↔ ∃ path, f.Chain s path t) := by
  cases found : f.find s t with
  | error e =>
      by_cases same : s.identifier = t.identifier
      · rw [find_same f same] at found
        cases found
      · cases free : f.permits s t with
        | false =>
            rw [find_barred same free] at found
            cases found
        | true =>
            have settled := find_settles (clear.single member) nodup same free
            rw [found] at settled
            exact absurd settled (sound s member e)
  | ok answer =>
      refine ⟨answer, rfl, ?_⟩
      cases answer with
      | none =>
          refine ⟨nofun, ?_⟩
          rintro ⟨path, chain⟩
          exact absurd ⟨path, t, chain, rfl⟩ (find_lost clear nodup member wanted found)
      | some path =>
          obtain ⟨u, same, shortest⟩ := find_found (clear.single member) nodup found
          obtain rfl := clear.unique member shortest.chain wanted (.nil t) same
          exact ⟨fun _ => ⟨path, shortest.chain⟩, fun _ => rfl⟩

theorem path?_isSome (requested : connected ⊆ tables) (wanted : target ∈ tables) :
    ∃ found, path? f connected target = .ok found ∧
      (found.isSome ↔ ∃ s ∈ connected, ∃ path, f.Chain s path target) := by
  induction connected with
  | nil => exact ⟨none, rfl, nofun, nofun⟩
  | cons s rest ih =>
      obtain ⟨here, rest_requested⟩ := List.cons_subset.mp requested
      obtain ⟨later, searched, later_iff⟩ := ih rest_requested
      obtain ⟨found, looked, found_iff⟩ := find_isSome clear nodup sound here wanted
      rw [path?, List.findSomeM?_cons, looked]
      cases found with
      | none =>
          have lost := found_iff.not.mp (by simp)
          exact ⟨later, searched, by simp [later_iff, lost]⟩
      | some path => exact ⟨some path, rfl, by simp [found_iff.mp rfl]⟩

/-- A table can be attached when one of the connected tables is linked with it. -/
theorem exists_attach (requested : connected ⊆ tables) (wanted : target ∈ tables) :
    (∃ steps, attach f connected target dimensions = .ok steps) ↔
      ∃ s ∈ connected, Linked f dimensions s target := by
  obtain ⟨found, looked, found_iff⟩ := path?_isSome clear nodup sound requested wanted
  have links : (∃ s ∈ connected, Linked f dimensions s target) ↔
      found.isSome ∨ (dimensionJoin? connected target dimensions).isSome := by
    rw [found_iff, dimensionJoin?_isSome]
    simp only [Linked, and_or_left, exists_or]
  rw [links, attach, looked]
  cases found with
  | some path => simp [bind, Except.bind, pure, Except.pure]
  | none =>
      cases shared : dimensionJoin? connected target dimensions with
      | some step => simp [bind, Except.bind, pure, Except.pure]
      | none => simp [bind, Except.bind, refuse]

theorem exists_add (requested : g.connected ⊆ tables) (wanted : target ∈ tables) :
    (∃ g', Growth.add f dimensions g target = .ok g') ↔
      ∃ s ∈ g.connected, Linked f dimensions s target := by
  rw [Growth.add]
  split
  · rename_i present
    obtain ⟨s, member, same⟩ := List.any_eq_true.mp present
    obtain rfl := clear.unique (requested member) (.nil s) wanted (.nil target) (beq_iff_eq.mp same)
    exact ⟨fun _ => ⟨s, member, .refl f dimensions s⟩, fun _ => ⟨g, rfl⟩⟩
  · rw [← exists_attach clear nodup sound requested wanted]
    simp only [Outcome.bind_eq_ok, Outcome.pure_eq_ok]
    constructor
    · rintro ⟨_, steps, attached, -⟩
      exact ⟨steps, attached⟩
    · rintro ⟨steps, attached⟩
      exact ⟨_, steps, attached, rfl⟩

omit nodup sound in
theorem connected_add {g' : Growth} (requested : g.connected ⊆ tables) (wanted : target ∈ tables)
    (added : Growth.add f dimensions g target = .ok g') :
    g'.connected ⊆ g.connected ++ [target] ∧ g.connected ++ [target] ⊆ g'.connected := by
  rw [Growth.add] at added
  split at added
  · rename_i present
    obtain ⟨s, member, same⟩ := List.any_eq_true.mp present
    obtain rfl := clear.unique (requested member) (.nil s) wanted (.nil target) (beq_iff_eq.mp same)
    obtain rfl := Except.ok.inj added
    exact ⟨List.subset_append_left _ _,
      List.append_subset.mpr ⟨List.Subset.refl _, by simpa using member⟩⟩
  · simp only [Outcome.bind_eq_ok, Outcome.pure_eq_ok] at added
    obtain ⟨steps, -, rfl⟩ := added
    exact ⟨List.Subset.refl _, List.Subset.refl _⟩

/-! ## Attaching all tables -/

theorem exists_run (requested : g.connected ⊆ tables) (wanted : order ⊆ tables) :
    (∃ g', order.foldlM (Growth.add f dimensions) g = .ok g') ↔
      Attachable f dimensions g.connected order := by
  induction order generalizing g with
  | nil => exact ⟨fun _ => attachable_nil f dimensions g.connected, fun _ => ⟨g, rfl⟩⟩
  | cons t rest ih =>
      obtain ⟨here, later⟩ := List.cons_subset.mp wanted
      have run {next : Growth} (added : Growth.add f dimensions g t = .ok next) :
          (∃ g', rest.foldlM (Growth.add f dimensions) next = .ok g') ↔
            Attachable f dimensions (g.connected ++ [t]) rest := by
        obtain ⟨within, more⟩ := connected_add clear requested here added
        have inside : g.connected ++ [t] ⊆ tables :=
          List.append_subset.mpr ⟨requested, by simpa using here⟩
        rw [ih (List.Subset.trans within inside) later]
        exact ⟨(·.mono within), (·.mono more)⟩
      rw [attachable_cons, ← exists_add clear nodup sound requested here, List.foldlM_cons]
      simp only [Outcome.bind_eq_ok]
      constructor
      · rintro ⟨g', next, added, ran⟩
        exact ⟨⟨next, added⟩, (run added).mp ⟨g', ran⟩⟩
      · rintro ⟨⟨next, added⟩, attachable⟩
        obtain ⟨g', ran⟩ := (run added).mpr attachable
        exact ⟨g', next, added, ran⟩

theorem builds_iff (inside : first :: order ⊆ tables) :
    Builds f dimensions first order ↔ Attachable f dimensions [first] order := by
  obtain ⟨here, later⟩ := List.cons_subset.mp inside
  rw [← exists_run (g := ⟨[first], []⟩) clear nodup sound (by simpa using here) later, Builds]
  cases order with
  | nil => exact ⟨fun _ => ⟨_, rfl⟩, fun _ => ⟨_, rfl⟩⟩
  | cons second rest =>
      simp only [build, Outcome.bind_eq_ok, Outcome.pure_eq_ok]
      constructor
      · rintro ⟨_, grown, run, -⟩
        exact ⟨grown, run⟩
      · rintro ⟨grown, run⟩
        exact ⟨_, grown, run, rfl⟩

end Attach

/-! ## Orders -/

theorem connected_of_attachable {from' : List Table}
    (start : ∀ s ∈ from', Connected f dimensions first rest s) (inside : order ⊆ rest)
    (attachable : Attachable f dimensions from' order) :
    ∀ t ∈ order, Connected f dimensions first rest t := by
  induction order generalizing from' with
  | nil => simp
  | cons t order ih =>
      obtain ⟨here, later⟩ := List.cons_subset.mp inside
      obtain ⟨⟨s, member, linked⟩, attachable⟩ := attachable_cons.mp attachable
      have reached : Connected f dimensions first rest t := (start s member).tail ⟨here, linked⟩
      have start : ∀ s ∈ from' ++ [t], Connected f dimensions first rest s := by
        simpa [or_imp, forall_and] using ⟨start, reached⟩
      exact List.forall_mem_cons.mpr ⟨reached, ih start later attachable⟩

/-- Links that lead out of a list of tables do so at some place. -/
theorem Connected.leaves (reached : Connected f dimensions first rest t)
    (start : first ∈ connected) :
    t ∈ connected ∨ ∃ s ∈ connected, ∃ u ∈ rest, u ∉ connected ∧ Linked f dimensions s u := by
  induction reached with
  | refl => exact .inl start
  | @tail s u _ link ih =>
      rcases ih with inside | left
      · by_cases known : u ∈ connected
        · exact .inl known
        · exact .inr ⟨s, inside, u, link.1, known, link.2⟩
      · exact .inr left

/-- Connected tables can be attached in some order. -/
theorem exists_attachable (start : first ∈ connected) (covers : rest ⊆ connected ++ order)
    (reached : ∀ t ∈ order, Connected f dimensions first rest t) :
    ∃ order', order'.Perm order ∧ Attachable f dimensions connected order' := by
  induction size : order.length generalizing connected order with
  | zero =>
      rw [List.length_eq_zero_iff] at size
      exact ⟨[], size ▸ .nil, attachable_nil f dimensions connected⟩
  | succ n ih =>
      -- A table of the rest that is linked with a connected one comes next.
      have next : ∃ t ∈ order, ∃ s ∈ connected, Linked f dimensions s t := by
        obtain ⟨t, member⟩ := List.exists_mem_of_length_pos (by omega : 0 < order.length)
        rcases (reached t member).leaves start with inside | ⟨s, inside, u, listed, new, linked⟩
        · exact ⟨t, member, t, inside, .refl f dimensions t⟩
        · exact ⟨u, (List.mem_append.mp (covers listed)).resolve_left new, s, inside, linked⟩
      obtain ⟨t, member, s, inside, linked⟩ := next
      obtain ⟨before, after, rfl⟩ := List.append_of_mem member
      have covers : rest ⊆ (connected ++ [t]) ++ (before ++ after) := by
        intro u listed
        have known := covers listed
        simp only [List.mem_append, List.mem_cons, List.not_mem_nil, or_false] at known ⊢
        tauto
      have reached : ∀ u ∈ before ++ after, Connected f dimensions first rest u := by
        intro u listed
        exact reached u (List.perm_middle.mem_iff.mpr (List.mem_cons_of_mem t listed))
      have size : (before ++ after).length = n := by
        simp only [List.length_append, List.length_cons] at size ⊢
        omega
      obtain ⟨order', moved, attachable⟩ :=
        ih (List.mem_append_left _ start) covers reached size
      refine ⟨t :: order', ?_, attachable_cons.mpr ⟨⟨s, inside, linked⟩, attachable⟩⟩
      exact (moved.cons t).trans List.perm_middle.symm

theorem forall_attachable : (∀ order, order.Perm rest → Attachable f dimensions [first] order) ↔
    ∀ t ∈ rest, Linked f dimensions first t := by
  constructor
  · intro all t member
    obtain ⟨before, after, rfl⟩ := List.append_of_mem member
    obtain ⟨s, inside, linked⟩ :=
      all (t :: (before ++ after)) List.perm_middle.symm [] t _ rfl
    rwa [List.mem_singleton.mp inside] at linked
  · rintro linked order moved before t after rfl
    exact ⟨first, by simp, linked t (moved.subset (by simp))⟩

/-- Where tables that share a dimension are related too, links make up longer ones. -/
theorem linked_of_connected
    (related : ∀ s ∈ first :: rest, ∀ t ∈ rest, ShareDimension dimensions s t →
      ∃ path, f.Chain s path t)
    (reached : Connected f dimensions first rest t) : Linked f dimensions first t := by
  suffices chained : (t = first ∨ t ∈ rest) ∧ ∃ path, f.Chain first path t from .inl chained.2
  induction reached with
  | refl => exact ⟨.inl rfl, [], .nil first⟩
  | @tail s u _ link ih =>
      obtain ⟨listed, path, chain⟩ := ih
      obtain ⟨member, linked⟩ := link
      have inside : s ∈ first :: rest := List.mem_cons.mpr listed
      obtain ⟨path', chain'⟩ := linked.elim id (related s inside u member)
      exact ⟨.inr member, path ++ path', chain.append chain'⟩

/-- Tables can be connected in an order exactly when each of them is linked with the first one or
with one before it. The order does not matter exactly when every table that links lead to from the
first one is linked with the first one, as is so where tables that share a requested dimension are
related. -/
theorem build_ordered (compiled : Schema.ofOwned owned = .ok f.schema)
    (named : Named (owned.map (·.2))) (inside : first :: rest ⊆ owned.map (·.2))
    (apart : Distinguished f (first :: rest)) :
    (∀ order, order.Perm rest →
      (Builds f dimensions first order ↔ Attachable f dimensions [first] order)) ∧
    ((∀ order order', order.Perm rest → order'.Perm rest →
        (Builds f dimensions first order ↔ Builds f dimensions first order')) ↔
      ((∀ t ∈ rest, Connected f dimensions first rest t) →
        ∀ t ∈ rest, Linked f dimensions first t)) ∧
    ((∀ s ∈ first :: rest, ∀ t ∈ rest, ShareDimension dimensions s t →
        ∃ path, f.Chain s path t) →
      ∀ order order', order.Perm rest → order'.Perm rest →
        (Builds f dimensions first order ↔ Builds f dimensions first order')) := by
  have sound : ∀ s ∈ first :: rest, ∀ e, ¬ f.Breaks s e :=
    fun s member => not_breaks compiled named (inside member)
  have builds : ∀ order, order.Perm rest →
      (Builds f dimensions first order ↔ Attachable f dimensions [first] order) := by
    intro order moved
    exact builds_iff (apart.clear compiled inside) (Schema.nodup_keys compiled) sound
      (List.cons_subset_cons first moved.subset)
  have reached : ∀ {order}, order.Perm rest → Builds f dimensions first order →
      ∀ t ∈ rest, Connected f dimensions first rest t := by
    intro order moved built t member
    exact connected_of_attachable (by simpa using .refl) moved.subset
      ((builds order moved).mp built) t (moved.symm.subset member)
  have independent : (∀ order order', order.Perm rest → order'.Perm rest →
        (Builds f dimensions first order ↔ Builds f dimensions first order')) ↔
      ((∀ t ∈ rest, Connected f dimensions first rest t) →
        ∀ t ∈ rest, Linked f dimensions first t) := by
    constructor
    · intro same connected
      obtain ⟨order, moved, attachable⟩ := exists_attachable
        (List.mem_singleton_self first) (List.subset_append_right [first] rest) connected
      refine forall_attachable.mp fun order' moved' => (builds order' moved').mp ?_
      exact (same order order' moved moved').mp ((builds order moved).mpr attachable)
    · intro direct order order' moved moved'
      have all {order order' : List Table} (moved : order.Perm rest) (moved' : order'.Perm rest)
          (built : Builds f dimensions first order) : Builds f dimensions first order' :=
        (builds order' moved').mpr
          (forall_attachable.mpr (direct (reached moved built)) order' moved')
      exact ⟨all moved moved', all moved' moved⟩
  refine ⟨builds, independent, fun related => independent.mpr fun connected t member => ?_⟩
  exact linked_of_connected related (connected t member)

theorem target_belonging (provider name : String) (targets : List (String × String)) :
    ∀ r ∈ (belonging provider name targets).relations.values, ∃ name, r.target = .text name := by
  intro r declared
  obtain ⟨entry, listed, rfl⟩ := List.mem_map.mp declared
  obtain ⟨target, -, rfl⟩ := List.mem_map.mp listed
  exact ⟨_, rfl⟩

theorem build_ordered_bridged : ∃ s first rest, Schema.ofOwned bridged = .ok s ∧
    bridged.map (·.2) = first :: rest ∧ ∀ order, order.Perm rest →
      (Builds ⟨s, false, "left"⟩ [.make .plain "k"] first order ↔
        Attachable ⟨s, false, "left"⟩ [.make .plain "k"] [first] order) := by
  have named : Named (bridged.map (·.2)) := by
    intro t member
    simp only [bridged, cycle, List.tail_cons, List.map_cons, List.map_nil, List.mem_cons,
      List.not_mem_nil, or_false] at member
    rcases member with rfl | rfl | rfl | rfl
    · exact target_belonging "p" "a" [("self", "a"), ("b", "b")]
    · exact target_belonging "q" "d" []
    · exact target_belonging "p" "b" [("lost", "nowhere"), ("c", "q:c")]
    · exact target_belonging "q" "c" [("a", "p:a")]
  have unique : ∀ t ∈ bridged.map (·.2), ∀ u ∈ bridged.map (·.2), t.identifier = u.identifier →
      t = u := by
    refine List.inj_on_of_nodup_map (f := Table.identifier) ?_
    decide
  obtain ⟨s, compiled⟩ : ∃ s, Schema.ofOwned bridged = .ok s := ⟨_, rfl⟩
  have inside : bridged.map (·.2) ⊆ bridged.map (·.2) := List.Subset.refl _
  have apart : Distinguished ⟨s, false, "left"⟩ (bridged.map (·.2)) :=
    .of_unique compiled inside unique
  exact ⟨s, _, _, compiled, rfl, (build_ordered compiled named inside apart).1⟩

/-- A table that only a dimension connects with the first one, and one that it leads to. -/
def sided : List (String × Table) :=
  [("p", groupable (belonging "p" "a" []) "k"),
    ("p", groupable (belonging "p" "d" [("t", "t")]) "k"), ("p", belonging "p" "t" [])]

/-- Two tables are connected with the first one in one order and not in the other. -/
theorem build_ordered_sided : ∃ s first d t, Schema.ofOwned sided = .ok s ∧
    sided.map (·.2) = [first, d, t] ∧
    Builds ⟨s, false, "left"⟩ [.make .plain "k"] first [d, t] ∧
    ¬ Builds ⟨s, false, "left"⟩ [.make .plain "k"] first [t, d] := by
  obtain ⟨s, compiled⟩ : ∃ s, Schema.ofOwned sided = .ok s := ⟨_, rfl⟩
  refine ⟨s, _, _, _, compiled, rfl, Outcome.exists_ok ?_, ?_⟩
  · rw [← Except.ok.inj compiled]
    decide +kernel
  · have refused : (build ⟨s, false, "left"⟩ [groupable (belonging "p" "a" []) "k",
        belonging "p" "t" [], groupable (belonging "p" "d" [("t", "t")]) "k"]
        [.make .plain "k"]).toBool = false := by
      rw [← Except.ok.inj compiled]
      decide +kernel
    rintro ⟨joins, built⟩
    rw [built] at refused
    cases refused

end Datacube.JoinGraph
