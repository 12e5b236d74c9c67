import Datacube.Proofs.Join.Chain

/-!
# Breadth-first search

The search keeps a frontier: the tables in the queue are reached by shortest chains, whose lengths
differ by one at most, and every table that is met and no longer in the queue leads to met tables
only. A chain to a table that is not met leaves the met tables through the queue, so it is longer
than the path at the head.
-/

namespace Datacube.PathFinder
variable {f : PathFinder} {source s t u v : Table} {target : String} {relations : List Relation}
  {fresh left : List String} {found : List Found} {path path' : List JoinStep}
  {queue rest : List (Table × List JoinStep)}

/-! ## Expanding one table -/

/-- What the expansion of a table yields: steps to tables that were fresh, each once, and all that
the relations lead to unless the target was among them. -/
structure Expansion (f : PathFinder) (target : String) (s : Table) (relations : List Relation)
    (fresh : List String) (found : List Found) (left : List String) : Prop where
  steps : ∀ e ∈ found, ∃ r ∈ relations, f.next? s r = .ok (some e.1) ∧
    e.2 = .between s e.1 r f.joinType
  distinct : (found.map (·.1.identifier)).Nodup
  wasFresh : ∀ e ∈ found, e.1.identifier ∈ fresh
  remains : ∀ x, x ∈ left ↔ x ∈ fresh ∧ x ∉ found.map (·.1.identifier)
  nodup : left.Nodup
  complete : target ∉ found.map (·.1.identifier) →
    ∀ r ∈ relations, ∀ t, f.next? s r = .ok (some t) → t.identifier ∉ left

theorem Expansion.empty (nodup : fresh.Nodup) : Expansion f target s [] fresh [] fresh where
  steps := nofun
  distinct := List.nodup_nil
  wasFresh := nofun
  remains := by simp
  nodup := nodup
  complete := nofun

theorem Expansion.skip {r : Relation} {next : Option Table} (leads : f.next? s r = .ok next)
    (stale : ∀ t, next = some t → t.identifier ∉ fresh)
    (tail : Expansion f target s relations fresh found left) :
    Expansion f target s (r :: relations) fresh found left where
  steps := fun e member => by
    obtain ⟨r', declared, step⟩ := tail.steps e member
    exact ⟨r', List.mem_cons_of_mem r declared, step⟩
  distinct := tail.distinct
  wasFresh := tail.wasFresh
  remains := tail.remains
  nodup := tail.nodup
  complete := fun missed r' declared t leads' => by
    rcases List.mem_cons.mp declared with rfl | declared
    · rw [leads, Except.ok.injEq] at leads'
      exact fun unmet => stale t leads' ((tail.remains _).mp unmet).1
    · exact tail.complete missed r' declared t leads'

theorem Expansion.take {r : Relation} (nodup : fresh.Nodup) (leads : f.next? s r = .ok (some t))
    (member : t.identifier ∈ fresh)
    (tail : Expansion f target s relations (fresh.erase t.identifier) found left) :
    Expansion f target s (r :: relations) fresh ((t, .between s t r f.joinType) :: found) left where
  steps := by
    intro e member
    rcases List.mem_cons.mp member with rfl | member
    · exact ⟨r, List.mem_cons_self, leads, rfl⟩
    · obtain ⟨r', declared, step⟩ := tail.steps e member
      exact ⟨r', List.mem_cons_of_mem r declared, step⟩
  distinct := by
    rw [List.map_cons, List.nodup_cons]
    refine ⟨?_, tail.distinct⟩
    intro again
    obtain ⟨e, listed, same⟩ := List.mem_map.mp again
    exact (nodup.mem_erase_iff.mp (tail.wasFresh e listed)).1 same
  wasFresh := by
    intro e listed
    rcases List.mem_cons.mp listed with rfl | listed
    · exact member
    · exact List.mem_of_mem_erase (tail.wasFresh e listed)
  remains := by
    intro x
    rw [tail.remains, nodup.mem_erase_iff, List.map_cons, List.mem_cons, not_or]
    tauto
  nodup := tail.nodup
  complete := by
    intro missed r' declared u leads'
    rw [List.map_cons, List.mem_cons, not_or] at missed
    rcases List.mem_cons.mp declared with rfl | declared
    · rw [leads, Except.ok.injEq, Option.some.injEq] at leads'
      subst leads'
      intro unmet
      exact (nodup.mem_erase_iff.mp ((tail.remains _).mp unmet).1).1 rfl
    · exact tail.complete missed.2 r' declared u leads'

theorem Expansion.stop {r : Relation} (nodup : fresh.Nodup) (leads : f.next? s r = .ok (some t))
    (member : t.identifier ∈ fresh) (hit : t.identifier = target) :
    Expansion f target s (r :: relations) fresh [(t, .between s t r f.joinType)]
      (fresh.erase t.identifier) where
  steps := by simpa using .inl leads
  distinct := List.nodup_singleton _
  wasFresh := by simpa using member
  remains := by
    intro x
    rw [nodup.mem_erase_iff, List.map_singleton, List.mem_singleton, and_comm]
  nodup := nodup.erase _
  complete := by simp [hit]

theorem expand_ok (nodup : fresh.Nodup)
    (h : f.expand target s relations fresh = .ok (found, left)) :
    Expansion f target s relations fresh found left := by
  induction relations generalizing fresh found left with
  | nil =>
      simp only [expand, Except.ok.injEq, Prod.mk.injEq] at h
      obtain ⟨rfl, rfl⟩ := h
      exact .empty nodup
  | cons r relations ih =>
      rw [expand] at h
      split at h
      · cases h
      · rename_i leads
        exact .skip leads (by simp) (ih nodup h)
      · rename_i t leads
        split at h
        · rename_i member
          split at h
          · rename_i hit
            simp only [Except.ok.injEq, Prod.mk.injEq] at h
            obtain ⟨rfl, rfl⟩ := h
            exact .stop nodup leads member hit
          · split at h
            · cases h
            · rename_i others after expanded
              simp only [Except.ok.injEq, Prod.mk.injEq] at h
              obtain ⟨rfl, rfl⟩ := h
              exact .take nodup leads member (ih (nodup.erase _) expanded)
        · rename_i absent
          exact .skip leads (fun u same => Option.some.inj same ▸ absent) (ih nodup h)

theorem expand_error {e : Error} (h : f.expand target s relations fresh = .error e) :
    ∃ r ∈ relations, f.next? s r = .error e := by
  induction relations generalizing fresh with
  | nil => cases h
  | cons r relations ih =>
      have later {fresh : List String} (h : f.expand target s relations fresh = .error e) :
          ∃ r' ∈ r :: relations, f.next? s r' = .error e := by
        obtain ⟨r', declared, failed⟩ := ih h
        exact ⟨r', List.mem_cons_of_mem r declared, failed⟩
      rw [expand] at h
      split at h
      · rename_i failed
        exact ⟨r, List.mem_cons_self, Except.error.inj h ▸ failed⟩
      · exact later h
      · split at h
        · split at h
          · cases h
          · split at h
            · rename_i failed
              exact later (Except.error.inj h ▸ failed)
            · cases h
        · exact later h

/-! ## The frontier -/

/-- A path between two tables that visits no table twice and is no longer than any chain. -/
structure Shortest (f : PathFinder) (source : Table) (path : List JoinStep) (target : Table) :
    Prop where
  chain : f.Chain source path target
  simple : (visited source path).Nodup
  least : ∀ path', f.Chain source path' target → path.length ≤ path'.length

/-- What holds of the queue and of the identifiers that remain, between two expansions. -/
structure Frontier (f : PathFinder) (source : Table) (target : String)
    (queue : List (Table × List JoinStep)) (fresh : List String) : Prop where
  nodup : fresh.Nodup
  shortest : ∀ e ∈ queue, f.Shortest source e.2 e.1
  met : ∀ e ∈ queue, ∀ x ∈ visited source e.2, x ∉ fresh
  ordered : queue.Pairwise (·.2.length ≤ ·.2.length)
  narrow : ∀ a ∈ queue, ∀ b ∈ queue, b.2.length ≤ a.2.length + 1
  closed : ∀ path t, f.Chain source path t → t.identifier ∉ fresh →
    (∃ e ∈ queue, e.1 = t) ∨ ∀ r u, f.Admits t r u → u.identifier ∉ fresh
  started : source.identifier ∉ fresh
  sought : f.Reaches source target → target ∈ fresh

/-- A chain that leaves the met tables does so behind a table of the queue. -/
theorem Frontier.leaves (frontier : f.Frontier source target queue fresh)
    (first : f.Chain source path s) (met : s.identifier ∉ fresh) (rest : f.Chain s path' t)
    (unmet : t.identifier ∈ fresh) : ∃ e ∈ queue, e.2.length < path.length + path'.length := by
  induction rest generalizing path with
  | nil => exact absurd unmet met
  | @cons s u t r path' admitted rest ih =>
      by_cases next : u.identifier ∈ fresh
      · rcases frontier.closed _ _ first met with ⟨e, queued, rfl⟩ | closed
        · have := (frontier.shortest e queued).least _ first
          exact ⟨e, queued, by rw [List.length_cons]; omega⟩
        · exact absurd next (closed r u admitted)
      · obtain ⟨e, queued, shorter⟩ := ih (first.concat admitted) next unmet
        refine ⟨e, queued, ?_⟩
        simp only [List.length_append, List.length_cons, List.length_nil] at shorter ⊢
        omega

theorem Frontier.exceeds {head : Table × List JoinStep}
    (frontier : f.Frontier source target (head :: rest) fresh) (chain : f.Chain source path t)
    (unmet : t.identifier ∈ fresh) : head.2.length < path.length := by
  obtain ⟨e, queued, shorter⟩ := frontier.leaves (.nil source) frontier.started chain unmet
  rw [List.length_nil, Nat.zero_add] at shorter
  rcases List.mem_cons.mp queued with rfl | later
  · exact shorter
  · exact Nat.lt_of_le_of_lt (List.rel_of_pairwise_cons frontier.ordered later) shorter

theorem Frontier.extend (frontier : f.Frontier source target ((s, path) :: rest) fresh)
    {r : Relation} (admitted : f.Admits s r t) (unmet : t.identifier ∈ fresh) :
    f.Shortest source (path ++ [.between s t r f.joinType]) t where
  chain := (frontier.shortest _ List.mem_cons_self).chain.concat admitted
  simple := by
    have simple := (frontier.shortest _ List.mem_cons_self).simple
    have absent : t.identifier ∉ visited source path :=
      fun member => frontier.met _ List.mem_cons_self _ member unmet
    have longer : visited source (path ++ [.between s t r f.joinType]) =
        visited source path ++ [t.identifier] := by simp [visited, JoinStep.between]
    rw [longer, ← List.concat_eq_append]
    exact simple.concat absent
  least := by
    intro path' chain
    have shorter : path.length < path'.length := frontier.exceeds chain unmet
    rw [List.length_append, List.length_singleton]
    exact shorter

theorem Expansion.admits (expansion : Expansion f target s s.relations.values fresh found left)
    {e : Found} (member : e ∈ found) :
    ∃ r, f.Admits s r e.1 ∧ e.2 = .between s e.1 r f.joinType := by
  obtain ⟨r, declared, leads, step⟩ := expansion.steps e member
  exact ⟨r, admits_of_next? declared leads, step⟩

/-- The queue behind an expansion. -/
abbrev requeue (rest : List (Table × List JoinStep)) (path : List JoinStep) (found : List Found) :
    List (Table × List JoinStep) :=
  rest ++ found.map fun (n, step) => (n, path ++ [step])

theorem Frontier.advance (clear : f.Clear [source])
    (frontier : f.Frontier source target ((s, path) :: rest) fresh)
    (expansion : Expansion f target s s.relations.values fresh found left)
    (missed : target ∉ found.map (·.1.identifier)) :
    f.Frontier source target (requeue rest path found) left := by
  have head := frontier.shortest _ List.mem_cons_self
  have stale : ∀ x, x ∉ fresh → x ∉ left :=
    fun x old unmet => old ((expansion.remains x).mp unmet).1
  have fromRest : ∀ e ∈ rest, path.length ≤ e.2.length ∧ e.2.length ≤ path.length + 1 :=
    fun e member => ⟨List.rel_of_pairwise_cons frontier.ordered member,
      frontier.narrow _ List.mem_cons_self e (List.mem_cons_of_mem _ member)⟩
  have fromFound : ∀ e ∈ found.map (fun (n, step) => (n, path ++ [step])),
      ∃ r, f.Admits s r e.1 ∧ e.1.identifier ∈ fresh ∧ e.1.identifier ∉ left ∧
        e.2 = path ++ [.between s e.1 r f.joinType] := by
    intro e member
    obtain ⟨d, listed, rfl⟩ := List.mem_map.mp member
    obtain ⟨r, admitted, step⟩ := expansion.admits listed
    refine ⟨r, admitted, expansion.wasFresh d listed, ?_, by rw [← step]⟩
    intro unmet
    exact ((expansion.remains _).mp unmet).2 (List.mem_map.mpr ⟨d, listed, rfl⟩)
  refine ⟨expansion.nodup, ?_, ?_, ?_, ?_, ?_, stale _ frontier.started, ?_⟩
  · -- Every path in the queue is a shortest one.
    intro e member
    rcases List.mem_append.mp member with old | new
    · exact frontier.shortest e (List.mem_cons_of_mem _ old)
    · obtain ⟨r, admitted, unmet, -, extended⟩ := fromFound e new
      exact extended ▸ frontier.extend admitted unmet
  · -- What the paths visit is met.
    intro e member x visits
    rcases List.mem_append.mp member with old | new
    · exact stale x (frontier.met e (List.mem_cons_of_mem _ old) x visits)
    · obtain ⟨r, -, -, met, extended⟩ := fromFound e new
      rw [extended, visited, List.map_append, ← List.cons_append, List.mem_append] at visits
      rcases visits with before | last
      · exact stale x (frontier.met _ List.mem_cons_self x before)
      · rw [List.mem_singleton.mp last]
        exact met
  · -- The new paths are one step longer than the head, so they belong at the end.
    refine List.pairwise_append.mpr ⟨(List.pairwise_cons.mp frontier.ordered).2, ?_, ?_⟩
    · refine List.pairwise_of_forall_mem_list fun a first b second => ?_
      obtain ⟨_, -, -, -, sameLength⟩ := fromFound a first
      obtain ⟨_, -, -, -, sameLength'⟩ := fromFound b second
      simp [sameLength, sameLength']
    · intro a old b new
      obtain ⟨_, -, -, -, extended⟩ := fromFound b new
      simpa [extended] using (fromRest a old).2
  · intro a first b second
    have bounds : ∀ e ∈ requeue rest path found,
        path.length ≤ e.2.length ∧ e.2.length ≤ path.length + 1 := by
      intro e member
      rcases List.mem_append.mp member with old | new
      · exact fromRest e old
      · obtain ⟨_, -, -, -, extended⟩ := fromFound e new
        simp [extended]
    have := bounds a first
    have := bounds b second
    omega
  · -- A met table was met before, or it was just found and joins the queue.
    intro path' t chain met
    by_cases old : t.identifier ∈ fresh
    · have listed : t.identifier ∈ found.map (·.1.identifier) := by
        by_contra unlisted
        exact met ((expansion.remains _).mpr ⟨old, unlisted⟩)
      obtain ⟨d, member, same⟩ := List.mem_map.mp listed
      obtain ⟨r, admitted, -⟩ := expansion.admits member
      exact .inl ⟨_, List.mem_append_right _ (List.mem_map_of_mem member),
        clear.unique (.head _) (head.chain.concat admitted) (.head _) chain same⟩
    · rcases frontier.closed path' t chain old with ⟨e, queued, rfl⟩ | closed
      · rcases List.mem_cons.mp queued with rfl | later
        · exact .inr fun r u admitted => expansion.complete missed r admitted.1 u admitted.next?
        · exact .inl ⟨e, List.mem_append_left _ later, rfl⟩
      · exact .inr fun r u admitted => stale _ (closed r u admitted)
  · exact fun reached => (expansion.remains _).mpr ⟨frontier.sought reached, missed⟩

theorem Frontier.start (clear : f.Clear [source]) (nodup : f.schema.tables.keys.Nodup)
    (differs : source.identifier ≠ target) :
    f.Frontier source target [(source, [])] (f.schema.tables.keys.erase source.identifier) where
  nodup := nodup.erase _
  shortest := by
    intro e member
    rw [List.mem_singleton.mp member]
    exact ⟨.nil source, by simp [visited], fun _ _ => Nat.zero_le _⟩
  met := by
    intro e member x visits
    rw [List.mem_singleton.mp member] at visits
    rw [List.mem_singleton.mp visits]
    exact nodup.not_mem_erase
  ordered := List.pairwise_singleton _ _
  narrow := by simp
  closed := by
    intro path t chain met
    rw [nodup.mem_erase_iff, not_and] at met
    have same : t.identifier = source.identifier := by
      by_contra differs
      exact (clear.known (.head _) chain).elim differs fun known => met differs known
    exact .inl ⟨_, .head _, (clear.unique (.head _) chain (.head _) (.nil source) same).symm⟩
  started := nodup.not_mem_erase
  sought := by
    rintro ⟨path, t, chain, rfl⟩
    exact nodup.mem_erase_iff.mpr
      ⟨differs.symm, (clear.known (.head _) chain).resolve_left differs.symm⟩

/-! ## The search -/

theorem missed_of_find? (h : found.find? (·.1.identifier == target) = none) :
    target ∉ found.map (·.1.identifier) := by
  intro listed
  obtain ⟨e, member, same⟩ := List.mem_map.mp listed
  exact List.find?_eq_none.mp h e member (by simpa using same)

/-- A table that steps lead to declares a relation whose target cannot be looked up. -/
def Breaks (f : PathFinder) (source : Table) (e : Error) : Prop :=
  ∃ path t, f.Chain source path t ∧
    ∃ r ∈ t.relations.values, f.schema.find r.target t.provider = .error e

/-- The answers to the search for a path to an identifier. -/
def Settles (f : PathFinder) (source : Table) (target : String) :
    Outcome (Option (List JoinStep)) → Prop
  | .ok (some path) => ∃ t, t.identifier = target ∧ f.Shortest source path t
  | .ok none => ¬ f.Reaches source target
  | .error e => f.Breaks source e

theorem search_settles (clear : f.Clear [source])
    (frontier : f.Frontier source target queue fresh) :
    f.Settles source target (f.search target queue fresh) := by
  fun_induction search f target queue fresh with
  | case1 fresh =>
      rintro ⟨path, t, chain, rfl⟩
      have reached : f.Reaches source t.identifier := ⟨path, t, chain, rfl⟩
      obtain ⟨e, queued, -⟩ := frontier.leaves (.nil source) frontier.started chain
        (frontier.sought reached)
      cases queued
  | case2 fresh t path rest e failed =>
      obtain ⟨r, declared, failed⟩ := expand_error failed
      exact ⟨path, t, (frontier.shortest _ List.mem_cons_self).chain, r, declared,
        next?_error failed⟩
  | case3 fresh t path rest found left expanded n step hit =>
      have expansion := expand_ok frontier.nodup expanded
      have member := List.mem_of_find?_eq_some hit
      have same : n.identifier = target := by simpa using List.find?_some hit
      obtain ⟨r, admitted, extended⟩ := expansion.admits member
      refine ⟨n, same, ?_⟩
      rw [show step = _ from extended]
      exact frontier.extend admitted (expansion.wasFresh _ member)
  | case4 fresh t path rest found left expanded missed ih =>
      exact ih (frontier.advance clear (expand_ok frontier.nodup expanded)
        (missed_of_find? missed))

end Datacube.PathFinder
