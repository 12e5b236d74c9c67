import Datacube.Proofs.Join.Search

/-!
# Agreement of paths

Two searches from one table expand the same tables in the same order until the first of them meets
its target. So the steps of both paths are among the steps that one search takes, and of those only
one leads to each table.
-/

namespace Datacube.PathFinder
variable {f : PathFinder} {source s t : Table} {target target' : String}
  {relations : List Relation} {fresh left left' : List String} {found found' : List Found}
  {taken path path' : List JoinStep} {queue rest : List (Table × List JoinStep)}

/-! ## Two expansions -/

theorem expand_none {r : Relation} (leads : f.next? s r = .ok none) :
    f.expand target s (r :: relations) fresh = f.expand target s relations fresh := by
  rw [expand, leads]

theorem expand_stale {r : Relation} (leads : f.next? s r = .ok (some t))
    (stale : t.identifier ∉ fresh) :
    f.expand target s (r :: relations) fresh = f.expand target s relations fresh := by
  simp only [expand, leads, if_neg stale]

theorem expand_hit {r : Relation} (leads : f.next? s r = .ok (some t))
    (member : t.identifier ∈ fresh) :
    f.expand t.identifier s (r :: relations) fresh =
      .ok ([(t, .between s t r f.joinType)], fresh.erase t.identifier) := by
  simp only [expand, leads, if_pos member, if_true]

theorem expand_next {r : Relation} (leads : f.next? s r = .ok (some t))
    (member : t.identifier ∈ fresh) (other : t.identifier ≠ target)
    (h : f.expand target s (r :: relations) fresh = .ok (found, left)) :
    ∃ others, f.expand target s relations (fresh.erase t.identifier) = .ok (others, left) ∧
      found = (t, .between s t r f.joinType) :: others := by
  simp only [expand, leads, if_pos member, if_neg other] at h
  split at h
  · cases h
  · rename_i others after expanded
    simp only [Except.ok.injEq, Prod.mk.injEq] at h
    obtain ⟨rfl, rfl⟩ := h
    exact ⟨others, expanded, rfl⟩

/-- Of two expansions of a table the one that stops at its target is the start of the other. -/
theorem expand_compare (first : f.expand target s relations fresh = .ok (found, left))
    (second : f.expand target' s relations fresh = .ok (found', left')) :
    target ∈ found.map (·.1.identifier) ∧ found <+: found' ∨
      target' ∈ found'.map (·.1.identifier) ∧ found' <+: found ∨
      found = found' ∧ left = left' := by
  induction relations generalizing fresh found left found' left' with
  | nil =>
      simp only [expand, Except.ok.injEq, Prod.mk.injEq] at first second
      exact .inr (.inr ⟨first.1 ▸ second.1 ▸ rfl, first.2 ▸ second.2 ▸ rfl⟩)
  | cons r relations ih =>
      cases leads : f.next? s r with
      | error e =>
          simp only [expand, leads] at first
          cases first
      | ok next =>
          cases next with
          | none =>
              rw [expand_none leads] at first second
              exact ih first second
          | some t =>
              by_cases member : t.identifier ∈ fresh
              · by_cases hit : t.identifier = target
                · subst hit
                  by_cases hit' : t.identifier = target'
                  · subst hit'
                    rw [first, Except.ok.injEq, Prod.mk.injEq] at second
                    exact .inr (.inr second)
                  · obtain ⟨others, -, rfl⟩ := expand_next leads member hit' second
                    rw [expand_hit leads member, Except.ok.injEq, Prod.mk.injEq] at first
                    rw [← first.1]
                    exact .inl ⟨List.mem_singleton_self _, ⟨others, rfl⟩⟩
                · by_cases hit' : t.identifier = target'
                  · subst hit'
                    obtain ⟨others, -, rfl⟩ := expand_next leads member hit first
                    rw [expand_hit leads member, Except.ok.injEq, Prod.mk.injEq] at second
                    rw [← second.1]
                    exact .inr (.inl ⟨List.mem_singleton_self _, ⟨others, rfl⟩⟩)
                  · obtain ⟨others, tail, rfl⟩ := expand_next leads member hit first
                    obtain ⟨others', tail', rfl⟩ := expand_next leads member hit' second
                    rcases ih tail tail' with ⟨stops, start⟩ | ⟨stops, start⟩ | ⟨same, same'⟩
                    · exact .inl ⟨.tail _ stops, List.prefix_cons_inj _ |>.mpr start⟩
                    · exact .inr (.inl ⟨.tail _ stops, List.prefix_cons_inj _ |>.mpr start⟩)
                    · exact .inr (.inr ⟨same ▸ rfl, same'⟩)
              · rw [expand_stale leads member] at first second
                exact ih first second

/-! ## Trails -/

/-- Steps to different tables, none of which is fresh any more, by which the queue goes. -/
structure Trail (taken : List JoinStep) (queue : List (Table × List JoinStep))
    (fresh : List String) : Prop where
  nodup : fresh.Nodup
  distinct : (taken.map (·.targetId)).Nodup
  met : ∀ step ∈ taken, step.targetId ∉ fresh
  within : ∀ e ∈ queue, e.2 ⊆ taken

theorem Trail.advance (trail : Trail taken ((s, path) :: rest) fresh)
    (expansion : Expansion f target s s.relations.values fresh found left) :
    Trail (taken ++ found.map (·.2)) (requeue rest path found) left := by
  have ends : (found.map (·.2)).map (·.targetId) = found.map (·.1.identifier) := by
    rw [List.map_map]
    refine List.map_congr_left fun e member => ?_
    obtain ⟨r, -, -, step⟩ := expansion.steps e member
    rw [Function.comp_apply, step]
    rfl
  have head : path ⊆ taken := trail.within _ List.mem_cons_self
  refine ⟨expansion.nodup, ?_, ?_, ?_⟩
  · rw [List.map_append, ends, List.nodup_append]
    refine ⟨trail.distinct, expansion.distinct, ?_⟩
    rintro x old y new rfl
    obtain ⟨step, member, rfl⟩ := List.mem_map.mp old
    obtain ⟨e, listed, same⟩ := List.mem_map.mp new
    exact trail.met step member (same ▸ expansion.wasFresh e listed)
  · intro step member
    rcases List.mem_append.mp member with old | new
    · exact fun unmet => trail.met step old ((expansion.remains _).mp unmet).1
    · intro unmet
      have absent := ((expansion.remains _).mp unmet).2
      rw [← ends] at absent
      exact absent (List.mem_map_of_mem new)
  · intro e member
    rcases List.mem_append.mp member with old | new
    · exact fun step used =>
        List.mem_append_left _ (trail.within e (List.mem_cons_of_mem _ old) used)
    · obtain ⟨d, listed, rfl⟩ := List.mem_map.mp new
      intro step used
      rcases List.mem_append.mp used with before | last
      · exact List.mem_append_left _ (head before)
      · rw [List.mem_singleton.mp last]
        exact List.mem_append_right _ (List.mem_map.mpr ⟨d, listed, rfl⟩)

theorem Trail.path_within (trail : Trail (taken ++ found.map (·.2)) (requeue rest path found) left)
    {d : Found} (listed : d ∈ found) : path ++ [d.2] ⊆ taken ++ found.map (·.2) :=
  trail.within (d.1, path ++ [d.2])
    (List.mem_append_right _ (List.mem_map.mpr ⟨d, listed, rfl⟩))

/-! ## Two searches -/

theorem search_ok (h : f.search target ((s, path) :: rest) fresh = .ok (some path')) :
    ∃ found left, f.expand target s s.relations.values fresh = .ok (found, left) ∧
      ((∃ d ∈ found, path' = path ++ [d.2]) ∨ target ∉ found.map (·.1.identifier) ∧
        f.search target (requeue rest path found) left = .ok (some path')) := by
  rw [PathFinder.search] at h
  split at h
  · cases h
  · rename_i found left expanded
    refine ⟨found, left, expanded, ?_⟩
    split at h
    · rename_i n step hit
      rw [Except.ok.injEq, Option.some.injEq] at h
      exact .inl ⟨_, List.mem_of_find?_eq_some hit, h.symm⟩
    · rename_i missed
      exact .inr ⟨missed_of_find? missed, h⟩

/-- Steps to different tables, the ones that were taken before among them. -/
def Continues (taken taken' : List JoinStep) : Prop :=
  taken ⊆ taken' ∧ (taken'.map (·.targetId)).Nodup

theorem Trail.search (trail : Trail taken queue fresh)
    (found : f.search target queue fresh = .ok (some path)) :
    ∃ taken', Continues taken taken' ∧ path ⊆ taken' := by
  fun_induction PathFinder.search f target queue fresh generalizing taken with
  | case1 => cases found
  | case2 => cases found
  | case3 fresh t before rest found' left expanded n step hit =>
      rw [Except.ok.injEq, Option.some.injEq] at found
      have next := trail.advance (expand_ok trail.nodup expanded)
      exact ⟨_, ⟨List.subset_append_left _ _, next.distinct⟩,
        found ▸ next.path_within (List.mem_of_find?_eq_some hit)⟩
  | case4 fresh t before rest found' left expanded missed ih =>
      obtain ⟨taken', ⟨kept, distinct⟩, within⟩ :=
        ih (trail.advance (expand_ok trail.nodup expanded)) found
      exact ⟨taken', ⟨List.Subset.trans (List.subset_append_left _ _) kept, distinct⟩, within⟩

theorem Trail.overtake (trail : Trail (taken ++ found'.map (·.2)) (requeue rest path found') left)
    {d : Found} (listed : d ∈ found) (start : found <+: found')
    (goes : (∃ d ∈ found', path' = path ++ [d.2]) ∨ target ∉ found'.map (·.1.identifier) ∧
      f.search target (requeue rest path found') left = .ok (some path')) :
    ∃ taken', Continues taken taken' ∧ path ++ [d.2] ⊆ taken' ∧ path' ⊆ taken' := by
  have within := trail.path_within (start.subset listed)
  rcases goes with ⟨d', listed', rfl⟩ | ⟨-, later⟩
  · exact ⟨_, ⟨List.subset_append_left _ _, trail.distinct⟩, within, trail.path_within listed'⟩
  · obtain ⟨taken', ⟨kept, distinct⟩, within'⟩ := trail.search later
    exact ⟨taken', ⟨List.Subset.trans (List.subset_append_left _ _) kept, distinct⟩,
      List.Subset.trans within kept, within'⟩

/-- Two searches that start alike find paths by the same steps to different tables. -/
theorem Trail.agree (trail : Trail taken queue fresh)
    (first : f.search target queue fresh = .ok (some path))
    (second : f.search target' queue fresh = .ok (some path')) :
    ∃ taken', Continues taken taken' ∧ path ⊆ taken' ∧ path' ⊆ taken' := by
  fun_induction PathFinder.search f target queue fresh generalizing taken with
  | case1 => cases first
  | case2 => cases first
  | case3 fresh t before rest found left expanded n step hit =>
      rw [Except.ok.injEq, Option.some.injEq] at first
      have listed := List.mem_of_find?_eq_some hit
      obtain ⟨found', left', expanded', goes⟩ := search_ok second
      have next := trail.advance (expand_ok trail.nodup expanded)
      have next' := trail.advance (expand_ok trail.nodup expanded')
      rw [← first]
      rcases expand_compare expanded expanded' with ⟨-, start⟩ | ⟨stops, start⟩ | ⟨same, -⟩
      · exact next'.overtake listed start goes
      · obtain ⟨d, listed', rfl⟩ := goes.resolve_right fun later => later.1 stops
        exact ⟨_, ⟨List.subset_append_left _ _, next.distinct⟩, next.path_within listed,
          next.path_within (start.subset listed')⟩
      · exact next'.overtake listed (same ▸ List.prefix_rfl) goes
  | case4 fresh t before rest found left expanded nowhere ih =>
      have missed := missed_of_find? nowhere
      obtain ⟨found', left', expanded', goes⟩ := search_ok second
      have next := trail.advance (expand_ok trail.nodup expanded)
      rcases expand_compare expanded expanded' with ⟨stops, -⟩ | ⟨stops, start⟩ | ⟨same, same'⟩
      · exact absurd stops missed
      · obtain ⟨d, listed, rfl⟩ := goes.resolve_right fun later => later.1 stops
        obtain ⟨taken', continues, within', within⟩ :=
          next.overtake listed start (.inr ⟨missed, first⟩)
        exact ⟨taken', continues, within, within'⟩
      · rcases goes with ⟨d, listed, rfl⟩ | ⟨-, second⟩
        · obtain ⟨taken', continues, within', within⟩ :=
            next.overtake (same ▸ listed) List.prefix_rfl (.inr ⟨missed, first⟩)
          exact ⟨taken', continues, within, within'⟩
        · rw [← same, ← same'] at second
          obtain ⟨taken', ⟨kept, distinct⟩, both⟩ := ih next first second
          exact ⟨taken', ⟨List.Subset.trans (List.subset_append_left _ _) kept, distinct⟩, both⟩

/-- Paths from one table that lead to a common table take the same step there. -/
theorem find_agree {t t' : Table} (nodup : f.schema.tables.keys.Nodup)
    (first : f.find source t = .ok (some path)) (second : f.find source t' = .ok (some path'))
    {a b : JoinStep} (inFirst : a ∈ path) (inSecond : b ∈ path')
    (same : a.targetId = b.targetId) : a = b := by
  have searched {t : Table} {path : List JoinStep} {a : JoinStep}
      (found : f.find source t = .ok (some path)) (member : a ∈ path) :
      f.search t.identifier [(source, [])] (f.schema.tables.keys.erase source.identifier) =
        .ok (some path) := by
    rw [find] at found
    split at found
    · rw [Except.ok.injEq, Option.some.injEq] at found
      subst found
      cases member
    · split at found
      · cases found
      · exact found
  have start : Trail [] [(source, [])] (f.schema.tables.keys.erase source.identifier) :=
    ⟨nodup.erase _, List.nodup_nil, by simp, by simp⟩
  obtain ⟨taken, ⟨-, distinct⟩, within, within'⟩ :=
    start.agree (searched first inFirst) (searched second inSecond)
  exact List.inj_on_of_nodup_map distinct (within inFirst) (within' inSecond) same

end Datacube.PathFinder
