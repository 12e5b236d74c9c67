import Datacube.Proofs.Join.Shared

/-!
# Where joins come from

Every join of a graph is a step of a chain from one of the listed tables, or joins two of them on a
dimension. It starts at a listed table or where another join ends. This holds whatever identifiers
the tables have.
-/

namespace Datacube

namespace PathFinder
variable {f : PathFinder} {source target s t : Table} {identifier : String} {fresh : List String}
  {path : List JoinStep} {queue : List (Table × List JoinStep)}

theorem search_chain (nodup : fresh.Nodup) (chains : ∀ e ∈ queue, f.Chain source e.2 e.1)
    (found : f.search identifier queue fresh = .ok (some path)) :
    ∃ t, t.identifier = identifier ∧ f.Chain source path t := by
  fun_induction search f identifier queue fresh with
  | case1 => cases found
  | case2 => cases found
  | case3 fresh s before rest others left expanded t step hit =>
      have expansion := expand_ok nodup expanded
      obtain ⟨r, admitted, leads⟩ := expansion.admits (List.mem_of_find?_eq_some hit)
      refine ⟨t, by simpa using List.find?_some hit, ?_⟩
      rw [← Option.some.inj (Except.ok.inj found), show step = _ from leads]
      exact (chains _ List.mem_cons_self).concat admitted
  | case4 fresh s before rest others left expanded missed ih =>
      have expansion := expand_ok nodup expanded
      refine ih expansion.nodup (fun e member => ?_) found
      rcases List.mem_append.mp member with old | new
      · exact chains e (List.mem_cons_of_mem _ old)
      · obtain ⟨d, listed, rfl⟩ := List.mem_map.mp new
        obtain ⟨r, admitted, leads⟩ := expansion.admits listed
        simp only [leads]
        exact (chains _ List.mem_cons_self).concat admitted

theorem find_chain (nodup : f.schema.tables.keys.Nodup)
    (found : f.find source target = .ok (some path)) :
    ∃ t, t.identifier = target.identifier ∧ f.Chain source path t := by
  rw [find] at found
  split at found
  · rename_i same
    rw [← Option.some.inj (Except.ok.inj found)]
    exact ⟨source, beq_iff_eq.mp same, .nil source⟩
  · split at found
    · cases found
    · refine search_chain (nodup.erase _) (fun e member => ?_) found
      rw [List.mem_singleton.mp member]
      exact .nil source

/-- The steps of a chain start at its first table or where another one ends. -/
theorem Chain.sources (chain : f.Chain s path t) :
    ∀ step ∈ path, step.sourceId = s.identifier ∨ step.sourceId ∈ path.map (·.targetId) := by
  induction chain with
  | nil => nofun
  | @cons s u t r path _ _ ih =>
      intro step member
      rcases List.mem_cons.mp member with rfl | later
      · exact .inl rfl
      · rcases ih step later with atNext | behind
        · exact .inr (atNext ▸ List.mem_cons_self)
        · exact .inr (List.mem_cons_of_mem _ behind)

end PathFinder

namespace JoinGraph
open PathFinder

/-- A join that is made for a list of tables: along a chain of relations from one of them, or on a
dimension that two of them share. -/
inductive Origin (f : PathFinder) (tables : List Table) (dimensions : List Dimension) :
    JoinStep → Prop where
  | path {s t : Table} {path : List JoinStep} {step : JoinStep} (listed : s ∈ tables)
      (chain : f.Chain s path t) (member : step ∈ path) : Origin f tables dimensions step
  | shared {connected : List Table} {step : JoinStep} (within : connected ⊆ tables)
      (shares : Shares connected dimensions step) : Origin f tables dimensions step

variable {f : PathFinder} {tables : List Table} {target : Table} {dimensions : List Dimension}
  {g g' : Growth} {step : JoinStep} {steps : List JoinStep} {joins : JoinGraph}
  {entries : Entries (String × String) JoinStep}

theorem Origin.type (origin : Origin f tables dimensions step) :
    step.type = f.joinType ∨ step.type = "inner" := by
  cases origin with
  | path _ chain member =>
      obtain ⟨_, u, r, v, _, -, rfl, -⟩ := chain.split member
      exact .inl rfl
  | shared _ shares =>
      obtain ⟨d, -, source, own, target, theirs, -, -, -, rfl⟩ := shares
      exact .inr rfl

theorem Origin.ends (origin : Origin f tables dimensions step) : ∃ s t r type,
    step = .between s t r type ∧ f.ReachedFrom tables s ∧ f.ReachedFrom tables t := by
  cases origin with
  | path listed chain member =>
      obtain ⟨before, u, r, v, _, -, rfl, toStep, admitted, -⟩ := chain.split member
      exact ⟨u, v, r, _, rfl, ⟨_, listed, before, toStep⟩, ⟨_, listed, _, toStep.concat admitted⟩⟩
  | shared within shares =>
      obtain ⟨d, -, source, own, target, theirs, found, listed, -, rfl⟩ := shares
      have declares := within (declarer?_some found).1
      exact ⟨source, target, _, _, rfl, ⟨source, declares, [], .nil _⟩,
        ⟨target, within listed, [], .nil _⟩⟩

/-! ## Added joins -/

/-- Joins that are kept by the tables which they connect. -/
def Keyed (entries : Entries (String × String) JoinStep) : Prop :=
  ∀ e ∈ entries, e.1 = (e.2.sourceId, e.2.targetId)

theorem Keyed.put (keyed : Keyed entries) (step : JoinStep) :
    Keyed (JoinGraph.put entries step) := by
  intro e member
  rcases Entries.mem_putNew member with old | rfl
  · exact keyed e old
  · rfl

theorem Keyed.target_mem (keyed : Keyed entries)
    (known : (step.sourceId, step.targetId) ∈ entries.keys) :
    step.targetId ∈ entries.values.map (·.targetId) := by
  obtain ⟨e, listed, same⟩ := List.mem_map.mp known
  rw [keyed e listed] at same
  exact List.mem_map.mpr ⟨e.2, List.mem_map_of_mem listed, (Prod.mk.inj same).2⟩

theorem Keyed.putAll (keyed : Keyed entries) (steps : List JoinStep) :
    Keyed (steps.foldl JoinGraph.put entries) ∧ entries <+: steps.foldl JoinGraph.put entries ∧
      ∀ step ∈ steps,
        step.targetId ∈ (steps.foldl JoinGraph.put entries).values.map (·.targetId) := by
  induction steps generalizing entries with
  | nil => exact ⟨keyed, List.prefix_rfl, nofun⟩
  | cons first rest ih =>
      obtain ⟨keyed', start, all⟩ := ih (keyed.put first)
      refine ⟨keyed', Entries.prefix_putNew.trans start, ?_⟩
      intro step member
      rcases List.mem_cons.mp member with rfl | later
      · refine keyed'.target_mem (List.map_subset _ start.subset ?_)
        exact (Entries.mem_keys_putNew (Entries.exact_of_lawful _)).mpr (.inr rfl)
      · exact all step later

/-- Where the joins of a graph that grows come from and start. -/
structure Rooted (f : PathFinder) (tables : List Table) (dimensions : List Dimension)
    (g : Growth) : Prop where
  requested : g.connected ⊆ tables
  keyed : Keyed g.joins
  origin : ∀ step ∈ g.joins.values, Origin f tables dimensions step
  sources : ∀ step ∈ g.joins.values, step.sourceId ∈ tables.map (·.identifier) ∨
    step.sourceId ∈ g.joins.values.map (·.targetId)

/-- Joins of known origin, each from a listed table or from the end of another one of them. -/
theorem Rooted.extend (rooted : Rooted f tables dimensions g) (wanted : target ∈ tables)
    (origin : ∀ step ∈ steps, Origin f tables dimensions step)
    (sources : ∀ step ∈ steps, step.sourceId ∈ tables.map (·.identifier) ∨
      step.sourceId ∈ steps.map (·.targetId)) :
    Rooted f tables dimensions { g.addSteps steps with connected := g.connected ++ [target] } := by
  obtain ⟨keyed, start, targets⟩ := rooted.keyed.putAll steps
  refine ⟨List.append_subset.mpr ⟨rooted.requested, by simpa using wanted⟩, keyed, ?_, ?_⟩
  · exact fun step member => (mem_addSteps member).elim (rooted.origin step) (origin step)
  · intro step member
    rcases mem_addSteps member with old | new
    · exact (rooted.sources step old).imp_right fun behind =>
        List.map_subset _ (List.map_subset _ start.subset) behind
    · refine (sources step new).imp_right fun behind => ?_
      obtain ⟨other, listed, same⟩ := List.mem_map.mp behind
      exact same ▸ targets other listed

theorem Rooted.add (nodup : f.schema.tables.keys.Nodup) (rooted : Rooted f tables dimensions g)
    (wanted : target ∈ tables) (added : Growth.add f dimensions g target = .ok g') :
    Rooted f tables dimensions g' := by
  rw [Growth.add] at added
  split at added
  · exact Except.ok.inj added ▸ rooted
  · rw [Outcome.bind_eq_ok] at added
    obtain ⟨steps, attached, added⟩ := added
    obtain rfl := Outcome.pure_eq_ok.mp added
    rcases attach_ok attached with found | ⟨-, step, joined, rfl⟩
    · obtain ⟨before, s, after, split, -, found⟩ := path?_some found
      have listed : s ∈ tables := rooted.requested (by simp [split])
      obtain ⟨t, -, chain⟩ := find_chain nodup found
      refine rooted.extend wanted (fun step member => .path listed chain member) ?_
      intro step member
      refine (chain.sources step member).imp_left fun same => ?_
      rw [same]
      exact List.mem_map_of_mem listed
    · have shares := shares_of_dimensionJoin? joined
      have within : g.connected ++ [target] ⊆ tables :=
        List.append_subset.mpr ⟨rooted.requested, by simpa using wanted⟩
      refine rooted.extend wanted (by simpa using .shared within shares) ?_
      obtain ⟨d, -, source, own, target, theirs, found, -, -, rfl⟩ := shares
      have listed := List.mem_map_of_mem (f := (·.identifier)) (within (declarer?_some found).1)
      intro step member
      rw [List.mem_singleton.mp member]
      exact .inl listed

/-- The joins that are built for a list of tables come from this list. -/
theorem build_rooted (nodup : f.schema.tables.keys.Nodup)
    (built : build f tables dimensions = .ok joins) :
    (∀ step ∈ joins, Origin f tables dimensions step) ∧ ∀ step ∈ joins,
      step.sourceId ∈ tables.map (·.identifier) ∨ step.sourceId ∈ joins.map (·.targetId) := by
  rcases tables with _ | ⟨first, _ | ⟨second, rest⟩⟩
  · obtain rfl := Except.ok.inj built
    exact ⟨by simp, by simp⟩
  · obtain rfl := Except.ok.inj built
    exact ⟨by simp, by simp⟩
  · simp only [build, Outcome.bind_eq_ok, Outcome.pure_eq_ok] at built
    obtain ⟨g, run, rfl⟩ := built
    have final := Outcome.foldlM_induction
      (fun _ g => Rooted f (first :: second :: rest) dimensions g) run
      ⟨by simp, by simp [Keyed], by simp [Entries.values], by simp [Entries.values]⟩
      fun before target inside g g' rooted added =>
        rooted.add nodup (List.mem_cons_of_mem first (inside.subset (by simp))) added
    exact ⟨final.origin, final.sources⟩

end JoinGraph
end Datacube
