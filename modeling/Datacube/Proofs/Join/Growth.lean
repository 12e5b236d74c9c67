import Datacube.Proofs.Join.Agreement
import Datacube.Proofs.Join.Path
import Datacube.Proofs.Join.Tree

/-!
# The growth of join graphs

Every join leads to a table that one of the connected tables reaches, and the first of these owns
it. A new path starts at the first table that reaches its end, so that table also owns every table
on the path; where the tree has a join to such a table, the owner found both, and two paths of one
owner agree. So a path fits the tree, and the graph stays one.
-/

namespace Datacube.JoinGraph
open PathFinder

open scoped Classical in
/-- The first connected table that reaches an identifier. -/
def Owns (f : PathFinder) (connected : List Table) (identifier : String) (s : Table) : Prop :=
  connected.find? (fun t => decide (f.Reaches t identifier)) = some s

variable {f : PathFinder} {connected tables : List Table} {first s t u target : Table}
  {identifier : String} {g g' : Growth} {path : List JoinStep} {step : JoinStep}
  {dimensions : List Dimension}

/-! ## Owners -/

theorem Owns.unique (owns : Owns f connected identifier s) (owns' : Owns f connected identifier t) :
    s = t :=
  Option.some.inj (owns.symm.trans owns')

theorem Owns.mem (owns : Owns f connected identifier s) : s ∈ connected :=
  List.mem_of_find?_eq_some owns

theorem Owns.reaches (owns : Owns f connected identifier s) : f.Reaches s identifier := by
  simpa using List.find?_some owns

theorem Owns.append (owns : Owns f connected identifier s) (more : List Table) :
    Owns f (connected ++ more) identifier s := by
  rw [Owns, List.find?_append, owns, Option.some_or]

open scoped Classical in
theorem owns_of_split {before after : List Table}
    (none : ∀ b ∈ before, ¬ f.Reaches b identifier) (reaches : f.Reaches s identifier) :
    Owns f (before ++ s :: after) identifier s := by
  have skipped : before.find? (fun t => decide (f.Reaches t identifier)) = Option.none := by
    rw [List.find?_eq_none]
    simpa using none
  rw [Owns, List.find?_append, skipped, Option.none_or, List.find?_cons_of_pos (by simpa)]

theorem owns_first (f : PathFinder) (s : Table) (rest : List Table) :
    Owns f (s :: rest) s.identifier s := by
  rw [Owns, List.find?_cons_of_pos]
  simpa using Reaches.refl f s

theorem path?_some (h : path? f connected target = .ok (some path)) :
    ∃ before s after, connected = before ++ s :: after ∧
      (∀ b ∈ before, f.find b target = .ok none) ∧ f.find s target = .ok (some path) := by
  induction connected with
  | nil => cases h
  | cons t rest ih =>
      rw [path?, List.findSomeM?_cons, Outcome.bind_eq_ok] at h
      obtain ⟨found, looked, h⟩ := h
      cases found with
      | some path' =>
          rw [Outcome.pure_eq_ok, Option.some.injEq] at h
          exact ⟨[], t, rest, rfl, by simp, h ▸ looked⟩
      | none =>
          obtain ⟨before, s, after, split, lost, found⟩ := ih h
          refine ⟨t :: before, s, after, by rw [split, List.cons_append], ?_, found⟩
          intro b member
          rcases List.mem_cons.mp member with rfl | later
          · exact looked
          · exact lost b later

theorem path?_none (h : path? f connected target = .ok none) :
    ∀ s ∈ connected, f.find s target = .ok none := by
  induction connected with
  | nil => simp
  | cons t rest ih =>
      rw [path?, List.findSomeM?_cons, Outcome.bind_eq_ok] at h
      obtain ⟨found, looked, h⟩ := h
      cases found with
      | some path' => cases h
      | none =>
          intro s member
          rcases List.mem_cons.mp member with rfl | later
          · exact looked
          · exact ih h s later

theorem dimensionJoin?_some (h : dimensionJoin? connected target dimensions = some step) :
    ∃ s ∈ connected, ∃ r type, step = .between s target r type := by
  obtain ⟨d, -, h⟩ := List.exists_of_findSome?_eq_some h
  obtain ⟨theirs, -, h⟩ := Option.bind_eq_some_iff.mp h
  obtain ⟨s, member, h⟩ := List.exists_of_findSome?_eq_some h
  obtain ⟨own, -, rfl⟩ := Option.map_eq_some_iff.mp h
  exact ⟨s, member, _, _, rfl⟩

/-! ## The invariant -/

/-- What holds of the graph between two tables that are attached. -/
structure Grown (f : PathFinder) (first : Table) (tables : List Table) (g : Growth) : Prop where
  starts : ∃ rest, g.connected = first :: rest
  requested : g.connected ⊆ tables
  planted : Planted first.identifier g.joins
  owned : ∀ step ∈ g.joins.values, ∃ s, Owns f g.connected step.targetId s ∧
    (s.identifier = step.targetId ∨ ∃ t path, f.find s t = .ok (some path) ∧ step ∈ path)
  covered : ∀ t ∈ g.connected, t.identifier ∈ joined first.identifier g.joins.values
  alive : ∀ step ∈ g.joins.values, step.targetId ∈ g.connected.map (·.identifier) ∨
    step.targetId ∈ g.joins.values.map (·.sourceId)
  ends : ∀ step ∈ g.joins.values, ∃ s t r type, step = .between s t r type ∧
    f.ReachedFrom tables s ∧ f.ReachedFrom tables t

/-! ## Attaching a table -/

/-- The graph with one more table, when what is new is owned, alive and between known tables. -/
theorem Grown.extend {entries : Entries (String × String) JoinStep} {added : List JoinStep}
    (grown : Grown f first tables g) (wanted : target ∈ tables)
    (planted : Planted first.identifier entries)
    (members : ∀ step, step ∈ entries.values ↔ step ∈ g.joins.values ∨ step ∈ added)
    (covered : target.identifier ∈ joined first.identifier entries.values)
    (owned : ∀ step ∈ added, ∃ s, Owns f (g.connected ++ [target]) step.targetId s ∧
      (s.identifier = step.targetId ∨ ∃ t path, f.find s t = .ok (some path) ∧ step ∈ path))
    (alive : ∀ step ∈ added, step.targetId = target.identifier ∨
      step.targetId ∈ added.map (·.sourceId))
    (ends : ∀ step ∈ added, ∃ s t r type, step = .between s t r type ∧
      f.ReachedFrom tables s ∧ f.ReachedFrom tables t) :
    Grown f first tables ⟨g.connected ++ [target], entries⟩ where
  starts := by
    obtain ⟨rest, starts⟩ := grown.starts
    exact ⟨rest ++ [target], by rw [starts, List.cons_append]⟩
  requested := List.append_subset.mpr ⟨grown.requested, by simpa using wanted⟩
  planted := planted
  owned := by
    intro step member
    rcases (members step).mp member with old | fresh
    · obtain ⟨owner, owns, origin⟩ := grown.owned step old
      exact ⟨owner, owns.append _, origin⟩
    · exact owned step fresh
  covered := by
    intro t member
    rcases List.mem_append.mp member with old | last
    · rcases List.mem_cons.mp (grown.covered t old) with atFirst | behind
      · exact atFirst ▸ List.mem_cons_self
      · obtain ⟨step, listed, same⟩ := List.mem_map.mp behind
        exact List.mem_cons_of_mem _
          (List.mem_map.mpr ⟨step, (members step).mpr (.inl listed), same⟩)
    · exact List.mem_singleton.mp last ▸ covered
  alive := by
    have sources : ∀ step, step ∈ g.joins.values ∨ step ∈ added →
        step.sourceId ∈ entries.values.map (·.sourceId) :=
      fun step member => List.mem_map.mpr ⟨step, (members step).mpr member, rfl⟩
    intro step member
    rw [List.map_append, List.mem_append]
    rcases (members step).mp member with old | fresh
    · rcases grown.alive step old with requested | passed
      · exact .inl (.inl requested)
      · obtain ⟨other, listed, same⟩ := List.mem_map.mp passed
        exact .inr (same ▸ sources other (.inl listed))
    · rcases alive step fresh with last | passed
      · exact .inl (.inr (List.mem_singleton.mpr last))
      · obtain ⟨other, listed, same⟩ := List.mem_map.mp passed
        exact .inr (same ▸ sources other (.inr listed))
  ends := by
    intro step member
    rcases (members step).mp member with old | fresh
    · exact grown.ends step old
    · exact ends step fresh

section Attach
variable (clear : f.Clear tables) (nodup : f.schema.tables.keys.Nodup)
  (grown : Grown f first tables g) (wanted : target ∈ tables)
include clear nodup grown wanted

/-- The start of a new path owns every table behind it. -/
theorem Grown.owns_path {before after : List Table} (split : g.connected = before ++ s :: after)
    (lost : ∀ b ∈ before, f.find b target = .ok none) (chain : f.Chain s path t)
    (reached : t.identifier = target.identifier) (member : step ∈ path) :
    Owns f g.connected step.targetId s := by
  have here : s ∈ g.connected := by simp [split]
  obtain ⟨prior, u, r, v, rest, -, rfl, toStep, admitted, toEnd⟩ := chain.split member
  rw [split]
  refine owns_of_split (fun b earlier => ?_) ⟨_, v, toStep.concat admitted, rfl⟩
  rintro ⟨path', v', chain', same⟩
  have there : b ∈ g.connected := by simp [split, earlier]
  -- A table that reaches the middle of the path reaches its end as well.
  have equal : v' = v := clear.unique (grown.requested there) chain' (grown.requested here)
    (toStep.concat admitted) same
  subst equal
  exact find_lost clear nodup (grown.requested there) wanted (lost b earlier)
    ⟨_, t, chain'.append toEnd, reached⟩

theorem Grown.fits_path {before after : List Table} (split : g.connected = before ++ s :: after)
    (lost : ∀ b ∈ before, f.find b target = .ok none) (found : f.find s target = .ok (some path))
    (shortest : f.Shortest s path t) (reached : t.identifier = target.identifier)
    (member : step ∈ path) : Fits first.identifier g.joins.values step := by
  have owns := grown.owns_path clear nodup wanted split lost shortest.chain reached member
  have differs : s.identifier ≠ step.targetId := by
    intro same
    exact (List.nodup_cons.mp shortest.simple).1 (List.mem_map.mpr ⟨step, member, same.symm⟩)
  by_cases inside : step.targetId ∈ joined first.identifier g.joins.values
  · rcases List.mem_cons.mp inside with atFirst | behind
    · obtain ⟨rest, starts⟩ := grown.starts
      have owns' : Owns f g.connected step.targetId first := by
        rw [starts, atFirst]
        exact owns_first f first rest
      exact absurd (owns.unique owns' ▸ atFirst.symm) differs
    · -- The tree joins the table already: its owner is the start of this path, so both joins
      -- lie on paths from one table, and there they agree.
      obtain ⟨other, listed, same⟩ := List.mem_map.mp behind
      obtain ⟨s', owns', origin⟩ := grown.owned other listed
      rw [same] at owns' origin
      obtain rfl := owns.unique owns'
      rcases origin with itself | ⟨target', path', found', member'⟩
      · exact absurd itself differs
      · exact .inl (find_agree nodup found found' member member' same.symm ▸ listed)
  · exact .inr inside

theorem Grown.attach_path (new : target.identifier ∉ g.connected.map (·.identifier))
    (found : path? f g.connected target = .ok (some path)) :
    Grown f first tables ⟨g.connected ++ [target], path.foldl put g.joins⟩ := by
  obtain ⟨before, s, after, split, lost, found⟩ := path?_some found
  have here : s ∈ g.connected := by simp [split]
  obtain ⟨t, reached, shortest⟩ :=
    find_found (clear.single (grown.requested here)) nodup found
  obtain ⟨planted, members⟩ := grown.planted.putAll shortest.chain (grown.covered s here)
    (List.nodup_cons.mp shortest.simple).2 fun step member =>
      grown.fits_path clear nodup wanted split lost found shortest reached member
  refine grown.extend wanted planted members ?_ ?_ ?_ ?_
  · rw [← reached]
    rcases List.mem_cons.mp shortest.chain.end_visited with atStart | behind
    · rw [reached] at atStart
      exact absurd (List.mem_map.mpr ⟨s, here, atStart.symm⟩) new
    · obtain ⟨step, member, same⟩ := List.mem_map.mp behind
      exact List.mem_cons_of_mem _ (List.mem_map.mpr ⟨step, (members step).mpr (.inr member), same⟩)
  · intro step member
    have owns := grown.owns_path clear nodup wanted split lost shortest.chain reached member
    exact ⟨s, owns.append _, .inr ⟨target, path, found, member⟩⟩
  · intro step member
    obtain ⟨prior, u, r, v, rest, joins, rfl, -, -, toEnd⟩ := shortest.chain.split member
    cases toEnd with
    | nil => exact .inl reached
    | cons => exact .inr (by simp [joins, JoinStep.between])
  · intro step member
    obtain ⟨prior, u, r, v, rest, -, rfl, toStep, admitted, -⟩ := shortest.chain.split member
    exact ⟨u, v, r, _, rfl, ⟨s, grown.requested here, _, toStep⟩,
      ⟨s, grown.requested here, _, toStep.concat admitted⟩⟩

theorem Grown.attach_dimension (new : target.identifier ∉ g.connected.map (·.identifier))
    (lost : path? f g.connected target = .ok none)
    (shared : dimensionJoin? g.connected target dimensions = some step) :
    Grown f first tables ⟨g.connected ++ [target], put g.joins step⟩ := by
  obtain ⟨s, here, r, type, rfl⟩ := dimensionJoin?_some shared
  have unreached : ∀ b ∈ g.connected, ¬ f.Reaches b target.identifier := fun b member =>
    find_lost clear nodup (grown.requested member) wanted (path?_none lost b member)
  have outside : target.identifier ∉ joined first.identifier g.joins.values := by
    intro inside
    rcases List.mem_cons.mp inside with atFirst | behind
    · obtain ⟨rest, starts⟩ := grown.starts
      exact new (List.mem_map.mpr ⟨first, by simp [starts], atFirst.symm⟩)
    · obtain ⟨step, listed, same⟩ := List.mem_map.mp behind
      obtain ⟨owner, owns, -⟩ := grown.owned step listed
      exact unreached owner owns.mem (same ▸ owns.reaches)
  have fits : Fits first.identifier g.joins.values (.between s target r type) := .inr outside
  obtain ⟨planted, change⟩ := grown.planted.put fits (grown.covered s here)
  have members : ∀ step, step ∈ (put g.joins (.between s target r type)).values ↔
      step ∈ g.joins.values ∨ step ∈ [JoinStep.between s target r type] := by
    intro step
    rcases change with ⟨-, present⟩ | longer
    · exact absurd (List.mem_cons_of_mem _ (List.mem_map.mpr ⟨_, present, rfl⟩)) outside
    · rw [longer, List.mem_append]
  refine grown.extend wanted planted members ?_ ?_ ?_ ?_
  · exact List.mem_cons_of_mem _
      (List.mem_map.mpr ⟨_, (members _).mpr (.inr (List.mem_singleton_self _)), rfl⟩)
  · intro step member
    rw [List.mem_singleton.mp member]
    exact ⟨target, owns_of_split unreached (.refl f target), .inl rfl⟩
  · intro step member
    rw [List.mem_singleton.mp member]
    exact .inl rfl
  · intro step member
    exact ⟨s, target, r, type, List.mem_singleton.mp member,
      ⟨s, grown.requested here, [], .nil s⟩, ⟨target, wanted, [], .nil target⟩⟩

end Attach

/-! ## Building -/

theorem Grown.start (wanted : first ∈ tables) : Grown f first tables ⟨[first], []⟩ where
  starts := ⟨[], rfl⟩
  requested := by simpa using wanted
  planted := ⟨by simp, .nil⟩
  owned := by simp [Entries.values]
  covered := by
    intro t member
    rw [List.mem_singleton.mp member]
    exact List.mem_cons_self
  alive := by simp [Entries.values]
  ends := by simp [Entries.values]

theorem attach_ok {steps : List JoinStep}
    (attached : attach f connected target dimensions = .ok steps) :
    path? f connected target = .ok (some steps) ∨
      path? f connected target = .ok none ∧
        ∃ step, dimensionJoin? connected target dimensions = some step ∧ steps = [step] := by
  rw [attach, Outcome.bind_eq_ok] at attached
  obtain ⟨found, looked, attached⟩ := attached
  cases found with
  | some path =>
      rw [Outcome.pure_eq_ok] at attached
      exact .inl (attached ▸ looked)
  | none =>
      simp only at attached
      split at attached
      · rename_i step shared
        rw [Outcome.pure_eq_ok] at attached
        exact .inr ⟨looked, step, shared, attached.symm⟩
      · cases attached

theorem Grown.add (clear : f.Clear tables) (nodup : f.schema.tables.keys.Nodup)
    (grown : Grown f first tables g) (wanted : target ∈ tables)
    (added : Growth.add f dimensions g target = .ok g') :
    Grown f first tables g' ∧ g.connected ⊆ g'.connected ∧
      target.identifier ∈ g'.connected.map (·.identifier) := by
  rw [Growth.add] at added
  split at added
  · rename_i present
    rw [Except.ok.injEq] at added
    subst added
    exact ⟨grown, List.Subset.refl _, by simpa using present⟩
  · rename_i absent
    have new : target.identifier ∉ g.connected.map (·.identifier) := by simpa using absent
    rw [Outcome.bind_eq_ok] at added
    obtain ⟨steps, attached, added⟩ := added
    rw [Outcome.pure_eq_ok] at added
    subst added
    refine ⟨?_, List.subset_append_left _ _, by simp⟩
    rcases attach_ok attached with found | ⟨lost, step, shared, rfl⟩
    · exact grown.attach_path clear nodup wanted new found
    · exact grown.attach_dimension clear nodup wanted new lost shared

/-- What is built grew well, and every table of the list is connected. -/
theorem build_ok {rest : List Table} {joins : JoinGraph} (clear : f.Clear (first :: rest))
    (nodup : f.schema.tables.keys.Nodup) (built : build f (first :: rest) dimensions = .ok joins) :
    ∃ g, Grown f first (first :: rest) g ∧ g.joins.values = joins ∧
      ∀ t ∈ first :: rest, t.identifier ∈ g.connected.map (·.identifier) := by
  have start : Grown f first (first :: rest) ⟨[first], []⟩ := .start List.mem_cons_self
  cases rest with
  | nil =>
      rw [build, Except.ok.injEq] at built
      subst built
      exact ⟨_, start, rfl, by simp⟩
  | cons second rest =>
      simp only [build, Outcome.bind_eq_ok, Outcome.pure_eq_ok] at built
      obtain ⟨g, run, built⟩ := built
      have final := Outcome.foldlM_induction (fun before g =>
        Grown f first (first :: second :: rest) g ∧ first ∈ g.connected ∧
          ∀ t ∈ before, t.identifier ∈ g.connected.map (·.identifier)) run
        ⟨start, List.mem_singleton_self _, by simp⟩ ?_
      · obtain ⟨grown, starts, all⟩ := final
        refine ⟨g, grown, built, ?_⟩
        intro t member
        rcases List.mem_cons.mp member with rfl | later
        · exact List.mem_map.mpr ⟨_, starts, rfl⟩
        · exact all t later
      · intro before target inside a b now added
        obtain ⟨grown, starts, all⟩ := now
        have wanted : target ∈ first :: second :: rest :=
          List.mem_cons_of_mem _ (inside.subset (by simp))
        obtain ⟨grown', kept, connected⟩ := grown.add clear nodup wanted added
        refine ⟨grown', kept starts, ?_⟩
        intro t member
        rcases List.mem_append.mp member with old | last
        · exact List.map_subset _ kept (all t old)
        · exact List.mem_singleton.mp last ▸ connected

end Datacube.JoinGraph
