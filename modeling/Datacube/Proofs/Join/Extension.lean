import Datacube.Proofs.Join.Shared

/-!
# Joins in larger schemas

A schema may know more tables than another one. As long as no relation of the tables that are joined
leads to one of these, paths and join graphs are the same: what remains to be reached has more
identifiers at its end, and no step takes one of them.
-/

namespace Datacube

/-- The steps are between tables of a kind. -/
def Within (among : Table → Prop) (steps : List JoinStep) : Prop :=
  ∀ s ∈ steps, ∃ t u, among t ∧ among u ∧ s.sourceId = t.identifier ∧ s.targetId = u.identifier

theorem Within.append {among : Table → Prop} {steps more : List JoinStep}
    (within : Within among steps) (within' : Within among more) : Within among (steps ++ more) :=
  fun s member => (List.mem_append.mp member).elim (within s) (within' s)

theorem erase_extra {fresh extra : List String} {x : String} (absent : x ∉ extra) :
    (fresh ++ extra).erase x = fresh.erase x ++ extra := by
  rw [List.erase_append]
  split
  · rfl
  · rename_i unmet
    rw [List.erase_of_not_mem absent, List.erase_of_not_mem unmet]

namespace PathFinder
variable {f f' : PathFinder} {among : Table → Prop} {source t : Table} {target : String}
  {relations : List Relation} {extra fresh left : List String} {found : List Found}
  {queue : List (Table × List JoinStep)} {path : List JoinStep} {r : Relation}

/-- The second finder looks in a schema that knows more identifiers. From the tables of a kind, both
lead to the same tables, which are of that kind again. -/
structure Extended (f f' : PathFinder) (among : Table → Prop) (extra : List String) : Prop where
  connection : f'.sameConnection = f.sameConnection
  type : f'.joinType = f.joinType
  nodup : f.schema.tables.keys.Nodup
  keys : f'.schema.tables.keys = f.schema.tables.keys ++ extra
  apart : ∀ t, among t → t.identifier ∉ extra
  leads : ∀ t, among t → ∀ r ∈ t.relations.values,
    f'.schema.find r.target t.provider = f.schema.find r.target t.provider
  closed : ∀ t, among t → ∀ r ∈ t.relations.values, ∀ u,
    f.schema.find r.target t.provider = .ok (some u) → among u

/-- The search continues from tables of a kind. -/
def Queued (among : Table → Prop) (queue : List (Table × List JoinStep)) : Prop :=
  ∀ e ∈ queue, among e.1 ∧ Within among e.2

section Extended
variable (extended : f.Extended f' among extra)
include extended

theorem Extended.permits : f'.permits = f.permits := by
  funext t u
  rw [PathFinder.permits, PathFinder.permits, extended.connection]

theorem Extended.next? (here : among source) (declared : r ∈ source.relations.values) :
    f'.next? source r = f.next? source r := by
  rw [PathFinder.next?, PathFinder.next?, extended.leads source here r declared, extended.permits]

theorem Extended.among_next (here : among source) (declared : r ∈ source.relations.values)
    (leads : f.next? source r = .ok (some t)) : among t :=
  extended.closed source here r declared t (admits_of_next? declared leads).2.1

theorem Extended.expand (here : among source) (declared : relations ⊆ source.relations.values) :
    f'.expand target source relations (fresh ++ extra) =
      (f.expand target source relations fresh).map fun out => (out.1, out.2 ++ extra) := by
  induction relations generalizing fresh with
  | nil => rfl
  | cons r rest ih =>
      obtain ⟨first, later⟩ := List.cons_subset.mp declared
      have ih := fun fresh => @ih fresh later
      rw [PathFinder.expand, PathFinder.expand, extended.next? here first]
      cases leads : f.next? source r with
      | error e => rfl
      | ok next =>
          cases next with
          | none => exact ih fresh
          | some t =>
              have absent := extended.apart t (extended.among_next here first leads)
              simp only [List.mem_append, or_iff_left absent, erase_extra absent, extended.type]
              split
              · split
                · rfl
                · rw [ih]
                  cases f.expand target source rest (fresh.erase t.identifier) <;> rfl
              · exact ih fresh

theorem Extended.among_found (nodup : fresh.Nodup) (here : among source)
    (expanded : f.expand target source source.relations.values fresh = .ok (found, left)) :
    ∀ e ∈ found, among e.1 ∧ Within among [e.2] := by
  intro e member
  obtain ⟨r, declared, leads, taken⟩ := (expand_ok nodup expanded).steps e member
  have there := extended.among_next here declared leads
  refine ⟨there, fun s only => ?_⟩
  rw [List.mem_singleton.mp only, taken]
  exact ⟨source, e.1, here, there, rfl, rfl⟩

theorem Extended.requeued (nodup : fresh.Nodup) (queued : Queued among ((source, path) :: queue))
    (expanded : f.expand target source source.relations.values fresh = .ok (found, left)) :
    Queued among (requeue queue path found) := by
  obtain ⟨here, walked⟩ := queued _ List.mem_cons_self
  intro e member
  rcases List.mem_append.mp member with old | new
  · exact queued e (.tail _ old)
  · obtain ⟨e', listed, rfl⟩ := List.mem_map.mp new
    obtain ⟨there, step⟩ := extended.among_found nodup here expanded e' listed
    exact ⟨there, walked.append step⟩

omit extended in
theorem search_cons : f.search target ((t, path) :: queue) fresh =
    f.expand target t t.relations.values fresh >>= fun out =>
      match out.1.find? (·.1.identifier == target) with
      | some e => .ok (some (path ++ [e.2]))
      | none => f.search target (requeue queue path out.1) out.2 := by
  rw [search]
  split
  · rename_i failed
    rw [failed]
    rfl
  · rename_i found left expanded
    rw [expanded]
    change _ = match found.find? (·.1.identifier == target) with
      | some e => _
      | none => _
    cases found.find? (·.1.identifier == target) <;> rfl

theorem Extended.search_eq (nodup : fresh.Nodup) (queued : Queued among queue) :
    f'.search target queue (fresh ++ extra) = f.search target queue fresh := by
  -- The queues are the same all along; the further identifiers stay behind, as no table of the
  -- kind bears one of them.
  fun_induction PathFinder.search f target queue fresh with
  | case1 fresh => rw [search]
  | case2 fresh t path rest e failed =>
      have here := (queued _ List.mem_cons_self).1
      rw [search_cons, extended.expand here (List.Subset.refl _), failed]
      rfl
  | case3 fresh t path rest found left expanded n step hit =>
      have here := (queued _ List.mem_cons_self).1
      rw [search_cons, extended.expand here (List.Subset.refl _), expanded]
      simp only [Except.map, bind, Except.bind, hit]
  | case4 fresh t path rest found left expanded missed ih =>
      have here := (queued _ List.mem_cons_self).1
      rw [search_cons, extended.expand here (List.Subset.refl _), expanded]
      simp only [Except.map, bind, Except.bind, missed]
      exact ih (expand_ok nodup expanded).nodup (extended.requeued nodup queued expanded)

theorem Extended.search_within (nodup : fresh.Nodup) (queued : Queued among queue)
    (run : f.search target queue fresh = .ok (some path)) : Within among path := by
  fun_induction PathFinder.search f target queue fresh with
  | case1 fresh => cases run
  | case2 fresh t path rest e failed => cases run
  | case3 fresh t path rest found left expanded n step hit =>
      obtain ⟨here, walked⟩ := queued _ List.mem_cons_self
      have last := extended.among_found nodup here expanded _ (List.mem_of_find?_eq_some hit)
      rw [← Option.some.inj (Except.ok.inj run)]
      exact walked.append last.2
  | case4 fresh t path rest found left expanded missed ih =>
      exact ih (expand_ok nodup expanded).nodup (extended.requeued nodup queued expanded) run

/-! ## Paths -/

omit extended in
theorem queued_start (here : among source) : Queued among [(source, [])] := by
  intro e member
  rw [List.mem_singleton.mp member]
  exact ⟨here, nofun⟩

theorem Extended.find_eq (here : among source) (target : Table) :
    f'.find source target = f.find source target := by
  rw [find, find, extended.permits, extended.keys, erase_extra (extended.apart source here),
    extended.search_eq (extended.nodup.erase _) (queued_start here)]

theorem Extended.find_within (here : among source)
    (found : f.find source t = .ok (some path)) : Within among path := by
  rw [find] at found
  split at found
  · rw [← Option.some.inj (Except.ok.inj found)]
    exact fun s member => absurd member List.not_mem_nil
  · split at found
    · cases found
    · exact extended.search_within (extended.nodup.erase _) (queued_start here) found

end Extended
end PathFinder

namespace JoinGraph
open PathFinder
variable {f f' : PathFinder} {among : Table → Prop} {extra : List String} {g g' : Growth}
  {connected tables : List Table} {target : Table} {steps : List JoinStep}
  {dimensions : List Dimension}

/-- A graph in the making among tables of a kind. -/
structure Growth.Inside (among : Table → Prop) (g : Growth) : Prop where
  connected : ∀ t ∈ g.connected, among t
  joins : Within among g.joins.values

section Extended
variable (extended : f.Extended f' among extra)
include extended

theorem path?_extended (inside : ∀ t ∈ connected, among t) (target : Table) :
    path? f' connected target = path? f connected target := by
  induction connected with
  | nil => rfl
  | cons t rest ih =>
      have later := ih fun u member => inside u (.tail t member)
      rw [path?, path?] at later ⊢
      rw [List.findSomeM?_cons, List.findSomeM?_cons, later,
        extended.find_eq (inside t List.mem_cons_self)]

theorem attach_extended (inside : ∀ t ∈ connected, among t) (target : Table) :
    attach f' connected target dimensions = attach f connected target dimensions := by
  rw [attach, attach, path?_extended extended inside]

theorem within_attach (inside : ∀ t ∈ connected, among t) (wanted : among target)
    (attached : attach f connected target dimensions = .ok steps) : Within among steps := by
  rcases attach_ok attached with path | ⟨-, step, joined, rfl⟩
  · obtain ⟨before, s, after, split, -, found⟩ := path?_some path
    exact extended.find_within (inside s (by simp [split])) found
  · obtain ⟨s, listed, r, type, rfl⟩ := dimensionJoin?_some joined
    intro step only
    rw [List.mem_singleton.mp only]
    exact ⟨s, target, inside s listed, wanted, rfl, rfl⟩

theorem add_extended (inside : g.Inside among) (target : Table) :
    Growth.add f' dimensions g target = Growth.add f dimensions g target := by
  rw [Growth.add, Growth.add, attach_extended extended inside.connected]

theorem Growth.Inside.add (inside : g.Inside among) (wanted : among target)
    (added : Growth.add f dimensions g target = .ok g') : g'.Inside among := by
  rw [Growth.add] at added
  split at added
  · exact Except.ok.inj added ▸ inside
  · obtain ⟨steps, attached, same⟩ := Outcome.bind_eq_ok.mp added
    obtain rfl := Outcome.pure_eq_ok.mp same
    refine ⟨fun t member => ?_, fun step member => ?_⟩
    · rcases List.mem_append.mp member with old | last
      · exact inside.connected t old
      · exact List.mem_singleton.mp last ▸ wanted
    · rcases mem_addSteps member with old | new
      · exact inside.joins step old
      · exact within_attach extended inside.connected wanted attached step new

theorem grow_extended (inside : g.Inside among) (wanted : ∀ t ∈ tables, among t)
    (grown : tables.foldlM (Growth.add f dimensions) g = .ok g') :
    tables.foldlM (Growth.add f' dimensions) g = .ok g' ∧ g'.Inside among := by
  induction tables generalizing g with
  | nil => exact ⟨grown, Outcome.pure_eq_ok.mp grown ▸ inside⟩
  | cons t rest ih =>
      rw [List.foldlM_cons, Outcome.bind_eq_ok] at grown
      obtain ⟨next, added, grown⟩ := grown
      obtain ⟨grown', inside'⟩ := ih (inside.add extended (wanted t List.mem_cons_self) added)
        (fun u later => wanted u (.tail t later)) grown
      refine ⟨?_, inside'⟩
      rw [List.foldlM_cons, add_extended extended inside, added]
      exact grown'

/-- The same graphs are built, and their steps are between tables of the kind. -/
theorem build_extended (inside : ∀ t ∈ tables, among t) {joins : JoinGraph}
    (built : build f tables dimensions = .ok joins) :
    build f' tables dimensions = .ok joins ∧ Within among joins := by
  unfold build at built ⊢
  split at built
  · exact ⟨built, Except.ok.inj built ▸ nofun⟩
  · exact ⟨built, Except.ok.inj built ▸ nofun⟩
  · rename_i first rest _
    simp only [Outcome.bind_eq_ok, Outcome.pure_eq_ok] at built ⊢
    obtain ⟨g, grown, rfl⟩ := built
    have start : Growth.Inside among ⟨[first], []⟩ :=
      ⟨fun t member => inside t (List.mem_singleton.mp member ▸ List.mem_cons_self), nofun⟩
    obtain ⟨grown', inside'⟩ := grow_extended extended start
      (fun t member => inside t (.tail first member)) grown
    exact ⟨⟨g, grown', rfl⟩, inside'.joins⟩

end Extended
end JoinGraph
end Datacube
