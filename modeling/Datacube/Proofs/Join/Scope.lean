import Datacube.Join.Apply
import Datacube.Proofs.Join.Graph
import Datacube.Proofs.Schema.Registry

/-!
# The names in a query with joins

A query may refer to the table that it reads and to those that it joins, each under a name of its
own. On one connection the joins of a graph bring in every table once and refer to tables that are
there, so the names clash only where the pivot table of a many-to-many relation is joined twice, or
as a table of the graph as well.
-/

namespace Datacube

namespace QueryStep

/-- The name under which a step brings a table into a query. -/
def introduced? : QueryStep → Option String
  | join table .. => some table.toText
  | crossJoin table => some table.toText
  | _ => none

/-- The columns that a join compares, or that a condition is about. -/
def compared : QueryStep → List Value
  | join _ first _ second _ => [first, second]
  | filter column .. => [column]
  | _ => []

def introduced (steps : List QueryStep) : List String := steps.filterMap introduced?

def Qualified (scope : List String) (reference : Value) : Prop :=
  ∃ name ∈ scope, ∃ column, reference = Join.qualify (.text name) column

/-- Every step refers to names that are there, its own among them. -/
def Referring (scope : List String) : List QueryStep → Prop
  | [] => True
  | step :: rest =>
    (∀ reference ∈ step.compared, Qualified (scope ++ step.introduced?.toList) reference) ∧
    Referring (scope ++ step.introduced?.toList) rest

/-- Steps that bring new names into a query and refer to names that are there. -/
structure Scoped (scope : List String) (steps : List QueryStep) : Prop where
  distinct : (scope ++ introduced steps).Nodup
  refers : Referring scope steps

variable {scope : List String} {steps more : List QueryStep}

theorem introduced_cons (step : QueryStep) (steps : List QueryStep) :
    introduced (step :: steps) = step.introduced?.toList ++ introduced steps := by
  rw [introduced, List.filterMap_cons]
  cases step.introduced? <;> rfl

theorem referring_append : Referring scope (steps ++ more) ↔
    Referring scope steps ∧ Referring (scope ++ introduced steps) more := by
  induction steps generalizing scope with
  | nil => simp [Referring, introduced]
  | cons step rest ih =>
      rw [List.cons_append, Referring, ih, Referring, introduced_cons, List.append_assoc, and_assoc]

end QueryStep

open QueryStep

namespace Join
variable {scope : List String} {j : Join}

/-- The name of the pivot table that a join brings in besides its target. -/
def pivot? (j : Join) : Option String :=
  if j.relation.type = .belongsToMany then some j.relation.pivot.toText else none

theorem introduced_steps (j : Join) :
    introduced j.steps = j.pivot?.toList ++ [j.target.toText] := by
  have plain : ∀ table, introduced (j.discriminator table) = [] := by
    intro table
    rw [discriminator]
    split <;> rfl
  cases type : j.relation.type <;>
    simp only [steps, pivot?, type, reduceCtorEq, if_true, if_false, introduced_cons, plain]
  case crossJoin => split <;> rfl
  all_goals rfl

theorem qualified_of_mem {table column : Value} (known : table.toText ∈ scope) :
    Qualified scope (qualify table column) :=
  ⟨table.toText, known, column, rfl⟩

theorem referring_discriminator {table : Value} (known : table.toText ∈ scope) :
    Referring scope (j.discriminator table) := by
  rw [discriminator]
  split
  · simpa [Referring, introduced?, compared] using qualified_of_mem known
  · trivial

theorem referring_on {own theirs : Value} {steps : List QueryStep}
    (source : j.source.toText ∈ scope) (behind : Referring (scope ++ [j.target.toText]) steps) :
    Referring scope (j.on own theirs :: steps) := by
  refine ⟨?_, behind⟩
  simpa [on, compared, introduced?] using
    ⟨qualified_of_mem (by simp [source]), qualified_of_mem (by simp)⟩

theorem referring_steps (source : j.source.toText ∈ scope) : Referring scope j.steps := by
  have kept : j.source.toText ∈ scope ++ [j.target.toText] := List.mem_append_left _ source
  have last : j.target.toText ∈ scope ++ [j.target.toText] := by simp
  cases type : j.relation.type <;> simp only [steps, type]
  case belongsToMany =>
    refine ⟨?_, ?_, trivial⟩ <;> simp only [compared, introduced?, List.mem_cons, forall_eq_or_imp,
      List.not_mem_nil, false_imp_iff, implies_true, and_true]
    · exact ⟨qualified_of_mem (by simp [source]), qualified_of_mem (by simp)⟩
    · exact ⟨qualified_of_mem (by simp), qualified_of_mem (by simp)⟩
  case morphMany => exact referring_on source (referring_discriminator last)
  case morphTo => exact referring_on source (referring_discriminator kept)
  case crossJoin =>
    split
    · exact referring_on source trivial
    · exact ⟨nofun, trivial⟩
  all_goals exact referring_on source trivial

end Join

namespace JoinGraph
open PathFinder
variable {f : PathFinder} {owned : List (String × Table)} {first t u : Table} {rest : List Table}
  {dimensions : List Dimension} {joins : JoinGraph} {scope : List String}

/-- The names of the pivot tables that the joins of a graph bring in. -/
def pivots (joins : JoinGraph) : List String := joins.filterMap (·.toJoin.pivot?)

def targets (joins : JoinGraph) : List String := joins.map (·.target.toText)

/-- No pivot table is joined twice, or as a table of the graph as well. -/
structure PivotsApart (first : Table) (joins : JoinGraph) : Prop where
  distinct : joins.pivots.Nodup
  foreign : ∀ name ∈ joins.pivots, name ∉ first.label :: joins.targets

theorem introduced_perm (joins : JoinGraph) :
    (introduced joins.steps).Perm (joins.pivots ++ joins.targets) := by
  induction joins with
  | nil => rfl
  | cons s rest ih =>
      have split : introduced (steps (s :: rest)) = introduced s.steps ++ introduced (steps rest) :=
        List.filterMap_append
      rw [split, Join.introduced_steps, pivots, List.filterMap_cons, targets, List.map_cons]
      cases s.pivot? with
      | none => exact (ih.cons _).trans List.perm_middle.symm
      | some pivot => exact ((ih.cons _).trans List.perm_middle.symm).cons _

theorem nodup_introduced_iff (apart : (first.label :: joins.targets).Nodup) :
    (first.label :: introduced joins.steps).Nodup ↔ PivotsApart first joins := by
  have order : (first.label :: introduced joins.steps).Perm
      (joins.pivots ++ first.label :: joins.targets) :=
    ((introduced_perm joins).cons _).trans List.perm_middle.symm
  rw [order.nodup_iff, List.nodup_append]
  constructor
  · rintro ⟨distinct, -, foreign⟩
    exact ⟨distinct, fun name pivot listed => foreign name pivot name listed rfl⟩
  · rintro ⟨distinct, foreign⟩
    exact ⟨distinct, apart, fun name pivot other listed same => foreign name pivot (same ▸ listed)⟩

/-- Joins that start at names that are there only refer to such names. -/
theorem referring_steps (ordered : ∀ before s after, joins = before ++ s :: after →
      s.source.toText ∈ scope ++ before.map (·.target.toText)) : Referring scope joins.steps := by
  induction joins generalizing scope with
  | nil => trivial
  | cons s rest ih =>
      refine referring_append.mpr ⟨Join.referring_steps (by simpa using ordered [] s rest rfl), ?_⟩
      refine ih fun before s' after split => ?_
      have later := ordered (s :: before) s' after (by rw [split, List.cons_append])
      rw [Join.introduced_steps]
      simp only [List.map_cons, List.mem_append, List.mem_cons] at later ⊢
      tauto

/-! ## One connection -/

/-- Tables of one connection, which providers without a colon in their names tell from others. -/
structure OneConnection (tables : List Table) : Prop where
  named : ∀ t ∈ tables, ∃ name, t.name = .text name
  plain : ∀ t ∈ tables, ':' ∉ t.provider.toList
  shared : ∀ t ∈ tables, ∀ u ∈ tables, t.connectionKey = u.connectionKey

namespace OneConnection
variable {tables : List Table}

theorem provider (together : OneConnection tables) (member : t ∈ tables) (member' : u ∈ tables) :
    t.provider = u.provider := by
  have letters := congrArg String.toList (together.shared t member u member')
  simp only [Table.connectionKey, Table.keyOf, String.toList_append, List.append_assoc] at letters
  exact String.toList_injective (Text.first_unique (together.plain t member)
    (together.plain u member') letters).1

theorem clear (together : OneConnection (owned.map (·.2)))
    (compiled : Schema.ofOwned owned = .ok f.schema)
    (known : tables ⊆ f.schema.tables.values) : f.Clear tables :=
  have held : ∀ t ∈ tables, f.schema.Holds t :=
    fun _ member => (Schema.holds_of_values compiled (known member)).1
  clear_of_recognizes (Schema.unambiguous_of_bare together.named together.plain compiled)
    (fun t member => (held t member).recognizes)
    fun t member u member' same => (held t member).unique (held u member') same

end OneConnection

/-- A step that names its tables as one provider identifies them. -/
structure Labelled (provider : String) (s : JoinStep) : Prop where
  source : s.sourceId = provider ++ ":" ++ s.source.toText
  target : s.targetId = provider ++ ":" ++ s.target.toText

theorem joined_eq (labelled : ∀ s ∈ joins, Labelled first.provider s) :
    joined first.identifier joins =
      (first.label :: joins.targets).map (first.provider ++ ":" ++ ·) := by
  rw [joined, targets, List.map_cons, List.map_map, Table.identifier]
  exact congrArg _ (List.map_congr_left fun s member => (labelled s member).target)

theorem RootedTree.labels_nodup (tree : RootedTree first.identifier joins)
    (labelled : ∀ s ∈ joins, Labelled first.provider s) :
    (first.label :: joins.targets).Nodup :=
  List.Nodup.of_map _ (joined_eq labelled ▸ tree.nodup)

theorem RootedTree.referring (tree : RootedTree first.identifier joins)
    (labelled : ∀ s ∈ joins, Labelled first.provider s) : Referring [first.label] joins.steps := by
  refine referring_steps fun before s after split => ?_
  have source := tree.source_joined split
  rw [joined_eq fun s' earlier => labelled s' (split ▸ List.mem_append_left _ earlier),
    (labelled s (by simp [split])).source] at source
  obtain ⟨name, listed, same⟩ := List.mem_map.mp source
  rw [← (String.append_right_inj _).mp same]
  exact listed

theorem Grown.labelled {tables : List Table} {g : Growth}
    (together : OneConnection (owned.map (·.2))) (compiled : Schema.ofOwned owned = .ok f.schema)
    (within : tables ⊆ owned.map (·.2)) (grown : Grown f first tables g) :
    ∀ s ∈ g.joins.values, Labelled first.provider s := by
  obtain ⟨rest, starts⟩ := grown.starts
  have start := within (grown.requested (starts ▸ List.mem_cons_self))
  have identified : ∀ t, f.ReachedFrom tables t →
      t.identifier = first.provider ++ ":" ++ t.label := by
    rintro t ⟨a, here, _, chain⟩
    rw [Table.identifier, together.provider (chain.mem compiled (within here)) start]
  intro s member
  obtain ⟨t, u, r, type, rfl, source, target⟩ := grown.ends s member
  exact ⟨identified t source, identified u target⟩

/-- The joins of a graph on one connection bring in new names and refer to names that are there
exactly when no pivot table is joined twice, or as a table of the graph as well. -/
theorem build_scoped (compiled : Schema.ofOwned owned = .ok f.schema)
    (together : OneConnection (owned.map (·.2))) (known : first :: rest ⊆ f.schema.tables.values)
    (built : build f (first :: rest) dimensions = .ok joins) :
    Scoped [first.label] joins.steps ↔ PivotsApart first joins := by
  obtain ⟨g, grown, rfl, -⟩ :=
    build_ok (together.clear compiled known) (Schema.nodup_keys compiled) built
  have labelled := grown.labelled together compiled fun t member =>
    (Schema.holds_of_values compiled (known member)).2
  have tree := grown.planted.tree
  rw [← nodup_introduced_iff (tree.labels_nodup labelled)]
  exact ⟨Scoped.distinct, fun distinct => ⟨distinct, tree.referring labelled⟩⟩

/-! ## Users and their roles -/

instance (first : Table) (joins : JoinGraph) : Decidable (PivotsApart first joins) :=
  decidable_of_iff (joins.pivots.Nodup ∧ ∀ name ∈ joins.pivots, name ∉ first.label :: joins.targets)
    ⟨fun ⟨distinct, foreign⟩ => ⟨distinct, foreign⟩, fun apart => ⟨apart.distinct, apart.foreign⟩⟩

def users : Table :=
  { belonging "p" "users" [] with
    relations := [
      ("user_roles",
        { name := "user_roles", type := .hasMany, target := "user_roles", pivot := .null
          keys := [("local", "id"), ("foreign", "user_id")] }),
      ("roles",
        { name := "roles", type := .belongsToMany, target := "roles", pivot := "user_roles"
          keys := [("foreign", "user_id"), ("related", "role_id")] })] }

/-- Users who have many roles through a table to which they are related as well. -/
def assigned : List Table := [users, belonging "p" "user_roles" [], belonging "p" "roles" []]

theorem oneConnection_assigned :
    OneConnection ((assigned.map fun t => (t.provider, t)).map (·.2)) where
  named := by simp [assigned, users, belonging]
  plain := by simp [assigned, users, belonging]
  shared := by decide

theorem assigned_known {s : Schema} (compiled : Schema.ofTables assigned = .ok s) :
    assigned ⊆ s.tables.values := by
  have unique : ∀ t ∈ (assigned.map fun t => (t.provider, t)).map (·.2),
      ∀ u ∈ (assigned.map fun t => (t.provider, t)).map (·.2), t.identifier = u.identifier →
      t = u := List.inj_on_of_nodup_map (by decide)
  intro t member
  exact Entries.mem_values_of_get? (Schema.holds_of_unique compiled unique (by simpa using member))

theorem build_scoped_roles : ∃ s joins, Schema.ofTables assigned = .ok s ∧
    build ⟨s, true, "left"⟩ [users, belonging "p" "roles" []] [] = .ok joins ∧
    joins.pivots = ["user_roles"] ∧ Scoped [users.label] joins.steps := by
  obtain ⟨s, compiled⟩ : ∃ s, Schema.ofTables assigned = .ok s := ⟨_, rfl⟩
  obtain ⟨joins, built, shape⟩ := Outcome.any_ok (show
    (build ⟨s, true, "left"⟩ [users, belonging "p" "roles" []] []).toOption.any fun joins =>
      joins.pivots == ["user_roles"] && decide (PivotsApart users joins) by
    rw [← Except.ok.inj compiled]
    decide +kernel)
  rw [Bool.and_eq_true, beq_iff_eq, decide_eq_true_iff] at shape
  have known : [users, belonging "p" "roles" []] ⊆ s.tables.values :=
    fun t member => assigned_known compiled (by
      simp only [assigned, List.mem_cons] at member ⊢
      tauto)
  exact ⟨s, joins, compiled, built, shape.1,
    (build_scoped (f := ⟨s, true, "left"⟩) compiled oneConnection_assigned known built).mpr
      shape.2⟩

/-- Where users are joined with that table and with their roles, it is joined twice. -/
theorem build_joins_pivot_twice : ∃ s joins, Schema.ofTables assigned = .ok s ∧
    assigned ⊆ s.tables.values ∧ build ⟨s, true, "left"⟩ assigned [] = .ok joins ∧
    introduced joins.steps = ["user_roles", "user_roles", "roles"] ∧
    ¬ Scoped [users.label] joins.steps := by
  obtain ⟨s, compiled⟩ : ∃ s, Schema.ofTables assigned = .ok s := ⟨_, rfl⟩
  obtain ⟨joins, built, names⟩ := Outcome.any_ok (show
    (build ⟨s, true, "left"⟩ assigned []).toOption.any fun joins =>
      introduced joins.steps == ["user_roles", "user_roles", "roles"] by
    rw [← Except.ok.inj compiled]
    decide +kernel)
  rw [beq_iff_eq] at names
  refine ⟨s, joins, compiled, assigned_known compiled, built, names, fun fits => ?_⟩
  have distinct := fits.distinct
  rw [names] at distinct
  exact absurd distinct (by decide)

end JoinGraph
end Datacube
