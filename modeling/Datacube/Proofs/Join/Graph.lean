import Datacube.Proofs.Join.Growth

/-!
# Join graphs as trees

The joins that are built for a list of tables form a tree with the first table at its root. They
come in usable order, connect every table of the list and have no dead branches. The condition is
that the tables which steps lead to from the list have identifiers of their own.
-/

namespace Datacube.JoinGraph
open PathFinder

/-- Joins that form a tree over a list of tables, with one of them at the root. -/
structure Spans (first : Table) (tables : List Table) (joins : List JoinStep) : Prop where
  distinct : (joins.map (·.targetId)).Nodup
  rootless : first.identifier ∉ joins.map (·.targetId)
  ordered : ∀ before step after, joins = before ++ step :: after →
    step.sourceId = first.identifier ∨ step.sourceId ∈ before.map (·.targetId)
  covers : ∀ t ∈ tables, t.identifier = first.identifier ∨ t.identifier ∈ joins.map (·.targetId)
  alive : ∀ identifier, identifier = first.identifier ∨ identifier ∈ joins.map (·.targetId) →
    identifier ∉ joins.map (·.sourceId) → identifier ∈ tables.map (·.identifier)

/-- Different tables that steps lead to from a list have different identifiers. -/
def Distinguished (f : PathFinder) (tables : List Table) : Prop :=
  ∀ t u, f.ReachedFrom tables t → f.ReachedFrom tables u → t.identifier = u.identifier → t = u

variable {f : PathFinder} {owned : List (String × Table)} {tables : List Table} {first : Table}
  {dimensions : List Dimension} {joins : JoinGraph} {g : Growth}

theorem Distinguished.clear (apart : Distinguished f tables)
    (compiled : Schema.ofOwned owned = .ok f.schema) (member : tables ⊆ owned.map (·.2)) :
    f.Clear tables where
  unique := fun from' chain from'' chain' => apart _ _ ⟨_, from', _, chain⟩ ⟨_, from'', _, chain'⟩
  known := fun here chain =>
    .inr (Schema.mem_keys_tables compiled (chain.mem compiled (member here)))

theorem Distinguished.of_unique (compiled : Schema.ofOwned owned = .ok f.schema)
    (member : tables ⊆ owned.map (·.2))
    (unique : ∀ t ∈ owned.map (·.2), ∀ u ∈ owned.map (·.2), t.identifier = u.identifier → t = u) :
    Distinguished f tables := by
  rintro t u ⟨a, here, path, chain⟩ ⟨b, there, path', chain'⟩ same
  exact unique t (chain.mem compiled (member here)) u (chain'.mem compiled (member there)) same

theorem Grown.spans (grown : Grown f first tables g)
    (covers : ∀ t ∈ tables, t.identifier ∈ g.connected.map (·.identifier)) :
    Spans first tables g.joins.values where
  distinct := (List.nodup_cons.mp grown.planted.tree.nodup).2
  rootless := (List.nodup_cons.mp grown.planted.tree.nodup).1
  ordered := fun before step after split =>
    List.mem_cons.mp (grown.planted.tree.source_joined split)
  covers := by
    intro t member
    obtain ⟨u, connected, same⟩ := List.mem_map.mp (covers t member)
    exact same ▸ List.mem_cons.mp (grown.covered u connected)
  alive := by
    have requested := List.map_subset (·.identifier) grown.requested
    intro identifier inside unused
    rcases inside with rfl | behind
    · obtain ⟨rest, starts⟩ := grown.starts
      exact requested (List.mem_map.mpr ⟨first, by simp [starts], rfl⟩)
    · obtain ⟨step, listed, rfl⟩ := List.mem_map.mp behind
      exact requested ((grown.alive step listed).resolve_right unused)

/-- The joins that are built for a list of tables span it. -/
theorem build_spans (compiled : Schema.ofOwned owned = .ok f.schema)
    (member : tables ⊆ owned.map (·.2)) (apart : Distinguished f tables)
    (built : build f tables dimensions = .ok joins) :
    match tables with
    | [] => joins = []
    | first :: _ => Spans first tables joins := by
  cases tables with
  | nil =>
      rw [build, Except.ok.injEq] at built
      exact built.symm
  | cons first rest =>
      obtain ⟨g, grown, rfl, covers⟩ :=
        build_ok (apart.clear compiled member) (Schema.nodup_keys compiled) built
      exact grown.spans covers

def groupable (t : Table) (column : String) : Table :=
  { t with dimensions := .ofDimensions [.make .plain column] }

/-- A cycle of tables, and one that only a dimension connects with the first of them. -/
def bridged : List (String × Table) :=
  ("p", groupable (belonging "p" "a" [("self", "a"), ("b", "b")]) "k") ::
    ("q", groupable (belonging "q" "d" []) "k") :: cycle.tail

theorem build_spans_bridged : ∃ s first rest joins, Schema.ofOwned bridged = .ok s ∧
    bridged.map (·.2) = first :: rest ∧
    build ⟨s, false, "left"⟩ (first :: rest ++ bridged.map (·.2)) [.make .plain "k"] = .ok joins ∧
    Spans first (first :: rest ++ bridged.map (·.2)) joins := by
  have unique : ∀ t ∈ bridged.map (·.2), ∀ u ∈ bridged.map (·.2), t.identifier = u.identifier →
      t = u := by
    refine List.inj_on_of_nodup_map (f := Table.identifier) ?_
    decide
  obtain ⟨s, compiled⟩ : ∃ s, Schema.ofOwned bridged = .ok s := ⟨_, rfl⟩
  obtain ⟨joins, built⟩ : ∃ joins, build ⟨s, false, "left"⟩
      (bridged.map (·.2) ++ bridged.map (·.2)) [.make .plain "k"] = .ok joins := by
    refine Outcome.exists_ok ?_
    rw [← Except.ok.inj compiled]
    decide +kernel
  have member : bridged.map (·.2) ++ bridged.map (·.2) ⊆ bridged.map (·.2) :=
    List.append_subset.mpr ⟨List.Subset.refl _, List.Subset.refl _⟩
  have apart : Distinguished ⟨s, false, "left"⟩ (bridged.map (·.2) ++ bridged.map (·.2)) :=
    .of_unique compiled member unique
  exact ⟨s, _, _, joins, compiled, rfl, built, build_spans compiled member apart built⟩

/-- Two tables of the identifier `a:b:c`, on paths from tables that a dimension connects. -/
def doubled : List (String × Table) :=
  [("p", groupable (belonging "p" "a" [("c", "c")]) "k"), ("p", belonging "p" "u" []),
    ("p", groupable (belonging "p" "d" [("x", "a:b:c")]) "k"), ("p", belonging "p" "t" []),
    ("a:b", belonging "a:b" "c" [("u", "p:u")]), ("a", belonging "a" "b:c" [("t", "p:t")])]

/-- Where two tables share an identifier, it can be joined twice. -/
theorem build_joins_twice : ∃ s joins, Schema.ofOwned doubled = .ok s ∧
    build ⟨s, false, "left"⟩ ((doubled.map (·.2)).take 4) [.make .plain "k"] = .ok joins ∧
    ¬ (joins.map (·.targetId)).Nodup := by
  obtain ⟨s, compiled⟩ : ∃ s, Schema.ofOwned doubled = .ok s := ⟨_, rfl⟩
  have targets : (build ⟨s, false, "left"⟩ ((doubled.map (·.2)).take 4)
      [.make .plain "k"]).toOption.map (·.map (·.targetId)) =
        some ["a:b:c", "p:u", "p:d", "a:b:c", "p:t"] := by
    rw [← Except.ok.inj compiled]
    decide +kernel
  cases built : build ⟨s, false, "left"⟩ ((doubled.map (·.2)).take 4) [.make .plain "k"] with
  | error e =>
      rw [built] at targets
      cases targets
  | ok joins =>
      rw [built] at targets
      refine ⟨s, joins, compiled, built, ?_⟩
      have same : joins.map (·.targetId) = ["a:b:c", "p:u", "p:d", "a:b:c", "p:t"] :=
        Option.some.inj targets
      rw [same]
      decide

end Datacube.JoinGraph
