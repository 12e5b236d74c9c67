import Datacube.Proofs.Join.Search

/-!
# Paths between tables

What the finder answers about two tables of a schema: a shortest path without repetitions, or that
no chain of admissible steps leads from the one to the other. The answers are right about all tables
exactly when each table that is reached is told apart, by its identifier, from every table that the
finder could be asked for.
-/

namespace Datacube.PathFinder
variable {f : PathFinder} {source target t u : Table} {path : List JoinStep}
  {owned : List (String × Table)}

theorem find_same (f : PathFinder) (same : source.identifier = target.identifier) :
    f.find source target = .ok (some []) := by
  rw [find, if_pos (beq_iff_eq.mpr same)]

theorem find_barred (differs : source.identifier ≠ target.identifier)
    (barred : f.permits source target = false) : f.find source target = .ok none := by
  rw [find, if_neg (by simpa using differs), if_pos (by simpa using barred)]

theorem find_settles (clear : f.Clear [source]) (nodup : f.schema.tables.keys.Nodup)
    (differs : source.identifier ≠ target.identifier) (free : f.permits source target = true) :
    f.Settles source target.identifier (f.find source target) := by
  rw [find, if_neg (by simpa using differs), if_neg (by simpa using free)]
  exact search_settles clear (.start clear nodup differs)

theorem shortest_nil (f : PathFinder) (t : Table) : f.Shortest t [] t :=
  ⟨.nil t, List.nodup_singleton _, fun _ _ => Nat.zero_le _⟩

theorem find_found (clear : f.Clear [source]) (nodup : f.schema.tables.keys.Nodup)
    (found : f.find source target = .ok (some path)) :
    ∃ t, t.identifier = target.identifier ∧ f.Shortest source path t := by
  by_cases same : source.identifier = target.identifier
  · rw [find_same f same, Except.ok.injEq, Option.some.injEq] at found
    exact ⟨source, same, found ▸ shortest_nil f source⟩
  · cases free : f.permits source target with
    | false =>
        rw [find_barred same free] at found
        cases found
    | true =>
        have settled := find_settles clear nodup same free
        rw [found] at settled
        exact settled

/-- Where no path is found, no steps lead to the identifier. -/
theorem find_lost {tables : List Table} (clear : f.Clear tables)
    (nodup : f.schema.tables.keys.Nodup) (member : source ∈ tables) (member' : target ∈ tables)
    (lost : f.find source target = .ok none) : ¬ f.Reaches source target.identifier := by
  by_cases same : source.identifier = target.identifier
  · rw [find_same f same] at lost
    cases lost
  · cases free : f.permits source target with
    | false =>
        rintro ⟨path, t, chain, reached⟩
        rw [← clear.unique member chain member' (.nil target) reached, chain.permits] at free
        cases free
    | true =>
        have settled := find_settles (clear.single member) nodup same free
        rw [lost] at settled
        exact settled

/-! ## Answers -/

/-- The finder's answer about two tables is right. -/
def Answers (f : PathFinder) (source target : Table) : Prop :=
  match f.find source target with
  | .ok (some path) =>
    f.Shortest source path target ∧ (source.identifier = target.identifier → path = [])
  | .ok none => source.identifier ≠ target.identifier ∧ ∀ path, ¬ f.Chain source path target
  | .error _ => False

/-- A table that is reached shares its identifier with no other one, except on connections that the
finder keeps out of. -/
def TellsApart (f : PathFinder) (source : Table) (tables : List Table) : Prop :=
  ∀ path t, f.Chain source path t → ∀ u ∈ tables, t.identifier = u.identifier →
    t = u ∨ u.identifier ≠ source.identifier ∧ f.permits source u = false

def Named (tables : List Table) : Prop :=
  ∀ t ∈ tables, ∀ r ∈ t.relations.values, ∃ name, r.target = .text name

theorem Chain.mem (compiled : Schema.ofOwned owned = .ok f.schema)
    (member : source ∈ owned.map (·.2)) (chain : f.Chain source path t) : t ∈ owned.map (·.2) := by
  induction chain with
  | nil => exact member
  | cons admitted _ ih => exact ih (Schema.mem_of_find compiled admitted.2.1)

theorem TellsApart.clear (apart : f.TellsApart source (owned.map (·.2)))
    (compiled : Schema.ofOwned owned = .ok f.schema) (member : source ∈ owned.map (·.2)) :
    f.Clear [source] where
  unique := by
    intro a b t u path path' here chain here' chain' same
    rw [List.mem_singleton] at here here'
    subst here here'
    rcases apart path t chain u (chain'.mem compiled member) same with equal | ⟨-, barred⟩
    · exact equal
    · rw [chain'.permits] at barred
      cases barred
  known := by
    intro a t path here chain
    rw [List.mem_singleton] at here
    subst here
    exact .inr (Schema.mem_keys_tables compiled (chain.mem compiled member))

theorem TellsApart.of_unique (compiled : Schema.ofOwned owned = .ok f.schema)
    (member : source ∈ owned.map (·.2))
    (unique : ∀ t ∈ owned.map (·.2), ∀ u ∈ owned.map (·.2), t.identifier = u.identifier → t = u) :
    f.TellsApart source (owned.map (·.2)) :=
  fun _ t chain u listed same => .inl (unique t (chain.mem compiled member) u listed same)

theorem not_breaks (compiled : Schema.ofOwned owned = .ok f.schema)
    (named : Named (owned.map (·.2))) (member : source ∈ owned.map (·.2)) (e : Error) :
    ¬ f.Breaks source e := by
  rintro ⟨path, t, chain, r, declared, failed⟩
  obtain ⟨name, text⟩ := named t (chain.mem compiled member) r declared
  obtain ⟨found, looked⟩ := f.schema.find_text name t.provider
  rw [text, looked] at failed
  cases failed

theorem answers_of_tellsApart (compiled : Schema.ofOwned owned = .ok f.schema)
    (named : Named (owned.map (·.2))) (member : source ∈ owned.map (·.2))
    (apart : f.TellsApart source (owned.map (·.2))) (listed : target ∈ owned.map (·.2)) :
    f.Answers source target := by
  by_cases same : source.identifier = target.identifier
  · rcases apart [] source (.nil source) target listed same with rfl | ⟨differs, -⟩
    · rw [Answers, find_same f rfl]
      exact ⟨shortest_nil f source, fun _ => rfl⟩
    · exact absurd same.symm differs
  · cases free : f.permits source target with
    | false =>
        rw [Answers, find_barred same free]
        refine ⟨same, fun path chain => ?_⟩
        rw [chain.permits] at free
        cases free
    | true =>
        have settled := find_settles (apart.clear compiled member) (Schema.nodup_keys compiled)
          same free
        rw [Answers]
        cases found : f.find source target with
        | error e =>
            rw [found] at settled
            exact not_breaks compiled named member e settled
        | ok answer =>
            rw [found] at settled
            cases answer with
            | none => exact ⟨same, fun path chain => settled ⟨path, target, chain, rfl⟩⟩
            | some path =>
                obtain ⟨t, reached, shortest⟩ := settled
                rcases apart path t shortest.chain target listed reached with rfl | ⟨-, barred⟩
                · exact ⟨shortest, fun equal => absurd equal same⟩
                · rw [free] at barred
                  cases barred

/-- Right answers about two tables of one identifier say that they are the same. -/
theorem tellsApart_of_answers (compiled : Schema.ofOwned owned = .ok f.schema)
    (member : source ∈ owned.map (·.2))
    (answers : ∀ target ∈ owned.map (·.2), f.Answers source target) :
    f.TellsApart source (owned.map (·.2)) := by
  intro path t chain u listed same
  have first := answers t (chain.mem compiled member)
  have second := answers u listed
  by_cases here : source.identifier = t.identifier
  · rw [Answers, find_same f here] at first
    rw [Answers, find_same f (here.trans same)] at second
    exact .inl (first.1.chain.ends_unique second.1.chain)
  · cases free : f.permits source u with
    | false => exact .inr ⟨fun there => here (there ▸ same.symm), rfl⟩
    | true =>
        -- The search knows its target by the identifier alone.
        have alike : f.find source u = f.find source t := by
          rw [find, find, ← same, free, chain.permits]
        rw [Answers, alike] at second
        rw [Answers] at first
        cases found : f.find source t with
        | error e => rw [found] at first; exact first.elim
        | ok answer =>
            rw [found] at first second
            cases answer with
            | none => exact absurd chain (first.2 path)
            | some path' => exact .inl (first.1.chain.ends_unique second.1.chain)

/-- The answers about a table and all others are right exactly when the tables that are reached are
told apart. -/
theorem find_answers_iff (compiled : Schema.ofOwned owned = .ok f.schema)
    (named : Named (owned.map (·.2))) (member : source ∈ owned.map (·.2)) :
    (∀ target ∈ owned.map (·.2), f.Answers source target) ↔
      f.TellsApart source (owned.map (·.2)) := by
  constructor
  · intro answers
    exact tellsApart_of_answers compiled member answers
  · intro apart target listed
    exact answers_of_tellsApart compiled named member apart listed

/-! ## Two schemas -/

def belonging (provider name : String) (targets : List (String × String)) : Table where
  name := .text name
  provider := provider
  connection := .null
  primaryKey := none
  relations := targets.map fun (key, target) => (.text key,
    { name := .text key, type := .belongsTo, target := .text target, pivot := .null
      keys := [("foreign", .text (key ++ "_id")), ("owner", "id")] })
  dimensions := []
  columns := []
  sql := .null
  metadata := .object []

/-- Tables on a cycle; one of them also leads to itself, and one relation leads nowhere. -/
def cycle : List (String × Table) :=
  [("p", belonging "p" "a" [("self", "a"), ("b", "b")]),
    ("p", belonging "p" "b" [("lost", "nowhere"), ("c", "q:c")]),
    ("q", belonging "q" "c" [("a", "p:a")])]

theorem find_answers_cycle : ∃ s, Schema.ofOwned cycle = .ok s ∧ Named (cycle.map (·.2)) ∧
    ∀ sameConnection joinType, ∀ source ∈ cycle.map (·.2), ∀ target ∈ cycle.map (·.2),
      PathFinder.Answers ⟨s, sameConnection, joinType⟩ source target := by
  have named : Named (cycle.map (·.2)) := by
    intro t member r declared
    simp only [cycle, List.map_cons, List.map_nil, List.mem_cons, List.not_mem_nil] at member
    rcases member with rfl | rfl | rfl | ⟨⟨⟩⟩ <;>
      · simp only [belonging, Entries.values, List.map_cons, List.map_nil, List.mem_cons,
          List.not_mem_nil, or_false] at declared
        rcases declared with rfl | rfl <;> exact ⟨_, rfl⟩
  have unique : ∀ t ∈ cycle.map (·.2), ∀ u ∈ cycle.map (·.2), t.identifier = u.identifier →
      t = u := by
    refine List.inj_on_of_nodup_map (f := Table.identifier) ?_
    decide
  obtain ⟨s, compiled⟩ : ∃ s, Schema.ofOwned cycle = .ok s := ⟨_, rfl⟩
  refine ⟨s, compiled, named, ?_⟩
  intro sameConnection joinType source member target listed
  let f : PathFinder := ⟨s, sameConnection, joinType⟩
  have apart : f.TellsApart source (cycle.map (·.2)) := .of_unique compiled member unique
  exact (find_answers_iff (f := f) compiled named member).mpr apart target listed

/-- Two tables of the identifier `a:b:c`. The bare name leads to the one of them, from where no
relation leads on. -/
def collision : List (String × Table) :=
  [("p", belonging "p" "start" [("c", "c"), ("other", "a:b:c")]), ("p", belonging "p" "end" []),
    ("a:b", belonging "a:b" "c" []), ("a", belonging "a" "b:c" [("end", "p:end")])]

theorem find_misses_chain : ∃ s, Schema.ofOwned collision = .ok s ∧
    ∃ source ∈ collision.map (·.2), ∃ target ∈ collision.map (·.2),
      (∃ path, Chain ⟨s, false, "left"⟩ source path target) ∧
        PathFinder.find ⟨s, false, "left"⟩ source target = .ok none := by
  obtain ⟨s, compiled⟩ : ∃ s, Schema.ofOwned collision = .ok s := ⟨_, rfl⟩
  let start := belonging "p" "start" [("c", "c"), ("other", "a:b:c")]
  have chain : ∃ path, Chain ⟨s, false, "left"⟩ start path (belonging "p" "end" []) := by
    rw [← Except.ok.inj compiled]
    exact ⟨_, .cons (u := belonging "a" "b:c" [("end", "p:end")]) ⟨.tail _ (.head _), rfl, rfl⟩
      (.cons ⟨.head _, rfl, rfl⟩ (.nil _))⟩
  have lost : (PathFinder.find ⟨s, false, "left"⟩ start (belonging "p" "end" [])).toOption.any
      Option.isNone = true := by
    rw [← Except.ok.inj compiled]
    decide +kernel
  refine ⟨s, compiled, start, .head _, belonging "p" "end" [], .tail _ (.head _), chain, ?_⟩
  cases found : PathFinder.find ⟨s, false, "left"⟩ start (belonging "p" "end" []) with
  | error e =>
      rw [found] at lost
      cases lost
  | ok path =>
      cases path with
      | none => rfl
      | some path =>
          rw [found] at lost
          cases lost

end Datacube.PathFinder
