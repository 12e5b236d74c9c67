import Datacube.Proofs.Join.Agreement
import Datacube.Proofs.Join.Path
import Mathlib.Data.List.Lex
import Mathlib.Data.Prod.Lex

/-!
# The order of declaration

A path is known by the numbers of its relations, counted as the tables declare them. The search
meets tables in the order of these numbers, shorter paths first: what the queue holds is sorted, and
no path to one of its tables comes before the one that it holds. So the path that is found is the
first of all shortest ones.
-/

namespace Datacube.PathFinder

/-- A chain of steps along relations with the given numbers. -/
inductive Numbered (f : PathFinder) : Table → List Nat → List JoinStep → Table → Prop where
  | nil (t : Table) : Numbered f t [] [] t
  | cons {t u v : Table} {r : Relation} {n : Nat} {numbers : List Nat} {path : List JoinStep}
      (declared : t.relations.values[n]? = some r) (admitted : f.Admits t r u)
      (rest : Numbered f u numbers path v) :
      Numbered f t (n :: numbers) (.between t u r f.joinType :: path) v

/-- Shorter paths come first, then the one whose relations are declared earlier. -/
def rank (numbers : List Nat) : ℕ ×ₗ List ℕ := toLex (numbers.length, numbers)

/-- No path between the two tables comes before this one. -/
structure Foremost (f : PathFinder) (source : Table) (numbers : List Nat) (path : List JoinStep)
    (target : Table) : Prop where
  numbered : f.Numbered source numbers path target
  least : ∀ numbers' path', f.Numbered source numbers' path' target → rank numbers ≤ rank numbers'

variable {f : PathFinder} {source s t u v : Table} {target : String} {relations : List Relation}
  {r : Relation} {n m : Nat} {numbers numbers' : List Nat} {path path' : List JoinStep}
  {fresh left : List String} {found : List Found} {queue rest : List (Table × List JoinStep)}

/-! ## Numbered chains -/

namespace Numbered

theorem chain (numbered : f.Numbered s numbers path t) : f.Chain s path t := by
  induction numbered with
  | nil t => exact .nil t
  | cons _ admitted _ ih => exact .cons admitted ih

theorem length_eq (numbered : f.Numbered s numbers path t) : numbers.length = path.length := by
  induction numbered with
  | nil => rfl
  | cons _ _ _ ih => simp [ih]

theorem concat (numbered : f.Numbered s numbers path t) (declared : t.relations.values[n]? = some r)
    (admitted : f.Admits t r u) :
    f.Numbered s (numbers ++ [n]) (path ++ [.between t u r f.joinType]) u := by
  induction numbered with
  | nil => exact .cons declared admitted (.nil u)
  | cons declared' admitted' _ ih => exact .cons declared' admitted' (ih declared admitted)

theorem last (numbered : f.Numbered s numbers path t) (steps : numbers ≠ []) :
    ∃ before n earlier u r, numbers = before ++ [n] ∧ f.Numbered s before earlier u ∧
      u.relations.values[n]? = some r ∧ f.Admits u r t := by
  induction numbered with
  | nil => exact absurd rfl steps
  | @cons s u t r n numbers path declared admitted rest ih =>
      cases numbers with
      | nil =>
          cases rest
          exact ⟨[], n, [], s, r, rfl, .nil s, declared, admitted⟩
      | cons m later =>
          obtain ⟨before, k, earlier, w, r', split, first, declared', admitted'⟩ :=
            ih (List.cons_ne_nil m later)
          exact ⟨n :: before, k, _, w, r', by rw [split]; rfl, .cons declared admitted first,
            declared', admitted'⟩

end Numbered

theorem Chain.numbered (chain : f.Chain s path t) : ∃ numbers, f.Numbered s numbers path t := by
  induction chain with
  | nil t => exact ⟨[], .nil t⟩
  | cons admitted _ ih =>
      obtain ⟨numbers, later⟩ := ih
      obtain ⟨n, declared⟩ := List.mem_iff_getElem?.mp admitted.1
      exact ⟨n :: numbers, .cons declared admitted later⟩

/-! ## The order of paths -/

theorem rank_lt_iff : rank numbers < rank numbers' ↔
    numbers.length < numbers'.length ∨
      numbers.length = numbers'.length ∧ numbers < numbers' := by
  rw [rank, rank, Prod.Lex.toLex_lt_toLex]

theorem rank_le_iff (alike : numbers.length = numbers'.length) :
    rank numbers ≤ rank numbers' ↔ numbers ≤ numbers' := by
  simp [rank, Prod.Lex.toLex_le_toLex, alike]

theorem length_le_of_rank_le (before : rank numbers ≤ rank numbers') :
    numbers.length ≤ numbers'.length := by
  rw [rank, rank, Prod.Lex.toLex_le_toLex] at before
  rcases before with shorter | ⟨alike, -⟩
  · exact shorter.le
  · exact alike.le

theorem append_lt_append (alike : numbers.length = numbers'.length) (before : numbers < numbers')
    (n m : Nat) : numbers ++ [n] < numbers' ++ [m] := by
  induction numbers generalizing numbers' with
  | nil =>
      cases numbers' with
      | nil => exact absurd before (lt_irrefl _)
      | cons => cases alike
  | cons k later ih =>
      cases numbers' with
      | nil => cases alike
      | cons k' later' =>
          rw [List.cons_append, List.cons_append, List.cons_lt_cons_iff]
          rcases List.cons_lt_cons_iff.mp before with smaller | ⟨same, before⟩
          · exact .inl smaller
          · exact .inr ⟨same, ih (by simpa using alike) before⟩

theorem rank_concat_lt (alike : numbers.length = numbers'.length)
    (before : rank numbers < rank numbers') (n m : Nat) :
    rank (numbers ++ [n]) < rank (numbers' ++ [m]) := by
  rcases rank_lt_iff.mp before with shorter | ⟨-, before⟩
  · omega
  · exact rank_lt_iff.mpr (.inr ⟨by simp [alike], append_lt_append alike before n m⟩)

theorem rank_concat_lt_of_lt (before : n < m) : rank (numbers ++ [n]) < rank (numbers ++ [m]) := by
  refine rank_lt_iff.mpr (.inr ⟨by simp, ?_⟩)
  induction numbers with
  | nil => exact List.cons_lt_cons_iff.mpr (.inl before)
  | cons k later ih => exact List.cons_lt_cons_iff.mpr (.inr ⟨rfl, ih⟩)

/-! ## The order of expansions -/

/-- The relation of this number leads to the table, and none before it leads to its identifier. -/
structure LeadsFirst (f : PathFinder) (s : Table) (relations : List Relation) (n : Nat)
    (e : Found) : Prop where
  leads : ∃ r, relations[n]? = some r ∧ f.next? s r = .ok (some e.1) ∧
    e.2 = .between s e.1 r f.joinType
  first : ∀ m r t, relations[m]? = some r → f.next? s r = .ok (some t) →
    t.identifier = e.1.identifier → n ≤ m

theorem LeadsFirst.cons {e : Found} (later : LeadsFirst f s relations n e)
    (other : ∀ t, f.next? s r = .ok (some t) → t.identifier ≠ e.1.identifier) :
    LeadsFirst f s (r :: relations) (n + 1) e where
  leads := later.leads
  first := by
    intro m r' t declared leads same
    cases m with
    | zero =>
        rw [List.getElem?_cons_zero, Option.some.injEq] at declared
        exact absurd same (other t (declared ▸ leads))
    | succ m => exact Nat.succ_le_succ (later.first m r' t declared leads same)

theorem LeadsFirst.here (leads : f.next? s r = .ok (some t)) :
    LeadsFirst f s (r :: relations) 0 (t, .between s t r f.joinType) :=
  ⟨⟨r, rfl, leads, rfl⟩, fun m _ _ _ _ _ => Nat.zero_le m⟩

theorem LeadsFirst.tail {e : List Found} (later : List.Forall₂ (LeadsFirst f s relations) numbers e)
    (other : ∀ d ∈ e, ∀ t, f.next? s r = .ok (some t) → t.identifier ≠ d.1.identifier) :
    List.Forall₂ (LeadsFirst f s (r :: relations)) (numbers.map (· + 1)) e := by
  induction later with
  | nil => exact .nil
  | cons here _ ih =>
      exact .cons (here.cons (other _ List.mem_cons_self))
        (ih fun d member => other d (List.mem_cons_of_mem _ member))

theorem expand_numbers (nodup : fresh.Nodup)
    (h : f.expand target s relations fresh = .ok (found, left)) :
    ∃ numbers, List.Forall₂ (LeadsFirst f s relations) numbers found ∧
      numbers.Pairwise (· < ·) := by
  induction relations generalizing fresh found left with
  | nil =>
      simp only [expand, Except.ok.injEq, Prod.mk.injEq] at h
      exact ⟨[], h.1 ▸ .nil, .nil⟩
  | cons r relations ih =>
      have moved {numbers : List Nat} (sorted : numbers.Pairwise (· < ·)) :
          (numbers.map (· + 1)).Pairwise (· < ·) :=
        List.pairwise_map.mpr (sorted.imp Nat.succ_lt_succ)
      cases leads : f.next? s r with
      | error e =>
          simp only [expand, leads] at h
          cases h
      | ok next =>
          cases next with
          | none =>
              rw [expand_none leads] at h
              obtain ⟨numbers, later, sorted⟩ := ih nodup h
              exact ⟨_, LeadsFirst.tail later (by simp [leads]), moved sorted⟩
          | some t =>
              by_cases member : t.identifier ∈ fresh
              · by_cases hit : t.identifier = target
                · subst hit
                  rw [expand_hit leads member, Except.ok.injEq, Prod.mk.injEq] at h
                  exact ⟨[0], h.1 ▸ .cons (.here leads) .nil, List.pairwise_singleton _ _⟩
                · obtain ⟨others, expanded, rfl⟩ := expand_next leads member hit h
                  obtain ⟨numbers, later, sorted⟩ := ih (nodup.erase _) expanded
                  refine ⟨0 :: numbers.map (· + 1), .cons (.here leads) (LeadsFirst.tail later ?_),
                    List.pairwise_cons.mpr ⟨by simp, moved sorted⟩⟩
                  intro d listed u leads' same
                  rw [leads, Except.ok.injEq, Option.some.injEq] at leads'
                  have unmet := (expand_ok (nodup.erase _) expanded).wasFresh d listed
                  exact (nodup.mem_erase_iff.mp unmet).1 (leads' ▸ same.symm)
              · rw [expand_stale leads member] at h
                obtain ⟨numbers, later, sorted⟩ := ih nodup h
                refine ⟨_, LeadsFirst.tail later ?_, moved sorted⟩
                intro d listed u leads' same
                rw [leads, Except.ok.injEq, Option.some.injEq] at leads'
                have unmet := (expand_ok nodup h).wasFresh d listed
                exact member (leads' ▸ same ▸ unmet)

/-! ## The search -/

/-- The numbers of the paths in the queue: they are sorted, and no path of one step more continues
one of the others. -/
structure Ranked (f : PathFinder) (source : Table) (ranks : List (List Nat))
    (queue : List (Table × List JoinStep)) : Prop where
  foremost : List.Forall₂ (fun numbers e => f.Foremost source numbers e.2 e.1) ranks queue
  sorted : ranks.Pairwise (rank · < rank ·)
  behind : ∀ longer ∈ ranks, ∀ shorter ∈ ranks, longer.length = shorter.length + 1 →
    rank longer.dropLast < rank shorter

theorem Foremost.length_eq (foremost : f.Foremost source numbers path t) :
    numbers.length = path.length :=
  foremost.numbered.length_eq

/-- A path to a table of the queue comes after that to its head, unless it is that path. -/
theorem Ranked.head_first {ranks : List (List Nat)} {head e : Table × List JoinStep}
    (ranked : f.Ranked source (numbers :: ranks) (head :: rest)) (queued : e ∈ head :: rest)
    (start : f.Numbered source numbers' path' e.1) :
    rank numbers < rank numbers' ∨ numbers = numbers' ∧ e = head := by
  obtain ⟨first, later⟩ := List.forall₂_cons.mp ranked.foremost
  rcases List.mem_cons.mp queued with rfl | behind
  · rcases (first.least _ _ start).lt_or_eq with sooner | same
    · exact .inl sooner
    · exact .inr ⟨(Prod.mk.inj (toLex.injective same)).2, rfl⟩
  · obtain ⟨numbers'', listed, foremost⟩ := exists_of_mem_right later behind
    exact .inl ((List.rel_of_pairwise_cons ranked.sorted listed).trans_le
      (foremost.least _ _ start))

theorem Foremost.extend {ranks : List (List Nat)}
    (frontier : f.Frontier source target ((s, path) :: rest) fresh)
    (ranked : f.Ranked source (numbers :: ranks) ((s, path) :: rest)) {e : Found}
    (leads : LeadsFirst f s s.relations.values n e) (unmet : e.1.identifier ∈ fresh) :
    f.Foremost source (numbers ++ [n]) (path ++ [e.2]) e.1 := by
  obtain ⟨⟨r, declared, next, step⟩, first⟩ := leads
  have head : f.Foremost source numbers path s := (List.forall₂_cons.mp ranked.foremost).1
  have admitted := admits_of_next? (List.mem_of_getElem? declared) next
  refine ⟨step ▸ head.numbered.concat declared admitted, ?_⟩
  intro numbers' path' other
  have longer : path.length < path'.length := frontier.exceeds other.chain unmet
  have steps : numbers' ≠ [] := List.ne_nil_of_length_pos (by rw [other.length_eq]; omega)
  obtain ⟨before, k, earlier, u, r', rfl, start, declared', admitted'⟩ := other.last steps
  have sizes := head.length_eq
  have sizes' := start.length_eq
  have total := other.length_eq
  simp only [List.length_append, List.length_singleton] at total
  by_cases alike : before.length = numbers.length
  · -- The last table before is met and leads to an unmet one, so it is in the queue.
    have met : u.identifier ∉ fresh := by
      intro unmet
      have longer : path.length < earlier.length := frontier.exceeds start.chain unmet
      omega
    obtain ⟨d, queued, rfl⟩ := (frontier.closed _ _ start.chain met).resolve_right
      fun closed => closed r' _ admitted' unmet
    rcases ranked.head_first queued start with sooner | ⟨rfl, rfl⟩
    · exact (rank_concat_lt alike.symm sooner n k).le
    · rcases (first k r' _ declared' admitted'.next? rfl).lt_or_eq with sooner | rfl
      · exact (rank_concat_lt_of_lt sooner).le
      · exact le_rfl
  · refine (rank_lt_iff.mpr (.inl ?_)).le
    simp only [List.length_append, List.length_singleton]
    omega

theorem Ranked.advance {ranks : List (List Nat)}
    (frontier : f.Frontier source target ((s, path) :: rest) fresh)
    (ranked : f.Ranked source (numbers :: ranks) ((s, path) :: rest))
    (wasFresh : ∀ e ∈ found, e.1.identifier ∈ fresh) {ns : List Nat}
    (leads : List.Forall₂ (LeadsFirst f s s.relations.values) ns found)
    (sorted : ns.Pairwise (· < ·)) :
    f.Ranked source (ranks ++ ns.map fun n => numbers ++ [n]) (requeue rest path found) := by
  obtain ⟨head, later⟩ := List.forall₂_cons.mp ranked.foremost
  obtain ⟨first, ordered⟩ := List.pairwise_cons.mp ranked.sorted
  have sizes : ∀ longer ∈ ranks, longer.length ≤ numbers.length + 1 ∧
      numbers.length ≤ longer.length := by
    intro longer listed
    obtain ⟨e, queued, foremost⟩ := exists_of_mem_left later listed
    have narrow := frontier.narrow _ List.mem_cons_self e (List.mem_cons_of_mem _ queued)
    rw [foremost.length_eq, head.length_eq]
    exact ⟨narrow, List.rel_of_pairwise_cons frontier.ordered queued⟩
  refine ⟨?_, ?_, ?_⟩
  · have unmet := (List.forall₂_and_left _ _).mpr ⟨wasFresh, leads.flip⟩
    refine List.rel_append later
      (List.forall₂_map_left_iff.mpr (List.forall₂_map_right_iff.mpr (unmet.flip.imp ?_)))
    rintro n e ⟨isFresh, leadsTo⟩
    exact .extend frontier ranked leadsTo isFresh
  · refine List.pairwise_append.mpr ⟨ordered, ?_, ?_⟩
    · exact List.pairwise_map.mpr (sorted.imp rank_concat_lt_of_lt)
    · intro longer listed _ new
      obtain ⟨n, -, rfl⟩ := List.mem_map.mp new
      by_cases alike : longer.length = numbers.length + 1
      · have steps : longer ≠ [] := List.ne_nil_of_length_pos (by omega)
        have before := ranked.behind longer (List.mem_cons_of_mem _ listed) numbers
          List.mem_cons_self alike
        rw [← List.dropLast_append_getLast steps]
        exact rank_concat_lt (by simp [alike]) before _ n
      · have := sizes longer listed
        exact rank_lt_iff.mpr (.inl (by simp; omega))
  · intro longer listed shorter listed' alike
    rcases List.mem_append.mp listed with old | new
    · rcases List.mem_append.mp listed' with old' | new'
      · exact ranked.behind longer (List.mem_cons_of_mem _ old) shorter
          (List.mem_cons_of_mem _ old') alike
      · obtain ⟨n, -, rfl⟩ := List.mem_map.mp new'
        have := sizes longer old
        simp at alike
        omega
    · obtain ⟨n, -, rfl⟩ := List.mem_map.mp new
      rcases List.mem_append.mp listed' with old' | new'
      · rw [List.dropLast_concat]
        exact first shorter old'
      · obtain ⟨m, -, rfl⟩ := List.mem_map.mp new'
        simp at alike

theorem Ranked.start (f : PathFinder) (source : Table) : f.Ranked source [[]] [(source, [])] where
  foremost := by
    refine .cons ⟨.nil source, fun numbers' _ _ => ?_⟩ .nil
    cases numbers' with
    | nil => exact le_rfl
    | cons => exact (rank_lt_iff.mpr (.inl (by simp))).le
  sorted := List.pairwise_singleton _ _
  behind := by simp

theorem search_foremost {ranks : List (List Nat)} (clear : f.Clear [source])
    (frontier : f.Frontier source target queue fresh) (ranked : f.Ranked source ranks queue)
    (found : f.search target queue fresh = .ok (some path)) :
    ∃ numbers t, t.identifier = target ∧ f.Foremost source numbers path t := by
  fun_induction search f target queue fresh generalizing ranks with
  | case1 => cases found
  | case2 => cases found
  | case3 fresh s before rest found' left expanded n step hit =>
      rw [Except.ok.injEq, Option.some.injEq] at found
      cases ranks with
      | nil => cases ranked.foremost
      | cons numbers ranks =>
          obtain ⟨ns, leads, -⟩ := expand_numbers frontier.nodup expanded
          have listed := List.mem_of_find?_eq_some hit
          obtain ⟨k, -, leadsTo⟩ := exists_of_mem_right leads listed
          have unmet := (expand_ok frontier.nodup expanded).wasFresh _ listed
          exact ⟨numbers ++ [k], n, by simpa using List.find?_some hit,
            found ▸ .extend frontier ranked leadsTo unmet⟩
  | case4 fresh s before rest found' left expanded missed ih =>
      cases ranks with
      | nil => cases ranked.foremost
      | cons numbers ranks =>
          obtain ⟨ns, leads, sorted⟩ := expand_numbers frontier.nodup expanded
          have expansion := expand_ok frontier.nodup expanded
          exact ih (frontier.advance clear expansion (missed_of_find? missed))
            (ranked.advance frontier expansion.wasFresh leads sorted) found

/-! ## Paths between tables -/

/-- Of all shortest paths between the tables the path that is found is the first in the order of
declaration. -/
theorem find_foremost {owned : List (String × Table)} {target : Table}
    (compiled : Schema.ofOwned owned = .ok f.schema) (member : source ∈ owned.map (·.2))
    (apart : f.TellsApart source (owned.map (·.2))) (listed : target ∈ owned.map (·.2))
    (found : f.find source target = .ok (some path)) :
    ∃ numbers, f.Numbered source numbers path target ∧
      ∀ numbers' path', f.Numbered source numbers' path' target →
        path.length ≤ path'.length ∧ (path.length = path'.length → numbers ≤ numbers') := by
  suffices first : ∃ numbers, f.Foremost source numbers path target by
    obtain ⟨numbers, foremost⟩ := first
    refine ⟨numbers, foremost.numbered, fun numbers' path' other => ?_⟩
    have least := foremost.least numbers' path' other
    rw [← foremost.length_eq, ← other.length_eq]
    exact ⟨length_le_of_rank_le least, fun alike => (rank_le_iff alike).mp least⟩
  by_cases same : source.identifier = target.identifier
  · rw [find_same f same, Except.ok.injEq, Option.some.injEq] at found
    rcases apart [] source (.nil source) target listed same with rfl | ⟨differs, -⟩
    · exact ⟨[], found ▸ (List.forall₂_cons.mp (Ranked.start f source).foremost).1⟩
    · exact absurd same.symm differs
  · cases free : f.permits source target with
    | false =>
        rw [find_barred same free] at found
        cases found
    | true =>
        have nodup := Schema.nodup_keys compiled
        have clear := apart.clear compiled member
        rw [find, if_neg (by simpa using same), if_neg (by simpa using free)] at found
        obtain ⟨numbers, t, reached, foremost⟩ :=
          search_foremost clear (.start clear nodup same) (.start f source) found
        rcases apart path t foremost.numbered.chain target listed reached with rfl | ⟨-, barred⟩
        · exact ⟨numbers, foremost⟩
        · rw [free] at barred
          cases barred

/-- Two ways of the same length, one of them along either of two relations. -/
def diamond : List (String × Table) :=
  [("p", belonging "p" "start" [("right", "right"), ("left", "left"), ("again", "right")]),
    ("p", belonging "p" "left" [("end", "end")]), ("p", belonging "p" "right" [("end", "end")]),
    ("p", belonging "p" "end" [])]

theorem find_foremost_diamond : ∃ s, Schema.ofOwned diamond = .ok s ∧
    ∃ source ∈ diamond.map (·.2), ∃ target ∈ diamond.map (·.2),
      TellsApart ⟨s, false, "left"⟩ source (diamond.map (·.2)) ∧
      ∃ path, PathFinder.find ⟨s, false, "left"⟩ source target = .ok (some path) ∧
        ∃ numbers, Numbered ⟨s, false, "left"⟩ source numbers path target ∧
          ∀ numbers' path', Numbered ⟨s, false, "left"⟩ source numbers' path' target →
            path.length ≤ path'.length ∧ (path.length = path'.length → numbers ≤ numbers') := by
  obtain ⟨s, compiled⟩ : ∃ s, Schema.ofOwned diamond = .ok s := ⟨_, rfl⟩
  let start := belonging "p" "start" [("right", "right"), ("left", "left"), ("again", "right")]
  let stop := belonging "p" "end" []
  have member : start ∈ diamond.map (·.2) := .head _
  have listed : stop ∈ diamond.map (·.2) := .tail _ (.tail _ (.tail _ (.head _)))
  have apart : TellsApart ⟨s, false, "left"⟩ start (diamond.map (·.2)) := by
    refine .of_unique compiled member (List.inj_on_of_nodup_map (f := Table.identifier) ?_)
    decide
  have found : ((PathFinder.find ⟨s, false, "left"⟩ start stop).toOption.join).isSome = true := by
    rw [← Except.ok.inj compiled]
    decide +kernel
  refine ⟨s, compiled, start, member, stop, listed, apart, ?_⟩
  cases answer : PathFinder.find ⟨s, false, "left"⟩ start stop with
  | error e =>
      rw [answer] at found
      cases found
  | ok path =>
      cases path with
      | none =>
          rw [answer] at found
          cases found
      | some path =>
          exact ⟨path, rfl, find_foremost compiled member apart listed answer⟩

/-- The bare name leads to one of two tables of the identifier `a:b:c`, and the way from there is
the longer one. -/
def detour : List (String × Table) :=
  [("p", belonging "p" "start" [("c", "c"), ("other", "a:b:c")]),
    ("p", belonging "p" "mid" [("end", "end")]), ("p", belonging "p" "end" []),
    ("a:b", belonging "a:b" "c" [("mid", "p:mid")]), ("a", belonging "a" "b:c" [("end", "p:end")])]

theorem find_detours : ∃ s, Schema.ofOwned detour = .ok s ∧
    ∃ source ∈ detour.map (·.2), ∃ target ∈ detour.map (·.2),
      ∃ path, PathFinder.find ⟨s, false, "left"⟩ source target = .ok (some path) ∧
        ∃ numbers shorter, Numbered ⟨s, false, "left"⟩ source numbers shorter target ∧
          shorter.length < path.length := by
  obtain ⟨s, compiled⟩ : ∃ s, Schema.ofOwned detour = .ok s := ⟨_, rfl⟩
  let start := belonging "p" "start" [("c", "c"), ("other", "a:b:c")]
  let stop := belonging "p" "end" []
  have shorter : ∃ numbers path, Numbered ⟨s, false, "left"⟩ start numbers path stop ∧
      path.length = 2 := by
    rw [← Except.ok.inj compiled]
    exact ⟨[1, 0], _, .cons (u := belonging "a" "b:c" [("end", "p:end")]) rfl
      ⟨.tail _ (.head _), rfl, rfl⟩ (.cons rfl ⟨.head _, rfl, rfl⟩ (.nil _)), rfl⟩
  have longer : ((PathFinder.find ⟨s, false, "left"⟩ start stop).toOption.join).any
      (2 < ·.length) = true := by
    rw [← Except.ok.inj compiled]
    decide +kernel
  obtain ⟨numbers, path, numbered, size⟩ := shorter
  refine ⟨s, compiled, start, .head _, stop, .tail _ (.tail _ (.head _)), ?_⟩
  cases answer : PathFinder.find ⟨s, false, "left"⟩ start stop with
  | error e =>
      rw [answer] at longer
      cases longer
  | ok found =>
      cases found with
      | none =>
          rw [answer] at longer
          cases longer
      | some found =>
          rw [answer] at longer
          exact ⟨found, rfl, numbers, path, numbered, size ▸ of_decide_eq_true longer⟩

end Datacube.PathFinder
