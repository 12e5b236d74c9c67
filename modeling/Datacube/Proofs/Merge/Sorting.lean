import Datacube.Merge.Sort
import Datacube.Proofs.Outcome
import Mathlib.Data.List.Perm.Basic
import Mathlib.Order.Lattice

/-!
# What sorting gives

Where the test of a sort compares keys of a linear order, it does not fail, and the sorted list
holds the items in the order of their keys. The run that the list begins with is ascending once it
is turned round, and an item is put behind what is not greater and before what is.
-/

namespace Datacube.Merge
variable {α κ : Type} [LinearOrder κ] {key : α → κ} {less : α → α → Outcome Bool}
  {items sorted run rest : List α} {x last : α} {low high place : Nat}

/-- The test tells which of two items has the smaller key. -/
def Compares (less : α → α → Outcome Bool) (key : α → κ) (items : List α) : Prop :=
  ∀ x ∈ items, ∀ y ∈ items, less x y = .ok (decide (key x < key y))

def Ascending (key : α → κ) (items : List α) : Prop :=
  items.Pairwise fun x y => key x ≤ key y

theorem Compares.perm {items' : List α} (compares : Compares less key items)
    (moved : items'.Perm items) : Compares less key items' :=
  fun x member y member' => compares x (moved.subset member) y (moved.subset member')

theorem Compares.subset {items' : List α} (compares : Compares less key items)
    (subset : items' ⊆ items) : Compares less key items' :=
  fun x member y member' => compares x (subset member) y (subset member')

/-! ## Runs -/

/-- The items of a run, the last one first: each is followed by what is greater in a descending run,
and by what is not greater in an ascending one. -/
def Runs (key : α → κ) (descending : Bool) (run : List α) : Prop :=
  run.Pairwise fun x y => if descending then key x ≤ key y else key y ≤ key x

theorem ordered_of_test (x y : α) :
    if decide (key x < key y) then key x ≤ key y else key y ≤ key x := by
  by_cases smaller : key x < key y
  · simpa [smaller] using smaller.le
  · simpa [smaller] using not_lt.mp smaller

theorem Runs.cons {descending : Bool} (runs : Runs key descending (last :: run))
    (next : if descending then key x ≤ key last else key last ≤ key x) :
    Runs key descending (x :: last :: run) := by
  refine List.pairwise_cons.mpr ⟨fun y member => ?_, runs⟩
  rcases List.mem_cons.mp member with rfl | later
  · exact next
  · have before := List.rel_of_pairwise_cons runs later
    cases descending with
    | true => exact le_trans next before
    | false => exact le_trans before next

theorem runFrom_eq_ok {descending : Bool} (compares : Compares less key (run ++ last :: rest))
    (runs : Runs key descending (last :: run)) :
    ∃ run' rest', runFrom less descending run last rest = .ok (run', rest') ∧
      Runs key descending run' ∧ (run' ++ rest').Perm (run ++ last :: rest) := by
  induction rest generalizing run last with
  | nil =>
      refine ⟨last :: run, [], rfl, runs, ?_⟩
      rw [List.append_nil]
      exact (List.perm_append_singleton last run).symm
  | cons x rest ih =>
      have test := compares x (by simp) last (by simp)
      rw [runFrom, test]
      by_cases goes : decide (key x < key last) = descending
      · have next : if descending then key x ≤ key last else key last ≤ key x :=
          goes ▸ ordered_of_test x last
        have moved : (last :: run ++ x :: rest).Perm (run ++ last :: x :: rest) :=
          List.perm_middle.symm
        obtain ⟨run', rest', continued, runs', perm⟩ :=
          ih (compares.perm moved) (runs.cons next)
        refine ⟨run', rest', ?_, runs', perm.trans moved⟩
        rw [← continued]
        exact if_pos goes
      · refine ⟨last :: run, x :: rest, if_neg goes, runs, ?_⟩
        exact List.perm_middle.symm

theorem Runs.ascending {descending : Bool} (runs : Runs key descending run) :
    Ascending key (if descending then run else run.reverse) := by
  cases descending with
  | true => exact runs
  | false => exact List.pairwise_reverse.mpr runs

theorem firstRun_eq_ok (compares : Compares less key items) :
    ∃ run rest, firstRun less items = .ok (run, rest) ∧ Ascending key run ∧
      (run ++ rest).Perm items := by
  match items with
  | [] => exact ⟨[], [], rfl, .nil, .refl _⟩
  | [x] => exact ⟨[x], [], rfl, List.pairwise_singleton _ x, .refl _⟩
  | x :: y :: rest =>
      have test := compares y (by simp) x (by simp)
      have runs : Runs key (decide (key y < key x)) [y, x] :=
        Runs.cons (List.pairwise_singleton _ x) (ordered_of_test y x)
      obtain ⟨run', rest', continued, runs', perm⟩ := runFrom_eq_ok compares runs
      refine ⟨_, rest', ?_, runs'.ascending, ?_⟩
      · refine Outcome.bind_eq_ok.mpr ⟨_, test, ?_⟩
        exact Outcome.bind_eq_ok.mpr ⟨(run', rest'), continued, rfl⟩
      · refine List.Perm.trans ?_ perm
        split
        · exact .refl _
        · exact (List.reverse_perm run').append_right rest'

/-! ## Places -/

/-- The items before a place are not greater than an item, and those from another place on are. -/
structure Fits (key : α → κ) (sorted : List α) (x : α) (low high : Nat) : Prop where
  ordered : low ≤ high
  inside : high ≤ sorted.length
  before : ∀ i y, sorted[i]? = some y → i < low → key y ≤ key x
  behind : ∀ i y, sorted[i]? = some y → high ≤ i → key x < key y

theorem Ascending.le {i j : Nat} {y z : α} (ascending : Ascending key sorted)
    (found : sorted[i]? = some y) (found' : sorted[j]? = some z) (order : i ≤ j) :
    key y ≤ key z := by
  rcases Nat.eq_or_lt_of_le order with rfl | less
  · exact (Option.some.inj (found.symm.trans found')) ▸ le_rfl
  · obtain ⟨inside, rfl⟩ := List.getElem?_eq_some_iff.mp found
    obtain ⟨inside', rfl⟩ := List.getElem?_eq_some_iff.mp found'
    exact List.pairwise_iff_getElem.mp ascending i j inside inside' less

theorem placeIn_eq_ok (compares : Compares less key (x :: sorted))
    (ascending : Ascending key sorted) (fits : Fits key sorted x low high) :
    ∃ place, placeIn less sorted x low high = .ok place ∧ Fits key sorted x place place := by
  induction low, high using placeIn.induct sorted with
  | case1 low high open' middle none =>
      exfalso
      have := fits.inside
      rw [List.getElem?_eq_none_iff] at none
      omega
  | case2 low high open' middle y found ih ih' =>
      have listed := List.mem_of_getElem? found
      have test := compares x List.mem_cons_self y (List.mem_cons_of_mem x listed)
      have step : placeIn less sorted x low high = if key x < key y then
          placeIn less sorted x low middle else placeIn less sorted x (middle + 1) high := by
        rw [placeIn, if_pos open']
        simp only [middle] at found
        simp only [found, test, middle]
        by_cases smaller : key x < key y <;> simp [smaller, bind, Except.bind]
      -- The list is ascending, so the item in the middle tells on which side the place is.
      rw [step]
      split
      · rename_i smaller
        refine ih ⟨by omega, by have := fits.inside; omega, fits.before, fun i z there from' => ?_⟩
        exact smaller.trans_le (ascending.le found there from')
      · rename_i notSmaller
        refine ih' ⟨by omega, fits.inside, fun i z there until' => ?_, fits.behind⟩
        exact (ascending.le there found (by omega)).trans (not_lt.mp notSmaller)
  | case3 low high closed =>
      obtain rfl : low = high := Nat.le_antisymm fits.ordered (Nat.not_lt.mp closed)
      exact ⟨low, by rw [placeIn, if_neg closed], fits⟩

theorem Fits.ascending (fits : Fits key sorted x place place) (ascending : Ascending key sorted) :
    Ascending key (sorted.take place ++ x :: sorted.drop place) := by
  have before : ∀ y ∈ sorted.take place, key y ≤ key x := by
    intro y member
    obtain ⟨i, inside, rfl⟩ := List.mem_iff_getElem.mp member
    rw [List.length_take] at inside
    rw [List.getElem_take]
    exact fits.before i _ (List.getElem?_eq_getElem (by omega)) (by omega)
  have behind : ∀ y ∈ sorted.drop place, key x < key y := by
    intro y member
    obtain ⟨i, inside, rfl⟩ := List.mem_iff_getElem.mp member
    rw [List.length_drop] at inside
    rw [List.getElem_drop]
    exact fits.behind _ _ (List.getElem?_eq_getElem (by omega)) (by omega)
  rw [Ascending, List.pairwise_append, List.pairwise_cons]
  refine ⟨ascending.sublist (List.take_sublist place sorted), ⟨fun y member => (behind y member).le,
    ascending.sublist (List.drop_sublist place sorted)⟩, fun y member z member' => ?_⟩
  rcases List.mem_cons.mp member' with rfl | later
  · exact before y member
  · exact (before y member).trans (behind z later).le

theorem insertSorted_eq_ok (compares : Compares less key (x :: sorted))
    (ascending : Ascending key sorted) : ∃ sorted', insertSorted less sorted x = .ok sorted' ∧
      Ascending key sorted' ∧ sorted'.Perm (x :: sorted) := by
  have all : Fits key sorted x 0 sorted.length := by
    refine ⟨Nat.zero_le _, Nat.le_refl _, nofun, fun i y found beyond => ?_⟩
    rw [List.getElem?_eq_none beyond] at found
    cases found
  obtain ⟨place, found, fits⟩ := placeIn_eq_ok compares ascending all
  refine ⟨sorted.take place ++ x :: sorted.drop place, ?_, fits.ascending ascending, ?_⟩
  · rw [insertSorted, found]
    rfl
  · refine List.perm_middle.trans (.cons x ?_)
    rw [List.take_append_drop]

theorem insertAll_eq_ok (compares : Compares less key (sorted ++ rest))
    (ascending : Ascending key sorted) : ∃ all, rest.foldlM (insertSorted less) sorted = .ok all ∧
      Ascending key all ∧ all.Perm (sorted ++ rest) := by
  induction rest generalizing sorted with
  | nil => exact ⟨sorted, rfl, ascending, by rw [List.append_nil]⟩
  | cons x rest ih =>
      have here : Compares less key (x :: sorted) := compares.subset (by simp)
      obtain ⟨next, placed, ascending, perm⟩ := insertSorted_eq_ok here ascending
      have moved : (next ++ rest).Perm (sorted ++ x :: rest) :=
        (perm.append_right rest).trans List.perm_middle.symm
      obtain ⟨all, others, ascending, perm⟩ := ih (compares.perm moved) ascending
      exact ⟨all, Outcome.bind_eq_ok.mpr ⟨next, placed, others⟩, ascending, perm.trans moved⟩

/-- Sorting by keys puts all items into the order of their keys. -/
theorem sort_eq_ok (compares : Compares less key items) : ∃ sorted, sort less items = .ok sorted ∧
    Ascending key sorted ∧ sorted.Perm items := by
  obtain ⟨run, rest, first, ascending, perm⟩ := firstRun_eq_ok compares
  obtain ⟨sorted, others, ascending, moved⟩ := insertAll_eq_ok (compares.perm perm) ascending
  exact ⟨sorted, Outcome.bind_eq_ok.mpr ⟨(run, rest), first, others⟩, ascending, moved.trans perm⟩

/-! ## Tests that may fail -/

theorem runFrom_perm {descending : Bool} {result : List α × List α}
    (run' : runFrom less descending run last rest = .ok result) :
    (result.1 ++ result.2).Perm (run ++ last :: rest) := by
  induction rest generalizing run last with
  | nil =>
      cases run'
      rw [List.append_nil]
      exact (List.perm_append_singleton last run).symm
  | cons x rest ih =>
      obtain ⟨b, -, run'⟩ := Outcome.bind_eq_ok.mp run'
      split at run'
      · exact (ih run').trans List.perm_middle.symm
      · cases run'
        exact List.perm_middle.symm

theorem firstRun_perm {result : List α × List α} (first : firstRun less items = .ok result) :
    (result.1 ++ result.2).Perm items := by
  match items with
  | [] =>
      cases first
      rfl
  | [x] =>
      cases first
      rfl
  | x :: y :: rest =>
      obtain ⟨descending, -, first⟩ := Outcome.bind_eq_ok.mp first
      obtain ⟨found, continued, first⟩ := Outcome.bind_eq_ok.mp first
      cases first
      refine List.Perm.trans ?_ (runFrom_perm continued)
      split
      · rfl
      · exact (List.reverse_perm found.1).append_right found.2

theorem insertAll_perm {result : List α}
    (others : rest.foldlM (insertSorted less) sorted = .ok result) :
    result.Perm (sorted ++ rest) := by
  induction rest generalizing sorted with
  | nil =>
      cases others
      rw [List.append_nil]
  | cons x rest ih =>
      rw [List.foldlM_cons] at others
      obtain ⟨next, put, others⟩ := Outcome.bind_eq_ok.mp others
      obtain ⟨place, -, put⟩ := Outcome.bind_eq_ok.mp put
      cases put
      have moved : (sorted.take place ++ x :: sorted.drop place).Perm (x :: sorted) :=
        List.perm_middle.trans (.of_eq (by rw [List.take_append_drop]))
      exact ((ih others).trans (moved.append_right rest)).trans List.perm_middle.symm

/-- A sort that has a result holds the same items, whatever the test tells. -/
theorem sort_perm {result : List α} (run' : sort less items = .ok result) :
    result.Perm items := by
  obtain ⟨_, first, others⟩ := Outcome.bind_eq_ok.mp run'
  exact (insertAll_perm others).trans (firstRun_perm first)

section Mono
variable {less' : α → α → Outcome Bool}
  (answers : ∀ x y b, less x y = .ok b → less' x y = .ok b)
include answers

theorem runFrom_mono {descending : Bool} {result : List α × List α}
    (run' : runFrom less descending run last rest = .ok result) :
    runFrom less' descending run last rest = .ok result := by
  induction rest generalizing run last with
  | nil => exact run'
  | cons x rest ih =>
      rw [runFrom] at run' ⊢
      obtain ⟨b, test, run'⟩ := Outcome.bind_eq_ok.mp run'
      refine Outcome.bind_eq_ok.mpr ⟨b, answers x last b test, ?_⟩
      split
      · rename_i goes
        rw [if_pos goes] at run'
        exact ih run'
      · rename_i turns
        rw [if_neg turns] at run'
        exact run'

theorem firstRun_mono {result : List α × List α} (first : firstRun less items = .ok result) :
    firstRun less' items = .ok result := by
  match items with
  | [] => exact first
  | [x] => exact first
  | x :: y :: rest =>
      obtain ⟨descending, test, first⟩ := Outcome.bind_eq_ok.mp first
      obtain ⟨found, continued, first⟩ := Outcome.bind_eq_ok.mp first
      exact Outcome.bind_eq_ok.mpr ⟨descending, answers y x descending test,
        Outcome.bind_eq_ok.mpr ⟨found, runFrom_mono answers continued, first⟩⟩

theorem placeIn_mono (found : placeIn less sorted x low high = .ok place) :
    placeIn less' sorted x low high = .ok place := by
  induction low, high using placeIn.induct sorted with
  | case1 low high open' middle none =>
      rw [placeIn, if_pos open'] at found ⊢
      simp only [middle] at none
      simp only [none] at found ⊢
      exact found
  | case2 low high open' middle y here ih ih' =>
      rw [placeIn, if_pos open'] at found ⊢
      simp only [middle] at here
      simp only [here] at found ⊢
      obtain ⟨b, test, found⟩ := Outcome.bind_eq_ok.mp found
      refine Outcome.bind_eq_ok.mpr ⟨b, answers x y b test, ?_⟩
      cases b with
      | true => exact ih found
      | false => exact ih' found
  | case3 low high closed =>
      rw [placeIn, if_neg closed] at found ⊢
      exact found

theorem insertSorted_mono {result : List α} (put : insertSorted less sorted x = .ok result) :
    insertSorted less' sorted x = .ok result := by
  obtain ⟨place, found, put⟩ := Outcome.bind_eq_ok.mp put
  exact Outcome.bind_eq_ok.mpr ⟨place, placeIn_mono answers found, put⟩

/-- A sort that has a result makes the same of a test that answers more. -/
theorem sort_mono {result : List α} (run' : sort less items = .ok result) :
    sort less' items = .ok result := by
  obtain ⟨⟨run, rest⟩, first, others⟩ := Outcome.bind_eq_ok.mp run'
  refine Outcome.bind_eq_ok.mpr ⟨(run, rest), firstRun_mono answers first, ?_⟩
  refine Outcome.foldlM_follows (R := Eq) (List.forall₂_refl rest) others ?_
  rintro x _ rfl sorted sorted' put
  exact insertSorted_mono answers put

end Mono

/-- Where the test answers, it tells which of two items has the smaller key. -/
def Agrees (less : α → α → Outcome Bool) (key : α → κ) (items : List α) : Prop :=
  ∀ x ∈ items, ∀ y ∈ items, ∀ b, less x y = .ok b → b = decide (key x < key y)

/-- The test, with an answer by the keys where it fails. -/
def completed (less : α → α → Outcome Bool) (key : α → κ) (x y : α) : Outcome Bool :=
  match less x y with
  | .ok b => .ok b
  | .error _ => .ok (decide (key x < key y))

theorem Agrees.compares (agrees : Agrees less key items) :
    Compares (completed less key) key items := by
  intro x member y member'
  rw [completed]
  split
  · rename_i b test
    rw [agrees x member y member' b test]
  · rfl

/-- A sort that has a result puts all items into the order of any keys that its test agrees with. -/
theorem Agrees.ascending {result : List α} (agrees : Agrees less key items)
    (run' : sort less items = .ok result) : Ascending key result ∧ result.Perm items := by
  have answers : ∀ x y b, less x y = .ok b → completed less key x y = .ok b := by
    intro x y b test
    rw [completed, test]
  obtain ⟨sorted, run'', ascending, perm⟩ := sort_eq_ok agrees.compares
  rw [sort_mono answers run'] at run''
  exact Except.ok.inj run'' ▸ ⟨ascending, perm⟩

/-- Sorting some of the items gives these of the sorted items, where no two items have one key. -/
theorem sort_filter {result : List α} (compares : Compares less key items)
    (distinct : ∀ x ∈ items, ∀ y ∈ items, key x = key y → x = y)
    (run' : sort less items = .ok result) (test : α → Bool) :
    sort less (items.filter test) = .ok (result.filter test) := by
  obtain ⟨all, run'', ascending, perm⟩ := sort_eq_ok compares
  rw [run'] at run''
  obtain rfl := Except.ok.inj run''
  obtain ⟨some, kept, ascending', perm'⟩ :=
    sort_eq_ok (compares.subset (List.filter_subset_self items))
  rw [kept]
  refine congrArg Except.ok (List.Perm.eq_of_pairwise ?_ ascending' (ascending.filter test)
    (perm'.trans (perm.filter test).symm))
  intro x y member member' before behind
  exact distinct x (List.mem_of_mem_filter (perm'.subset member)) y
    (perm.subset (List.mem_of_mem_filter member')) (le_antisymm before behind)

end Datacube.Merge
