import Datacube.Text.Case
import Mathlib.Tactic.Common

/-!
# Lower case

A text in lower case stays as it is: letters are moved to where no run holds them. Where a run lies
between the letters of another one, both take every second code point.
-/

namespace Datacube.Text
variable {c d : Char} {code : Nat}

/-- The letters with a lower-case form: those of ASCII, the dotted capital I and the others. -/
def capitalRuns : List CaseRun := ⟨0x41, 0x5a, 1, 32⟩ :: ⟨0x130, 0x130, 1, 0⟩ :: lowerRuns

namespace CaseRun

def moved (run : CaseRun) : CaseRun :=
  ⟨(run.first + run.shift).toNat, (run.last + run.shift).toNat, run.step, 0⟩

/-- No code point of the run is one of the other. -/
def misses (run other : CaseRun) : Bool :=
  run.last.blt other.first || other.last.blt run.first ||
    (run.step == 2 || run.first == run.last) && other.step == 2 &&
      run.first % 2 != other.first % 2

theorem holds_iff {run : CaseRun} : run.holds code = true ↔
    run.first ≤ code ∧ code ≤ run.last ∧ (code - run.first) % run.step = 0 := by
  simp only [holds, Bool.and_eq_true, decide_eq_true_eq, beq_iff_eq, and_assoc]

theorem holds_moved {run : CaseRun} (stays : 0 ≤ run.first + run.shift)
    (held : run.holds code = true) : run.moved.holds (code + run.shift).toNat = true := by
  rw [holds_iff] at held ⊢
  obtain ⟨above, below, place⟩ := held
  refine ⟨by simp only [moved]; omega, by simp only [moved]; omega, ?_⟩
  rw [← place]
  congr 1
  simp only [moved]
  omega

theorem not_holds {run other : CaseRun} (misses : run.misses other = true)
    (held : run.holds code = true) : ¬ other.holds code = true := by
  simp only [CaseRun.misses, Bool.or_eq_true, Bool.and_eq_true, beq_iff_eq, bne_iff_ne, ne_eq,
    Nat.blt_eq] at misses
  rw [holds_iff] at held ⊢
  rintro ⟨above, below, place⟩
  rcases misses with (before | behind) | ⟨⟨single, double⟩, odd⟩
  · omega
  · omega
  · rw [double] at place
    rcases single with even | alone
    · rw [even] at held
      omega
    · omega

end CaseRun

theorem lowerRuns_miss :
    (lowerRuns.map CaseRun.moved).all (fun run => capitalRuns.all run.misses) = true := by
  decide +kernel

theorem lowerRuns_bounds : lowerRuns.all (fun run =>
    decide (0 ≤ run.first + run.shift) && decide (0x80 ≤ run.first)) = true := by
  decide +kernel

theorem bounds_of_mem {run : CaseRun} (listed : run ∈ lowerRuns) :
    0 ≤ run.first + run.shift ∧ 0x80 ≤ run.first := by
  simpa using List.all_eq_true.mp lowerRuns_bounds run listed

/-- The letter has no other form in lower case. -/
def Settled (c : Char) : Prop := ∀ run ∈ capitalRuns, ¬ run.holds c.toNat = true

instance (c : Char) : Decidable (Settled c) :=
  inferInstanceAs (Decidable (∀ run ∈ capitalRuns, ¬ run.holds c.toNat = true))

theorem settled_ascii (ascii : c.toNat < 0x80) (small : c.isUpper = false) : Settled c := by
  intro run listed held
  rw [CaseRun.holds_iff] at held
  rcases List.mem_cons.mp listed with rfl | listed
  · rw [← Bool.not_eq_true] at small
    apply small
    delta Char.isUpper
    simp only [decide_eq_true_eq, UInt32.le_iff_toNat_le]
    exact ⟨held.1, held.2.1⟩
  · rcases List.mem_cons.mp listed with rfl | listed
    · simp only at held
      omega
    · have := (bounds_of_mem listed).2
      omega

theorem settled_moved {run : CaseRun} (listed : run ∈ lowerRuns)
    (held : run.holds c.toNat = true) : Settled (Char.ofNat (c.toNat + run.shift).toNat) := by
  have moved := CaseRun.holds_moved (bounds_of_mem listed).1 held
  by_cases valid : (c.toNat + run.shift).toNat.isValidChar
  · intro other member
    rw [Char.ofNat, dif_pos valid]
    exact CaseRun.not_holds (List.all_eq_true.mp (List.all_eq_true.mp lowerRuns_miss _
      (List.mem_map_of_mem listed)) other member) moved
  · rw [Char.ofNat, dif_neg valid]
    exact settled_ascii (by decide) (by decide)

theorem toLower_ascii : ∀ code < 0x80, (Char.ofNat code).toLower.toNat < 0x80 ∧
    (Char.ofNat code).toLower.isUpper = false := by
  decide

theorem settled_lowerChar (c : Char) : ∀ d ∈ lowerChar c, Settled d := by
  intro d member
  unfold lowerChar at member
  split at member
  · rename_i ascii
    obtain ⟨below, small⟩ := toLower_ascii c.toNat ascii
    rw [Char.ofNat_toNat] at below small
    rw [List.mem_singleton.mp member]
    exact settled_ascii below small
  · rename_i wide
    split at member
    · simp only [List.mem_cons, List.not_mem_nil, or_false] at member
      rcases member with rfl | rfl
      · exact settled_ascii (by decide) (by decide)
      · decide +kernel
    · rename_i undotted
      rw [List.mem_singleton.mp member, shiftBy]
      split
      · rename_i run found
        have held := List.find?_some found
        exact settled_moved (List.mem_of_find?_eq_some found) held
      · rename_i nowhere
        intro run listed held
        rw [CaseRun.holds_iff] at held
        rcases List.mem_cons.mp listed with rfl | listed
        · simp only at held
          omega
        · rcases List.mem_cons.mp listed with rfl | listed
          · simp only at held
            omega
          · exact List.find?_eq_none.mp nowhere run listed (CaseRun.holds_iff.mpr held)

theorem lowerChar_settled (settled : Settled c) : lowerChar c = [c] := by
  unfold lowerChar
  split
  · have small : ¬ (65 ≤ c.toNat ∧ c.toNat ≤ 90) := by
      rintro ⟨above, below⟩
      exact settled _ List.mem_cons_self
        (CaseRun.holds_iff.mpr ⟨above, below, Nat.mod_one _⟩)
    delta Char.toLower
    rw [dif_neg]
    simpa [UInt32.le_iff_toNat_le] using small
  · split
    · rename_i dotted
      exact absurd (CaseRun.holds_iff.mpr ⟨by simp [dotted], by simp [dotted], Nat.mod_one _⟩)
        (settled _ (List.mem_cons_of_mem _ List.mem_cons_self))
    · have nowhere : lowerRuns.find? (·.holds c.toNat) = none := by
        rw [List.find?_eq_none]
        exact fun run listed =>
          settled run (List.mem_cons_of_mem _ (List.mem_cons_of_mem _ listed))
      rw [shiftBy, nowhere]

theorem settled_lowerSigma (before after : List Char) : Settled (lowerSigma before after) := by
  rw [lowerSigma]
  split <;> decide +kernel

theorem settled_lowerBehind (before chars : List Char) :
    ∀ d ∈ lowerBehind before chars, Settled d := by
  induction chars generalizing before with
  | nil => simp [lowerBehind]
  | cons c rest ih =>
      intro d member
      rw [lowerBehind, List.mem_append] at member
      rcases member with here | later
      · split at here
        · rw [List.mem_singleton.mp here]
          exact settled_lowerSigma before rest
        · exact settled_lowerChar c d here
      · exact ih (c :: before) d later

theorem lowerBehind_settled {chars : List Char} (settled : ∀ c ∈ chars, Settled c)
    (before : List Char) : lowerBehind before chars = chars := by
  induction chars generalizing before with
  | nil => rfl
  | cons c rest ih =>
      have here := settled c List.mem_cons_self
      have capital : c ≠ 'Σ' := by
        rintro rfl
        exact absurd here (by decide +kernel)
      rw [lowerBehind, if_neg capital, lowerChar_settled here,
        ih fun d later => settled d (List.mem_cons_of_mem c later)]
      rfl

@[simp] theorem lower_lower (s : String) : lower (lower s) = lower s := by
  rw [lower, lower, String.toList_ofList, lowerBehind_settled (settled_lowerBehind [] s.toList)]

end Datacube.Text
