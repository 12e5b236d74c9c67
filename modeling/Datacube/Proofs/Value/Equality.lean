import Datacube.Proofs.Entries
import Datacube.Proofs.Number.Magnitude

/-!
# Equal values

Two values that can be keys are equal when they have the same canonical form: the exact value of a
number, whatever kind of number it is, or the text. So equality is symmetric and transitive, and
grouping by equal keys puts every value into one group only.
-/

namespace Datacube
open Number

/-- What equal values have in common. -/
inductive Canon where
  | null
  | text (s : String)
  | nan (mark : Nat)
  | invalid (mark : Nat)
  | infinite (negative : Bool)
  | finite (value : ℚ)

def Canon.isNumber : Canon → Bool
  | .infinite _ | .finite _ => true
  | _ => false

/-- What equal magnitudes have in common; one that is no number equals none. -/
def Number.Magnitude.canon? : Magnitude → Option Canon
  | .finite x => some (.finite x.value)
  | .infinite negative => some (.infinite negative)
  | .nan | .invalid => none

/-- The number of a magnitude has one of the two bases. -/
def Number.Magnitude.Valid : Magnitude → Prop
  | .finite x => x.Valid
  | _ => True

namespace Value
variable {a b : Value} {c : Canon}

def single? : Value → Option Canon
  | .null => some .null
  | .text s => some (.text s)
  | .nan mark => some (.nan mark)
  | .decimal (.nan _ _ _ mark) => some (.invalid mark)
  | _ => none

/-- The values that equal no number, with their forms. -/
inductive Single : Value → Canon → Prop where
  | null : Single .null .null
  | text (s : String) : Single (.text s) (.text s)
  | nan (mark : Nat) : Single (.nan mark) (.nan mark)
  | invalid (negative signaling : Bool) (code mark : Nat) :
      Single (.decimal (.nan negative signaling code mark)) (.invalid mark)

theorem single_of_single? (found : a.single? = some c) : Single a c := by
  cases a with
  | null => exact Option.some.inj found ▸ .null
  | text s => exact Option.some.inj found ▸ .text s
  | nan mark => exact Option.some.inj found ▸ .nan mark
  | decimal d =>
      cases d with
      | nan negative signaling code mark =>
          exact Option.some.inj found ▸ .invalid negative signaling code mark
      | _ => cases found
  | _ => cases found

/-- The canonical form of a value; floats that are no numbers, lists and objects have none. -/
def canon? (v : Value) : Option Canon := v.single?.or (v.magnitude?.bind Magnitude.canon?)

theorem magnitude_valid {m : Magnitude} (found : a.magnitude? = some m) : m.Valid := by
  cases a <;> simp only [magnitude?, Option.some.injEq, reduceCtorEq] at found
  case bool => exact found ▸ .inl rfl
  case int => exact found ▸ .inl rfl
  case float x =>
      rw [← found, Magnitude.ofFloat]
      cases parts x
      · trivial
      · trivial
      · exact .inl rfl
  case nan => exact found ▸ trivial
  case decimal d =>
      rw [← found]
      cases d
      · exact .inr rfl
      · trivial
      · trivial

theorem compareMagnitudes_same {x y : Magnitude} (valid : x.Valid) (valid' : y.Valid) :
    compareMagnitudes false x y = .same ↔ ∃ c, x.canon? = some c ∧ y.canon? = some c := by
  cases x <;> cases y <;> simp only [compareMagnitudes, Magnitude.canon?]
  case finite.finite x y =>
      have order := Scaled.order_eq_iff valid valid'
      have values : (∃ c, some (Canon.finite x.value) = some c ∧ some (.finite y.value) = some c) ↔
          x.value = y.value := by simp [eq_comm]
      rw [values, ← order]
      cases x.order y <;> simp
  case finite.infinite _ negative => cases negative <;> simp
  case infinite.finite negative _ => cases negative <;> simp
  case infinite.infinite first second => cases first <;> cases second <;> simp
  all_goals simp

/-! ## Canonical forms -/

theorem isNumber_of_single? (found : a.single? = some c) : c.isNumber = false := by
  cases single_of_single? found <;> rfl

theorem isNumber_of_magnitude? (found : a.magnitude?.bind Magnitude.canon? = some c) :
    c.isNumber = true := by
  obtain ⟨m, -, found⟩ := Option.bind_eq_some_iff.mp found
  cases m with
  | infinite => rw [← Option.some.inj found]; rfl
  | finite => rw [← Option.some.inj found]; rfl
  | _ => cases found

theorem canon?_eq_some : a.canon? = some c ↔
    a.single? = some c ∨ a.magnitude?.bind Magnitude.canon? = some c := by
  rw [canon?, Option.or_eq_some_iff]
  refine or_congr_right (and_iff_right_of_imp fun found => ?_)
  cases single : a.single? with
  | none => rfl
  | some c' => cases single_of_single? single <;> cases found

theorem same_cases (key : a.isKey = true) : same a b = true ↔
    (∃ c, a.single? = some c ∧ b.single? = some c) ∨
      ∃ x y, a.magnitude? = some x ∧ b.magnitude? = some y ∧
        compareMagnitudes false x y = .same := by
  rw [same.eq_def]
  split
  case h_1 => exact iff_of_true rfl (.inl ⟨.null, rfl, rfl⟩)
  case h_2 s s' =>
      rw [beq_iff_eq]
      constructor
      · rintro rfl
        exact .inl ⟨.text s, rfl, rfl⟩
      · rintro (⟨c, single, single'⟩ | ⟨x, y, found, -⟩)
        · exact Canon.text.inj (Option.some.inj (single.trans single'.symm))
        · cases found
  case h_3 => cases key
  case h_4 => cases key
  case h_5 mark mark' =>
      rw [beq_iff_eq]
      constructor
      · rintro rfl
        exact .inl ⟨.nan mark, rfl, rfl⟩
      · rintro (⟨c, single, single'⟩ | ⟨x, y, found, found', equal⟩)
        · exact Canon.nan.inj (Option.some.inj (single.trans single'.symm))
        · rw [← Option.some.inj found, ← Option.some.inj found'] at equal
          cases equal
  case h_6 mark _ _ _ mark' =>
      rw [beq_iff_eq]
      constructor
      · rintro rfl
        exact .inl ⟨.invalid mark, rfl, rfl⟩
      · rintro (⟨c, single, single'⟩ | ⟨x, y, found, found', equal⟩)
        · exact Canon.invalid.inj (Option.some.inj (single.trans single'.symm))
        · rw [← Option.some.inj found, ← Option.some.inj found'] at equal
          cases equal
  case h_7 noNull noText _ _ noNan noInvalid =>
      constructor
      · intro equal
        split at equal
        · rename_i x y found found'
          exact .inr ⟨x, y, found, found', beq_iff_eq.mp equal⟩
        · cases equal
      · rintro (⟨c, single, single'⟩ | ⟨x, y, found, found', equal⟩)
        · exfalso
          cases single_of_single? single <;> cases single_of_single? single'
          · exact noNull rfl rfl
          · exact noText _ _ rfl rfl
          · exact noNan _ _ rfl rfl
          · exact noInvalid _ _ _ _ _ _ _ _ rfl rfl
        · rw [found, found']
          exact beq_iff_eq.mpr equal

/-- Values that can be keys are equal when they have one canonical form. -/
theorem same_iff (key : a.isKey = true) :
    same a b = true ↔ ∃ c, a.canon? = some c ∧ b.canon? = some c := by
  rw [same_cases key]
  constructor
  · rintro (⟨c, single, single'⟩ | ⟨x, y, found, found', equal⟩)
    · exact ⟨c, canon?_eq_some.mpr (.inl single), canon?_eq_some.mpr (.inl single')⟩
    · obtain ⟨c, form, form'⟩ :=
        (compareMagnitudes_same (magnitude_valid found) (magnitude_valid found')).mp equal
      refine ⟨c, canon?_eq_some.mpr (.inr ?_), canon?_eq_some.mpr (.inr ?_)⟩
      · rw [found, Option.bind_some, form]
      · rw [found', Option.bind_some, form']
  · rintro ⟨c, form, form'⟩
    rcases canon?_eq_some.mp form with single | number <;>
      rcases canon?_eq_some.mp form' with single' | number'
    · exact .inl ⟨c, single, single'⟩
    · have clash := isNumber_of_single? single
      rw [isNumber_of_magnitude? number'] at clash
      cases clash
    · have clash := isNumber_of_single? single'
      rw [isNumber_of_magnitude? number] at clash
      cases clash
    · obtain ⟨x, found, form⟩ := Option.bind_eq_some_iff.mp number
      obtain ⟨y, found', form'⟩ := Option.bind_eq_some_iff.mp number'
      exact .inr ⟨x, y, found, found', (compareMagnitudes_same (magnitude_valid found)
        (magnitude_valid found')).mpr ⟨c, form, form'⟩⟩

theorem same_symm (key : a.isKey = true) (key' : b.isKey = true) (equal : same a b = true) :
    same b a = true := by
  obtain ⟨c, form, form'⟩ := (same_iff key).mp equal
  exact (same_iff key').mpr ⟨c, form', form⟩

theorem same_trans {d : Value} (key : a.isKey = true) (key' : b.isKey = true)
    (equal : same a b = true) (equal' : same b d = true) : same a d = true := by
  obtain ⟨c, form, shared⟩ := (same_iff key).mp equal
  obtain ⟨c', shared', form'⟩ := (same_iff key').mp equal'
  obtain rfl := Option.some.inj (shared.symm.trans shared')
  exact (same_iff key).mpr ⟨c, form, form'⟩

/-! ## Keys -/

/-- What a value has in common with the keys that equal it; a value that is no key has nothing. -/
def key? (v : Value) : Option Canon := if v.isKey then v.canon? else none

theorem key?_eq_some : a.key? = some c ↔ a.isKey = true ∧ a.canon? = some c := by
  rw [key?]
  split
  · rename_i key
    simp [key]
  · rename_i noKey
    simp [noKey]

theorem same_of_key? (key : a.key? = some c) (key' : b.key? = some c) : (a == b) = true :=
  (same_iff (key?_eq_some.mp key).1).mpr ⟨c, (key?_eq_some.mp key).2, (key?_eq_some.mp key').2⟩

theorem key?_of_same (key : a.isKey = true) (key' : b.isKey = true) (equal : (a == b) = true) :
    ∃ c, a.key? = some c ∧ b.key? = some c := by
  obtain ⟨c, form, form'⟩ := (same_iff key).mp equal
  exact ⟨c, key?_eq_some.mpr ⟨key, form⟩, key?_eq_some.mpr ⟨key', form'⟩⟩

theorem key?_eq_null : a.key? = some .null ↔ a = .null := by
  constructor
  · intro key
    rcases canon?_eq_some.mp (key?_eq_some.mp key).2 with single | number
    · cases single_of_single? single
      rfl
    · cases isNumber_of_magnitude? number
  · rintro rfl
    rfl

/-- Two values are one key, and it is not null. -/
def Links (a b : Value) : Prop := ∃ c, a.key? = some c ∧ b.key? = some c ∧ c ≠ .null

theorem Links.congr {d : Value} (same : a.key? = d.key?) (links : Links a b) : Links d b := by
  rw [Links, ← same]
  exact links

theorem links_iff (key : a.isKey = true) (key' : b.isKey = true) :
    Links a b ↔ (!a.isNull && !b.isNull && a == b) = true := by
  have null : ∀ {v : Value}, v.isNull = true ↔ v = .null := by
    intro v
    cases v <;> simp [isNull]
  simp only [Bool.and_eq_true, Bool.not_eq_true', ← Bool.not_eq_true, null]
  constructor
  · rintro ⟨c, form, form', set⟩
    refine ⟨⟨?_, ?_⟩, same_of_key? form form'⟩
    · rintro rfl
      exact set (Option.some.inj form).symm
    · rintro rfl
      exact set (Option.some.inj form').symm
  · rintro ⟨⟨set, -⟩, equal⟩
    obtain ⟨c, form, form'⟩ := key?_of_same key key' equal
    exact ⟨c, form, form', fun null => set (key?_eq_null.mp (null ▸ form))⟩

end Value
end Datacube
