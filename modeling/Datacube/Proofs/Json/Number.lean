import Datacube.Json.Reader
import Datacube.Json.Writer
import Datacube.Proofs.Number.Shortest

/-!
# Numbers written and read back

A whole number and a finite float are read back as they were from their texts, whatever comes after
them in a list or an object. A whole number has neither point nor exponent, a float has one of them.
-/

namespace Datacube.Json
open Number

variable {run places after rest : List Char} {negative : Bool}

/-- The text of a value ends here: nothing follows it, or what follows it in a list or an object. -/
def Ends (rest : List Char) : Prop := ∀ c ∈ rest.head?, c = ',' ∨ c = ']' ∨ c = '\x7d'

/-- No digit follows. -/
def Stops (rest : List Char) : Prop := ∀ c ∈ rest.head?, c.isDigit = false

theorem Ends.stops (ends : Ends rest) : Stops rest := by
  intro c first
  rcases ends c first with rfl | rfl | rfl <;> rfl

theorem digits_append (all : ∀ c ∈ run, c.isDigit = true) (stops : Stops rest) :
    digits (run ++ rest) = (run, rest) := by
  have none_taken : rest.takeWhile Char.isDigit = [] ∧ rest.dropWhile Char.isDigit = rest := by
    cases rest with
    | nil => exact ⟨rfl, rfl⟩
    | cons c rest =>
        have stop := stops c rfl
        simp [stop]
  rw [digits, List.takeWhile_append_of_pos all, List.dropWhile_append_of_pos all, none_taken.1,
    none_taken.2, List.append_nil]

theorem fraction_ends (ends : Ends rest) : fraction rest = ([], rest) := by
  cases rest with
  | nil => rfl
  | cons c rest =>
      rcases ends c rfl with rfl | rfl | rfl <;> rfl

theorem exponent_ends (ends : Ends rest) : exponent rest = (none, rest) := by
  cases rest with
  | nil => rfl
  | cons c rest =>
      rcases ends c rfl with rfl | rfl | rfl <;> rfl

theorem fraction_places (nonempty : places ≠ []) (all : ∀ c ∈ places, c.isDigit = true)
    (stops : Stops rest) : fraction ('.' :: (places ++ rest)) = (places, rest) := by
  rw [fraction, digits_append all stops]
  simp [nonempty]

/-- A number begins with digits, of which the first is zero only when it is the only one. -/
theorem unsigned?_eq {tail : List Char} {scale : Option Int} (nonempty : run ≠ [])
    (all : ∀ c ∈ run, c.isDigit = true) (leads : run.head? = some '0' → run = ['0'])
    (stops : Stops tail) (fractional : fraction tail = (places, after))
    (scaled : exponent after = (scale, rest)) :
    unsigned? negative (run ++ tail) =
      if places.isEmpty && scale.isNone then
        some (.int (if negative then -(digitsValue run : Int) else digitsValue run), rest)
      else some (.float (signed negative
        (Decimals.toFloat ⟨digitsValue (run ++ places), scale.getD 0 - places.length⟩)), rest) := by
  have whole : (if run.head? = some '0' then (['0'], run.drop 1 ++ tail) else (run, tail)) =
      (run, tail) := by
    split
    · rename_i zero
      rw [leads zero]
      rfl
    · rfl
  have some_digit : run.isEmpty = false := by simpa using nonempty
  rw [unsigned?, digits_append all stops]
  simp only [some_digit, whole, fractional, scaled, Bool.false_eq_true, if_false]

/-! ## Whole numbers -/

theorem leads_toDigits (n : Nat) :
    (Nat.toDigits 10 n).head? = some '0' → Nat.toDigits 10 n = ['0'] := by
  rcases eq_or_ne n 0 with rfl | nonzero
  · exact fun _ => rfl
  · exact fun zero => absurd zero (head_toDigits nonzero)

theorem unsigned?_whole (n : Nat) (ends : Ends rest) :
    unsigned? negative (Nat.toDigits 10 n ++ rest) =
      some (.int (if negative then -(n : Int) else n), rest) := by
  rw [unsigned?_eq Nat.toDigits_ne_nil isDigit_toDigits (leads_toDigits n) ends.stops
    (fraction_ends ends) (exponent_ends ends), digitsValue_toDigits]
  rfl

/-! ## Floats -/

/-- A text is read as the float next to a decimal. -/
def ReadsAs (text : List Char) (d : Decimals) : Prop :=
  ∀ negative rest, Ends rest →
    unsigned? negative (text ++ rest) = some (.float (signed negative d.toFloat), rest)

theorem readsAs_places (nonempty : run ≠ []) (all : ∀ c ∈ run, c.isDigit = true)
    (leads : run.head? = some '0' → run = ['0']) (some_place : places ≠ [])
    (all' : ∀ c ∈ places, c.isDigit = true) :
    ReadsAs (run ++ '.' :: places) ⟨digitsValue (run ++ places), -places.length⟩ := by
  intro negative rest ends
  have point : Stops ('.' :: (places ++ rest)) := by
    rintro c ⟨⟩
    rfl
  rw [List.append_assoc, List.cons_append, unsigned?_eq nonempty all leads point
    (fraction_places some_place all' ends.stops) (exponent_ends ends)]
  simp [some_place]

/-! ### Positional texts -/

theorem isDigit_zeros {n : Nat} : ∀ c ∈ List.replicate n '0', c.isDigit = true := by
  intro c member
  rw [List.eq_of_mem_replicate member]
  rfl

theorem isDigit_append {digits digits' : List Char} (all : ∀ c ∈ digits, c.isDigit = true)
    (all' : ∀ c ∈ digits', c.isDigit = true) : ∀ c ∈ digits ++ digits', c.isDigit = true := by
  intro c member
  exact (List.mem_append.mp member).elim (all c) (all' c)

section Positional
variable {digits : List Char} (leading : Leading digits) {point : Int}
include leading

theorem reads_below_one (n : Nat) : ∃ d : Decimals, d.value = pointed digits (-n) ∧
    ReadsAs ('0' :: '.' :: (List.replicate n '0' ++ digits)) d := by
  have places : List.replicate n '0' ++ digits ≠ [] := by simp [leading.nonempty]
  refine ⟨_, ?_, @readsAs_places ['0'] _ (by simp) (by simp) (by simp) places
    (isDigit_append isDigit_zeros leading.digit)⟩
  have value : digitsValue (['0'] ++ (List.replicate n '0' ++ digits)) = digitsValue digits := by
    rw [← List.append_assoc, digitsValue_append]
    change digitsValue (List.replicate (n + 1) '0') * _ + _ = _
    rw [digitsValue_zeros, Nat.zero_mul, Nat.zero_add]
  rw [Decimals.value, pointed, value, List.length_append, List.length_replicate]
  congr 2
  push_cast
  ring

theorem reads_whole (n : Nat) : ∃ d : Decimals, d.value = pointed digits (digits.length + n) ∧
    ReadsAs (digits ++ List.replicate n '0' ++ '.' :: ['0']) d := by
  refine ⟨_, ?_, readsAs_places (by simp [leading.nonempty])
    (isDigit_append leading.digit isDigit_zeros) ?_ (by simp) (by simp)⟩
  · have value : digitsValue (digits ++ List.replicate n '0' ++ ['0']) =
        digitsValue digits * 10 ^ (n + 1) := by
      rw [List.append_assoc, digitsValue_append]
      change _ * 10 ^ (List.replicate n '0' ++ ['0']).length +
        digitsValue (List.replicate n '0' ++ List.replicate 1 '0') = _
      rw [List.replicate_append_replicate, digitsValue_zeros]
      simp
    have places : (digits.length : Int) + n - digits.length = (n + 1 : Nat) + -1 := by
      push_cast
      ring
    rw [Decimals.value, pointed, value, places, zpow_add₀ (by norm_num), zpow_natCast]
    push_cast
    exact mul_assoc _ _ _
  · rw [List.head?_append_of_ne_nil _ leading.nonempty]
    exact fun zero => absurd zero leading.first

theorem reads_split {n : Nat} (positive : 0 < n) (less : n < digits.length) :
    ∃ d : Decimals, d.value = pointed digits n ∧
      ReadsAs (digits.take n ++ '.' :: digits.drop n) d := by
  have some_taken : digits.take n ≠ [] := by
    rw [← List.length_pos_iff, List.length_take]
    omega
  have some_left : digits.drop n ≠ [] := by
    rw [← List.length_pos_iff, List.length_drop]
    omega
  refine ⟨_, ?_, readsAs_places some_taken (fun c member => leading.digit c ?_) ?_ some_left
    fun c member => leading.digit c ?_⟩
  · rw [Decimals.value, pointed, List.take_append_drop, List.length_drop]
    congr 2
    push_cast [less.le]
    ring
  · exact List.mem_of_mem_take member
  · have first : (digits.take n).head? = digits.head? := by
      rw [List.head?_take, if_neg positive.ne']
    rw [first]
    exact fun zero => absurd zero leading.first
  · exact List.mem_of_mem_drop member

theorem positional_reads (point : Int) : ∃ d : Decimals, d.value = pointed digits point ∧
    ReadsAs (positional digits point).toList d := by
  rw [positional]
  split
  · rename_i low
    obtain ⟨n, same⟩ := Int.eq_ofNat_of_zero_le (Int.neg_nonneg_of_nonpos low)
    obtain rfl : point = -(n : Int) := by omega
    simpa using reads_below_one leading n
  · rename_i high
    obtain ⟨n, rfl⟩ := Int.eq_ofNat_of_zero_le (show 0 ≤ point by omega)
    rcases Nat.lt_or_ge n digits.length with less | enough
    · have some_left : digits.drop n ≠ [] := by
        rw [← List.length_pos_iff, List.length_drop]
        omega
      simpa [Nat.sub_eq_zero_of_le less.le, some_left, less] using
        reads_split leading (by omega) less
    · obtain ⟨k, rfl⟩ := Nat.exists_eq_add_of_le enough
      simp only [Int.toNat_natCast, Nat.add_sub_cancel_left]
      rw [List.take_of_length_le (by omega), List.drop_eq_nil_of_le (by omega)]
      simpa using reads_whole leading k

end Positional

/-! ### Scientific texts -/

/-- The digits of an exponent: two at least. -/
def exponentRun (n : Nat) : List Char :=
  if (Nat.toDigits 10 n).length < 2 then '0' :: Nat.toDigits 10 n else Nat.toDigits 10 n

theorem exponentRun_spec (n : Nat) : exponentRun n ≠ [] ∧
    (∀ c ∈ exponentRun n, c.isDigit = true) ∧ digitsValue (exponentRun n) = n := by
  rw [exponentRun]
  split
  · refine ⟨by simp, ?_, digitsValue_toDigits n⟩
    simpa using @isDigit_toDigits n
  · exact ⟨Nat.toDigits_ne_nil, isDigit_toDigits, digitsValue_toDigits n⟩

theorem exponentText_toList (e : Int) : (exponentText e).toList =
    'e' :: (if e < 0 then '-' else '+') :: exponentRun e.natAbs := by
  have text : toString e.natAbs = String.ofList (Nat.toDigits 10 e.natAbs) :=
    Nat.toString_eq_ofList_toDigits
  rw [exponentText, exponentRun, text]
  simp only [String.toList_append, String.length_ofList]
  split <;> split <;> simp

theorem exponent_text (e : Int) (ends : Ends rest) :
    exponent ((exponentText e).toList ++ rest) = (some e, rest) := by
  obtain ⟨nonempty, all, value⟩ := exponentRun_spec e.natAbs
  rw [exponentText_toList]
  have signs : signThen ((if e < 0 then '-' else '+') :: (exponentRun e.natAbs ++ rest)) =
      (decide (e < 0), exponentRun e.natAbs ++ rest) := by
    split_ifs with below <;> simp [signThen, below]
  have scale : (if decide (e < 0) then -(e.natAbs : Int) else e.natAbs) = e := by
    split_ifs with below <;> simp only [decide_eq_true_eq] at below <;> omega
  have some_digit : (exponentRun e.natAbs).isEmpty = false := by simpa using nonempty
  simp only [List.cons_append, exponent, signs, digits_append all ends.stops, some_digit, value,
    scale, decide_true, Bool.true_or, Bool.false_eq_true, if_true, if_false]

/-- What follows the first digit in a scientific text, up to the exponent. -/
def fractionText (places : List Char) : List Char :=
  if places.isEmpty then [] else '.' :: places

theorem fraction_text (all : ∀ c ∈ places, c.isDigit = true) :
    fraction (fractionText places ++ 'e' :: rest) = (places, 'e' :: rest) := by
  have stops : Stops ('e' :: rest) := by
    rintro c ⟨⟩
    rfl
  cases places with
  | nil => rfl
  | cons c places => exact fraction_places (by simp) all stops

theorem scientific_toList (c : Char) (places : List Char) (point : Int) :
    (scientific (c :: places) point).toList =
      [c] ++ (fractionText places ++ (exponentText (point - 1)).toList) := by
  cases places <;> simp [scientific, fractionText]

theorem scientific_reads {digits : List Char} (leading : Leading digits) (point : Int) :
    ∃ d : Decimals, d.value = pointed digits point ∧
      ReadsAs (scientific digits point).toList d := by
  obtain ⟨c, places, rfl⟩ := List.exists_cons_of_ne_nil leading.nonempty
  refine ⟨⟨digitsValue (c :: places), point - 1 - places.length⟩, ?_, ?_⟩
  · rw [Decimals.value, pointed, List.length_cons]
    congr 2
    push_cast
    ring
  · intro negative rest ends
    have digit : ∀ d ∈ [c], d.isDigit = true := by
      simpa using leading.digit c List.mem_cons_self
    have leads : [c].head? = some '0' → [c] = ['0'] := fun zero => absurd zero leading.first
    have fractional : fraction (fractionText places ++ (exponentText (point - 1)).toList ++ rest) =
        (places, (exponentText (point - 1)).toList ++ rest) := by
      rw [exponentText_toList, List.append_assoc]
      exact fraction_text fun d member => leading.digit d (List.mem_cons_of_mem c member)
    have stops : Stops (fractionText places ++ (exponentText (point - 1)).toList ++ rest) := by
      rw [exponentText_toList]
      cases places <;> rintro d ⟨⟩ <;> rfl
    rw [scientific_toList, List.append_assoc, unsigned?_eq (by simp) digit leads stops fractional
      (exponent_text _ ends)]
    simp

/-! ## Signs -/

theorem digit_apart {c : Char} (digit : c.isDigit = true) {d : Char} (other : d.isDigit = false) :
    d ≠ c := by
  rintro rfl
  rw [digit] at other
  cases other

/-- No name of a value begins with a digit. -/
theorem scalar?_unsigned {c : Char} {chars : List Char} (digit : c.isDigit = true) :
    scalar? (c :: chars) = unsigned? false (c :: chars) := by
  have unsigned : '-' ≠ c := digit_apart digit rfl
  rw [scalar?]
  · split
    · rename_i named
      simp [names, Text.dropStart?, digit_apart digit] at named
    · rfl
  · exact fun _ same => unsigned (List.cons.inj same).1.symm

theorem scalar?_negative {c : Char} {chars : List Char} (digit : c.isDigit = true) :
    scalar? ('-' :: c :: chars) = unsigned? true (c :: chars) := by
  rw [scalar?]
  split
  · rename_i named
    simp [names, Text.dropStart?, digit_apart digit] at named
  · rfl

theorem scalar?_signed {text : List Char} {v : Bool → Value}
    (reads : ∀ negative, unsigned? negative (text ++ rest) = some (v negative, rest))
    (first : ∀ c ∈ text.head?, c.isDigit = true) (nonempty : text ≠ []) :
    scalar? ((if negative then ['-'] else []) ++ text ++ rest) = some (v negative, rest) := by
  obtain ⟨c, chars, rfl⟩ := List.exists_cons_of_ne_nil nonempty
  cases negative with
  | true => exact (scalar?_negative (first c rfl)).trans (reads true)
  | false => exact (scalar?_unsigned (first c rfl)).trans (reads false)

theorem int_toList (n : Int) : (toString n).toList =
    (if decide (n < 0) then ['-'] else []) ++ Nat.toDigits 10 n.natAbs := by
  cases n with
  | ofNat n =>
      change n.repr.toList = _
      rw [Nat.toList_repr, if_neg (by simp)]
      rfl
  | negSucc n =>
      change ("-" ++ (n + 1).repr).toList = _
      rw [String.toList_append, Nat.toList_repr, if_pos (by simp)]
      rfl

theorem scalar?_int (n : Int) (ends : Ends rest) :
    scalar? ((toString n).toList ++ rest) = some (.int n, rest) := by
  have sign : (if decide (n < 0) then -(n.natAbs : Int) else n.natAbs) = n := by
    split_ifs with below <;> simp only [decide_eq_true_eq] at below <;> omega
  rw [int_toList, scalar?_signed (fun negative => unsigned?_whole n.natAbs ends)
    (fun c first => isDigit_toDigits c (List.mem_of_mem_head? first)) Nat.toDigits_ne_nil, sign]

theorem ReadsAs.first {text : List Char} {d : Decimals} (reads : ReadsAs text d) :
    text ≠ [] ∧ ∀ c ∈ text.head?, c.isDigit = true := by
  have read := reads false [] (by simp [Ends])
  rw [List.append_nil] at read
  cases text with
  | nil => simp [unsigned?, digits] at read
  | cons c text =>
      refine ⟨by simp, ?_⟩
      rintro c ⟨⟩
      by_contra other
      simp [unsigned?, digits, other] at read

theorem zero_packed (negative : Bool) :
    signed negative (Decimals.toFloat ⟨0, -1⟩) = packed (.zero (signOf negative)) := by
  cases negative <;> exact eq_of_bits (by decide +kernel)

theorem signed_packed {M : Nat} {E : Int} (canonical : Canonical M E) :
    signed negative (packed (.finite .positive M E canonical.positive)) =
      packed (.finite (signOf negative) M E canonical.positive) := by
  cases negative with
  | true => exact neg_packed canonical
  | false => rfl

/-- The two forms of digits with a decimal point are read alike. -/
theorem pointed_reads {digits : List Char} (leading : Leading digits) (point : Int) (short : Bool) :
    ∃ d : Decimals, d.value = pointed digits point ∧
      ReadsAs (if short then positional digits point else scientific digits point).toList d := by
  cases short with
  | true => exact positional_reads leading point
  | false => exact scientific_reads leading point

theorem shortest_nonzero {M : Nat} {E : Int} (canonical : Canonical M E) :
    (Binary.shortest ⟨negative, M, E⟩).coefficient ≠ 0 := by
  have positive := (@shortest_rounds M E negative canonical).positive canonical.placed
  intro zero
  rw [Decimals.value, zero, Nat.cast_zero, zero_mul] at positive
  exact absurd positive (not_le.mpr (by positivity))

/-- The text of a finite float is its sign and a text that is read as its size. -/
theorem exists_magnitude {x : Float} {M : Nat} {E : Int}
    (found : parts x = .finite ⟨negative, M, E⟩) :
    ∃ text d, (number x).toList = (if negative then ['-'] else []) ++ text ∧ ReadsAs text d ∧
      signed negative d.toFloat = x := by
  have sign (s : String) : ((if negative then "-" else "") ++ s).toList =
      (if negative then ['-'] else []) ++ s.toList := by
    cases negative <;> simp
  simp only [number, found, floatText]
  by_cases zero : M = 0
  · subst zero
    rw [if_pos rfl]
    refine ⟨_, ⟨0, -1⟩, sign _, ?_, ?_⟩
    · exact @readsAs_places ['0'] ['0'] (by simp) (by simp) (by simp) (by simp) (by simp)
    · rw [zero_packed, ← eq_packed_zero found]
  · have canonical := (parts_finite found).2.resolve_left fun least => zero least.1
    rw [if_neg zero]
    obtain ⟨leading, value⟩ := digits_spec (shortest_nonzero canonical)
    obtain ⟨d, same, reads⟩ := pointed_reads leading _ _
    refine ⟨_, d, sign _, reads, ?_⟩
    have rounds := @shortest_rounds M E negative canonical
    rw [← value, ← same] at rounds
    rw [toFloat_eq canonical rounds, signed_packed canonical, ← eq_packed canonical found]

theorem exists_parts {x : Float} (finite : isFiniteFloat x = true) :
    ∃ negative M E, parts x = .finite ⟨negative, M, E⟩ := by
  rw [isFiniteFloat] at finite
  split at finite
  · rename_i value found
    exact ⟨value.negative, value.mantissa, value.exponent, found⟩
  · cases finite

/-- A finite float is read back from its text, with its sign when it is zero. -/
theorem scalar?_float {x : Float} (finite : isFiniteFloat x = true) (ends : Ends rest) :
    scalar? ((number x).toList ++ rest) = some (.float x, rest) := by
  obtain ⟨negative, M, E, found⟩ := exists_parts finite
  obtain ⟨text, d, split, reads, same⟩ := exists_magnitude found
  rw [split, scalar?_signed (fun negative => reads negative rest ends) reads.first.2
    reads.first.1, same]

/-! ## First characters -/

/-- The characters with which numbers begin. -/
def Numeric (c : Char) : Prop := c = '-' ∨ c.isDigit = true

theorem Numeric.apart {c d : Char} (numeric : Numeric c) (unsigned : d ≠ '-')
    (other : d.isDigit = false) : c ≠ d := by
  rcases numeric with rfl | digit
  · exact unsigned.symm
  · exact (digit_apart digit other).symm

theorem numeric_first {text : List Char} (nonempty : text ≠ [])
    (first : ∀ c ∈ text.head?, c.isDigit = true) :
    ∃ c chars, (if negative then ['-'] else []) ++ text = c :: chars ∧ Numeric c := by
  obtain ⟨c, chars, rfl⟩ := List.exists_cons_of_ne_nil nonempty
  cases negative with
  | true => exact ⟨'-', c :: chars, rfl, .inl rfl⟩
  | false => exact ⟨c, chars, rfl, .inr (first c rfl)⟩

theorem numeric_int (n : Int) : ∃ c chars, (toString n).toList = c :: chars ∧ Numeric c := by
  rw [int_toList]
  exact numeric_first Nat.toDigits_ne_nil
    fun c first => isDigit_toDigits c (List.mem_of_mem_head? first)

theorem numeric_float {x : Float} (finite : isFiniteFloat x = true) :
    ∃ c chars, (number x).toList = c :: chars ∧ Numeric c := by
  obtain ⟨negative, M, E, found⟩ := exists_parts finite
  obtain ⟨text, d, split, reads, -⟩ := exists_magnitude found
  rw [split]
  exact numeric_first reads.first.1 reads.first.2

end Datacube.Json
