import Datacube.Dialect
import Datacube.Proofs.Text.Parts
import Datacube.Proofs.Text.Phrase

/-!
# Quoted references that are read back

A quoted name ends at the first closing quote that is not written twice, and is read back from what
stands before it. The parts of a reference are told from its quoted form by the points between
them, so references without an alias have different quoted forms.
-/

namespace Datacube.Dialect
open Text

variable {d : Dialect} {chars name rest : List Char} {s t : String} {c : Char}

/-! ## Names -/

/-- The characters that are written twice in a quoted name: the closing quote, and for ClickHouse
the backslash as well. -/
def doubles (d : Dialect) (c : Char) : Bool := c = d.quotes.2 || d = .clickhouse && c = '\\'

/-- A character in a quoted name. -/
def inName (d : Dialect) (c : Char) : List Char := if d.doubles c then [c, c] else [c]

theorem doubles_closing (d : Dialect) : d.doubles d.quotes.2 = true := by simp [doubles]

theorem toList_quote (d : Dialect) (name : String) :
    (d.quote name).toList = d.quotes.1 :: name.toList.flatMap d.inName ++ [d.quotes.2] := by
  have inside : (doubled d.quotes.2 (if d = clickhouse then doubled '\\' name else name)).toList =
      name.toList.flatMap d.inName := by
    rw [doubled, String.toList_ofList]
    split
    · rename_i spoken
      subst spoken
      rw [doubled, String.toList_ofList, List.flatMap_assoc]
      refine List.flatMap_congr fun c _ => ?_
      simp only [inName, doubles, quotes]
      by_cases slash : c = '\\'
      · rw [slash]
        rfl
      · rw [if_neg slash, List.flatMap_singleton]
        by_cases closing : c = '"' <;> simp [slash, closing]
    · rename_i unspoken
      refine List.flatMap_congr fun c _ => ?_
      simp [inName, doubles, unspoken]
  rw [quote]
  simp [inside]

/-- Reads a name behind its opening quote. A character that is written twice is read once; a closing
quote that stands alone ends the name. -/
def readName? (d : Dialect) : List Char → Option (List Char × List Char)
  | [] => none
  | [c] => if c = d.quotes.2 then some ([], []) else none
  | c :: c' :: rest =>
    if d.doubles c then
      if c' = c then (readName? d rest).map fun (name, after) => (c :: name, after)
      else if c = d.quotes.2 then some ([], c' :: rest) else none
    else (readName? d (c' :: rest)).map fun (name, after) => (c :: name, after)

theorem readName?_plain (plain : d.doubles c = false) :
    d.readName? (c :: chars) = (d.readName? chars).map fun (name, after) => (c :: name, after) := by
  cases chars with
  | nil =>
      have apart : c ≠ d.quotes.2 := by
        rintro rfl
        rw [doubles_closing] at plain
        cases plain
      rw [readName?.eq_2, if_neg apart]
      rfl
  | cons c' rest => rw [readName?, plain, if_neg Bool.false_ne_true]

theorem readName?_closed (ends : rest.head? ≠ some d.quotes.2) :
    d.readName? (d.quotes.2 :: rest) = some ([], rest) := by
  cases rest with
  | nil => rw [readName?, if_pos rfl]
  | cons c rest =>
      have apart : c ≠ d.quotes.2 := by simpa using ends
      rw [readName?, doubles_closing, if_pos rfl, if_neg apart, if_pos rfl]

theorem readName?_inName (ends : rest.head? ≠ some d.quotes.2) (name : List Char) :
    d.readName? (name.flatMap d.inName ++ d.quotes.2 :: rest) = some (name, rest) := by
  induction name with
  | nil => exact readName?_closed ends
  | cons c name ih =>
      rw [List.flatMap_cons, List.append_assoc, inName]
      split
      · rename_i twice
        rw [List.cons_append, List.singleton_append, readName?, if_pos twice, if_pos rfl, ih]
        rfl
      · rename_i once
        rw [List.singleton_append, readName?_plain (Bool.not_eq_true _ ▸ once), ih]
        rfl

theorem readName?_quoted (d : Dialect) (name : List Char) :
    d.readName? (name.flatMap d.inName ++ [d.quotes.2]) = some (name, []) :=
  readName?_inName (by simp) name

/-- What is read as a name is written as one. -/
theorem inName_of_readName? (read : d.readName? chars = some (name, rest)) :
    chars = name.flatMap d.inName ++ d.quotes.2 :: rest := by
  fun_induction readName? d chars generalizing name with
  | case1 => cases read
  | case2 =>
      obtain ⟨rfl, rfl⟩ := Prod.mk.inj (Option.some.inj read)
      rfl
  | case3 => cases read
  | case4 c rest twice ih =>
      obtain ⟨⟨later, after⟩, found, same⟩ := Option.map_eq_some_iff.mp read
      obtain ⟨rfl, rfl⟩ := Prod.mk.inj same
      rw [List.flatMap_cons, inName, if_pos twice, ih found]
      rfl
  | case5 c rest twice apart =>
      obtain ⟨rfl, rfl⟩ := Prod.mk.inj (Option.some.inj read)
      rfl
  | case6 => cases read
  | case7 c c' rest once ih =>
      obtain ⟨⟨later, after⟩, found, same⟩ := Option.map_eq_some_iff.mp read
      obtain ⟨rfl, rfl⟩ := Prod.mk.inj same
      rw [List.flatMap_cons, inName, if_neg once, ih found]
      rfl

/-- The name of which a text is the quoted form, and the whole of it. -/
def unquote? (d : Dialect) (s : String) : Option String :=
  match s.toList with
  | [] => none
  | c :: chars =>
    if c = d.quotes.1 then match d.readName? chars with
      | some (name, []) => some (String.ofList name)
      | _ => none
    else none

theorem unquote?_eq_some {name : String} : d.unquote? s = some name ↔ s = d.quote name := by
  constructor
  · intro read
    rw [unquote?] at read
    split at read
    · cases read
    · rename_i c chars begins
      split at read
      · rename_i opened
        split at read
        · rename_i found
          obtain rfl := Option.some.inj read
          refine String.toList_injective ?_
          rw [begins, toList_quote, String.toList_ofList, opened, inName_of_readName? found]
          rfl
        · cases read
      · cases read
  · rintro rfl
    rw [unquote?, toList_quote]
    simp only [List.cons_append, readName?_quoted, if_pos, String.ofList_toList]

/-! ## Parts -/

/-- Reads a part of a quoted reference; a star is no identifier. -/
def readPart? (d : Dialect) (part : String) : Option String :=
  if part = "*" then some part else d.unquote? part

theorem quotes_ne (d : Dialect) : d.quotes.1 ≠ '*' ∧ d.quotes.1 ≠ '.' ∧ d.quotes.2 ≠ '.' ∧
    d.quotes.2 ≠ ' ' := by
  cases d <;> decide

theorem quote_ne_star (d : Dialect) (part : String) : d.quote part ≠ "*" := by
  intro same
  have begins := congrArg (·.toList.head?) same
  rw [toList_quote] at begins
  exact (quotes_ne d).1 (Option.some.inj begins)

theorem wrapPart_of_ne {part : String} (starless : part ≠ "*") : d.wrapPart part = d.quote part := by
  rw [wrapPart, beq_eq_false_iff_ne.mpr starless]
  rfl

theorem readPart?_wrapPart (d : Dialect) (part : String) :
    d.readPart? (d.wrapPart part) = some part := by
  rw [wrapPart]
  split
  · rename_i star
    rw [readPart?, if_pos (beq_iff_eq.mp star)]
  · rw [readPart?, if_neg (quote_ne_star d part), unquote?_eq_some]

theorem point_not_mem_wrapPart {part : String} (absent : '.' ∉ part.toList) :
    '.' ∉ (d.wrapPart part).toList := by
  obtain ⟨-, opening, closing, -⟩ := quotes_ne d
  rw [wrapPart]
  split
  · exact absent
  · rw [toList_quote]
    simp only [List.cons_append, List.mem_cons, List.mem_append, List.mem_flatMap,
      List.not_mem_nil, or_false, not_or, not_exists, not_and]
    refine ⟨Ne.symm opening, fun c member inside => absent ?_, Ne.symm closing⟩
    have same : '.' = c := by
      rw [inName] at inside
      split at inside <;> simpa using inside
    exact same ▸ member

/-- A text without the phrase that separates a reference from its alias, in any letter case. -/
def Unaliased (s : String) : Prop := ¬ aliasPhrase <:+: (lower s).toList

instance (s : String) : Decidable (Unaliased s) :=
  inferInstanceAs (Decidable (¬ aliasPhrase <:+: (lower s).toList))

theorem cutAlias?_eq_none : cutAlias? s = none ↔ Unaliased s := by
  rw [cutAlias?, Option.map_eq_none_iff, indexOf?_eq_none, Unaliased]

theorem wrapWithin_unaliased (plain : Unaliased s) (fuel : Nat) :
    d.wrapWithin (fuel + 1) s = some (join "." ((splitAll '.' s).map d.wrapPart)) := by
  rw [wrapWithin, cutAlias?_eq_none.mpr plain]
  split
  · rename_i star
    rw [beq_iff_eq.mp star]
    rfl
  · rfl

theorem wrap_unaliased (plain : Unaliased s) :
    d.wrap s = .ok (join "." ((splitAll '.' s).map d.wrapPart)) := by
  rw [wrap, wrapWithin_unaliased plain]

theorem splitAll_wrapped (d : Dialect) (s : String) :
    splitAll '.' (join "." ((splitAll '.' s).map d.wrapPart)) = (splitAll '.' s).map d.wrapPart := by
  refine splitAll_join rfl (by simpa using splitAll_ne_nil '.' s) fun part member => ?_
  obtain ⟨inner, listed, rfl⟩ := List.mem_map.mp member
  exact point_not_mem_wrapPart (not_mem_splitAll s inner listed)

theorem read_wrapped (d : Dialect) (s : String) :
    (splitAll '.' (join "." ((splitAll '.' s).map d.wrapPart))).map d.readPart? =
      (splitAll '.' s).map some := by
  rw [splitAll_wrapped, List.map_map]
  exact List.map_congr_left fun part _ => readPart?_wrapPart d part

/-- The parts of a reference without an alias are read back from its quoted form, which no other
such reference has. -/
theorem wrap_reads_back (d : Dialect) (plain : Unaliased s) :
    ∃ quoted, d.wrap s = .ok quoted ∧
      (splitAll '.' quoted).map d.readPart? = (splitAll '.' s).map some ∧
      ∀ t, Unaliased t → d.wrap t = .ok quoted → t = s := by
  refine ⟨_, wrap_unaliased plain, read_wrapped d s, fun t plain' same => ?_⟩
  rw [wrap_unaliased plain', Except.ok.injEq] at same
  have parts := read_wrapped d t
  rw [same, read_wrapped] at parts
  have parts := List.map_injective_iff.mpr (fun _ _ => Option.some.inj) parts
  have mark : ".".toList = ['.'] := rfl
  rw [← join_splitAll mark t, ← parts, join_splitAll mark]

theorem wrap_reads_back_starred :
    Unaliased "C:\\as.*..\"as \"" ∧ ∃ quoted, clickhouse.wrap "C:\\as.*..\"as \"" = .ok quoted ∧
      (splitAll '.' quoted).map clickhouse.readPart? =
        [some "C:\\as", some "*", some "", some "\"as \""] ∧
      ∀ t, Unaliased t → clickhouse.wrap t = .ok quoted → t = "C:\\as.*..\"as \"" := by
  have plain : Unaliased "C:\\as.*..\"as \"" := by decide +kernel
  exact ⟨plain, wrap_reads_back clickhouse plain⟩

end Datacube.Dialect
