import Datacube.Proofs.Dialect.Aliasing

/-!
# Identifiers and the points between them

A name in a query is written as identifiers with points between them. Quotes end every identifier,
so that one text is the written form of one list of identifiers only, and a quoted reference is such
a text unless it has an alias.
-/

namespace Datacube.Dialect
open Text

variable {d : Dialect} {s quoted : String} {rest rest' : List Char}

/-- What a written name is made of: identifiers, and the star for all columns. -/
inductive Part where
  | name (s : String)
  | star
  deriving DecidableEq

namespace Part

def ofText (s : String) : Part := if s = "*" then .star else .name s

def text (d : Dialect) : Part → String
  | name s => d.quote s
  | star => "*"

theorem ofText_injective : Function.Injective ofText := by
  intro s t same
  unfold ofText at same
  split at same <;> split at same
  · rename_i star star'
    rw [star, star']
  · cases same
  · cases same
  · exact name.inj same

theorem text_ofText (d : Dialect) (s : String) : (ofText s).text d = d.wrapPart s := by
  rw [ofText]
  split
  · rename_i star
    rw [star]
    rfl
  · rename_i starless
    exact (wrapPart_of_ne starless).symm

/-- What a written part begins with is no other part. -/
theorem text_unique {p p' : Part} (ends : rest.head? ≠ some d.quotes.2)
    (ends' : rest'.head? ≠ some d.quotes.2)
    (same : (p.text d).toList ++ rest = (p'.text d).toList ++ rest') : p = p' ∧ rest = rest' := by
  have opening := (quotes_ne d).1
  have star : "*".toList = ['*'] := rfl
  cases p with
  | star =>
      cases p' with
      | star => exact ⟨rfl, List.append_cancel_left same⟩
      | name s =>
          rw [text, text, star, toList_quote] at same
          exact absurd (List.cons.inj same).1.symm opening
  | name s =>
      cases p' with
      | star =>
          rw [text, text, star, toList_quote] at same
          exact absurd (List.cons.inj same).1 opening
      | name t =>
          simp only [text, toList_quote, List.append_assoc, List.cons_append, List.nil_append,
            List.cons.injEq, true_and] at same
          have read := readName?_inName ends s.toList
          rw [same, readName?_inName ends', Option.some.injEq, Prod.mk.injEq] at read
          exact ⟨congrArg name (String.toList_injective read.1.symm), read.2.symm⟩

end Part

/-! ## Written names -/

/-- The written form of a name: its parts with points between them. -/
def spelled (d : Dialect) (parts : List Part) : String := join "." (parts.map (Part.text d))

/-- Nothing, or what a blank divides from the name before it. -/
def Divided (rest : List Char) : Prop := ∀ c ∈ rest.head?, c = ' '

theorem Divided.nil : Divided [] := by simp [Divided]

theorem Divided.open (divided : Divided rest) :
    rest.head? ≠ some d.quotes.2 ∧ rest.head? ≠ some '.' := by
  obtain ⟨-, -, -, blank⟩ := quotes_ne d
  refine ⟨fun begins => blank (divided _ begins), fun begins => ?_⟩
  have point := divided _ begins
  cases point

theorem toList_spelled_cons (d : Dialect) (p q : Part) (parts : List Part) :
    (d.spelled (p :: q :: parts)).toList =
      (p.text d).toList ++ '.' :: (d.spelled (q :: parts)).toList := by
  rw [spelled, List.map_cons, List.map_cons, join, String.intercalate_cons_cons,
    String.toList_append, String.toList_append, List.append_assoc]
  rfl

theorem spelled_one (d : Dialect) (p : Part) : d.spelled [p] = p.text d := by
  rw [spelled, List.map_singleton, join, String.intercalate_singleton]

theorem spelled_two (d : Dialect) (p q : Part) :
    d.spelled [p, q] = p.text d ++ "." ++ q.text d := by
  refine String.toList_injective ?_
  rw [toList_spelled_cons, spelled_one, String.toList_append, String.toList_append,
    List.append_assoc]
  rfl

/-- A text begins with the parts of one name only, up to what a blank divides from it. -/
theorem spelled_unique {parts parts' : List Part} (some : parts ≠ []) (some' : parts' ≠ [])
    (divided : Divided rest) (divided' : Divided rest')
    (same : (d.spelled parts).toList ++ rest = (d.spelled parts').toList ++ rest') :
    parts = parts' ∧ rest = rest' := by
  have point : d.quotes.2 ≠ '.' := (quotes_ne d).2.2.1
  have inner : ∀ {chars : List Char}, ('.' :: chars).head? ≠ .some d.quotes.2 := by
    intro chars begins
    exact point (Option.some.inj begins).symm
  obtain ⟨ends, pointless⟩ := divided.open (d := d)
  obtain ⟨ends', pointless'⟩ := divided'.open (d := d)
  induction parts generalizing parts' with
  | nil => exact absurd rfl some
  | cons p parts ih =>
      rcases parts' with _ | ⟨p', parts'⟩
      · exact absurd rfl some'
      rcases parts with _ | ⟨q, parts⟩ <;> rcases parts' with _ | ⟨q', parts'⟩
      · rw [spelled_one, spelled_one] at same
        obtain ⟨rfl, rest⟩ := Part.text_unique ends ends' same
        exact ⟨rfl, rest⟩
      · rw [spelled_one, toList_spelled_cons, List.append_assoc, List.cons_append] at same
        obtain ⟨-, rfl⟩ := Part.text_unique ends inner same
        exact absurd rfl pointless
      · rw [spelled_one, toList_spelled_cons, List.append_assoc, List.cons_append] at same
        obtain ⟨-, rfl⟩ := Part.text_unique inner ends' same
        exact absurd rfl pointless'
      · rw [toList_spelled_cons, toList_spelled_cons, List.append_assoc, List.append_assoc,
          List.cons_append, List.cons_append] at same
        obtain ⟨rfl, later⟩ := Part.text_unique inner inner same
        obtain ⟨rest, rfl⟩ := ih (List.cons_ne_nil q parts) (List.cons_ne_nil q' parts')
          (List.cons.inj later).2
        exact ⟨congrArg _ rest, rfl⟩

/-- A text is the written form of a name. -/
def Spells (d : Dialect) (parts : List Part) (s : String) : Prop :=
  parts ≠ [] ∧ s = d.spelled parts

theorem Spells.unique {parts parts' : List Part} (spells : d.Spells parts s)
    (spells' : d.Spells parts' s) : parts = parts' := by
  obtain ⟨some, rfl⟩ := spells
  obtain ⟨some', same⟩ := spells'
  exact (spelled_unique some some' .nil .nil (congrArg (String.toList · ++ []) same)).1

theorem spells_spelled_iff {parts parts' : List Part} (some' : parts' ≠ []) :
    d.Spells parts (d.spelled parts') ↔ parts = parts' := by
  constructor
  · exact fun spells => spells.unique ⟨some', rfl⟩
  · rintro rfl
    exact ⟨some', rfl⟩

theorem not_spells_aliased {parts parts' : List Part} (some' : parts' ≠ []) (after : String) :
    ¬ d.Spells parts (d.spelled parts' ++ " AS " ++ after) := by
  rintro ⟨some, same⟩
  have phrase : " AS ".toList = [' ', 'A', 'S', ' '] := rfl
  have divided : Divided (" AS ".toList ++ after.toList) := by simp [Divided, phrase]
  have same := congrArg String.toList same
  rw [String.toList_append, String.toList_append, List.append_assoc,
    ← List.append_nil (d.spelled parts).toList] at same
  obtain ⟨-, empty⟩ := spelled_unique some' some divided .nil same
  rw [phrase] at empty
  cases empty

/-! ## Quoted references -/

/-- The parts that a reference is quoted in. -/
def quotedParts (s : String) : List Part := (splitAll '.' s).map Part.ofText

theorem quotedParts_ne_nil (s : String) : quotedParts s ≠ [] := by
  simpa [quotedParts] using splitAll_ne_nil '.' s

theorem spelled_quotedParts (d : Dialect) (s : String) :
    d.spelled (quotedParts s) = join "." ((splitAll '.' s).map d.wrapPart) := by
  rw [spelled, quotedParts, List.map_map]
  exact congrArg _ (List.map_congr_left fun part _ => Part.text_ofText d part)

/-- A quoted form begins with a written name, and is one only where there is no alias. -/
theorem wrapWithin_spelled {fuel : Nat} (ends : d.wrapWithin fuel s = some quoted) :
    ∃ parts rest, parts ≠ [] ∧ Divided rest ∧ quoted.toList = (d.spelled parts).toList ++ rest ∧
      (rest = [] → Unaliased s ∧ parts = quotedParts s) := by
  induction fuel generalizing s quoted with
  | zero => cases ends
  | succ fuel ih =>
      cases cut : cutAlias? s with
      | none =>
          have plain := cutAlias?_eq_none.mp cut
          rw [wrapWithin_unaliased plain, ← spelled_quotedParts] at ends
          obtain rfl := Option.some.inj ends
          exact ⟨_, [], quotedParts_ne_nil s, .nil, (List.append_nil _).symm, fun _ => ⟨plain, rfl⟩⟩
      | some sides =>
          obtain ⟨left, right, found, -, rfl⟩ := (wrapWithin_cut cut).mp ends
          obtain ⟨parts, rest, some, divided, begins, -⟩ := ih found
          have phrase : " AS ".toList = [' ', 'A', 'S', ' '] := rfl
          refine ⟨parts, rest ++ (" AS ".toList ++ right.toList), some, ?_, ?_, ?_⟩
          · cases rest with
            | nil => simp [Divided, phrase]
            | cons c rest => exact divided
          · rw [String.toList_append, String.toList_append, begins, List.append_assoc,
              List.append_assoc]
          · simp [phrase]

theorem wrap_spells_iff {parts : List Part} :
    (∃ quoted, d.wrap s = .ok quoted ∧ d.Spells parts quoted) ↔
      Unaliased s ∧ parts = quotedParts s := by
  constructor
  · rintro ⟨quoted, wrapped, some, rfl⟩
    obtain ⟨fuel, ends⟩ := wrap_eq_ok.mp wrapped
    obtain ⟨parts', rest, some', divided, begins, alone⟩ := wrapWithin_spelled ends
    rw [← List.append_nil (d.spelled parts).toList] at begins
    obtain ⟨rfl, rfl⟩ := spelled_unique some some' .nil divided begins
    exact alone rfl
  · rintro ⟨plain, rfl⟩
    exact ⟨_, wrap_unaliased plain, quotedParts_ne_nil s, (spelled_quotedParts d s).symm⟩

end Datacube.Dialect
