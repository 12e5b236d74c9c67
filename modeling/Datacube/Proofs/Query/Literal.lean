import Datacube.Proofs.Text.Parts
import Datacube.Query.Build

/-!
# Literals that are read back

In a condition for ClickHouse a text stands in quotes, with a backslash in front of each backslash
and each quote that it holds. To a scan from the left, for which a backslash takes the next
character as it is, such a literal ends with its last character and not before, whatever follows it.
So the texts with which a column is compared are read back from the condition.
-/

namespace Datacube.Query
open Text

namespace Literal
variable {chars after : List Char} {s : String}

/-! ## Texts in quotes -/

/-- The characters with a backslash in front of every occurrence of one. -/
def escaped (c : Char) (chars : List Char) : List Char :=
  chars.flatMap fun x => if x = c then ['\\', x] else [x]

/-- Backslashes and quotes can be escaped one after the other: the backslashes come first, as those
in front of quotes are not to be escaped again. -/
theorem flatMap_escapeChar (chars : List Char) :
    chars.flatMap escapeChar = escaped '\'' (escaped '\\' chars) := by
  rw [escaped, escaped, List.flatMap_assoc]
  refine List.flatMap_congr fun c _ => ?_
  rw [escapeChar]
  by_cases slash : c = '\\'
  · rw [slash]
    rfl
  · by_cases quote : c = '\''
    · rw [quote]
      rfl
    · simp [slash, quote]

/-- Reads a text behind its opening quote: a backslash takes the next character as it is, and a
quote without one ends the text. -/
def readBody? : List Char → Option (List Char × List Char)
  | [] => none
  | '\\' :: c :: rest => (readBody? rest).map fun (read, after) => (c :: read, after)
  | '\'' :: rest => some ([], rest)
  | c :: rest => (readBody? rest).map fun (read, after) => (c :: read, after)

/-- Reads a text in quotes. -/
def readText? : List Char → Option (String × List Char)
  | '\'' :: rest => (readBody? rest).map fun (read, after) => (String.ofList read, after)
  | _ => none

theorem readBody?_escaped (chars after : List Char) :
    readBody? (chars.flatMap escapeChar ++ '\'' :: after) = some (chars, after) := by
  induction chars with
  | nil => rfl
  | cons c rest ih =>
      rw [List.flatMap_cons, List.append_assoc, escapeChar]
      split
      · rw [List.cons_append, List.singleton_append, readBody?, ih, Option.map_some]
      · rename_i plain
        simp only [Bool.or_eq_true, decide_eq_true_eq, not_or] at plain
        rw [List.singleton_append, readBody?.eq_4 _ _ (fun _ _ slash => absurd slash plain.1)
          plain.2, ih, Option.map_some]

theorem unescape_escaped (chars : List Char) : unescape (chars.flatMap escapeChar) = chars := by
  induction chars with
  | nil => rfl
  | cons c rest ih =>
      rw [List.flatMap_cons, escapeChar]
      split
      · rw [List.cons_append, List.singleton_append, unescape, ih]
      · rename_i plain
        simp only [Bool.or_eq_true, decide_eq_true_eq, not_or] at plain
        rw [List.singleton_append, unescape.eq_3 _ _ (fun _ _ slash => absurd slash plain.1), ih]

theorem toList_quoteText (s : String) :
    (quoteText s).toList = '\'' :: s.toList.flatMap escapeChar ++ ['\''] := by
  rw [quoteText, String.toList_ofList]

/-- The literal of a text is read to its end, whatever follows. -/
theorem readText?_quoteText (s : String) (after : List Char) :
    readText? ((quoteText s).toList ++ after) = some (s, after) := by
  have body := readBody?_escaped s.toList after
  rw [toList_quoteText, List.cons_append, List.cons_append, List.append_assoc,
    List.singleton_append, readText?, body]
  simp

/-! ## Lists of texts -/

theorem readBody?_shorter {read : List Char} (found : readBody? chars = some (read, after)) :
    after.length < chars.length := by
  fun_induction readBody? chars generalizing read with
  | case1 => cases found
  | case2 c rest ih =>
      obtain ⟨⟨_, _⟩, inner, same⟩ := Option.map_eq_some_iff.mp found
      obtain ⟨-, rfl⟩ := Prod.mk.inj same
      have := ih inner
      simp only [List.length_cons]
      omega
  | case3 rest =>
      obtain ⟨-, rfl⟩ := Prod.mk.inj (Option.some.inj found)
      exact Nat.lt_succ_self _
  | case4 c rest _ _ ih =>
      obtain ⟨⟨_, _⟩, inner, same⟩ := Option.map_eq_some_iff.mp found
      obtain ⟨-, rfl⟩ := Prod.mk.inj same
      exact Nat.lt_succ_of_lt (ih inner)

theorem readText?_shorter (found : readText? chars = some (s, after)) :
    after.length < chars.length := by
  rw [readText?.eq_def] at found
  split at found
  · obtain ⟨⟨_, _⟩, inner, same⟩ := Option.map_eq_some_iff.mp found
    obtain ⟨-, rfl⟩ := Prod.mk.inj same
    exact Nat.lt_succ_of_lt (readBody?_shorter inner)
  · cases found

/-- Reads texts in quotes, with a comma and a blank between them, up to the closing bracket. -/
def readTexts? (chars : List Char) : Option (List String × List Char) :=
  match found : readText? chars with
  | some (s, ')' :: rest) => some ([s], rest)
  | some (s, ',' :: ' ' :: rest) =>
    have : rest.length < chars.length := by
      have shorter := readText?_shorter found
      simp only [List.length_cons] at shorter
      omega
    (readTexts? rest).map fun (others, after) => (s :: others, after)
  | _ => none
termination_by chars.length

/-- Reading texts one after the other. -/
theorem readTexts?_last (last : readText? chars = some (s, ')' :: after)) :
    readTexts? chars = some ([s], after) := by
  rw [readTexts?]
  split <;> simp_all

theorem readTexts?_next (next : readText? chars = some (s, ',' :: ' ' :: after)) :
    readTexts? chars = (readTexts? after).map fun (others, after) => (s :: others, after) := by
  rw [readTexts?]
  split <;> simp_all

/-- The texts of a list in brackets are read back. -/
theorem readTexts?_literals {values : List String} (some : values ≠ []) (after : List Char) :
    readTexts? ((join ", " (values.map quoteText)).toList ++ ')' :: after) =
      Option.some (values, after) := by
  have mark : ", ".toList = [',', ' '] := rfl
  rw [toList_join, mark]
  induction values with
  | nil => exact absurd rfl some
  | cons s rest ih => cases rest with
    | nil =>
        rw [List.map_singleton, List.map_singleton, List.intercalate_singleton]
        exact readTexts?_last (readText?_quoteText s _)
    | cons t others =>
        have later := ih (List.cons_ne_nil t others)
        simp only [List.map_cons, List.intercalate_cons_cons, List.append_assoc, List.cons_append,
          List.nil_append] at later ⊢
        rw [readTexts?_next (readText?_quoteText s _), later, Option.map_some]

end Literal

/-! ## Conditions -/

namespace ClickHouse

/-- Compares a column with some texts: it is one of them, or none. -/
def amongst (kept : Bool) (column : Value) (values : List String) : QueryStep :=
  match kept with
  | true => .filterIn column (values.map .text)
  | false => .filterOut column (values.map .text)

def conditions (q : Query) : List String := q.steps.filterMap condition?

/-- The literals of a list up to the closing bracket. -/
def listing (values : List String) : List Char :=
  (join ", " (values.map Literal.quoteText)).toList ++ [')']

/-- What stands in front of the literals. -/
def opening (kept : Bool) (column : Value) : List Char :=
  column.toText.toList ++ (if kept then " IN (" else " NOT IN (").toList

theorem condition?_amongst {values : List String} (some : values ≠ []) (kept : Bool)
    (column : Value) : condition? (amongst kept column values) =
      Option.some (String.ofList (opening kept column ++ listing values)) := by
  have filled : (values.map Value.text).isEmpty = false := by simpa using some
  have written : literals (values.map .text) = "(" ++ join ", " (values.map Literal.quoteText) ++
      ")" := by
    rw [literals, List.map_map]
    rfl
  have texts : (column.toText ++ (if kept then " IN " else " NOT IN ") ++
      literals (values.map .text)).toList = opening kept column ++ listing values := by
    cases kept <;> simp [written, opening, listing]
  rw [← texts, String.ofList_toList]
  cases kept with
  | true =>
      rw [amongst, condition?, filled]
      rfl
  | false =>
      rw [amongst, condition?, filled]
      rfl

theorem readTexts?_listing {values : List String} (some : values ≠ []) :
    Literal.readTexts? (listing values) = Option.some (values, []) :=
  Literal.readTexts?_literals some []

/-- A condition tells the texts that the column is compared with. -/
theorem amongst_injective {kept : Bool} {column : Value} {values others : List String}
    (some : values ≠ [])
    (same : condition? (amongst kept column others) = condition? (amongst kept column values)) :
    others = values := by
  rw [condition?_amongst some] at same
  by_cases none : others = []
  · -- Without texts the condition has no closing bracket, or there is none.
    subst none
    cases kept with
    | false => cases same
    | true =>
        have ends := congrArg (fun c : Option String => c.bind (·.toList.getLast?)) same
        simp [amongst, condition?, listing] at ends
  · rw [condition?_amongst none, Option.some.injEq, String.ofList_inj, List.append_cancel_left_eq]
      at same
    have read := readTexts?_listing none
    rw [same, readTexts?_listing some] at read
    exact (Prod.mk.inj (Option.some.inj read)).1.symm

/-- A text is read back from its literal, which ends for the scan where it ends, and a list of texts
from the condition that compares a column with it. -/
theorem conditions_read_back {q : Query} (spoken : q.driver.backend = .clickhouse) (kept : Bool)
    (column : Value) {values : List String} (some : values ≠ []) :
    (∀ s, ∃ body, (Literal.clickhouse (.text s)).toList = '\'' :: body ++ ['\''] ∧
      body = Literal.escaped '\'' (Literal.escaped '\\' s.toList) ∧
      Literal.unescape body = s.toList ∧
      ∀ after, Literal.readText? ((Literal.clickhouse (.text s)).toList ++ after) =
        Option.some (s, after)) ∧
    ∃ q' condition listed, q.take (amongst kept column values) = (.ok (), q') ∧
      conditions q' = conditions q ++ [condition] ∧
      condition.toList = opening kept column ++ listed ∧
      Literal.readTexts? listed = Option.some (values, []) ∧
      ∀ others, condition? (amongst kept column others) = Option.some condition →
        others = values := by
  refine ⟨fun s => ⟨s.toList.flatMap Literal.escapeChar, Literal.toList_quoteText s,
    Literal.flatMap_escapeChar s.toList, Literal.unescape_escaped s.toList,
    Literal.readText?_quoteText s⟩, ?_⟩
  have condition := condition?_amongst some kept column
  refine ⟨q.push (amongst kept column values), _, listing values, ?_, ?_, String.toList_ofList,
    readTexts?_listing some, fun others same => amongst_injective some (same.trans condition.symm)⟩
  · have checked : q.check (amongst kept column values) = .ok () := by
      rw [Query.check, spoken]
      cases kept <;> rfl
    rw [Query.take, checked]
  · rw [conditions, conditions, Query.push, List.filterMap_append, List.filterMap_cons, condition,
      List.filterMap_nil]

def events : Query := .blank ⟨"main", "main", .clickhouse, .clickhouse, .bool true, .bool true⟩

theorem conditions_read_back_events :
    events.driver.backend = .clickhouse ∧ ["it's", "', '", "\\", "\\'"] ≠ [] ∧
    ∃ q' condition listed,
      events.take (amongst false "events.name" ["it's", "', '", "\\", "\\'"]) = (.ok (), q') ∧
      conditions q' = [condition] ∧
      condition.toList = opening false "events.name" ++ listed ∧
      Literal.readTexts? listed = some (["it's", "', '", "\\", "\\'"], []) ∧
      ∀ others, condition? (amongst false "events.name" others) = some condition →
        others = ["it's", "', '", "\\", "\\'"] := by
  have some : ["it's", "', '", "\\", "\\'"] ≠ [] := by decide
  exact ⟨rfl, some, (conditions_read_back (q := events) rfl false "events.name" some).2⟩

end ClickHouse
end Datacube.Query
