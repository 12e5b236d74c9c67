import Datacube.Cache.Basic
import Datacube.Proofs.Json.RoundTrip
import Datacube.Proofs.Outcome
import Datacube.Proofs.Text.Pattern

/-!
# A shared cache in place of a local one

A shared cache keeps the texts of the documents that a local one keeps, under the same keys after
its tag. So both answer alike, where the pattern of its keys finds them, except that a shared cache
that is switched off shows no documents.
-/

namespace Datacube

namespace Entries
variable {α β γ δ : Type}

/-- Entries under other keys and with other values. -/
def rekey (f : α → β) (g : γ → δ) (entries : Entries α γ) : Entries β δ :=
  entries.map fun e => (f e.1, g e.2)

variable [BEq α] {entries : Entries α γ} {keys : List α}

theorem foldl_erase : keys.foldl erase entries =
    entries.filter fun e => keys.all fun key => !(key == e.1) := by
  induction keys generalizing entries with
  | nil => exact (List.filter_true entries).symm
  | cons key rest ih => simp [ih, erase, List.filter_filter, Bool.and_comm]

theorem foldl_erase_keys [ReflBEq α] : entries.keys.foldl erase entries = [] := by
  rw [foldl_erase, List.filter_eq_nil_iff]
  intro e member kept
  have apart := List.all_eq_true.mp kept e.1 (List.mem_map_of_mem member)
  simp at apart

variable [BEq β] {f : α → β} {g : γ → δ} {key : α} {value : γ}
  (same : ∀ a b, (f a == f b) = (a == b))
include same

omit [BEq α] [BEq β] same in
theorem keys_rekey : (entries.rekey f g).keys = entries.keys.map f := by
  simp [rekey, keys, Function.comp_def]

theorem get?_rekey : (entries.rekey f g).get? (f key) = (entries.get? key).map g := by
  induction entries with
  | nil => rfl
  | cons e rest ih =>
      rw [rekey, List.map_cons, get?_cons, get?_cons, same]
      split
      · rfl
      · exact ih

theorem has_rekey : (entries.rekey f g).has (f key) = entries.has key := by
  rw [has, has, get?_rekey same, Option.isSome_map]

theorem put_rekey : (entries.rekey f g).put (f key) (g value) =
    (entries.put key value).rekey f g := by
  induction entries with
  | nil => rfl
  | cons e rest ih =>
      rw [rekey, List.map_cons, put, put, same]
      split
      · rfl
      · exact congrArg _ ih

theorem erase_rekey : (entries.rekey f g).erase (f key) = (entries.erase key).rekey f g := by
  rw [erase, erase, rekey, rekey, List.filter_map]
  simp only [Function.comp_def, same]

end Entries

namespace Cache
open Text

/-! ## Operations -/

/-- What can be asked of a cache. -/
inductive Operation where
  | put (key : String) (document : Value)
  | get (key : String)
  | has (key : String)
  | forget (key : String)
  | flush
  | enable
  | disable
  | isEnabled
  | all
  | size

inductive Answer where
  | done
  | document (v : Value)
  | flag (b : Bool)
  | documents (entries : Entries Value Value)
  | count (n : Nat)

/-- What an operation answers, and whether the cache was switched on. -/
structure Reply where
  enabled : Bool
  answer : Answer

def perform (c : Cache) : Operation → Outcome (Answer × Cache)
  | .put key document => .ok (.done, c.put (.text key) document)
  | .get key => do return (.document (← c.get (.text key)), c)
  | .has key => .ok (.flag (c.has (.text key)), c)
  | .forget key => do return (.done, ← c.forget (.text key))
  | .flush => do return (.done, ← c.flush)
  | .enable => .ok (.done, { c with enabled := true })
  | .disable => .ok (.done, { c with enabled := false })
  | .isEnabled => .ok (.flag c.enabled, c)
  | .all => do return (.documents (← c.all), c)
  | .size => do return (.count (← c.size), c)

/-- What operations answer in turn. -/
def replies (c : Cache) : List Operation → Outcome (List Reply)
  | [] => .ok []
  | o :: rest => do
    let (answer, next) ← c.perform o
    return ⟨c.enabled, answer⟩ :: (← next.replies rest)

/-- Whatever the operation puts is a JSON object. -/
def Operation.Plain : Operation → Prop
  | .put _ document => document.isJson = true ∧ ∃ fields, document = .object fields
  | _ => True

/-- The answer without the documents that it shows. -/
def Answer.veiled : Answer → Answer
  | .documents _ => .documents []
  | answer => answer

/-- The reply of a cache that shows no documents while it is switched off. -/
def Reply.veiled (r : Reply) : Reply :=
  ⟨r.enabled, if r.enabled then r.answer else r.answer.veiled⟩

/-! ## What a cache holds -/

/-- Documents by key, whatever they are kept in. -/
structure Contents where
  enabled : Bool
  documents : Entries String Value

namespace Contents
variable {c : Contents} {tag : String} {o : Operation} {operations : List Operation}

def own (c : Contents) : Cache := ⟨c.enabled, .own (c.documents.rekey .text id)⟩

/-- What a store keeps of a document without a lifetime. -/
def lasting (v : Value) : String × Option Value := (v.json, none)

/-- The texts of the documents, under a tag, in a store that holds nothing else. -/
def store (c : Contents) (tag : String) : SharedStore :=
  ⟨c.documents.rekey (tag ++ ·) lasting, true⟩

def shared (c : Contents) (tag : String) : Cache := ⟨c.enabled, .shared (c.store tag) tag none⟩

def next (c : Contents) : Operation → Contents
  | .put key document =>
    if c.enabled then { c with documents := c.documents.put key document } else c
  | .forget key => { c with documents := c.documents.erase key }
  | .flush => { c with documents := [] }
  | .enable => { c with enabled := true }
  | .disable => { c with enabled := false }
  | .get _ | .has _ | .isEnabled | .all | .size => c

def answer (c : Contents) : Operation → Answer
  | .put .. | .forget _ | .flush | .enable | .disable => .done
  | .get key => .document (if c.enabled then (c.documents.get? key).getD .null else .null)
  | .has key => .flag (c.enabled && c.documents.has key)
  | .isEnabled => .flag c.enabled
  | .all => .documents (c.documents.rekey .text id)
  | .size => .count c.documents.length

/-- How a local cache replies. -/
def reply (c : Contents) (o : Operation) : Reply := ⟨c.enabled, c.answer o⟩

def run (c : Contents) : List Operation → List Reply
  | [] => []
  | o :: rest => c.reply o :: (c.next o).run rest

theorem same_text (a b : String) : (Value.text a == Value.text b) = (a == b) := rfl

theorem same_tagged (tag a b : String) : (tag ++ a == tag ++ b) = (a == b) := by
  rw [Bool.eq_iff_iff, beq_iff_eq, beq_iff_eq, String.append_right_inj]

/-! ## Locally -/

theorem perform_own (c : Contents) (o : Operation) :
    c.own.perform o = .ok (c.answer o, (c.next o).own) := by
  cases o with
  | put key document =>
      have put : (c.documents.rekey Value.text id).put (.text key) document =
          (c.documents.put key document).rekey Value.text id := Entries.put_rekey same_text
      cases on : c.enabled <;> simp [perform, Cache.put, own, answer, Contents.next, on, put]
  | get key =>
      have get : (c.documents.rekey Value.text id).get? (.text key) = c.documents.get? key := by
        rw [Entries.get?_rekey same_text, Option.map_id, id]
      cases on : c.enabled <;>
        simp [perform, Cache.get, own, answer, Contents.next, on, get, bind, Except.bind, pure,
          Except.pure]
  | has key =>
      have has : (c.documents.rekey Value.text id).has (.text key) = c.documents.has key :=
        Entries.has_rekey same_text
      simp [perform, Cache.has, own, answer, Contents.next, has]
  | forget key =>
      have erase : (c.documents.rekey Value.text id).erase (.text key) =
          (c.documents.erase key).rekey Value.text id := Entries.erase_rekey same_text
      simp [perform, Cache.forget, own, answer, Contents.next, erase, bind, Except.bind, pure,
        Except.pure]
  | size =>
      simp [perform, Cache.size, own, answer, Contents.next, Entries.rekey, bind, Except.bind, pure,
        Except.pure]
  | flush | enable | disable | isEnabled | all => rfl

theorem replies_own (c : Contents) (operations : List Operation) :
    c.own.replies operations = .ok (c.run operations) := by
  induction operations generalizing c with
  | nil => rfl
  | cons o rest ih =>
      rw [replies, perform_own]
      simp only [bind, Except.bind, ih, pure, Except.pure]
      rfl

/-! ## In a shared store -/

/-- Keys are told apart and documents are JSON objects. -/
structure Kept (c : Contents) : Prop where
  distinct : c.documents.keys.Nodup
  plain : ∀ e ∈ c.documents, e.2.isJson = true ∧ ∃ fields, e.2 = .object fields

theorem kept_nothing (enabled : Bool) : Kept ⟨enabled, []⟩ :=
  ⟨List.nodup_nil, fun _ member => absurd member List.not_mem_nil⟩

theorem Kept.next (kept : c.Kept) (plain : o.Plain) : (c.next o).Kept := by
  have exact (key : String) : Entries.Exact key := Entries.exact_of_lawful key
  cases o with
  | put key document =>
      rw [Contents.next]
      split
      · refine ⟨Entries.nodup_keys_put (exact key) kept.distinct, fun e member => ?_⟩
        rcases Entries.mem_put (exact key) member with rfl | old
        · exact plain
        · exact kept.plain e old
      · exact kept
  | forget key =>
      exact ⟨kept.distinct.sublist (List.filter_sublist.map Prod.fst), fun e member =>
        kept.plain e (List.mem_of_mem_filter member)⟩
  | flush => exact kept_nothing c.enabled
  | enable | disable => exact ⟨kept.distinct, kept.plain⟩
  | get | has | isEnabled | all | size => exact kept

theorem veiled_reply (plain : (c.answer o).veiled = c.answer o) :
    (c.reply o).veiled.answer = c.answer o := by
  simp [reply, Reply.veiled, plain]

theorem get_shared (kept : c.Kept) (key : String) : (c.shared tag).get (.text key) =
    .ok (if c.enabled then (c.documents.get? key).getD .null else .null) := by
  have stored : (c.documents.rekey (tag ++ ·) lasting).get? (tag ++ key) =
      (c.documents.get? key).map lasting := Entries.get?_rekey (same_tagged tag)
  cases on : c.enabled with
  | false => simp [shared, Cache.get, on]
  | true =>
      simp only [shared, Cache.get, store, on, Value.toText, stored, Bool.not_true,
        Bool.false_eq_true, if_false, if_true]
      cases here : c.documents.get? key with
      | none => rfl
      | some document =>
          have member := Entries.mem_of_get? (Entries.exact_of_lawful key) here
          have back : Value.ofJson? document.json = some document :=
            Json.ofJson?_json (kept.plain _ member).1
          simp [lasting, readText, back]

/-- Reading under every key: the tag is cut off again. -/
theorem reads_keys (kept : c.Kept) :
    (c.documents.keys.map (tag ++ ·)).mapM (fun full => do
      let key : Value := .text (String.ofList (full.toList.drop tag.length))
      return (key, ← (c.shared tag).get key)) =
    .ok (c.documents.map fun e => (.text e.1, if c.enabled then e.2 else .null)) := by
  -- keys differ, so each of them leads back to its own document
  have cut (key : String) : String.ofList ((tag ++ key).toList.drop tag.length) = key := by
    rw [String.toList_append, String.length, List.drop_left, String.ofList_toList]
  rw [Outcome.mapM_eq_ok, Entries.keys, List.map_map, List.forall₂_map_left_iff,
    List.forall₂_map_right_iff, List.forall₂_same]
  intro e member
  have here : c.documents.get? e.1 = some e.2 :=
    Entries.get?_of_mem (Entries.exact_of_lawful e.1) kept.distinct member
  simp only [Function.comp_def, cut, get_shared kept, here]
  rfl

/-- No object is null: of what is read, all or nothing counts as found. -/
theorem shown (c : Contents) (kept : c.Kept) :
    Entries.ofPairs ((c.documents.map fun e =>
      (Value.text e.1, if c.enabled then e.2 else .null)).filter fun e => !e.2.isNull) =
    if c.enabled then c.documents.rekey .text id else [] := by
  cases c.enabled with
  | false =>
      have none : (c.documents.map fun e => (Value.text e.1, Value.null)).filter
          (fun e => !e.2.isNull) = [] := by
        rw [List.filter_eq_nil_iff]
        intro e member
        obtain ⟨_, -, rfl⟩ := List.mem_map.mp member
        simp [Value.isNull]
      simp [none, Entries.ofPairs, Entries.putAll]
  | true =>
      have every : (c.documents.rekey Value.text id).filter (fun e => !e.2.isNull) =
          c.documents.rekey Value.text id := by
        rw [List.filter_eq_self]
        intro e member
        obtain ⟨listed, here, rfl⟩ := List.mem_map.mp member
        obtain ⟨-, fields, object⟩ := kept.plain listed here
        simp [object, Value.isNull]
      have distinct : (c.documents.rekey Value.text id).keys.Nodup := by
        rw [Entries.keys_rekey]
        exact kept.distinct.map fun a b => Value.text.inj
      have exact : ∀ e ∈ c.documents.rekey Value.text id, Entries.Exact e.1 := by
        intro e member
        obtain ⟨listed, -, rfl⟩ := List.mem_map.mp member
        exact Entries.exact_text listed.1
      rw [if_pos rfl]
      exact (congrArg Entries.ofPairs every).trans (Entries.ofPairs_of_nodup exact distinct)

section Found
variable (found : ∀ key, fits (tag ++ "*") (tag ++ key) = true)
include found -- a tag with a closed bracket is read as a pattern itself

theorem ownKeys_store : ownKeys (c.store tag) tag = .ok (c.documents.keys.map (tag ++ ·)) := by
  have all : (c.documents.keys.map (tag ++ ·)).filter (fits (tag ++ "*")) =
      c.documents.keys.map (tag ++ ·) := by
    rw [List.filter_eq_self]
    intro full member
    obtain ⟨key, -, rfl⟩ := List.mem_map.mp member
    exact found key
  have keys : (c.documents.rekey (tag ++ ·) lasting).keys = c.documents.keys.map (tag ++ ·) :=
    Entries.keys_rekey
  exact congrArg Except.ok (keys ▸ all)

theorem all_shared (kept : c.Kept) :
    (c.shared tag).all = .ok (if c.enabled then c.documents.rekey .text id else []) := by
  rw [shared, Cache.all, ← c.shown kept]
  exact Outcome.bind_eq_ok.mpr ⟨_, ownKeys_store found,
    Outcome.bind_eq_ok.mpr ⟨_, reads_keys kept, rfl⟩⟩

theorem flush_shared : (c.shared tag).flush = .ok ((c.next .flush).shared tag) := by
  have emptied : (c.store tag).remove (c.documents.keys.map (tag ++ ·)) = ⟨[], true⟩ := by
    have keys : c.documents.keys.map (tag ++ ·) = (c.documents.rekey (tag ++ ·) lasting).keys :=
      Entries.keys_rekey.symm
    rw [SharedStore.remove, store, keys, Entries.foldl_erase_keys]
  rw [shared, Cache.flush]
  simp only [ownKeys_store found, bind, Except.bind, emptied, pure, Except.pure]
  rfl

theorem perform_shared (kept : c.Kept) (o : Operation) :
    (c.shared tag).perform o = .ok ((c.reply o).veiled.answer, (c.next o).shared tag) := by
  -- only the answer to `all` has documents to be veiled
  cases o with
  | put key document =>
      have put : (c.documents.rekey (tag ++ ·) lasting).put (tag ++ key) (lasting document) =
          (c.documents.put key document).rekey (tag ++ ·) lasting :=
        Entries.put_rekey (same_tagged tag)
      rw [lasting] at put
      rw [veiled_reply rfl]
      cases on : c.enabled <;>
        simp [perform, Cache.put, shared, store, answer, Contents.next, on, Value.toText, put]
  | get key =>
      rw [veiled_reply rfl, perform, get_shared kept]
      rfl
  | has key =>
      have has : (c.documents.rekey (tag ++ ·) lasting).has (tag ++ key) = c.documents.has key :=
        Entries.has_rekey (same_tagged tag)
      rw [veiled_reply rfl]
      simp [perform, Cache.has, shared, store, answer, Contents.next, Value.toText, has]
  | forget key =>
      have erase : (c.documents.rekey (tag ++ ·) lasting).erase (tag ++ key) =
          (c.documents.erase key).rekey (tag ++ ·) lasting := Entries.erase_rekey (same_tagged tag)
      rw [veiled_reply rfl]
      simp [perform, Cache.forget, shared, store, SharedStore.reach, SharedStore.remove, answer,
        Contents.next, Value.toText, erase, bind, Except.bind, pure, Except.pure]
  | flush =>
      rw [veiled_reply rfl, perform, flush_shared found]
      rfl
  | all =>
      rw [perform, all_shared found kept, reply, Reply.veiled]
      cases c.enabled <;> rfl
  | size =>
      have length : (c.documents.keys.map (tag ++ ·)).length = c.documents.length := by
        rw [List.length_map, Entries.keys, List.length_map]
      rw [veiled_reply rfl, perform, shared, Cache.size]
      simp only [ownKeys_store found, bind, Except.bind, length, pure, Except.pure]
      rfl
  | enable | disable | isEnabled =>
      rw [veiled_reply rfl]
      rfl

theorem replies_shared (kept : c.Kept) (plain : ∀ o ∈ operations, o.Plain) :
    (c.shared tag).replies operations = .ok ((c.run operations).map Reply.veiled) := by
  induction operations generalizing c with
  | nil => rfl
  | cons o rest ih =>
      obtain ⟨here, later⟩ := List.forall_mem_cons.mp plain
      rw [replies, perform_shared found kept]
      simp only [bind, Except.bind, ih (kept.next here) later, pure, Except.pure]
      rfl

end Found

/-! ## Switched on throughout -/

theorem run_on (on : c.enabled = true) (stays : ∀ o ∈ operations, o ≠ .disable) :
    (c.run operations).map Reply.veiled = c.run operations := by
  induction operations generalizing c with
  | nil => rfl
  | cons o rest ih =>
      obtain ⟨here, later⟩ := List.forall_mem_cons.mp stays
      have shown : (c.reply o).veiled = c.reply o := by simp [Reply.veiled, reply, on]
      have next : (c.next o).enabled = true := by
        cases o with
        | put key document => simp [Contents.next, on]
        | disable => exact absurd rfl here
        | enable => rfl
        | _ => exact on
      rw [run, List.map_cons, shown, ih next later]

end Contents

/-! ## The same answers -/

section Answers
variable {enabled : Bool} {tag : String} {operations : List Operation}
  (plain : ∀ o ∈ operations, o.Plain)

include plain

theorem replies_sharing (found : ∀ key, fits (tag ++ "*") (tag ++ key) = true) :
    ∃ replies, (empty enabled).replies operations = .ok replies ∧
      (sharing enabled ⟨[], true⟩ tag none).replies operations = .ok (replies.map Reply.veiled) :=
  ⟨_, Contents.replies_own ⟨enabled, []⟩ operations,
    Contents.replies_shared found (Contents.kept_nothing enabled) plain⟩

/-- A shared cache under a tag without a closed bracket, until it is switched off. -/
theorem replies_sharing_on (unbracketed : Unbracketed tag.toList)
    (stays : ∀ o ∈ operations, o ≠ .disable) :
    (sharing true ⟨[], true⟩ tag none).replies operations = (empty true).replies operations := by
  have own := Contents.replies_own ⟨true, []⟩ operations
  have shared := Contents.replies_shared (fits_append unbracketed) (Contents.kept_nothing true)
    plain
  rw [Contents.run_on rfl stays] at shared
  exact shared.trans own.symm

end Answers

/-- A shared cache answers any operations as a local one does, except that it shows no documents
while it is switched off, exactly if the pattern of its keys finds every key. -/
theorem replies_sharing_iff (tag : String) :
    (∀ enabled operations, (∀ o ∈ operations, o.Plain) →
      ∃ replies, (empty enabled).replies operations = .ok replies ∧
        (sharing enabled ⟨[], true⟩ tag none).replies operations =
          .ok (replies.map Reply.veiled)) ↔
      ∀ key, fits (tag ++ "*") (tag ++ key) = true := by
  constructor
  · intro same key
    have plain : ∀ o ∈ [Operation.put key (.object []), .size], o.Plain := by
      simp [Operation.Plain, Value.isJson, Value.haveJson]
    -- what was put is counted if the pattern finds it
    obtain ⟨replies, own, shared⟩ := same true _ plain
    have counted : (sharing true ⟨[], true⟩ tag none).replies [.put key (.object []), .size] =
        .ok [⟨true, .done⟩, ⟨true, .count ([tag ++ key].filter (fits (tag ++ "*"))).length⟩] := rfl
    have one : (empty true).replies [.put key (.object []), .size] =
        .ok [⟨true, .done⟩, ⟨true, .count 1⟩] := rfl
    obtain rfl := Except.ok.inj (one.symm.trans own)
    have equal := Except.ok.inj (counted.symm.trans shared)
    cases fit : fits (tag ++ "*") (tag ++ key) with
    | true => rfl
    | false => simp [fit, Reply.veiled] at equal
  · intro found enabled operations plain
    exact replies_sharing plain found

/-- A cache that keeps a document, is switched off and has to show all documents. -/
def switchedOff : List Operation :=
  [.put "k" (.object [(.text "v", .int 1)]), .disable, .size, .all]

/-- A document that is counted but, in a shared cache, not shown. -/
theorem all_switched_off :
    (empty true).replies switchedOff = .ok [⟨true, .done⟩, ⟨true, .done⟩, ⟨false, .count 1⟩,
      ⟨false, .documents [(.text "k", .object [(.text "v", .int 1)])]⟩] ∧
    (sharing true ⟨[], true⟩ "slice:schema:" none).replies switchedOff =
      .ok [⟨true, .done⟩, ⟨true, .done⟩, ⟨false, .count 1⟩, ⟨false, .documents []⟩] := by
  constructor
  · rfl
  · rfl

/-- The pattern `[a]*` finds what begins with `a`, and no key under the tag `[a]` does. -/
theorem size_bracketed :
    (empty true).replies [.put "k" (.object []), .size] = .ok [⟨true, .done⟩, ⟨true, .count 1⟩] ∧
    (sharing true ⟨[], true⟩ "[a]" none).replies [.put "k" (.object []), .size] =
      .ok [⟨true, .done⟩, ⟨true, .count 0⟩] := by
  constructor
  · rfl
  · rfl

end Cache
end Datacube
