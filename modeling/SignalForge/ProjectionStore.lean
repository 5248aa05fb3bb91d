import Mathlib.Data.List.Lex
import Mathlib.Data.List.Sort
import Mathlib.Data.String.Basic
import SignalForge.Call
import SignalForge.Datetime
import SignalForge.OrderedDict
import SignalForge.SortedSet
import SignalForge.Text

/-! The in-memory store behind the dashboard projections, and the JSON text in which they keep
sets of identifiers. -/

set_option autoImplicit false

namespace SignalForge

namespace JsonArray

/-! The JSON arrays the projections write and read back: strings of characters that need no
escape, as the texts of UUIDs are. -/

def quote (text : Str) : Str := '"' :: text ++ ['"']

/-- The items after an opening bracket, and the closing bracket. -/
def body : List Str → Str
  | [] => [']']
  | [last] => quote last ++ [']']
  | text :: rest => quote text ++ [',', ' '] ++ body rest

/-- `json.dumps(items)`. -/
def dumps (items : List Str) : String := String.ofList ('[' :: body items)

/-- What a reader of an array is in the middle of. -/
inductive Reading where
  | item
  | within (read : Str)
  | between

def read : Reading → Str → Option (List Str)
  | .item, '"' :: rest => read (.within []) rest
  | .within text, c :: rest =>
      if c = '"' then (read .between rest).map (text.reverse :: ·)
      else if c = '\\' ∨ c.toNat < 32 then none
      else read (.within (c :: text)) rest
  | .between, [']'] => some []
  | .between, ',' :: ' ' :: rest => read .item rest
  | _, _ => none

/-- `json.loads(raw)`, where it is such an array. -/
def loads (raw : String) : Except Raised (List Str) :=
  match raw.toList with
  | ['[', ']'] => .ok []
  | '[' :: rest =>
      match read .item rest with
      | some items => .ok items
      | none => .error (.valueError "Expecting value")
  | _ => .error (.valueError "Expecting value")

/-- The text stands in a JSON string as it is. -/
def Plain (text : Str) : Prop := ∀ c ∈ text, c ≠ '"' ∧ c ≠ '\\' ∧ 32 ≤ c.toNat

theorem read_within {text : Str} (plain : Plain text) (done rest : Str) :
    read (.within done) (text ++ '"' :: rest) =
      (read .between rest).map ((done.reverse ++ text) :: ·) := by
  induction text generalizing done with
  | nil => rw [List.nil_append, read, if_pos rfl, List.append_nil]
  | cons c text ih =>
      obtain ⟨⟨noQuote, noEscape, printable⟩, later⟩ := List.forall_mem_cons.mp plain
      have kept : ¬ (c = '\\' ∨ c.toNat < 32) := by
        rintro (escape | control)
        · exact noEscape escape
        · omega
      rw [List.cons_append, read, if_neg noQuote, if_neg kept, ih later]
      simp only [List.reverse_cons, List.append_assoc, List.cons_append, List.nil_append]

theorem read_quote {text : Str} (plain : Plain text) (rest : Str) :
    read .item (quote text ++ rest) = (read .between rest).map (text :: ·) := by
  have opened : quote text ++ rest = '"' :: (text ++ '"' :: rest) := by
    simp only [quote, List.cons_append, List.append_assoc, List.nil_append]
  rw [opened, read, read_within plain]
  rfl

theorem read_body {items : List Str} (plain : ∀ text ∈ items, Plain text) (nonempty : items ≠ []) :
    read .item (body items) = some items := by
  induction items with
  | nil => exact absurd rfl nonempty
  | cons text rest ih =>
      obtain ⟨here, later⟩ := List.forall_mem_cons.mp plain
      cases rest with
      | nil =>
          rw [body, read_quote here]
          rfl
      | cons next rest =>
          have more : body (text :: next :: rest) = quote text ++ (',' :: ' ' :: body (next :: rest)) := by
            rw [body, List.append_assoc]
            · rfl
            · exact List.cons_ne_nil _ _
          rw [more, read_quote here, read, ih later (List.cons_ne_nil _ _)]
          rfl

/-- What was written is what is read back. -/
theorem loads_dumps {items : List Str} (plain : ∀ text ∈ items, Plain text) :
    loads (dumps items) = .ok items := by
  rw [loads, dumps, String.toList_ofList]
  cases items with
  | nil => rfl
  | cons text rest =>
      have opens : ∃ after, body (text :: rest) = '"' :: after := by
        cases rest with
        | nil => exact ⟨_, rfl⟩
        | cons next rest => exact ⟨_, rfl⟩
      have reads := read_body plain (List.cons_ne_nil _ _)
      obtain ⟨after, opens⟩ := opens
      rw [opens] at reads ⊢
      have parsed : (match read .item ('"' :: after) with
          | some items => (.ok items : Except Raised (List Str))
          | none => .error (.valueError "Expecting value")) = .ok (text :: rest) := by rw [reads]
      exact parsed

end JsonArray

/-- Values by view and key. -/
abbrev ProjectionStore : Type := OrderedDict String (OrderedDict String String)

namespace ProjectionStore

def get (store : ProjectionStore) (view key : String) : Option String :=
  ((store.get? view).getD .empty).get? key

def put (store : ProjectionStore) (view key value : String) : ProjectionStore :=
  store.modify view .empty (·.set key value)

def delete (store : ProjectionStore) (view key : String) : ProjectionStore :=
  match store.get? view with
  | none => store
  | some held => store.set view (held.erase key)

/-- The keys of a view, sorted. -/
def keys (store : ProjectionStore) (view : String) : List String :=
  ((store.get? view).getD .empty).keys.insertionSort (· ≤ ·)

theorem get_put (store : ProjectionStore) (view key value otherView other : String) :
    (store.put view key value).get otherView other =
      if otherView = view ∧ other = key then some value else store.get otherView other := by
  rw [get, put, OrderedDict.get?_modify]
  by_cases sameView : otherView = view
  · subst sameView
    simp only [↓reduceIte, Option.getD_some, OrderedDict.get?_set, true_and, get]
  · simp only [sameView, ↓reduceIte, false_and, get]

theorem get_delete (store : ProjectionStore) (view key otherView other : String) :
    (store.delete view key).get otherView other =
      if otherView = view ∧ other = key then none else store.get otherView other := by
  rw [delete]
  split
  · rename_i absent
    split
    · rename_i same
      rw [get, same.1, absent]
      rfl
    · rfl
  · rename_i held found
    rw [get, OrderedDict.get?_set]
    by_cases sameView : otherView = view
    · subst sameView
      simp only [↓reduceIte, Option.getD_some, OrderedDict.get?_erase, true_and, get, found]
    · simp only [sameView, ↓reduceIte, false_and, get]

theorem mem_keys (store : ProjectionStore) (view key : String) :
    key ∈ store.keys view ↔ (store.get view key).isSome := by
  rw [keys, (List.perm_insertionSort _ _).mem_iff, OrderedDict.mem_keys_iff, get]

theorem keys_ascending (store : ProjectionStore) (view : String) :
    (store.keys view).Pairwise (· ≤ ·) := List.pairwise_insertionSort _ _

theorem keys_nodup (store : ProjectionStore) (view : String) : (store.keys view).Nodup :=
  (List.perm_insertionSort _ _).nodup_iff.mpr (OrderedDict.keys_nodup _)

/-- The keys of a view are the ascending list of what the view holds. -/
theorem keys_eq {store : ProjectionStore} {view : String} {listed : List String}
    (ascending : listed.Pairwise (· ≤ ·)) (distinct : listed.Nodup)
    (holds : ∀ key, key ∈ listed ↔ (store.get view key).isSome) : store.keys view = listed := by
  have antisymmetric : ∀ a b, a ∈ store.keys view → b ∈ listed → a ≤ b → b ≤ a → a = b :=
    fun a b _ _ forward backward => le_antisymm forward backward
  apply List.Perm.eq_of_pairwise antisymmetric (store.keys_ascending view) ascending
  apply (List.perm_ext_iff_of_nodup (store.keys_nodup view) distinct).mpr
  intro key
  rw [mem_keys, holds]

end ProjectionStore

end SignalForge
