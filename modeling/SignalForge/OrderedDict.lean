import Mathlib.Data.List.Nodup

/-! Insertion-ordered dictionaries: a key keeps the position of its first insertion
until it is erased, as the dictionaries of the host language do. -/

set_option autoImplicit false

structure OrderedDict (κ ν : Type) where
  entries : List (κ × ν)
  nodup : (entries.map Prod.fst).Nodup
  deriving DecidableEq

namespace OrderedDict

variable {κ ν : Type} [DecidableEq κ]

def empty : OrderedDict κ ν := ⟨[], List.nodup_nil⟩

def keys (d : OrderedDict κ ν) : List κ := d.entries.map Prod.fst

def values (d : OrderedDict κ ν) : List ν := d.entries.map Prod.snd

def length (d : OrderedDict κ ν) : Nat := d.entries.length

def get? (d : OrderedDict κ ν) (key : κ) : Option ν := d.entries.lookup key

def contains (d : OrderedDict κ ν) (key : κ) : Bool := (d.get? key).isSome

/-- Overwriting keeps the entry's place. -/
def overwrite (entries : List (κ × ν)) (key : κ) (value : ν) : List (κ × ν) :=
  entries.map fun entry => if entry.1 = key then (key, value) else entry

theorem overwrite_keys (entries : List (κ × ν)) (key : κ) (value : ν) :
    (overwrite entries key value).map Prod.fst = entries.map Prod.fst := by
  simp only [overwrite, List.map_map]
  apply List.map_congr_left
  intro entry _
  simp only [Function.comp_apply]
  split
  · rename_i same
    exact same.symm
  · rfl

omit [DecidableEq κ] in
theorem append_nodup (entries : List (κ × ν)) (key : κ) (value : ν)
    (nodup : (entries.map Prod.fst).Nodup) (fresh : key ∉ entries.map Prod.fst) :
    ((entries ++ [(key, value)]).map Prod.fst).Nodup := by
  simp only [List.map_append, List.map_cons, List.map_nil]
  exact List.nodup_append.mpr ⟨nodup, List.nodup_singleton key, by
    intro other member found same
    simp only [List.mem_singleton] at same
    exact fun equal => fresh (by rwa [← same, ← equal])⟩

/-- `d[key] = value`. -/
def set (d : OrderedDict κ ν) (key : κ) (value : ν) : OrderedDict κ ν :=
  if fresh : key ∉ d.entries.map Prod.fst then
    ⟨d.entries ++ [(key, value)], append_nodup d.entries key value d.nodup fresh⟩
  else
    ⟨overwrite d.entries key value, by rw [overwrite_keys]; exact d.nodup⟩

/-- `d.pop(key, None)`, also `del d[key]` where the key is known to be present. -/
def erase (d : OrderedDict κ ν) (key : κ) : OrderedDict κ ν :=
  ⟨d.entries.filter fun entry => entry.1 ≠ key,
    d.nodup.sublist (List.filter_sublist.map Prod.fst)⟩

def mapValues {ν' : Type} (d : OrderedDict κ ν) (update : ν → ν') : OrderedDict κ ν' :=
  ⟨d.entries.map fun entry => (entry.1, update entry.2), by
    simp only [List.map_map]
    exact d.nodup⟩

/-- `d.setdefault(key, default)` with what it returns then updated. -/
def modify (d : OrderedDict κ ν) (key : κ) (default : ν) (update : ν → ν) : OrderedDict κ ν :=
  d.set key (update ((d.get? key).getD default))

@[simp] theorem get?_empty (key : κ) : (empty : OrderedDict κ ν).get? key = none := rfl

theorem mem_keys_iff (d : OrderedDict κ ν) (key : κ) :
    key ∈ d.keys ↔ (d.get? key).isSome := by
  simp only [keys, get?, List.lookup_isSome_iff, List.mem_map, beq_iff_eq]
  exact ⟨fun ⟨entry, member, same⟩ => ⟨entry, member, same.symm⟩,
    fun ⟨entry, member, same⟩ => ⟨entry, member, same.symm⟩⟩

theorem get?_eq_none_iff (d : OrderedDict κ ν) (key : κ) :
    d.get? key = none ↔ key ∉ d.keys := by
  rw [mem_keys_iff, Option.not_isSome_iff_eq_none]

theorem lookup_overwrite (entries : List (κ × ν)) (key other : κ) (value : ν) :
    (overwrite entries key value).lookup other =
      if other = key then (entries.lookup key).map fun _ => value else entries.lookup other := by
  induction entries with
  | nil => simp [overwrite]
  | cons entry rest ih =>
      obtain ⟨first, old⟩ := entry
      simp only [overwrite, List.map_cons] at ih ⊢
      by_cases here : first = key
      · by_cases same : other = key
        · simp [here, same]
        · have apart : (other == key) = false := by simpa using same
          simp only [here, ↓reduceIte, List.lookup_cons, apart, ih, same]
      · by_cases same : other = key
        · subst same
          have apart : (other == first) = false := by simpa using fun equal => here equal.symm
          simp only [here, ↓reduceIte, List.lookup_cons, apart] at ih ⊢
          exact ih
        · simp only [here, ↓reduceIte, List.lookup_cons, ih, same]

theorem get?_set (d : OrderedDict κ ν) (key other : κ) (value : ν) :
    (d.set key value).get? other = if other = key then some value else d.get? other := by
  unfold set
  split
  · rename_i fresh
    have absent : d.entries.lookup key = none := (get?_eq_none_iff d key).mpr fresh
    simp only [get?, List.lookup_append]
    by_cases same : other = key
    · simp [same, absent]
    · have apart : (other == key) = false := by simpa using same
      simp [same, List.lookup_cons, apart]
  · rename_i known
    have present := (mem_keys_iff d key).mp (not_not.mp known)
    simp only [get?, lookup_overwrite]
    split
    · obtain ⟨old, found⟩ := Option.isSome_iff_exists.mp present
      rw [get?] at found
      rw [found, Option.map_some]
    · rfl

@[simp] theorem get?_set_self (d : OrderedDict κ ν) (key : κ) (value : ν) :
    (d.set key value).get? key = some value := by
  simp only [get?_set, ↓reduceIte]

theorem get?_set_of_ne (d : OrderedDict κ ν) {key other : κ} (value : ν) (apart : other ≠ key) :
    (d.set key value).get? other = d.get? other := by
  simp only [get?_set, apart, ↓reduceIte]

theorem get?_erase (d : OrderedDict κ ν) (key other : κ) :
    (d.erase key).get? other = if other = key then none else d.get? other := by
  simp only [get?, erase]
  induction d.entries with
  | nil => simp
  | cons entry rest ih =>
      obtain ⟨first, old⟩ := entry
      by_cases here : first = key
      · rw [List.filter_cons_of_neg (by simpa using here), ih]
        by_cases same : other = key
        · simp only [same, ↓reduceIte]
        · have apart : (other == first) = false := by simpa [here] using same
          simp only [same, ↓reduceIte, List.lookup_cons, apart]
      · rw [List.filter_cons_of_pos (by simpa using here)]
        simp only [List.lookup_cons, ih]
        by_cases same : other = key
        · have apart : (key == first) = false := by simpa using fun equal => here equal.symm
          simp only [same, ↓reduceIte, apart]
        · simp only [same, ↓reduceIte]

@[simp] theorem get?_erase_self (d : OrderedDict κ ν) (key : κ) :
    (d.erase key).get? key = none := by
  simp only [get?_erase, ↓reduceIte]

theorem get?_erase_of_ne (d : OrderedDict κ ν) {key other : κ} (apart : other ≠ key) :
    (d.erase key).get? other = d.get? other := by
  simp only [get?_erase, apart, ↓reduceIte]

theorem mem_of_get? {d : OrderedDict κ ν} {key : κ} {value : ν}
    (found : d.get? key = some value) : (key, value) ∈ d.entries := by
  obtain ⟨front, back, split, _⟩ := List.lookup_eq_some_iff.mp found
  rw [split]
  exact List.mem_append_right front (List.mem_cons_self ..)

theorem lookup_of_mem {entries : List (κ × ν)} (nodup : (entries.map Prod.fst).Nodup)
    {key : κ} {value : ν} (member : (key, value) ∈ entries) :
    entries.lookup key = some value := by
  induction entries with
  | nil => cases member
  | cons entry rest ih =>
      obtain ⟨first, old⟩ := entry
      simp only [List.map_cons, List.nodup_cons] at nodup
      rcases List.mem_cons.mp member with same | later
      · obtain ⟨rfl, rfl⟩ := Prod.mk.injEq .. ▸ same
        simp
      · have apart : (key == first) = false := by
          simpa using fun equal : key = first =>
            nodup.1 (equal ▸ List.mem_map_of_mem later)
        simp only [List.lookup_cons, apart, ih nodup.2 later]

theorem get?_eq_some_iff (d : OrderedDict κ ν) (key : κ) (value : ν) :
    d.get? key = some value ↔ (key, value) ∈ d.entries :=
  ⟨mem_of_get?, lookup_of_mem d.nodup⟩

theorem mem_values_iff (d : OrderedDict κ ν) (value : ν) :
    value ∈ d.values ↔ ∃ key, d.get? key = some value := by
  simp only [values, List.mem_map, get?_eq_some_iff, Prod.exists, exists_eq_right]

/-- Writing a value that is already there changes nothing. -/
theorem set_of_get? (d : OrderedDict κ ν) {key : κ} {value : ν} (found : d.get? key = some value) :
    d.set key value = d := by
  have known : ¬ key ∉ d.entries.map Prod.fst :=
    not_not.mpr (List.mem_map_of_mem (mem_of_get? found))
  have unchanged : overwrite d.entries key value = d.entries := by
    unfold overwrite
    rw [List.map_congr_left (fun entry member => ?_), List.map_id]
    split
    · rename_i same
      have there := lookup_of_mem d.nodup member
      rw [same] at there
      exact Prod.ext same.symm (Option.some.inj (found.symm.trans there))
    · rfl
  unfold set
  rw [dif_neg known]
  obtain ⟨entries, nodup⟩ := d
  simp only [unchanged]

theorem eq_empty_of_get? (d : OrderedDict κ ν) (absent : ∀ key, d.get? key = none) : d = empty := by
  obtain ⟨entries, nodup⟩ := d
  cases entries with
  | nil => rfl
  | cons entry rest =>
      have found := absent entry.1
      simp [get?] at found

/-- A new key goes last. -/
theorem values_set_of_fresh (d : OrderedDict κ ν) {key : κ} (fresh : key ∉ d.keys) (value : ν) :
    (d.set key value).values = d.values ++ [value] := by
  have absent : key ∉ d.entries.map Prod.fst := fresh
  rw [values, set, dif_pos absent, List.map_append]
  rfl

/-- Erasing a present key shortens the dictionary, so a loop that pops terminates. -/
theorem length_erase_lt (d : OrderedDict κ ν) (key : κ) (present : (d.get? key).isSome) :
    (d.erase key).length < d.length := by
  obtain ⟨value, found⟩ := Option.isSome_iff_exists.mp present
  apply List.length_filter_lt_length_iff_exists.mpr
  exact ⟨(key, value), mem_of_get? found, by simp⟩

theorem get?_mapValues {ν' : Type} (d : OrderedDict κ ν) (update : ν → ν') (key : κ) :
    (d.mapValues update).get? key = (d.get? key).map update := by
  simp only [get?, mapValues]
  induction d.entries with
  | nil => rfl
  | cons entry rest ih =>
      obtain ⟨first, old⟩ := entry
      simp only [List.map_cons, List.lookup_cons, ih]
      split <;> rfl

omit [DecidableEq κ] in
theorem values_mapValues {ν' : Type} (d : OrderedDict κ ν) (update : ν → ν') :
    (d.mapValues update).values = d.values.map update := by
  simp only [values, mapValues, List.map_map]
  rfl

theorem get?_modify (d : OrderedDict κ ν) (key other : κ) (default : ν) (update : ν → ν) :
    (d.modify key default update).get? other =
      if other = key then some (update ((d.get? key).getD default)) else d.get? other :=
  get?_set d key other _

theorem mem_keys_set (d : OrderedDict κ ν) (key other : κ) (value : ν) :
    other ∈ (d.set key value).keys ↔ other = key ∨ other ∈ d.keys := by
  simp only [mem_keys_iff, get?_set]
  by_cases same : other = key
  · simp only [same, ↓reduceIte, Option.isSome_some, true_or]
  · simp only [same, ↓reduceIte, false_or]

/-- A key that is written goes last where it is new. -/
theorem keys_set (d : OrderedDict κ ν) (key : κ) (value : ν) :
    (d.set key value).keys = if key ∈ d.keys then d.keys else d.keys ++ [key] := by
  unfold set keys
  split
  · exact List.map_append
  · rename_i known
    rw [if_pos (not_not.mp known)]
    exact overwrite_keys d.entries key value

theorem keys_modify (d : OrderedDict κ ν) (key : κ) (default : ν) (update : ν → ν) :
    (d.modify key default update).keys = if key ∈ d.keys then d.keys else d.keys ++ [key] :=
  keys_set d key _

omit [DecidableEq κ] in
theorem keys_nodup (d : OrderedDict κ ν) : d.keys.Nodup := d.nodup

section Routed

variable {ρ : Type} (route : ρ → κ)

/-- Records added each under its own key: a key sees exactly those routed to it, in order. -/
theorem getD_foldl_modify (default : ν) (add : ν → ρ → ν) (records : List ρ)
    (d : OrderedDict κ ν) (key : κ) :
    ((records.foldl (fun d record => d.modify (route record) default (add · record)) d).get?
        key).getD default =
      (records.filter fun record => route record = key).foldl add ((d.get? key).getD default) := by
  induction records generalizing d with
  | nil => rfl
  | cons record rest ih =>
      rw [List.foldl_cons, ih, get?_modify]
      by_cases here : route record = key
      · rw [List.filter_cons_of_pos (by simpa using here), List.foldl_cons, if_pos here.symm,
          here]
        rfl
      · rw [List.filter_cons_of_neg (by simpa using here), if_neg fun same => here same.symm]

/-- Records grouped under their own keys. -/
theorem getD_foldl_append (records : List ρ) (d : OrderedDict κ (List ρ)) (key : κ) :
    ((records.foldl (fun d record => d.modify (route record) [] (· ++ [record])) d).get?
        key).getD [] =
      ((d.get? key).getD []) ++ records.filter fun record => route record = key := by
  have appended : ∀ (added group : List ρ),
      added.foldl (fun group record => group ++ [record]) group = group ++ added := by
    intro added group
    induction added generalizing group with
    | nil => exact (List.append_nil group).symm
    | cons record rest ih => rw [List.foldl_cons, ih, List.append_assoc]; rfl
  rw [getD_foldl_modify route [] (fun group record => group ++ [record]), appended]

/-- The groups of all keys are the records, in another order. -/
theorem perm_flatMap_filter {keys : List κ} (nodup : keys.Nodup) {records : List ρ}
    (covered : ∀ record ∈ records, route record ∈ keys) :
    (keys.flatMap fun key => records.filter fun record => route record = key).Perm records := by
  induction keys generalizing records with
  | nil =>
      have none : records = [] := List.eq_nil_iff_forall_not_mem.mpr fun record member =>
        List.not_mem_nil (covered record member)
      rw [none]
      exact List.Perm.refl _
  | cons key rest ih =>
      obtain ⟨apart, nodup⟩ := List.nodup_cons.mp nodup
      let others := records.filter fun record => !decide (route record = key)
      have elsewhere : rest.flatMap (fun other => records.filter fun record => route record = other) =
          rest.flatMap fun other => others.filter fun record => route record = other := by
        refine List.flatMap_congr fun other member => ?_
        rw [List.filter_filter]
        refine List.filter_congr fun record _ => ?_
        by_cases here : route record = other
        · have different : other ≠ key := fun same => apart (same ▸ member)
          simp only [here, different, decide_true, decide_false, Bool.not_false, Bool.and_self]
        · simp only [here, decide_false, Bool.false_and]
      have listed : ∀ record ∈ others, route record ∈ rest := by
        intro record member
        obtain ⟨known, different⟩ := List.mem_filter.mp member
        refine (List.mem_cons.mp (covered record known)).resolve_left ?_
        simpa using different
      rw [List.flatMap_cons, elsewhere]
      exact ((ih nodup listed).append_left _).trans (List.filter_append_perm _ _)

theorem mem_keys_foldl_modify (default : ν) (add : ν → ρ → ν) (records : List ρ)
    (d : OrderedDict κ ν) (key : κ) :
    key ∈ (records.foldl (fun d record => d.modify (route record) default (add · record)) d).keys ↔
      key ∈ d.keys ∨ ∃ record ∈ records, route record = key := by
  induction records generalizing d with
  | nil => simp only [List.foldl_nil, List.not_mem_nil, false_and, exists_false, or_false]
  | cons record rest ih =>
      rw [List.foldl_cons, ih, modify, mem_keys_set]
      simp only [List.mem_cons, exists_eq_or_imp]
      rw [or_assoc, or_left_comm, eq_comm (a := key)]

end Routed

end OrderedDict
