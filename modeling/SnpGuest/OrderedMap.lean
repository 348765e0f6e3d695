namespace SnpGuest

/-!
# Maps in order of first insertion

A finite map that remembers in which order its keys first came in.  Inserting under a key that is
present replaces the value where it stands; a new key goes to the end.  That no key occurs twice is
part of the type.  Main statements: what a look-up answers after an insertion, for the same key and
for any other, and what becomes of the keys.
-/

/-- A finite map with its entries in the order in which their keys were first inserted. -/
structure OrderedMap (κ ν : Type) where
  entries : List (κ × ν)
  nodup : (entries.map Prod.fst).Nodup

namespace OrderedMap

variable {κ ν : Type}

@[ext]
theorem ext {left right : OrderedMap κ ν} (hEntries : left.entries = right.entries) :
    left = right := by
  cases left
  cases right
  simp_all

instance [DecidableEq κ] [DecidableEq ν] : DecidableEq (OrderedMap κ ν) := fun left right =>
  decidable_of_iff (left.entries = right.entries) ⟨ext, fun hSame => hSame ▸ rfl⟩

def empty : OrderedMap κ ν :=
  ⟨[], List.nodup_nil⟩

instance : Inhabited (OrderedMap κ ν) := ⟨empty⟩

def keys (map : OrderedMap κ ν) : List κ :=
  map.entries.map Prod.fst

def size (map : OrderedMap κ ν) : Nat :=
  map.entries.length

def isEmpty (map : OrderedMap κ ν) : Bool :=
  map.entries.isEmpty

variable [DecidableEq κ]

/-- The value under a key in a list of entries. -/
def lookup (key : κ) : List (κ × ν) → Option ν
  | [] => none
  | entry :: entries => if entry.1 = key then some entry.2 else lookup key entries

/-- Replaces the value under a key where it stands, or adds the entry at the end. -/
def place (key : κ) (value : ν) : List (κ × ν) → List (κ × ν)
  | [] => [(key, value)]
  | entry :: entries =>
    if entry.1 = key then (key, value) :: entries else entry :: place key value entries

theorem keys_place (key : κ) (value : ν) (entries : List (κ × ν)) :
    (place key value entries).map Prod.fst =
      if key ∈ entries.map Prod.fst then entries.map Prod.fst
      else entries.map Prod.fst ++ [key] := by
  induction entries with
  | nil => simp [place]
  | cons entry entries ih =>
    by_cases hFirst : entry.1 = key
    · simp [place, hFirst]
    · have hKey : ¬ key = entry.1 := fun hSame => hFirst hSame.symm
      simp only [place, hFirst, if_false, List.map_cons, ih, List.mem_cons, hKey, false_or]
      split <;> simp

theorem nodup_place (key : κ) (value : ν) {entries : List (κ × ν)}
    (hNodup : (entries.map Prod.fst).Nodup) :
    ((place key value entries).map Prod.fst).Nodup := by
  rw [keys_place]
  split
  · exact hNodup
  · rename_i hAbsent
    rw [List.nodup_append]
    refine ⟨hNodup, by simp, ?_⟩
    intro old hOld new hNew
    rw [List.mem_singleton] at hNew
    rintro rfl
    exact hAbsent (hNew ▸ hOld)

def get? (map : OrderedMap κ ν) (key : κ) : Option ν :=
  lookup key map.entries

def insert (map : OrderedMap κ ν) (key : κ) (value : ν) : OrderedMap κ ν :=
  ⟨place key value map.entries, nodup_place key value map.nodup⟩

/-- Puts a value under a key and gives back the value that it replaces. -/
def exchange (map : OrderedMap κ ν) (key : κ) (value : ν) : Option ν × OrderedMap κ ν :=
  (map.get? key, map.insert key value)

/-- Inserts the pairs of a list one after the other. -/
def ofList (pairs : List (κ × ν)) : OrderedMap κ ν :=
  pairs.foldl (fun map pair => map.insert pair.1 pair.2) empty

/-! ## Look-up after insertion -/

theorem lookup_place_self (key : κ) (value : ν) (entries : List (κ × ν)) :
    lookup key (place key value entries) = some value := by
  induction entries with
  | nil => simp [place, lookup]
  | cons entry entries ih => by_cases hFirst : entry.1 = key <;> simp [place, lookup, hFirst, ih]

theorem lookup_place_of_ne {key other : κ} (hOther : other ≠ key) (value : ν)
    (entries : List (κ × ν)) :
    lookup other (place key value entries) = lookup other entries := by
  have hKey : ¬ key = other := fun hSame => hOther hSame.symm
  induction entries with
  | nil => simp [place, lookup, hKey]
  | cons entry entries ih =>
    by_cases hFirst : entry.1 = key
    · simp [place, lookup, hFirst, hKey]
    · simp [place, lookup, hFirst, ih]

@[simp] theorem get?_empty (key : κ) : (empty : OrderedMap κ ν).get? key = none := rfl

@[simp] theorem get?_insert_self (map : OrderedMap κ ν) (key : κ) (value : ν) :
    (map.insert key value).get? key = some value :=
  lookup_place_self key value map.entries

theorem get?_insert_of_ne (map : OrderedMap κ ν) {key other : κ} (hOther : other ≠ key)
    (value : ν) :
    (map.insert key value).get? other = map.get? other :=
  lookup_place_of_ne hOther value map.entries

theorem lookup_eq_none_iff (key : κ) (entries : List (κ × ν)) :
    lookup key entries = none ↔ key ∉ entries.map Prod.fst := by
  induction entries with
  | nil => simp [lookup]
  | cons entry entries ih =>
    by_cases hFirst : entry.1 = key
    · simp [lookup, hFirst]
    · have hKey : ¬ key = entry.1 := fun hSame => hFirst hSame.symm
      simp only [lookup, hFirst, if_false, ih, List.map_cons, List.mem_cons, hKey, false_or]

theorem get?_eq_none_iff (map : OrderedMap κ ν) (key : κ) :
    map.get? key = none ↔ key ∉ map.keys :=
  lookup_eq_none_iff key map.entries

/-- A new key goes behind the keys that are there; a known one stays where it is. -/
theorem keys_insert (map : OrderedMap κ ν) (key : κ) (value : ν) :
    (map.insert key value).keys = if key ∈ map.keys then map.keys else map.keys ++ [key] :=
  keys_place key value map.entries

theorem place_of_not_mem {key : κ} (value : ν) {entries : List (κ × ν)}
    (hAbsent : key ∉ entries.map Prod.fst) :
    place key value entries = entries ++ [(key, value)] := by
  induction entries with
  | nil => rfl
  | cons entry entries ih =>
    simp only [List.map_cons, List.mem_cons, not_or] at hAbsent
    have hFirst : ¬ entry.1 = key := fun hSame => hAbsent.1 hSame.symm
    rw [place, if_neg hFirst, ih hAbsent.2, List.cons_append]

/-- An entry under a new key goes to the end. -/
theorem entries_insert_of_absent (map : OrderedMap κ ν) {key : κ} (value : ν)
    (hAbsent : map.get? key = none) :
    (map.insert key value).entries = map.entries ++ [(key, value)] :=
  place_of_not_mem value ((map.get?_eq_none_iff key).mp hAbsent)

theorem entries_foldl_insert (map : OrderedMap κ ν) {pairs : List (κ × ν)}
    (hNodup : ((map.entries ++ pairs).map Prod.fst).Nodup) :
    (pairs.foldl (fun map pair => map.insert pair.1 pair.2) map).entries =
      map.entries ++ pairs := by
  induction pairs generalizing map with
  | nil => simp
  | cons pair pairs ih =>
    have hAbsent : map.get? pair.1 = none := by
      rw [get?_eq_none_iff]
      intro hPresent
      rw [List.map_append, List.nodup_append] at hNodup
      exact hNodup.2.2 _ hPresent _ (List.mem_cons_self ..) rfl
    have hEntries := entries_insert_of_absent map pair.2 hAbsent
    rw [List.foldl_cons, ih, hEntries, List.append_assoc]
    · rfl
    · rw [hEntries, List.append_assoc]
      exact hNodup

/-- Pairs with different keys become the entries. -/
theorem entries_ofList {pairs : List (κ × ν)} (hNodup : (pairs.map Prod.fst).Nodup) :
    (ofList pairs).entries = pairs :=
  entries_foldl_insert empty hNodup

end OrderedMap

end SnpGuest
