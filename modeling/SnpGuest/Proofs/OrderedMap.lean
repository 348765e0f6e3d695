import Mathlib.Data.List.Induction
import SnpGuest.OrderedMap

namespace SnpGuest

/-!
# Maps filled by insertions

What a map holds after any sequence of insertions, told by the sequence alone: its keys are those of
the sequence, each where it came first (`keys_ofList`), and under each key stands what was inserted
last (`get?_ofList`).  Order and values determine a map (`ext_keys_get?`), so nothing else of the
sequence is left in it.

One insertion does one of two things: it adds an entry at the end, or it replaces the value of an
entry where that stands (`entries_insert_of_absent`, `exists_replaced`).
-/

namespace OrderedMap

variable {κ ν : Type} [DecidableEq κ]

/-! ## Entries and look-up -/

/-- A look-up finds the first entry under its key. -/
theorem lookup_eq_some_iff (key : κ) (value : ν) (entries : List (κ × ν)) :
    lookup key entries = some value ↔
      ∃ front back, entries = front ++ (key, value) :: back ∧ key ∉ front.map Prod.fst := by
  induction entries with
  | nil => simp [lookup]
  | cons entry rest ih =>
      rw [lookup]
      by_cases hHere : entry.1 = key
      · rw [if_pos hHere, Option.some_inj]
        constructor
        · rintro rfl
          exact ⟨[], rest, by rw [← hHere]; rfl, List.not_mem_nil⟩
        · rintro ⟨front, back, hSplit, hFront⟩
          obtain _ | ⟨first, front⟩ := front
          · rw [(List.cons.inj hSplit).1]
          · rw [← (List.cons.inj hSplit).1, List.map_cons, hHere] at hFront
            exact absurd (List.mem_cons_self ..) hFront
      · rw [if_neg hHere, ih]
        constructor
        · rintro ⟨front, back, rfl, hFront⟩
          exact ⟨entry :: front, back, rfl, by simp [Ne.symm hHere, hFront]⟩
        · rintro ⟨front, back, hSplit, hFront⟩
          obtain _ | ⟨first, front⟩ := front
          · exact absurd (congrArg Prod.fst (List.cons.inj hSplit).1) hHere
          · exact ⟨front, back, (List.cons.inj hSplit).2,
              fun hLater => hFront (List.mem_cons_of_mem _ hLater)⟩

/-- With different keys, no entry hides behind another. -/
theorem get?_eq_some_iff (map : OrderedMap κ ν) (key : κ) (value : ν) :
    map.get? key = some value ↔ (key, value) ∈ map.entries := by
  rw [get?, lookup_eq_some_iff]
  constructor
  · rintro ⟨front, back, hSplit, -⟩
    rw [hSplit]
    exact List.mem_append_cons_self
  · intro hEntry
    obtain ⟨front, back, hSplit⟩ := List.append_of_mem hEntry
    have hDifferent := map.nodup
    rw [hSplit, List.map_append, List.nodup_append] at hDifferent
    exact ⟨front, back, hSplit,
      fun hFront => hDifferent.2.2 key hFront key (List.mem_cons_self ..) rfl⟩

theorem eq_of_lookup {left right : List (κ × ν)}
    (hDifferent : (left.map Prod.fst).Nodup) (hKeys : left.map Prod.fst = right.map Prod.fst)
    (hValues : ∀ key ∈ left.map Prod.fst, lookup key left = lookup key right) : left = right := by
  induction left generalizing right with
  | nil => exact (List.map_eq_nil_iff.mp hKeys.symm).symm
  | cons entry rest ih =>
      obtain _ | ⟨other, others⟩ := right
      · cases hKeys
      rw [List.map_cons, List.map_cons, List.cons.injEq] at hKeys
      rw [List.map_cons, List.nodup_cons] at hDifferent
      obtain ⟨hKey, hRestKeys⟩ := hKeys
      obtain ⟨hFirst, hRest⟩ := hDifferent
      have hValue := hValues entry.1 (List.mem_cons_self ..)
      rw [lookup, if_pos rfl, lookup, if_pos hKey.symm, Option.some_inj] at hValue
      have hLater : ∀ key ∈ rest.map Prod.fst, lookup key rest = lookup key others := by
        intro key hMember
        have hSkip : ¬ entry.1 = key := fun hSame => hFirst (hSame ▸ hMember)
        have hBoth := hValues key (List.mem_cons_of_mem _ hMember)
        rwa [lookup, if_neg hSkip, lookup, if_neg (hKey ▸ hSkip)] at hBoth
      rw [Prod.ext hKey hValue, ih hRest hRestKeys hLater]

/-- A map is the order of its keys and what stands under each. -/
theorem ext_keys_get? {left right : OrderedMap κ ν} (hKeys : left.keys = right.keys)
    (hValues : ∀ key, left.get? key = right.get? key) : left = right :=
  OrderedMap.ext (eq_of_lookup left.nodup hKeys fun key _ => hValues key)

/-! ## One insertion -/

theorem get?_insert (map : OrderedMap κ ν) (key other : κ) (value : ν) :
    (map.insert key value).get? other = if other = key then some value else map.get? other := by
  by_cases hSame : other = key
  · rw [if_pos hSame, hSame, get?_insert_self]
  · rw [if_neg hSame, get?_insert_of_ne map hSame]

theorem place_append {key : κ} {front : List (κ × ν)} (hFront : key ∉ front.map Prod.fst)
    (old value : ν) (back : List (κ × ν)) :
    place key value (front ++ (key, old) :: back) = front ++ (key, value) :: back := by
  induction front with
  | nil => exact if_pos rfl
  | cons entry front ih =>
      rw [List.map_cons, List.mem_cons, not_or] at hFront
      rw [List.cons_append, place, if_neg (Ne.symm hFront.1), ih hFront.2, List.cons_append]

/-- An insertion under a key that is there replaces its value and moves nothing. -/
theorem exists_replaced (map : OrderedMap κ ν) {key : κ} {old : ν}
    (hFound : map.get? key = some old) (value : ν) :
    ∃ front back, map.entries = front ++ (key, old) :: back ∧
      (map.insert key value).entries = front ++ (key, value) :: back := by
  obtain ⟨front, back, hSplit, hFront⟩ := (lookup_eq_some_iff key old map.entries).mp hFound
  refine ⟨front, back, hSplit, ?_⟩
  show place key value map.entries = _
  rw [hSplit, place_append hFront]

/-- A map grows by the insertions under new keys. -/
theorem size_insert (map : OrderedMap κ ν) (key : κ) (value : ν) :
    (map.insert key value).size = map.size + if map.get? key = none then 1 else 0 := by
  cases hFound : map.get? key with
  | none => simp [size, entries_insert_of_absent map value hFound]
  | some old =>
      obtain ⟨front, back, hBefore, hAfter⟩ := map.exists_replaced hFound value
      simp [size, hBefore, hAfter]

theorem keys_insert_of_mem (map : OrderedMap κ ν) {key : κ} (hKey : key ∈ map.keys) (value : ν) :
    (map.insert key value).keys = map.keys :=
  (map.keys_insert key value).trans (if_pos hKey)

/-- Replacements under different keys can be made in either order. -/
theorem insert_comm (map : OrderedMap κ ν) {first second : κ} (hApart : first ≠ second)
    (hFirst : first ∈ map.keys) (hSecond : second ∈ map.keys) (left right : ν) :
    (map.insert first left).insert second right =
      (map.insert second right).insert first left := by
  have hFirstKeys := map.keys_insert_of_mem hFirst left
  have hSecondKeys := map.keys_insert_of_mem hSecond right
  have hSecondStill : second ∈ (map.insert first left).keys := hFirstKeys.symm ▸ hSecond
  have hFirstStill : first ∈ (map.insert second right).keys := hSecondKeys.symm ▸ hFirst
  apply ext_keys_get?
  · rw [keys_insert_of_mem _ hSecondStill, hFirstKeys, keys_insert_of_mem _ hFirstStill,
      hSecondKeys]
  · intro key
    simp only [get?_insert]
    by_cases hKey : key = second
    · simp only [hKey, hApart.symm, if_true, if_false]
    · simp only [hKey, if_false]

/-! ## Sequences of insertions -/

/-- What was inserted last under a key. -/
def latest? (key : κ) (insertions : List (κ × ν)) : Option ν :=
  lookup key insertions.reverse

theorem latest?_concat (key other : κ) (value : ν) (insertions : List (κ × ν)) :
    latest? other (insertions ++ [(key, value)]) =
      if other = key then some value else latest? other insertions := by
  rw [latest?, List.reverse_append, List.reverse_singleton, List.singleton_append, lookup]
  simp only [eq_comm, latest?]

theorem latest?_eq_none_iff (key : κ) (insertions : List (κ × ν)) :
    latest? key insertions = none ↔ key ∉ insertions.map Prod.fst := by
  rw [latest?, lookup_eq_none_iff, List.map_reverse, List.mem_reverse]

/-- The last insertion under a key has none under that key behind it. -/
theorem latest?_eq_some_iff (key : κ) (value : ν) (insertions : List (κ × ν)) :
    latest? key insertions = some value ↔
      ∃ earlier later, insertions = earlier ++ (key, value) :: later ∧
        key ∉ later.map Prod.fst := by
  rw [latest?, lookup_eq_some_iff]
  constructor
  · rintro ⟨front, back, hSplit, hFront⟩
    refine ⟨back.reverse, front.reverse, ?_, by simpa using hFront⟩
    rw [← insertions.reverse_reverse, hSplit]
    simp
  · rintro ⟨earlier, later, rfl, hLater⟩
    exact ⟨later.reverse, earlier.reverse, by simp, by simpa using hLater⟩

theorem ofList_concat (insertions : List (κ × ν)) (key : κ) (value : ν) :
    ofList (insertions ++ [(key, value)]) = (ofList insertions).insert key value :=
  List.foldl_append

theorem get?_ofList (insertions : List (κ × ν)) (key : κ) :
    (ofList insertions).get? key = latest? key insertions := by
  induction insertions using List.reverseRecOn with
  | nil => rfl
  | append_singleton insertions insertion ih =>
      rw [ofList_concat, get?_insert, latest?_concat, ih]

/-- The keys stand in the order in which they came in first. -/
theorem keys_ofList (insertions : List (κ × ν)) :
    (ofList insertions).keys = (insertions.map Prod.fst).eraseDups := by
  induction insertions using List.reverseRecOn with
  | nil => rfl
  | append_singleton insertions insertion ih =>
      rw [ofList_concat, keys_insert, ih, List.map_append, List.eraseDups_append]
      simp only [List.mem_eraseDups]
      by_cases hKnown : insertion.1 ∈ insertions.map Prod.fst
      · simp [hKnown, List.removeAll]
      · simp [hKnown, List.removeAll, List.eraseDups_cons]

/-- Of a sequence of insertions only the order of the first and the values of the last are left. -/
theorem ofList_congr {left right : List (κ × ν)}
    (hOrder : (left.map Prod.fst).eraseDups = (right.map Prod.fst).eraseDups)
    (hLast : ∀ key, latest? key left = latest? key right) : ofList left = ofList right := by
  apply ext_keys_get?
  · rw [keys_ofList, keys_ofList, hOrder]
  · intro key
    rw [get?_ofList, get?_ofList, hLast]

end OrderedMap

end SnpGuest
