import Mathlib.Data.Finset.Card
import SnpGuest.Proofs.OrderedMap
import SnpGuest.Simulator.Registry

namespace SnpGuest

/-!
# The registry as a map of report data

The registry keeps its responses under texts, and what it answers is told by the report data alone.
No two blocks have one text (`Registry.key_injective`), so an insertion changes the answer for its
own block and for no other (`Registry.get?_insert`).  From that law and the one for the size, both
about one insertion, everything about a sequence follows by induction from its end.
-/

namespace Registry

/-! ## One insertion -/

/-- A look-up after an insertion: the new response under its own data, the old one under any
other. -/
theorem get?_insert (registry : Registry) (reportData other : Block 64)
    (prepared : PreparedResponse) :
    (registry.insert reportData prepared).2.get? other =
      if other = reportData then some prepared else registry.get? other := by
  by_cases hSame : other = reportData
  · rw [if_pos hSame, hSame]
    exact OrderedMap.get?_insert_self _ _ _
  · rw [if_neg hSame]
    have hKeys : Registry.key other ≠ Registry.key reportData :=
      fun hKey => hSame (Registry.key_injective hKey)
    exact OrderedMap.get?_insert_of_ne _ hKeys _

theorem size_insert (registry : Registry) (reportData : Block 64) (prepared : PreparedResponse) :
    (registry.insert reportData prepared).2.size =
      registry.size + if registry.get? reportData = none then 1 else 0 :=
  registry.responses.size_insert (key reportData) prepared

/-! ## Sequences of insertions -/

/-- The registry after some insertions into the empty one. -/
def filled (insertions : List (Block 64 × PreparedResponse)) : Registry :=
  insertions.foldl (fun registry insertion => (registry.insert insertion.1 insertion.2).2) empty

section Filled

variable (insertions : List (Block 64 × PreparedResponse))

theorem filled_concat (reportData : Block 64) (prepared : PreparedResponse) :
    filled (insertions ++ [(reportData, prepared)]) =
      ((filled insertions).insert reportData prepared).2 :=
  List.foldl_append

/-- The registry answers with what was inserted last for the block of report data. -/
theorem get?_filled (reportData : Block 64) :
    (filled insertions).get? reportData = OrderedMap.latest? reportData insertions := by
  induction insertions using List.reverseRecOn with
  | nil => rfl
  | append_singleton insertions insertion ih =>
      rw [filled_concat, get?_insert, OrderedMap.latest?_concat, ih]

theorem get?_filled_eq_none_iff (reportData : Block 64) :
    (filled insertions).get? reportData = none ↔ reportData ∉ insertions.map Prod.fst := by
  rw [get?_filled]
  exact OrderedMap.latest?_eq_none_iff reportData insertions

/-- As many responses are kept as there are different blocks of report data. -/
theorem size_filled :
    (filled insertions).size = (insertions.map Prod.fst).toFinset.card := by
  induction insertions using List.reverseRecOn with
  | nil => rfl
  | append_singleton insertions insertion ih =>
      have hKeys : ((insertions ++ [insertion]).map Prod.fst).toFinset =
          Insert.insert insertion.1 (insertions.map Prod.fst).toFinset := by
        ext reportData
        simp
      have hNone := get?_filled_eq_none_iff insertions insertion.1
      rw [filled_concat, size_insert, ih, hKeys]
      by_cases hKnown : insertion.1 ∈ insertions.map Prod.fst
      · rw [if_neg (fun hAbsent => hNone.mp hAbsent hKnown),
          Finset.insert_eq_of_mem (List.mem_toFinset.mpr hKnown), Nat.add_zero]
      · rw [if_pos (hNone.mpr hKnown),
          Finset.card_insert_of_notMem (mt List.mem_toFinset.mp hKnown)]

theorem isEmpty_filled_iff : (filled insertions).isEmpty = true ↔ insertions = [] := by
  have hSize : (filled insertions).isEmpty = true ↔ (filled insertions).size = 0 :=
    List.isEmpty_iff_length_eq_zero
  rw [hSize, size_filled, Finset.card_eq_zero, List.toFinset_eq_empty_iff, List.map_eq_nil_iff]

end Filled

/-- The registry after any insertions into the empty one, and one insertion more.  For each block
of report data it answers with what was inserted last for these very bytes, and with nothing if that
never happened.  The next insertion gives back what the registry answered for its block until then,
and the answer for any other block stays.  The size counts the different blocks, and only before the
first insertion is the registry empty. -/
theorem answers_of_insertions (insertions : List (Block 64 × PreparedResponse)) :
    let registry := filled insertions
    (∀ reportData prepared, registry.get? reportData = some prepared ↔ ∃ earlier later,
      insertions = earlier ++ (reportData, prepared) :: later ∧
        reportData ∉ later.map Prod.fst) ∧
    (∀ reportData, registry.get? reportData = none ↔ reportData ∉ insertions.map Prod.fst) ∧
    (∀ reportData prepared,
      let (previous, next) := registry.insert reportData prepared
      next = filled (insertions ++ [(reportData, prepared)]) ∧
      previous = registry.get? reportData ∧
      next.get? reportData = some prepared ∧
      ∀ other, other ≠ reportData → next.get? other = registry.get? other) ∧
    registry.size = (insertions.map Prod.fst).toFinset.card ∧
    (registry.isEmpty = true ↔ insertions = []) := by
  intro registry
  refine ⟨fun reportData prepared => ?_, get?_filled_eq_none_iff insertions,
    fun reportData prepared => ⟨(filled_concat insertions reportData prepared).symm, rfl, ?_, ?_⟩,
    size_filled insertions, isEmpty_filled_iff insertions⟩
  · rw [get?_filled]
    exact OrderedMap.latest?_eq_some_iff reportData prepared insertions
  · exact (get?_insert registry reportData reportData prepared).trans (if_pos rfl)
  · intro other hOther
    exact (get?_insert registry reportData other prepared).trans (if_neg hOther)

/-- Two blocks whose texts have the same digits in another order are kept apart. -/
theorem answers_of_insertions_of_swapped_digits :
    let first : Block 64 := .padded 64 [0x0A]
    let second : Block 64 := .padded 64 [0xA0]
    let insertions := [(first, .accepted first), (second, .accepted second),
      (first, .refused first .sizeReply)]
    first ≠ second ∧ (filled insertions).size = 2 ∧
      ((filled insertions).insert second (.accepted first)).2.get? first =
        some (.refused first .sizeReply) := by
  intro first second insertions
  have hApart : first ≠ second := by decide
  obtain ⟨hLast, -, hNext, hSize, -⟩ := answers_of_insertions insertions
  obtain ⟨-, -, -, hOthers⟩ := hNext second (.accepted first)
  refine ⟨hApart, hSize.trans (by decide), (hOthers first hApart).trans ?_⟩
  rw [hLast]
  exact ⟨insertions.take 2, [], rfl, List.not_mem_nil⟩

end Registry

end SnpGuest
