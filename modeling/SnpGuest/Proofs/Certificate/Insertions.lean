import SnpGuest.Certificate.Table
import SnpGuest.Proofs.OrderedMap

namespace SnpGuest

/-!
# Tables filled by insertions

Every certificate table that a caller builds comes from the empty one by insertions.  Which they
were shows in two things only: in which order the kinds came in first, and which data came last for
each kind.
-/

namespace CertificateTable

/-- The table after any insertions into the empty one, and one insertion more.  Its kinds are
different and stand in the order of their first insertions.  Each has the data of its last one, and
a kind that never came in has none.  The next insertion gives back what was there under its kind.
It adds an entry at the end if that is nothing, and else replaces the data where they stand; no
other entry changes.  Insertions with the same order and the same last data make the same table,
and two insertions under different kinds that are there can change places. -/
theorem table_of_insertions (insertions : List (CertificateKind × Bytes)) :
    let table : CertificateTable := OrderedMap.ofList insertions
    ((table.entries.map Prod.fst).Nodup ∧
      table.entries.map Prod.fst = (insertions.map Prod.fst).eraseDups ∧
      ∀ kind data, (kind, data) ∈ table.entries ↔ table.get? kind = some data) ∧
    (∀ kind data, table.get? kind = some data ↔ ∃ earlier later,
      insertions = earlier ++ (kind, data) :: later ∧ kind ∉ later.map Prod.fst) ∧
    (∀ kind, table.get? kind = none ↔ kind ∉ insertions.map Prod.fst) ∧
    (∀ kind data,
      let (previous, next) := table.exchange kind data
      next = OrderedMap.ofList (insertions ++ [(kind, data)]) ∧
      previous = table.get? kind ∧
      (previous = none → next.entries = table.entries ++ [(kind, data)]) ∧
      (∀ old, previous = some old → ∃ front back,
        table.entries = front ++ (kind, old) :: back ∧
        next.entries = front ++ (kind, data) :: back) ∧
      (∀ other, other ≠ kind → next.get? other = table.get? other) ∧
      next.size = table.size + if previous = none then 1 else 0) ∧
    (∀ others : List (CertificateKind × Bytes),
      (others.map Prod.fst).eraseDups = (insertions.map Prod.fst).eraseDups →
      (∀ kind, OrderedMap.latest? kind others = OrderedMap.latest? kind insertions) →
      OrderedMap.ofList others = table) ∧
    (∀ first second left right, first ≠ second → first ∈ table.keys → second ∈ table.keys →
      let (replacedFirst, afterFirst) := table.exchange first left
      let (replacedSecond, afterSecond) := table.exchange second right
      afterFirst.exchange second right = (replacedSecond, afterSecond.insert first left) ∧
      afterSecond.exchange first left = (replacedFirst, afterFirst.insert second right) ∧
      afterFirst.insert second right = afterSecond.insert first left) := by
  intro table
  have hLatest : ∀ kind, table.get? kind = OrderedMap.latest? kind insertions :=
    OrderedMap.get?_ofList insertions
  refine ⟨⟨table.nodup, OrderedMap.keys_ofList insertions,
      fun kind data => (table.get?_eq_some_iff kind data).symm⟩,
    fun kind data => ?_, fun kind => ?_, fun kind data => ?_,
    fun others hOrder hLast => OrderedMap.ofList_congr hOrder hLast, ?_⟩
  · rw [hLatest]
    exact OrderedMap.latest?_eq_some_iff kind data insertions
  · rw [hLatest]
    exact OrderedMap.latest?_eq_none_iff kind insertions
  · exact ⟨(OrderedMap.ofList_concat insertions kind data).symm, rfl,
      table.entries_insert_of_absent data,
      fun old hFound => table.exists_replaced hFound data,
      fun other hOther => table.get?_insert_of_ne hOther data, table.size_insert kind data⟩
  · intro first second left right hApart hFirst hSecond
    have hSame := table.insert_comm hApart hFirst hSecond left right
    refine ⟨?_, ?_, hSame⟩
    · rw [← hSame]
      exact Prod.ext (table.get?_insert_of_ne hApart.symm left) rfl
    · rw [hSame]
      exact Prod.ext (table.get?_insert_of_ne hApart right) rfl

/-- A kind that comes in again stays where it came in first. -/
example : (OrderedMap.ofList [(.ark, [1]), (.ask, [2]), (.ark, [3])] : CertificateTable).entries =
    [(.ark, [3]), (.ask, [2])] := by
  decide

end CertificateTable

end SnpGuest
