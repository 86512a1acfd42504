/-!
# Sorting keeps the order of equals

A sort moves only what is out of order. So those elements of a list that may stand in any order among
themselves, because what the sort looks at is the same in all of them, keep the order in which they
stand (`filter_mergeSort`).
-/

namespace OrderDesk

variable {α : Type} {le : α → α → Bool}

/-- **Elements that may stand in any order are not moved against each other.** -/
theorem filter_mergeSort (htrans : ∀ a b c, le a b = true → le b c = true → le a c = true)
    (htotal : ∀ a b, (le a b || le b a) = true) {p : α → Bool}
    (hany : ∀ a b, p a = true → p b = true → le a b = true) (l : List α) :
    (l.mergeSort le).filter p = l.filter p := by
  have hordered : (l.filter p).Pairwise fun a b => le a b = true := by
    rw [List.pairwise_iff_forall_sublist]
    intro a b hpair
    have ha := hpair.subset List.mem_cons_self
    have hb := hpair.subset (List.mem_cons_of_mem a List.mem_cons_self)
    exact hany a b (List.mem_filter.1 ha).2 (List.mem_filter.1 hb).2
  have hsublist : (l.filter p).Sublist ((l.mergeSort le).filter p) := by
    have hkept := (List.sublist_mergeSort htrans htotal hordered List.filter_sublist).filter p
    rwa [List.filter_filter, List.filter_congr fun a _ => Bool.and_self (p a)] at hkept
  have hlength : (l.filter p).length = ((l.mergeSort le).filter p).length :=
    ((List.mergeSort_perm l le).filter p).length_eq.symm
  exact (hsublist.eq_of_length hlength).symm

end OrderDesk
