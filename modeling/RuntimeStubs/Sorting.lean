/-! Sorting lists by a Boolean comparison.

`sort` keeps the elements (`sort_perm`), puts them in order (`pairwise_sort`), and leaves elements
that compare both ways in the order in which they came. -/

set_option autoImplicit false

namespace RuntimeStubs.Sorting

variable {α : Type} (le : α → α → Bool)

def insert (a : α) : List α → List α
  | [] => [a]
  | b :: rest => if le a b then a :: b :: rest else b :: insert a rest

def sort : List α → List α
  | [] => []
  | a :: rest => insert le a (sort rest)

theorem insert_perm (a : α) (l : List α) : (insert le a l).Perm (a :: l) := by
  induction l with
  | nil => exact .refl _
  | cons b rest ih =>
    unfold insert
    split
    · exact .refl _
    · exact (ih.cons b).trans (.swap a b rest)

theorem sort_perm (l : List α) : (sort le l).Perm l := by
  induction l with
  | nil => exact .refl _
  | cons a rest ih => exact (insert_perm le a _).trans (ih.cons a)

variable {le}

theorem pairwise_insert (total : ∀ a b, le a b = false → le b a = true)
    (trans : ∀ a b c, le a b = true → le b c = true → le a c = true) (a : α) {l : List α}
    (sorted : l.Pairwise fun b c => le b c = true) :
    (insert le a l).Pairwise fun b c => le b c = true := by
  induction l with
  | nil => exact List.pairwise_singleton _ a
  | cons b rest ih =>
    obtain ⟨first, others⟩ := List.pairwise_cons.mp sorted
    unfold insert
    split
    · next below =>
      refine List.pairwise_cons.mpr ⟨?_, sorted⟩
      intro c member
      rcases List.mem_cons.mp member with rfl | member
      · exact below
      · exact trans a b c below (first c member)
    · next above =>
      refine List.pairwise_cons.mpr ⟨?_, ih others⟩
      intro c member
      rcases List.mem_cons.mp ((insert_perm le a rest).mem_iff.mp member) with rfl | member
      · exact total _ _ (by simpa using above)
      · exact first c member

theorem pairwise_sort (total : ∀ a b, le a b = false → le b a = true)
    (trans : ∀ a b c, le a b = true → le b c = true → le a c = true) (l : List α) :
    (sort le l).Pairwise fun b c => le b c = true := by
  induction l with
  | nil => exact .nil
  | cons a rest ih => exact pairwise_insert total trans a ih

end RuntimeStubs.Sorting
