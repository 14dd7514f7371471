import Mathlib.Data.List.Sort

/-!
# Stable arrangements

A list arranges another one when it has the same elements in order, and elements of which
each may come before the other keep their places. There is exactly one such list, and
insertion computes it.
-/

namespace Arrangement

variable {Element : Type} {before : Element → Element → Prop} [DecidableRel before]

/-- Each of the elements may come before the other. -/
def Tied
    (before : Element → Element → Prop)
    (first second : Element) : Prop :=
  before first second ∧ before second first

instance (first second : Element) : Decidable (Tied before first second) :=
  inferInstanceAs (Decidable (_ ∧ _))

/-- The second list has the elements of the first one in order, tied ones as they stand
there. -/
structure Arranges
    (before : Element → Element → Prop)
    [DecidableRel before]
    (whole ordered : List Element) : Prop where
  complete : ordered.Perm whole
  sorted : ordered.Pairwise before
  stable : ∀ element,
    ordered.filter (Tied before element) = whole.filter (Tied before element)

theorem Arranges.mem_iff
    {whole ordered : List Element}
    {element : Element}
    (arranges : Arranges before whole ordered) :
    element ∈ ordered ↔ element ∈ whole :=
  arranges.complete.mem_iff

/-- Ordered lists with the same elements that agree on tied ones are equal. -/
theorem eq_of_sorted
    [Std.Refl before]
    {first second : List Element}
    (permutes : first.Perm second)
    (sorted : first.Pairwise before)
    (sortedOther : second.Pairwise before)
    (agree : ∀ element,
      first.filter (Tied before element) = second.filter (Tied before element)) :
    first = second := by
  induction first generalizing second with
  | nil => exact (List.nil_perm.mp permutes).symm
  | cons head tail inductionHypothesis =>
      cases second with
      | nil => exact absurd (List.perm_nil.mp permutes) (List.cons_ne_nil _ _)
      | cons other rest =>
          have least : ∀ element ∈ head :: tail, before head element :=
            List.forall_mem_cons.mpr ⟨Std.Refl.refl head, (List.pairwise_cons.mp sorted).1⟩
          have leastOther : ∀ element ∈ other :: rest, before other element :=
            List.forall_mem_cons.mpr ⟨Std.Refl.refl other, (List.pairwise_cons.mp sortedOther).1⟩
          have tied : Tied before head other :=
            ⟨least other (permutes.mem_iff.mpr List.mem_cons_self),
              leastOther head (permutes.mem_iff.mp List.mem_cons_self)⟩
          have own : Tied before head head := ⟨Std.Refl.refl head, Std.Refl.refl head⟩
          have heads := agree head
          rw [List.filter_cons_of_pos (by simpa using own),
            List.filter_cons_of_pos (by simpa using tied)] at heads
          obtain ⟨rfl, -⟩ := List.cons.inj heads
          refine congrArg (head :: ·) (inductionHypothesis ((List.perm_cons head).mp permutes)
            (List.pairwise_cons.mp sorted).2 (List.pairwise_cons.mp sortedOther).2 ?_)
          intro element
          have both := agree element
          by_cases among : Tied before element head
          · rw [List.filter_cons_of_pos (by simpa using among),
              List.filter_cons_of_pos (by simpa using among)] at both
            exact (List.cons.inj both).2
          · rwa [List.filter_cons_of_neg (by simpa using among),
              List.filter_cons_of_neg (by simpa using among)] at both

/-- There is no other arrangement. -/
theorem Arranges.unique
    [Std.Refl before]
    {whole first second : List Element}
    (arranges : Arranges before whole first)
    (other : Arranges before whole second) :
    first = second :=
  eq_of_sorted (arranges.complete.trans other.complete.symm) arranges.sorted other.sorted
    fun element => (arranges.stable element).trans (other.stable element).symm

/-- Insertion keeps tied elements in their order. -/
theorem arranges_insertionSort
    [Std.Total before]
    [IsTrans Element before]
    (whole : List Element) :
    Arranges before whole (whole.insertionSort before) where
  complete := List.perm_insertionSort before whole
  sorted := List.pairwise_insertionSort before whole
  stable element := by
    have among : (whole.filter (Tied before element)).Pairwise before := by
      refine List.pairwise_of_forall_mem_list fun first inside second insideToo => ?_
      have tied : Tied before element first := by simpa using (List.mem_filter.mp inside).2
      have tiedToo : Tied before element second := by
        simpa using (List.mem_filter.mp insideToo).2
      exact IsTrans.trans first element second tied.2 tiedToo.1
    have kept := (List.sublist_insertionSort among List.filter_sublist).filter
      (Tied before element)
    rw [List.filter_filter] at kept
    simp only [Bool.and_self] at kept
    refine (kept.eq_of_length ?_).symm
    exact ((List.perm_insertionSort before whole).filter _).length_eq.symm

end Arrangement
