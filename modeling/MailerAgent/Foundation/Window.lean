import Mathlib.Data.List.Basic

/-!
# Windows of the most recent elements

The last elements of a set in an order of age, of which there may be more than fit: what a
query with an order, a limit and a reversal returns.
-/

namespace Window

universe u v

variable {Element : Type u}

/-- The list holds the most recent elements of a set, at most `limit` of them, oldest
first, and tells whether there are others. -/
structure Recent
    (member : Element → Prop)
    (older : Element → Element → Prop)
    (limit : Nat)
    (shown : List Element)
    (more : Bool) : Prop where
  members : ∀ element ∈ shown, member element
  ordered : shown.Pairwise older
  bounded : shown.length ≤ limit
  recent : ∀ element, member element → element ∉ shown →
    ∀ later ∈ shown, older element later
  full : ∀ element, member element → element ∉ shown → shown.length = limit
  more_iff : more = true ↔ ∃ element, member element ∧ element ∉ shown

/-- A window is cut from the front of a list that is sorted from the most recent element
on. -/
theorem Recent.of_sorted
    {member : Element → Prop}
    {older : Element → Element → Prop}
    {sorted : List Element}
    (listed : ∀ element, element ∈ sorted ↔ member element)
    (descending : sorted.Pairwise fun first second => older second first)
    (distinct : sorted.Nodup)
    (limit : Nat) :
    Recent member older limit (sorted.take limit).reverse (decide (limit < sorted.length)) := by
  have parts : (sorted.take limit ++ sorted.drop limit).Pairwise
      fun first second => older second first := by
    rw [List.take_append_drop]
    exact descending
  obtain ⟨front, -, across⟩ := List.pairwise_append.mp parts
  have beyond : ∀ element, member element → element ∉ (sorted.take limit).reverse →
      element ∈ sorted.drop limit := by
    intro element owned outside
    have inside := (listed element).mpr owned
    rw [← List.take_append_drop limit sorted] at inside
    rcases List.mem_append.mp inside with early | late
    · exact absurd (List.mem_reverse.mpr early) outside
    · exact late
  have long : ∀ element ∈ sorted.drop limit, limit < sorted.length := by
    intro element late
    by_contra short
    rw [List.drop_eq_nil_of_le (Nat.le_of_not_lt short)] at late
    exact nomatch late
  refine ⟨?_, List.pairwise_reverse.mpr front, ?_, ?_, ?_, ?_⟩
  · intro element inside
    exact (listed element).mp (List.mem_of_mem_take (List.mem_reverse.mp inside))
  · rw [List.length_reverse]
    exact List.length_take_le limit sorted
  · intro element owned outside later inside
    exact across later (List.mem_reverse.mp inside) element (beyond element owned outside)
  · intro element owned outside
    have enough := long element (beyond element owned outside)
    simp only [List.length_reverse, List.length_take]
    omega
  · rw [decide_eq_true_iff]
    constructor
    · intro enough
      have late : sorted[limit] ∈ sorted.drop limit := by
        rw [List.drop_eq_getElem_cons enough]
        exact List.mem_cons_self
      refine ⟨sorted[limit], (listed _).mp (List.getElem_mem enough), fun early => ?_⟩
      have apart := List.disjoint_take_drop distinct (Nat.le_refl limit)
      exact apart (List.mem_reverse.mp early) late
    · rintro ⟨element, owned, outside⟩
      exact long element (beyond element owned outside)

/-- At most one element for each index leaves the indexes a sublist. -/
theorem map_flatMap_sublist
    {Index : Type v}
    {spread : Index → List Element}
    {index : Element → Index}
    (single : ∀ origin, List.Sublist ((spread origin).map index) [origin]) :
    ∀ origins : List Index, List.Sublist ((origins.flatMap spread).map index) origins
  | [] => List.Sublist.slnil
  | origin :: origins => by
      rw [List.flatMap_cons, List.map_append]
      exact (single origin).append (map_flatMap_sublist single origins)

/-- A partial function that is defined on all elements of a list maps the list. -/
theorem exists_mapM
    {Result : Type v}
    {compute : Element → Option Result}
    {related : Element → Result → Prop} :
    ∀ {elements : List Element},
      (∀ element ∈ elements, ∃ result, compute element = some result ∧ related element result) →
      ∃ results, elements.mapM compute = some results ∧ List.Forall₂ related elements results
  | [], _ => ⟨[], rfl, .nil⟩
  | element :: elements, defined => by
      obtain ⟨result, computed, holds⟩ := defined element List.mem_cons_self
      obtain ⟨results, mapped, rest⟩ := exists_mapM fun other inside =>
        defined other (List.mem_cons_of_mem _ inside)
      exact ⟨result :: results, by simp [computed, mapped], .cons holds rest⟩

end Window
