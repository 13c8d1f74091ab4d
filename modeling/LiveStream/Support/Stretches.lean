import Mathlib

/-! Stretches of a scale that follow each other: together they are no longer than what they lie in. -/

namespace LiveStream.Support

universe u

variable {α : Type u} {lower upper : α → ℤ}

theorem sum_stretches_le {items : List α} {low high : ℤ} (ordered : low ≤ high)
    (apart : items.Pairwise fun earlier later => upper earlier ≤ lower later)
    (within : ∀ item ∈ items, low ≤ lower item ∧ lower item ≤ upper item ∧ upper item ≤ high) :
    (items.map fun item => upper item - lower item).sum ≤ high - low := by
  induction items generalizing low with
  | nil => simpa using ordered
  | cons item items inductionHypothesis =>
    obtain ⟨first, apart⟩ := List.pairwise_cons.mp apart
    obtain ⟨above, proper, below⟩ := within item List.mem_cons_self
    have rest : (items.map fun item => upper item - lower item).sum ≤ high - upper item := by
      apply inductionHypothesis below apart
      intro other member
      exact ⟨first other member, (within other (List.mem_cons_of_mem _ member)).2⟩
    rw [List.map_cons, List.sum_cons]
    linarith

/-- Under an order that is kept along a list the last item bounds the others. -/
theorem rel_getLast {relation : α → α → Prop} {items : List α} {last item : α}
    (ordered : items.Pairwise relation) (ends : items.getLast? = some last) (member : item ∈ items) :
    item = last ∨ relation item last := by
  obtain ⟨front, rfl⟩ := List.getLast?_eq_some_iff.mp ends
  rcases List.mem_append.mp member with earlier | same
  · exact .inr ((List.pairwise_append.mp ordered).2.2 item earlier last (List.mem_singleton_self last))
  · exact .inl (List.mem_singleton.mp same)

theorem head_rel {relation : α → α → Prop} {items : List α} {first item : α}
    (ordered : items.Pairwise relation) (starts : items.head? = some first) (member : item ∈ items) :
    item = first ∨ relation first item := by
  cases items with
  | nil => cases member
  | cons head rest =>
    obtain rfl : head = first := Option.some.inj starts
    rcases List.mem_cons.mp member with same | later
    · exact .inl same
    · exact .inr ((List.pairwise_cons.mp ordered).1 item later)

/-- Two items of an ordered list are related one way or the other. -/
theorem rel_trichotomy {relation : α → α → Prop} {items : List α} {left right : α}
    (ordered : items.Pairwise relation) (first : left ∈ items) (second : right ∈ items) :
    left = right ∨ relation left right ∨ relation right left := by
  obtain ⟨i, bound, rfl⟩ := List.mem_iff_getElem.mp first
  obtain ⟨j, bound', rfl⟩ := List.mem_iff_getElem.mp second
  have related := List.pairwise_iff_getElem.mp ordered
  rcases lt_trichotomy i j with before | same | after
  · exact .inr (.inl (related i j bound bound' before))
  · subst same
    exact .inl rfl
  · exact .inr (.inr (related j i bound' bound after))

/-- An item that follows the last one follows them all. -/
theorem pairwise_snoc_of_last {relation : α → α → Prop} {items : List α} {last item : α}
    (transitive : ∀ first second third, relation first second → relation second third →
      relation first third)
    (ordered : items.Pairwise relation) (ends : items.getLast? = some last)
    (next : relation last item) : (items ++ [item]).Pairwise relation := by
  rw [List.pairwise_append]
  refine ⟨ordered, List.pairwise_singleton _ _, ?_⟩
  intro earlier member later single
  rw [List.mem_singleton.mp single]
  rcases rel_getLast ordered ends member with rfl | before
  · exact next
  · exact transitive _ _ _ before next

end LiveStream.Support
