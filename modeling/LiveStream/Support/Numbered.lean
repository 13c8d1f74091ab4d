import Mathlib

/-! Lists whose elements are numbered one after the other. -/

namespace LiveStream.Support

universe u

variable {α : Type u} (number : α → ℕ)

/-- Each element has the number after the one before it. -/
def Numbered (items : List α) : Prop :=
  items.IsChain fun left right => number right = number left + 1

variable {number} {items : List α}

theorem Numbered.suffix {later : List α} (numbered : Numbered number items)
    (suffix : later <:+ items) : Numbered number later :=
  List.IsChain.suffix numbered suffix

theorem Numbered.take (numbered : Numbered number items) (count : ℕ) :
    Numbered number (items.take count) :=
  List.IsChain.take numbered count

/-- A list stays numbered behind its last element. -/
theorem Numbered.snoc (numbered : Numbered number items) {item : α}
    (next : ∀ last ∈ items.getLast?, number item = number last + 1) :
    Numbered number (items ++ [item]) := by
  apply List.IsChain.append numbered (List.isChain_singleton _)
  intro last member first found
  cases Option.mem_some_iff.mp found
  exact next last member

/-- The elements numbered above a bound are the ones from some place on. -/
theorem filter_above_eq_drop {head : α} {rest : List α} (numbered : Numbered number (head :: rest))
    (bound : ℕ) :
    (head :: rest).filter (bound < number ·) = (head :: rest).drop (bound + 1 - number head) := by
  induction rest generalizing head with
  | nil =>
    by_cases above : bound < number head
    · rw [show bound + 1 - number head = 0 by omega]
      simp [above]
    · obtain ⟨more, shape⟩ : ∃ more, bound + 1 - number head = more + 1 :=
        ⟨bound - number head, by omega⟩
      simp [above, shape]
  | cons second rest inductionHypothesis =>
    obtain ⟨next, later⟩ := List.isChain_cons_cons.mp numbered
    rw [List.filter_cons, inductionHypothesis later]
    by_cases above : bound < number head
    · rw [show bound + 1 - number head = 0 by omega, show bound + 1 - number second = 0 by omega]
      simp [above]
    · rw [show bound + 1 - number head = (bound + 1 - number second) + 1 by omega]
      simp [above]

/-- The elements numbered above a bound are numbered too. -/
theorem Numbered.filter_above (numbered : Numbered number items) (bound : ℕ) :
    Numbered number (items.filter (bound < number ·)) := by
  cases items with
  | nil => exact numbered
  | cons head rest =>
    rw [filter_above_eq_drop numbered]
    exact numbered.suffix (List.drop_suffix ..)

/-- Above a bound that the first element does not leave behind, the numbers go on right there. -/
theorem Numbered.head_filter_above {head first : α} {rest : List α}
    (numbered : Numbered number (head :: rest)) {bound : ℕ} (near : number head ≤ bound + 1)
    (found : ((head :: rest).filter (bound < number ·)).head? = some first) :
    number first = bound + 1 := by
  induction rest generalizing head with
  | nil =>
    rw [List.filter_cons] at found
    split at found
    · rename_i above
      cases found
      simp only [decide_eq_true_eq] at above
      omega
    · cases found
  | cons second rest inductionHypothesis =>
    obtain ⟨next, later⟩ := List.isChain_cons_cons.mp numbered
    rw [List.filter_cons] at found
    split at found
    · rename_i above
      cases found
      simp only [decide_eq_true_eq] at above
      omega
    · rename_i below
      simp only [decide_eq_true_eq] at below
      exact inductionHypothesis later (by omega) found

/-- Just below an element the elements above start with it. -/
theorem Numbered.filter_above_pred (numbered : Numbered number items) {item : α}
    (member : item ∈ items) (positive : 0 < number item) :
    (items.filter (number item - 1 < number ·)).head? = some item := by
  induction items with
  | nil => cases member
  | cons head rest inductionHypothesis =>
    have later : Numbered number rest := numbered.suffix (List.suffix_cons ..)
    rcases List.mem_cons.mp member with rfl | member
    · simp [List.filter_cons, show number item - 1 < number item by omega]
    · have lower : number head < number item := by
        have sorted : List.Pairwise (fun left right => number left < number right) (head :: rest) :=
          List.isChain_iff_pairwise.mp (List.IsChain.imp (fun _ _ next => by omega) numbered)
        exact (List.pairwise_cons.mp sorted).1 item member
      rw [List.filter_cons_of_neg (by simp; omega)]
      exact inductionHypothesis later member

end LiveStream.Support
