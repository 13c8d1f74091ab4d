import Mathlib

/-! The longest run at the head of a list in which neighbours are linked, and sums over its links. -/

namespace LiveStream.Support

universe u v

variable {α : Type u} {ρ : Type v} (linked : α → α → Prop)

/-- A prefix whose neighbours are linked, and no longer prefix has that. -/
structure IsHeadRun (items run : List α) : Prop where
  head : run <+: items
  chained : run.IsChain linked
  longest : ∀ longer, longer <+: items → longer.IsChain linked → longer.length ≤ run.length

def headRun [DecidableRel linked] : List α → List α
  | [] => []
  | [item] => [item]
  | item :: next :: rest => if linked item next then item :: headRun (next :: rest) else [item]

/-- A measure of the links, summed over a list. -/
def overLinks [AddMonoid ρ] (measure : α → α → ρ) : List α → ρ
  | item :: next :: rest => measure item next + overLinks measure (next :: rest)
  | _ => 0

variable {linked}

section Runs

variable [DecidableRel linked]

variable (linked) in
theorem headRun_cons (item : α) (items : List α) : ∃ rest, headRun linked (item :: items) = item :: rest := by
  cases items with
  | nil => exact ⟨[], rfl⟩
  | cons next rest =>
    rw [headRun]
    split
    · exact ⟨_, rfl⟩
    · exact ⟨[], rfl⟩

theorem headRun_cons_of_linked {item next : α} {rest : List α} (link : linked item next) :
    headRun linked (item :: next :: rest) = item :: headRun linked (next :: rest) := by
  rw [headRun, if_pos link]

theorem headRun_cons_of_not {item next : α} {rest : List α} (apart : ¬ linked item next) :
    headRun linked (item :: next :: rest) = [item] := by
  rw [headRun, if_neg apart]

variable (linked) in
theorem isHeadRun_headRun (items : List α) : IsHeadRun linked items (headRun linked items) := by
  induction items with
  | nil => exact ⟨List.prefix_refl _, .nil, fun longer sub _ => by simp [List.prefix_nil.mp sub, headRun]⟩
  | cons item items inductionHypothesis =>
    cases items with
    | nil =>
      refine ⟨List.prefix_refl _, .singleton _, ?_⟩
      intro longer sub _
      exact sub.length_le
    | cons next rest =>
      by_cases link : linked item next
      · rw [headRun_cons_of_linked link]
        obtain ⟨tail, shape⟩ := headRun_cons linked next rest
        constructor
        · exact List.prefix_cons_inj item |>.mpr inductionHypothesis.head
        · rw [shape]
          exact .cons_cons link (shape ▸ inductionHypothesis.chained)
        · intro longer sub chained
          cases longer with
          | nil => simp
          | cons first others =>
            obtain ⟨rfl, within⟩ := List.cons_prefix_cons.mp sub
            have shorter := inductionHypothesis.longest others within chained.of_cons
            simpa using shorter
      · rw [headRun_cons_of_not link]
        refine ⟨by simp, .singleton _, ?_⟩
        intro longer sub chained
        cases longer with
        | nil => simp
        | cons first others =>
          obtain ⟨rfl, within⟩ := List.cons_prefix_cons.mp sub
          cases others with
          | nil => simp
          | cons second others =>
            obtain ⟨rfl, -⟩ := List.cons_prefix_cons.mp within
            exact absurd (List.isChain_cons_cons.mp chained).1 link

/-- There is one such run only. -/
theorem IsHeadRun.eq_headRun {items run : List α} (isRun : IsHeadRun linked items run) :
    run = headRun linked items := by
  have other := isHeadRun_headRun linked items
  have shorter := other.longest run isRun.head isRun.chained
  have longer := isRun.longest _ other.head other.chained
  exact (List.prefix_of_prefix_length_le isRun.head other.head shorter).eq_of_length
    (le_antisymm shorter longer)

end Runs

/-- Over the links of a chain one measure stays below another where it does on every link. -/
theorem overLinks_le [AddCommMonoid ρ] [PartialOrder ρ] [IsOrderedAddMonoid ρ]
    {lower upper : α → α → ρ} {items : List α} (chained : items.IsChain linked)
    (below : ∀ item next, linked item next → lower item next ≤ upper item next) :
    overLinks lower items ≤ overLinks upper items := by
  induction items with
  | nil => exact le_rfl
  | cons item items inductionHypothesis =>
    cases items with
    | nil => exact le_rfl
    | cons next rest =>
      obtain ⟨link, chained⟩ := List.isChain_cons_cons.mp chained
      exact add_le_add (below item next link) (inductionHypothesis chained)

/-- Differences add up to the difference of the ends. -/
theorem overLinks_sub [AddCommGroup ρ] (place : α → ρ) (item : α) (items : List α) :
    overLinks (fun left right => place left - place right) (item :: items) =
      place item - place ((item :: items).getLast (List.cons_ne_nil item items)) := by
  induction items generalizing item with
  | nil => simp [overLinks]
  | cons next rest inductionHypothesis =>
    rw [overLinks, inductionHypothesis, List.getLast_cons (List.cons_ne_nil next rest)]
    abel

end LiveStream.Support
