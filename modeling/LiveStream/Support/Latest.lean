import LiveStream.Support.Keyed

/-! The latest item of each key, as a dictionary filled in one pass keeps it, and what
sorting by a key without repetitions gives. -/

namespace LiveStream.Support

universe u v w

variable {α : Type u} {κ : Type v} {ρ : Type w} [DecidableEq κ] [LinearOrder ρ]
variable {key : α → κ} {rank : α → ρ} {items : List α}

/-- `if key not in latest or rank(item) > rank(latest[key]): latest[key] = item`. -/
def keepLatest (key : α → κ) (rank : α → ρ) (latest : List α) (item : α) : List α :=
  match lookup key latest (key item) with
  | some previous => if rank previous < rank item then upsert key latest item else latest
  | none => upsert key latest item

def latestBy (key : α → κ) (rank : α → ρ) (items : List α) : List α :=
  items.foldl (keepLatest key rank) []

/-- An item that no item of its key outranks. -/
def IsLatest (key : α → κ) (rank : α → ρ) (items : List α) (item : α) : Prop :=
  item ∈ items ∧ ∀ other ∈ items, key other = key item → rank other ≤ rank item

/-- What the dictionary holds after some items: one latest item for each key seen. -/
structure HoldsLatest (key : α → κ) (rank : α → ρ) (items latest : List α) : Prop where
  unique : (latest.map key).Nodup
  greatest : ∀ item ∈ latest, IsLatest key rank items item
  covers : ∀ item ∈ items, ∃ held ∈ latest, key held = key item

theorem holdsLatest_keepLatest {latest : List α} (holds : HoldsLatest key rank items latest)
    (item : α) : HoldsLatest key rank (items ++ [item]) (keepLatest key rank latest item) := by
  -- the item takes the place of its key: nothing seen so far outranks it
  have placed (newest : ∀ other ∈ items, key other = key item → rank other ≤ rank item) :
      HoldsLatest key rank (items ++ [item]) (upsert key latest item) := by
    refine ⟨nodup_upsert holds.unique item, ?_, ?_⟩
    · intro held member
      rcases mem_upsert.mp member with rfl | ⟨old, apart⟩
      · refine ⟨by simp, ?_⟩
        intro other seen same
        rcases List.mem_append.mp seen with before | now
        · exact newest other before same
        · rw [List.mem_singleton.mp now]
      · obtain ⟨owned, greatest⟩ := holds.greatest held old
        refine ⟨List.mem_append_left _ owned, ?_⟩
        intro other seen same
        rcases List.mem_append.mp seen with before | now
        · exact greatest other before same
        · rw [List.mem_singleton.mp now] at same
          exact absurd same.symm apart
    · intro other seen
      by_cases same : key other = key item
      · exact ⟨item, mem_upsert.mpr (Or.inl rfl), same.symm⟩
      · rcases List.mem_append.mp seen with before | now
        · obtain ⟨held, member, named⟩ := holds.covers other before
          exact ⟨held, mem_upsert.mpr (Or.inr ⟨member, named ▸ same⟩), named⟩
        · exact absurd (congrArg key (List.mem_singleton.mp now)) same
  unfold keepLatest
  cases found : lookup key latest (key item) with
  | none =>
    apply placed
    intro other before same
    obtain ⟨held, member, named⟩ := holds.covers other before
    exact absurd (named.trans same) (lookup_none found held member)
  | some previous =>
    obtain ⟨member, named⟩ := lookup_some found
    obtain ⟨owned, greatest⟩ := holds.greatest previous member
    dsimp only
    by_cases newer : rank previous < rank item
    · rw [if_pos newer]
      apply placed
      intro other before same
      exact (greatest other before (same.trans named.symm)).trans newer.le
    · rw [if_neg newer]
      refine ⟨holds.unique, ?_, ?_⟩
      · intro held listed
        obtain ⟨known, highest⟩ := holds.greatest held listed
        refine ⟨List.mem_append_left _ known, ?_⟩
        intro other seen same
        rcases List.mem_append.mp seen with before | now
        · exact highest other before same
        · rw [List.mem_singleton.mp now] at same ⊢
          have twin : held = previous := eq_of_key holds.unique listed member (same.symm.trans named.symm)
          rw [twin]
          exact not_lt.mp newer
      · intro other seen
        rcases List.mem_append.mp seen with before | now
        · exact holds.covers other before
        · rw [List.mem_singleton.mp now]
          exact ⟨previous, member, named⟩

/-- One pass over the items finds a latest item of each key. -/
theorem holdsLatest_latestBy (key : α → κ) (rank : α → ρ) (items : List α) :
    HoldsLatest key rank items (latestBy key rank items) := by
  induction items using List.reverseRecOn with
  | nil => exact ⟨List.nodup_nil, by simp [latestBy], by simp⟩
  | append_singleton before item inductionHypothesis =>
    rw [latestBy, List.foldl_append]
    exact holdsLatest_keepLatest inductionHypothesis item

/-- Where equal keys and ranks mean the same item, the pass finds exactly the latest items. -/
theorem mem_latestBy_iff
    (named : ∀ left ∈ items, ∀ right ∈ items, key left = key right → rank left = rank right → left = right)
    {item : α} : item ∈ latestBy key rank items ↔ IsLatest key rank items item := by
  have holds := holdsLatest_latestBy key rank items
  constructor
  · exact holds.greatest item
  · rintro ⟨member, greatest⟩
    obtain ⟨held, listed, same⟩ := holds.covers item member
    obtain ⟨owned, highest⟩ := holds.greatest held listed
    have equal : rank held = rank item :=
      le_antisymm (greatest held owned same) (highest item member same.symm)
    rwa [← named held owned item member same equal]

/-- Every item is outranked by a latest one of its key, or is one. -/
theorem exists_isLatest (key : α → κ) (rank : α → ρ) {item : α} (member : item ∈ items) :
    ∃ latest, IsLatest key rank items latest ∧ key latest = key item ∧ rank item ≤ rank latest := by
  have holds := holdsLatest_latestBy key rank items
  obtain ⟨held, listed, same⟩ := holds.covers item member
  have latest := holds.greatest held listed
  exact ⟨held, latest, same, latest.2 item member same.symm⟩

/-- Two lists that differ only by items that are not the latest of their key have the same
latest items. -/
theorem isLatest_iff_of_agree {others : List α}
    (left : ∀ item, IsLatest key rank items item → item ∈ others)
    (right : ∀ item, IsLatest key rank others item → item ∈ items) {item : α} :
    IsLatest key rank items item ↔ IsLatest key rank others item := by
  have half : ∀ {first second : List α},
      (∀ item, IsLatest key rank first item → item ∈ second) →
      (∀ item, IsLatest key rank second item → item ∈ first) →
      ∀ item, IsLatest key rank first item → IsLatest key rank second item := by
    intro first second forth back item latest
    refine ⟨forth item latest, ?_⟩
    intro other member same
    obtain ⟨greatest, isLatest, twin, above⟩ := exists_isLatest key rank member
    exact above.trans (latest.2 greatest (back greatest isLatest) (twin.trans same))
  exact ⟨half left right item, half right left item⟩

/-- The pass over such lists finds the same items, in some order. -/
theorem latestBy_perm {others : List α}
    (named : ∀ left ∈ items, ∀ right ∈ items, key left = key right → rank left = rank right → left = right)
    (namedToo : ∀ left ∈ others, ∀ right ∈ others, key left = key right → rank left = rank right →
      left = right)
    (left : ∀ item, IsLatest key rank items item → item ∈ others)
    (right : ∀ item, IsLatest key rank others item → item ∈ items) :
    (latestBy key rank items).Perm (latestBy key rank others) := by
  apply (List.perm_ext_iff_of_nodup (holdsLatest_latestBy key rank items).unique.of_map
    (holdsLatest_latestBy key rank others).unique.of_map).mpr
  intro item
  rw [mem_latestBy_iff named, mem_latestBy_iff namedToo]
  exact isLatest_iff_of_agree left right

/-- `sorted(items, key=…)`. -/
def sortBy (rank : α → ρ) (items : List α) : List α :=
  items.insertionSort fun left right => rank left ≤ rank right

theorem sortBy_perm (rank : α → ρ) (items : List α) : (sortBy rank items).Perm items :=
  List.perm_insertionSort _ items

/-- Sorting by a key that no two items share leaves no trace of the order before it. -/
theorem sortBy_eq_of_perm {others : List α} (perm : items.Perm others)
    (apart : (items.map rank).Nodup) : sortBy rank items = sortBy rank others := by
  have sorted (list : List α) : (sortBy rank list).Pairwise fun left right => rank left ≤ rank right :=
    List.pairwise_insertionSort _ list
  refine List.Perm.eq_of_pairwise ?_ (sorted items) (sorted others)
    ((sortBy_perm rank items).trans (perm.trans (sortBy_perm rank others).symm))
  intro left right leftMember rightMember below above
  exact List.inj_on_of_nodup_map apart ((sortBy_perm rank items).mem_iff.mp leftMember)
    (perm.mem_iff.mpr ((sortBy_perm rank others).mem_iff.mp rightMember)) (le_antisymm below above)

/-- `ORDER BY … LIMIT 1` finds an item that no other item precedes. -/
theorem head?_sortBy {rank : α → ρ} {items : List α} {item : α}
    (found : (sortBy rank items).head? = some item) :
    item ∈ items ∧ ∀ other ∈ items, rank item ≤ rank other := by
  have sorted : (sortBy rank items).Pairwise fun left right => rank left ≤ rank right :=
    List.pairwise_insertionSort _ items
  obtain ⟨rest, shape⟩ := List.head?_eq_some_iff.mp found
  have member (other : α) : other ∈ items ↔ other = item ∨ other ∈ rest := by
    rw [← (sortBy_perm rank items).mem_iff, shape, List.mem_cons]
  rw [shape, List.pairwise_cons] at sorted
  refine ⟨(member item).mpr (.inl rfl), ?_⟩
  intro other listed
  rcases (member other).mp listed with rfl | later
  · exact le_rfl
  · exact sorted.1 other later

theorem head?_sortBy_none {rank : α → ρ} {items : List α}
    (absent : (sortBy rank items).head? = none) : items = [] := by
  have empty : sortBy rank items = [] := List.head?_eq_none_iff.mp absent
  exact List.perm_nil.mp (empty ▸ (sortBy_perm rank items).symm)

omit [DecidableEq κ] in
/-- A key that the views of items keep is as free of repetitions as the items' own. -/
theorem nodup_filterMap_key {β : Type u} {γ : Type v} {view : α → Option β} {tag : β → γ}
    (name : γ → κ) (unique : (items.map key).Nodup)
    (keeps : ∀ item seen, view item = some seen → name (tag seen) = key item) :
    ((items.filterMap view).map tag).Nodup := by
  rw [List.Nodup, List.pairwise_map, List.pairwise_filterMap]
  rw [List.Nodup, List.pairwise_map] at unique
  apply unique.imp
  intro left right apart seen leftSeen other rightSeen same
  apply apart
  rw [← keeps left seen leftSeen, ← keeps right other rightSeen, same]

/-- `max(items)` depends only on which items there are. -/
theorem max?_congr {left right : List ρ} (same : ∀ item, item ∈ left ↔ item ∈ right) :
    left.max? = right.max? := by
  apply Option.ext
  intro item
  simp only [List.max?_eq_some_iff, same]

theorem min?_congr {left right : List ρ} (same : ∀ item, item ∈ left ↔ item ∈ right) :
    left.min? = right.min? := by
  apply Option.ext
  intro item
  simp only [List.min?_eq_some_iff, same]

end LiveStream.Support
