import Mathlib

/-! Tables as lists of rows: `UPDATE … WHERE`, and what a unique key gives. -/

namespace LiveStream.Support

universe u v w

variable {α : Type u} {β : Type v} {κ : Type w}

/-- `UPDATE … WHERE`: the rows that match are rewritten in place. -/
def updateWhere (matched : α → Bool) (rewrite : α → α) (rows : List α) : List α :=
  rows.map fun row => if matched row then rewrite row else row

/-- An update of rows that are views of items is a move of the items. -/
theorem updateWhere_map {matched : α → Bool} {rewrite : α → α} (view : β → α) (move : β → β)
    (items : List β)
    (agree : ∀ item ∈ items,
      (if matched (view item) then rewrite (view item) else view item) = view (move item)) :
    updateWhere matched rewrite (items.map view) = (items.map move).map view := by
  simp only [updateWhere, List.map_map]
  exact List.map_congr_left agree

theorem updateWhere_of_none {matched : α → Bool} {rewrite : α → α} {rows : List α}
    (none : ∀ row ∈ rows, matched row = false) : updateWhere matched rewrite rows = rows := by
  refine (List.map_congr_left fun row member => ?_).trans (List.map_id rows)
  simp [none row member]

/-- Rows with the same unique key are the same row. -/
theorem eq_of_key {key : α → κ} {rows : List α} (unique : (rows.map key).Nodup) {left right : α}
    (leftMember : left ∈ rows) (rightMember : right ∈ rows) (same : key left = key right) :
    left = right :=
  List.inj_on_of_nodup_map unique leftMember rightMember same

/-- The same for a key that a row may lack. -/
theorem eq_of_optionalKey {key : α → Option κ} {rows : List α}
    (unique : (rows.filterMap key).Nodup) {left right : α} {token : κ}
    (leftMember : left ∈ rows) (rightMember : right ∈ rows)
    (leftKey : key left = some token) (rightKey : key right = some token) : left = right := by
  induction rows with
  | nil => cases leftMember
  | cons row rest inductionHypothesis =>
    have unique' : (rest.filterMap key).Nodup :=
      unique.sublist ((List.sublist_cons_self row rest).filterMap key)
    have apart : ∀ other ∈ rest, key row = some token → key other ≠ some token := by
      intro other member rowKey otherKey
      rw [List.filterMap_cons_some rowKey, List.nodup_cons] at unique
      exact unique.1 (List.mem_filterMap.mpr ⟨other, member, otherKey⟩)
    rcases List.mem_cons.mp leftMember with rfl | leftTail
    · rcases List.mem_cons.mp rightMember with rfl | rightTail
      · rfl
      · exact absurd rightKey (apart right rightTail leftKey)
    · rcases List.mem_cons.mp rightMember with rfl | rightTail
      · exact absurd leftKey (apart left leftTail rightKey)
      · exact inductionHypothesis unique' leftTail rightTail

theorem find?_key [DecidableEq κ] {key : α → κ} {rows : List α} (unique : (rows.map key).Nodup)
    {row : α} (member : row ∈ rows) :
    rows.find? (fun other => key other = key row) = some row := by
  cases found : rows.find? (fun other => key other = key row) with
  | none => simpa using List.find?_eq_none.mp found row member
  | some other =>
    have same : key other = key row := by simpa using List.find?_some found
    rw [eq_of_key unique (List.mem_of_find?_eq_some found) member same]

/-- At most one row has a given unique key, so an update by key changes one row
exactly when it finds one. -/
theorem countP_key_eq_one [DecidableEq κ] {key : α → κ} {rows : List α}
    (unique : (rows.map key).Nodup) (sought : κ) (guard : α → Bool) :
    rows.countP (fun row => key row = sought && guard row) = 1 ↔
      ∃ row ∈ rows, key row = sought ∧ guard row = true := by
  have atMost : rows.countP (fun row => key row = sought && guard row) ≤ 1 := by
    calc rows.countP (fun row => key row = sought && guard row)
        ≤ rows.countP (fun row => key row = sought) :=
          List.countP_mono_left fun row _ both => by
            simpa using (Bool.and_eq_true_iff.mp both).1
      _ = (rows.map key).count sought := by
          rw [List.count, List.countP_map]
          exact List.countP_congr fun row _ => by simp
      _ ≤ 1 := List.nodup_iff_count_le_one.mp unique sought
  have positive : 0 < rows.countP (fun row => key row = sought && guard row) ↔
      ∃ row ∈ rows, key row = sought ∧ guard row = true := by
    simp [List.countP_pos_iff]
  rw [← positive]
  omega

/-- A row with a new key keeps the keys unique. -/
theorem nodup_map_append {key : α → κ} {rows : List α} {fresh : α}
    (unique : (rows.map key).Nodup) (new : ∀ row ∈ rows, key row ≠ key fresh) :
    ((rows ++ [fresh]).map key).Nodup := by
  rw [List.map_append, List.nodup_append]
  refine ⟨unique, List.nodup_singleton _, ?_⟩
  intro _ member _ added
  obtain ⟨row, owned, rfl⟩ := List.mem_map.mp member
  obtain rfl := List.mem_singleton.mp added
  exact new row owned

theorem nodup_filterMap_append {key : α → Option κ} {rows : List α} {fresh : α}
    (unique : (rows.filterMap key).Nodup)
    (new : ∀ row ∈ rows, ∀ token, key row = some token → key fresh ≠ some token) :
    ((rows ++ [fresh]).filterMap key).Nodup := by
  rw [List.filterMap_append]
  cases carried : key fresh with
  | none => simpa [List.filterMap_cons, carried] using unique
  | some token =>
    rw [List.nodup_append]
    refine ⟨unique, by simp [carried], ?_⟩
    intro _ member other added
    obtain ⟨row, owned, known⟩ := List.mem_filterMap.mp member
    obtain rfl : other = token := by simpa [List.filterMap_cons, carried] using added
    rintro rfl
    exact new row owned _ known carried

end LiveStream.Support
