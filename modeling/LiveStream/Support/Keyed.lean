import LiveStream.Support.Rows

/-! Tables with a primary key: the insertion of a row that replaces the one with its key, and
the number of rows of a kind before and after it. -/

namespace LiveStream.Support

universe u v

variable {α : Type u} {κ : Type v} [DecidableEq κ] {key : α → κ} {rows : List α}

/-- `SELECT … WHERE key = ?`. -/
def lookup (key : α → κ) (rows : List α) (sought : κ) : Option α :=
  rows.find? fun row => key row = sought

/-- `INSERT … ON CONFLICT(key) DO UPDATE` of every column. -/
def upsert (key : α → κ) (rows : List α) (fresh : α) : List α :=
  match lookup key rows (key fresh) with
  | some _ => updateWhere (fun row => key row = key fresh) (fun _ => fresh) rows
  | none => rows ++ [fresh]

theorem lookup_some {sought : κ} {row : α} (found : lookup key rows sought = some row) :
    row ∈ rows ∧ key row = sought := by
  refine ⟨List.mem_of_find?_eq_some found, ?_⟩
  simpa using List.find?_some found

theorem lookup_none {sought : κ} (absent : lookup key rows sought = none) :
    ∀ row ∈ rows, key row ≠ sought := by
  intro row member same
  simpa [same] using List.find?_eq_none.mp absent row member

theorem lookup_of_mem (unique : (rows.map key).Nodup) {row : α} (member : row ∈ rows) :
    lookup key rows (key row) = some row :=
  find?_key unique member

@[simp] theorem lookup_upsert_self (fresh : α) :
    lookup key (upsert key rows fresh) (key fresh) = some fresh := by
  unfold upsert
  cases found : lookup key rows (key fresh) with
  | some old =>
    have same : (fun row => decide (key (if key row = key fresh then fresh else row) = key fresh)) =
        fun row => decide (key row = key fresh) := by
      funext row
      by_cases hit : key row = key fresh
      · simp [hit]
      · simp [hit]
    simp only [lookup, updateWhere, decide_eq_true_eq, List.find?_map, Function.comp_def, same]
    have named := (lookup_some found).2
    simp only [lookup] at found
    rw [found, Option.map_some, if_pos named]
  | none =>
    simp only [lookup] at found ⊢
    rw [List.find?_append, found]
    simp

theorem lookup_upsert_of_ne {fresh : α} {other : κ} (apart : other ≠ key fresh) :
    lookup key (upsert key rows fresh) other = lookup key rows other := by
  unfold upsert
  cases lookup key rows (key fresh) with
  | some old =>
    have same : (fun row => decide (key (if key row = key fresh then fresh else row) = other)) =
        fun row => decide (key row = other) := by
      funext row
      by_cases hit : key row = key fresh
      · simp [hit, apart.symm]
      · simp [hit]
    simp only [lookup, updateWhere, decide_eq_true_eq, List.find?_map, Function.comp_def, same]
    cases sought : rows.find? fun row => decide (key row = other) with
    | none => rfl
    | some row =>
      have named : key row = other := (lookup_some sought).2
      rw [Option.map_some, if_neg (named ▸ apart)]
  | none =>
    simp only [lookup]
    rw [List.find?_append]
    simp [apart.symm]

/-- A rewriting that keeps the keys keeps them unique. -/
theorem map_key_updateWhere {matched : α → Bool} {rewrite : α → α}
    (keeps : ∀ row ∈ rows, matched row = true → key (rewrite row) = key row) :
    (updateWhere matched rewrite rows).map key = rows.map key := by
  rw [updateWhere, List.map_map]
  apply List.map_congr_left
  intro row member
  by_cases hit : matched row = true
  · simp [hit, keeps row member hit]
  · simp [hit]

theorem nodup_upsert (unique : (rows.map key).Nodup) (fresh : α) :
    ((upsert key rows fresh).map key).Nodup := by
  unfold upsert
  cases found : lookup key rows (key fresh) with
  | some old =>
    dsimp only
    rw [map_key_updateWhere]
    · exact unique
    · intro row _ matched
      exact (of_decide_eq_true matched).symm
  | none => exact nodup_map_append unique (lookup_none found)

theorem mem_upsert {fresh row : α} :
    row ∈ upsert key rows fresh ↔ row = fresh ∨ (row ∈ rows ∧ key row ≠ key fresh) := by
  unfold upsert
  cases found : lookup key rows (key fresh) with
  | some old =>
    obtain ⟨member, same⟩ := lookup_some found
    rw [updateWhere, List.mem_map]
    constructor
    · rintro ⟨other, listed, rfl⟩
      by_cases hit : key other = key fresh
      · left
        simp [hit]
      · right
        simp [hit, listed]
    · rintro (rfl | ⟨listed, apart⟩)
      · exact ⟨old, member, by simp [same]⟩
      · exact ⟨row, listed, by simp [apart]⟩
  | none =>
    have absent := lookup_none found
    rw [List.mem_append, List.mem_singleton]
    constructor
    · rintro (listed | rfl)
      · exact Or.inr ⟨listed, absent row listed⟩
      · exact Or.inl rfl
    · rintro (rfl | ⟨listed, _⟩)
      · exact Or.inr rfl
      · exact Or.inl listed

/-- The rows of a kind, counted before and after one of them is replaced. -/
theorem countP_upsert (unique : (rows.map key).Nodup) (fresh : α) (kind : α → Bool) :
    (upsert key rows fresh).countP kind + ((lookup key rows (key fresh)).toList.countP kind) =
      rows.countP kind + [fresh].countP kind := by
  unfold upsert
  cases found : lookup key rows (key fresh) with
  | none => simp [List.countP_append]
  | some old =>
    obtain ⟨member, same⟩ := lookup_some found
    dsimp only
    obtain ⟨before, after, rfl⟩ := List.append_of_mem member
    rw [List.map_append, List.map_cons] at unique
    obtain ⟨_, later, apart⟩ := List.nodup_append.mp unique
    have kept : ∀ side : List α, (∀ row ∈ side, key row ≠ key fresh) →
        updateWhere (fun row => decide (key row = key fresh)) (fun _ => fresh) side = side :=
      fun side other => updateWhere_of_none fun row listed => decide_eq_false (other row listed)
    have front := kept before fun row listed hit =>
      apart _ (List.mem_map_of_mem listed) (key old) (List.mem_cons_self ..) (hit.trans same.symm)
    have back := kept after fun row listed hit =>
      (List.nodup_cons.mp later).1 (same.trans hit.symm ▸ List.mem_map_of_mem listed)
    have joined : updateWhere (fun row => decide (key row = key fresh)) (fun _ => fresh)
        (before ++ old :: after) = before ++ fresh :: after := by
      simp only [updateWhere, List.map_append, List.map_cons] at front back ⊢
      rw [front, back, same, if_pos (decide_eq_true rfl)]
    rw [joined]
    simp only [List.countP_append, List.countP_cons, List.countP_nil, Option.toList_some]
    omega

/-- A kind that two disjoint kinds make up. -/
theorem countP_split {kind first second : α → Bool}
    (parts : ∀ row, kind row = (first row || second row))
    (disjoint : ∀ row, first row = true → second row = false) :
    rows.countP kind = rows.countP first + rows.countP second := by
  induction rows with
  | nil => rfl
  | cons row rest inductionHypothesis =>
    have apart := disjoint row
    simp only [List.countP_cons, inductionHypothesis, parts row]
    cases here : first row with
    | true =>
      rw [apart here]
      simp
      omega
    | false =>
      simp
      omega

end LiveStream.Support
