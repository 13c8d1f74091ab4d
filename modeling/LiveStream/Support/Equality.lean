import LiveStream.Support.Mapping

/-! `==` on JSON values as a partial equivalence. -/

namespace LiveStream.Support

theorem Double.same_trans {first second third : Double} (left : first.same second = true)
    (right : second.same third = true) : first.same third = true := by
  cases first <;> cases second <;> cases third <;> simp_all [Double.same]

private theorem number_same {number : Double} {left right : Value}
    (same : left.double?.any (Double.same number) = true) (next : left.same right = true) :
    right.double?.any (Double.same number) = true := by
  cases left with
  | none | str _ | list _ | dict _ | foreign => simp [Value.double?] at same
  | bool flag =>
    rw [Value.same] at next
    obtain ⟨other, found, equal⟩ := (Option.any_eq_true ..).mp next
    rw [found]
    exact Double.same_trans (by simpa [Value.double?] using same) equal
  | int value =>
    rw [Value.same] at next
    obtain ⟨other, found, equal⟩ := (Option.any_eq_true ..).mp next
    rw [found]
    exact Double.same_trans (by simpa [Value.double?] using same) equal
  | float value =>
    rw [Value.same] at next
    obtain ⟨other, found, equal⟩ := (Option.any_eq_true ..).mp next
    rw [found]
    exact Double.same_trans (by simpa [Value.double?] using same) equal

/-- The entries of one mapping are found in the other. -/
theorem sameMappings_iff {fields : List (String × Value)} {others : Fields} :
    sameMappings fields others = true ↔
      ∀ field ∈ fields, ∃ found, others.get? field.1 = some found ∧ field.2.same found = true := by
  induction fields with
  | nil => simp [sameMappings]
  | cons field rest inductionHypothesis =>
    obtain ⟨key, value⟩ := field
    rw [sameMappings, Bool.and_eq_true, inductionHypothesis, sameEntry, Option.any_eq_true]
    simp

theorem Fields.mem_of_get? {fields : Fields} {key : String} {value : Value}
    (found : fields.get? key = some value) : (key, value) ∈ fields := by
  induction fields with
  | nil => cases found
  | cons field rest inductionHypothesis =>
    obtain ⟨name, entry⟩ := field
    rw [Fields.get?, List.lookup_cons] at found
    by_cases here : key = name
    · subst here
      simp only [BEq.rfl, Option.some.injEq] at found
      exact found ▸ List.mem_cons_self
    · have apart : (key == name) = false := by simpa using here
      rw [apart] at found
      exact List.mem_cons_of_mem _ (inductionHypothesis found)

mutual

theorem Value.same_trans : ∀ {first second third : Value}, first.same second = true →
    second.same third = true → first.same third = true
  | .none, second, third, left, right => by
    cases second <;> simp [Value.same, Value.isNone] at left
    simpa [Value.same] using right
  | .str text, second, third, left, right => by
    cases second <;> simp [Value.same, Value.isText, Value.text?] at left
    subst left
    exact right
  | .bool _, second, third, left, right => by
    rw [Value.same] at left ⊢
    exact number_same left right
  | .int _, second, third, left, right => by
    rw [Value.same] at left ⊢
    exact number_same left right
  | .float _, second, third, left, right => by
    rw [Value.same] at left ⊢
    exact number_same left right
  | .foreign, second, third, left, right => by simp [Value.same] at left
  | .list items, second, third, left, right => by
    cases second <;> simp only [Value.same, Bool.false_eq_true] at left
    cases third <;> simp only [Value.same, Bool.false_eq_true] at right
    rw [Value.same]
    exact sameValues_trans left right
  | .dict fields, second, third, left, right => by
    cases second <;> simp only [Value.same, Bool.false_eq_true, Bool.and_eq_true,
      decide_eq_true_eq] at left
    cases third <;> simp only [Value.same, Bool.false_eq_true, Bool.and_eq_true,
      decide_eq_true_eq] at right
    rw [Value.same, Bool.and_eq_true, decide_eq_true_eq]
    exact ⟨left.1.trans right.1, sameMappings_trans left.2 right.2⟩

theorem sameValues_trans : ∀ {first second third : List Value}, sameValues first second = true →
    sameValues second third = true → sameValues first third = true
  | [], second, third, left, right => by
    cases second with
    | nil => exact right
    | cons _ _ => simp [sameValues] at left
  | head :: tail, second, third, left, right => by
    cases second with
    | nil => simp [sameValues] at left
    | cons _ _ =>
      cases third with
      | nil => simp [sameValues] at right
      | cons _ _ =>
        rw [sameValues, Bool.and_eq_true] at left right ⊢
        exact ⟨Value.same_trans left.1 right.1, sameValues_trans left.2 right.2⟩

theorem sameMappings_trans : ∀ {first : List (String × Value)} {second third : Fields},
    sameMappings first second = true → sameMappings second third = true →
      sameMappings first third = true
  | [], _, _, _, _ => by rw [sameMappings]
  | field :: rest, second, third, left, right => by
    rw [sameMappings, Bool.and_eq_true] at left ⊢
    exact ⟨sameEntry_trans left.1 right, sameMappings_trans left.2 right⟩

theorem sameEntry_trans : ∀ {field : String × Value} {second third : Fields},
    sameEntry field second = true → sameMappings second third = true →
      sameEntry field third = true
  | (key, value), second, third, left, right => by
    rw [sameEntry, Option.any_eq_true] at left ⊢
    obtain ⟨middle, found, same⟩ := left
    obtain ⟨last, present, next⟩ := sameMappings_iff.mp right _ (Fields.mem_of_get? found)
    exact ⟨last, present, Value.same_trans same next⟩

end

/-- `left == right`, in both directions, since the order of the operands does not matter. -/
def Value.equal (left right : Value) : Bool := left.same right && right.same left

theorem Value.equal_symm {left right : Value} (equal : left.equal right = true) :
    right.equal left = true := by
  rw [Value.equal, Bool.and_eq_true] at equal ⊢
  exact equal.symm

theorem Value.equal_trans {first second third : Value} (left : first.equal second = true)
    (right : second.equal third = true) : first.equal third = true := by
  rw [Value.equal, Bool.and_eq_true] at left right ⊢
  exact ⟨Value.same_trans left.1 right.1, Value.same_trans right.2 left.2⟩

end LiveStream.Support
