import Mathlib

/-! Texts of lines, as `splitlines` reads them, and dictionaries that keep the first entry. -/

namespace LiveStream.Support

universe u v

section Lines

variable {α : Type u} [DecidableEq α] (newline : α)

/-- `splitlines`: an unfinished last line is a line. -/
def splitLines : List α → List (List α)
  | [] => []
  | letter :: rest =>
    if letter = newline then [] :: splitLines rest
    else
      match splitLines rest with
      | [] => [[letter]]
      | line :: lines => (letter :: line) :: lines

/-- A text that the next line may follow. -/
def atLineStart (text : List α) : Prop := ∀ letter ∈ text.getLast?, letter = newline

instance (text : List α) : Decidable (atLineStart newline text) :=
  inferInstanceAs (Decidable (∀ letter ∈ text.getLast?, letter = newline))

variable {newline}

@[simp] theorem splitLines_nil : splitLines newline [] = [] := rfl

theorem atLineStart_nil : atLineStart newline ([] : List α) := fun _ here => absurd here (by simp)

theorem atLineStart_snoc (text : List α) : atLineStart newline (text ++ [newline]) := by
  intro letter here
  rw [List.getLast?_concat] at here
  exact (Option.some.inj here).symm

variable (newline) in
theorem splitLines_cons (letter : α) (rest : List α) : splitLines newline (letter :: rest) ≠ [] := by
  rw [splitLines]
  split
  · exact List.cons_ne_nil _ _
  · split <;> exact List.cons_ne_nil _ _

/-- What follows a line start is read as lines of its own. -/
theorem splitLines_append {text : List α} (start : atLineStart newline text) (more : List α) :
    splitLines newline (text ++ more) = splitLines newline text ++ splitLines newline more := by
  induction text with
  | nil => rfl
  | cons letter rest inductionHypothesis =>
    cases rest with
    | nil =>
      obtain rfl : letter = newline := start letter rfl
      simp [splitLines]
    | cons second rest =>
      have later : atLineStart newline (second :: rest) := by
        intro last here
        exact start last (by rwa [List.getLast?_cons_cons])
      have tail := inductionHypothesis later
      rw [List.cons_append, splitLines, tail]
      rw [splitLines.eq_def newline (letter :: second :: rest)]
      dsimp only
      split
      · rfl
      · obtain ⟨line, lines, shape⟩ :=
          List.exists_cons_of_ne_nil (splitLines_cons newline second rest)
        rw [shape]
        rfl

/-- An unfinished line. -/
theorem splitLines_plain {text : List α} (plain : newline ∉ text) (nonempty : text ≠ []) :
    splitLines newline text = [text] := by
  induction text with
  | nil => exact absurd rfl nonempty
  | cons letter rest inductionHypothesis =>
    rw [List.mem_cons, not_or] at plain
    rw [splitLines, if_neg (Ne.symm plain.1)]
    cases rest with
    | nil => rfl
    | cons second rest =>
      rw [inductionHypothesis plain.2 (List.cons_ne_nil _ _)]

/-- A finished line. -/
theorem splitLines_snoc {text : List α} (plain : newline ∉ text) :
    splitLines newline (text ++ [newline]) = [text] := by
  induction text with
  | nil => simp [splitLines]
  | cons letter rest inductionHypothesis =>
    rw [List.mem_cons, not_or] at plain
    rw [List.cons_append, splitLines, if_neg (Ne.symm plain.1), inductionHypothesis plain.2]

end Lines

section Firsts

variable {α : Type u} {κ : Type v} [DecidableEq κ] (key : α → κ)

/-- The values after `setdefault` of every item under its key. -/
def setdefaults (items : List α) : List α :=
  items.foldl (fun kept item => if key item ∈ kept.map key then kept else kept ++ [item]) []

variable {key}

theorem setdefaults_snoc (items : List α) (item : α) :
    setdefaults key (items ++ [item]) =
      if key item ∈ (setdefaults key items).map key then setdefaults key items
      else setdefaults key items ++ [item] := by
  rw [setdefaults, List.foldl_append]
  rfl

theorem nodup_setdefaults (items : List α) : ((setdefaults key items).map key).Nodup := by
  induction items using List.reverseRecOn with
  | nil => exact List.nodup_nil
  | append_singleton items item inductionHypothesis =>
    rw [setdefaults_snoc]
    split_ifs with taken
    · exact inductionHypothesis
    · rw [List.map_append, List.map_singleton]
      exact inductionHypothesis.append (List.nodup_singleton _)
        (List.disjoint_singleton.mpr taken)

/-- The first item of a key is the one that is kept. -/
theorem find?_setdefaults (items : List α) (name : κ) :
    (setdefaults key items).find? (fun item => key item = name) =
      items.find? fun item => key item = name := by
  induction items using List.reverseRecOn with
  | nil => rfl
  | append_singleton items item inductionHypothesis =>
    rw [setdefaults_snoc, List.find?_append, ← inductionHypothesis]
    split_ifs with taken
    · cases found : (setdefaults key items).find? fun item => key item = name with
      | some first => rfl
      | none =>
        have other : key item ≠ name := by
          rintro rfl
          obtain ⟨first, kept, same⟩ := List.mem_map.mp taken
          have missed := List.find?_eq_none.mp found first kept
          exact missed (by simpa using same)
        simp [other]
    · rw [List.find?_append]

end Firsts

end LiveStream.Support
