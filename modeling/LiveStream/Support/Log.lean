import Mathlib

/-! Logs that are only appended to: the dictionary that a log builds, and statements about
every entry and what came before it. -/

namespace LiveStream.Support

universe u v w x

variable {α : Type u} {β : Type v} {κ : Type w} [DecidableEq κ]

/-- `for item in log: d[key] = value`, looked up at a key afterwards. -/
def assigned (entry : α → Option (κ × β)) (log : List α) (key : κ) : Option β :=
  log.foldl (fun current item =>
    match entry item with
    | some (name, value) => if name = key then some value else current
    | none => current) none

variable {entry : α → Option (κ × β)} {log : List α} {key : κ}

@[simp] theorem assigned_nil : assigned entry [] key = none := rfl

theorem assigned_snoc (item : α) :
    assigned entry (log ++ [item]) key =
      match entry item with
      | some (name, value) => if name = key then some value else assigned entry log key
      | none => assigned entry log key := by
  simp only [assigned, List.foldl_append, List.foldl_cons, List.foldl_nil]

theorem assigned_self {item : α} {value : β} (assigns : entry item = some (key, value)) :
    assigned entry (log ++ [item]) key = some value := by
  rw [assigned_snoc, assigns]
  exact if_pos rfl

theorem assigned_other {item : α} (other : ∀ value, entry item ≠ some (key, value)) :
    assigned entry (log ++ [item]) key = assigned entry log key := by
  rw [assigned_snoc]
  cases found : entry item with
  | none => rfl
  | some pair =>
    obtain ⟨name, value⟩ := pair
    have apart : name ≠ key := by
      intro same
      exact other value (same ▸ found)
    exact if_neg apart

theorem assigned_append_inert {more : List α} (inert : ∀ item ∈ more, entry item = none) :
    assigned entry (log ++ more) key = assigned entry log key := by
  induction more using List.reverseRecOn with
  | nil => rw [List.append_nil]
  | append_singleton more item inductionHypothesis =>
    rw [← List.append_assoc, assigned_other, inductionHypothesis]
    · exact fun other member => inert other (List.mem_append_left _ member)
    · intro value
      rw [inert item (List.mem_append_right _ (List.mem_singleton_self _))]
      exact nofun

theorem assigned_none (absent : ∀ item ∈ log, ∀ value, entry item ≠ some (key, value)) :
    assigned entry log key = none := by
  induction log using List.reverseRecOn with
  | nil => rfl
  | append_singleton log item inductionHypothesis =>
    rw [assigned_other (absent item (List.mem_append_right _ (List.mem_singleton_self _)))]
    exact inductionHypothesis fun other member => absent other (List.mem_append_left _ member)

/-- The entry that a lookup finds is in the log. -/
theorem mem_of_assigned {value : β} (found : assigned entry log key = some value) :
    ∃ item ∈ log, entry item = some (key, value) := by
  induction log using List.reverseRecOn with
  | nil => cases found
  | append_singleton log item inductionHypothesis =>
    by_cases assigns : ∃ value, entry item = some (key, value)
    · obtain ⟨last, assigns⟩ := assigns
      rw [assigned_self assigns, Option.some.injEq] at found
      exact ⟨item, List.mem_append_right _ (List.mem_singleton_self _), found ▸ assigns⟩
    · rw [assigned_other fun value same => assigns ⟨value, same⟩] at found
      obtain ⟨earlier, member, same⟩ := inductionHypothesis found
      exact ⟨earlier, List.mem_append_left _ member, same⟩

/-- Every entry of the log is justified by the entries before it. -/
def EachAfter (justified : List α → α → Prop) (log : List α) : Prop :=
  ∀ before item after, log = before ++ item :: after → justified before item

variable {justified : List α → α → Prop}

theorem eachAfter_nil : EachAfter justified [] := by
  intro before item after split
  simp at split

theorem EachAfter.snoc (each : EachAfter justified log) {item : α}
    (last : justified log item) : EachAfter justified (log ++ [item]) := by
  intro before other after split
  rcases List.eq_nil_or_concat after with rfl | ⟨rest, final, rfl⟩
  · obtain ⟨rfl, same⟩ := List.append_inj' split rfl
    cases same
    exact last
  · have longer : log ++ [item] = (before ++ other :: rest) ++ [final] := by simpa using split
    obtain ⟨rfl, _⟩ := List.append_inj' longer rfl
    exact each before other rest rfl

theorem EachAfter.append (each : EachAfter justified log) {more : List α}
    (free : ∀ before, ∀ item ∈ more, justified before item) :
    EachAfter justified (log ++ more) := by
  induction more using List.reverseRecOn with
  | nil => rwa [List.append_nil]
  | append_singleton more item inductionHypothesis =>
    rw [← List.append_assoc]
    refine EachAfter.snoc (inductionHypothesis fun before other member =>
      free before other (List.mem_append_left _ member)) ?_
    exact free _ item (List.mem_append_right _ (List.mem_singleton_self _))

theorem EachAfter.imp {weaker : List α → α → Prop} (each : EachAfter justified log)
    (implies : ∀ before item, justified before item → weaker before item) :
    EachAfter weaker log :=
  fun before item after split => implies before item (each before item after split)

/-- What each entry is to the entries before it, it is pairwise. -/
theorem EachAfter.pairwise {R : α → α → Prop}
    (each : EachAfter (fun before item => ∀ earlier ∈ before, R earlier item) log) :
    log.Pairwise R := by
  induction log using List.reverseRecOn with
  | nil => exact .nil
  | append_singleton log item inductionHypothesis =>
    refine List.pairwise_append.mpr ⟨inductionHypothesis fun before other after split => ?_,
      List.pairwise_singleton _ _, fun earlier member last found => ?_⟩
    · exact each before other (after ++ [item]) (by rw [split]; simp)
    · exact List.mem_singleton.mp found ▸ each log item [] rfl earlier member

/-- A stable sort keeps the entries of a kind as they are if they are in order. -/
theorem filter_mergeSort {le : α → α → Bool}
    (trans : ∀ first second third, le first second = true → le second third = true →
      le first third = true) (total : ∀ first second, (le first second || le second first) = true)
    {kind : α → Bool} (ordered : (log.filter kind).Pairwise (le · ·)) :
    (log.mergeSort le).filter kind = log.filter kind := by
  have kept : List.Sublist (log.filter kind) (log.mergeSort le) :=
    List.sublist_mergeSort trans total ordered List.filter_sublist
  have within := kept.filter kind
  simp only [List.filter_filter, Bool.and_self] at within
  refine (within.eq_of_length ?_).symm
  exact ((List.mergeSort_perm log le).filter kind).length_eq.symm

section Passes

variable {σ : Type x} {report : σ → α → List β} {update : σ → α → σ}

/-- A pass over a log that keeps a state and reports on every entry. -/
def pass (report : σ → α → List β) (update : σ → α → σ) : σ → List α → List β
  | _, [] => []
  | state, item :: rest => report state item ++ pass report update (update state item) rest

/-- What a pass reports, it reports on an entry in the state that the entries before it left. -/
theorem mem_pass {state : σ} {found : β} (reported : found ∈ pass report update state log) :
    ∃ before item after, log = before ++ item :: after ∧
      found ∈ report (before.foldl update state) item := by
  induction log generalizing state with
  | nil => cases reported
  | cons item rest inductionHypothesis =>
    rcases List.mem_append.mp reported with here | later
    · exact ⟨[], item, rest, rfl, here⟩
    · obtain ⟨before, other, after, split, there⟩ := inductionHypothesis later
      exact ⟨item :: before, other, after, congrArg (item :: ·) split, there⟩

end Passes

end LiveStream.Support
