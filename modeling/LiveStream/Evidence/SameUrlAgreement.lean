import LiveStream.Evidence.SameUrlBackfill

/-! Filling in and recording store the same facts exactly if they find the same live hash before
every event that shows something new; and doing either again changes nothing. -/

namespace LiveStream.Evidence

open LiveStream.Support

section Facts

/-- A row without the name of the path that stored it. -/
def Row.facts (row : Row) : Row := { row with source := "" }

/-- The event shows a live URL, a candidate or a forced attempt. -/
def Event.shows (event : Event) : Bool :=
  event.liveHash ≠ "" || event.candidate || event.forced

variable {revision source other : String} {rows others : Ledger} {event : Event}

theorem ids_of_facts (same : rows.map Row.facts = others.map Row.facts) :
    rows.map Row.eventId = others.map Row.eventId := by
  have ids := congrArg (List.map Row.eventId) same
  simpa only [List.map_map, Function.comp_def, Row.facts] using ids

theorem any_of_facts (same : rows.map Row.facts = others.map Row.facts) (day : Int) (live : String) :
    (rows.any fun row => row.observedDayJst = day && row.liveHash = live && row.eventType.isDaily) =
      others.any fun row =>
        row.observedDayJst = day && row.liveHash = live && row.eventType.isDaily := by
  have every : ∀ ledger : Ledger, (ledger.any fun row =>
      row.observedDayJst = day && row.liveHash = live && row.eventType.isDaily) =
        (ledger.map Row.facts).any fun row =>
          row.observedDayJst = day && row.liveHash = live && row.eventType.isDaily := fun ledger => by
    rw [List.any_map]
    rfl
  rw [every rows, every others, same]

theorem rowOf_facts (same : rows.map Row.facts = others.map Row.facts) (event : Event)
    (previous : String) :
    (rowOf source revision rows event previous).map Row.facts =
      (rowOf other revision others event previous).map Row.facts := by
  rw [rowOf, rowOf, ids_of_facts same, any_of_facts same]
  split
  · rfl
  · rw [Option.map_map, Option.map_map]
    rfl

/-- An event that shows nothing is not stored. -/
theorem eventType_of_not_shows (quiet : event.shows = false) (previous : String) (daily : Bool) :
    eventType event previous daily = none := by
  simp only [Event.shows, Bool.or_eq_false_iff, decide_eq_false_iff_not, not_not] at quiet
  simp [eventType, quiet]

/-- An event that shows something and is not stored shows the live URL before it. -/
theorem live_of_eventType_none {previous : String} {daily : Bool} (shows : event.shows = true)
    (none : eventType event previous daily = none) : event.liveHash = previous := by
  rw [eventType] at none
  split at none
  · cases none
  split at none
  · cases none
  split at none
  · cases none
  split at none
  · cases none
  rename_i steady notBaseline noCandidate notForced
  have live : event.liveHash ≠ "" := by
    intro empty
    simp [Event.shows, empty, noCandidate, notForced] at shows
  by_contra differs
  exact steady ⟨live, fun first => notBaseline ⟨first, live⟩, differs⟩

/-- Two paths store the same facts of a new event exactly if they agree on the live hash before it
or it shows nothing. -/
theorem rowOf_facts_iff (same : rows.map Row.facts = others.map Row.facts)
    (new : event.eventId ∉ rows.map Row.eventId) (seen stored : String) :
    (rowOf source revision rows event seen).map Row.facts =
        (rowOf other revision others event stored).map Row.facts ↔
      (event.shows = true → seen = stored) := by
  constructor
  · intro equal shows
    have newToo : event.eventId ∉ others.map Row.eventId := ids_of_facts same ▸ new
    cases left : rowOf source revision rows event seen with
    | some row =>
      rw [left] at equal
      obtain ⟨found, right, facts⟩ := Option.map_eq_some_iff.mp equal.symm
      have previous : found.previousHash = row.previousHash := by
        simpa only [Row.facts] using congrArg Row.previousHash facts
      rw [(eventId_of_rowOf left).2.2.2.2.1, (eventId_of_rowOf right).2.2.2.2.1] at previous
      exact previous.symm
    | none =>
      rw [left] at equal
      have right : rowOf other revision others event stored = none :=
        Option.map_eq_none_iff.mp equal.symm
      rw [rowOf, if_neg new, Option.map_eq_none_iff] at left
      rw [rowOf, if_neg newToo, Option.map_eq_none_iff] at right
      rw [← live_of_eventType_none shows left, ← live_of_eventType_none shows right]
  · intro agree
    cases shows : event.shows with
    | true =>
      rw [agree shows]
      exact rowOf_facts same event stored
    | false =>
      rw [rowOf, rowOf, eventType_of_not_shows shows, eventType_of_not_shows shows]
      split <;> split <;> rfl

end Facts

section Agreement

/-- Before every event that is not known and shows something, the live hash last seen is the one
that is stored. -/
def Agrees (known : List String) : String → String → List Event → Prop
  | _, _, [] => True
  | seen, stored, event :: rest =>
    (event.eventId ∉ known → event.shows = true → seen = stored) ∧
      Agrees known (event.after seen) (event.afterStored known stored) rest

instance decidableAgrees (known : List String) :
    (seen stored : String) → (events : List Event) → Decidable (Agrees known seen stored events)
  | _, _, [] => .isTrue trivial
  | seen, stored, event :: rest =>
    have := decidableAgrees known (event.after seen) (event.afterStored known stored) rest
    inferInstanceAs (Decidable (_ ∧ Agrees known (event.after seen)
      (event.afterStored known stored) rest))

variable {revision source other : String}

/-- A row that was filled in belongs to an event that was not stored. -/
theorem mem_fill {rows : Ledger} {pairs : List (Event × String)} {row : Row}
    (member : row ∈ fill source revision rows pairs) :
    row ∈ rows ∨ ∃ pair ∈ pairs, row.eventId = pair.1.eventId ∧
      ∃ daily, eventType pair.1 pair.2 daily = some row.eventType := by
  induction pairs generalizing rows with
  | nil => exact .inl member
  | cons pair rest inductionHypothesis =>
    rcases inductionHypothesis member with now | ⟨later, there, facts⟩
    · rcases List.mem_append.mp now with old | new
      · exact .inl old
      · obtain ⟨sameId, -, -, -, -, daily⟩ := eventId_of_rowOf (Option.mem_toList.mp new)
        exact .inr ⟨pair, List.mem_cons_self .., sameId, daily⟩
    · exact .inr ⟨later, List.mem_cons_of_mem _ there, facts⟩

/-- Filling in only adds rows behind. -/
theorem fill_append (source revision : String) (rows : Ledger) (pairs : List (Event × String)) :
    ∃ added, fill source revision rows pairs = rows ++ added ∧
      ∀ row ∈ added, ∃ event ∈ pairs.map Prod.fst,
        row.eventId = event.eventId ∧ row.observedTs = event.observedTs := by
  induction pairs generalizing rows with
  | nil => exact ⟨[], (List.append_nil _).symm, fun _ member => by cases member⟩
  | cons pair rest inductionHypothesis =>
    obtain ⟨added, shape, origins⟩ := inductionHypothesis
      (rows ++ (rowOf source revision rows pair.1 pair.2).toList)
    refine ⟨(rowOf source revision rows pair.1 pair.2).toList ++ added, ?_, fun row member => ?_⟩
    · rw [← List.append_assoc, ← shape]
      rfl
    · rcases List.mem_append.mp member with now | later
      · obtain ⟨id, -, time, -⟩ := eventId_of_rowOf (Option.mem_toList.mp now)
        exact ⟨pair.1, List.mem_cons_self .., id, time⟩
      · obtain ⟨event, there, same⟩ := origins row later
        exact ⟨event, List.mem_cons_of_mem _ there, same⟩

/-- The first event's rows agree when all rows do, as no later event has its id. -/
theorem head_facts {event : Event} {left right : Option Row} {leftRest rightRest : List Row}
    {rest : List Event} (leftId : ∀ row ∈ left, row.eventId = event.eventId)
    (rightId : ∀ row ∈ right, row.eventId = event.eventId)
    (leftIds : ∀ row ∈ leftRest, row.eventId ∈ rest.map Event.eventId)
    (rightIds : ∀ row ∈ rightRest, row.eventId ∈ rest.map Event.eventId)
    (distinct : ∀ later ∈ rest, event.eventId ≠ later.eventId)
    (equal : (left.toList ++ leftRest).map Row.facts = (right.toList ++ rightRest).map Row.facts) :
    left.map Row.facts = right.map Row.facts := by
  have absent : ∀ row : Row, row.eventId = event.eventId →
      row.eventId ∉ rest.map Event.eventId := by
    intro row same there
    obtain ⟨later, member, id⟩ := List.mem_map.mp there
    exact distinct later member (by rw [id, same])
  cases left with
  | none =>
    cases right with
    | none => rfl
    | some row =>
      cases leftRest with
      | nil => cases equal
      | cons first more =>
        simp only [Option.toList_none, List.nil_append, Option.toList_some, List.singleton_append,
          List.map_cons, List.cons.injEq] at equal
        have sameId : first.eventId = row.eventId := by
          simpa only [Row.facts] using congrArg Row.eventId equal.1
        exact (absent row (rightId row rfl)
          (sameId ▸ leftIds first (List.mem_cons_self ..))).elim
  | some row =>
    cases right with
    | none =>
      cases rightRest with
      | nil => cases equal
      | cons first more =>
        simp only [Option.toList_none, List.nil_append, Option.toList_some, List.singleton_append,
          List.map_cons, List.cons.injEq] at equal
        have sameId : row.eventId = first.eventId := by
          simpa only [Row.facts] using congrArg Row.eventId equal.1
        exact (absent row (leftId row rfl)
          (sameId ▸ rightIds first (List.mem_cons_self ..))).elim
    | some found =>
      simp only [Option.toList_some, List.singleton_append, List.map_cons, List.cons.injEq] at equal
      simp [equal.1]

/-- Filling in with the live hash last seen and with the one stored gives the same facts exactly if
the two agree. -/
theorem fill_facts_iff {rows others : Ledger} {known : List String} {events : List Event}
    (same : rows.map Row.facts = others.map Row.facts)
    (distinct : events.Pairwise fun left right => left.eventId ≠ right.eventId)
    (ids : ∀ event ∈ events, event.eventId ∈ rows.map Row.eventId ↔ event.eventId ∈ known)
    (seen stored : String) :
    (fill source revision rows (withPrevious Event.after seen events)).map Row.facts =
        (fill other revision others
          (withPrevious (Event.afterStored known) stored events)).map Row.facts ↔
      Agrees known seen stored events := by
  induction events generalizing rows others seen stored with
  | nil => simpa [withPrevious, fill, Agrees] using same
  | cons event rest inductionHypothesis =>
    obtain ⟨apart, distinctRest⟩ := List.pairwise_cons.mp distinct
    have own := ids event (List.mem_cons_self ..)
    -- the rows after the first event, where both paths stored the same of it
    have step : (rowOf source revision rows event seen).map Row.facts =
        (rowOf other revision others event stored).map Row.facts →
        ((fill source revision rows (withPrevious Event.after seen (event :: rest))).map Row.facts =
          (fill other revision others
            (withPrevious (Event.afterStored known) stored (event :: rest))).map Row.facts ↔
          Agrees known (event.after seen) (event.afterStored known stored) rest) := by
      intro equal
      apply inductionHypothesis _ distinctRest
      · intro later member
        rw [ids_store apart later member]
        exact ids later (List.mem_cons_of_mem _ member)
      · rw [List.map_append, List.map_append, same]
        congr 1
        have lists := congrArg Option.toList equal
        rwa [Option.toList_map, Option.toList_map] at lists
    rw [Agrees]
    by_cases new : event.eventId ∈ known
    · have left : event.eventId ∈ rows.map Row.eventId := own.mpr new
      have right : event.eventId ∈ others.map Row.eventId := ids_of_facts same ▸ left
      rw [step (by rw [rowOf, if_pos left, rowOf, if_pos right])]
      exact ⟨fun later => ⟨fun unknown => absurd new unknown, later⟩, fun both => both.2⟩
    · have unknown : event.eventId ∉ rows.map Row.eventId := fun there => new (own.mp there)
      constructor
      · intro equal
        have head : (rowOf source revision rows event seen).map Row.facts =
            (rowOf other revision others event stored).map Row.facts := by
          obtain ⟨added, shape, addedIds⟩ := fill_append source revision
            (rows ++ (rowOf source revision rows event seen).toList)
            (withPrevious Event.after (event.after seen) rest)
          obtain ⟨more, shapeToo, moreIds⟩ := fill_append other revision
            (others ++ (rowOf other revision others event stored).toList)
            (withPrevious (Event.afterStored known) (event.afterStored known stored) rest)
          rw [map_withPrevious] at addedIds moreIds
          have addedHere : ∀ row ∈ added, row.eventId ∈ rest.map Event.eventId := fun row member => by
            obtain ⟨later, there, id, -⟩ := addedIds row member
            exact id ▸ List.mem_map_of_mem there
          have moreHere : ∀ row ∈ more, row.eventId ∈ rest.map Event.eventId := fun row member => by
            obtain ⟨later, there, id, -⟩ := moreIds row member
            exact id ▸ List.mem_map_of_mem there
          apply head_facts _ _ addedHere moreHere apart _
          · exact fun row found => (eventId_of_rowOf found).1
          · exact fun row found => (eventId_of_rowOf found).1
          · rw [withPrevious, fill, List.foldl_cons, withPrevious, fill, List.foldl_cons] at equal
            rw [fill] at shape shapeToo
            rw [shape, shapeToo] at equal
            simp only [List.map_append, List.append_assoc, same] at equal ⊢
            exact List.append_cancel_left equal
        exact ⟨fun _ => (rowOf_facts_iff same unknown seen stored).mp head, (step head).mp equal⟩
      · rintro ⟨agree, later⟩
        exact (step ((rowOf_facts_iff same unknown seen stored).mpr (agree new))).mpr later

end Agreement

end LiveStream.Evidence
