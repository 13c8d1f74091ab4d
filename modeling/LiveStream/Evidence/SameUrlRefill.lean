import LiveStream.Evidence.SameUrlAgreement

/-! Filling in or recording the same events again changes nothing, and when a backfill stores
exactly what recording stores. -/

namespace LiveStream.Evidence

open LiveStream.Support

section Again

variable {source other revision : String}

/-- What is known of a day only grows. -/
theorem eventType_none_of_daily {event : Event} {previous : String} {daily later : Bool}
    (absent : eventType event previous daily = none) (grows : daily = true → later = true) :
    eventType event previous later = none := by
  rw [eventType] at absent ⊢
  split at absent
  · cases absent
  split at absent
  · cases absent
  split at absent
  · cases absent
  split at absent
  · cases absent
  split at absent
  · cases absent
  rename_i steady notBaseline noCandidate notForced seen
  rw [if_neg steady, if_neg notBaseline, if_neg noCandidate, if_neg notForced, if_neg]
  rintro ⟨live, fresh⟩
  exact seen ⟨live, fun known => fresh (grows known)⟩

/-- An event that was filled in, or left out, is left out from then on. -/
theorem rowOf_fill_none {rows : Ledger} {pairs : List (Event × String)} {pair : Event × String}
    (member : pair ∈ pairs) :
    rowOf other revision (fill source revision rows pairs) pair.1 pair.2 = none := by
  induction pairs generalizing rows with
  | nil => cases member
  | cons first rest inductionHypothesis =>
    rcases List.mem_cons.mp member with rfl | later
    · obtain ⟨added, shape, -⟩ := fill_append source revision
        (rows ++ (rowOf source revision rows pair.1 pair.2).toList) rest
      rw [fill, List.foldl_cons, ← fill, shape, rowOf]
      by_cases known : pair.1.eventId ∈ rows.map Row.eventId
      · rw [if_pos]
        simp [known]
      · cases stored : rowOf source revision rows pair.1 pair.2 with
        | some row =>
          rw [if_pos]
          simp [(eventId_of_rowOf stored).1]
        | none =>
          rw [rowOf, if_neg known, Option.map_eq_none_iff] at stored
          split
          · rfl
          · rw [Option.map_eq_none_iff]
            apply eventType_none_of_daily stored
            intro daily
            simp only [List.any_append, daily, Bool.true_or]
    · exact inductionHypothesis later

/-- Filling in what is left out changes nothing. -/
theorem fill_of_none {rows : Ledger} {pairs : List (Event × String)}
    (none : ∀ pair ∈ pairs, rowOf source revision rows pair.1 pair.2 = none) :
    fill source revision rows pairs = rows := by
  induction pairs with
  | nil => rfl
  | cons pair rest inductionHypothesis =>
    rw [fill, List.foldl_cons, none pair (List.mem_cons_self ..), Option.toList_none,
      List.append_nil, ← fill]
    exact inductionHypothesis fun other member => none other (List.mem_cons_of_mem _ member)

/-- Rows that are not before a time do not count before it. -/
theorem previousHash_append {rows added : Ledger} {observedTs : Int}
    (later : ∀ row ∈ added, observedTs ≤ row.observedTs) :
    previousHash (rows ++ added) observedTs = previousHash rows observedTs := by
  have none : (added.filter fun row => row.observedTs < observedTs) = [] :=
    List.filter_eq_nil_iff.mpr fun row member => by simpa using later row member
  rw [previousHash, previousHash, List.filter_append, none, List.append_nil]

/-- The whole ledger still has, before an event, the live hash that it was recorded with. -/
theorem previousHash_fill {rows : Ledger} {known : List String} {events : List Event}
    (later : Later rows events)
    (ids : ∀ event ∈ events, event.eventId ∈ rows.map Row.eventId ↔ event.eventId ∈ known)
    {pair : Event × String}
    (member : pair ∈ withPrevious (Event.afterStored known) (ledgerLive rows) events) :
    previousHash (fill source revision rows
      (withPrevious (Event.afterStored known) (ledgerLive rows) events)) pair.1.observedTs =
        pair.2 := by
  induction events generalizing rows with
  | nil => cases member
  | cons event rest inductionHypothesis =>
    have before : ∀ row ∈ rows, row.observedTs < event.observedTs := fun row stored =>
      later.later row stored event (List.mem_cons_self ..)
    rw [withPrevious] at member ⊢
    rcases List.mem_cons.mp member with rfl | there
    · obtain ⟨added, shape, origins⟩ := fill_append source revision rows
        ((event, ledgerLive rows) ::
          withPrevious (Event.afterStored known) (event.afterStored known (ledgerLive rows)) rest)
      rw [shape, previousHash_append, previousHash_of_later before]
      intro row new
      obtain ⟨origin, listed, -, time⟩ := origins row new
      rw [List.map_cons, map_withPrevious] at listed
      rw [time]
      rcases List.mem_cons.mp listed with rfl | next
      · exact le_rfl
      · exact ((List.pairwise_cons.mp later.ordered).1 origin next).le
    · rw [fill, List.foldl_cons, ← fill]
      rw [← ledgerLive_store before (ids event (List.mem_cons_self ..))] at there ⊢
      refine inductionHypothesis (later.step _) (fun next stored => ?_) there
      rw [ids_store (List.pairwise_cons.mp later.distinct).1 next stored]
      exact ids next (List.mem_cons_of_mem _ stored)

/-- No event of the list is before the first time. -/
theorem firstTs_le {events : List Event} {event : Event} (member : event ∈ events) :
    firstTs events ≤ event.observedTs := by
  have sorted : (inOrder events).Pairwise fun left right => left.observedTs ≤ right.observedTs := by
    have pairs : (inOrder events).Pairwise fun left right =>
        decide (left.observedTs ≤ right.observedTs) = true :=
      List.pairwise_mergeSort
        (fun first second third left right => by
          simp only [decide_eq_true_eq] at left right ⊢
          exact left.trans right)
        (fun first second => by
          simp only [Bool.or_eq_true, decide_eq_true_eq]
          exact le_total _ _) events
    exact pairs.imp fun earlier => by simpa using earlier
  have there : event ∈ inOrder events := (List.mergeSort_perm ..).mem_iff.mpr member
  rw [firstTs]
  cases shape : inOrder events with
  | nil => simp [shape] at there
  | cons first rest =>
    rw [shape] at there sorted
    rcases List.mem_cons.mp there with rfl | later
    · exact le_rfl
    · exact (List.pairwise_cons.mp sorted).1 event later

end Again

section Results

variable {revision : String}

/-- A backfill and a recording of the same events that store the same facts, and nothing when they
are done again, and store every change of the live URL as a transition. -/
structure FilledAsRecorded (revision : String) (rows : Ledger) (events : List Event)
    (filled recorded : Ledger) : Prop where
  backfills : backfill revision rows events = .ok filled
  records : recordAll revision rows events = .ok recorded
  facts : filled.map Row.facts = recorded.map Row.facts
  filledAgain : backfill revision filled events = .ok filled
  recordedAgain : recordAll revision recorded events = .ok recorded
  transitions : ∀ pair ∈ withPrevious Event.after (ledgerLive rows) (events.filter Event.valid),
    pair.1.eventId ∉ rows.map Row.eventId → pair.1.liveHash ≠ "" → pair.2 ≠ "" →
      pair.1.liveHash ≠ pair.2 → ∀ row ∈ filled ++ recorded, row.eventId = pair.1.eventId →
        row.eventType = .urlTransition

/-- An event on the calendar that is left out is recorded without a change. -/
theorem recordAll_of_none {rows : Ledger} {events : List Event}
    (valid : ∀ event ∈ events, event.valid = true) (calendar : ∀ event ∈ events, event.OnCalendar)
    (absent : ∀ event ∈ events, rowOf "youtube_watchdog" revision rows event
      (previousHash rows event.observedTs) = none) :
    recordAll revision rows events = .ok rows := by
  induction events with
  | nil => rfl
  | cons event rest inductionHypothesis =>
    rw [recordAll, List.foldlM_cons, record_eq (valid event (List.mem_cons_self ..))
      (calendar event (List.mem_cons_self ..)), absent event (List.mem_cons_self ..),
      Option.toList_none, List.append_nil, ok_bind]
    exact inductionHypothesis (fun other member => valid other (List.mem_cons_of_mem _ member))
      (fun other member => calendar other (List.mem_cons_of_mem _ member))
      (fun other member => absent other (List.mem_cons_of_mem _ member))

/-- Where the two paths agree, the live hash last seen before a new event that shows something is
the one last observed, in the ledger or in the events. -/
theorem seen_eq_observed {known : List String} {seen observed stored : String} {events : List Event}
    (agrees : Agrees known seen stored events) (start : seen = observed ∨ observed = stored)
    (ordered : events.Pairwise fun left right => left.observedTs < right.observedTs)
    {event : Event} {left right : String} (leftPair : (event, left) ∈ withPrevious Event.after seen events)
    (rightPair : (event, right) ∈ withPrevious Event.after observed events)
    (new : event.eventId ∉ known) (shows : event.shows = true) : left = right := by
  induction events generalizing seen observed stored with
  | nil => cases leftPair
  | cons first rest inductionHypothesis =>
    obtain ⟨earlier, orderedRest⟩ := List.pairwise_cons.mp ordered
    have apart : ∀ {last : String}, (first, last) ∉ withPrevious Event.after (first.after seen) rest ∧
        (first, last) ∉ withPrevious Event.after (first.after observed) rest := by
      intro last
      constructor
      · intro there
        have member := List.mem_map_of_mem (f := Prod.fst) there
        rw [map_withPrevious] at member
        exact lt_irrefl _ (earlier first member)
      · intro there
        have member := List.mem_map_of_mem (f := Prod.fst) there
        rw [map_withPrevious] at member
        exact lt_irrefl _ (earlier first member)
    rw [withPrevious, List.mem_cons] at leftPair rightPair
    rcases leftPair with here | leftPair
    · cases here
      rcases rightPair with here | rightPair
      · cases here
        rcases start with same | same
        · exact same
        · rw [agrees.1 new shows, same]
      · exact absurd rightPair apart.2
    · rcases rightPair with here | rightPair
      · cases here
        exact absurd leftPair apart.1
      · refine inductionHypothesis agrees.2 ?_ orderedRest leftPair rightPair
        by_cases live : first.liveHash = ""
        · have quiet : ∀ last, first.after last = last := fun last => by simp [Event.after, live]
          rw [quiet, quiet, Event.afterStored, quiet, ite_self]
          exact start
        · left
          simp [Event.after, live]

theorem eq_of_eventId {events : List Event}
    (distinct : events.Pairwise fun left right => left.eventId ≠ right.eventId) {left right : Event}
    (leftMember : left ∈ events) (rightMember : right ∈ events)
    (same : left.eventId = right.eventId) : left = right :=
  List.inj_on_of_nodup_map (List.pairwise_map.mpr distinct) leftMember rightMember same

/-- A change of the observed live URL is stored as a transition. -/
theorem transition_of_fill {source : String} {rows : Ledger} {seen : String} {events : List Event}
    (later : Later rows events)
    (agrees : Agrees (rows.map Row.eventId) seen (ledgerLive rows) events)
    {pair : Event × String} (member : pair ∈ withPrevious Event.after (ledgerLive rows) events)
    (new : pair.1.eventId ∉ rows.map Row.eventId) (live : pair.1.liveHash ≠ "")
    (observed : pair.2 ≠ "") (changed : pair.1.liveHash ≠ pair.2) {row : Row}
    (stored : row ∈ fill source revision rows (withPrevious Event.after seen events))
    (same : row.eventId = pair.1.eventId) : row.eventType = .urlTransition := by
  rcases mem_fill stored with old | ⟨origin, there, id, daily, decided⟩
  · exact absurd (same ▸ List.mem_map_of_mem old) new
  · have originMember := List.mem_map_of_mem (f := Prod.fst) there
    have pairMember := List.mem_map_of_mem (f := Prod.fst) member
    rw [map_withPrevious] at originMember pairMember
    have sameEvent : origin.1 = pair.1 :=
      eq_of_eventId later.distinct originMember pairMember (id.symm.trans same)
    obtain ⟨event, left⟩ := origin
    cases sameEvent
    have equal : left = pair.2 := seen_eq_observed agrees (.inr rfl) later.ordered there member new
      (by simp [Event.shows, live])
    rw [equal, eventType, if_pos ⟨live, observed, changed⟩] at decided
    exact (Option.some.inj decided).symm

/-- A backfill that is done again finds all that it stored. -/
theorem backfill_again {rows filled : Ledger} {events : List Event}
    (later : Later rows (events.filter Event.valid))
    (calendar : ∀ event ∈ events.filter Event.valid, event.OnCalendar)
    (stored : filled = fill "youtube_watchdog_backfill" revision rows
      (withPrevious Event.after (previousHash rows (firstTs events)) (events.filter Event.valid))) :
    backfill revision filled events = .ok filled := by
  have start : previousHash filled (firstTs events) = previousHash rows (firstTs events) := by
    obtain ⟨added, shape, origins⟩ := fill_append "youtube_watchdog_backfill" revision rows
      (withPrevious Event.after (previousHash rows (firstTs events)) (events.filter Event.valid))
    rw [stored, shape]
    apply previousHash_append
    intro row member
    obtain ⟨event, listed, -, time⟩ := origins row member
    rw [map_withPrevious] at listed
    rw [time]
    exact firstTs_le (List.mem_of_mem_filter listed)
  rw [backfill_eq_fill filled later.ordered calendar, start, fill_of_none]
  intro pair member
  rw [stored]
  exact rowOf_fill_none member

/-- Recording the events again finds all that was recorded. -/
theorem recordAll_again {rows recorded : Ledger} {events : List Event}
    (later : Later rows (events.filter Event.valid))
    (calendar : ∀ event ∈ events.filter Event.valid, event.OnCalendar)
    (stored : recorded = fill "youtube_watchdog" revision rows
      (withPrevious (Event.afterStored (rows.map Row.eventId)) (ledgerLive rows)
        (events.filter Event.valid))) :
    recordAll revision recorded events = .ok recorded := by
  rw [recordAll_filter]
  apply recordAll_of_none later.valid calendar
  intro event member
  obtain ⟨pair, there, same⟩ : ∃ pair ∈ withPrevious (Event.afterStored (rows.map Row.eventId))
      (ledgerLive rows) (events.filter Event.valid), pair.1 = event := by
    rw [← map_withPrevious (Event.afterStored (rows.map Row.eventId)) (ledgerLive rows)
      (events.filter Event.valid)] at member
    exact List.mem_map.mp member
  rw [← same, stored, previousHash_fill later (fun _ _ => Iff.rfl) there]
  exact rowOf_fill_none there

/-- A backfill of events that are later than the ledger stores what recording them stores, now and
when it is repeated, exactly if every event has a day and the rows before the first time of the
list give, before each new event that shows something, the live hash that is stored. -/
theorem backfill_as_recorded_iff (runtime : Runtime) (revision : String) (rows : Ledger)
    (payloads : List Payload)
    (later : Later rows ((payloads.map runtime.read).filter Event.valid)) :
    (∃ filled recorded,
        FilledAsRecorded revision rows (payloads.map runtime.read) filled recorded) ↔
      (∀ event ∈ (payloads.map runtime.read).filter Event.valid, event.OnCalendar) ∧
        Agrees (rows.map Row.eventId) (previousHash rows (firstTs (payloads.map runtime.read)))
          (ledgerLive rows) ((payloads.map runtime.read).filter Event.valid) := by
  generalize payloads.map runtime.read = events at later ⊢
  have ids : ∀ event ∈ events.filter Event.valid,
      event.eventId ∈ rows.map Row.eventId ↔ event.eventId ∈ rows.map Row.eventId :=
    fun event _ => Iff.rfl
  constructor
  · rintro ⟨filled, recorded, same⟩
    have calendar : ∀ event ∈ events.filter Event.valid, event.OnCalendar := by
      have backfills := same.backfills
      rw [backfill_eq rows later.ordered, bind_eq_ok] at backfills
      obtain ⟨after, loop, -⟩ := backfills
      exact onCalendar_of_foldlM later.valid loop
    refine ⟨calendar, ?_⟩
    have backfills := same.backfills
    have records := same.records
    rw [backfill_eq_fill rows later.ordered calendar] at backfills
    rw [recordAll_filter, recordAll_eq_fill later calendar ids] at records
    cases backfills
    cases records
    exact (fill_facts_iff rfl later.distinct ids _ _).mp same.facts
  · rintro ⟨calendar, agrees⟩
    have facts : (fill "youtube_watchdog_backfill" revision rows (withPrevious Event.after
        (previousHash rows (firstTs events)) (events.filter Event.valid))).map Row.facts =
        (fill "youtube_watchdog" revision rows (withPrevious (Event.afterStored
          (rows.map Row.eventId)) (ledgerLive rows) (events.filter Event.valid))).map Row.facts :=
      (fill_facts_iff rfl later.distinct ids _ _).mpr agrees
    refine ⟨_, _, {
      backfills := backfill_eq_fill rows later.ordered calendar
      records := by rw [recordAll_filter, recordAll_eq_fill later calendar ids]
      facts
      filledAgain := backfill_again later calendar rfl
      recordedAgain := recordAll_again later calendar rfl
      transitions := ?_ }⟩
    intro pair member new live observed changed row stored same
    rcases List.mem_append.mp stored with filled | recorded
    · exact transition_of_fill later agrees member new live observed changed filled same
    · obtain ⟨twin, there, twinFacts⟩ :=
        List.mem_map.mp (facts ▸ List.mem_map_of_mem recorded)
      have sameId : twin.eventId = row.eventId := by
        simpa only [Row.facts] using congrArg Row.eventId twinFacts
      have sameType : twin.eventType = row.eventType := by
        simpa only [Row.facts] using congrArg Row.eventType twinFacts
      rw [← sameType]
      exact transition_of_fill later agrees member new live observed changed there
        (sameId.trans same)

/-- A list in order is filled in as it stands. -/
theorem inOrder_of_ordered {events : List Event}
    (ordered : events.Pairwise fun left right => left.observedTs ≤ right.observedTs) :
    inOrder events = events :=
  List.mergeSort_of_pairwise (ordered.imp fun earlier => by simpa using earlier)

/-- The digests of two watch URLs, and two times of a day in August. -/
def august : Runtime where
  hexdigest text :=
    if text = "https://youtube.test/watch?v=one" then
      "545ce5cf33761bfe6627b556c638a58a1f27d5171de87806ec69d8882475478e"
    else if text = "https://youtube.test/watch?v=two" then
      "f89816898f9224e6b4c33b805c950cf821ec04f5e78bcc8f716683b38a26256e"
    else text
  timestamp text :=
    if text = "2026-08-02T00:00:00+00:00" then some 1785628800
    else if text = "2026-08-02T01:00:00+00:00" then some 1785632400
    else none

/-- The ledger after the first URL was seen, the day before. -/
def firstUrl : Ledger :=
  [{ eventId := "a", observedTs := 1785542400, observedDayJst := 20666
     eventType := .baseline, liveHash := august.hash "https://youtube.test/watch?v=one"
     previousHash := "", videoHash := "", expectedHash := "", controlled := none
     candidate := false, forced := false, source := "youtube_watchdog", revision := "v1" }]

/-- The first URL is seen again, and then another. -/
def secondUrl : List Payload :=
  [{ tsUtc := "2026-08-02T00:00:00Z", eventId := "b"
     liveUrl := "https://youtube.test/watch?v=one" },
   { tsUtc := "2026-08-02T01:00:00Z", eventId := "c"
     liveUrl := "https://youtube.test/watch?v=two", controlledTransition := some false }]

/-- Without an entry that sorts before the ledger, the backfill is what recording stores. -/
theorem backfill_as_recorded_of_second_url :
    (∃ filled recorded,
      FilledAsRecorded "v1" firstUrl (secondUrl.map august.read) filled recorded) := by
  apply (backfill_as_recorded_iff august "v1" firstUrl secondUrl
    ⟨by decide +kernel, by decide +kernel, by decide +kernel, by decide +kernel⟩).mpr
  rw [firstTs, inOrder_of_ordered (by decide +kernel)]
  decide +kernel

/-- An entry without a timestamp comes first, and the backfill takes the new URL for a baseline. -/
theorem backfill_misses_transition : ¬ ∃ filled recorded, FilledAsRecorded "v1" firstUrl
    (({ tsUtc := "", eventId := "b" } :: secondUrl).map august.read) filled recorded := by
  rintro ⟨filled, recorded, same⟩
  have ordered : (({ tsUtc := "", eventId := "b" } :: secondUrl).map august.read).Pairwise
      fun left right => left.observedTs ≤ right.observedTs := by decide +kernel
  have backfills := same.backfills
  rw [backfill, firstTs, inOrder_of_ordered ordered, if_neg (by simp), bind_eq_ok] at backfills
  obtain ⟨after, loop, stored⟩ := backfills
  cases stored
  have differs : ((({ tsUtc := "", eventId := "b" } :: secondUrl).map august.read).foldlM
        (Filling.next "v1") (Filling.start firstUrl 0)).toOption.map
          (fun after => after.rows.map Row.facts) ≠
      (recordAll "v1" firstUrl
        (({ tsUtc := "", eventId := "b" } :: secondUrl).map august.read)).toOption.map
          (List.map Row.facts) := by
    decide +kernel
  apply differs
  rw [same.records]
  exact (congrArg (fun done => done.toOption.map fun after => after.rows.map Row.facts) loop).trans
    (congrArg some same.facts)

end Results

end LiveStream.Evidence
