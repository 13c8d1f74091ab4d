import LiveStream.Evidence.SameUrl
import LiveStream.Support.Log

/-! When a list of events fills in what recording them one by one stores: both paths give each
event a previous live hash, and the rows follow from these. -/

namespace LiveStream.Evidence

open LiveStream.Support

section Rows

variable {rows : Ledger} {event : Event}

/-- The live hash after an event. -/
def Event.after (event : Event) (last : String) : String :=
  if event.liveHash ≠ "" then event.liveHash else last

/-- What is stored of an event whose previous live hash is given. -/
def rowOf (source revision : String) (rows : Ledger) (event : Event) (previous : String) :
    Option Row :=
  if event.eventId ∈ rows.map Row.eventId then none
  else
    (eventType event previous (rows.any fun row =>
        row.observedDayJst = (event.observedTs + 32400) / 86400 &&
          row.liveHash = event.liveHash && row.eventType.isDaily)).map fun type =>
      event.row ((event.observedTs + 32400) / 86400) type previous source revision

/-- Store events whose previous live hashes are given. -/
def fill (source revision : String) (rows : Ledger) (pairs : List (Event × String)) : Ledger :=
  pairs.foldl (fun current pair =>
    current ++ (rowOf source revision current pair.1 pair.2).toList) rows

/-- Events with the live hash that stands before each. -/
def withPrevious (next : Event → String → String) : String → List Event → List (Event × String)
  | _, [] => []
  | last, event :: rest => (event, last) :: withPrevious next (next event last) rest

theorem map_withPrevious (next : Event → String → String) (last : String) (events : List Event) :
    (withPrevious next last events).map Prod.fst = events := by
  induction events generalizing last with
  | nil => rfl
  | cons event rest inductionHypothesis =>
    rw [withPrevious, List.map_cons, inductionHypothesis]

/-- An event that is not stored shows no other live URL than the one before it. -/
theorem after_of_eventType_none {previous : String} {daily : Bool}
    (none : eventType event previous daily = none) : event.after previous = previous := by
  rw [Event.after]
  by_cases live : event.liveHash = ""
  · simp [live]
  · rw [if_pos live]
    rw [eventType] at none
    by_contra differs
    by_cases first : previous = ""
    · simp [first, live] at none
    · simp [first, live, differs] at none

theorem eventId_of_rowOf {source revision previous : String} {row : Row}
    (stored : rowOf source revision rows event previous = some row) :
    row.eventId = event.eventId ∧ event.eventId ∉ rows.map Row.eventId ∧
      row.observedTs = event.observedTs ∧ row.liveHash = event.liveHash ∧
      row.previousHash = previous ∧
      ∃ daily, eventType event previous daily = some row.eventType := by
  rw [rowOf] at stored
  split at stored
  · cases stored
  · rename_i unknown
    obtain ⟨type, decided, rfl⟩ := Option.map_eq_some_iff.mp stored
    exact ⟨rfl, unknown, rfl, rfl, rfl, _, decided⟩

end Rows

section Newest

/-- One step of the search for the newest live row. -/
def newer (best : Option Row) (row : Row) : Option Row :=
  match best with
  | some found => if found.observedTs ≤ row.observedTs then some row else some found
  | none => some row

theorem newestLive_eq (rows : Ledger) :
    newestLive rows = (rows.filter fun row => row.liveHash ≠ "").foldl newer none := rfl

theorem mem_of_newer {rows : Ledger} {best found : Option Row}
    (result : rows.foldl newer best = found) :
    ∀ row ∈ found, row ∈ rows ∨ best = some row := by
  induction rows generalizing best with
  | nil =>
    intro row member
    right
    rw [← result] at member
    exact member
  | cons head rest inductionHypothesis =>
    intro row member
    rcases inductionHypothesis result row member with later | now
    · exact .inl (List.mem_cons_of_mem _ later)
    · unfold newer at now
      split at now
      · split at now
        · cases now
          exact .inl (List.mem_cons_self ..)
        · cases now
          exact .inr rfl
      · cases now
        exact .inl (List.mem_cons_self ..)

/-- A row behind all others is the newest if it is live, and changes nothing if it is not. -/
theorem newestLive_snoc {rows : Ledger} {row : Row}
    (later : ∀ other ∈ rows, other.observedTs < row.observedTs) :
    newestLive (rows ++ [row]) = if row.liveHash ≠ "" then some row else newestLive rows := by
  rw [newestLive_eq, newestLive_eq, List.filter_append, List.foldl_append]
  by_cases live : row.liveHash = ""
  · simp [live]
  · rw [if_pos live, List.filter_singleton]
    simp only [ne_eq, live, not_false_eq_true, decide_true, cond_true, List.foldl_cons,
      List.foldl_nil]
    cases best : (rows.filter fun row => row.liveHash ≠ "").foldl newer none with
    | none => simp [newer]
    | some found =>
      have member := (mem_of_newer best found rfl).resolve_right (by simp)
      have earlier := later found (List.mem_of_mem_filter member)
      simp [newer, earlier.le]

/-- The live hash that the ledger ends with. -/
def ledgerLive (rows : Ledger) : String := ((newestLive rows).map Row.liveHash).getD ""

theorem previousHash_of_later {rows : Ledger} {observedTs : Int}
    (later : ∀ row ∈ rows, row.observedTs < observedTs) :
    previousHash rows observedTs = ledgerLive rows := by
  rw [previousHash, ledgerLive, List.filter_eq_self.mpr fun row member => by simpa using later row member]

theorem ledgerLive_snoc {rows : Ledger} {row : Row}
    (later : ∀ other ∈ rows, other.observedTs < row.observedTs) :
    ledgerLive (rows ++ [row]) = if row.liveHash ≠ "" then row.liveHash else ledgerLive rows := by
  rw [ledgerLive, newestLive_snoc later]
  by_cases live : row.liveHash = ""
  · simp [live, ledgerLive]
  · simp [live]

end Newest

section Domain

/-- The calendar has a day for the event. -/
def Event.OnCalendar (event : Event) : Prop := event.observedTs + 32400 < 253402300800

instance (event : Event) : Decidable event.OnCalendar :=
  inferInstanceAs (Decidable (event.observedTs + 32400 < 253402300800))

theorem dayJst_ok_iff {event : Event} {day : Int} :
    dayJst event.observedTs = .ok day ↔
      event.OnCalendar ∧ day = (event.observedTs + 32400) / 86400 := by
  rw [dayJst, Event.OnCalendar]
  split
  · rename_i inside
    constructor
    · intro found
      cases found
      exact ⟨inside, rfl⟩
    · rintro ⟨-, rfl⟩
      rfl
  · rename_i outside
    constructor
    · intro found
      cases found
    · exact fun found => absurd found.1 outside

/-- Events in order, with ids of their own, and all later than the rows. -/
structure Later (rows : Ledger) (events : List Event) : Prop where
  valid : ∀ event ∈ events, event.valid = true
  ordered : events.Pairwise fun left right => left.observedTs < right.observedTs
  distinct : events.Pairwise fun left right => left.eventId ≠ right.eventId
  later : ∀ row ∈ rows, ∀ event ∈ events, row.observedTs < event.observedTs

theorem Later.tail {rows : Ledger} {event : Event} {rest : List Event}
    (later : Later rows (event :: rest)) : Later rows rest :=
  ⟨fun other member => later.valid other (List.mem_cons_of_mem _ member),
    (List.pairwise_cons.mp later.ordered).2, (List.pairwise_cons.mp later.distinct).2,
    fun row stored other member => later.later row stored other (List.mem_cons_of_mem _ member)⟩

/-- Storing the first event leaves the others later than the rows. -/
theorem Later.store {rows : Ledger} {event : Event} {rest : List Event}
    (later : Later rows (event :: rest)) {row : Row} (same : row.observedTs = event.observedTs) :
    Later (rows ++ [row]) rest := by
  refine ⟨later.tail.valid, later.tail.ordered, later.tail.distinct, fun other stored next member => ?_⟩
  rcases List.mem_append.mp stored with old | new
  · exact later.tail.later other old next member
  · rw [List.mem_singleton.mp new, same]
    exact (List.pairwise_cons.mp later.ordered).1 next member

end Domain

section Record

variable {revision : String}

/-- The live hash that recording finds: an event whose id is stored already changes nothing. -/
def Event.afterStored (known : List String) (event : Event) (last : String) : String :=
  if event.eventId ∈ known then last else event.after last

theorem record_eq {rows : Ledger} {event : Event} (valid : event.valid = true)
    (calendar : event.OnCalendar) : record revision rows event = .ok (rows ++
      (rowOf "youtube_watchdog" revision rows event
        (previousHash rows event.observedTs)).toList) := by
  rw [record, if_pos valid]
  by_cases known : event.eventId ∈ rows.map Row.eventId
  · rw [if_pos known, rowOf, if_pos known]
    simp
  · rw [if_neg known, rowOf, if_neg known, dayJst_ok_iff.mpr ⟨calendar, rfl⟩, ok_bind]
    dsimp only
    cases eventType event (previousHash rows event.observedTs) _ with
    | none => simp [pure, Except.pure]
    | some type => simp [insertOrIgnore, Event.row, known, pure, Except.pure]

/-- Events that are not valid leave the ledger alone. -/
theorem recordAll_filter (rows : Ledger) (events : List Event) :
    recordAll revision rows events = recordAll revision rows (events.filter Event.valid) := by
  induction events generalizing rows with
  | nil => rfl
  | cons event rest inductionHypothesis =>
    cases valid : event.valid with
    | false =>
      rw [List.filter_cons_of_neg (by simp [valid]), ← inductionHypothesis]
      simp [recordAll, record, valid]
    | true =>
      rw [List.filter_cons_of_pos valid]
      simp only [recordAll, List.foldlM_cons] at inductionHypothesis ⊢
      cases record revision rows event with
      | error error => rfl
      | ok next => exact inductionHypothesis next

/-- Storing an event, or leaving it, moves the live hash that the ledger ends with along. -/
theorem ledgerLive_store {source : String} {rows : Ledger} {known : List String} {event : Event}
    (later : ∀ row ∈ rows, row.observedTs < event.observedTs)
    (ids : event.eventId ∈ rows.map Row.eventId ↔ event.eventId ∈ known) :
    ledgerLive (rows ++ (rowOf source revision rows event (ledgerLive rows)).toList) =
      event.afterStored known (ledgerLive rows) := by
  rw [Event.afterStored]
  cases stored : rowOf source revision rows event (ledgerLive rows) with
  | none =>
    rw [Option.toList_none, List.append_nil]
    split
    · rfl
    · rename_i unknown
      rw [rowOf, if_neg (fun there => unknown (ids.mp there)), Option.map_eq_none_iff] at stored
      exact (after_of_eventType_none stored).symm
  | some row =>
    obtain ⟨-, unknown, sameTime, sameLive, -, -⟩ := eventId_of_rowOf stored
    rw [if_neg fun there => unknown (ids.mpr there), Option.toList_some,
      ledgerLive_snoc fun other old => sameTime ▸ later other old, sameLive, Event.after]

/-- The events behind the first are as new to the ledger as before it. -/
theorem ids_store {source : String} {rows : Ledger} {event : Event} {rest : List Event}
    {previous : String} (apart : ∀ other ∈ rest, event.eventId ≠ other.eventId) :
    ∀ other ∈ rest,
      (other.eventId ∈ (rows ++ (rowOf source revision rows event previous).toList).map Row.eventId ↔
        other.eventId ∈ rows.map Row.eventId) := by
  intro other member
  rw [List.map_append, List.mem_append]
  constructor
  · rintro (old | new)
    · exact old
    · obtain ⟨row, added, id⟩ := List.mem_map.mp new
      rw [(eventId_of_rowOf (Option.mem_toList.mp added)).1] at id
      exact (apart other member id).elim
  · exact .inl

/-- The events behind the first are later than what it leaves. -/
theorem Later.step {source : String} {rows : Ledger} {event : Event} {rest : List Event}
    (later : Later rows (event :: rest)) (previous : String) :
    Later (rows ++ (rowOf source revision rows event previous).toList) rest := by
  cases stored : rowOf source revision rows event previous with
  | none =>
    rw [Option.toList_none, List.append_nil]
    exact later.tail
  | some row => exact later.store (eventId_of_rowOf stored).2.2.1

/-- Recording gives each event the live hash that the ledger and the events not stored before end
with. -/
theorem recordAll_eq_fill {rows : Ledger} {known : List String} {events : List Event}
    (later : Later rows events) (calendar : ∀ event ∈ events, event.OnCalendar)
    (ids : ∀ event ∈ events, event.eventId ∈ rows.map Row.eventId ↔ event.eventId ∈ known) :
    recordAll revision rows events = .ok (fill "youtube_watchdog" revision rows
      (withPrevious (Event.afterStored known) (ledgerLive rows) events)) := by
  induction events generalizing rows with
  | nil => rfl
  | cons event rest inductionHypothesis =>
    have valid := later.valid event (List.mem_cons_self ..)
    have own := calendar event (List.mem_cons_self ..)
    have calendarRest : ∀ other ∈ rest, other.OnCalendar := fun other member =>
      calendar other (List.mem_cons_of_mem _ member)
    have previous : previousHash rows event.observedTs = ledgerLive rows :=
      previousHash_of_later fun row stored => later.later row stored event (List.mem_cons_self ..)
    rw [recordAll, List.foldlM_cons, record_eq valid own, ok_bind, previous, withPrevious, fill,
      List.foldl_cons]
    rw [← ledgerLive_store (fun row stored => later.later row stored event (List.mem_cons_self ..))
      (ids event (List.mem_cons_self ..))]
    refine inductionHypothesis (later.step _) calendarRest fun other member => ?_
    rw [ids_store (List.pairwise_cons.mp later.distinct).1 other member]
    exact ids other (List.mem_cons_of_mem _ member)

end Record

section Backfill

variable {revision : String}

/-- What the loop carries belongs to its rows. -/
structure Filling.Sound (filling : Filling) : Prop where
  ids : ∀ id, id ∈ filling.existingIds ↔ id ∈ filling.rows.map Row.eventId
  days : ∀ day live, (day, live) ∈ filling.dailyKeys ↔
    (filling.rows.any fun row =>
      row.observedDayJst = day && row.liveHash = live && row.eventType.isDaily) = true

theorem filling_start_sound (rows : Ledger) (firstTs : Int) : (Filling.start rows firstTs).Sound := by
  refine ⟨fun id => Iff.rfl, fun day live => ?_⟩
  simp only [Filling.start, List.mem_map, List.mem_filter, Prod.mk.injEq, List.any_eq_true,
    Bool.and_eq_true, decide_eq_true_eq]
  constructor
  · rintro ⟨row, ⟨stored, daily⟩, sameDay, sameLive⟩
    exact ⟨row, stored, ⟨sameDay, sameLive⟩, daily⟩
  · rintro ⟨row, stored, ⟨sameDay, sameLive⟩, daily⟩
    exact ⟨row, ⟨stored, daily⟩, sameDay, sameLive⟩

/-- The loop stores what the live hash that it carries gives, and carries the event's own on. -/
theorem next_eq {filling : Filling} (sound : filling.Sound) {event : Event}
    (valid : event.valid = true) (calendar : event.OnCalendar) :
    ∃ after, filling.next revision event = .ok after ∧ after.Sound ∧
      after.lastLiveHash = event.after filling.lastLiveHash ∧
      after.rows = filling.rows ++ (rowOf "youtube_watchdog_backfill" revision filling.rows event
        filling.lastLiveHash).toList := by
  rw [Filling.next, if_pos valid, dayJst_ok_iff.mpr ⟨calendar, rfl⟩, ok_bind, rowOf]
  by_cases known : event.eventId ∈ filling.existingIds
  · simp only [known, if_true, (sound.ids _).mp known]
    exact ⟨_, rfl, ⟨sound.ids, sound.days⟩, rfl, by simp⟩
  · have unknown : event.eventId ∉ filling.rows.map Row.eventId := fun there =>
      known ((sound.ids _).mpr there)
    have sameDays : decide (((event.observedTs + 32400) / 86400, event.liveHash) ∈
        filling.dailyKeys) = (filling.rows.any fun row =>
          row.observedDayJst = (event.observedTs + 32400) / 86400 &&
            row.liveHash = event.liveHash && row.eventType.isDaily) := by
      rw [Bool.eq_iff_iff, decide_eq_true_eq]
      exact sound.days _ _
    simp only [known, if_false, sameDays, unknown]
    cases eventType event filling.lastLiveHash _ with
    | none => exact ⟨_, rfl, ⟨sound.ids, sound.days⟩, rfl, by simp⟩
    | some type =>
      refine ⟨_, rfl, ⟨fun id => ?_, fun day live => ?_⟩, rfl, ?_⟩
      · simp only [insertOrIgnore, Event.row, unknown, if_false, List.mem_append,
          List.mem_singleton, List.map_append, List.map_cons, List.map_nil, sound.ids]
      · simp only [insertOrIgnore, Event.row, unknown, if_false, List.any_append, List.any_cons,
          List.any_nil, Bool.or_false, Bool.or_eq_true, ← sound.days, Bool.and_eq_true,
          decide_eq_true_eq]
        cases daily : type.isDaily with
        | false => simp
        | true =>
          simp only [if_true, List.mem_append, List.mem_singleton, Prod.mk.injEq, and_true]
          exact or_congr_right ⟨fun ⟨left, right⟩ => ⟨left.symm, right.symm⟩,
            fun ⟨left, right⟩ => ⟨left.symm, right.symm⟩⟩
      · simp [insertOrIgnore, Event.row, unknown]

/-- The loop over valid events fills in with the live hash last seen. -/
theorem foldlM_next {filling : Filling} (sound : filling.Sound) {events : List Event}
    (valid : ∀ event ∈ events, event.valid = true)
    (calendar : ∀ event ∈ events, event.OnCalendar) :
    ∃ after, events.foldlM (Filling.next revision) filling = .ok after ∧
      after.rows = fill "youtube_watchdog_backfill" revision filling.rows
        (withPrevious Event.after filling.lastLiveHash events) := by
  induction events generalizing filling with
  | nil => exact ⟨filling, rfl, rfl⟩
  | cons event rest inductionHypothesis =>
    obtain ⟨middle, stepped, middleSound, carried, stored⟩ := next_eq sound
      (valid event (List.mem_cons_self ..)) (calendar event (List.mem_cons_self ..))
    obtain ⟨after, filled, rows⟩ := inductionHypothesis middleSound
      (fun other member => valid other (List.mem_cons_of_mem _ member))
      (fun other member => calendar other (List.mem_cons_of_mem _ member))
    refine ⟨after, ?_, ?_⟩
    · rw [List.foldlM_cons, stepped, ok_bind, filled]
    · rw [rows, carried, stored, withPrevious, fill, fill, List.foldl_cons]

/-- Events that are not valid do not count in the loop. -/
theorem foldlM_next_filter (filling : Filling) (events : List Event) :
    events.foldlM (Filling.next revision) filling =
      (events.filter Event.valid).foldlM (Filling.next revision) filling := by
  induction events generalizing filling with
  | nil => rfl
  | cons event rest inductionHypothesis =>
    cases valid : event.valid with
    | false =>
      rw [List.filter_cons_of_neg (by simp [valid]), ← inductionHypothesis]
      simp [Filling.next, valid]
    | true =>
      rw [List.filter_cons_of_pos valid, List.foldlM_cons, List.foldlM_cons]
      cases filling.next revision event with
      | error error => rfl
      | ok after => exact inductionHypothesis after

/-- A loop that ends has found every event on the calendar. -/
theorem onCalendar_of_foldlM {filling after : Filling} {events : List Event}
    (valid : ∀ event ∈ events, event.valid = true)
    (filled : events.foldlM (Filling.next revision) filling = .ok after) :
    ∀ event ∈ events, event.OnCalendar := by
  induction events generalizing filling with
  | nil => exact fun event member => by cases member
  | cons event rest inductionHypothesis =>
    rw [List.foldlM_cons, bind_eq_ok] at filled
    obtain ⟨middle, stepped, remaining⟩ := filled
    have own : event.OnCalendar := by
      rw [Filling.next, if_pos (valid event (List.mem_cons_self ..)), bind_eq_ok] at stepped
      obtain ⟨day, found, -⟩ := stepped
      exact (dayJst_ok_iff.mp found).1
    intro other member
    rcases List.mem_cons.mp member with rfl | later
    · exact own
    · exact inductionHypothesis (fun next there => valid next (List.mem_cons_of_mem _ there))
        remaining other later

/-- Sorting does not move the valid events of a list that has them in order. -/
theorem filter_inOrder {events : List Event}
    (ordered : (events.filter Event.valid).Pairwise fun left right =>
      left.observedTs < right.observedTs) :
    (inOrder events).filter Event.valid = events.filter Event.valid := by
  apply filter_mergeSort
  · exact fun first second third left right => by
      simp only [decide_eq_true_eq] at left right ⊢
      exact left.trans right
  · exact fun first second => by
      simp only [Bool.or_eq_true, decide_eq_true_eq]
      exact le_total _ _
  · exact ordered.imp fun earlier => by simpa using earlier.le

theorem backfill_eq (rows : Ledger) {events : List Event}
    (ordered : (events.filter Event.valid).Pairwise fun left right =>
      left.observedTs < right.observedTs) :
    backfill revision rows events = do
      let filled ← (events.filter Event.valid).foldlM (Filling.next revision)
        (Filling.start rows (firstTs events))
      return filled.rows := by
  rw [backfill]
  by_cases empty : events = []
  · subst empty
    rfl
  · rw [if_neg empty, foldlM_next_filter, filter_inOrder ordered]

/-- The backfill gives each event the live hash last seen, from the rows before the first time. -/
theorem backfill_eq_fill (rows : Ledger) {events : List Event}
    (ordered : (events.filter Event.valid).Pairwise fun left right =>
      left.observedTs < right.observedTs)
    (calendar : ∀ event ∈ events.filter Event.valid, event.OnCalendar) :
    backfill revision rows events = .ok (fill "youtube_watchdog_backfill" revision rows
      (withPrevious Event.after (previousHash rows (firstTs events))
        (events.filter Event.valid))) := by
  obtain ⟨after, filled, stored⟩ := foldlM_next
    (filling_start_sound rows (firstTs events)) (fun event member => (List.mem_filter.mp member).2) calendar
  rw [backfill_eq rows ordered, filled, ok_bind, stored]
  rfl

end Backfill

end LiveStream.Evidence
