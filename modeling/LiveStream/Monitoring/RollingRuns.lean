import LiveStream.Monitoring.Rolling
import LiveStream.Support.Run

/-! Runs of the rolling windows: the moved totals are those of a count from scratch, and every
minute holds the latest of its samples. -/

namespace LiveStream.Monitoring

open LiveStream.Support

variable {history next : History} {seriesId : String} {window stop : Int}

/-! ### Counting -/

/-- Adjacent spans add up. -/
theorem counts_add (history : History) (seriesId : String) {start middle stop : Int}
    (first : start ≤ middle) (second : middle ≤ stop) (status : Status) :
    history.counts seriesId start stop status =
      history.counts seriesId start middle status + history.counts seriesId middle stop status := by
  unfold History.counts
  rw [← Nat.cast_add]
  congr 1
  apply countP_split
  · intro row
    rw [Bool.eq_iff_iff]
    simp only [MinuteRow.within, Bool.and_eq_true, Bool.or_eq_true, decide_eq_true_eq]
    constructor
    · rintro ⟨⟨named, after, before⟩, same⟩
      rcases lt_or_ge row.minuteTs middle with early | late
      · exact Or.inl ⟨⟨named, after, early⟩, same⟩
      · exact Or.inr ⟨⟨named, late, before⟩, same⟩
    · rintro (⟨⟨named, after, before⟩, same⟩ | ⟨⟨named, after, before⟩, same⟩)
      · exact ⟨⟨named, after, by omega⟩, same⟩
      · exact ⟨⟨named, by omega, before⟩, same⟩
  · intro row early
    simp only [MinuteRow.within, Bool.and_eq_true, decide_eq_true_eq] at early
    simp only [MinuteRow.within, Bool.and_eq_false_iff, decide_eq_false_iff_not]
    left
    omega

/-- A window that is moved along by less than its length counts what a new one would. -/
theorem counts_moved (history : History) (seriesId : String) {former stop window : Int}
    (later : former ≤ stop) (near : stop - former ≤ window) (status : Status) :
    history.counts seriesId (former - window) former status +
        history.counts seriesId former stop status -
        history.counts seriesId (former - window) (stop - window) status =
      history.counts seriesId (stop - window) stop status := by
  have entered : former - window ≤ stop - window := by omega
  have kept : stop - window ≤ former := by omega
  have left := counts_add history seriesId entered kept status
  have right := counts_add history seriesId kept later status
  omega

/-! ### The windows of one series -/

/-- Every window is counted over its own span, which ends on a minute, for a series that is known. -/
structure WindowRow.Recounted (history : History) (row : WindowRow) : Prop where
  totals : ∀ status, row.totals status =
    history.counts row.seriesId (row.endTs - row.windowSec) row.endTs status
  minute : 60 ∣ row.endTs
  window : row.windowSec ∈ WINDOWS
  known : ∃ series ∈ history.series, series.seriesId = row.seriesId

/-- The windows have unique keys, and every one is counted. -/
structure History.Recounted (history : History) : Prop where
  keys : (history.windows.map WindowRow.key).Nodup
  rows : ∀ row ∈ history.windows, row.Recounted history

theorem WindowRow.Recounted.congr {row : WindowRow} (counted : row.Recounted history)
    (minutes : next.minutes = history.minutes) (series : next.series = history.series) :
    row.Recounted next := by
  obtain ⟨totals, minute, window, known⟩ := counted
  refine ⟨fun status => ?_, minute, window, series ▸ known⟩
  rw [totals status, History.counts, History.counts, minutes]

/-- What an advance leaves alone, and the window that it puts. -/
structure Moved (history next : History) (seriesId : String) (stop window : Int) : Prop where
  series : next.series = history.series
  minutes : next.minutes = history.minutes
  recounted : next.Recounted
  here : ∃ row, lookup WindowRow.key next.windows (seriesId, window) = some row ∧ row.endTs = stop
  others : ∀ key, key ≠ (seriesId, window) →
    lookup WindowRow.key next.windows key = lookup WindowRow.key history.windows key

theorem putWindow_moved (recounted : history.Recounted) {row : WindowRow}
    (put : history.putWindow row = .ok next) (minute : 60 ∣ row.endTs)
    (listed : row.windowSec ∈ WINDOWS) (totals : ∀ status, row.totals status =
      history.counts row.seriesId (row.endTs - row.windowSec) row.endTs status) :
    Moved history next row.seriesId row.endTs row.windowSec := by
  simp only [History.putWindow, bind_eq_ok, rejectIf_eq_ok, pure_eq_ok] at put
  obtain ⟨_, referenced, rfl⟩ := put
  have known : ∃ series ∈ history.series, series.seriesId = row.seriesId := by
    simpa using referenced
  have own : row.Recounted history := ⟨totals, minute, listed, known⟩
  refine ⟨rfl, rfl, ⟨nodup_upsert recounted.keys row, ?_⟩, ⟨row, lookup_upsert_self row, rfl⟩, ?_⟩
  · intro other member
    rcases mem_upsert.mp member with rfl | ⟨kept, _⟩
    · exact own.congr rfl rfl
    · exact (recounted.rows other kept).congr rfl rfl
  · exact fun key apart => lookup_upsert_of_ne apart

theorem advanceWindow_moved (recounted : history.Recounted) (minute : 60 ∣ stop)
    (listed : window ∈ WINDOWS) (moved : advanceWindow seriesId stop history window = .ok next) :
    Moved history next seriesId stop window := by
  unfold advanceWindow at moved
  cases found : lookup WindowRow.key history.windows (seriesId, window) with
  | none =>
    simp only [found] at moved
    exact putWindow_moved recounted moved minute listed fun _ => rfl
  | some row =>
    simp only [found] at moved
    obtain ⟨member, named⟩ := lookup_some found
    obtain ⟨rfl, rfl⟩ : row.seriesId = seriesId ∧ row.windowSec = window := Prod.mk.inj named
    obtain ⟨totals, _, _, _⟩ := recounted.rows row member
    split at moved
    · cases moved
    · rename_i notEarlier
      split at moved
      · rename_i same
        cases moved
        exact ⟨rfl, rfl, recounted, ⟨row, found, same.symm⟩, fun _ _ => rfl⟩
      · split at moved
        · exact putWindow_moved recounted moved minute listed fun _ => rfl
        · rename_i near
          refine putWindow_moved recounted moved minute listed fun status => ?_
          simp only
          rw [totals status]
          exact counts_moved history row.seriesId (not_lt.mp notEarlier) (not_le.mp near).le status

/-- After an advance, the three windows of the series end together and the others are as before. -/
structure Advanced (history next : History) (seriesId : String) (stop : Int) : Prop where
  series : next.series = history.series
  minutes : next.minutes = history.minutes
  recounted : next.Recounted
  here : ∀ window ∈ WINDOWS, ∃ row,
    lookup WindowRow.key next.windows (seriesId, window) = some row ∧ row.endTs = stop
  others : ∀ key : String × Int, key.1 ≠ seriesId →
    lookup WindowRow.key next.windows key = lookup WindowRow.key history.windows key

theorem minuteOf_dvd (ts : Int) : 60 ∣ minuteOf ts := ⟨ts / 60, by rw [minuteOf, mul_comm]⟩

theorem advance_advanced (recounted : history.Recounted) {endTs : Int}
    (advanced : advance history seriesId endTs = .ok next) :
    Advanced history next seriesId (minuteOf endTs) := by
  simp only [advance, WINDOWS, List.foldlM_cons, List.foldlM_nil, bind_eq_ok, pure_eq_ok] at advanced
  obtain ⟨hour, first, day, second, week, third, rfl⟩ := advanced
  have minute := minuteOf_dvd endTs
  have moved := advanceWindow_moved recounted minute (by decide) first
  have moved' := advanceWindow_moved moved.recounted minute (by decide) second
  have moved'' := advanceWindow_moved moved'.recounted minute (by decide) third
  refine ⟨?_, ?_, moved''.recounted, ?_, ?_⟩
  · rw [moved''.series, moved'.series, moved.series]
  · rw [moved''.minutes, moved'.minutes, moved.minutes]
  · intro window listed
    simp only [WINDOWS, List.mem_cons, List.not_mem_nil, or_false] at listed
    rcases listed with rfl | rfl | rfl
    · rw [moved''.others _ (by simp), moved'.others _ (by simp)]
      exact moved.here
    · rw [moved''.others _ (by simp)]
      exact moved'.here
    · exact moved''.here
  · intro key apart
    have away (window : Int) : key ≠ (seriesId, window) := fun same => apart (same ▸ rfl)
    rw [moved''.others key (away _), moved'.others key (away _), moved.others key (away _)]

/-! ### A sample that is new or newer -/

/-- What a new row of a minute changes in the counts of its series. -/
theorem counts_replaced (unique : (history.minutes.map MinuteRow.key).Nodup) (fresh : MinuteRow)
    (seriesId : String) (start stop : Int) (status : Status) :
    History.counts { history with minutes := upsert MinuteRow.key history.minutes fresh }
        seriesId start stop status =
      history.counts seriesId start stop status +
        if fresh.within seriesId start stop then
          delta fresh.status (lookup MinuteRow.key history.minutes fresh.key) status
        else 0 := by
  have counted := countP_upsert unique fresh fun row =>
    row.within seriesId start stop && row.status = status
  unfold History.counts delta indicator
  cases found : lookup MinuteRow.key history.minutes fresh.key with
  | none =>
    simp only [found, Option.toList_none, List.countP_nil, List.countP_singleton] at counted
    by_cases inside : fresh.within seriesId start stop = true
    · by_cases same : fresh.status = status <;> simp [inside, same] at counted ⊢ <;> omega
    · simp [inside] at counted ⊢
      omega
  | some old =>
    have alike : old.within seriesId start stop = fresh.within seriesId start stop := by
      obtain ⟨named, minute⟩ := Prod.mk.inj (lookup_some found).2
      simp only [MinuteRow.within, named, minute]
    simp only [found, Option.toList_some, List.countP_singleton, alike] at counted
    by_cases inside : fresh.within seriesId start stop = true
    · by_cases same : fresh.status = status <;> by_cases former : old.status = status <;>
        simp [inside, same, former] at counted ⊢ <;> omega
    · simp [inside] at counted ⊢
      omega

/-- The row of a window, corrected if the minute lies in its span. -/
def WindowRow.corrected (seriesId : String) (minute : Int) (change : Status → Int) (window : Int)
    (row : WindowRow) : WindowRow :=
  if row.key = (seriesId, window) ∧ row.endTs - window ≤ minute ∧ minute < row.endTs then
    { row with totals := fun status => row.totals status + change status }
  else row

theorem corrected_key {minute : Int} {change : Status → Int} (row : WindowRow) :
    (row.corrected seriesId minute change window).key = row.key := by
  unfold WindowRow.corrected
  split <;> rfl

theorem correctWindow_eq (unique : (history.windows.map WindowRow.key).Nodup) (seriesId : String)
    (minute : Int) (fresh : Status) (old : Option MinuteRow) (window : Int) :
    correctWindow seriesId minute fresh old history window =
      { history with
        windows := history.windows.map (WindowRow.corrected seriesId minute (delta fresh old) window) } := by
  have untouched (apart : ∀ row ∈ history.windows, row.key = (seriesId, window) →
      ¬ (row.endTs - window ≤ minute ∧ minute < row.endTs)) :
      history.windows.map (WindowRow.corrected seriesId minute (delta fresh old) window) =
        history.windows := by
    have same : ∀ row ∈ history.windows,
        row.corrected seriesId minute (delta fresh old) window = id row := by
      intro row member
      exact if_neg fun hit => apart row member hit.1 hit.2
    rw [List.map_congr_left same, List.map_id]
  unfold correctWindow
  cases found : lookup WindowRow.key history.windows (seriesId, window) with
  | none =>
    rw [untouched fun row member same => absurd same (lookup_none found row member)]
  | some row =>
    obtain ⟨member, named⟩ := lookup_some found
    have alone : ∀ other ∈ history.windows, other.key = (seriesId, window) → other = row :=
      fun other listed same => eq_of_key unique listed member (same.trans named.symm)
    simp only
    split
    · rename_i inside
      congr 1
      apply List.map_congr_left
      intro other listed
      unfold WindowRow.corrected
      by_cases same : other.key = (seriesId, window)
      · rw [alone other listed same]
        simp [named, inside]
      · simp [same]
    · rename_i outside
      rw [untouched fun other listed same => by rw [alone other listed same]; exact outside]

/-- The row of one of the windows, corrected if the minute lies in its span. -/
def WindowRow.adjusted (windows : List Int) (fresh : MinuteRow) (change : Status → Int)
    (row : WindowRow) : WindowRow :=
  if row.windowSec ∈ windows ∧ fresh.within row.seriesId (row.endTs - row.windowSec) row.endTs then
    { row with totals := fun status => row.totals status + change status }
  else row

theorem adjusted_key {windows : List Int} {fresh : MinuteRow} {change : Status → Int}
    (row : WindowRow) : (row.adjusted windows fresh change).key = row.key := by
  unfold WindowRow.adjusted
  split <;> rfl

/-- A window is corrected in its own round, and in no later one. -/
theorem adjusted_corrected {windows : List Int} (absent : window ∉ windows) (fresh : MinuteRow)
    (change : Status → Int) (row : WindowRow) :
    (row.corrected fresh.seriesId fresh.minuteTs change window).adjusted windows fresh change =
      row.adjusted (window :: windows) fresh change := by
  by_cases own : row.windowSec = window
  · have later (totals : Status → Int) : WindowRow.adjusted windows fresh change
        { row with totals := totals } = { row with totals := totals } :=
      if_neg fun hit => absent (own ▸ hit.1)
    by_cases hit : fresh.within row.seriesId (row.endTs - row.windowSec) row.endTs = true
    · have inside := of_decide_eq_true hit
      have first : row.corrected fresh.seriesId fresh.minuteTs change window =
          { row with totals := fun status => row.totals status + change status } :=
        if_pos ⟨Prod.ext inside.1.symm own, own ▸ inside.2⟩
      rw [first, later, WindowRow.adjusted, if_pos ⟨by simp [own], hit⟩]
    · have first : row.corrected fresh.seriesId fresh.minuteTs change window = row := by
        apply if_neg
        rintro ⟨same, inside⟩
        apply hit
        have named : row.seriesId = fresh.seriesId := congrArg Prod.fst same
        exact decide_eq_true ⟨named.symm, own ▸ inside⟩
      rw [first, WindowRow.adjusted, if_neg fun both => hit both.2, WindowRow.adjusted,
        if_neg fun both => hit both.2]
  · have first : row.corrected fresh.seriesId fresh.minuteTs change window = row :=
      if_neg fun hit => own (congrArg Prod.snd hit.1)
    have listed : row.windowSec ∈ window :: windows ↔ row.windowSec ∈ windows := by simp [own]
    rw [first]
    simp only [WindowRow.adjusted, listed]

/-- The loop over the windows corrects each row once. -/
theorem foldl_correctWindow {windows : List Int} (distinct : windows.Nodup) (fresh : MinuteRow)
    (old : Option MinuteRow) (unique : (history.windows.map WindowRow.key).Nodup) :
    windows.foldl (correctWindow fresh.seriesId fresh.minuteTs fresh.status old) history =
      { history with
        windows := history.windows.map (WindowRow.adjusted windows fresh (delta fresh.status old)) } := by
  induction windows generalizing history with
  | nil =>
    have same : ∀ row ∈ history.windows,
        row.adjusted [] fresh (delta fresh.status old) = id row := by
      intro row _
      exact if_neg fun hit => absurd hit.1 List.not_mem_nil
    rw [List.map_congr_left same, List.map_id]
    rfl
  | cons window windows ih =>
    obtain ⟨absent, distinct⟩ := List.nodup_cons.mp distinct
    rw [List.foldl_cons, correctWindow_eq unique, ih distinct]
    · simp only [List.map_map]
      congr 1
      apply List.map_congr_left
      intro row _
      exact adjusted_corrected absent fresh _ row
    · simpa only [List.map_map, Function.comp_def, corrected_key] using unique

/-- A new or newer sample, before the advance: the totals of its series are corrected. -/
def History.withSample (history : History) (fresh : MinuteRow) : History :=
  { history with
    minutes := upsert MinuteRow.key history.minutes fresh
    windows := history.windows.map
      (WindowRow.adjusted WINDOWS fresh
        (delta fresh.status (lookup MinuteRow.key history.minutes fresh.key))) }

theorem withSample_recounted (recounted : history.Recounted)
    (unique : (history.minutes.map MinuteRow.key).Nodup) (fresh : MinuteRow) :
    (history.withSample fresh).Recounted := by
  constructor
  · simpa only [History.withSample, List.map_map, Function.comp_def, adjusted_key] using
      recounted.keys
  · intro other member
    obtain ⟨row, listed, rfl⟩ := List.mem_map.mp member
    obtain ⟨totals, minute, window, known⟩ := recounted.rows row listed
    have replaced := counts_replaced unique fresh row.seriesId (row.endTs - row.windowSec) row.endTs
    by_cases hit : fresh.within row.seriesId (row.endTs - row.windowSec) row.endTs = true
    · rw [WindowRow.adjusted, if_pos ⟨window, hit⟩]
      refine ⟨fun status => ?_, minute, window, known⟩
      refine Eq.trans ?_ (replaced status).symm
      rw [if_pos hit, ← totals status]
    · rw [WindowRow.adjusted, if_neg fun both => hit both.2]
      refine ⟨fun status => ?_, minute, window, known⟩
      refine Eq.trans ?_ (replaced status).symm
      rw [if_neg hit, add_zero, totals status]

theorem replaceMinute_eq (recounted : history.Recounted) (fresh : MinuteRow) (nowTs : Int) :
    history.replaceMinute fresh (lookup MinuteRow.key history.minutes fresh.key) nowTs =
      advance (history.withSample fresh) fresh.seriesId nowTs := by
  have distinct : WINDOWS.Nodup := by decide
  have keys : (({ history with
      minutes := upsert MinuteRow.key history.minutes fresh } : History).windows.map
        WindowRow.key).Nodup := recounted.keys
  unfold History.replaceMinute
  simp only
  rw [foldl_correctWindow distinct fresh _ keys]
  rfl

/-! ### What a call does -/

/-- The windows of a series are there together, and end together. -/
def History.Together (history : History) : Prop :=
  ∀ row ∈ history.windows, ∀ window ∈ WINDOWS, ∃ other ∈ history.windows,
    other.seriesId = row.seriesId ∧ other.windowSec = window ∧ other.endTs = row.endTs

theorem Advanced.together (former : history.Together) {stop : Int}
    (unique : (history.windows.map WindowRow.key).Nodup)
    (advanced : Advanced history next seriesId stop) : next.Together := by
  intro row member window listed
  have found := lookup_of_mem advanced.recounted.keys member
  by_cases own : row.seriesId = seriesId
  · have ends : row.endTs = stop := by
      obtain ⟨same, stored, ends⟩ := advanced.here row.windowSec (advanced.recounted.rows row member).window
      rw [WindowRow.key, own] at found
      rw [found] at stored
      rw [Option.some.inj stored, ends]
    obtain ⟨other, stored, ends'⟩ := advanced.here window listed
    obtain ⟨member', named⟩ := lookup_some stored
    obtain ⟨rfl, rfl⟩ := Prod.mk.inj named
    exact ⟨other, member', own.symm, rfl, ends'.trans ends.symm⟩
  · rw [advanced.others row.key own] at found
    obtain ⟨other, member', named, window', ends⟩ := former row (lookup_some found).1 window listed
    have kept := lookup_of_mem unique member'
    rw [← advanced.others other.key (by rw [WindowRow.key, named]; exact own)] at kept
    exact ⟨other, (lookup_some kept).1, named, window', ends⟩

theorem withSample_together (former : history.Together) (fresh : MinuteRow) :
    (history.withSample fresh).Together := by
  have fields (row : WindowRow) (change : Status → Int) :
      (row.adjusted WINDOWS fresh change).seriesId = row.seriesId ∧
        (row.adjusted WINDOWS fresh change).windowSec = row.windowSec ∧
        (row.adjusted WINDOWS fresh change).endTs = row.endTs := by
    unfold WindowRow.adjusted
    split <;> exact ⟨rfl, rfl, rfl⟩
  intro row member window listed
  obtain ⟨before, listed', rfl⟩ := List.mem_map.mp member
  obtain ⟨other, found, named, window', ends⟩ := former before listed' window listed
  refine ⟨_, List.mem_map_of_mem found, ?_⟩
  obtain ⟨sameSeries, _, sameEnd⟩ := fields before
    (delta fresh.status (lookup MinuteRow.key history.minutes fresh.key))
  obtain ⟨sameSeries', sameWindow', sameEnd'⟩ := fields other
    (delta fresh.status (lookup MinuteRow.key history.minutes fresh.key))
  exact ⟨by rw [sameSeries', sameSeries, named], by rw [sameWindow', window'],
    by rw [sameEnd', sameEnd, ends]⟩

/-- A row of a minute lies on a minute, not before its series started. -/
def MinuteRow.Placed (history : History) (row : MinuteRow) : Prop :=
  60 ∣ row.minuteTs ∧ ∃ series ∈ history.series,
    series.seriesId = row.seriesId ∧ series.startedTs ≤ row.minuteTs

/-- What holds of the tables between the calls. -/
structure History.Sound (history : History) : Prop where
  series : (history.series.map SeriesRow.seriesId).Nodup
  started : ∀ row ∈ history.series, 60 ∣ row.startedTs
  minutes : (history.minutes.map MinuteRow.key).Nodup
  placed : ∀ row ∈ history.minutes, row.Placed history
  recounted : history.Recounted
  together : history.Together

theorem empty_sound : History.empty.Sound := by
  constructor <;> simp [History.empty, History.Together]
  constructor <;> simp

theorem History.Sound.advanced (sound : history.Sound) {endTs : Int}
    (advanced : advance history seriesId endTs = .ok next) : next.Sound := by
  have after := advance_advanced sound.recounted advanced
  refine ⟨?_, ?_, ?_, ?_, after.recounted, after.together sound.together sound.recounted.keys⟩
  · rw [after.series]
    exact sound.series
  · rw [after.series]
    exact sound.started
  · rw [after.minutes]
    exact sound.minutes
  · rw [after.minutes]
    intro row member
    have placed := sound.placed row member
    rwa [MinuteRow.Placed, after.series]

theorem History.Sound.withSample (sound : history.Sound) {fresh : MinuteRow}
    (placed : fresh.Placed history) : (history.withSample fresh).Sound := by
  refine ⟨sound.series, sound.started, nodup_upsert sound.minutes fresh, ?_,
    withSample_recounted sound.recounted sound.minutes fresh,
    withSample_together sound.together fresh⟩
  intro row member
  rcases mem_upsert.mp member with rfl | ⟨kept, _⟩
  · exact placed
  · exact sound.placed row kept

theorem History.Sound.openSeries (sound : history.Sound) {row : SeriesRow}
    (minute : 60 ∣ row.startedTs) : (history.openSeries row).1.Sound := by
  unfold History.openSeries
  cases found : lookup SeriesRow.seriesId history.series row.seriesId with
  | some started => exact sound
  | none =>
    have more {other : SeriesRow} (listed : other ∈ history.series) :
        other ∈ history.series ++ [row] := List.mem_append_left _ listed
    refine ⟨nodup_map_append sound.series (lookup_none found), ?_, sound.minutes, ?_, ?_,
      sound.together⟩
    · intro other member
      rcases List.mem_append.mp member with listed | own
      · exact sound.started other listed
      · rw [List.mem_singleton.mp own]
        exact minute
    · intro other member
      obtain ⟨aligned, series, listed, named, later⟩ := sound.placed other member
      exact ⟨aligned, series, more listed, named, later⟩
    · refine ⟨sound.recounted.keys, fun other member => ?_⟩
      obtain ⟨totals, aligned, window, series, listed, named⟩ := sound.recounted.rows other member
      exact ⟨totals, aligned, window, series, more listed, named⟩

theorem openSeries_mem (history : History) (row : SeriesRow) :
    (history.openSeries row).2 ∈ (history.openSeries row).1.series ∧
      (history.openSeries row).2.seriesId = row.seriesId := by
  unfold History.openSeries
  cases found : lookup SeriesRow.seriesId history.series row.seriesId with
  | some started => exact lookup_some found
  | none => exact ⟨List.mem_append_right _ (List.mem_singleton.mpr rfl), rfl⟩

theorem openSeries_minutes (history : History) (row : SeriesRow) :
    (history.openSeries row).1.minutes = history.minutes := by
  unfold History.openSeries
  split <;> rfl

section Identity

variable (seriesIdentity : String → String → String → String)

/-- The row of a minute that a slot stands for. -/
def Slot.row (slot : Slot) (status : Status) : MinuteRow :=
  ⟨(slot.key seriesIdentity).1, (slot.key seriesIdentity).2, slot.sampleTs, slot.eventId, status⟩

/-- The order of the samples of a minute. -/
def MinuteRow.stamp (row : MinuteRow) : Lex (Int × String) := toLex (row.sampleTs, row.eventId)

/-- What `record_slot` does with a slot that it takes, on the tables with its series in them: a
sample that is not newer only moves the windows along. -/
inductive Filed (opened : History) (fresh : MinuteRow) (nowTs : Int) (next : History) : Prop where
  | known (old : MinuteRow) (found : lookup MinuteRow.key opened.minutes fresh.key = some old)
      (older : fresh = old ∨ fresh.stamp < old.stamp)
      (advanced : advance opened fresh.seriesId nowTs = .ok next)
  | counted (newer : ∀ old, lookup MinuteRow.key opened.minutes fresh.key = some old →
        old.stamp < fresh.stamp)
      (advanced : advance (opened.withSample fresh) fresh.seriesId nowTs = .ok next)

theorem recordSlot_taken {slot : Slot} {counted : Bool} (sound : history.Sound)
    (recorded : recordSlot seriesIdentity history slot = .ok (next, counted)) :
    ∃ status, Status.ofText? slot.status = some status ∧ ∃ opened : History,
      opened.Sound ∧ opened.minutes = history.minutes ∧
      (slot.row seriesIdentity status).Placed opened ∧
      Filed opened (slot.row seriesIdentity status) slot.nowTs next := by
  unfold recordSlot at recorded
  simp only [bind_eq_ok, orReject_eq_ok, rejectIf_eq_ok] at recorded
  obtain ⟨status, read, _, _, _, _, _, started, taken⟩ := recorded
  generalize opening : (⟨(slot.key seriesIdentity).1, slot.metric, slot.target,
    slot.definitionRevision, (slot.key seriesIdentity).2⟩ : SeriesRow) = first at started taken
  have named : first.seriesId = (slot.key seriesIdentity).1 := by rw [← opening]
  have minute : first.startedTs = (slot.key seriesIdentity).2 := by rw [← opening]
  have aligned : 60 ∣ (slot.key seriesIdentity).2 := minuteOf_dvd slot.sampleTs
  obtain ⟨listed, same⟩ := openSeries_mem history first
  have onMinute : 60 ∣ first.startedTs := minute ▸ aligned
  have opened := sound.openSeries onMinute
  refine ⟨status, read, (history.openSeries first).1, opened, openSeries_minutes history first,
    ⟨aligned, _, listed, same.trans named, not_lt.mp started⟩, ?_⟩
  cases found : lookup MinuteRow.key (history.openSeries first).1.minutes (slot.key seriesIdentity) with
  | none =>
    simp only [found, bind_eq_ok, pure_eq_ok, Prod.mk.injEq] at taken
    obtain ⟨after, replaced, rfl, _⟩ := taken
    have here : lookup MinuteRow.key (history.openSeries first).1.minutes
        (slot.row seriesIdentity status).key = none := found
    apply Filed.counted
    · intro old stored
      rw [here] at stored
      cases stored
    · rw [← replaceMinute_eq opened.recounted, here]
      exact replaced
  | some old =>
    have here : lookup MinuteRow.key (history.openSeries first).1.minutes
        (slot.row seriesIdentity status).key = some old := found
    simp only [found] at taken
    split at taken
    · rename_i sameEvent
      simp only [bind_eq_ok, rejectIf_eq_ok, pure_eq_ok, Prod.mk.injEq] at taken
      obtain ⟨_, agree, after, advanced, rfl, _⟩ := taken
      simp only [not_or, ne_eq, not_not] at agree
      refine Filed.known old here (Or.inl ?_) advanced
      obtain ⟨sameSeries, sameMinute⟩ := Prod.mk.inj (lookup_some here).2
      cases old
      simp_all [Slot.row]
    · rename_i otherEvent
      split at taken
      · rename_i older
        simp only [bind_eq_ok, pure_eq_ok, Prod.mk.injEq] at taken
        obtain ⟨after, advanced, rfl, _⟩ := taken
        refine Filed.known old here (Or.inr (lt_of_le_of_ne older fun same => ?_)) advanced
        exact otherEvent (Prod.mk.inj (toLex.injective same)).2.symm
      · rename_i newer
        simp only [bind_eq_ok, pure_eq_ok, Prod.mk.injEq] at taken
        obtain ⟨after, replaced, rfl, _⟩ := taken
        apply Filed.counted
        · intro other stored
          rw [here] at stored
          cases stored
          exact not_le.mp newer
        · rw [← replaceMinute_eq opened.recounted, here]
          exact replaced

/-! ### Runs -/

/-- The row of a minute is that of the latest of its samples. -/
structure MinuteRow.Latest (slots : List Slot) (row : MinuteRow) : Prop where
  recorded : ∃ slot ∈ slots, ∃ status,
    Status.ofText? slot.status = some status ∧ slot.row seriesIdentity status = row
  greatest : ∀ slot ∈ slots, slot.key seriesIdentity = row.key →
    toLex (slot.sampleTs, slot.eventId) < row.stamp ∨
      ∃ status, Status.ofText? slot.status = some status ∧ slot.row seriesIdentity status = row

/-- What holds between the calls, of the tables and of the slots taken so far. -/
structure Recorded.Sound (recorded : Recorded) : Prop where
  history : recorded.history.Sound
  latest : ∀ row ∈ recorded.history.minutes, row.Latest seriesIdentity recorded.slots
  covered : ∀ slot ∈ recorded.slots, ∃ row ∈ recorded.history.minutes,
    row.key = slot.key seriesIdentity

theorem MinuteRow.Latest.append {slots : List Slot} {row : MinuteRow}
    (latest : row.Latest seriesIdentity slots) {slot : Slot}
    (last : slot.key seriesIdentity = row.key → toLex (slot.sampleTs, slot.eventId) < row.stamp ∨
      ∃ status, Status.ofText? slot.status = some status ∧ slot.row seriesIdentity status = row) :
    row.Latest seriesIdentity (slots ++ [slot]) := by
  obtain ⟨⟨source, member, status, read, same⟩, greatest⟩ := latest
  refine ⟨⟨source, List.mem_append_left _ member, status, read, same⟩, fun other listed named => ?_⟩
  rcases List.mem_append.mp listed with former | own
  · exact greatest other former named
  · rw [List.mem_singleton.mp own] at named ⊢
    exact last named

variable {seriesIdentity} in
/-- A slot that is taken leaves every minute with the latest of its samples. -/
theorem Recorded.Sound.taken {slots : List Slot} {slot : Slot} {opened : History} {status : Status}
    (sound : Recorded.Sound seriesIdentity ⟨history, slots⟩)
    (read : Status.ofText? slot.status = some status) (open' : opened.Sound)
    (minutes : opened.minutes = history.minutes)
    (placed : (slot.row seriesIdentity status).Placed opened)
    (taken : Filed opened (slot.row seriesIdentity status) slot.nowTs next) :
    Recorded.Sound seriesIdentity ⟨next, slots ++ [slot]⟩ := by
  obtain ⟨_, latest, covered⟩ := sound
  simp only at latest covered
  rw [← minutes] at latest covered
  cases taken with
  | known old found older advanced =>
    have after := (advance_advanced open'.recounted advanced).minutes
    refine ⟨open'.advanced advanced, ?_, ?_⟩
    · simp only [after]
      intro row member
      refine (latest row member).append seriesIdentity fun named => ?_
      have stored := lookup_of_mem open'.minutes member
      rw [← named] at stored
      obtain rfl := Option.some.inj (stored.symm.trans found)
      rcases older with same | earlier
      · exact Or.inr ⟨status, read, same⟩
      · exact Or.inl earlier
    · simp only [after]
      intro other member
      rcases List.mem_append.mp member with former | own
      · exact covered other former
      · rw [List.mem_singleton.mp own]
        exact ⟨old, (lookup_some found).1, (lookup_some found).2⟩
  | counted newer advanced =>
    have sound' := open'.withSample placed
    have after := (advance_advanced sound'.recounted advanced).minutes
    refine ⟨sound'.advanced advanced, ?_, ?_⟩
    · simp only [after]
      intro row member
      rcases mem_upsert.mp member with rfl | ⟨kept, apart⟩
      · refine ⟨⟨slot, by simp, status, read, rfl⟩, fun other listed named => ?_⟩
        rcases List.mem_append.mp listed with former | own
        · obtain ⟨old, stored, sameKey⟩ := covered other former
          have found := lookup_of_mem open'.minutes stored
          rw [sameKey, named] at found
          have earlier := newer old found
          rcases (latest old stored).greatest other former sameKey.symm with before | ⟨_, _, rfl⟩
          · exact Or.inl (before.trans earlier)
          · exact Or.inl earlier
        · rw [List.mem_singleton.mp own]
          exact Or.inr ⟨status, read, rfl⟩
      · exact (latest row kept).append seriesIdentity fun named => absurd named.symm apart
    · simp only [after]
      intro other member
      rcases List.mem_append.mp member with former | own
      · obtain ⟨row, stored, named⟩ := covered other former
        by_cases same : row.key = (slot.row seriesIdentity status).key
        · exact ⟨_, mem_upsert.mpr (Or.inl rfl), same.symm.trans named⟩
        · exact ⟨row, mem_upsert.mpr (Or.inr ⟨stored, same⟩), named⟩
      · rw [List.mem_singleton.mp own]
        exact ⟨_, mem_upsert.mpr (Or.inl rfl), rfl⟩

variable {seriesIdentity} in
theorem Recorded.Sound.step {recorded : Recorded} (sound : recorded.Sound seriesIdentity)
    (call : Recording) : (recorded.step seriesIdentity call).Sound seriesIdentity := by
  cases call with
  | recordSlot slot =>
    simp only [Recorded.step]
    split
    · rename_i next counted result
      obtain ⟨status, read, opened, open', minutes, placed, taken⟩ :=
        recordSlot_taken seriesIdentity sound.history result
      exact sound.taken read open' minutes placed taken
    · exact sound
  | advance seriesId endTs =>
    simp only [Recorded.step]
    split
    · rename_i next result
      have after := (advance_advanced sound.history.recounted result).minutes
      refine ⟨sound.history.advanced result, ?_, ?_⟩
      · simp only [after]
        exact sound.latest
      · simp only [after]
        exact sound.covered
    · exact sound

theorem run_sound (calls : List Recording) :
    (Recorded.run seriesIdentity calls).Sound seriesIdentity := by
  unfold Recorded.run
  induction calls using List.reverseRecOn with
  | nil => exact ⟨empty_sound, by simp [History.empty], by simp⟩
  | append_singleton calls call ih =>
    rw [List.foldl_append]
    exact ih.step call

end Identity

/-! ### What is read from the windows -/

theorem sum_counts (history : History) (seriesId : String) (start stop : Int) :
    (STATUSES.map (history.counts seriesId start stop)).sum =
      history.minutes.countP (MinuteRow.within seriesId start stop) := by
  unfold History.counts
  induction history.minutes with
  | nil => rfl
  | cons row rows ih =>
    simp only [STATUSES, List.map_cons, List.map_nil, List.sum_cons, List.sum_nil,
      List.countP_cons] at ih ⊢
    cases row.within seriesId start stop <;> cases row.status <;> simp at ih ⊢ <;> omega

/-- A span has room for one row a minute. -/
theorem countP_within_le (sound : history.Sound) (seriesId : String) {start stop : Int}
    (first : 60 ∣ start) (last : 60 ∣ stop) :
    (history.minutes.countP (MinuteRow.within seriesId start stop) : Int) ≤
      max 0 ((stop - start) / 60) := by
  rw [List.countP_eq_length_filter]
  have unique : ((history.minutes.filter (MinuteRow.within seriesId start stop)).map
      fun row => row.minuteTs / 60).Nodup := by
    refine List.Nodup.map_on ?_ ((List.Nodup.of_map _ sound.minutes).filter _)
    intro row member other member' same
    obtain ⟨listed, inside⟩ := List.mem_filter.mp member
    obtain ⟨listed', inside'⟩ := List.mem_filter.mp member'
    have aligned := (sound.placed row listed).1
    have aligned' := (sound.placed other listed').1
    simp only [MinuteRow.within, decide_eq_true_eq] at inside inside'
    apply eq_of_key sound.minutes listed listed'
    exact Prod.ext (inside.1.trans inside'.1.symm) (by simp only [MinuteRow.key]; omega)
  have inside : ((history.minutes.filter (MinuteRow.within seriesId start stop)).map
      fun row => row.minuteTs / 60).toFinset ⊆ Finset.Ico (start / 60) (stop / 60) := by
    intro minute member
    obtain ⟨row, stored, rfl⟩ := List.mem_map.mp (List.mem_toFinset.mp member)
    obtain ⟨listed, inside⟩ := List.mem_filter.mp stored
    have aligned := (sound.placed row listed).1
    simp only [MinuteRow.within, decide_eq_true_eq] at inside
    rw [Finset.mem_Ico]
    omega
  have bound := Finset.card_le_card inside
  rw [List.toFinset_card_of_nodup unique, List.length_map, Int.card_Ico] at bound
  omega

/-- No window holds more samples than its minutes since the start of the series. -/
theorem observed_le_expected (sound : history.Sound) {row : WindowRow} {series : SeriesRow}
    (member : row ∈ history.windows) (listed : series ∈ history.series)
    (named : series.seriesId = row.seriesId) :
    (row.item series).observed = (STATUSES.map row.totals).sum ∧
      (row.item series).observed ≤ (row.item series).expected := by
  obtain ⟨totals, aligned, window, _⟩ := sound.recounted.rows row member
  have started := sound.started series listed
  have length : 60 ∣ row.windowSec := by
    simp only [WINDOWS, List.mem_cons, List.not_mem_nil, or_false] at window
    omega
  have first : 60 ∣ max (row.endTs - row.windowSec) series.startedTs := by
    rcases max_choice (row.endTs - row.windowSec) series.startedTs with same | same <;>
      rw [same] <;> omega
  have since : history.minutes.countP (MinuteRow.within row.seriesId (row.endTs - row.windowSec) row.endTs) =
      history.minutes.countP (MinuteRow.within row.seriesId
        (max (row.endTs - row.windowSec) series.startedTs) row.endTs) := by
    apply List.countP_congr
    intro minute stored
    obtain ⟨_, own, known, same, later⟩ := sound.placed minute stored
    simp only [MinuteRow.within, decide_eq_true_eq, max_le_iff]
    constructor
    · rintro ⟨hit, after, before⟩
      obtain rfl := eq_of_key sound.series known listed (same.trans (hit.trans named.symm))
      exact ⟨hit, ⟨after, later⟩, before⟩
    · rintro ⟨hit, ⟨after, _⟩, before⟩
      exact ⟨hit, after, before⟩
  have recount : row.totals =
      history.counts row.seriesId (row.endTs - row.windowSec) row.endTs := funext totals
  refine ⟨rfl, ?_⟩
  simp only [WindowRow.item]
  rw [recount, sum_counts, since]
  exact countP_within_le sound row.seriesId first aligned

theorem mem_readWindows {target : String} {item : WindowItem} :
    item ∈ history.readWindows target ↔ ∃ row ∈ history.windows, ∃ series ∈ history.series,
      series.seriesId = row.seriesId ∧ series.target = target ∧ row.item series = item := by
  simp only [History.readWindows, List.mem_mergeSort, List.mem_flatMap, List.mem_map,
    List.mem_filter, decide_eq_true_eq]
  constructor
  · rintro ⟨row, member, series, ⟨listed, named, aimed⟩, rfl⟩
    exact ⟨row, member, series, listed, named, aimed, rfl⟩
  · rintro ⟨row, member, series, listed, named, aimed, rfl⟩
    exact ⟨row, member, series, ⟨listed, named, aimed⟩, rfl⟩

theorem item_exact (sound : history.Sound) {target : String} {item : WindowItem}
    (read : item ∈ history.readWindows target) :
    item.row.totals .good + item.row.totals .notApplicable ≤ item.expected ∧
      item.missing = item.expected - item.observed := by
  obtain ⟨row, member, series, listed, named, _, rfl⟩ := mem_readWindows.mp read
  obtain ⟨sum, bound⟩ := observed_le_expected sound member listed named
  have recount := (sound.recounted.rows row member).totals
  have counted (status : Status) : 0 ≤ row.totals status := by
    rw [recount status]
    exact Int.natCast_nonneg _
  have bad := counted .bad
  have unknown := counted .unknown
  simp only [STATUSES, List.map_cons, List.map_nil, List.sum_cons, List.sum_nil] at sum
  have missing : (row.item series).missing =
      max 0 ((row.item series).expected - (row.item series).observed) := rfl
  have same : (row.item series).row = row := rfl
  rw [missing, same]
  omega

section Identity

variable (seriesIdentity : String → String → String → String)

/-- The windows equal a recount after any calls: every total is the number of minutes of its
status in the span of the window, the windows of a series end together, the row of a minute is
the latest of its samples in whatever order they came, and what is read is exact. -/
theorem run_recounted (calls : List Recording) :
    (∀ row ∈ (Recorded.run seriesIdentity calls).history.windows,
      (∀ status, row.totals status = (Recorded.run seriesIdentity calls).history.counts
        row.seriesId (row.endTs - row.windowSec) row.endTs status) ∧
      ∀ window ∈ WINDOWS, ∃ other ∈ (Recorded.run seriesIdentity calls).history.windows,
        other.seriesId = row.seriesId ∧ other.windowSec = window ∧ other.endTs = row.endTs) ∧
    (∀ row ∈ (Recorded.run seriesIdentity calls).history.minutes,
      row.Latest seriesIdentity (Recorded.run seriesIdentity calls).slots) ∧
    (∀ slot ∈ (Recorded.run seriesIdentity calls).slots,
      ∃ row ∈ (Recorded.run seriesIdentity calls).history.minutes,
        row.key = slot.key seriesIdentity) ∧
    ∀ target, ∀ item ∈ (Recorded.run seriesIdentity calls).history.readWindows target,
      item.row.totals .good + item.row.totals .notApplicable ≤ item.expected ∧
        item.missing = item.expected - item.observed := by
  have sound := run_sound seriesIdentity calls
  refine ⟨fun row member => ⟨?_, ?_⟩, sound.latest, sound.covered, fun target item read => ?_⟩
  · exact (sound.history.recounted.rows row member).totals
  · exact sound.history.together row member
  · exact item_exact sound.history read

end Identity

end LiveStream.Monitoring
