import LiveStream.Observation.TwitchSli
import LiveStream.Support.Run

/-! Collection cycles and restarts over one database: the verdict on a renewal is final, and the
samples given to the cycles justify it. -/

namespace LiveStream.Observation

open LiveStream.Support

section Law

/-- The history with the time of its last cycle and the samples that its cycles were given. -/
structure Log where
  history : History
  clock : Option ℚ := none
  given : List ApiSample := []
  deriving DecidableEq

/-- `collect_once`, or a new process on the same database. -/
inductive Cycle where
  | collect (now : ℚ) (api : Option ApiEvidence) (relay : Option RelayEvidence)
  | reopen (now : ℚ)

/-- One cycle, with the sample that the tick was given. -/
def Log.step (log : Log) : Cycle → Log × Option ApiSample
  | .collect now source status =>
    let api := source.bind fun raw => apiSample raw now
    let relay := status.bind fun raw => relaySample raw now
    ({ history := log.history.tick now api relay
       clock := some now
       given := log.given ++ api.toList }, api)
  | .reopen now => ({ log with history := History.opened log.history.db now }, none)

/-- The clock of a cycle does not go back. -/
def InOrder (log : Log) : Cycle → Prop
  | .collect now _ _ => ∀ clock ∈ log.clock, clock ≤ now
  | .reopen _ => True

instance (log : Log) : (cycle : Cycle) → Decidable (InOrder log cycle)
  | .collect now _ _ => inferInstanceAs (Decidable (∀ clock ∈ log.clock, clock ≤ now))
  | .reopen _ => .isTrue trivial

/-- A sample that was observed LIVE at most 180 s before the renewal came due. -/
structure LiveBefore (due : Int) (sample : ApiSample) : Prop where
  live : sample.live = .good
  notAfter : 0 ≤ due - sample.observed
  near : due - sample.observed ≤ 180

/-- A sample of the first ten minutes that is LIVE under another id, with a start after the renewal
came due. An empty text is no id. -/
structure Renews (due : Int) (before : String) (sample : ApiSample) : Prop where
  notBefore : due ≤ sample.observed
  inTime : sample.observed ≤ due + 600
  live : sample.live = .good
  named : sample.stream ≠ ""
  changed : sample.stream ≠ before
  restarted : ∃ start ∈ sample.started, due ≤ start ∧ start ≤ sample.observed

/-- All ten minutes after the renewal came due hold a known provider state. -/
def Known (minutes : List Slot) (due : Int) : Prop :=
  ∀ minute, due / 60 ≤ minute → minute < due / 60 + 10 → ∃ slot ∈ minutes,
    slot.kind = .providerLive ∧ slot.minute = minute ∧ (slot.state = .good ∨ slot.state = .bad)

/-- What justifies the verdicts after a cycle. -/
structure Justified (taken : Taken Log Cycle (Option ApiSample)) : Prop where
  good : ∀ row ∈ taken.after.history.db.renewals, row.result = .good →
    (∃ old ∈ taken.before.history.db.renewals, old.due = row.due ∧ old.result = .good) ∨
      ∃ sample ∈ taken.output, ∃ earlier ∈ taken.before.given,
        LiveBefore row.due earlier ∧ Renews row.due earlier.stream sample
  bad : ∀ row ∈ taken.after.history.db.renewals, row.result = .bad →
    ∃ earlier ∈ taken.after.given, LiveBefore row.due earlier ∧
      row.beforeId = some earlier.stream ∧ earlier.stream ≠ "" ∧
      Known taken.after.history.db.minutes row.due ∧
      ∀ sample ∈ taken.after.given, ¬ Renews row.due earlier.stream sample

end Law

section Instants

theorem dueAt_le (time : ℚ) : (dueAt time : ℚ) ≤ time := by
  have floor := Int.floor_le ((time - 54000) / 86400)
  rw [le_div_iff₀ (by norm_num)] at floor
  simp only [dueAt, Int.cast_add, Int.cast_mul, Int.cast_ofNat]
  linarith

theorem lt_dueAt_add (time : ℚ) : time < dueAt time + 86400 := by
  have floor := Int.lt_floor_add_one ((time - 54000) / 86400)
  rw [div_lt_iff₀ (by norm_num)] at floor
  simp only [dueAt, Int.cast_add, Int.cast_mul, Int.cast_ofNat]
  linarith

/-- A time between a renewal instant and a later time of its day has the same instant. -/
theorem dueAt_eq_of_le {earlier later : ℚ} (due : (dueAt later : ℚ) ≤ earlier)
    (ordered : earlier ≤ later) : dueAt earlier = dueAt later := by
  have below := dueAt_le earlier
  have above := lt_dueAt_add earlier
  have close := lt_dueAt_add later
  have upper : dueAt later < dueAt earlier + 86400 := by exact_mod_cast due.trans_lt above
  have lower : dueAt earlier < dueAt later + 86400 := by
    exact_mod_cast (below.trans ordered).trans_lt close
  unfold dueAt at upper lower ⊢
  omega

theorem dueAt_mono {earlier later : ℚ} (ordered : earlier ≤ later) :
    dueAt earlier ≤ dueAt later := by
  unfold dueAt
  have floors : ⌊(earlier - 54000) / 86400⌋ ≤ ⌊(later - 54000) / 86400⌋ :=
    Int.floor_le_floor (by gcongr)
  omega

theorem le_firstDue (started : ℚ) : started ≤ firstDue started := by
  unfold firstDue
  split
  · have close := lt_dueAt_add started
    push_cast
    exact close.le
  · rename_i late
    exact not_lt.mp late

theorem dueAt_minutes (time : ℚ) : dueAt time % 60 = 0 := by
  unfold dueAt
  omega

/-- A renewal that a history since the epoch observes comes due after the epoch. -/
theorem dueAt_pos {started time : ℚ} (epoch : 0 ≤ started)
    (observed : firstDue started ≤ dueAt time) : 0 < dueAt time := by
  have first : (0 : ℚ) ≤ firstDue started := epoch.trans (le_firstDue started)
  have due : (0 : ℤ) ≤ dueAt time := by
    have : (0 : ℤ) ≤ firstDue started := by exact_mod_cast first
    omega
  unfold dueAt at due ⊢
  omega

end Instants

section Slots

variable {minutes : List Slot} {started now observed : ℚ} {kind : Kind} {state : SlotState}

theorem nodup_recordSlot (unique : (minutes.map Slot.key).Nodup) :
    ((recordSlot started now kind state observed minutes).map Slot.key).Nodup := by
  unfold recordSlot
  split
  · exact unique
  · split
    · split
      · exact unique
      · exact nodup_upsert unique _
    · exact nodup_upsert unique _

/-- A record leaves every slot that is more than 180 s old. -/
theorem mem_recordSlot {slot : Slot} (member : slot ∈ minutes)
    (old : slot.minute < ⌊(now - 180) / 60⌋) :
    slot ∈ recordSlot started now kind state observed minutes := by
  unfold recordSlot
  split
  · exact member
  · rename_i accepted
    push Not at accepted
    obtain ⟨-, -, recent⟩ := accepted
    have later : ⌊(now - 180) / 60⌋ ≤ ⌊observed / 60⌋ := Int.floor_le_floor (by
      gcongr
      linarith)
    have apart : slot.key ≠ (⌊observed / 60⌋, kind) := by
      intro same
      have : slot.minute = ⌊observed / 60⌋ := congrArg Prod.fst same
      omega
    split
    · split
      · exact member
      · exact mem_upsert.mpr (.inr ⟨member, apart⟩)
    · exact mem_upsert.mpr (.inr ⟨member, apart⟩)

theorem nodup_recordAll (unique : (minutes.map Slot.key).Nodup) (api : Option ApiSample)
    (relay : Option RelaySample) :
    ((recordAll started now api relay minutes).map Slot.key).Nodup := by
  unfold recordAll
  cases api with
  | none =>
    cases relay with
    | none => exact unique
    | some sample => exact nodup_recordSlot unique
  | some provider =>
    cases relay with
    | none => exact nodup_recordSlot (nodup_recordSlot unique)
    | some sample => exact nodup_recordSlot (nodup_recordSlot (nodup_recordSlot unique))

theorem mem_recordAll {slot : Slot} (member : slot ∈ minutes)
    (old : slot.minute < ⌊(now - 180) / 60⌋) (api : Option ApiSample)
    (relay : Option RelaySample) : slot ∈ recordAll started now api relay minutes := by
  unfold recordAll
  cases api with
  | none =>
    cases relay with
    | none => exact member
    | some sample => exact mem_recordSlot member old
  | some provider =>
    cases relay with
    | none => exact mem_recordSlot (mem_recordSlot member old) old
    | some sample => exact mem_recordSlot (mem_recordSlot (mem_recordSlot member old) old) old

/-- Ten known slots out of ten minutes are all of them. -/
theorem known_of_knownSlots (unique : (minutes.map Slot.key).Nodup) {due : Int}
    (all : knownSlots minutes due = 10) : Known minutes due := by
  rw [knownSlots, List.countP_eq_length_filter] at all
  generalize shape : (minutes.filter _) = chosen at all
  have listed : ∀ slot ∈ chosen, slot ∈ minutes ∧ slot.kind = .providerLive ∧
      due / 60 ≤ slot.minute ∧ slot.minute < due / 60 + 10 ∧
        (slot.state = .good ∨ slot.state = .bad) := by
    intro slot member
    rw [← shape] at member
    simpa using member
  have apart : (chosen.map Slot.minute).Nodup := by
    apply List.Nodup.of_map fun minute => (minute, Kind.providerLive)
    have keys : (chosen.map Slot.minute).map (fun minute => (minute, Kind.providerLive)) =
        chosen.map Slot.key := by
      rw [List.map_map]
      apply List.map_congr_left
      intro slot member
      simp [Slot.key, (listed slot member).2.1]
    rw [keys, ← shape]
    exact unique.sublist (List.filter_sublist.map Slot.key)
  have within : (chosen.map Slot.minute).toFinset ⊆ Finset.Ico (due / 60) (due / 60 + 10) := by
    intro minute member
    obtain ⟨slot, owned, rfl⟩ := List.mem_map.mp (List.mem_toFinset.mp member)
    obtain ⟨-, -, lower, upper, -⟩ := listed slot owned
    exact Finset.mem_Ico.mpr ⟨lower, upper⟩
  have full := Finset.eq_of_subset_of_card_le within (by
    rw [List.toFinset_card_of_nodup apart, List.length_map, all, Int.card_Ico]
    omega)
  intro minute lower upper
  have member : minute ∈ (chosen.map Slot.minute).toFinset := by
    rw [full]
    exact Finset.mem_Ico.mpr ⟨lower, upper⟩
  obtain ⟨slot, owned, same⟩ := List.mem_map.mp (List.mem_toFinset.mp member)
  obtain ⟨present, provider, -, -, known⟩ := listed slot owned
  exact ⟨slot, present, provider, same, known⟩

/-- Known slots outlast the records of a time that is more than 780 s after the renewal. -/
theorem Known.record {due : Int} (known : Known minutes due) (whole : due % 60 = 0)
    (late : (due : ℚ) + 780 < now) (api : Option ApiSample) (relay : Option RelaySample) :
    Known (recordAll started now api relay minutes) due := by
  have past : due / 60 + 10 ≤ ⌊(now - 180) / 60⌋ := by
    rw [Int.le_floor, le_div_iff₀ (by norm_num)]
    have exact : (due : ℚ) = (due / 60 : Int) * 60 := by
      have : due = due / 60 * 60 := by omega
      exact_mod_cast this
    push_cast
    linarith
  intro minute lower upper
  obtain ⟨slot, member, provider, same, state⟩ := known minute lower upper
  exact ⟨slot, mem_recordAll member (by omega) api relay, provider, same, state⟩

/-- Known slots outlast the deletions for as long as their renewal does. -/
theorem Known.prune {due : Int} (known : Known minutes due)
    (stays : now - 35 * 86400 ≤ due) :
    Known (minutes.filter fun slot => ⌊now / 60⌋ - 35 * 1440 ≤ slot.minute) due := by
  have start : ⌊now / 60⌋ - 35 * 1440 ≤ due / 60 := by
    have floor := Int.floor_le (now / 60)
    rw [le_div_iff₀ (by norm_num)] at floor
    have : (⌊now / 60⌋ * 60 - 35 * 86400 : ℤ) ≤ due := by
      have : ((⌊now / 60⌋ * 60 - 35 * 86400 : ℤ) : ℚ) ≤ due := by
        push_cast
        linarith
      exact_mod_cast this
    omega
  intro minute lower upper
  obtain ⟨slot, member, provider, same, state⟩ := known minute lower upper
  refine ⟨slot, List.mem_filter.mpr ⟨member, ?_⟩, provider, same, state⟩
  simp only [decide_eq_true_eq]
  omega

end Slots

section Rows

variable {row : Renewal} {given : List ApiSample} {now : ℚ} {minutes : List Slot}

/-- What the samples given so far say of a row. -/
structure Renewal.Kept (row : Renewal) (given : List ApiSample) (now : ℚ) (minutes : List Slot) :
    Prop where
  whole : row.due % 60 = 0
  positive : 0 < row.due
  reached : (row.due : ℚ) ≤ now
  before : ∀ id ∈ row.beforeId, ∃ earlier ∈ given, earlier.stream = id ∧ LiveBefore row.due earlier
  unproved : row.result = .pending ∨ row.result = .bad →
    ∀ id ∈ row.beforeId, id ≠ "" → ∀ sample ∈ given, ¬ Renews row.due id sample
  bad : row.result = .bad →
    (∃ id ∈ row.beforeId, id ≠ "") ∧ Known minutes row.due ∧ (row.due : ℚ) + 780 < now

/-- The code's test of a sample is the condition, for a renewal after the epoch. -/
theorem proved_iff (positive : 0 < row.due) {sample : ApiSample} :
    (row.due ≤ sample.observed ∧ sample.observed ≤ row.due + 600 ∧ row.proved sample = true) ↔
      ∃ id ∈ row.beforeId, id ≠ "" ∧ Renews row.due id sample := by
  have after : (0 : ℚ) < row.due := by exact_mod_cast positive
  constructor
  · rintro ⟨notBefore, inTime, proved⟩
    obtain ⟨before, live, named, changed, lower, upper⟩ : row.beforeId.any (· ≠ "") = true ∧
        sample.live = .good ∧ sample.stream ≠ "" ∧ some sample.stream ≠ row.beforeId ∧
        row.due ≤ sample.started.getD 0 ∧ sample.started.getD 0 ≤ sample.observed := by
      simpa [Renewal.proved, and_assoc] using proved
    cases recorded : row.beforeId with
    | none => simp [recorded] at before
    | some id =>
      rw [recorded] at changed
      refine ⟨id, rfl, by simpa [recorded] using before,
        ⟨notBefore, inTime, live, named, fun same => changed (congrArg some same), ?_⟩⟩
      cases parsed : sample.started with
      | none =>
        rw [parsed] at lower
        exact absurd lower (not_le.mpr after)
      | some start =>
        rw [parsed] at lower upper
        exact ⟨start, rfl, lower, upper⟩
  · rintro ⟨id, recorded, nonempty, renews⟩
    obtain ⟨start, parsed, lower, upper⟩ := renews.restarted
    refine ⟨renews.notBefore, renews.inTime, ?_⟩
    rw [Option.mem_def] at recorded parsed
    simp [Renewal.proved, recorded, parsed, nonempty, renews.live, renews.named, renews.changed,
      lower, upper]

theorem Renewal.Kept.mono (kept : row.Kept given now minutes) {later : ℚ} {others : List Slot}
    (ordered : now ≤ later) (known : row.result = .bad → Known minutes row.due →
      (row.due : ℚ) + 780 < now → Known others row.due) : row.Kept given later others where
  whole := kept.whole
  positive := kept.positive
  reached := kept.reached.trans ordered
  before := kept.before
  unproved := kept.unproved
  bad := by
    intro bad
    obtain ⟨named, held, late⟩ := kept.bad bad
    exact ⟨named, known bad held late, late.trans_le ordered⟩

/-- One more sample that does not prove a row. -/
theorem Renewal.Kept.give (kept : row.Kept given now minutes) {api : Option ApiSample}
    (fails : row.result = .pending ∨ row.result = .bad → ∀ sample ∈ api, ∀ id ∈ row.beforeId,
      id ≠ "" → ¬ Renews row.due id sample) : row.Kept (given ++ api.toList) now minutes where
  whole := kept.whole
  positive := kept.positive
  reached := kept.reached
  before := by
    intro id recorded
    obtain ⟨earlier, member, same, live⟩ := kept.before id recorded
    exact ⟨earlier, List.mem_append_left _ member, same, live⟩
  unproved := by
    intro pending id recorded named sample member
    rcases List.mem_append.mp member with old | fresh
    · exact kept.unproved pending id recorded named sample old
    · exact fails pending sample (Option.mem_toList.mp fresh) id recorded named
  bad := kept.bad

/-- The deadline closes a row without breaking what is kept of it. -/
theorem Renewal.Kept.close (kept : row.Kept given now minutes)
    (unique : (minutes.map Slot.key).Nodup) (pending : row.result = .pending) :
    (row.close now minutes).Kept given now minutes := by
  unfold Renewal.close
  split
  · rename_i late
    constructor
    · exact kept.whole
    · exact kept.positive
    · exact kept.reached
    · exact kept.before
    · exact fun _ => kept.unproved (.inl pending)
    · dsimp only
      split
      · rename_i decided
        obtain ⟨named, all⟩ := decided
        refine fun _ => ⟨?_, known_of_knownSlots unique all, late⟩
        simpa [Option.any_eq_true] using named
      · intro bad
        cases bad
  · exact kept

theorem review_of_ne (done : row.result ≠ .pending) (api : Option ApiSample) :
    row.review now api minutes = row := by
  rw [Renewal.review.eq_def, if_pos done]

@[simp] theorem close_due (row : Renewal) (now : ℚ) (minutes : List Slot) :
    (row.close now minutes).due = row.due := by
  unfold Renewal.close
  split <;> rfl

@[simp] theorem review_due (row : Renewal) (now : ℚ) (api : Option ApiSample)
    (minutes : List Slot) : (row.review now api minutes).due = row.due := by
  unfold Renewal.review
  split
  · rfl
  · split
    · split
      · split
        · exact noted_due row _
        · rw [close_due, noted_due]
      · exact close_due row now minutes
    · exact close_due row now minutes

/-- The review of a row by a tick whose sample is recent. -/
theorem Renewal.Kept.review (kept : row.Kept given now minutes)
    (unique : (minutes.map Slot.key).Nodup) {api : Option ApiSample}
    (recent : ∀ sample ∈ api, now - sample.observed ≤ 180) :
    (row.review now api minutes).Kept (given ++ api.toList) now minutes := by
  by_cases pending : row.result = .pending
  · rw [Renewal.review.eq_def, if_neg (not_not.mpr pending)]
    cases api with
    | none => simpa using kept.close unique pending
    | some sample =>
      dsimp only
      split
      · rename_i within
        have noted : (row.noted sample).Kept given now minutes := by
          constructor
          all_goals simp only [noted_due, noted_beforeId, noted_result]
          · exact kept.whole
          · exact kept.positive
          · exact kept.reached
          · exact kept.before
          · exact kept.unproved
          · exact kept.bad
        split
        · constructor
          · exact noted.whole
          · exact noted.positive
          · exact noted.reached
          · intro id recorded
            obtain ⟨earlier, member, named, live⟩ := noted.before id recorded
            exact ⟨earlier, List.mem_append_left _ member, named, live⟩
          · rintro (waiting | bad)
            · cases waiting
            · cases bad
          · intro bad
            cases bad
        · rename_i unproved
          refine (noted.give ?_).close unique ((noted_result row sample).trans pending)
          intro _ other fresh id recorded named renews
          obtain rfl := Option.some.inj fresh
          rw [noted_beforeId] at recorded
          rw [noted_due] at renews
          exact unproved ((proved_iff kept.positive).mpr ⟨id, recorded, named, renews⟩).2.2
      · rename_i outside
        refine (kept.give ?_).close unique pending
        intro _ other given id _ _ renews
        obtain rfl := Option.some.inj given
        exact outside ⟨renews.notBefore, renews.inTime⟩
  · rw [review_of_ne pending]
    apply kept.give
    rintro (waiting | bad) sample member id _ _ renews
    · exact pending waiting
    · obtain ⟨-, -, late⟩ := kept.bad bad
      have := recent sample member
      have := renews.inTime
      linarith

end Rows

section Cycles

variable {log : Log} {now : ℚ}

structure Log.Kept (log : Log) : Prop where
  started : log.history.db.started = some log.history.started
  epoch : 0 ≤ log.history.started
  past : ∀ sample ∈ log.given, ∃ clock ∈ log.clock, sample.observed ≤ clock
  last : ∀ sample ∈ log.history.db.lastApi, sample ∈ log.given
  slots : (log.history.db.minutes.map Slot.key).Nodup
  unique : (log.history.db.renewals.map Renewal.due).Nodup
  registered : ∀ clock ∈ log.clock, firstDue log.history.started ≤ dueAt clock →
    ∃ row ∈ log.history.db.renewals, row.due = dueAt clock
  rows : ∀ row ∈ log.history.db.renewals, ∃ clock ∈ log.clock,
    row.Kept log.given clock log.history.db.minutes

/-- The age that `api_sample` admits. -/
theorem apiSample_some {raw : ApiEvidence} {sample : ApiSample}
    (given : apiSample raw now = some sample) :
    0 ≤ now - sample.observed ∧ now - sample.observed ≤ 180 := by
  rw [apiSample] at given
  simp only [Option.bind_eq_bind, Option.bind_eq_some_iff, Option.guard_eq_some',
    Option.pure_def, Option.some.injEq] at given
  obtain ⟨-, -, observed, -, -, age, -, -, -, -, -, -, rfl⟩ := given
  exact age

/-- A registration leaves the rows, or adds the one that comes due. -/
theorem mem_register {started : ℚ} {last : Option ApiSample} {renewals : List Renewal}
    {row : Renewal} (member : row ∈ register started now last renewals) :
    row ∈ renewals ∨ row = { due := dueAt now, beforeId := idBefore last (dueAt now) } ∧
      firstDue started ≤ dueAt now ∧ ∀ old ∈ renewals, old.due ≠ dueAt now := by
  unfold register at member
  split at member
  · rename_i observed
    split at member
    · exact .inl member
    · rename_i absent
      rcases List.mem_append.mp member with old | fresh
      · exact .inl old
      · refine .inr ⟨List.mem_singleton.mp fresh, observed, ?_⟩
        simpa using absent
  · exact .inl member

theorem mem_register_of_mem {started : ℚ} {last : Option ApiSample} {renewals : List Renewal}
    {row : Renewal} (member : row ∈ renewals) : row ∈ register started now last renewals := by
  unfold register
  split
  · split
    · exact member
    · exact List.mem_append_left _ member
  · exact member

theorem register_due {started : ℚ} {last : Option ApiSample} {renewals : List Renewal}
    (observed : firstDue started ≤ dueAt now) :
    ∃ row ∈ register started now last renewals, row.due = dueAt now := by
  unfold register
  rw [if_pos observed]
  split
  · rename_i present
    simpa using present
  · exact ⟨_, List.mem_append_right _ (List.mem_singleton.mpr rfl), rfl⟩

theorem nodup_register {started : ℚ} {last : Option ApiSample} {renewals : List Renewal}
    (unique : (renewals.map Renewal.due).Nodup) :
    ((register started now last renewals).map Renewal.due).Nodup := by
  unfold register
  split
  · split
    · exact unique
    · rename_i absent
      exact nodup_map_append unique (by simpa using absent)
  · exact unique

theorem idBefore_some {last : Option ApiSample} {due : Int} {id : String}
    (found : idBefore last due = some id) :
    ∃ earlier ∈ last, earlier.stream = id ∧ LiveBefore due earlier := by
  cases last with
  | none => cases found
  | some earlier =>
    simp only [idBefore] at found
    split at found
    · rename_i live
      exact ⟨earlier, rfl, Option.some.inj found, ⟨live.1, live.2.1, live.2.2⟩⟩
    · cases found

/-- The rows as a tick finds them after its registration. -/
theorem kept_register (kept : log.Kept) (ordered : ∀ clock ∈ log.clock, clock ≤ now)
    (api : Option ApiSample) (relay : Option RelaySample) {row : Renewal}
    (member : row ∈ register log.history.started now log.history.db.lastApi
      log.history.db.renewals) :
    row.Kept log.given now
      (recordAll log.history.started now api relay log.history.db.minutes) := by
  rcases mem_register member with old | ⟨rfl, observed, absent⟩
  · obtain ⟨clock, read, rowKept⟩ := kept.rows row old
    apply rowKept.mono (ordered clock read)
    intro _ known late
    exact known.record rowKept.whole (late.trans_le (ordered clock read)) api relay
  · constructor
    · exact dueAt_minutes now
    · exact dueAt_pos kept.epoch observed
    · exact dueAt_le now
    · intro id recorded
      obtain ⟨earlier, stored, same, live⟩ := idBefore_some recorded
      exact ⟨earlier, kept.last earlier stored, same, live⟩
    · intro _ id _ _ sample given renews
      obtain ⟨clock, read, seen⟩ := kept.past sample given
      have reached := dueAt_eq_of_le (renews.notBefore.trans seen) (ordered clock read)
      obtain ⟨row, listed, due⟩ := kept.registered clock read (reached ▸ observed)
      exact absent row listed (due.trans reached)
    · intro bad
      cases bad

theorem kept_tick (kept : log.Kept) (ordered : ∀ clock ∈ log.clock, clock ≤ now)
    {api : Option ApiSample} (fresh : ∀ sample ∈ api, 0 ≤ now - sample.observed ∧
      now - sample.observed ≤ 180) (relay : Option RelaySample) :
    (Log.mk (log.history.tick now api relay) (some now) (log.given ++ api.toList)).Kept where
  started := kept.started
  epoch := kept.epoch
  past := by
    intro sample member
    refine ⟨now, rfl, ?_⟩
    rcases List.mem_append.mp member with old | new
    · obtain ⟨clock, read, seen⟩ := kept.past sample old
      exact seen.trans (ordered clock read)
    · have := (fresh sample (Option.mem_toList.mp new)).1
      linarith
  last := by
    intro sample stored
    change latestSample log.history.db.lastApi api = some sample at stored
    unfold latestSample at stored
    apply List.mem_append.mpr
    split at stored
    · exact .inl (kept.last sample stored)
    · exact .inr (by simp [Option.some.inj stored])
    · rename_i last found
      split at stored
      · exact .inr (by simp [Option.some.inj stored])
      · exact .inl (kept.last sample (found.trans stored))
  slots := (nodup_recordAll kept.slots api relay).sublist (List.filter_sublist.map _)
  unique := by
    apply List.Nodup.sublist (List.filter_sublist.map Renewal.due)
    rw [List.map_map, show Renewal.due ∘ (fun row : Renewal => row.review now api _) =
      Renewal.due from funext fun row => review_due row now api _]
    exact nodup_register kept.unique
  registered := by
    rintro clock ⟨⟩ observed
    obtain ⟨row, member, due⟩ : ∃ row ∈ register log.history.started now log.history.db.lastApi
        log.history.db.renewals, row.due = dueAt now := register_due observed
    refine ⟨_, List.mem_filter.mpr ⟨List.mem_map_of_mem member, ?_⟩, (review_due ..).trans due⟩
    rw [decide_eq_true_eq, review_due, due]
    have := lt_dueAt_add now
    linarith
  rows := by
    intro row member
    refine ⟨now, rfl, ?_⟩
    obtain ⟨reviewed, stays⟩ := List.mem_filter.mp member
    obtain ⟨old, listed, rfl⟩ := List.mem_map.mp reviewed
    have stays := of_decide_eq_true stays
    have held := (kept_register kept ordered api relay listed).review
      (nodup_recordAll kept.slots api relay) fun sample given => (fresh sample given).2
    exact held.mono le_rfl fun _ known _ => known.prune stays

theorem fresh_of_source {source : Option ApiEvidence} {sample : ApiSample}
    (given : sample ∈ source.bind fun raw => apiSample raw now) :
    0 ≤ now - sample.observed ∧ now - sample.observed ≤ 180 := by
  obtain ⟨raw, -, read⟩ := Option.bind_eq_some_iff.mp given
  exact apiSample_some read

/-- A new process reads the start that the first one stored. -/
theorem opened_kept (kept : log.Kept) :
    History.opened log.history.db now = log.history := by
  have started := kept.started
  simp only [History.opened, started, Option.getD_some]
  rw [← started]

theorem kept_step (kept : log.Kept) (cycle : Cycle) (ordered : InOrder log cycle) :
    (log.step cycle).1.Kept := by
  cases cycle with
  | collect now source status => exact kept_tick kept ordered (fun _ => fresh_of_source) _
  | reopen now =>
    rw [Log.step, opened_kept kept]
    exact kept

theorem kept_opened {now : ℚ} (epoch : 0 ≤ now) : (Log.mk (History.opened {} now) none []).Kept where
  started := rfl
  epoch := epoch
  past := by simp
  last := by simp [History.opened]
  slots := by simp [History.opened]
  unique := by simp [History.opened]
  registered := by simp
  rows := by simp [History.opened]

/-- A row that a tick leaves was there or came due, and is its review. -/
theorem mem_tick {api : Option ApiSample} {relay : Option RelaySample} {row : Renewal}
    (member : row ∈ (log.history.tick now api relay).db.renewals) :
    ∃ old ∈ register log.history.started now log.history.db.lastApi log.history.db.renewals,
      row = old.review now api
        (recordAll log.history.started now api relay log.history.db.minutes) ∧
      now - 35 * 86400 ≤ row.due := by
  obtain ⟨reviewed, stays⟩ := List.mem_filter.mp member
  obtain ⟨old, listed, rfl⟩ := List.mem_map.mp reviewed
  exact ⟨old, listed, rfl, of_decide_eq_true stays⟩

/-- A closing never makes a row good. -/
theorem close_good {row : Renewal} {minutes : List Slot}
    (good : (row.close now minutes).result = .good) : row.result = .good := by
  unfold Renewal.close at good
  split at good
  · dsimp only at good
    split at good <;> cases good
  · exact good

/-- A review makes a pending row good on a sample that renews it. -/
theorem review_good {row : Renewal} {api : Option ApiSample} {minutes : List Slot}
    (positive : 0 < row.due) (good : (row.review now api minutes).result = .good) :
    row.result = .good ∨
      ∃ sample ∈ api, ∃ id ∈ row.beforeId, id ≠ "" ∧ Renews row.due id sample := by
  unfold Renewal.review at good
  split at good
  · exact .inl good
  · split at good
    · rename_i sample
      split at good
      · rename_i within
        split at good
        · rename_i proved
          exact .inr ⟨sample, rfl, (proved_iff positive).mp ⟨within.1, within.2, proved⟩⟩
        · exact .inl ((noted_result row sample).symm.trans (close_good good))
      · exact .inl (close_good good)
    · exact .inl (close_good good)

/-- The verdicts after one cycle are justified. -/
theorem justified_step (kept : log.Kept) (cycle : Cycle) (ordered : InOrder log cycle) :
    Justified (take Log.step log cycle) := by
  have after := kept_step kept cycle ordered
  constructor
  · intro row member good
    cases cycle with
    | reopen now =>
      left
      exact ⟨row, member, rfl, good⟩
    | collect now source status =>
      obtain ⟨old, listed, rfl, -⟩ := mem_tick member
      have held := kept_register kept ordered (source.bind fun raw => apiSample raw now)
        (status.bind fun raw => relaySample raw now) listed
      rw [review_due]
      rcases review_good held.positive good with before | ⟨sample, given, id, recorded, named, renews⟩
      · rcases mem_register listed with owned | ⟨rfl, -⟩
        · exact .inl ⟨old, owned, rfl, before⟩
        · cases before
      · obtain ⟨earlier, seen, rfl, live⟩ := held.before id recorded
        exact .inr ⟨sample, given, earlier, seen, live, renews⟩
  · intro row member bad
    obtain ⟨clock, -, held⟩ := after.rows row member
    obtain ⟨⟨id, recorded, named⟩, known, -⟩ := held.bad bad
    obtain ⟨earlier, seen, rfl, live⟩ := held.before id recorded
    exact ⟨earlier, seen, live, recorded, named, known,
      held.unproved (.inr bad) earlier.stream recorded named⟩

end Cycles

section Results

variable {log : Log}

/-- A verdict is settled: the row stands as it is, or was deleted long after it came due. -/
def Settled (row : Renewal) (log : Log) : Prop :=
  row ∈ log.history.db.renewals ∨
    (∀ other ∈ log.history.db.renewals, other.due ≠ row.due) ∧
      ∃ clock ∈ log.clock, (row.due : ℚ) + 35 * 86400 < clock

theorem settled_step {row : Renewal} (closed : row.result ≠ .pending) (kept : log.Kept)
    (settled : Settled row log) (cycle : Cycle) (ordered : InOrder log cycle) :
    Settled row (log.step cycle).1 := by
  cases cycle with
  | reopen now =>
    rw [Log.step, opened_kept kept]
    exact settled
  | collect now source status =>
    have close := lt_dueAt_add now
    rcases settled with member | ⟨gone, clock, read, old⟩
    · by_cases stays : now - 35 * 86400 ≤ row.due
      · left
        exact List.mem_filter.mpr
          ⟨List.mem_map.mpr ⟨row, mem_register_of_mem member, review_of_ne closed _⟩,
            by simpa using stays⟩
      · right
        refine ⟨?_, now, rfl, by linarith⟩
        intro other listed due
        obtain ⟨-, -, -, kept⟩ := mem_tick listed
        exact stays (due ▸ kept)
    · right
      have later : clock ≤ now := ordered clock read
      refine ⟨?_, now, rfl, by linarith⟩
      intro other listed due
      obtain ⟨before, registered, rfl, -⟩ := mem_tick listed
      rw [review_due] at due
      rcases mem_register registered with owned | ⟨rfl, -⟩
      · exact gone before owned due
      · rw [← due] at old
        dsimp only at old
        linarith

/-- A settled verdict is the only one of its renewal. -/
theorem settled_unique {row : Renewal} (kept : log.Kept) (settled : Settled row log) :
    ∀ now ∈ log.history.db.renewals, now.due = row.due → now = row := by
  intro now member due
  rcases settled with listed | ⟨gone, -⟩
  · exact eq_of_key kept.unique member listed due
  · exact absurd due (gone now member)

/-- Over one database, with a clock that counts from the epoch and does not go back: a verdict is
reached once from PENDING, a good one on a sample of that cycle, and a bad one with the ten minutes
known and no sample that renews. -/
theorem renewal_verdicts (began : ℚ) (epoch : 0 ≤ began) (cycles : List Cycle)
    (ordered : Guarded Log.step InOrder { history := History.opened {} began } cycles) :
    (∀ taken ∈ trace Log.step { history := History.opened {} began } cycles, Justified taken) ∧
      (trace Log.step { history := History.opened {} began } cycles).Pairwise fun earlier later =>
        ∀ row ∈ earlier.after.history.db.renewals, row.result ≠ .pending →
          ∀ now ∈ later.after.history.db.renewals, now.due = row.due → now = row := by
  have start := kept_opened epoch
  constructor
  · intro taken member
    obtain ⟨kept, shape⟩ := trace_invariant Log.Kept
      (fun _ cycle kept ordered => kept_step kept cycle ordered) start ordered taken member
    rw [shape]
    exact justified_step kept taken.event (ordered taken member)
  · apply (pairwise_settled Log.Kept
      (fun (row : Renewal) log => row.result ≠ .pending ∧ Settled row log)
      (fun row taken => ∀ now ∈ taken.after.history.db.renewals, now.due = row.due → now = row)
      (fun _ cycle kept ordered => kept_step kept cycle ordered)
      (fun row _ cycle kept ordered settled =>
        ⟨settled.1, settled_step settled.1 kept settled.2 cycle ordered⟩)
      (fun row _ cycle kept ordered settled =>
        settled_unique (kept_step kept cycle ordered)
          (settled_step settled.1 kept settled.2 cycle ordered))
      start ordered).imp
    intro earlier later settled row member closed
    exact settled row ⟨closed, .inl member⟩

/-- The collector's evidence of a live channel, collected five seconds before it is read. -/
def liveAt (now : ℚ) (streamId : String) (startedAt : ℚ) : Cycle :=
  .collect now (some
    { trusted := true
      collectedAt := some (now - 5)
      validUntil := some (now + 115)
      probeStatus := some "ok"
      httpStatus := some 200
      providerState := some "LIVE"
      streamId
      startedAt := some startedAt }) (some ⟨true, some (now - 5), some "FLOWING"⟩)

/-- A session ends at its renewal and a restarted collector finds the next one. -/
def renewedOnce : List Cycle :=
  [liveAt 140380 "first" 60000, liveAt 140420 "first" 60000, .reopen 140500,
    liveAt 140600 "second" 140520, .collect 141300 none none]

theorem renewal_verdicts_renewedOnce :
    (∀ taken ∈ trace Log.step { history := History.opened {} 100000 } renewedOnce,
        Justified taken) ∧
      (trace Log.step { history := History.opened {} 100000 } renewedOnce).Pairwise
        fun earlier later =>
          ∀ row ∈ earlier.after.history.db.renewals, row.result ≠ .pending →
            ∀ now ∈ later.after.history.db.renewals, now.due = row.due → now = row :=
  renewal_verdicts 100000 (by norm_num) renewedOnce (by decide +kernel)

/-- The run reaches the verdict. -/
example : ((final Log.step { history := History.opened {} 100000 } renewedOnce).history.db.renewals.map
    fun row => (row.due, row.result)) = [(140400, .good)] := by
  decide +kernel

end Results

end LiveStream.Observation
