import LiveStream.Support.Run
import LiveStream.Support.Value

/-! `CopyHeartbeat`: the facts producer watches the records of the copy process for changes. -/

namespace LiveStream.Fallback

open LiveStream.Support

/-- The fields of a record of the copy process that are watched (`COPY_FIELDS`). -/
structure CopyRecord where
  schema : String
  pid : Int
  bootId : String
  session : Int
  destinationFingerprint : String
  updatedAt : String
  state : String
  outputBytes : Int
  videoPackets : Int
  audioPackets : Int
  lastProgressAt : String
  deriving DecidableEq

/-- A call of `observe`; `now` is the boottime of the producer. -/
structure CopyPoll where
  record : CopyRecord
  path : String
  now : ℚ

/-- The identity tuple of a record. -/
def CopyPoll.identity (poll : CopyPoll) : String × String × Int × Int × String :=
  (poll.path, poll.record.bootId, poll.record.pid, poll.record.session,
    poll.record.destinationFingerprint)

/-- The heartbeat; its digest stands for the fields that are hashed. -/
structure CopyHeartbeat where
  identity : Option (String × String × Int × Int × String)
  digest : Option CopyRecord
  changedAt : Option ℚ
  confirmed : Bool

/-- `CopyHeartbeat()`. -/
def CopyHeartbeat.new : CopyHeartbeat := ⟨none, none, none, false⟩

/-- `stream_v3.copy_observation.v1`. -/
structure CopyObservation where
  ageSeconds : ℚ
  confirmed : Bool
  newObservation : Bool
  deriving DecidableEq

/-- `age = max(0., now - self.changed_at)`, and the rest of the observation. -/
def CopyHeartbeat.report (heartbeat : CopyHeartbeat) (now : ℚ) (changed : Bool) : CopyObservation where
  ageSeconds := max 0 (now - heartbeat.changedAt.getD now)
  confirmed := heartbeat.confirmed
  newObservation := changed

/-- `observe`. -/
def CopyHeartbeat.observe (heartbeat : CopyHeartbeat) (poll : CopyPoll) : CopyHeartbeat × CopyObservation :=
  if heartbeat.identity ≠ some poll.identity then
    let other := ⟨some poll.identity, some poll.record, some poll.now, false⟩
    (other, other.report poll.now false)
  else if heartbeat.digest ≠ some poll.record then
    let changed := { heartbeat with
      digest := some poll.record, changedAt := some poll.now, confirmed := true }
    (changed, changed.report poll.now true)
  else (heartbeat, heartbeat.report poll.now false)

/-- The observation as it stands in the answer. -/
def CopyObservation.toValue (observation : CopyObservation) : Value :=
  .dict [("schema", .str "stream_v3.copy_observation.v1"),
    ("age_seconds", .float (.finite observation.ageSeconds)),
    ("confirmed", .bool observation.confirmed),
    ("new_observation", .bool observation.newObservation)]

/-- Two polls in a row that found different records of one copy process. -/
def CopyPoll.Changes (earlier later : CopyPoll) : Prop :=
  earlier.identity = later.identity ∧ earlier.record ≠ later.record

/-- What a heartbeat remembers: the first poll of the records that it finds now. -/
structure Watches (heartbeat : CopyHeartbeat) (front : List CopyPoll) (change : CopyPoll) (later : List CopyPoll) :
    Prop where
  same : ∀ poll ∈ change :: later, heartbeat.identity = some poll.identity ∧
    heartbeat.digest = some poll.record
  changedAt : heartbeat.changedAt = some change.now
  confirmed : heartbeat.confirmed = true → ∃ before earlier, front = before ++ [earlier] ∧
    earlier.Changes change

/-- A heartbeat is new, or it watches. -/
def Watching (heartbeat : CopyHeartbeat) (polls : List CopyPoll) : Prop :=
  (heartbeat = .new ∧ polls = []) ∨
    ∃ front change later, polls = front ++ change :: later ∧ Watches heartbeat front change later

theorem observe_watches {heartbeat : CopyHeartbeat} {polls : List CopyPoll}
    (watching : Watching heartbeat polls) (poll : CopyPoll) :
    ∃ front change later, polls ++ [poll] = front ++ change :: later ∧
      Watches (heartbeat.observe poll).1 front change later ∧
      (heartbeat.observe poll).2.ageSeconds = max 0 (poll.now - change.now) ∧
      (heartbeat.observe poll).2.confirmed = (heartbeat.observe poll).1.confirmed := by
  unfold CopyHeartbeat.observe
  by_cases other : heartbeat.identity = some poll.identity
  · rw [if_neg (not_not.mpr other)]
    rcases watching with ⟨rfl, _⟩ | ⟨front, change, later, rfl, watches⟩
    · cases other
    · by_cases repeated : heartbeat.digest = some poll.record
      · rw [if_neg (not_not.mpr repeated)]
        refine ⟨front, change, later ++ [poll], by simp, ⟨?_, watches.changedAt, watches.confirmed⟩,
          ?_, rfl⟩
        · intro found member
          rw [← List.cons_append, List.mem_append, List.mem_singleton] at member
          rcases member with older | rfl
          · exact watches.same found older
          · exact ⟨other, repeated⟩
        · simp [CopyHeartbeat.report, watches.changedAt]
      · rw [if_pos repeated]
        refine ⟨front ++ change :: later, poll, [], by simp, ⟨?_, rfl, ?_⟩, rfl, rfl⟩
        · intro found member
          cases List.mem_singleton.mp member
          exact ⟨other, rfl⟩
        · intro _
          have last : (change :: later).getLast (by simp) ∈ change :: later := List.getLast_mem _
          obtain ⟨identity, digest⟩ := watches.same _ last
          refine ⟨front ++ (change :: later).dropLast, (change :: later).getLast (by simp), ?_, ?_, ?_⟩
          · rw [List.append_assoc, List.dropLast_append_getLast]
          · exact Option.some.inj (identity.symm.trans other)
          · intro same
            exact repeated (digest.trans (congrArg some same))
  · rw [if_pos other]
    refine ⟨polls, poll, [], rfl, ⟨?_, rfl, ?_⟩, rfl, rfl⟩
    · intro found member
      cases List.mem_singleton.mp member
      exact ⟨rfl, rfl⟩
    · intro confirmed
      cases confirmed

theorem watching_final (polls : List CopyPoll) :
    Watching (final CopyHeartbeat.observe .new polls) polls := by
  induction polls using List.reverseRecOn with
  | nil => exact Or.inl ⟨rfl, rfl⟩
  | append_singleton polls poll inductionHypothesis =>
    rw [final_append]
    obtain ⟨front, change, later, split, watches, _, _⟩ := observe_watches inductionHypothesis poll
    exact Or.inr ⟨front, change, later, split, watches⟩

/-- A confirmed observation tells the time since a poll that found another record than the poll
before, of the same copy process. Every poll since has found that record. -/
theorem observe_confirmed (polls : List CopyPoll) (poll : CopyPoll)
    (confirmed : ((final CopyHeartbeat.observe .new polls).observe poll).2.confirmed = true) :
    ∃ front earlier change later, polls ++ [poll] = front ++ earlier :: change :: later ∧
      earlier.Changes change ∧ (∀ found ∈ later, found.record = change.record) ∧
      ((final CopyHeartbeat.observe .new polls).observe poll).2.ageSeconds =
        max 0 (poll.now - change.now) := by
  obtain ⟨front, change, later, split, watches, age, agrees⟩ :=
    observe_watches (watching_final polls) poll
  obtain ⟨before, earlier, rfl, changes⟩ := watches.confirmed (agrees.symm.trans confirmed)
  refine ⟨before, earlier, change, later, by simpa using split, changes, ?_, age⟩
  intro found member
  have first := (watches.same change (by simp)).2
  exact Option.some.inj ((watches.same found (by simp [member])).2.symm.trans first)

end LiveStream.Fallback
