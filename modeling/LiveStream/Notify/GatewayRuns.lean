import LiveStream.Notify.Gateway
import LiveStream.Support.Run

/-! Deliveries in any order and with any interruption: an uncertain message is never sent again,
and a delivered one not within the window of its boot. -/

namespace LiveStream.Notify

open LiveStream.Support

section Law

/-- The receipts, and the clock readings of the deliveries so far. -/
structure Gateway where
  receipts : List SendReceipt := []
  readings : List ClockReading := []

structure Request where
  message : Notice
  reading : ClockReading
  fate : Fate

def Gateway.step (gateway : Gateway) (request : Request) : Gateway × Handled :=
  let delivery := deliver gateway.receipts request.message request.reading request.fate
  ({ receipts := delivery.receipts, readings := gateway.readings ++ [request.reading] }, delivery)

/-- Boots follow each other, boottime does not go back within one, and the wall clock runs at most
six days ahead of it. -/
structure ClockReading.Follows (earlier later : ClockReading) : Prop where
  boots : earlier.boot ≤ later.boot
  boottime : earlier.boot = later.boot → earlier.mono ≤ later.mono
  wall : earlier.boot = later.boot →
    later.pruneWall - earlier.createdWall ≤ later.mono - earlier.mono + 6 * 86400

instance (earlier later : ClockReading) : Decidable (earlier.Follows later) :=
  decidable_of_iff (earlier.boot ≤ later.boot ∧
    (earlier.boot = later.boot → earlier.mono ≤ later.mono) ∧
    (earlier.boot = later.boot →
      later.pruneWall - earlier.createdWall ≤ later.mono - earlier.mono + 6 * 86400))
    ⟨fun ⟨boots, boottime, wall⟩ => ⟨boots, boottime, wall⟩,
      fun follows => ⟨follows.boots, follows.boottime, follows.wall⟩⟩

/-- The clocks of a delivery follow those of every earlier one. -/
def Clocked (gateway : Gateway) (request : Request) : Prop :=
  ∀ earlier ∈ gateway.readings, earlier.Follows request.reading

instance (gateway : Gateway) (request : Request) : Decidable (Clocked gateway request) :=
  inferInstanceAs (Decidable (∀ earlier ∈ gateway.readings, _))

abbrev Turned := Taken Gateway Request Handled

/-- A send that ended UNKNOWN, or whose outcome was not recorded. -/
def Sent.Uncertain (sent : Sent) : Prop :=
  sent.recorded = false ∨ sent.ended = some .unknown

/-- A message that a delivery does not send, and whose receipt it keeps. -/
structure Withheld (message : Notice) (turned : Turned) : Prop where
  unsent : ∀ sent ∈ turned.output.sent, sent.message ≠ message
  kept : ∃ row ∈ turned.after.receipts, row.key = message

/-- What an earlier delivery means for a later one. -/
structure Respects (earlier later : Turned) : Prop where
  uncertain : ∀ sent ∈ earlier.output.sent, sent.Uncertain → Withheld sent.message later
  delivered : ∀ sent ∈ earlier.output.sent, sent.ended = some .delivered →
    ∀ again ∈ later.output.sent, again.message = sent.message →
      again.reading.boot = sent.reading.boot → sent.reading.mono + 180 ≤ again.reading.mono

end Law

section Cases

variable {receipts : List SendReceipt} {message : Notice} {reading : ClockReading}

/-- A message whose receipt, if there is one, permits a send. -/
def Free (receipts : List SendReceipt) (message : Notice) (reading : ClockReading) : Prop :=
  ∀ row ∈ receipts, row.key = message → row.status ≠ .sending ∧ row.status ≠ .unknown ∧
    (row.status = .delivered → row.boot = reading.boot ∧ 180 ≤ reading.mono - row.mono)

/-- The receipts with the new one of a send. -/
def opened (receipts : List SendReceipt) (message : Notice) (reading : ClockReading) :
    List SendReceipt :=
  upsert SendReceipt.key (prune receipts reading) (sendingReceipt message reading)

/-- Everything that a delivery can do. -/
inductive Delivers (receipts : List SendReceipt) (message : Notice) (reading : ClockReading) :
    Handled → Prop
  | kept (result : Option (Except PyError DeliveryResult)) :
      Delivers receipts message reading { receipts, result }
  | rebound (row : SendReceipt) (result : Option (Except PyError DeliveryResult))
      (found : lookup SendReceipt.key receipts message = some row)
      (moved : reading.boot ≠ row.boot) :
      Delivers receipts message reading { receipts := rebind receipts message reading, result }
  | pruned (result : Option (Except PyError DeliveryResult)) :
      Delivers receipts message reading { receipts := prune receipts reading, result }
  | held (free : Free receipts message reading) :
      Delivers receipts message reading { receipts := opened receipts message reading }
  | unrecorded (free : Free receipts message reading) (ended : Option ReceiptStatus) :
      Delivers receipts message reading
        { receipts := opened receipts message reading
          sent := some ⟨message, reading, opened receipts message reading, ended, false⟩ }
  | recorded (free : Free receipts message reading) (status : ReceiptStatus) (code : Int)
      (result : Option (Except PyError DeliveryResult)) :
      Delivers receipts message reading
        { receipts := recordOutcome (opened receipts message reading) message status code
          sent := some ⟨message, reading, opened receipts message reading, some status, true⟩
          result }

theorem delivers_openReceipt (free : Free receipts message reading) (known : Bool) (fate : Fate) :
    Delivers receipts message reading (openReceipt receipts message reading known fate) := by
  cases fate with
  | lost => exact .kept none
  | held =>
    rw [openReceipt.eq_def]
    dsimp only
    split
    · exact .pruned _
    · exact .held free
  | interrupted =>
    rw [openReceipt.eq_def]
    dsimp only
    split
    · exact .pruned _
    · exact .unrecorded free none
  | answered answer code recorded =>
    rw [openReceipt.eq_def]
    dsimp only
    split
    · exact .pruned _
    · rw [dispatch.eq_def]
      dsimp only
      split
      · rename_i stored
        subst stored
        exact .recorded free (.ofAnswer answer) code _
      · rename_i lost
        rw [Bool.not_eq_true] at lost
        subst lost
        exact .unrecorded free (some (.ofAnswer answer))

/-- What a delivery does, with the reason why it sends. -/
theorem delivers (unique : (receipts.map SendReceipt.key).Nodup) (message : Notice)
    (reading : ClockReading) (fate : Fate) :
    Delivers receipts message reading (deliver receipts message reading fate) := by
  unfold deliver
  split
  · exact .kept _
  · cases found : lookup SendReceipt.key receipts message with
    | none =>
      apply delivers_openReceipt
      intro row member same
      exact absurd same (lookup_none found row member)
    | some row =>
      obtain ⟨owned, own⟩ := lookup_some found
      dsimp only
      split
      · exact .kept _
      · rename_i certain
        split
        · rename_i moved
          cases fate with
          | lost => exact .kept none
          | held | interrupted | answered _ _ _ => exact .rebound row _ found moved.2
        · rename_i here
          split
          · exact .kept _
          · rename_i late
            apply delivers_openReceipt
            intro other member same
            rw [eq_of_key unique member owned (same.trans own.symm)]
            push Not at certain here late
            refine ⟨certain.1, certain.2, ?_⟩
            intro delivered
            exact ⟨(here delivered).symm, late delivered⟩

theorem nodup_prune (unique : (receipts.map SendReceipt.key).Nodup) :
    ((prune receipts reading).map SendReceipt.key).Nodup :=
  unique.sublist (List.filter_sublist.map SendReceipt.key)

theorem nodup_opened (unique : (receipts.map SendReceipt.key).Nodup) :
    ((opened receipts message reading).map SendReceipt.key).Nodup :=
  nodup_upsert (nodup_prune unique) _

theorem map_key_recordOutcome (status : ReceiptStatus) (code : Int) :
    (recordOutcome receipts message status code).map SendReceipt.key =
      receipts.map SendReceipt.key :=
  map_key_updateWhere fun _ _ _ => rfl

theorem map_key_rebind : (rebind receipts message reading).map SendReceipt.key =
    receipts.map SendReceipt.key :=
  map_key_updateWhere fun _ _ _ => rfl

theorem nodup_delivers {delivery : Handled} (unique : (receipts.map SendReceipt.key).Nodup)
    (made : Delivers receipts message reading delivery) :
    (delivery.receipts.map SendReceipt.key).Nodup := by
  cases made with
  | kept => exact unique
  | rebound row result found moved =>
    rw [map_key_rebind]
    exact unique
  | pruned => exact nodup_prune unique
  | held free => exact nodup_opened unique
  | unrecorded free ended => exact nodup_opened unique
  | recorded free status code result =>
    rw [map_key_recordOutcome]
    exact nodup_opened unique

/-- A receipt that is not pruned stays as it is through the opening of another one. -/
theorem mem_opened {row : SendReceipt} (stays : row ∈ prune receipts reading)
    (apart : row.key ≠ message) : row ∈ opened receipts message reading :=
  mem_upsert.mpr (.inr ⟨stays, apart⟩)

theorem sendingReceipt_mem_opened :
    sendingReceipt message reading ∈ opened receipts message reading :=
  mem_upsert.mpr (.inl rfl)

theorem mem_updateWhere_of_ne {rewrite : SendReceipt → SendReceipt} {row : SendReceipt}
    (member : row ∈ receipts) (apart : row.key ≠ message) :
    row ∈ updateWhere (fun row => row.key = message) rewrite receipts :=
  List.mem_map.mpr ⟨row, member, by simp [apart]⟩

/-- A receipt of another message is only ever pruned. -/
theorem mem_delivers_of_ne {delivery : Handled} {row : SendReceipt}
    (made : Delivers receipts message reading delivery) (member : row ∈ receipts)
    (stays : row ∈ prune receipts reading) (apart : row.key ≠ message) :
    row ∈ delivery.receipts := by
  cases made with
  | kept => exact member
  | rebound other result found moved => exact mem_updateWhere_of_ne member apart
  | pruned => exact stays
  | held free => exact mem_opened stays apart
  | unrecorded free ended => exact mem_opened stays apart
  | recorded free status code result =>
    exact mem_updateWhere_of_ne (mem_opened stays apart) apart

theorem mem_prune {row : SendReceipt} (member : row ∈ receipts)
    (old : row.status = .delivered ∨ row.status = .retry ∨ row.status = .rejected →
      reading.pruneWall - 7 * 86400 ≤ row.created) : row ∈ prune receipts reading := by
  refine List.mem_filter.mpr ⟨member, ?_⟩
  simp only [decide_eq_true_eq, not_and, not_lt]
  exact old

end Cases

section Uncertain

variable {receipts : List SendReceipt} {message : Notice} {reading : ClockReading}

/-- A receipt that no send follows. -/
def Unsettled (message : Notice) (receipts : List SendReceipt) : Prop :=
  ∃ row ∈ receipts, row.key = message ∧ (row.status = .sending ∨ row.status = .unknown)

/-- An uncertain receipt stays, and its message is not sent. -/
theorem unsettled_delivers {delivery : Handled} {other : Notice}
    (unsettled : Unsettled other receipts) (made : Delivers receipts message reading delivery) :
    Unsettled other delivery.receipts ∧ ∀ sent ∈ delivery.sent, sent.message ≠ other := by
  obtain ⟨row, member, own, uncertain⟩ := unsettled
  have stays : row ∈ prune receipts reading := by
    apply mem_prune member
    rcases uncertain with status | status <;> simp [status]
  have blocked (free : Free receipts message reading) : message ≠ other := by
    intro same
    obtain ⟨notSending, notUnknown, -⟩ := free row member (own.trans same.symm)
    rcases uncertain with sending | unknown
    · exact notSending sending
    · exact notUnknown unknown
  have keeps (apart : message ≠ other) : Unsettled other delivery.receipts :=
    ⟨row, mem_delivers_of_ne made member stays (own ▸ apart.symm), own, uncertain⟩
  cases made with
  | kept => exact ⟨⟨row, member, own, uncertain⟩, fun _ sent => by cases sent⟩
  | rebound found result listed moved =>
    refine ⟨⟨_, List.mem_map_of_mem member, ?_, ?_⟩, fun _ sent => by cases sent⟩
    · split <;> exact own
    · split <;> exact uncertain
  | pruned => exact ⟨⟨row, stays, own, uncertain⟩, fun _ sent => by cases sent⟩
  | held free => exact ⟨keeps (blocked free), fun _ sent => by cases sent⟩
  | unrecorded free ended =>
    refine ⟨keeps (blocked free), ?_⟩
    intro sent issued
    rw [← Option.some.inj issued]
    exact blocked free
  | recorded free status code result =>
    refine ⟨keeps (blocked free), ?_⟩
    intro sent issued
    rw [← Option.some.inj issued]
    exact blocked free

/-- What a send leaves: its own receipt, in the state in which it ended if that was recorded. -/
theorem sent_delivers {delivery : Handled} (made : Delivers receipts message reading delivery)
    {sent : Sent} (issued : delivery.sent = some sent) :
    Free receipts sent.message sent.reading ∧ sent.message = message ∧ sent.reading = reading ∧
      sendingReceipt message reading ∈ sent.receipts ∧
      ∃ row ∈ delivery.receipts, row.key = message ∧ row.boot = reading.boot ∧
        row.mono = reading.mono ∧ row.created = reading.createdWall ∧
        (sent.recorded = false → row.status = .sending) ∧
        (sent.recorded = true → sent.ended = some row.status) := by
  cases made with
  | kept | rebound | pruned | held => cases issued
  | unrecorded free ended =>
    obtain rfl := Option.some.inj issued
    exact ⟨free, rfl, rfl, sendingReceipt_mem_opened, _, sendingReceipt_mem_opened, rfl, rfl, rfl,
      rfl, fun _ => rfl, fun recorded => by cases recorded⟩
  | recorded free status code result =>
    obtain rfl := Option.some.inj issued
    refine ⟨free, rfl, rfl, sendingReceipt_mem_opened, _,
      List.mem_map_of_mem sendingReceipt_mem_opened, ?_⟩
    simp [sendingReceipt]

end Uncertain

section Window

/-- The window of a delivered send is over, or its receipt still stands for it. -/
def Windowed (sent : Sent) (gateway : Gateway) : Prop :=
  sent.reading ∈ gateway.readings ∧
    (Unsettled sent.message gateway.receipts ∨
      (∃ reading ∈ gateway.readings, sent.reading.boot < reading.boot) ∨
      (∃ reading ∈ gateway.readings, reading.boot = sent.reading.boot ∧
        sent.reading.mono + 180 ≤ reading.mono) ∨
      ∃ row ∈ gateway.receipts, row.key = sent.message ∧ row.status = .delivered ∧
        row.boot = sent.reading.boot ∧ row.mono = sent.reading.mono ∧
        row.created = sent.reading.createdWall)

variable {gateway : Gateway} {request : Request}

/-- The window stays until another boot, or until its 180 s are over. -/
theorem windowed_step (unique : (gateway.receipts.map SendReceipt.key).Nodup) {sent : Sent}
    (windowed : Windowed sent gateway) (clocked : Clocked gateway request) :
    Windowed sent (gateway.step request).1 := by
  have made := delivers unique request.message request.reading request.fate
  obtain ⟨seen, windowed⟩ := windowed
  have follows := clocked sent.reading seen
  have grown : ∀ reading ∈ gateway.readings, reading ∈ (gateway.step request).1.readings :=
    fun reading member => List.mem_append_left _ member
  have now : request.reading ∈ (gateway.step request).1.readings :=
    List.mem_append_right _ (List.mem_singleton.mpr rfl)
  refine ⟨grown _ seen, ?_⟩
  rcases windowed with unsettled | ⟨reading, member, later⟩ | ⟨reading, member, same, late⟩ |
    ⟨row, member, own, delivered, boot, mono, created⟩
  · exact .inl (unsettled_delivers unsettled made).1
  · exact .inr (.inl ⟨reading, grown _ member, later⟩)
  · exact .inr (.inr (.inl ⟨reading, grown _ member, same, late⟩))
  · by_cases moved : sent.reading.boot = request.reading.boot
    · by_cases over180 : sent.reading.mono + 180 ≤ request.reading.mono
      · exact .inr (.inr (.inl ⟨request.reading, now, moved.symm, over180⟩))
      · -- within the window the receipt is neither pruned nor replaced
        have stays : row ∈ prune gateway.receipts request.reading := by
          apply mem_prune member
          intro _
          have := follows.wall moved
          rw [created]
          linarith
        have untouched (free : Free gateway.receipts request.message request.reading) :
            row.key ≠ request.message := by
          intro same
          have := ((free row member same).2.2 delivered).2
          rw [mono] at this
          exact over180 (by linarith)
        have still (listed : row ∈ (deliver gateway.receipts request.message request.reading
            request.fate).receipts) : ∃ row ∈ (gateway.step request).1.receipts,
              row.key = sent.message ∧ row.status = .delivered ∧ row.boot = sent.reading.boot ∧
                row.mono = sent.reading.mono ∧ row.created = sent.reading.createdWall :=
          ⟨row, listed, own, delivered, boot, mono, created⟩
        refine .inr (.inr (.inr (still ?_)))
        generalize deliver gateway.receipts request.message request.reading request.fate =
          delivery at made
        cases made with
        | kept => exact member
        | rebound other result found elsewhere =>
          apply mem_updateWhere_of_ne member
          intro same
          have twin := eq_of_key unique member (lookup_some found).1
            (same.trans (lookup_some found).2.symm)
          rw [← twin, boot] at elsewhere
          exact elsewhere moved.symm
        | pruned => exact stays
        | held free => exact mem_opened stays (untouched free)
        | unrecorded free ended => exact mem_opened stays (untouched free)
        | recorded free status code result =>
          exact mem_updateWhere_of_ne (mem_opened stays (untouched free)) (untouched free)
    · exact .inr (.inl ⟨request.reading, now, lt_of_le_of_ne follows.boots moved⟩)

end Window

section Results

variable {gateway : Gateway} {request : Request}

def Gateway.Kept (gateway : Gateway) : Prop := (gateway.receipts.map SendReceipt.key).Nodup

theorem kept_step (kept : gateway.Kept) (request : Request) : (gateway.step request).1.Kept :=
  nodup_delivers kept (delivers kept _ _ request.fate)

/-- Within the window of a delivered send no other one begins. -/
theorem windowed_binds (kept : gateway.Kept) {sent : Sent} (windowed : Windowed sent gateway)
    (clocked : Clocked gateway request) :
    ∀ again ∈ (gateway.step request).2.sent, again.message = sent.message →
      again.reading.boot = sent.reading.boot → sent.reading.mono + 180 ≤ again.reading.mono := by
  intro again issued message boot
  obtain ⟨free, -, now, -⟩ := sent_delivers (delivers kept _ _ request.fate) issued
  rcases windowed.2 with ⟨row, member, own, uncertain⟩ | ⟨reading, member, later⟩ |
    ⟨reading, member, same, late⟩ | ⟨row, member, own, delivered, -, mono, -⟩
  · obtain ⟨notSending, notUnknown, -⟩ := free row member (own.trans message.symm)
    rcases uncertain with sending | unknown
    · exact absurd sending notSending
    · exact absurd unknown notUnknown
  · have := (clocked reading member).boots
    rw [now] at boot
    omega
  · have order := (clocked reading member).boottime (by rw [same, ← boot, now])
    rw [now]
    linarith
  · have := ((free row member (own.trans message.symm)).2.2 delivered).2
    rw [mono] at this
    linarith

/-- One message is delivered, asked for again too early and then in time; the send of another one is
interrupted before a reboot. -/
def gatewayRequests : List Request :=
  [⟨⟨"slack", "stream down", "monitor"⟩, ⟨1, 100, 5000, 5000⟩, .answered "DELIVERED" 200 true⟩,
    ⟨⟨"slack", "stream down", "monitor"⟩, ⟨1, 200, 5100, 5100⟩, .answered "DELIVERED" 200 true⟩,
    ⟨⟨"slack", "stream down", "monitor"⟩, ⟨1, 280, 5180, 5180⟩, .answered "DELIVERED" 200 true⟩,
    ⟨⟨"discord", "stream up", "monitor"⟩, ⟨1, 300, 5200, 5200⟩, .interrupted⟩,
    ⟨⟨"discord", "stream up", "monitor"⟩, ⟨2, 20, 9000, 9000⟩, .answered "DELIVERED" 204 true⟩]

/-- Only the first and the third request for the first message, and the one for the second, reach
the provider. -/
example : (trace Gateway.step {} gatewayRequests).map (fun turned => turned.output.sent.isSome) =
    [true, false, true, true, false] := by
  decide +kernel

end Results

end LiveStream.Notify
