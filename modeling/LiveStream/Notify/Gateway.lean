import LiveStream.Support.Keyed
import LiveStream.Support.Value

/-! The notification gateway: one receipt for each message, durable before its send. -/

namespace LiveStream.Notify

open LiveStream.Support

/-- A message of the right shape. Its key is the digest of all three texts. -/
structure Notice where
  route : String
  content : String
  username : String
  deriving DecidableEq

inductive ReceiptStatus where
  | sending | delivered | retry | rejected | unknown
  deriving DecidableEq

/-- `status not in ('DELIVERED','RETRY','REJECTED','UNKNOWN')` counts as unknown. -/
def ReceiptStatus.ofAnswer (answer : String) : ReceiptStatus :=
  if answer = "DELIVERED" then .delivered
  else if answer = "RETRY" then .retry
  else if answer = "REJECTED" then .rejected
  else .unknown

/-- A row of `receipts`. -/
structure SendReceipt where
  key : Notice
  route : String
  status : ReceiptStatus
  code : Int
  boot : ℕ
  mono : ℚ
  created : ℚ
  deriving DecidableEq

/-- What a delivery reads of its clocks: boot and boottime at its start, and the wall clock for the
pruning and for the new row. Boots are numbered in their order. -/
structure ClockReading where
  boot : ℕ
  mono : ℚ
  pruneWall : ℚ
  createdWall : ℚ
  deriving DecidableEq

/-- How a delivery goes on that reaches a write: the process ends before the write commits, or after
the new receipt, the send does not return, or it answers and the answer is recorded or not. -/
inductive Fate where
  | lost
  | held
  | interrupted
  | answered (answer : String) (code : Int) (recorded : Bool)

inductive ResultStatus where
  | of (status : ReceiptStatus)
  | capacity
  deriving DecidableEq

/-- `result`: the reply's `delivered` says whether the status is DELIVERED. -/
structure DeliveryResult where
  delivered : Bool
  route : String
  status : ResultStatus
  providerStatus : Int
  deriving DecidableEq

def deliveryResult (route : String) (status : ResultStatus) (code : Int) : DeliveryResult :=
  ⟨status = .of .delivered, route, status, code⟩

/-- A send: the receipts that were durable when it began, and the status it ended in, if it was
recorded. -/
structure Sent where
  message : Notice
  reading : ClockReading
  receipts : List SendReceipt
  ended : Option ReceiptStatus
  recorded : Bool
  deriving DecidableEq

/-- What a delivery leaves, sends and returns. A process that ends returns nothing. -/
structure Handled where
  receipts : List SendReceipt
  sent : Option Sent := none
  result : Option (Except PyError DeliveryResult) := none

section Deliver

variable (receipts : List SendReceipt) (message : Notice) (reading : ClockReading)

/-- `DELETE FROM receipts WHERE status IN ('DELIVERED','RETRY','REJECTED') AND created<?`. -/
def prune : List SendReceipt :=
  receipts.filter fun row =>
    ¬ ((row.status = .delivered ∨ row.status = .retry ∨ row.status = .rejected) ∧
      row.created < reading.pruneWall - 7 * 86400)

/-- The receipt of a send that is about to begin. -/
def sendingReceipt : SendReceipt where
  key := message
  route := message.route
  status := .sending
  code := 0
  boot := reading.boot
  mono := reading.mono
  created := reading.createdWall

/-- `UPDATE receipts SET status=?,code=? WHERE key=?`. -/
def recordOutcome (status : ReceiptStatus) (code : Int) : List SendReceipt :=
  updateWhere (fun row => row.key = message) (fun row => { row with status, code }) receipts

/-- `UPDATE receipts SET boot=?,mono=? WHERE key=?`. -/
def rebind : List SendReceipt :=
  updateWhere (fun row => row.key = message)
    (fun row => { row with boot := reading.boot, mono := reading.mono }) receipts

/-- The send and the record of its outcome, with the new receipt durable. -/
def dispatch : Fate → Handled
  | .lost | .held => { receipts }
  | .interrupted => { receipts, sent := some ⟨message, reading, receipts, none, false⟩ }
  | .answered answer code recorded =>
    let status := ReceiptStatus.ofAnswer answer
    let sent := ⟨message, reading, receipts, some status, recorded⟩
    if recorded then
      { receipts := recordOutcome receipts message status code
        sent := some sent
        result := some (.ok (deliveryResult message.route (.of status) code)) }
    else { receipts, sent := some sent }

/-- The pruning, the capacity and the new receipt, in one transaction, and then the send. -/
def openReceipt (known : Bool) (fate : Fate) : Handled :=
  match fate with
  | .lost => { receipts }
  | fate =>
    let pruned := prune receipts reading
    if 10000 ≤ pruned.length ∧ known = false then
      { receipts := pruned, result := some (.ok (deliveryResult message.route .capacity 0)) }
    else
      dispatch (upsert SendReceipt.key pruned (sendingReceipt message reading)) message reading fate

/-- `Gateway.deliver`. -/
def deliver (fate : Fate) : Handled :=
  if (message.route ≠ "slack" ∧ message.route ≠ "discord") ∨
      ¬ (0 < message.content.length ∧ message.content.length ≤ 12000) ∨
      128 < message.username.length then
    { receipts, result := some (.error (valueError "message_invalid")) }
  else
    match lookup SendReceipt.key receipts message with
    | some row =>
      let answer := some (.ok (deliveryResult message.route (.of row.status) row.code))
      if row.status = .sending ∨ row.status = .unknown then
        { receipts, result := some (.ok (deliveryResult message.route (.of .unknown) row.code)) }
      else if row.status = .delivered ∧ reading.boot ≠ row.boot then
        match fate with
        | .lost => { receipts }
        | _ => { receipts := rebind receipts message reading, result := answer }
      else if row.status = .delivered ∧ reading.mono - row.mono < 180 then
        { receipts, result := answer }
      else openReceipt receipts message reading true fate
    | none => openReceipt receipts message reading false fate

end Deliver

end LiveStream.Notify
