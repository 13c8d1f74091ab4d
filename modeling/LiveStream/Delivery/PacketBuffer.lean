import LiveStream.Support.Checks

/-! The bounded MPEG-TS buffer of the delivery pipeline: packets cut out of the bytes of the
producer, the tables and the video stream they name, and the reads of one sender. -/

namespace LiveStream.Delivery

open LiveStream.Support

/-- `DeliveryBlocked`, or an exception that nothing in the buffer raises on purpose. -/
inductive Fault where
  | blocked (text : String)
  | indexError
  | keyError
  deriving DecidableEq

structure BufferPolicy where
  maximumBytes : Nat := 2 * 1024 * 1024
  maximumAgeSeconds : ℚ := 3
  staleSeconds : ℚ := 3
  bytesValid : 188 * 64 ≤ maximumBytes ∧ maximumBytes ≤ 8 * 1024 * 1024 := by decide
  ageValid : 2 ≤ maximumAgeSeconds ∧ maximumAgeSeconds ≤ 5 := by norm_num
  staleValid : 1 ≤ staleSeconds ∧ staleSeconds ≤ 5 := by norm_num

/-- A packet has the length that the buffer cuts. -/
structure Packet where
  bytes : List UInt8
  size : bytes.length = 188
  deriving DecidableEq

namespace Packet

def byte (packet : Packet) (index : Fin 188) : Nat :=
  (packet.bytes.get (index.cast packet.size.symm)).toNat

def pid (packet : Packet) : Nat := ((packet.byte 1 &&& 31) <<< 8) ||| packet.byte 2

def unitStart (packet : Packet) : Bool := packet.byte 1 &&& 0x40 ≠ 0

def control (packet : Packet) : Nat := (packet.byte 3 >>> 4) &&& 3

/-- `_payload`. -/
def payload (packet : Packet) : List UInt8 :=
  if packet.control ≠ 1 ∧ packet.control ≠ 3 then []
  else
    let offset := if packet.control = 1 then 4 else 5 + packet.byte 4
    if offset ≤ 188 then packet.bytes.drop offset else []

/-- The section that a packet starts, behind the pointer field of its payload. -/
def section? (packet : Packet) : Option (List UInt8) :=
  if packet.unitStart then
    match packet.payload with
    | [] => none
    | pointer :: rest =>
      if (pointer :: rest).length ≤ pointer.toNat + 1 then none
      else some ((pointer :: rest).drop (1 + pointer.toNat))
  else none

/-- The adaptation field marks a random access point. -/
def randomAccess (packet : Packet) : Bool :=
  (packet.control = 2 ∨ packet.control = 3) ∧ 0 < packet.byte 4 ∧ packet.byte 5 &&& 0x40 ≠ 0

end Packet

/-- `bytes[index]`. -/
def byteAt (bytes : List UInt8) (index : Nat) : Except Fault Nat :=
  match bytes[index]? with
  | some byte => .ok byte.toNat
  | none => .error .indexError

/-- `((bytes[index] & mask) << 8) | bytes[index + 1]`. -/
def wordAt (bytes : List UInt8) (index mask : Nat) : Except Fault Nat := do
  let high ← byteAt bytes index
  let low ← byteAt bytes (index + 1)
  return ((high &&& mask) <<< 8) ||| low

/-- The PMT pid of the first program of a PAT section that is not the network entry. -/
def firstProgram (table : List UInt8) : List Nat → Except Fault (Option Nat)
  | [] => .ok none
  | offset :: rest =>
    if offset + 4 ≤ table.length then do
      let high ← byteAt table offset
      let low ← byteAt table (offset + 1)
      if high ≠ 0 ∨ low ≠ 0 then return some (← wordAt table (offset + 2) 31)
      else firstProgram table rest
    else firstProgram table rest

/-- The video pid after the streams of a PMT section from an offset on. -/
def videoStream (table : List UInt8) (stop offset : Nat) (videoPid : Option Nat) :
    Except Fault (Option Nat) :=
  if offset + 5 ≤ stop then do
    let streamType ← byteAt table offset
    let streamPid ← wordAt table (offset + 1) 31
    let high ← byteAt table (offset + 3)
    let low ← byteAt table (offset + 4)
    videoStream table stop (offset + 5 + ((high &&& 15) <<< 8) + low)
      (if streamType = 0x1B then some streamPid else videoPid)
  else .ok videoPid
termination_by stop - offset

/-- An element of `packets`. -/
structure Queued where
  sequence : Nat
  fedAt : ℚ
  packet : Packet
  keyframe : Bool

/-- The fields that `_tables` keeps. -/
structure Tables where
  headers : Nat → Option Packet := fun _ => none
  pmtPid : Option Nat := none
  videoPid : Option Nat := none

structure PacketBuffer where
  policy : BufferPolicy
  packets : List Queued := []
  sequence : Nat := 0
  lastInputAt : Option ℚ := none
  closed : Bool := false
  tables : Tables := {}
  droppedPackets : Nat := 0
  pending : List UInt8 := []

/-- `_tables`. -/
def Tables.update (tables : Tables) (packet : Packet) : Except Fault Tables :=
  if packet.pid ≠ 0 ∧ tables.pmtPid ≠ some packet.pid then .ok tables
  else
    match packet.section? with
    | none => .ok tables
    | some table =>
      if table.length < 12 then .ok tables
      else do
        let id ← byteAt table 0
        let length ← wordAt table 1 15
        let stop := min (3 + length - 4) table.length
        if packet.pid = 0 ∧ id = 0 then
          let program ← firstProgram table (List.range' 8 ((stop - 5) / 4) 4)
          return { tables with
            pmtPid := program <|> tables.pmtPid
            headers := Function.update tables.headers 0 (some packet) }
        else if tables.pmtPid = some packet.pid ∧ id = 2 then
          let information ← wordAt table 10 15
          let videoPid ← videoStream table stop (12 + information) tables.videoPid
          return { tables with
            videoPid
            headers := Function.update tables.headers packet.pid (some packet) }
        else return tables

/-- The packets that `_prune` leaves. -/
def prunePackets (maximumPackets : Nat) (maximumAge now : ℚ) : List Queued → List Queued
  | [] => []
  | head :: rest =>
    if maximumPackets < (head :: rest).length ∨ maximumAge < now - head.fedAt then
      prunePackets maximumPackets maximumAge now rest
    else head :: rest

namespace PacketBuffer

def maximumPackets (buffer : PacketBuffer) : Nat := buffer.policy.maximumBytes / 188

/-- `_prune`. -/
def prune (buffer : PacketBuffer) (now : ℚ) : PacketBuffer :=
  let packets :=
    prunePackets buffer.maximumPackets buffer.policy.maximumAgeSeconds now buffer.packets
  { buffer with
    packets
    droppedPackets := buffer.droppedPackets + (buffer.packets.length - packets.length) }

/-- What the loop of `feed` does with an aligned packet. -/
def accept (buffer : PacketBuffer) (now : ℚ) (packet : Packet) : Except Fault PacketBuffer := do
  let tables ← buffer.tables.update packet
  let keyframe := tables.videoPid = some packet.pid && packet.randomAccess
  return prune { buffer with
    tables
    sequence := buffer.sequence + 1
    lastInputAt := some now
    packets := buffer.packets ++ [⟨buffer.sequence + 1, now, packet, keyframe⟩] } now

/-- The loop of `feed` over the bytes held back and the new ones; each packet reads the clock. -/
def drain (buffer : PacketBuffer) (clock : Nat → ℚ) (bytes : List UInt8) :
    PacketBuffer × Except Fault Unit :=
  if long : 188 ≤ bytes.length then
    let packet : Packet := ⟨bytes.take 188, List.length_take_of_le long⟩
    if packet.byte 0 ≠ 0x47 then
      ({ buffer with pending := bytes.drop 188, closed := true },
        .error (.blocked "DELIVERY_TS_ALIGNMENT_INVALID"))
    else
      match buffer.accept (clock 0) packet with
      | .ok accepted => accepted.drain (fun index => clock (index + 1)) (bytes.drop 188)
      | .error fault => ({ buffer with pending := bytes.drop 188 }, .error fault)
  else ({ buffer with pending := bytes }, .ok ())
termination_by bytes.length
decreasing_by
  rw [List.length_drop]
  omega

def feed (buffer : PacketBuffer) (clock : Nat → ℚ) (data : List UInt8) :
    PacketBuffer × Except Fault Unit :=
  if 188 * 256 < data.length then
    (buffer, .error (.blocked "DELIVERY_INPUT_CHUNK_TOO_LARGE"))
  else if buffer.closed then (buffer, .error (.blocked "DELIVERY_BUFFER_CLOSED"))
  else buffer.drain clock (buffer.pending ++ data)

end PacketBuffer

/-- What a read returns; its data are the bytes of the header and of the rows. -/
structure Answer where
  cursor : Option Nat
  header : List Packet := []
  rows : List Queued := []
  reset : Bool := false

def Answer.data (answer : Answer) : List UInt8 :=
  answer.header.flatMap Packet.bytes ++ answer.rows.flatMap fun row => row.packet.bytes

/-- `rows[:maximum]`. -/
def slice {α : Type} (maximum : Int) (rows : List α) : List α :=
  if 0 ≤ maximum then rows.take maximum.toNat else rows.take (rows.length - (-maximum).toNat)

namespace PacketBuffer

/-- `keyframes[-1]`. -/
def newestKeyframe (buffer : PacketBuffer) : Option Queued :=
  (buffer.packets.filter (·.keyframe)).getLast?

/-- The newest keyframe and the stored PMT, where a reader can start over. -/
def restart? (buffer : PacketBuffer) : Option (Queued × Packet) :=
  match buffer.newestKeyframe, buffer.tables.pmtPid.bind buffer.tables.headers,
    buffer.tables.videoPid with
  | some keyframe, some pmt, some _ => some (keyframe, pmt)
  | _, _, _ => none

/-- Whether packets behind the cursor are gone, or there is no cursor yet. -/
def lost (buffer : PacketBuffer) (cursor : Option Nat) : Bool :=
  match cursor, buffer.packets with
  | some cursor, first :: _ => cursor + 1 < first.sequence
  | none, _ :: _ => true
  | _, [] => false

/-- What a read raises before it looks at the packets. -/
def blocked? (buffer : PacketBuffer) (now : ℚ) : Option String :=
  if buffer.closed then some "DELIVERY_PRODUCER_CLOSED"
  else
    match buffer.lastInputAt with
    | none => some "DELIVERY_INPUT_STALE"
    | some lastInputAt =>
      if now < lastInputAt then some "DELIVERY_CLOCK_REGRESSION"
      else if buffer.policy.staleSeconds < now - lastInputAt then some "DELIVERY_INPUT_STALE"
      else none

/-- The rows behind a cursor. -/
def deliver (buffer : PacketBuffer) (maximumPackets : Int) (header : List Packet) (cursor : Nat)
    (reset : Bool) : Answer :=
  let rows := slice maximumPackets (buffer.packets.filter (cursor < ·.sequence))
  match rows.getLast? with
  | some last => { cursor := some last.sequence, header, rows, reset }
  | none => { cursor := some cursor, reset }

/-- What a read makes of the packets that are left. -/
def select (buffer : PacketBuffer) (cursor : Option Nat) (maximumPackets : Int) :
    Except Fault Answer :=
  if buffer.lost cursor then
    match buffer.restart? with
    | none => .ok { cursor := none }
    | some (keyframe, pmt) =>
      match buffer.tables.headers 0 with
      | some pat => .ok (buffer.deliver maximumPackets [pat, pmt] (keyframe.sequence - 1) true)
      | none => .error .keyError
  else
    match cursor with
    | some cursor =>
      if buffer.packets = [] then .ok { cursor := some cursor }
      else .ok (buffer.deliver maximumPackets [] cursor false)
    | none => .ok { cursor := none }

def read (buffer : PacketBuffer) (now : ℚ) (cursor : Option Nat) (maximumPackets : Int) :
    PacketBuffer × Except Fault Answer :=
  let pruned := buffer.prune now
  match pruned.blocked? now with
  | some text => (pruned, .error (.blocked text))
  | none => (pruned, pruned.select cursor maximumPackets)

end PacketBuffer

end LiveStream.Delivery
