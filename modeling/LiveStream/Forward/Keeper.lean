import Mathlib
import LiveStream.Support.Value

/-! The keeper of the relay's forwards: it heals a forward that stands still and renews the
Twitch session daily. -/

namespace LiveStream.Forward

open LiveStream.Support

def BAD_SECONDS : ℚ := 30

def HEAL_INTERVAL : ℚ := 60

def OFFLINE_MIN : ℚ := 120

def OFFLINE_MAX : ℚ := 600

def VERIFY_MAX : ℚ := 180

def AGE_LIMIT : Int := 46 * 3600

/-- A configured forward: its destination and the rest of its mapping. -/
structure Destination where
  dest : String
  rest : Fields := []

/-- `HEALING_DEST` holds the slot of a destination that is being healed. -/
def HEALING_DEST : Destination := { dest := "rtmp://127.0.0.1:1/stream-v3-healing" }

/-- Whether one character list occurs in another. -/
def occursIn (part : List Char) : List Char → Bool
  | [] => part.isEmpty
  | head :: tail => part.isPrefixOf (head :: tail) || occursIn part tail

def isTwitch (dest : String) : Bool :=
  occursIn "live-video.net".toList dest.toList || occursIn "twitch".toList dest.toList

/-- An item of the list of forwards that the server reports. An entry that is missing or not of
its type is `none`; an error text that is there may be empty. -/
structure Item where
  dest : Option String
  state : Option String
  lastError : Option String
  id : Option String
  outboundBytes : Option Int

/-- `not item.get('lastError')`. -/
def Item.faultless (item : Item) : Bool := item.lastError.all fun text => text = ""

inductive Phase where
  | idle | waitOffline | verify
  deriving DecidableEq

inductive Status where
  | live | offline | unknown
  deriving DecidableEq

/-- What Helix says. Times of day are microseconds of UTC. -/
structure Observation where
  status : Status
  streamId : String
  startedAt : Option Int

/-- The keeper in memory. Its dictionaries are lookups, and dates are days of JST. -/
structure Keeper where
  destinations : List Destination
  badSince : String → Option ℚ
  lastHeal : String → Option ℚ
  previousSamples : String → Option Item
  removed : Option String
  phase : Phase
  phaseAt : ℚ
  lastRenewalDate : Option Int
  oldStreamId : String

/-- `Keeper(destinations)`. -/
def Keeper.new (destinations : List Destination) : Keeper where
  destinations := destinations
  badSince := fun _ => none
  lastHeal := fun _ => none
  previousSamples := fun _ => none
  removed := none
  phase := .idle
  phaseAt := 0
  lastRenewalDate := none
  oldStreamId := ""

/-- The entry of `desired` for a configured destination. -/
def Keeper.entry (keeper : Keeper) (destination : Destination) : Option Destination :=
  if keeper.phase = .waitOffline ∧ isTwitch destination.dest then none
  else if keeper.removed = some destination.dest then some HEALING_DEST
  else some destination

def Keeper.desired (keeper : Keeper) : List Destination :=
  keeper.destinations.filterMap keeper.entry

/-- `wall.astimezone(JST).date()`, as the number of the day. -/
def jstDate (wall : Int) : Int := (wall + 9 * 3600 * 1000000) / (86400 * 1000000)

/-- What a cycle sees: the two clocks, the input, the forwards and Twitch. -/
structure Sight where
  now : ℚ
  wall : Int
  ready : Bool
  items : List Item
  twitch : Observation

/-- Whether an item shows the forward delivering since its previous sample. -/
def delivers (item : Item) (previous : Option Item) : Bool :=
  match previous with
  | none => false
  | some before =>
    item.state = some "forwarding" && item.faultless && before.state = some "forwarding" &&
      before.faultless && item.id = before.id &&
      (match item.outboundBytes, before.outboundBytes with
        | some count, some earlier => earlier < count && 0 ≤ earlier
        | _, _ => false)

/-- `bad_since.setdefault(dest, now)`. -/
def Keeper.badFrom (keeper : Keeper) (dest : String) (now : ℚ) : ℚ := (keeper.badSince dest).getD now

/-- Whether a destination that has been bad since some time is healed now. -/
def Keeper.healsNow (keeper : Keeper) (dest : String) (now : ℚ) : Prop :=
  BAD_SECONDS ≤ now - keeper.badFrom dest now ∧
    HEAL_INTERVAL ≤ now - (keeper.lastHeal dest).getD (-1000000000)

instance (keeper : Keeper) (dest : String) (now : ℚ) : Decidable (keeper.healsNow dest now) :=
  inferInstanceAs (Decidable (_ ∧ _))

/-- The loop of `heal` over the items; it ends at the first destination that it removes. -/
def Keeper.healItems (now : ℚ) : Keeper → List Item → Keeper
  | keeper, [] => keeper
  | keeper, item :: rest =>
    match item.dest with
    | none => keeper.healItems now rest
    | some dest =>
      if ¬ keeper.destinations.any (fun destination => destination.dest = dest) then
        keeper.healItems now rest
      else
        let sampled := { keeper with
          previousSamples := Function.update keeper.previousSamples dest (some item) }
        if delivers item (keeper.previousSamples dest) then
          { sampled with badSince := Function.update keeper.badSince dest none }.healItems now rest
        else if keeper.healsNow dest now then
          { sampled with
            lastHeal := Function.update keeper.lastHeal dest (some now)
            badSince := Function.update keeper.badSince dest none
            removed := some dest }
        else
          { sampled with
            badSince := Function.update keeper.badSince dest (some (keeper.badFrom dest now)) }.healItems
              now rest

/-- `heal`; its list is the desired one whenever it gives one. -/
def Keeper.heal (keeper : Keeper) (sight : Sight) : Keeper :=
  if keeper.removed ≠ none then { keeper with removed := none }
  else if ¬ sight.ready then
    { keeper with badSince := fun _ => none, previousSamples := fun _ => none }
  else keeper.healItems sight.now sight.items

/-- The session's age in microseconds; an unknown start counts as none. -/
def sessionAge (sight : Sight) : Int :=
  match sight.twitch.startedAt with
  | some startedAt => sight.wall - startedAt
  | none => 0

/-- Whether the date has changed since the last renewal. -/
def Keeper.dueDaily (keeper : Keeper) (sight : Sight) : Prop :=
  ∃ last ∈ keeper.lastRenewalDate, jstDate sight.wall ≠ last

instance (keeper : Keeper) (sight : Sight) : Decidable (keeper.dueDaily sight) :=
  inferInstanceAs (Decidable (∃ last ∈ keeper.lastRenewalDate, jstDate sight.wall ≠ last))

/-- Whether the session has reached its age limit. -/
def aged (sight : Sight) : Prop := AGE_LIMIT * 1000000 ≤ sessionAge sight

instance (sight : Sight) : Decidable (aged sight) := inferInstanceAs (Decidable (_ ≤ _))

/-- The cycle in which an idle keeper stops forwarding to Twitch. -/
def Keeper.renews (keeper : Keeper) (sight : Sight) : Prop :=
  keeper.phase = .idle ∧ sight.ready = true ∧ sight.twitch.status = .live ∧
    (keeper.dueDaily sight ∨ aged sight)

instance (keeper : Keeper) (sight : Sight) : Decidable (keeper.renews sight) :=
  inferInstanceAs (Decidable (_ ∧ _ ∧ _ ∧ _))

/-- The idle branch of `renewal`. The first start counts as that day's renewal. -/
def Keeper.renewIdle (keeper : Keeper) (sight : Sight) : Keeper × Bool :=
  let today := jstDate sight.wall
  if ¬ sight.ready ∨ sight.twitch.status ≠ .live then (keeper, false)
  else
    let dated := { keeper with lastRenewalDate := some (keeper.lastRenewalDate.getD today) }
    if ¬ (keeper.dueDaily sight ∨ aged sight) then (dated, false)
    else
      ({ dated with
        phase := .waitOffline
        phaseAt := sight.now
        oldStreamId := sight.twitch.streamId
        lastRenewalDate := some today }, true)

/-- `renewal`, with whether it gives a list to apply. -/
def Keeper.renewal (keeper : Keeper) (sight : Sight) : Keeper × Bool :=
  match keeper.phase with
  | .idle => keeper.renewIdle sight
  | .waitOffline =>
    let waited := sight.now - keeper.phaseAt
    if (sight.twitch.status = .offline ∧ OFFLINE_MIN ≤ waited) ∨ OFFLINE_MAX ≤ waited then
      ({ keeper with phase := .verify, phaseAt := sight.now }, true)
    else (keeper, false)
  | .verify =>
    let newLive := sight.twitch.status = .live ∧ sight.twitch.streamId ≠ "" ∧
      sight.twitch.streamId ≠ keeper.oldStreamId
    if newLive ∨ VERIFY_MAX ≤ sight.now - keeper.phaseAt ∨ ¬ sight.ready then
      ({ keeper with phase := .idle }, false)
    else (keeper, false)

/-- A cycle of the main loop, up to the list that the server is reconciled with. Whatever the
server makes of that list, the keeper stays as it is. -/
def Keeper.cycle (keeper : Keeper) (sight : Sight) : Keeper :=
  let (renewed, changed) := keeper.renewal sight
  if ¬ changed ∧ renewed.phase = .idle then renewed.heal sight
  else { renewed with removed := none }

/-- `to_state`. -/
structure SavedState where
  phase : Phase
  lastRenewalDate : Option Int
  oldStreamId : String

def Keeper.toState (keeper : Keeper) : SavedState :=
  ⟨keeper.phase, keeper.lastRenewalDate, keeper.oldStreamId⟩

/-- The keeper of a new process. One stopped in the middle of a renewal goes on verifying it. -/
def Keeper.restore (destinations : List Destination) (saved : Option SavedState) (now : ℚ) : Keeper :=
  match saved with
  | none => .new destinations
  | some state =>
    let dated := { Keeper.new destinations with lastRenewalDate := state.lastRenewalDate }
    if state.phase = .idle then dated
    else { dated with phase := .verify, phaseAt := now, oldStreamId := state.oldStreamId }

end LiveStream.Forward
