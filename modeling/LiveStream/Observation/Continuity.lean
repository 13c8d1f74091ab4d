import Mathlib

/-! Continuity of observations: `advance` keeps, in one record, how long distinct samples of one
source have been judged alike within one boot of the receiver. -/

namespace LiveStream.Observation

/-- What `advance` reads of the receiver's clock. -/
structure Reading where
  mono : ℚ
  boot : String
  deriving DecidableEq

/-- What `advance` reads of a qualified sample. -/
structure Qualified where
  valid : Bool
  host : String
  boot : String
  source : String
  sample : String
  sourceMono : ℚ
  deriving DecidableEq

/-- `[sample.host, sample.boot, sample.source]`. -/
structure Identity where
  host : String
  boot : String
  source : String
  deriving DecidableEq

def Qualified.identity (sample : Qualified) : Identity := ⟨sample.host, sample.boot, sample.source⟩

/-- A verdict that is neither of the two is unknown. -/
inductive Verdict where
  | bad | good | unknown
  deriving DecidableEq

structure Parameters where
  badHold : ℚ := 0
  goodHold : ℚ := 45
  maxGap : ℚ := 180
  lostAfter : ℚ := 300

/-- The arguments of one call. -/
structure Call where
  sample : Qualified
  verdict : Verdict
  now : Reading
  deriving DecidableEq

def Call.fresh (call : Call) : Bool := call.sample.valid && call.verdict ≠ .unknown

/-- The stored record; an absent key is `none`. -/
structure Continuity where
  receiverBoot : Option String := none
  lastNew : Option ℚ := none
  sourceIdentity : Option Identity := none
  sourceMono : Option ℚ := none
  since : Option ℚ := none
  sourceSince : Option ℚ := none
  count : Option Int := none
  verdict : Option Verdict := none
  lastSample : Option String := none
  deriving DecidableEq

namespace Continuity

/-- What is left of the record on a new boot, and when the clock went back. -/
def restarted (now : Reading) : Continuity :=
  { receiverBoot := some now.boot, lastNew := some now.mono }

/-- What makes the record unusable: an identity without a source time, or a start or a count out
of range. -/
def corrupt (prior : Continuity) (now : Reading) : Bool :=
  (prior.sourceIdentity.isSome && prior.sourceMono.isNone) ||
    prior.since.any (fun since => since < 0 || now.mono < since) ||
    prior.count.any (fun count => count < 0 || 1000000 < count)

/-- The record as a call finds it. -/
def prepare (state : Continuity) (now : Reading) : Continuity :=
  let prior := if state.receiverBoot = some now.boot then state else restarted now
  let prior := if prior.lastNew.any (· ≤ now.mono) then prior else restarted now
  if prior.corrupt now then
    { receiverBoot := prior.receiverBoot, lastNew := prior.lastNew }
  else prior

/-- `changed`. -/
def changed (prior : Continuity) (sample : Qualified) : Bool :=
  prior.sourceIdentity.any (· ≠ sample.identity)

/-- The record without what belongs to another identity. -/
def distinguish (prior : Continuity) (sample : Qualified) : Continuity :=
  if prior.changed sample then
    { receiverBoot := prior.receiverBoot, lastNew := prior.lastNew,
      sourceIdentity := prior.sourceIdentity }
  else prior

/-- `new`: a fresh sample of another identity, or a later one under another id. -/
def isNew (prior : Continuity) (call : Call) : Bool :=
  call.fresh && (prior.sourceIdentity ≠ some call.sample.identity ||
    (prior.lastSample ≠ some call.sample.sample &&
      prior.sourceMono.getD (-1) < call.sample.sourceMono))

def regressed (prior : Continuity) (call : Call) : Bool :=
  call.fresh && prior.sourceIdentity = some call.sample.identity &&
    prior.sourceMono.any (call.sample.sourceMono < ·)

/-- Whether a new sample carries on what the record holds. -/
def contiguous (prior : Continuity) (call : Call) (maxGap : ℚ) (changed : Bool) : Bool :=
  prior.verdict = some call.verdict &&
    prior.lastNew.any (fun lastNew =>
      0 ≤ call.now.mono - lastNew && call.now.mono - lastNew ≤ maxGap) && !changed

/-- The record after a new sample. -/
def accept (prior : Continuity) (call : Call) (contiguous : Bool) : Continuity where
  receiverBoot := prior.receiverBoot
  sourceIdentity := some call.sample.identity
  lastSample := some call.sample.sample
  sourceMono := some call.sample.sourceMono
  lastNew := some call.now.mono
  verdict := some call.verdict
  since := some (if contiguous then prior.since.getD call.now.mono else call.now.mono)
  sourceSince := some (if contiguous then prior.sourceSince.getD call.sample.sourceMono
    else call.sample.sourceMono)
  count := some (if contiguous then prior.count.getD 0 + 1 else 1)

/-- The record that a call starts from. -/
def prior (state : Continuity) (call : Call) : Continuity :=
  (state.prepare call.now).distinguish call.sample

/-- The record that a call leaves. -/
def result (state : Continuity) (call : Call) (maxGap : ℚ) : Continuity :=
  let prior := state.prior call
  if prior.isNew call then
    prior.accept call
      (prior.contiguous call maxGap ((state.prepare call.now).changed call.sample))
  else if !call.fresh || prior.regressed call then
    { prior with since := none, count := some 0, verdict := some .unknown }
  else prior

end Continuity

/-- The rest of what a call returns. -/
structure Answer where
  ready : Verdict
  lost : Bool

/-- `min(now.mono - since, sample.source_mono - source_since)` of a fresh sample. -/
def elapsed (result : Continuity) (call : Call) : ℚ :=
  if call.fresh then
    min (call.now.mono - result.since.getD call.now.mono)
      (call.sample.sourceMono - result.sourceSince.getD call.sample.sourceMono)
  else 0

/-- Whether the call answers its own verdict. -/
def granted (parameters : Parameters) (state : Continuity) (call : Call) : Bool :=
  let result := state.result call parameters.maxGap
  call.fresh && (state.prior call).isNew call && result.verdict = some call.verdict &&
    (if call.verdict = .bad then parameters.badHold else parameters.goodHold) ≤
      elapsed result call &&
    ((call.verdict = .bad && parameters.badHold = 0) || 2 ≤ result.count.getD 0)

def advance (parameters : Parameters) (state : Continuity) (call : Call) : Continuity × Answer :=
  let result := state.result call parameters.maxGap
  (result,
    { ready := if granted parameters state call then call.verdict else .unknown
      lost := parameters.lostAfter ≤ call.now.mono - result.lastNew.getD call.now.mono })

end LiveStream.Observation
