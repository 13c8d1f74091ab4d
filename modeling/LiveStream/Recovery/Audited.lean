import LiveStream.Recovery.Lives
import LiveStream.Recovery.Auditor

/-! The agent before its auditor: `verify` finds no broken invariant in what any lives of an
agent left on record. -/

namespace LiveStream.Recovery

open LiveStream.Support

/-- The records of an agent as the central service stores them. -/
def centralRecords (agentId instanceId : String) (audit : List AuditRecord) :
    List CentralRecord :=
  audit.mapIdx fun index record => { record with agentId, instanceId, seq := index + 1 }

/-- The codes of the invariants that an agent can break, and of evidence that does not hold. -/
def ViolationCode.accuses : ViolationCode → Bool
  | .recoveryEvidenceInvalid | .duplicateGenerationAction | .unknownPolicyVersion
  | .enforceWithoutEnforcePolicy | .actionWithoutLocalizedStall | .cooldown | .limit => true
  | .actionWithoutResult | .auditEmpty | .agentUnobserved | .agentSilent => false

section Records

variable {agentId instanceId : String} {audit : List AuditRecord}

theorem map_centralRecords (agentId instanceId : String) (audit : List AuditRecord) :
    (centralRecords agentId instanceId audit).map CentralRecord.toAuditRecord = audit := by
  refine List.ext_getElem (by simp [centralRecords]) fun index _ _ => ?_
  simp [centralRecords]

theorem owner_centralRecords {record : CentralRecord}
    (member : record ∈ centralRecords agentId instanceId audit) :
    record.agentId = agentId ∧ record.instanceId = instanceId := by
  obtain ⟨index, _, rfl⟩ := List.mem_mapIdx.mp member
  exact ⟨rfl, rfl⟩

/-- All the records of an agent are in one stream. -/
theorem streamOf_centralRecords {key : String × String}
    (listed : key ∈ streamKeys (centralRecords agentId instanceId audit)) :
    streamOf (centralRecords agentId instanceId audit) key =
      centralRecords agentId instanceId audit := by
  rw [streamKeys, List.mem_eraseDups] at listed
  obtain ⟨record, member, rfl⟩ := List.mem_map.mp listed
  obtain ⟨agent, inst⟩ := owner_centralRecords member
  refine List.filter_eq_self.mpr fun other found => ?_
  obtain ⟨agent', inst'⟩ := owner_centralRecords found
  simp [agent, inst, agent', inst']

end Records

section Evidence

/-- The head of a reservation that was seen. -/
def headOf (reserved : CentralRecord × Reservation) : Head :=
  ⟨reserved.1.ts, reserved.2.actionId, reserved.2.generationKey, reserved.2.mode,
    reserved.2.policyVersion⟩

/-- The dictionaries of the auditor are those of the log. -/
theorem seen_assigned (stream : List CentralRecord) (actionId : Nat) :
    ((stream.foldl Seen.add .empty).reserved actionId).map headOf =
        assigned AuditRecord.reserves (stream.map CentralRecord.toAuditRecord) actionId ∧
      (stream.foldl Seen.add .empty).results actionId =
        assigned AuditRecord.results (stream.map CentralRecord.toAuditRecord) actionId := by
  induction stream using List.reverseRecOn with
  | nil => exact ⟨rfl, rfl⟩
  | append_singleton stream record inductionHypothesis =>
    obtain ⟨reserved, results⟩ := inductionHypothesis
    rw [List.foldl_append, List.map_append, List.map_singleton, assigned_snoc, assigned_snoc]
    simp only [List.foldl_cons, List.foldl_nil, Seen.add, AuditRecord.reserves, AuditRecord.head?,
      AuditRecord.results]
    cases told : record.payload with
    | actionReserved reservation =>
      refine ⟨?_, results⟩
      by_cases here : actionId = reservation.actionId
      · subst here
        simp [headOf]
      · simp [Function.update_of_ne here, Ne.symm here, reserved]
    | actionResult ended state response | actionReconciled ended state response =>
      refine ⟨reserved, ?_⟩
      by_cases here : actionId = ended
      · subst here
        simp
      · simp [Function.update_of_ne here, Ne.symm here, results]
    | _ => exact ⟨reserved, results⟩

variable {config : Config} {adopted : List Policy} {policies : Nat → Option Policy}
  (published : ∀ policy ∈ adopted, policies policy.version = some policy)
include published

/-- The thresholds of a request are published. -/
theorem Issued.threshold {version : Nat} {request : RequestContext}
    (issued : Issued adopted version request) :
    ∃ policy, policies version = some policy ∧
      request.verifyWindowSec = policy.verifyWindowSec ∧
        request.stallLastsndMs = policy.stallLastsndMs := by
  obtain ⟨policy, known, same, enforce, window, lastsnd⟩ := issued
  rcases known with rfl | member
  · cases enforce
  · exact ⟨policy, same ▸ published policy member, window, lastsnd⟩

/-- What the log bears out, the auditor accepts. -/
theorem Evidenced.valid {before : List CentralRecord} {record : AuditRecord}
    (evidenced : Evidenced config adopted (before.map CentralRecord.toAuditRecord) record)
    {verification : Verification} (verified : record.verified? = some verification) :
    evidenceValid policies (before.foldl Seen.add .empty) verification = true := by
  obtain ⟨current, resumed⟩ := evidenced verification verified
  have borne : verification.result.resumed = true →
      (∃ reserved result, (before.foldl Seen.add .empty).reserved verification.actionId =
          some reserved ∧
        (before.foldl Seen.add .empty).results verification.actionId = some result ∧
          resumedValid policies verification reserved.2 result.1 result.2 = true) := by
    intro claims
    obtain ⟨head, response, request, first, borne⟩ := resumed claims
    obtain ⟨seen, results⟩ := seen_assigned before verification.actionId
    rw [borne.reserved, Option.map_eq_some_iff] at seen
    obtain ⟨reserved, found, rfl⟩ := seen
    rw [borne.recorded] at results
    refine ⟨reserved, _, found, results, ?_⟩
    obtain ⟨policy, known, window, lastsnd⟩ := Issued.threshold published borne.issued
    have known : policies reserved.2.policyVersion = some policy := known
    have mode : reserved.2.mode = .enforce := borne.mode
    have key : reserved.2.generationKey = request.podUid ++ "/" ++ request.previousGeneration :=
      borne.key
    have progressed := borne.progressed
    have sending := progressed.sending
    rw [← borne.gap, lastsnd] at sending
    have state := borne.state
    rw [VerifyResult.expected] at state
    rw [resumedValid, progressed.answered, known]
    simp [mode, key, ← state, borne.progressFrom, progressed.earlier, progressed.later, borne.route,
      borne.routeGeneration, window, lastsnd, sending]
  rw [evidenceValid]
  cases label : verification.result with
  | recovered => exact absurd label current
  | deliveryResumed | deliveryResumedExecutionUnknown =>
    obtain ⟨reserved, result, found, ended, valid⟩ := borne (by rw [label]; rfl)
    rw [found, ended]
    exact valid
  | _ => rfl

end Evidence

section Order

/-- A reservation in a mode. -/
def CentralRecord.isReservation (mode : ActionMode) (record : CentralRecord) : Bool :=
  record.head?.any fun head => head.mode = mode

/-- The reservations of a mode in a list of records. -/
def headsIn (mode : ActionMode) (records : List CentralRecord) : List Head :=
  (records.filterMap fun record => record.head?).filter (·.mode = mode)

theorem headsIn_append (mode : ActionMode) (before after : List CentralRecord) :
    headsIn mode (before ++ after) = headsIn mode before ++ headsIn mode after := by
  simp [headsIn]

theorem headsIn_filter (mode : ActionMode) (records : List CentralRecord) :
    headsIn mode (records.filter (·.isReservation mode)) = headsIn mode records := by
  induction records with
  | nil => rfl
  | cons record rest inductionHypothesis =>
    simp only [headsIn] at inductionHypothesis
    rw [List.filter_cons]
    split
    · simp only [headsIn, List.filterMap_cons]
      cases record.head? <;> simp [List.filter_cons, inductionHypothesis]
    · rename_i other
      simp only [headsIn, List.filterMap_cons, inductionHypothesis]
      cases told : record.head? with
      | none => rfl
      | some head =>
        rw [CentralRecord.isReservation, told] at other
        rw [List.filter_cons, if_neg (by simpa using other)]

theorem ts_of_head {record : AuditRecord} {head : Head} (told : record.head? = some head) :
    head.ts = record.ts := by
  rw [AuditRecord.head?] at told
  split at told <;> cases told
  rfl

/-- Records whose reservations of a mode are in order of time. -/
def InOrder (mode : ActionMode) (records : List CentralRecord) : Prop :=
  (headsIn mode records).Pairwise fun left right => left.ts ≤ right.ts

theorem InOrder.records {mode : ActionMode} {records : List CentralRecord}
    (ordered : InOrder mode records) :
    (records.filter (·.isReservation mode)).Pairwise fun left right => left.ts ≤ right.ts := by
  induction records with
  | nil => exact .nil
  | cons record rest inductionHypothesis =>
    have listed := headsIn_append mode [record] rest
    rw [List.singleton_append] at listed
    rw [InOrder, listed, List.pairwise_append] at ordered
    rw [List.filter_cons]
    split
    · rename_i reserves
      refine List.pairwise_cons.mpr ⟨fun other member => ?_, inductionHypothesis ordered.2.1⟩
      obtain ⟨found, kind⟩ := List.mem_filter.mp member
      obtain ⟨head, told, same⟩ := (Option.any_eq_true ..).mp reserves
      obtain ⟨later, told', same'⟩ := (Option.any_eq_true ..).mp kind
      have ordered := ordered.2.2 head (by simp [headsIn, told, of_decide_eq_true same]) later
        (List.mem_filter.mpr ⟨List.mem_filterMap.mpr ⟨other, found, told'⟩, same'⟩)
      rwa [ts_of_head told, ts_of_head told'] at ordered
    · exact inductionHypothesis ordered.2.1

/-- Sorting by time leaves the reservations of a mode as they were. -/
theorem headsIn_sortedByTime {mode : ActionMode} {records : List CentralRecord}
    (ordered : InOrder mode records) :
    headsIn mode (sortedByTime records) = headsIn mode records := by
  rw [← headsIn_filter, ← headsIn_filter mode records, sortedByTime, filter_mergeSort]
  · exact fun first second third left right => by simp at left right ⊢; omega
  · exact fun first second => by simp; omega
  · exact ordered.records.imp fun {left right} earlier => by simpa using earlier

end Order

section Limits

theorem headsIn_reservation {mode : ActionMode} {record : CentralRecord}
    {reservation : Reservation} (told : record.payload = .actionReserved reservation) :
    headsIn mode [record] =
      if reservation.mode = mode then [headOf (record, reservation)] else [] := by
  by_cases here : reservation.mode = mode <;>
    simp [headsIn, AuditRecord.head?, told, here, headOf]

/-- The counters of the auditor count the reservations of an agent. -/
theorem tally_heads (agentId : String) {before : List CentralRecord}
    (owned : ∀ record ∈ before, record.agentId = agentId) (mode : ActionMode) :
    (before.foldl Tally.add .empty).times (agentId, mode) = (headsIn mode before).map (·.ts) ∧
      ∀ key, (before.foldl Tally.add .empty).generations (agentId, mode, key) =
        (headsIn mode before).countP (·.generationKey = key) := by
  induction before using List.reverseRecOn with
  | nil => exact ⟨rfl, fun _ => rfl⟩
  | append_singleton before record inductionHypothesis =>
    obtain ⟨times, generations⟩ :=
      inductionHypothesis fun other member => owned other (List.mem_append_left _ member)
    have owner := owned record (List.mem_append_right _ (List.mem_singleton_self _))
    rw [List.foldl_append, headsIn_append]
    simp only [List.foldl_cons, List.foldl_nil, Tally.add, owner]
    cases told : record.payload with
    | actionReserved reservation =>
      rw [headsIn_reservation told]
      by_cases here : reservation.mode = mode
      · subst here
        refine ⟨by simp [times, headOf], fun key => ?_⟩
        by_cases same : reservation.generationKey = key
        · subst same
          simp [generations, headOf]
        · simp [generations, headOf, same, Ne.symm same]
      · simp [here, times, generations, Ne.symm here]
    | _ =>
      rw [show headsIn mode [record] = [] by simp [headsIn, AuditRecord.head?, told],
        List.append_nil]
      exact ⟨times, generations⟩

variable {adopted : List Policy} {policies : Nat → Option Policy}

/-- The policy of a reservation is the one that it was made under. -/
theorem Known.governs (published : ∀ policy ∈ adopted, policies policy.version = some policy)
    (positive : policies 0 = none) {policy : Policy} (known : Known adopted policy) :
    governing policies policy.version = some policy := by
  rw [governing]
  rcases known with rfl | member
  · have none_published : policies BUILTIN.version = none := positive
    rw [none_published]
    exact if_pos rfl
  · rw [published policy member]

theorem ofStamp_sub (left right : Int) : ofStamp left - ofStamp right = (left - right) * 1000 :=
  (Int.sub_mul left right 1000).symm

theorem checkLimits_allowed {policy : Policy} {before : List Head} {record : CentralRecord}
    (cooldown : ∀ earlier ∈ before, earlier.ts + policy.cooldownSec * 1000 ≤ record.ts)
    (hourly : (before.countP fun earlier => record.ts - 3600000 ≤ earlier.ts) < policy.maxPerHour)
    (daily : (before.countP fun earlier => record.ts - 86400000 ≤ earlier.ts) < policy.maxPerDay) :
    checkLimits policy (before.map (·.ts)) record = [] := by
  have cooled : ((before.map (·.ts)).getLast?.any fun last =>
      seconds (ofStamp record.ts - ofStamp last) < policy.cooldownSec) = false := by
    refine Bool.eq_false_iff.mpr fun hot => ?_
    obtain ⟨last, found, soon⟩ := (Option.any_eq_true ..).mp hot
    obtain ⟨earlier, member, rfl⟩ := List.mem_map.mp (List.mem_of_getLast? found)
    have soon := of_decide_eq_true soon
    rw [seconds, ofStamp_sub, div_lt_iff₀ (by norm_num)] at soon
    have apart := cooldown earlier member
    have soon : (record.ts - earlier.ts) * 1000 < policy.cooldownSec * 1000000 := by
      exact_mod_cast soon
    omega
  have counts : ∀ span : Int, (before.map (·.ts)).countP
      (fun ts => ofStamp record.ts - ofStamp ts ≤ span * 1000) =
        before.countP fun earlier => record.ts - span ≤ earlier.ts := by
    intro span
    rw [List.countP_map]
    refine List.countP_congr fun earlier _ => ?_
    rw [Function.comp_apply, decide_eq_true_eq, decide_eq_true_eq, ofStamp_sub]
    change (record.ts - earlier.ts) * 1000 ≤ span * 1000 ↔ record.ts - span ≤ earlier.ts
    omega
  have hours := counts 3600000
  have days := counts 86400000
  unfold checkLimits
  dsimp only
  rw [cooled, if_neg Bool.false_ne_true, if_neg]
  · rfl
  · intro exceeded
    rcases exceeded with exceeded | exceeded
    · exact absurd (hours ▸ exceeded) (Nat.not_le.mpr hourly)
    · exact absurd (days ▸ exceeded) (Nat.not_le.mpr daily)

end Limits

section Audits

variable {config : Config} {opened world : World} {policies : Nat → Option Policy}
  {agentId instanceId : String} (sound : Sound config opened world)
include sound

/-- No verification of a sound log has invalid evidence. -/
theorem Sound.checkStream_spares
    (published : ∀ policy ∈ world.adopted, policies policy.version = some policy) (now : Instant)
    {found : Violation} (reported : found ∈ checkStream policies now
      (centralRecords agentId instanceId world.store.audit)) :
    found.code = .actionWithoutResult := by
  rcases List.mem_append.mp reported with evidence | missing
  · obtain ⟨before, record, after, split, here⟩ := mem_pass evidence
    have audit := map_centralRecords agentId instanceId world.store.audit
    rw [split, List.map_append, List.map_cons] at audit
    have evidenced := sound.evidenced _ _ _ audit.symm
    rw [checkEvidence] at here
    split at here
    · rename_i verification told
      have verified : record.toAuditRecord.verified? = some verification := by
        rw [AuditRecord.verified?, told]
      rw [evidenced.valid published verified] at here
      cases here
    · cases here
  · obtain ⟨actionId, _, here⟩ := List.mem_flatMap.mp missing
    split at here
    · split at here
      · rw [List.mem_singleton.mp here]
        rfl
      · cases here
    · cases here

theorem Sound.inOrder (agentId instanceId : String) (mode : ActionMode) :
    headsIn mode (centralRecords agentId instanceId world.store.audit) =
        (world.store.actions.map Action.head).filter (·.mode = mode) ∧
      InOrder mode (centralRecords agentId instanceId world.store.audit) := by
  have heads : headsIn mode (centralRecords agentId instanceId world.store.audit) =
      (world.store.actions.map Action.head).filter (·.mode = mode) := by
    rw [← sound.heads, ← map_centralRecords agentId instanceId world.store.audit,
      List.filterMap_map, map_centralRecords]
    rfl
  refine ⟨heads, ?_⟩
  rw [InOrder, heads]
  refine ((sound.allowed mode).imp fun before head allowed earlier member => ?_).pairwise
  obtain ⟨policy, _, _, _, _, cooled, _⟩ := allowed
  have apart := cooled earlier member
  omega

/-- A reservation in the order of the second pass is allowed after those before it. -/
theorem Sound.allowed_sorted {before after : List CentralRecord} {record : CentralRecord}
    (split : sortedByTime (centralRecords agentId instanceId world.store.audit) =
      before ++ record :: after) {reservation : Reservation}
    (told : record.payload = .actionReserved reservation) :
    Allowed world.adopted (headsIn reservation.mode before) (headOf (record, reservation)) := by
  obtain ⟨heads, ordered⟩ := sound.inOrder agentId instanceId reservation.mode
  have sorted := headsIn_sortedByTime ordered
  have joined : before ++ record :: after = before ++ [record] ++ after := by simp
  rw [split, joined, headsIn_append, headsIn_append, headsIn_reservation told, if_pos rfl,
    heads, List.append_assoc, List.singleton_append] at sorted
  exact sound.allowed reservation.mode _ _ _ sorted.symm

/-- The second pass reports nothing on a sound log. -/
theorem Sound.pass_clean
    (published : ∀ policy ∈ world.adopted, policies policy.version = some policy)
    (positive : policies 0 = none) :
    pass (checkRecord policies) Tally.add .empty
      (sortedByTime (centralRecords agentId instanceId world.store.audit)) = [] := by
  refine List.eq_nil_iff_forall_not_mem.mpr fun found reported => ?_
  obtain ⟨before, record, after, split, here⟩ := mem_pass reported
  have member : ∀ other ∈ before ++ record :: after,
      other ∈ centralRecords agentId instanceId world.store.audit := fun other found =>
    List.mem_mergeSort.mp (show other ∈ sortedByTime _ from split ▸ found)
  have owned : record.agentId = agentId := (owner_centralRecords (member record (by simp))).1
  rw [checkRecord] at here
  split at here
  case h_2 => cases here
  case h_1 reservation told =>
    obtain ⟨policy, known, version, enforce, fresh, cooled, hourly, daily⟩ :=
      sound.allowed_sorted split told
    have governs := known.governs published positive
    rw [version] at governs
    have governs : governing policies reservation.policyVersion = some policy := governs
    obtain ⟨times, generations⟩ := tally_heads agentId
      (fun other found => (owner_centralRecords (member other (List.mem_append_left _ found))).1)
      reservation.mode
    have unseen : (headsIn reservation.mode before).countP
        (·.generationKey = reservation.generationKey) = 0 :=
      List.countP_eq_zero.mpr fun earlier found same =>
        fresh earlier found (of_decide_eq_true same)
    have listed : record.toAuditRecord ∈ world.store.audit := by
      rw [← map_centralRecords agentId instanceId world.store.audit]
      exact List.mem_map_of_mem (member record (by simp))
    obtain ⟨network, found, up, ingest, timely⟩ := sound.localized _ listed reservation told
    have limits : checkLimits policy ((headsIn reservation.mode before).map (·.ts)) record = [] :=
      checkLimits_allowed cooled hourly daily
    rw [checkReservation, owned, governs, generations, unseen, found, times] at here
    by_cases enforced : reservation.mode = .enforce
    · simp [enforced, enforce enforced, up, ingest, timely] at here
      rw [← enforced, limits] at here
      cases here
    · simp [enforced, up, ingest, timely, limits] at here

end Audits

/-- The auditor accuses no agent, whatever its lives were: their clocks may step either way, and
the policies that were adopted are published under their versions, from 1 on. -/
theorem verify_accuses_none (config : Config) (lives : List (List Turn))
    (policies : Nat → Option Policy)
    (published : ∀ policy ∈ (World.initial.lives config lives).adopted,
      policies policy.version = some policy)
    (positive : policies 0 = none) (agentId instanceId : String) (now : Instant)
    (expected : List String) :
    ∀ found ∈ (verify (centralRecords agentId instanceId
        (World.initial.lives config lives).store.audit) policies now expected).violations,
      found.code.accuses = false := by
  intro found reported
  have sound := Sound.lives (sound_initial : Sound config .initial .initial) lives
  rcases List.mem_append.mp reported with reported | absent
  · rcases List.mem_append.mp reported with streams | passed
    · obtain ⟨key, listed, here⟩ := List.mem_flatMap.mp streams
      rw [streamOf_centralRecords listed] at here
      rw [sound.checkStream_spares published now here]
      rfl
    · rw [sound.pass_clean published positive] at passed
      cases passed
  · rw [checkPresence, List.mem_append, List.mem_append] at absent
    rcases absent with (empty | unobserved) | silent
    · split at empty
      · rw [List.mem_singleton.mp empty]
        rfl
      · cases empty
    · obtain ⟨agent, _, rfl⟩ := List.mem_map.mp unobserved
      rfl
    · obtain ⟨entry, _, rfl⟩ := List.mem_map.mp silent
      rfl

/-- A policy that acts on the first stalled sample. -/
def eagerPolicy : Policy :=
  { BUILTIN with version := 1, mode := .enforce, stallConfirmSamples := 1, stallGraceSec := 0 }

def eagerConfig : Config where
  producerId := "reflex"
  producerGeneration := 1
  ingestHost := "ingest"
  ingestPort := 1935
  intervalSec := 5
  observationMaxAgeSec := 100
  hasCentral := true
  hasIngestEndpoints := true
  ingestEndpoint := fun _ => some ⟨"ingest", 1935⟩
  requestIdFor := fun generationKey => "request-" ++ generationKey

/-- A stalled generation, and from its restart on one that sends. -/
def stalledThenSending (second : Nat) : Observation where
  observationId := "observation"
  executorInstanceId := "executor"
  sequence := second
  observedAt := 1000000 * (98 + second)
  podUid := "pod"
  ffmpegGeneration := if second < 50 then "first" else "second"
  ffmpegRunning := true
  ffmpegUptimeSec := if second < 50 then 40 else 1
  activeProducerId := "reflex"
  activeProducerGeneration := 1
  inFlightCount := 0
  targetValid := true
  tcp := some ⟨if second < 50 then 7 else second, 9000, 70, if second < 50 then 5000 else 1, none⟩
  raw := [("delivery_route", .str "direct"), ("delivery_route_generation", .int 1)]
  binding := none

/-- A turn for each second: the policy is offered in the first, and the request is answered. -/
def recoveryTurn (second : Nat) : Turn where
  syncs := if second = 0 then [.offer 100000000 eagerPolicy false] else []
  raises := none
  now := 1000000 * (100 + second)
  flag := false
  observation := .ok (stalledThenSending second)
  network := ⟨true, 1, true, false⟩
  reply := [("request_id", .str "request-pod/first"), ("ok", .bool true),
    ("state", .str "EFFECT_OBSERVED")]
  scopes := []

/-- A life in which a stalled generation was restarted and resumed. -/
def recovered : World := World.initial.lives eagerConfig [(List.range 80).map recoveryTurn]

theorem verify_accuses_none_recovered :
    (recovered.store.audit.any fun record =>
      record.verified?.any (·.result = .deliveryResumed)) = true ∧
    (verify (centralRecords "agent" "database" recovered.store.audit)
      (fun version => if version = 1 then some eagerPolicy else none) 0 []).violations.Forall
        fun found => found.code.accuses = false := by
  have adopted : (World.initial.lives eagerConfig [(List.range 80).map recoveryTurn]).adopted =
      [eagerPolicy] := by decide +kernel
  refine ⟨by decide +kernel, List.forall_iff_forall_mem.mpr ?_⟩
  refine verify_accuses_none eagerConfig _ _ (fun policy member => ?_) rfl "agent" "database" 0 []
  rw [adopted] at member
  obtain rfl := List.mem_singleton.mp member
  rfl

end LiveStream.Recovery
