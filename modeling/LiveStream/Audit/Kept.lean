import LiveStream.Audit.Delivery

/-! No audit record is lost by acknowledgement: what an agent takes for acknowledged is in the
central store, whatever the network does. -/

namespace LiveStream.Audit

variable {π : Type}

namespace CentralStore

/-- The content of a record is stored under its key, or, where another content is stored there, in
`conflicts`. -/
def Holds (store : CentralStore π) (agentId instanceId : String) (record : Record π) : Prop :=
  ⟨agentId, instanceId, record⟩ ∈ store.audit ∨
    ((∃ row ∈ store.audit, row.key = ⟨agentId, instanceId, record.seq⟩ ∧ row.record ≠ record) ∧
      ⟨agentId, instanceId, record⟩ ∈ store.conflicts)

/-- A store with more rows. -/
structure Grows (store after : CentralStore π) : Prop where
  audit : store.audit <+: after.audit
  conflicts : store.conflicts <+: after.conflicts

theorem Grows.refl (store : CentralStore π) : Grows store store :=
  ⟨List.prefix_refl _, List.prefix_refl _⟩

theorem Grows.trans {first second third : CentralStore π} (grows : Grows first second)
    (later : Grows second third) : Grows first third :=
  ⟨grows.audit.trans later.audit, grows.conflicts.trans later.conflicts⟩

variable {store after : CentralStore π} {agentId instanceId : String}

theorem Holds.mono {record : Record π} (holds : store.Holds agentId instanceId record)
    (grows : Grows store after) : after.Holds agentId instanceId record := by
  rcases holds with listed | ⟨⟨row, member, other⟩, kept⟩
  · exact .inl (grows.audit.subset listed)
  · exact .inr ⟨⟨row, grows.audit.subset member, other⟩, grows.conflicts.subset kept⟩

theorem grows_insert (store : CentralStore π) (row : Row π) (absent : store.stored row.key = none) :
    Grows store (store.insert row absent) :=
  ⟨List.prefix_append _ _, List.prefix_refl _⟩

theorem grows_conflict (row : Row π) : Grows store (store.conflict row) :=
  ⟨List.prefix_refl _, List.prefix_append _ _⟩

variable [DecidableEq π]

/-- A stored sequence is a sight of the record itself or of a conflict. -/
theorem holds_stored {record : Record π} {row : Row π}
    (found : store.stored ⟨agentId, instanceId, record.seq⟩ = some row) :
    Grows store (if row.record = record then store
        else store.conflict ⟨agentId, instanceId, record⟩) ∧
      (if row.record = record then store
        else store.conflict ⟨agentId, instanceId, record⟩).Holds agentId instanceId record := by
  obtain ⟨member, same⟩ := stored_some found
  by_cases equal : row.record = record
  · rw [if_pos equal]
    refine ⟨Grows.refl store, .inl ?_⟩
    obtain ⟨agent, inst, content⟩ := row
    simp only [Row.key, Key.mk.injEq] at same
    obtain ⟨rfl, rfl, _⟩ := same
    exact equal ▸ member
  · rw [if_neg equal]
    refine ⟨grows_conflict _, .inr ⟨⟨row, member, same, equal⟩, ?_⟩⟩
    exact List.mem_append_right _ (List.mem_singleton_self _)

/-- What one run of the loop leaves: more rows, and every record up to the answer is held. -/
theorem ingestRecords_holds (agentId instanceId : String) (store : CentralStore π) {records : List (Record π)}
    (sorted : records.Pairwise fun left right => left.seq ≤ right.seq) (high : Int) :
    Grows store (ingestRecords agentId instanceId records store high).1 ∧
      ∀ record ∈ records, record.seq ≤ (ingestRecords agentId instanceId records store high).2 →
        (ingestRecords agentId instanceId records store high).1.Holds agentId instanceId record := by
  induction records generalizing store high with
  | nil => exact ⟨Grows.refl store, fun _ none => by cases none⟩
  | cons record rest inductionHypothesis =>
    obtain ⟨least, sorted⟩ := List.pairwise_cons.mp sorted
    -- nothing from the gap on is acknowledged
    have beyond : high + 1 < record.seq → ∀ other ∈ record :: rest, ¬ other.seq ≤ high := by
      intro gap other member
      rcases List.mem_cons.mp member with rfl | member
      · omega
      · have := least other member
        omega
    unfold ingestRecords
    split
    · rename_i row found
      obtain ⟨grows, holds⟩ := holds_stored found
      dsimp only
      split
      · rename_i gap
        exact ⟨⟨grows.audit, grows.conflicts⟩, fun other member acked =>
          absurd acked (beyond gap other member)⟩
      · obtain ⟨grows', held⟩ := inductionHypothesis (if row.record = record then store
          else store.conflict ⟨agentId, instanceId, record⟩) sorted high
        refine ⟨grows.trans grows', fun other member acked => ?_⟩
        rcases List.mem_cons.mp member with rfl | member
        · exact holds.mono grows'
        · exact held other member acked
    · rename_i absent
      dsimp only
      split
      · rename_i gap
        exact ⟨⟨List.prefix_refl _, List.prefix_refl _⟩, fun other member acked =>
          absurd acked (beyond gap other member)⟩
      · have grows := grows_insert store ⟨agentId, instanceId, record⟩ absent
        obtain ⟨grows', held⟩ := inductionHypothesis
          (store.insert ⟨agentId, instanceId, record⟩ absent) sorted
          ((store.insert ⟨agentId, instanceId, record⟩ absent).climb agentId instanceId record.seq)
        refine ⟨grows.trans grows', fun other member acked => ?_⟩
        rcases List.mem_cons.mp member with rfl | member
        · refine Holds.mono (.inl ?_) grows'
          exact List.mem_append_right _ (List.mem_singleton_self _)
        · exact held other member acked

/-- `ingest` adds rows only, and holds every record of the batch up to its answer. -/
theorem ingest_holds {records : List (Record π)} {high : Int}
    (ingested : store.ingest agentId instanceId records = some (after, high)) :
    Grows store after ∧
      ∀ record ∈ records, record.seq ≤ high → after.Holds agentId instanceId record := by
  rw [ingest] at ingested
  split at ingested
  · cases ingested
  · obtain ⟨rfl, rfl⟩ := Prod.mk.inj (Option.some.inj ingested)
    have sorted : (records.mergeSort fun left right => left.seq ≤ right.seq).Pairwise
        fun left right => left.seq ≤ right.seq := by
      refine (List.pairwise_mergeSort (fun _ _ _ left right => ?_) (fun _ _ => ?_) records).imp
        of_decide_eq_true
      · simp only [decide_eq_true_eq] at left right ⊢
        omega
      · simp only [Bool.or_eq_true, decide_eq_true_eq]
        omega
    obtain ⟨grows, held⟩ := ingestRecords_holds agentId instanceId store sorted
      (store.contiguousHigh agentId instanceId)
    exact ⟨⟨grows.audit, grows.conflicts⟩, fun record member acked =>
      held record (List.mem_mergeSort.mpr member) acked⟩

end CentralStore

section Numbering

variable {log : List (Entry π)}

theorem numbered_snoc (entry : Entry π) :
    numbered (log ++ [entry]) =
      numbered log ++ [⟨log.length + 1, entry.ts, entry.kind, entry.payload⟩] := by
  simp [numbered, List.mapIdx_append]

theorem numbered_bounds {record : Record π} (member : record ∈ numbered log) :
    1 ≤ record.seq ∧ record.seq ≤ log.length := by
  obtain ⟨index, inside, rfl⟩ := List.mem_mapIdx.mp member
  dsimp only
  omega

theorem numbered_sorted : (numbered log).Pairwise fun left right => left.seq < right.seq := by
  induction log using List.reverseRecOn with
  | nil => exact .nil
  | append_singleton log entry inductionHypothesis =>
    rw [numbered_snoc]
    refine List.pairwise_append.mpr ⟨inductionHypothesis, List.pairwise_singleton _ _, ?_⟩
    intro record member last found
    rw [List.mem_singleton.mp found]
    have := (numbered_bounds member).2
    dsimp only
    omega

/-- A batch leaves out no record up to its last one. -/
theorem readAudit_covers {acked : Int} {limit : Nat} {last : Record π}
    (ends : (readAudit log acked limit).getLast? = some last) {record : Record π}
    (member : record ∈ numbered log) (later : acked < record.seq) (earlier : record.seq ≤ last.seq) :
    record ∈ readAudit log acked limit := by
  set rows := (numbered log).filter fun record => acked < record.seq with rows_def
  have listed : record ∈ rows := List.mem_filter.mpr ⟨member, decide_eq_true later⟩
  have sorted : rows.Pairwise fun left right => left.seq < right.seq := numbered_sorted.filter _
  have taken : last ∈ rows.take limit := List.mem_of_getLast? ends
  rw [← List.take_append_drop limit rows] at listed sorted
  rcases List.mem_append.mp listed with inside | outside
  · exact inside
  · have := (List.pairwise_append.mp sorted).2.2 last taken record outside
    omega

end Numbering

/-- The records of the agent up to a sequence are held by the central store. -/
def KeptUpTo (config : Config) (system : System π) (high : Int) : Prop :=
  ∀ record ∈ numbered system.log, record.seq ≤ high →
    system.central.Holds config.agentId config.instanceId record

/-- What is known while a push is under way. -/
def Push.Sound (config : Config) (system : System π) : Push π → Prop
  | .idle => True
  | .waiting acked body =>
    acked = system.acked ∧ body.agentId = config.agentId ∧ body.instanceId = config.instanceId ∧
      ∀ last, body.records.getLast? = some last → last.seq ≤ system.log.length ∧
        ∀ record ∈ numbered system.log, acked < record.seq → record.seq ≤ last.seq →
          record ∈ body.records
  | .verified acked newAcked =>
    acked = system.acked ∧ acked ≤ newAcked ∧ newAcked ≤ system.log.length ∧
      KeptUpTo config system newAcked

/-- What holds of an agent and the central service at any time. -/
structure Sound (config : Config) (system : System π) : Prop where
  bounded : 0 ≤ system.acked ∧ system.acked ≤ system.log.length
  kept : KeptUpTo config system system.acked
  push : system.push.Sound config system
  signed : ∀ ack ∈ system.signed, ∀ record ∈ ack.requestSha256.records,
    record.seq ≤ ack.ackedSeq → system.central.Holds ack.requestSha256.agentId
      ack.requestSha256.instanceId record

section Steps

variable {config : Config} {system : System π}

theorem sound_start (config : Config) (central : CentralStore π) : Sound config (.start central) where
  bounded := ⟨le_refl _, le_refl _⟩
  kept := fun _ none => by cases none
  push := trivial
  signed := fun _ none => by cases none

/-- The central store grew, and nothing else changed but what was signed. -/
theorem Sound.grow (sound : Sound config system) {central : CentralStore π}
    (grows : system.central.Grows central) {signed : List (Ack π)}
    (backed : ∀ ack ∈ signed, ack ∈ system.signed ∨ ∀ record ∈ ack.requestSha256.records,
      record.seq ≤ ack.ackedSeq →
        central.Holds ack.requestSha256.agentId ack.requestSha256.instanceId record) :
    Sound config { system with central, signed } where
  bounded := sound.bounded
  kept := fun record member acked => (sound.kept record member acked).mono grows
  push := by
    have held := sound.push
    change system.push.Sound config { system with central, signed }
    cases under : system.push with
    | idle => exact trivial
    | waiting acked body =>
      rw [under] at held
      exact held
    | verified acked newAcked =>
      rw [under] at held
      obtain ⟨same, grown, within, kept⟩ := held
      exact ⟨same, grown, within, fun record member acked => (kept record member acked).mono grows⟩
  signed := by
    intro ack member record listed acked
    rcases backed ack member with old | holds
    · exact (sound.signed ack old record listed acked).mono grows
    · exact holds record listed acked

/-- The log of the agent grew. -/
theorem Sound.append (sound : Sound config system) (entry : Entry π) :
    Sound config { system with log := system.log ++ [entry] } := by
  have older : ∀ record ∈ numbered (system.log ++ [entry]), record.seq ≤ system.log.length →
      record ∈ numbered system.log := by
    intro record member bound
    rw [numbered_snoc] at member
    rcases List.mem_append.mp member with old | new
    · exact old
    · rw [List.mem_singleton.mp new] at bound
      dsimp only at bound
      omega
  have longer : (system.log.length : Int) ≤ (system.log ++ [entry]).length := by simp
  have extend : ∀ high : Int, high ≤ system.log.length → KeptUpTo config system high →
      KeptUpTo config { system with log := system.log ++ [entry] } high :=
    fun high bound kept record member acked =>
      kept record (older record member (acked.trans bound)) acked
  refine ⟨⟨sound.bounded.1, sound.bounded.2.trans longer⟩, extend _ sound.bounded.2 sound.kept, ?_,
    sound.signed⟩
  have held := sound.push
  change system.push.Sound config { system with log := system.log ++ [entry] }
  cases under : system.push with
  | idle => exact trivial
  | waiting acked body =>
    rw [under] at held
    obtain ⟨same, agent, inst, covers⟩ := held
    refine ⟨same, agent, inst, fun last ends => ?_⟩
    obtain ⟨bound, covered⟩ := covers last ends
    exact ⟨bound.trans longer, fun record member later earlier =>
      covered record (older record member (earlier.trans bound)) later earlier⟩
  | verified acked newAcked =>
    rw [under] at held
    obtain ⟨same, grown, within, kept⟩ := held
    exact ⟨same, grown, within.trans longer, extend _ within kept⟩

theorem Sound.startPush (sound : Sound config system) (nonce : String) :
    Sound config (system.startPush config nonce) := by
  unfold System.startPush
  split
  · dsimp only
    split
    · exact sound
    · refine ⟨sound.bounded, sound.kept, ⟨rfl, rfl, rfl, fun last ends => ⟨?_, ?_⟩⟩, sound.signed⟩
      · have listed := List.mem_of_mem_filter (List.mem_of_mem_take (List.mem_of_getLast? ends))
        exact (numbered_bounds listed).2
      · exact fun record member later earlier => readAudit_covers ends member later earlier
  · exact sound
  · exact sound

theorem Sound.idle (sound : Sound config system) :
    Sound config { system with push := .idle } :=
  ⟨sound.bounded, sound.kept, trivial, sound.signed⟩

variable [DecidableEq π]

/-- What `verify_ack` accepts. -/
theorem verifyAck_ok {response : Response π} {request : Body π} {previous high : Int}
    (verified : verifyAck response request previous = .ok high) :
    ∃ ack last, response.signature = some ack ∧ request.records.getLast? = some last ∧
      ack.requestSha256 = request ∧ ack.ackedSeq = high ∧ previous ≤ high ∧ high ≤ last.seq := by
  unfold verifyAck at verified
  split at verified
  · cases verified
  · rename_i ack _
    split at verified
    · cases verified
    · rename_i signature
      split at verified
      · rename_i nonce last _ ends
        dsimp only at verified
        split at verified
        · cases verified
        · rename_i expected
          split at verified
          · cases verified
          · rename_i range
            obtain rfl := Except.ok.inj verified
            rw [not_or, not_not] at range
            refine ⟨ack, last, not_not.mp signature, ends, ?_, rfl, range.1.1, range.1.2⟩
            rw [not_not.mp expected]
      · cases verified
      · cases verified

theorem Sound.reply (sound : Sound config system) (response : Response π) :
    Sound config (system.reply response) := by
  unfold System.reply
  split
  · rename_i acked body under
    split
    · rename_i genuine
      split
      · rename_i newAcked verified
        have held := sound.push
        rw [under] at held
        obtain ⟨rfl, agent, inst, covers⟩ := held
        obtain ⟨ack, last, signature, ends, rfl, rfl, grown, within⟩ := verifyAck_ok verified
        obtain ⟨bound, covered⟩ := covers last ends
        have known : ack ∈ system.signed := by
          rw [signature] at genuine
          exact of_decide_eq_true genuine
        refine ⟨sound.bounded, sound.kept, ⟨rfl, grown, within.trans bound, ?_⟩, sound.signed⟩
        intro record member upTo
        -- what was acknowledged before is held already, and the rest is in the batch
        rcases Int.lt_or_le system.acked record.seq with later | earlier
        · have listed := covered record member later (upTo.trans within)
          rw [← agent, ← inst]
          exact sound.signed ack known record listed upTo
        · exact sound.kept record member earlier
      · exact sound.idle
    · exact sound
  · exact sound
  · exact sound

omit [DecidableEq π] in
theorem Sound.putAcked (sound : Sound config system) : Sound config system.putAcked := by
  unfold System.putAcked
  split
  · rename_i acked newAcked under
    have held := sound.push
    rw [under] at held
    obtain ⟨rfl, grown, within, kept⟩ := held
    by_cases same : newAcked = system.acked
    · simp only [same, ne_eq, not_true_eq_false, if_false]
      exact sound.idle
    · simp only [same, ne_eq, not_false_eq_true, if_true]
      exact ⟨⟨sound.bounded.1.trans grown, within⟩, kept, trivial, sound.signed⟩
  · exact sound
  · exact sound

theorem Sound.post (sound : Sound config system) (body : Body π) :
    Sound config (system.post body) := by
  unfold System.post
  split
  · exact sound
  · rename_i central high ingested
    obtain ⟨grows, holds⟩ := CentralStore.ingest_holds ingested
    refine sound.grow grows fun ack member => ?_
    rcases List.mem_append.mp member with old | new
    · exact .inl old
    · obtain rfl := Option.some.inj (Option.mem_toList.mp new)
      exact .inr holds

theorem Sound.ingest (sound : Sound config system) (agentId instanceId : String)
    (records : List (Record π)) : Sound config (system.ingest agentId instanceId records) := by
  unfold System.ingest
  split
  · exact sound
  · rename_i central high ingested
    exact sound.grow (CentralStore.ingest_holds ingested).1 fun ack member => .inl member

/-- What one step preserves. -/
theorem Sound.step (sound : Sound config system) (event : Event π) :
    Sound config (system.step config event) := by
  cases event with
  | append entry => exact sound.append entry
  | push nonce => exact sound.startPush nonce
  | post body => exact sound.post body
  | ingest agentId instanceId records => exact sound.ingest agentId instanceId records
  | reply response => exact sound.reply response
  | fail | restart => exact sound.idle
  | put => exact sound.putAcked

/-- Nothing that was stored is changed, and the watermark does not fall. -/
structure Advances (system after : System π) : Prop where
  log : system.log <+: after.log
  audit : system.central.audit <+: after.central.audit
  acked : system.acked ≤ after.acked

omit [DecidableEq π] in
theorem Advances.refl (system : System π) : Advances system system :=
  ⟨List.prefix_refl _, List.prefix_refl _, le_refl _⟩

omit [DecidableEq π] in
theorem Advances.trans {first second third : System π} (advances : Advances first second)
    (later : Advances second third) : Advances first third :=
  ⟨advances.log.trans later.log, advances.audit.trans later.audit,
    advances.acked.trans later.acked⟩

omit [DecidableEq π] in
theorem advances_push (system : System π) (push : Push π) : Advances system { system with push } :=
  ⟨List.prefix_refl _, List.prefix_refl _, le_refl _⟩

theorem advances_step (sound : Sound config system) (event : Event π) :
    Advances system (system.step config event) := by
  cases event with
  | append entry => exact ⟨List.prefix_append _ _, List.prefix_refl _, le_refl _⟩
  | push nonce =>
    change Advances system (system.startPush config nonce)
    unfold System.startPush
    split
    · dsimp only
      split <;> exact advances_push system _
    · exact Advances.refl system
    · exact Advances.refl system
  | post body =>
    change Advances system (system.post body)
    unfold System.post
    split
    · exact Advances.refl system
    · rename_i ingested
      exact ⟨List.prefix_refl _, (CentralStore.ingest_holds ingested).1.audit, le_refl _⟩
  | ingest agentId instanceId records =>
    change Advances system (system.ingest agentId instanceId records)
    unfold System.ingest
    split
    · exact Advances.refl system
    · rename_i ingested
      exact ⟨List.prefix_refl _, (CentralStore.ingest_holds ingested).1.audit, le_refl _⟩
  | reply response =>
    change Advances system (system.reply response)
    unfold System.reply
    split
    · split
      · split <;> exact advances_push system _
      · exact Advances.refl system
    · exact Advances.refl system
    · exact Advances.refl system
  | fail | restart => exact advances_push system _
  | put =>
    change Advances system system.putAcked
    unfold System.putAcked
    split
    · rename_i acked newAcked under
      have held := sound.push
      rw [under] at held
      obtain ⟨rfl, grown, _⟩ := held
      refine ⟨List.prefix_refl _, List.prefix_refl _, ?_⟩
      dsimp only
      split
      · exact grown
      · exact le_refl _
    · exact Advances.refl system
    · exact Advances.refl system

/-- What a run preserves. -/
theorem Sound.run (sound : Sound config system) (events : List (Event π)) :
    Sound config (system.run config events) ∧ Advances system (system.run config events) := by
  induction events generalizing system with
  | nil => exact ⟨sound, Advances.refl system⟩
  | cons event rest inductionHypothesis =>
    obtain ⟨held, advances⟩ := inductionHypothesis (sound.step event)
    exact ⟨held, (advances_step sound event).trans advances⟩

end Steps

/-- Whatever was appended, pushed, lost, repeated or ingested, the central store holds every
record that the agent takes for acknowledged; and from there on the stored rows stay as they are
and the watermark does not fall. -/
theorem acknowledged_audit_kept [DecidableEq π] (config : Config) (central : CentralStore π)
    (events more : List (Event π)) :
    KeptUpTo config ((System.start central).run config events)
        ((System.start central).run config events).acked ∧
      ((System.start central).run config events).acked ≤
        ((System.start central).run config events).log.length ∧
      Advances ((System.start central).run config events)
        ((System.start central).run config (events ++ more)) := by
  obtain ⟨sound, _⟩ := (sound_start config central).run events
  have joined : (System.start central).run config (events ++ more) =
      ((System.start central).run config events).run config more := List.foldl_append
  rw [joined]
  exact ⟨sound.kept, sound.bounded.2, (sound.run more).2⟩

end LiveStream.Audit
