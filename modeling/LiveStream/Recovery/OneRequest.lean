import LiveStream.Recovery.Lives

/-! One restart request for a generation, whatever happens to the processes. -/

namespace LiveStream.Recovery

open LiveStream.Support

/-- The states of an action that may not be sent again. -/
def ActionState.closed : ActionState → Bool
  | .outcomeUnknown | .rejected | .effectFailed | .cancelledBeforeSend => true
  | .reserved | .dryRun | .effectObserved => false

/-- A record of a result of an action. -/
def AuditRecord.Ends (record : AuditRecord) (actionId : Nat) : Prop :=
  ∃ state response, record.results = some (actionId, state, response)

/-- What an agent sent until the last world, given an earlier one: a generation once at most,
each call justified by the database as it was then, every result of its action recorded after
it, and no call for an action that had been closed earlier. -/
structure SentOnce (config : Config) (earlier last : World) : Prop where
  once : (last.sent.map (·.generationKey)).Nodup
  justified : ∀ sent ∈ last.sent, Justified config sent
  committed : ∀ sent ∈ last.sent, sent.store.audit <+: last.store.audit
  first : ∀ sent ∈ last.sent, ∀ index record, last.store.audit[index]? = some record →
    record.Ends sent.actionId → sent.store.audit.length ≤ index
  never : ∃ more, last.sent = earlier.sent ++ more ∧
    ∀ action ∈ earlier.store.actions, action.state.closed = true →
      ∀ sent ∈ more, sent.actionId ≠ action.id

variable {config : Config} {opened world : World}

/-- A call was made before any result of its action. -/
theorem Sound.sent_first (sound : Sound config opened world) {sent : Sent}
    (member : sent ∈ world.sent) {index : Nat} {record : AuditRecord}
    (found : world.store.audit[index]? = some record) (ends : record.Ends sent.actionId) :
    sent.store.audit.length ≤ index := by
  by_contra inside
  have inside : index < sent.store.audit.length := Nat.lt_of_not_le inside
  obtain ⟨rest, extended⟩ := sound.kept sent member
  rw [← extended, List.getElem?_append_left inside] at found
  obtain ⟨state, response, ended⟩ := ends
  exact (sound.justified sent member).pending record (List.mem_of_getElem? found) state response
    ended

/-- A result of a closed action is on record. -/
theorem Sound.closed_recorded (sound : Sound config opened world) {action : Action}
    (member : action ∈ world.store.actions) (closed : action.state.closed = true) :
    ∃ record ∈ world.store.audit, record.Ends action.id := by
  have ended : action.state ≠ .reserved := by
    intro reserved
    rw [reserved] at closed
    cases closed
  have recorded := sound.results action member
  rw [Action.outcome, if_neg ended] at recorded
  obtain ⟨record, found, ends⟩ := mem_of_assigned recorded
  exact ⟨record, found, action.state, action.loaded, ends⟩

/-- No later call is for an action that was closed. -/
theorem Sound.never_resent (sound : Sound config opened opened)
    (later : Sound config opened world) {more : List Sent}
    (extended : ∀ sent ∈ more, opened.store.audit <+: sent.store.audit)
    (members : more ⊆ world.sent) {action : Action} (owned : action ∈ opened.store.actions)
    (closed : action.state.closed = true) {sent : Sent} (member : sent ∈ more) :
    sent.actionId ≠ action.id := by
  intro same
  obtain ⟨record, found, state, response, ended⟩ := sound.closed_recorded owned closed
  have seen : record ∈ sent.store.audit := (extended sent member).subset found
  exact (later.justified sent (members member)).pending record seen state response (same ▸ ended)

/-- For any lives of the agent on one database, killed and restarted at any point. -/
theorem one_request_for_generation (config : Config) (first later : List (List Turn)) :
    SentOnce config (World.initial.lives config first)
      (World.initial.lives config (first ++ later)) := by
  have opened := ((sound_initial : Sound config .initial .initial).lives first).reopen
  have held := opened.lives later
  have joined : World.initial.lives config (first ++ later) =
      (World.initial.lives config first).lives config later := List.foldl_append
  rw [joined]
  obtain ⟨more, same, extended⟩ := held.resent
  refine ⟨held.once, held.justified, held.kept, fun sent member index record found ends => ?_,
    more, same, fun action owned closed sent member => ?_⟩
  · exact held.sent_first member found ends
  · refine opened.never_resent held extended ?_ owned closed member
    rw [same]
    exact List.subset_append_right _ _

end LiveStream.Recovery
