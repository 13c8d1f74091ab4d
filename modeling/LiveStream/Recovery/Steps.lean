import LiveStream.Recovery.Invariant
import LiveStream.Support.Rows

/-! What each write of an agent does to a sound world: the writes that say nothing about an
action, a reservation, a result, a verification and a call of the sender. -/

namespace LiveStream.Recovery

open LiveStream.Support

variable {config : Config} {opened start world : World} {adopted more : List Policy}

section Monotone

variable (grown : adopted ⊆ more)
include grown

theorem Known.mono {policy : Policy} (known : Known adopted policy) : Known more policy :=
  known.imp_right fun member => grown member

theorem Allowed.mono {before : List Head} {head : Head} (allowed : Allowed adopted before head) :
    Allowed more before head := by
  obtain ⟨policy, known, rest⟩ := allowed
  exact ⟨policy, known.mono grown, rest⟩

theorem Issued.mono {version : Nat} {request : RequestContext}
    (issued : Issued adopted version request) : Issued more version request := by
  obtain ⟨policy, known, rest⟩ := issued
  exact ⟨policy, known.mono grown, rest⟩

theorem Placed.mono {action : Action} {request : RequestContext}
    (placed : Placed config adopted action request) : Placed config more action request :=
  { placed with issued := placed.issued.mono grown }

theorem Evidenced.mono {before : List AuditRecord} {record : AuditRecord}
    (evidenced : Evidenced config adopted before record) :
    Evidenced config more before record := by
  intro verification verified
  obtain ⟨current, borne⟩ := evidenced verification verified
  refine ⟨current, fun resumed => ?_⟩
  obtain ⟨head, response, request, first, borne⟩ := borne resumed
  exact ⟨head, response, request, first, { borne with issued := borne.issued.mono grown }⟩

end Monotone

theorem AuditRecord.Inert.reserves {record : AuditRecord} (inert : record.Inert) :
    record.reserves = none := by
  rw [AuditRecord.reserves, inert.head]
  rfl

theorem AuditRecord.Inert.evidenced {record : AuditRecord} (inert : record.Inert)
    (before : List AuditRecord) : Evidenced config adopted before record := by
  intro verification verified
  rw [inert.verified] at verified
  cases verified

/-- Nothing was said about an action, and nothing was sent. -/
structure Quiet (start world : World) : Prop where
  actions : world.store.actions = start.store.actions
  audit : ∃ records, world.store.audit = start.store.audit ++ records ∧
    ∀ record ∈ records, record.Inert
  adopted : start.adopted ⊆ world.adopted
  policy : (∀ policy, start.store.policy = some policy → policy ∈ start.adopted) →
    ∀ policy, world.store.policy = some policy → policy ∈ world.adopted
  sent : world.sent = start.sent
  progress : world.memory.deliveryProgress = start.memory.deliveryProgress

theorem Quiet.refl (world : World) : Quiet world world where
  actions := rfl
  audit := ⟨[], by simp⟩
  adopted := List.Subset.refl _
  policy := id
  sent := rfl
  progress := rfl

theorem Quiet.trans {first second third : World} (quiet : Quiet first second)
    (later : Quiet second third) : Quiet first third where
  actions := later.actions.trans quiet.actions
  audit := by
    obtain ⟨records, extended, inert⟩ := quiet.audit
    obtain ⟨further, again, inert'⟩ := later.audit
    refine ⟨records ++ further, by rw [again, extended, List.append_assoc], fun record member => ?_⟩
    rcases List.mem_append.mp member with member | member
    · exact inert record member
    · exact inert' record member
  adopted := List.Subset.trans quiet.adopted later.adopted
  policy := fun known => later.policy (quiet.policy known)
  sent := later.sent.trans quiet.sent
  progress := later.progress.trans quiet.progress

/-- A record that told nothing about an action is appended. -/
theorem quiet_append (world : World) (now : Instant) (payload : Payload)
    (inert : AuditRecord.Inert ⟨stamp now, payload⟩) :
    Quiet world { world with store := world.store.append now payload } where
  actions := rfl
  audit := ⟨[_], rfl, fun _ member => List.mem_singleton.mp member ▸ inert⟩
  adopted := List.Subset.refl _
  policy := id
  sent := rfl
  progress := rfl

theorem quiet_sync (world : World) (sync : Sync) : Quiet world (world.sync sync) := by
  cases sync with
  | reject now reason => exact quiet_append world now _ ⟨rfl, rfl, rfl⟩
  | offer now candidate repeated =>
    rw [World.sync, AgentStore.offerPolicy]
    cases refused : adoptionError world.store.policy candidate with
    | some reason =>
      cases repeated with
      | true => exact { Quiet.refl world with }
      | false => exact { quiet_append world now _ ⟨rfl, rfl, rfl⟩ with }
    | none =>
      by_cases current : world.store.policy = some candidate
      · simp only [current, if_true, not_true_eq_false, and_false, if_false, ne_eq]
        exact { Quiet.refl world with }
      · simp only [current, if_false, not_false_eq_true, and_self, if_true, ne_eq]
        refine ⟨rfl, ⟨[_], rfl, fun record member => ?_⟩, List.subset_append_left _ _,
          fun _ policy adopted => ?_, rfl, rfl⟩
        · rw [List.mem_singleton.mp member]
          exact ⟨rfl, rfl, rfl⟩
        · cases adopted
          exact List.mem_append_right _ (List.mem_singleton_self _)

theorem quiet_synced (world : World) (turn : Turn) : Quiet world (world.synced turn) := by
  unfold World.synced
  induction turn.syncs generalizing world with
  | nil => exact Quiet.refl world
  | cons sync rest inductionHypothesis =>
    exact (quiet_sync world sync).trans (inductionHypothesis (world.sync sync))

theorem claimed_iff {store : AgentStore} {generationKey : String} {mode : ActionMode} :
    store.claimed generationKey mode = true ↔
      ∃ action ∈ store.actions, action.generationKey = generationKey ∧ action.mode = mode := by
  simp [AgentStore.claimed]

/-- A row is found by its id. -/
theorem Sound.unique (sound : Sound config opened world) {left right : Action}
    (leftMember : left ∈ world.store.actions) (rightMember : right ∈ world.store.actions)
    (same : left.id = right.id) : left = right := by
  have nodup : (world.store.actions.map (·.id)).Nodup := sound.numbered ▸ List.nodup_range'
  exact eq_of_key nodup leftMember rightMember same

theorem Sound.id_le (sound : Sound config opened world) {action : Action}
    (member : action ∈ world.store.actions) : action.id ≤ world.store.actions.length := by
  have listed : action.id ∈ world.store.actions.map (·.id) := List.mem_map_of_mem member
  rw [sound.numbered] at listed
  have bounds := List.mem_range'_1.mp listed
  omega

/-- Quiet steps keep a world sound. -/
theorem Quiet.sound (quiet : Quiet start world) (sound : Sound config opened start) :
    Sound config opened world := by
  obtain ⟨records, extended, inert⟩ := quiet.audit
  have noResults : ∀ record ∈ records, record.results = none := fun record member =>
    (inert record member).results
  have noHeads : records.filterMap AuditRecord.head? = [] :=
    List.filterMap_eq_nil_iff.mpr fun record member => (inert record member).head
  constructor
  case policy => exact quiet.policy sound.policy
  case numbered => rw [quiet.actions]; exact sound.numbered
  case heads => rw [extended, List.filterMap_append, noHeads, List.append_nil, quiet.actions,
    sound.heads]
  case reserves =>
    intro action member
    rw [extended, assigned_append_inert fun record found => (inert record found).reserves]
    exact sound.reserves action (quiet.actions ▸ member)
  case results =>
    intro action member
    rw [extended, assigned_append_inert noResults]
    exact sound.results action (quiet.actions ▸ member)
  case resultIds =>
    intro record member actionId state response result
    rw [extended] at member
    rw [quiet.actions]
    rcases List.mem_append.mp member with member | member
    · exact sound.resultIds record member actionId state response result
    · rw [noResults record member] at result
      cases result
  case localized =>
    intro record member reservation reserved
    rw [extended] at member
    rcases List.mem_append.mp member with member | member
    · exact sound.localized record member reservation reserved
    · have none := (inert record member).head
      rw [AuditRecord.head?, reserved] at none
      cases none
  case allowed =>
    intro mode
    rw [quiet.actions]
    exact (sound.allowed mode).imp fun _ _ allowed => allowed.mono quiet.adopted
  case placed =>
    intro action member request context
    exact (sound.placed action (quiet.actions ▸ member) request context).mono quiet.adopted
  case progress =>
    intro actionId first second found
    rw [quiet.actions]
    exact sound.progress actionId first second (quiet.progress ▸ found)
  case evidenced =>
    rw [extended]
    exact (sound.evidenced.imp fun _ _ evidenced => evidenced.mono quiet.adopted).append
      fun before record member => (inert record member).evidenced before
  case justified => rw [quiet.sent]; exact sound.justified
  case claimed =>
    intro sent member
    have claimed := sound.claimed sent (quiet.sent ▸ member)
    rw [AgentStore.claimed] at claimed ⊢
    rw [quiet.actions]
    exact claimed
  case once => rw [quiet.sent]; exact sound.once
  case kept =>
    rw [quiet.sent, extended]
    exact fun sent member => (sound.kept sent member).trans (List.prefix_append _ _)
  case later => rw [extended]; exact sound.later.trans (List.prefix_append _ _)
  case resent => rw [quiet.sent]; exact sound.resent

section Writes

variable (sound : Sound config opened world)
include sound

/-- The database with a write, in an otherwise unchanged world. -/
theorem Sound.later_append {store : AgentStore} {record : AuditRecord}
    (appended : store.audit = world.store.audit ++ [record]) :
    opened.store.audit <+: store.audit := by
  rw [appended]
  exact sound.later.trans (List.prefix_append _ _)

theorem Sound.kept_append {store : AgentStore} {record : AuditRecord}
    (appended : store.audit = world.store.audit ++ [record]) :
    ∀ sent ∈ world.sent, sent.store.audit <+: store.audit := by
  rw [appended]
  exact fun sent member => (sound.kept sent member).trans (List.prefix_append _ _)

/-- A generation that no row of the mode has is reserved. -/
theorem Sound.reserve {now : Instant} {generationKey requestId : String} {mode : ActionMode}
    {policyVersion : Nat} {bytesSent : Int} {evidence : Evidence}
    (localized : Localized evidence.network)
    (allowed : Allowed world.adopted
      ((world.store.actions.map Action.head).filter (·.mode = mode))
      ⟨stamp now, world.store.actions.length + 1, generationKey, mode, policyVersion⟩) :
    Sound config opened { world with
      store := { world.store with
        actions := world.store.actions ++ [AgentStore.reserve now bytesSent
          ⟨world.store.actions.length + 1, generationKey, mode, requestId, policyVersion,
            evidence⟩] }.append now (.actionReserved
          ⟨world.store.actions.length + 1, generationKey, mode, requestId, policyVersion,
            evidence⟩) } := by
  have fresh : ∀ action ∈ world.store.actions, world.store.actions.length + 1 ≠ action.id := by
    intro action member
    have bound := sound.id_le member
    omega
  constructor
  case policy => exact sound.policy
  case numbered =>
    simp only [AgentStore.append, List.map_append, sound.numbered, List.length_append,
      List.map_cons, List.map_nil, List.length_cons, List.length_nil, AgentStore.reserve]
    rw [List.range'_append_1.symm]
    simp [Nat.add_comm]
  case heads =>
    simp only [AgentStore.append, List.filterMap_append, List.map_append, sound.heads]
    rfl
  case reserves =>
    intro action member
    rcases List.mem_append.mp member with member | member
    · refine (assigned_other fun value => ?_).trans (sound.reserves action member)
      simp only [AuditRecord.reserves, AuditRecord.head?, Option.map_some, ne_eq,
        Option.some.injEq, Prod.mk.injEq, not_and]
      exact fun same => absurd same (fresh action member)
    · obtain rfl := List.mem_singleton.mp member
      exact assigned_self rfl
  case results =>
    intro action member
    refine (assigned_other fun _ same => by cases same).trans ?_
    rcases List.mem_append.mp member with member | member
    · exact sound.results action member
    · obtain rfl := List.mem_singleton.mp member
      refine assigned_none fun record found value result => ?_
      obtain ⟨action, owned, same, _⟩ := sound.resultIds record found _ _ _ result
      exact fresh action owned same.symm
  case resultIds =>
    intro record member actionId state response result
    rcases List.mem_append.mp member with member | member
    · obtain ⟨action, owned, same, ended⟩ :=
        sound.resultIds record member actionId state response result
      exact ⟨action, List.mem_append_left _ owned, same, ended⟩
    · obtain rfl := List.mem_singleton.mp member
      cases result
  case localized =>
    intro record member reservation reserved
    rcases List.mem_append.mp member with member | member
    · exact sound.localized record member reservation reserved
    · obtain rfl := List.mem_singleton.mp member
      cases reserved
      exact localized
  case allowed =>
    intro other
    simp only [AgentStore.append, List.map_append, List.filter_append]
    by_cases here : mode = other
    · subst here
      have kept : ([AgentStore.reserve now bytesSent ⟨world.store.actions.length + 1,
          generationKey, mode, requestId, policyVersion, evidence⟩].map Action.head).filter
            (·.mode = mode) = [⟨stamp now, world.store.actions.length + 1, generationKey, mode,
              policyVersion⟩] := by
        simp [AgentStore.reserve, Action.head]
      rw [kept]
      exact (sound.allowed mode).snoc allowed
    · have dropped : ([AgentStore.reserve now bytesSent ⟨world.store.actions.length + 1,
          generationKey, mode, requestId, policyVersion, evidence⟩].map Action.head).filter
            (·.mode = other) = [] := by
        simp [AgentStore.reserve, Action.head, here]
      rw [dropped, List.append_nil]
      exact sound.allowed other
  case placed =>
    intro action member request context
    rcases List.mem_append.mp member with member | member
    · exact sound.placed action member request context
    · obtain rfl := List.mem_singleton.mp member
      cases context
  case progress =>
    intro actionId first second found
    obtain ⟨action, member, rest⟩ := sound.progress actionId first second found
    exact ⟨action, List.mem_append_left _ member, rest⟩
  case evidenced => exact sound.evidenced.snoc fun verification verified => by cases verified
  case justified => exact sound.justified
  case claimed =>
    intro sent member
    obtain ⟨action, owned, rest⟩ := claimed_iff.mp (sound.claimed sent member)
    exact claimed_iff.mpr ⟨action, List.mem_append_left _ owned, rest⟩
  case once => exact sound.once
  case kept => exact sound.kept_append rfl
  case later => exact sound.later_append rfl
  case resent => exact sound.resent

end Writes

/-- The rows after an update. -/
theorem mem_updateAction {store : AgentStore} {actionId : Nat} {condition : Action → Bool}
    {change : Action → Action} {action : Action} :
    action ∈ (store.updateAction actionId condition change).actions ↔
      ∃ row ∈ store.actions,
        action = if row.id = actionId ∧ condition row = true then change row else row := by
  simp only [AgentStore.updateAction, List.mem_map, Bool.and_eq_true, decide_eq_true_eq]
  constructor <;> rintro ⟨row, member, same⟩ <;> exact ⟨row, member, same.symm⟩

/-- An update that leaves the reservation of a row alone. -/
theorem heads_updateAction {store : AgentStore} {actionId : Nat} {condition : Action → Bool}
    {change : Action → Action} (kept : ∀ action, (change action).head = action.head) :
    (store.updateAction actionId condition change).actions.map Action.head =
      store.actions.map Action.head := by
  simp only [AgentStore.updateAction, List.map_map]
  refine List.map_congr_left fun action _ => ?_
  simp only [Function.comp_apply]
  split
  · exact kept action
  · rfl

theorem ids_of_heads {left right : List Action}
    (same : left.map Action.head = right.map Action.head) :
    left.map (·.id) = right.map (·.id) ∧ left.length = right.length := by
  have ids := congrArg (List.map Head.actionId) same
  rw [List.map_map, List.map_map] at ids
  have lengths := congrArg List.length same
  rw [List.length_map, List.length_map] at lengths
  exact ⟨ids, lengths⟩

theorem claimed_of_heads {left right : AgentStore}
    (same : left.actions.map Action.head = right.actions.map Action.head) {generationKey : String}
    {mode : ActionMode} (claimed : left.claimed generationKey mode = true) :
    right.claimed generationKey mode = true := by
  obtain ⟨action, member, key, kind⟩ := claimed_iff.mp claimed
  have listed : action.head ∈ left.actions.map Action.head := List.mem_map_of_mem member
  rw [same] at listed
  obtain ⟨other, found, equal⟩ := List.mem_map.mp listed
  refine claimed_iff.mpr ⟨other, found, ?_, ?_⟩
  · exact (congrArg Head.generationKey equal).trans key
  · exact (congrArg Head.mode equal).trans kind

section Settlements

variable (sound : Sound config opened world)
include sound

/-- A row gets a result, which the log repeats. -/
theorem Sound.settle {action : Action} (member : action ∈ world.store.actions)
    {condition : Action → Bool} (meets : condition action = true) {state : ActionState}
    {response : Response} (ended : state ≠ .reserved) {now : Instant} {payload : Payload}
    (result : AuditRecord.results ⟨stamp now, payload⟩ = some (action.id, state, response))
    (noHead : AuditRecord.head? ⟨stamp now, payload⟩ = none)
    (notVerified : AuditRecord.verified? ⟨stamp now, payload⟩ = none)
    (placed : ∀ request, response.request = some request →
      Placed config world.adopted { action with state, response := some response } request)
    (progress : ∀ request first second, Progressed config action.loaded request first second →
      Progressed config response request first second) :
    Sound config opened { world with
      store := (world.store.updateAction action.id condition
        fun row => { row with state, response := some response }).append now payload } := by
  set settled : Action := { action with state, response := some response } with settled_def
  have sameHeads : (world.store.updateAction action.id condition
      fun row => { row with state, response := some response }).actions.map Action.head =
        world.store.actions.map Action.head := heads_updateAction fun _ => rfl
  have rows : ∀ row ∈ (world.store.updateAction action.id condition
      fun row => { row with state, response := some response }).actions,
        (row ∈ world.store.actions ∧ row.id ≠ action.id) ∨ row = settled := by
    intro row changed
    obtain ⟨before, found, rfl⟩ := mem_updateAction.mp changed
    by_cases here : before.id = action.id
    · obtain rfl := sound.unique found member here
      exact .inr (if_pos ⟨rfl, meets⟩)
    · rw [if_neg fun both => here both.1]
      exact .inl ⟨found, here⟩
  have kept : ∀ row ∈ world.store.actions, row.id ≠ action.id →
      row ∈ (world.store.updateAction action.id condition
        fun row => { row with state, response := some response }).actions := by
    intro row found other
    exact mem_updateAction.mpr ⟨row, found, (if_neg fun both => other both.1).symm⟩
  have now_settled : settled ∈ (world.store.updateAction action.id condition
      fun row => { row with state, response := some response }).actions :=
    mem_updateAction.mpr ⟨action, member, (if_pos ⟨rfl, meets⟩).symm⟩
  have noReserves : AuditRecord.reserves ⟨stamp now, payload⟩ = none := by
    rw [AuditRecord.reserves, noHead]
    rfl
  constructor
  case policy => exact sound.policy
  case numbered =>
    obtain ⟨ids, lengths⟩ := ids_of_heads sameHeads
    exact ids.trans (lengths ▸ sound.numbered)
  case heads =>
    simp only [AgentStore.append, List.filterMap_append, List.filterMap_cons, noHead,
      List.filterMap_nil, List.append_nil, sameHeads]
    exact sound.heads
  case reserves =>
    intro row changed
    refine (assigned_other fun value => by rw [noReserves]; exact nofun).trans ?_
    rcases rows row changed with ⟨found, _⟩ | rfl
    · exact sound.reserves row found
    · exact sound.reserves action member
  case results =>
    intro row changed
    rcases rows row changed with ⟨found, other⟩ | rfl
    · refine (assigned_other fun value same => ?_).trans (sound.results row found)
      rw [result, Option.some.injEq, Prod.mk.injEq] at same
      exact other same.1.symm
    · refine (assigned_self result).trans ?_
      rw [Action.outcome, if_neg ended]
      rfl
  case resultIds =>
    intro record found actionId state' response' told
    rcases List.mem_append.mp found with found | found
    · obtain ⟨row, owned, same, finished⟩ :=
        sound.resultIds record found actionId state' response' told
      by_cases here : row.id = action.id
      · exact ⟨settled, now_settled, here.symm.trans same, ended⟩
      · exact ⟨row, kept row owned here, same, finished⟩
    · obtain rfl := List.mem_singleton.mp found
      rw [result] at told
      cases told
      exact ⟨settled, now_settled, rfl, ended⟩
  case localized =>
    intro record found reservation reserved
    rcases List.mem_append.mp found with found | found
    · exact sound.localized record found reservation reserved
    · obtain rfl := List.mem_singleton.mp found
      rw [AuditRecord.head?, reserved] at noHead
      cases noHead
  case allowed =>
    intro mode
    simp only [AgentStore.append, sameHeads]
    exact sound.allowed mode
  case placed =>
    intro row changed request context
    rcases rows row changed with ⟨found, _⟩ | rfl
    · exact sound.placed row found request context
    · exact placed request context
  case progress =>
    intro actionId first second found
    obtain ⟨row, owned, same, request, progressed⟩ := sound.progress actionId first second found
    by_cases here : row.id = action.id
    · obtain rfl := sound.unique owned member here
      exact ⟨settled, now_settled, same, request, progress request first second progressed⟩
    · exact ⟨row, kept row owned here, same, request, progressed⟩
  case evidenced =>
    refine sound.evidenced.snoc fun verification verified => ?_
    rw [notVerified] at verified
    cases verified
  case justified => exact sound.justified
  case claimed =>
    exact fun sent found => claimed_of_heads sameHeads.symm (sound.claimed sent found)
  case once => exact sound.once
  case kept => exact sound.kept_append rfl
  case later => exact sound.later_append rfl
  case resent => exact sound.resent

/-- A RESERVED row has no response with a request yet. -/
theorem Sound.unanswered {action : Action} (member : action ∈ world.store.actions)
    (reserved : action.state = .reserved) (request : RequestContext) :
    action.loaded.request ≠ some request :=
  fun answered => (sound.placed action member request answered).ended.1 reserved

/-- A reserved action is completed. -/
theorem Sound.complete {action : Action} (member : action ∈ world.store.actions)
    (reserved : action.state = .reserved) {state : ActionState} (ended : state ≠ .reserved)
    (now : Instant) {response : Response}
    (placed : ∀ request, response.request = some request →
      Placed config world.adopted { action with state, response := some response } request) :
    Sound config opened { world with
      store := world.store.completeAction now action.id state response } := by
  refine sound.settle member (decide_eq_true reserved) ended rfl rfl rfl placed ?_
  intro request first second progressed
  exact absurd progressed.answered (sound.unanswered member reserved request)

/-- An unknown outcome is reconciled; the request stays as it was. -/
theorem Sound.reconcile {action : Action} (member : action ∈ world.store.actions)
    (unknown : action.state = .outcomeUnknown) (now : Instant) (status : Fields) :
    Sound config opened { world with
      store := world.store.reconcileObservedAction now action.id
        { action.loaded with executorReconciliation := some status } } := by
  have some_row : (world.store.actions.any fun row =>
      row.id = action.id && row.state = .outcomeUnknown) = true :=
    List.any_eq_true.mpr ⟨action, member, by simp [unknown]⟩
  unfold AgentStore.reconcileObservedAction
  rw [if_pos some_row]
  refine sound.settle member (decide_eq_true unknown) (by simp) (by rfl) (by rfl) (by rfl) ?_ ?_
  · intro request answered
    have placed := sound.placed action member request answered
    exact { placed with ended := by simp }
  · intro request first second progressed
    exact { progressed with }

/-- A verification that the log bears out is recorded. -/
theorem Sound.verify {verification : Verification} (now : Instant)
    (evidenced : Evidenced config world.adopted world.store.audit
      ⟨stamp now, .actionVerified verification⟩) :
    Sound config opened { world with
      store := world.store.recordVerification now verification } := by
  have sameHeads : (world.store.updateAction verification.actionId (·.verifyResult.isNone)
      fun action => { action with
        verifyResult := some verification.result, verifiedAt := some (stamp now) }).actions.map
          Action.head = world.store.actions.map Action.head := heads_updateAction fun _ => rfl
  have rows : ∀ row ∈ (world.store.recordVerification now verification).actions,
      ∃ before ∈ world.store.actions, row.head = before.head ∧ row.outcome = before.outcome ∧
        row.loaded = before.loaded ∧ row.state = before.state := by
    intro row changed
    obtain ⟨before, found, rfl⟩ := mem_updateAction.mp changed
    refine ⟨before, found, ?_⟩
    split <;> exact ⟨rfl, rfl, rfl, rfl⟩
  have kept : ∀ before ∈ world.store.actions,
      ∃ row ∈ (world.store.recordVerification now verification).actions,
        row.id = before.id ∧ row.loaded = before.loaded ∧ row.state = before.state := by
    intro before found
    refine ⟨_, mem_updateAction.mpr ⟨before, found, rfl⟩, ?_⟩
    split <;> exact ⟨rfl, rfl, rfl⟩
  constructor
  case policy => exact sound.policy
  case numbered =>
    obtain ⟨ids, lengths⟩ := ids_of_heads sameHeads
    exact ids.trans (lengths ▸ sound.numbered)
  case heads =>
    simp only [AgentStore.recordVerification, AgentStore.append, List.filterMap_append, sameHeads]
    exact (List.append_nil _).trans sound.heads
  case reserves =>
    intro row changed
    obtain ⟨before, found, head, _⟩ := rows row changed
    have same : row.id = before.id := congrArg Head.actionId head
    refine (assigned_other fun _ same => by cases same).trans ?_
    rw [same, head]
    exact sound.reserves before found
  case results =>
    intro row changed
    obtain ⟨before, found, head, outcome, _⟩ := rows row changed
    have same : row.id = before.id := congrArg Head.actionId head
    refine (assigned_other fun _ same => by cases same).trans ?_
    rw [same, outcome]
    exact sound.results before found
  case resultIds =>
    intro record found actionId state response told
    rcases List.mem_append.mp found with found | found
    · obtain ⟨before, owned, same, finished⟩ :=
        sound.resultIds record found actionId state response told
      obtain ⟨row, changed, id, _, unchanged⟩ := kept before owned
      exact ⟨row, changed, id.trans same, unchanged ▸ finished⟩
    · obtain rfl := List.mem_singleton.mp found
      cases told
  case localized =>
    intro record found reservation reserved
    rcases List.mem_append.mp found with found | found
    · exact sound.localized record found reservation reserved
    · obtain rfl := List.mem_singleton.mp found
      cases reserved
  case allowed =>
    intro mode
    simp only [AgentStore.recordVerification, AgentStore.append, sameHeads]
    exact sound.allowed mode
  case placed =>
    intro row changed request context
    obtain ⟨before, found, head, _, loaded, state⟩ := rows row changed
    have placed := sound.placed before found request (loaded ▸ context)
    have version : row.policyVersion = before.policyVersion := congrArg Head.policyVersion head
    refine ⟨(congrArg Head.mode head).trans placed.mode,
      (congrArg Head.generationKey head).trans placed.key, placed.gap, ?_, state ▸ placed.ended⟩
    rw [version]
    exact placed.issued
  case progress =>
    intro actionId first second found
    obtain ⟨before, owned, same, request, progressed⟩ :=
      sound.progress actionId first second found
    obtain ⟨row, changed, id, loaded, _⟩ := kept before owned
    exact ⟨row, changed, id.trans same, request, loaded ▸ progressed⟩
  case evidenced => exact sound.evidenced.snoc evidenced
  case justified => exact sound.justified
  case claimed =>
    exact fun sent found => claimed_of_heads sameHeads.symm (sound.claimed sent found)
  case once => exact sound.once
  case kept => exact sound.kept_append rfl
  case later => exact sound.later_append rfl
  case resent => exact sound.resent

/-- The sender is called for a generation that it was never called for. -/
theorem Sound.send {sent : Sent} (justified : Justified config sent)
    (claimed : world.store.claimed sent.generationKey .enforce = true)
    (first : ∀ earlier ∈ world.sent, earlier.generationKey ≠ sent.generationKey)
    (store : sent.store = world.store) :
    Sound config opened { world with sent := world.sent ++ [sent] } :=
  { sound with
    justified := fun other member => by
      rcases List.mem_append.mp member with member | member
      · exact sound.justified other member
      · exact List.mem_singleton.mp member ▸ justified
    claimed := fun other member => by
      rcases List.mem_append.mp member with member | member
      · exact sound.claimed other member
      · exact List.mem_singleton.mp member ▸ claimed
    once := by
      rw [List.map_append, List.nodup_append]
      refine ⟨sound.once, by simp, ?_⟩
      intro key member other single
      obtain ⟨earlier, found, rfl⟩ := List.mem_map.mp member
      rw [List.map_singleton, List.mem_singleton] at single
      exact single ▸ first earlier found
    kept := fun other member => by
      rcases List.mem_append.mp member with member | member
      · exact sound.kept other member
      · rw [List.mem_singleton.mp member, store]
    resent := by
      obtain ⟨more, same, later⟩ := sound.resent
      refine ⟨more ++ [sent], by rw [same, List.append_assoc], fun other member => ?_⟩
      rcases List.mem_append.mp member with member | member
      · exact later other member
      · rw [List.mem_singleton.mp member, store]
        exact sound.later }

/-- The memory of the process changes, but for the progress that it knows. -/
theorem Sound.remember {memory : Memory}
    (progress : ∀ actionId first second, memory.deliveryProgress actionId = some (first, second) →
      ∃ action ∈ world.store.actions, action.id = actionId ∧
        ∃ request, Progressed config action.loaded request first second) :
    Sound config opened { world with memory } :=
  { sound with progress }

end Settlements

end LiveStream.Recovery
