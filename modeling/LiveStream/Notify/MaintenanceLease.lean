import LiveStream.Notify.ManualMaintenance
import LiveStream.Support.Operators
import LiveStream.Support.Run

/-! A maintenance lease is never extended, and an incident is deferred only on observed grounds. -/

namespace LiveStream.Notify.ManualMaintenance

open LiveStream.Support

section Checks

variable {stamps : Stamps} {bundle facts : Value} {slot : Slot} {now : Reading}

theorem count?_some {value : Value} {number : ℕ} (counted : value.count? = some number) :
    value = .int number := by
  cases value with
  | int stored =>
    simp only [Value.count?] at counted
    split_ifs at counted with natural
    obtain rfl := Option.some.inj counted
    rw [Int.toNat_of_nonneg natural]
  | none => simp [Value.count?] at counted
  | bool flag => simp [Value.count?] at counted
  | float number => simp [Value.count?] at counted
  | str text => simp [Value.count?] at counted
  | list items => simp [Value.count?] at counted
  | dict fields => simp [Value.count?] at counted
  | foreign => simp [Value.count?] at counted

theorem isZero_iff {value : Value} : isZero value = true ↔ value = .int 0 := by
  cases value <;> simp [isZero]

/-- What admitted facts have shown. -/
structure Admissible (stamps : Stamps) (bundle facts : Value) (slot : Slot) (now : Reading)
    (admitted : Admitted) : Prop where
  fresh : ∃ metadata, facts.getD "observation_time" .none = .ok metadata ∧
    qualify stamps metadata now sourceTtl "manual_maintenance" = some admitted.ageUpper
  host : ∃ host, facts.getD "source_host_id" .none = .ok host ∧ host.isText "delivery-host"
  boot : ∃ state boot current, bundle.getD "state" (.dict []) = .ok state ∧
    facts.getD "source_boot_id" .none = .ok boot ∧
    state.getD "source_boot_id" .none = .ok current ∧ boot.same current
  generation : facts.getD "generation" .none = .ok (.int admitted.identity.generation)
  notOlder : slot.generation ≤ admitted.identity.generation
  session : slot.identity.isSome → admitted.identity.generation = slot.generation →
    slot.same admitted.identity

theorem admission_ok {admitted : Admitted} (admits : admission stamps bundle facts slot now = .ok admitted) :
    Admissible stamps bundle facts slot now admitted := by
  simp only [admission, bind_eq_ok, orReject_eq_ok, rejectIf_eq_ok, pure_eq_ok, not_not, not_lt]
    at admits
  obtain ⟨metadata, timed, age, fresh, _, _, _, _, _, _, _, _, host, named, _, delivery, state, whole,
    boot, booted, current, running, _, matched, _, counted, generation, number, _, notOlder, _, _, _,
    _, session, _, _, agrees, rfl⟩ := admits
  refine ⟨⟨metadata, timed, fresh⟩, ⟨host, named, delivery⟩,
    ⟨state, boot, current, whole, booted, running, matched⟩, ?_, notOlder, ?_⟩
  · rw [counted, count?_some number]
  · intro held equal
    by_contra other
    exact agrees ⟨held, equal, other⟩

/-- What a lease is taken from. -/
structure Leased (facts : Value) (slot : Slot) (now : Reading) (admitted : Admitted)
    (lease : Lease) : Prop where
  deadline : ∃ value, facts.getD "deadline" .none = .ok value ∧
    value.finite? = .ok (some lease.deadline)
  unchanged : slot.same admitted.identity → slot.deadline = some lease.deadline
  bounded : slot.same admitted.identity → slot.receiverBoot = some now.boot →
    ∀ expires, slot.expiresMono = some expires → lease.expires ≤ expires

theorem takeLease_ok {admitted : Admitted} {lease : Lease}
    (takes : takeLease facts slot now admitted = .ok lease) :
    Leased facts slot now admitted lease := by
  simp only [takeLease, bind_eq_ok, orReject_eq_ok, rejectIf_eq_ok, pure_eq_ok, not_or, not_lt]
    at takes
  obtain ⟨value, stored, _, finite, deadline, rfl, _, _, _, _, observed, rfl, _, ⟨_, fixed⟩, since, _,
    rfl⟩ := takes
  refine ⟨⟨value, stored, finite⟩, ?_, ?_⟩
  · intro same
    by_contra changed
    exact fixed ⟨same, changed⟩
  · intro same booted expires held
    simp only [held, same, booted, and_self, if_true]
    exact min_le_right _ _

/-- A main deployment that is observed at zero. -/
theorem mainStopped_ok (stopped : mainStopped facts = .ok true) :
    ∃ main, facts.getD "main_status" (.dict []) = .ok main ∧
      main.getD "replicas" .none = .ok (.int 0) ∧
      main.getD "active_pods" .none = .ok (.int 0) := by
  simp only [mainStopped, bind_eq_ok] at stopped
  obtain ⟨main, present, checks⟩ := stopped
  rw [every_eq_true] at checks
  have zero : ∀ key, (main.getD key .none).map isZero = .ok true →
      main.getD key .none = .ok (.int 0) := by
    intro key found
    cases shape : main.getD key .none with
    | error error => simp [shape, Except.map] at found
    | ok value =>
      rw [shape] at found
      rw [isZero_iff.mp (Except.ok.inj found)]
  exact ⟨main, present, zero _ (checks _ (by simp)), zero _ (checks _ (by simp))⟩

/-- A destination that forwards and flows. -/
def Flows (native : Value) (target : String) : Prop :=
  ∃ row state flowing, destination native target = .ok row ∧ row.getD "state" .none = .ok state ∧
    state.isText "forwarding" ∧ row.getD "flowing" .none = .ok flowing ∧ flowing.isTrue

/-- No verdict on the destinations is that all of them forward and flow; no verdict is good. -/
theorem destinations_ok {native : Value} {targets : List String} {result : Option Output}
    (judged : destinations native targets = .ok result) :
    (result = none → ∀ target ∈ targets, Flows native target) ∧ result ≠ some .good := by
  induction targets with
  | nil =>
    simp only [destinations, pure_eq_ok] at judged
    subst judged
    simp
  | cons target rest inductionHypothesis =>
    simp only [destinations, bind_eq_ok] at judged
    obtain ⟨row, found, classification, _, judged⟩ := judged
    split at judged
    · simp only [pure_eq_ok] at judged
      simp [← judged]
    · obtain ⟨flowing, flows, judged⟩ := bind_eq_ok.mp judged
      split at judged
      · simp only [pure_eq_ok] at judged
        simp [← judged]
      · obtain ⟨state, states, judged⟩ := bind_eq_ok.mp judged
        split at judged
        · simp only [pure_eq_ok] at judged
          simp [← judged]
        · rename_i forwarding
          obtain ⟨again, repeated, judged⟩ := bind_eq_ok.mp judged
          split at judged
          · simp only [pure_eq_ok] at judged
            simp [← judged]
          · rename_i moving
            obtain ⟨rest, proper⟩ := inductionHypothesis judged
            refine ⟨?_, proper⟩
            intro clean other member
            rcases List.mem_cons.mp member with rfl | later
            · exact ⟨row, state, again, found, states, not_not.mp forwarding, repeated,
                not_not.mp moving⟩
            · exact rest clean other later

/-- Good outputs are two destinations that flow. -/
theorem slateOutput_good {observed ageUpper : ℚ}
    (good : slateOutput stamps bundle facts observed ageUpper = .ok .good) :
    ∃ native, bundle.getD "native_delivery" (.dict []) = .ok native ∧
      Flows native "youtube" ∧ Flows native "twitch" := by
  simp only [slateOutput, bind_eq_ok] at good
  obtain ⟨native, present, boot, _, relay, _, good⟩ := good
  split at good
  · simp at good
  · obtain ⟨fresh, _, good⟩ := bind_eq_ok.mp good
    split at good
    · simp at good
    · obtain ⟨result, judged, good⟩ := bind_eq_ok.mp good
      obtain ⟨flows, proper⟩ := destinations_ok judged
      cases result with
      | none => exact ⟨native, present, flows rfl _ (by simp), flows rfl _ (by simp)⟩
      | some output =>
        simp only [pure_eq_ok] at good
        exact absurd (congrArg some good) proper

end Checks

section Calls

variable {stamps : Stamps} {slot : Slot} {bundle facts : Value} {now : Reading}

/-- The fields of the slot that bound the lease. -/
def Slot.bounds (slot : Slot) : Option Identity × Option String × Option ℚ × Option ℚ :=
  (slot.identity, slot.receiverBoot, slot.deadline, slot.expiresMono)

@[simp] theorem bounds_stop (slot : Slot) (window : Option StopWindow) :
    (slot.stop window).bounds = slot.bounds := by
  cases window <;> rfl

@[simp] theorem bounds_deferred (slot : Slot) (ids : Finset String) :
    { slot with deferredIds := ids }.bounds = slot.bounds := rfl

/-- What a call does to the bounds: nothing, a session that is over, or a lease. -/
inductive Moves (stamps : Stamps) (bundle : Value) (slot : Slot) (now : Reading) : Slot → Prop
  | stays (after : Slot) (same : after.bounds = slot.bounds) : Moves stamps bundle slot now after
  | ends (after : Slot) (admitted : Admitted)
      (admits : Admissible stamps bundle (factsOf bundle) slot now admitted)
      (moved : after.bounds =
        (some admitted.identity, slot.receiverBoot, slot.deadline, slot.expiresMono)) :
      Moves stamps bundle slot now after
  | leases (after : Slot) (admitted : Admitted) (lease : Lease)
      (admits : Admissible stamps bundle (factsOf bundle) slot now admitted)
      (leased : Leased (factsOf bundle) slot now admitted lease)
      (moved : after.bounds =
        (some admitted.identity, some now.boot, some lease.deadline, some lease.expires)) :
      Moves stamps bundle slot now after

/-- The grounds of a call in which incidents are eligible. -/
structure Grounds (stamps : Stamps) (bundle : Value) (slot : Slot) (now : Reading) (after : Slot)
    (admitted : Admitted) (lease : Lease) : Prop where
  admits : Admissible stamps bundle (factsOf bundle) slot now admitted
  leased : Leased (factsOf bundle) slot now admitted lease
  stored : after.bounds =
    (some admitted.identity, some now.boot, some lease.deadline, some lease.expires)
  running : now.mono < lease.expires
  stopped : mainStopped (factsOf bundle) = .ok true
  slates : slateOutput stamps bundle (factsOf bundle) lease.observed admitted.ageUpper = .ok .good

/-- After the lease is taken only the verdict remains, which leaves the bounds. -/
theorem verdict_spec (stamps : Stamps) (bundle facts : Value) (slot : Slot) (now : Reading)
    (admitted : Admitted) (lease : Lease) :
    let judged := verdict stamps bundle facts slot now admitted lease
    judged.1.bounds = slot.bounds ∧ ∀ result, judged.2 = .ok result → result.eligible = true →
      now.mono < lease.expires ∧ mainStopped facts = .ok true ∧
        slateOutput stamps bundle facts lease.observed admitted.ageUpper = .ok .good := by
  unfold verdict
  cases facts.getD "overdue" .none with
  | error error => exact ⟨rfl, fun result returned => absurd returned (by simp)⟩
  | ok overdue =>
    dsimp only
    split
    · exact ⟨rfl, fun result returned eligible => by
        rw [← Except.ok.inj returned] at eligible
        simp [alarm] at eligible⟩
    · rename_i running
      split
      · exact ⟨rfl, fun result returned eligible => by
          rw [← Except.ok.inj returned] at eligible
          simp [clear] at eligible⟩
      · cases stopped : mainStopped facts with
        | error error => exact ⟨rfl, fun result returned => absurd returned (by simp)⟩
        | ok whole =>
          cases whole with
          | false => exact ⟨rfl, fun result returned eligible => by
              rw [← Except.ok.inj returned] at eligible
              simp [alarm] at eligible⟩
          | true =>
            dsimp only
            cases output : slateOutput stamps bundle facts lease.observed admitted.ageUpper with
            | error error => exact ⟨rfl, fun result returned => absurd returned (by simp)⟩
            | ok output =>
              dsimp only
              split
              · exact ⟨rfl, fun result returned eligible => by
                  rw [← Except.ok.inj returned] at eligible
                  simp [alarm] at eligible⟩
              · split
                · exact ⟨rfl, fun result returned eligible => by
                    rw [← Except.ok.inj returned] at eligible
                    simp [clear] at eligible⟩
                · rename_i good
                  refine ⟨rfl, fun result returned eligible => ⟨?_, rfl, ?_⟩⟩
                  · exact not_le.mp (not_or.mp running).2
                  · rw [not_not.mp good]

theorem judge_spec (stamps : Stamps) (bundle : Value) (slot : Slot) (now : Reading) :
    let judged := judge stamps bundle (factsOf bundle) slot now
    Moves stamps bundle slot now judged.1 ∧ ∀ result, judged.2 = .ok result →
      result.eligible = true → ∃ admitted lease, Grounds stamps bundle slot now judged.1 admitted lease := by
  unfold judge
  cases admits : admission stamps bundle (factsOf bundle) slot now with
  | error error => exact ⟨.stays _ rfl, fun result returned => absurd returned (by simp)⟩
  | ok admitted =>
    have admissible := admission_ok admits
    dsimp only
    split
    · cases normalWindow (factsOf bundle) now with
      | error error => exact ⟨.ends _ admitted admissible rfl, fun result returned => absurd returned (by simp)⟩
      | ok window =>
        refine ⟨.ends _ admitted admissible (bounds_stop _ window), fun result returned eligible => ?_⟩
        rw [← Except.ok.inj returned] at eligible
        simp [clear] at eligible
    · cases takes : takeLease (factsOf bundle) slot now admitted with
      | error error => exact ⟨.stays _ rfl, fun result returned => absurd returned (by simp)⟩
      | ok lease =>
        have leased := takeLease_ok takes
        dsimp only
        cases activeWindow (factsOf bundle) lease with
        | error error =>
          exact ⟨.leases _ admitted lease admissible leased rfl, fun result returned => absurd returned (by simp)⟩
        | ok window =>
          dsimp only
          generalize shape : Slot.stop _ window = stopped
          have bounds : stopped.bounds =
              (some admitted.identity, some now.boot, some lease.deadline, some lease.expires) := by
            rw [← shape, bounds_stop]
            rfl
          obtain ⟨kept, defers⟩ := verdict_spec stamps bundle (factsOf bundle) stopped now admitted lease
          have stored := kept.trans bounds
          refine ⟨.leases _ admitted lease admissible leased stored, ?_⟩
          intro result returned eligible
          obtain ⟨running, stopped, slates⟩ := defers result returned eligible
          exact ⟨admitted, lease, admissible, leased, stored, running, stopped, slates⟩

theorem assess_spec (stamps : Stamps) (bundle : Value) (slot : Slot) (now : Reading) :
    let assessed := assess stamps bundle slot now
    Moves stamps bundle slot now assessed.1 ∧ ∀ result, assessed.2 = .ok result →
      result.eligible = true →
        ∃ admitted lease, Grounds stamps bundle slot now assessed.1 admitted lease := by
  unfold assess
  dsimp only
  split
  · refine ⟨.stays _ rfl, fun result returned eligible => ?_⟩
    rw [← Except.ok.inj returned] at eligible
    split_ifs at eligible
    · simp [alarm] at eligible
    · simp [clear] at eligible
  · obtain ⟨moves, defers⟩ := judge_spec stamps bundle slot now
    cases shape : judge stamps bundle (factsOf bundle) slot now with
    | mk after outcome =>
      rw [shape] at moves defers
      cases outcome with
      | ok verdict => exact ⟨moves, defers⟩
      | error error =>
        dsimp only
        split
        · refine ⟨moves, fun result returned eligible => ?_⟩
          rw [← Except.ok.inj returned] at eligible
          simp [alarm] at eligible
        · exact ⟨moves, fun result returned => absurd returned (by simp)⟩

/-- An id that a call defers. -/
def Defers (outcome : Except PyError Applied) (id : String) : Prop :=
  ∃ applied, outcome = .ok applied ∧ id ∈ applied.deferred

theorem Moves.of_bounds {after later : Slot} (moves : Moves stamps bundle slot now after)
    (same : later.bounds = after.bounds) : Moves stamps bundle slot now later := by
  cases moves with
  | stays kept => exact .stays _ (same.trans kept)
  | ends admitted admits moved => exact .ends _ admitted admits (same.trans moved)
  | leases admitted lease admits leased moved =>
    exact .leases _ admitted lease admits leased (same.trans moved)

/-- What a call of `apply` does, and on which grounds it defers. -/
theorem apply_spec (stamps : Stamps) (jstText : ℤ → String) (slot : Slot) (call : ApplyCall) :
    let applied := apply stamps jstText slot call
    Moves stamps call.bundle slot call.now applied.1 ∧ ∀ id, Defers applied.2 id →
      id ∉ call.active ∧
        ∃ admitted lease, Grounds stamps call.bundle slot call.now applied.1 admitted lease := by
  obtain ⟨moves, defers⟩ := assess_spec stamps call.bundle slot call.now
  unfold apply
  cases shape : assess stamps call.bundle slot call.now with
  | mk after outcome =>
    rw [shape] at moves defers
    cases outcome with
    | error error =>
      refine ⟨moves, fun id deferred => ?_⟩
      obtain ⟨applied, returned, -⟩ := deferred
      simp at returned
    | ok verdict =>
      refine ⟨moves.of_bounds (bounds_deferred after _), fun id deferred => ?_⟩
      obtain ⟨applied, returned, member⟩ := deferred
      rw [← Except.ok.inj returned] at member
      change id ∈ deferral verdict.eligible call.items call.active at member
      unfold deferral at member
      split_ifs at member with eligible
      · obtain ⟨admitted, lease, grounds⟩ := defers verdict rfl eligible
        refine ⟨?_, admitted, lease, ?_⟩
        · simpa using (Finset.mem_sdiff.mp member).2
        · exact ⟨grounds.admits, grounds.leased, (bounds_deferred after _).trans grounds.stored,
            grounds.running, grounds.stopped, grounds.slates⟩
      · exact absurd member (Finset.notMem_empty id)

end Calls

/-- The generation that a slot has accepted. -/
def Slot.accepted (slot : Slot) : Option ℤ := slot.identity.map Identity.generation

section Runs

variable {stamps : Stamps} {bundle : Value} {slot after : Slot} {now : Reading} {generation : ℤ}

theorem Slot.generation_of_accepted (accepted : slot.accepted = some generation) :
    slot.generation = generation := by
  unfold Slot.accepted at accepted
  unfold Slot.generation
  rw [accepted]
  rfl

/-- A session that is held at the same generation is the same session. -/
theorem Admissible.same {facts : Value} {admitted : Admitted}
    (admits : Admissible stamps bundle facts slot now admitted)
    (accepted : slot.accepted = some generation)
    (equal : admitted.identity.generation = generation) : slot.same admitted.identity := by
  apply admits.session
  · cases held : slot.identity with
    | none => simp [Slot.accepted, held] at accepted
    | some identity => rfl
  · rw [Slot.generation_of_accepted accepted]
    exact equal

/-- The bounds of a slot, once a generation has been accepted: the generation does not fall, and
within it the deadline is fixed, and under one boot the lease does not grow. -/
theorem Moves.bounded (moves : Moves stamps bundle slot now after)
    (accepted : slot.accepted = some generation) :
    ∃ later, after.accepted = some later ∧ (generation < later ∨ later = generation ∧
      (∀ deadline, slot.deadline = some deadline → after.deadline = some deadline) ∧
      (slot.receiverBoot = some now.boot → after.receiverBoot = some now.boot ∧
        ∀ expires, slot.expiresMono = some expires →
          ∃ shorter, after.expiresMono = some shorter ∧ shorter ≤ expires)) := by
  cases moves with
  | stays same =>
    simp only [Slot.bounds, Prod.mk.injEq] at same
    obtain ⟨identity, boot, deadline, expires⟩ := same
    refine ⟨generation, ?_, .inr ⟨rfl, ?_, ?_⟩⟩
    · rw [Slot.accepted, identity]
      exact accepted
    · exact fun value held => deadline.trans held
    · exact fun held => ⟨boot.trans held, fun value stored => ⟨value, expires.trans stored, le_rfl⟩⟩
  | ends admitted admits moved =>
    simp only [Slot.bounds, Prod.mk.injEq] at moved
    obtain ⟨identity, boot, deadline, expires⟩ := moved
    refine ⟨admitted.identity.generation, ?_, ?_⟩
    · rw [Slot.accepted, identity]
      rfl
    · have older := admits.notOlder
      rw [Slot.generation_of_accepted accepted] at older
      rcases older.lt_or_eq with newer | equal
      · exact .inl newer
      · refine .inr ⟨equal.symm, fun value held => deadline.trans held, fun held => ?_⟩
        exact ⟨boot.trans held, fun value stored => ⟨value, expires.trans stored, le_rfl⟩⟩
  | leases admitted lease admits leased moved =>
    simp only [Slot.bounds, Prod.mk.injEq] at moved
    obtain ⟨identity, boot, deadline, expires⟩ := moved
    refine ⟨admitted.identity.generation, ?_, ?_⟩
    · rw [Slot.accepted, identity]
      rfl
    · have older := admits.notOlder
      rw [Slot.generation_of_accepted accepted] at older
      rcases older.lt_or_eq with newer | equal
      · exact .inl newer
      · have same := admits.same accepted equal.symm
        refine .inr ⟨equal.symm, ?_, ?_⟩
        · intro value held
          rw [deadline, ← leased.unchanged same, held]
        · exact fun held => ⟨boot, fun value stored =>
            ⟨lease.expires, expires, leased.bounded same held value stored⟩⟩

/-- The accepted generation never falls. -/
theorem accepted_grows (stamps : Stamps) (jstText : ℤ → String) (calls : List ApplyCall)
    (slot : Slot) (accepted : slot.accepted = some generation) :
    ∃ reached, (final (apply stamps jstText) slot calls).accepted = some reached ∧
      generation ≤ reached := by
  apply final_kept (fun slot : Slot => ∃ reached, slot.accepted = some reached ∧ generation ≤ reached)
  · rintro slot call ⟨reached, held, above⟩
    obtain ⟨next, later, newer | ⟨same, -⟩⟩ := (apply_spec stamps jstText slot call).1.bounded held
    · exact ⟨next, later, above.trans newer.le⟩
    · exact ⟨next, later, above.trans same.ge⟩
  · exact ⟨generation, accepted, le_rfl⟩

/-- Under one boot the lease of a generation never grows. -/
theorem lease_never_extended (stamps : Stamps) (jstText : ℤ → String) {boot : String} {expires : ℚ}
    (calls : List ApplyCall) (booted : ∀ call ∈ calls, call.now.boot = boot) (slot : Slot)
    (accepted : slot.accepted = some generation) (held : slot.receiverBoot = some boot)
    (stored : slot.expiresMono = some expires) :
    let later := final (apply stamps jstText) slot calls
    ∃ reached, later.accepted = some reached ∧ (generation < reached ∨ reached = generation ∧
      later.receiverBoot = some boot ∧
      ∃ shorter, later.expiresMono = some shorter ∧ shorter ≤ expires) := by
  induction calls generalizing slot expires with
  | nil => exact ⟨generation, accepted, .inr ⟨rfl, held, expires, stored, le_rfl⟩⟩
  | cons call calls inductionHypothesis =>
    rw [final_cons]
    have first := booted call List.mem_cons_self
    obtain ⟨moves, -⟩ := apply_spec stamps jstText slot call
    obtain ⟨reached, next, newer | ⟨same, -, kept⟩⟩ := moves.bounded accepted
    · obtain ⟨last, final, above⟩ := accepted_grows stamps jstText calls _ next
      exact ⟨last, final, .inl (newer.trans_le above)⟩
    · subst same
      rw [first] at kept
      obtain ⟨still, shorter⟩ := kept held
      obtain ⟨bound, lower, below⟩ := shorter expires stored
      obtain ⟨last, final, grown | ⟨equal, there, least, lowest, under⟩⟩ := inductionHypothesis
        (fun other member => booted other (List.mem_cons_of_mem _ member)) _ next still lower
      · exact ⟨last, final, .inl grown⟩
      · exact ⟨last, final, .inr ⟨equal, there, least, lowest, under.trans below⟩⟩

/-- A deadline of a session, fixed once a call has stored it. -/
def Settled (token : ℤ × ℚ) (slot : Slot) : Prop :=
  ∃ reached, slot.accepted = some reached ∧
    (token.1 < reached ∨ reached = token.1 ∧ slot.deadline = some token.2)

theorem settled_step (jstText : ℤ → String) {token : ℤ × ℚ} (settled : Settled token slot)
    (call : ApplyCall) : Settled token (apply stamps jstText slot call).1 := by
  obtain ⟨reached, accepted, newer | ⟨rfl, deadline⟩⟩ := settled
  · obtain ⟨next, later, grown | ⟨rfl, -⟩⟩ :=
      (apply_spec stamps jstText slot call).1.bounded accepted
    · exact ⟨next, later, .inl (newer.trans grown)⟩
    · exact ⟨next, later, .inl newer⟩
  · obtain ⟨next, later, grown | ⟨same, kept, -⟩⟩ :=
      (apply_spec stamps jstText slot call).1.bounded accepted
    · exact ⟨next, later, .inl grown⟩
    · exact ⟨next, later, .inr ⟨same, kept _ deadline⟩⟩

end Runs

/-- What a bundle shows when an id is deferred: fresh facts of the delivery host under the boot that
the bundle observes, no main deployment, two slates that flow, and a lease that is not over. -/
structure Shown (stamps : Stamps) (call : ApplyCall) (after : Slot) (id : String) : Prop where
  fresh : ∃ metadata age, (factsOf call.bundle).getD "observation_time" .none = .ok metadata ∧
    qualify stamps metadata call.now sourceTtl "manual_maintenance" = some age
  host : ∃ host, (factsOf call.bundle).getD "source_host_id" .none = .ok host ∧
    host.isText "delivery-host"
  boot : ∃ state boot current, call.bundle.getD "state" (.dict []) = .ok state ∧
    (factsOf call.bundle).getD "source_boot_id" .none = .ok boot ∧
    state.getD "source_boot_id" .none = .ok current ∧ boot.same current
  main : ∃ main, (factsOf call.bundle).getD "main_status" (.dict []) = .ok main ∧
    main.getD "replicas" .none = .ok (.int 0) ∧ main.getD "active_pods" .none = .ok (.int 0)
  slates : ∃ observed age native,
    slateOutput stamps call.bundle (factsOf call.bundle) observed age = .ok .good ∧
    call.bundle.getD "native_delivery" (.dict []) = .ok native ∧
    Flows native "youtube" ∧ Flows native "twitch"
  lease : ∃ expires, after.expiresMono = some expires ∧ call.now.mono < expires
  inactive : id ∉ call.active

/-- The generation and the deadline that the facts of a bundle report. -/
structure Reports (bundle : Value) (generation : ℤ) (deadline : ℚ) : Prop where
  generation : (factsOf bundle).getD "generation" .none = .ok (.int generation)
  deadline : ∃ value, (factsOf bundle).getD "deadline" .none = .ok value ∧
    value.finite? = .ok (some deadline)

theorem shown_of_defers (stamps : Stamps) (jstText : ℤ → String) (slot : Slot) (call : ApplyCall)
    {id : String} (defers : Defers (apply stamps jstText slot call).2 id) :
    Shown stamps call (apply stamps jstText slot call).1 id ∧ ∃ generation deadline,
      Reports call.bundle generation deadline ∧ slot.generation ≤ generation ∧
      (slot.accepted = some generation → slot.deadline = some deadline) := by
  obtain ⟨inactive, admitted, lease, grounds⟩ := (apply_spec stamps jstText slot call).2 id defers
  obtain ⟨metadata, timed, fresh⟩ := grounds.admits.fresh
  obtain ⟨native, present, flows⟩ := slateOutput_good grounds.slates
  have stored := grounds.stored
  simp only [Slot.bounds, Prod.mk.injEq] at stored
  constructor
  · exact ⟨⟨metadata, _, timed, fresh⟩, grounds.admits.host, grounds.admits.boot,
      mainStopped_ok grounds.stopped, ⟨_, _, native, grounds.slates, present, flows⟩,
      ⟨lease.expires, stored.2.2.2, grounds.running⟩, inactive⟩
  · refine ⟨admitted.identity.generation, lease.deadline,
      ⟨grounds.admits.generation, grounds.leased.deadline⟩, grounds.admits.notOlder, ?_⟩
    intro accepted
    exact grounds.leased.unchanged (grounds.admits.same accepted rfl)

end LiveStream.Notify.ManualMaintenance
