import LiveStream.Relay.Guard

/-! Runs of the guards of a relay: forwarding is bound to a lease that holds, and a stop is final. -/

namespace LiveStream.Relay

open LiveStream.Support

universe u

variable {δ : Type u}

/-! ### What a tick does -/

/-- What no tick touches. -/
structure Frame (guard after : Guard δ) : Prop where
  config : after.config = guard.config
  relayInstance : after.relayInstance = guard.relayInstance
  highwater : after.highwater = guard.highwater
  lease : after.lease = guard.lease

theorem Frame.trans {first second third : Guard δ} (left : Frame first second) (right : Frame second third) :
    Frame first third :=
  ⟨right.config.trans left.config, right.relayInstance.trans left.relayInstance,
    right.highwater.trans left.highwater, right.lease.trans left.lease⟩

/-- A tick that does not begin the forwarding: it halts the guard, goes on, or takes Twitch out. -/
inductive Watches (guard : Guard δ) : Ticked δ → Prop where
  | halts (after : Guard δ) (frame : Frame guard after) (halted : after.halted = true)
      (off : after.enabled = false) : Watches guard ⟨after, [], false⟩
  | goes (after : Guard δ) (frame : Frame guard after) (halted : after.halted = guard.halted)
      (enabled : after.enabled = guard.enabled) (twitch : after.twitchDisabled = guard.twitchDisabled)
      (raised : Bool) : Watches guard ⟨after, [], raised⟩
  | removes (after : Guard δ) (frame : Frame guard after) (halted : after.halted = guard.halted)
      (on : guard.enabled = true) (enabled : after.enabled = true) (present : guard.twitchDisabled = false)
      (raised : Bool) (removed : raised = false → after.twitchDisabled = true) :
      Watches guard ⟨after, [guard.config.destinations.take 1], raised⟩

/-- The lease permits to forward, by both looks of a tick at the clocks. -/
structure Permits (guard : Guard δ) (readings : Readings) : Prop where
  halted : guard.halted = false
  enabled : guard.enabled = false
  lease : ∃ lease, guard.lease = some lease ∧ lease.valid readings.leaseWall readings.now = true ∧
    lease.valid readings.forwardWall readings.forwardElapsed = true

/-- The input that a tick has seen when it begins to forward. -/
structure Began (readings : Readings) (after : Guard δ) : Prop where
  bytes : 0 < after.lastBytes
  fresh : readings.now - after.lastProgress < 2

/-- A tick: as above, or it patches the full list of destinations, and then looks at the forwarding
unless that raised. -/
inductive Ticks (guard : Guard δ) (readings : Readings) : Ticked δ → Prop where
  | plain (ticked : Ticked δ) (watches : Watches guard ticked) : Ticks guard readings ticked
  | fails (permits : Permits guard readings) (after : Guard δ) (frame : Frame guard after)
      (halted : after.halted = false) (enabled : after.enabled = false) (began : Began readings after) :
      Ticks guard readings ⟨after, [guard.config.destinations], true⟩
  | forwards (permits : Permits guard readings) (start : Guard δ) (frame : Frame guard start)
      (halted : start.halted = false) (enabled : start.enabled = true)
      (twitch : start.twitchDisabled = guard.twitchDisabled) (ticked : Ticked δ)
      (watches : Watches start ticked) (began : Began readings ticked.guard) :
      Ticks guard readings { ticked with patches := guard.config.destinations :: ticked.patches }

variable {guard : Guard δ} {readings : Readings}

theorem halt_watches (reason : String) (origin : Guard δ) (frame : Frame origin guard) :
    Watches origin (guard.halt readings reason) :=
  .halts _ ⟨frame.config, frame.relayInstance, frame.highwater, frame.lease⟩ rfl rfl

theorem watch_watches (on : guard.enabled = true) : Watches guard (guard.watch readings) := by
  have frame : Frame guard guard := ⟨rfl, rfl, rfl, rfl⟩
  unfold Guard.watch
  split
  · exact .goes guard frame rfl rfl rfl true
  · split
    · exact halt_watches _ guard frame
    · split
      · exact .goes guard frame rfl rfl rfl true
      · rename_i rows _
        have projected : Frame guard { guard with projection := rows } := ⟨rfl, rfl, rfl, rfl⟩
        have removed : Frame guard { guard with projection := rows, twitchDisabled := true } :=
          ⟨rfl, rfl, rfl, rfl⟩
        dsimp only
        split
        · exact halt_watches _ guard ⟨rfl, rfl, rfl, rfl⟩
        · split
          · rename_i removing
            have present : guard.twitchDisabled = false := by
              have first := (Bool.and_eq_true_iff.mp removing).1
              rwa [Bool.not_eq_true'] at first
            split
            · exact .removes _ removed rfl on on present false fun _ => rfl
            · exact .removes _ projected rfl on on present true (by rintro ⟨⟩)
          · exact .goes _ projected rfl rfl rfl false

/-- The look at the input changes what is known of the input only. -/
theorem input_frame {after : Guard δ} {online : Bool} (seen : guard.input readings = .seen after online) :
    Frame guard after ∧ after.halted = guard.halted ∧ after.enabled = guard.enabled ∧
      after.twitchDisabled = guard.twitchDisabled := by
  unfold Guard.input at seen
  split at seen
  · cases seen
  · split at seen
    · split at seen
      · cases seen
      · split at seen
        · cases seen
          exact ⟨⟨rfl, rfl, rfl, rfl⟩, rfl, rfl, rfl⟩
        · split at seen
          · split at seen
            · cases seen
            · split at seen
              · cases seen
                exact ⟨⟨rfl, rfl, rfl, rfl⟩, rfl, rfl, rfl⟩
              · cases seen
                exact ⟨⟨rfl, rfl, rfl, rfl⟩, rfl, rfl, rfl⟩
          · cases seen
    · cases seen
      exact ⟨⟨rfl, rfl, rfl, rfl⟩, rfl, rfl, rfl⟩

/-- What a later look of the same tick does is done from where the tick began. -/
theorem Watches.since {origin : Guard δ} {ticked : Ticked δ} (frame : Frame origin guard)
    (halted : guard.halted = origin.halted) (enabled : guard.enabled = origin.enabled)
    (twitch : guard.twitchDisabled = origin.twitchDisabled) (watches : Watches guard ticked) :
    Watches origin ticked := by
  cases watches with
  | halts after inner stopped off => exact .halts after (frame.trans inner) stopped off
  | goes after inner same on kept raised =>
    exact .goes after (frame.trans inner) (same.trans halted) (on.trans enabled) (kept.trans twitch) raised
  | removes after inner same on kept present raised removed =>
    rw [frame.config]
    exact .removes after (frame.trans inner) (same.trans halted) (enabled.symm.trans on) kept
      (twitch.symm.trans present) raised removed

/-- No tick touches the lease or its database. -/
theorem Watches.frame {ticked : Ticked δ} (watches : Watches guard ticked) : Frame guard ticked.guard := by
  cases watches with
  | halts after frame halted off => exact frame
  | goes after frame halted enabled twitch raised => exact frame
  | removes after frame halted on enabled present raised removed => exact frame

theorem watch_input : (guard.watch readings).guard.lastBytes = guard.lastBytes ∧
    (guard.watch readings).guard.lastProgress = guard.lastProgress := by
  unfold Guard.watch
  split
  · exact ⟨rfl, rfl⟩
  · split
    · exact ⟨rfl, rfl⟩
    · split
      · exact ⟨rfl, rfl⟩
      · dsimp only
        split
        · exact ⟨rfl, rfl⟩
        · split
          · split
            · exact ⟨rfl, rfl⟩
            · exact ⟨rfl, rfl⟩
          · exact ⟨rfl, rfl⟩

theorem permit_ticks {origin : Guard δ} {online : Bool} (frame : Frame origin guard)
    (halted : guard.halted = origin.halted) (enabled : guard.enabled = origin.enabled)
    (twitch : guard.twitchDisabled = origin.twitchDisabled) (up : origin.halted = false)
    (live : ∀ lease, origin.lease = some lease → lease.valid readings.leaseWall readings.now = true) :
    Ticks origin readings (guard.permit readings online) := by
  unfold Guard.permit
  split
  · exact .plain _ (halt_watches _ origin frame)
  · split
    · rename_i on
      exact .plain _ ((watch_watches on).since frame halted enabled twitch)
    · rename_i off _
      exact .plain _ (.goes guard frame halted enabled twitch false)
    · rename_i lease off held
      split
      · rename_i seen
        split
        · exact .plain _ (halt_watches _ origin frame)
        · rename_i valid
          have permits : Permits origin readings := by
            have same := frame.lease.symm.trans held
            exact ⟨up, enabled.symm.trans off, lease, same, live lease same, not_not.mp valid⟩
          have list : guard.config.destinations = origin.config.destinations := by rw [frame.config]
          have started : Frame origin { guard with
              enabled := true, reason := "FORWARDING", twitchFirstAttempt := some readings.firstAttempt } :=
            frame.trans ⟨rfl, rfl, rfl, rfl⟩
          dsimp only
          rw [list]
          split
          · refine .forwards permits _ started (halted.trans up) rfl twitch _ (watch_watches rfl) ⟨?_, ?_⟩
            · rw [watch_input.1]
              exact seen.2.1
            · rw [watch_input.2]
              exact seen.2.2
          · exact .fails permits guard frame (halted.trans up) off ⟨seen.2.1, seen.2.2⟩
      · exact .plain _ (.goes guard frame halted enabled twitch false)

theorem tick_ticks (off : guard.halted = true → guard.enabled = false) :
    Ticks guard readings (guard.tick readings) := by
  have frame : Frame guard guard := ⟨rfl, rfl, rfl, rfl⟩
  unfold Guard.tick
  split
  · rename_i halted
    exact .plain _ (.halts guard frame halted (off halted))
  · rename_i running
    have up : guard.halted = false := Bool.eq_false_iff.mpr running
    have timed : Frame guard { guard with lastWall := readings.wall, lastElapsed := readings.now } :=
      ⟨rfl, rfl, rfl, rfl⟩
    split
    · exact .plain _ (halt_watches _ guard frame)
    · split
      · exact .plain _ (halt_watches _ guard frame)
      · dsimp only
        split
        · exact .plain _ (halt_watches _ guard timed)
        · split
          · exact .plain _ (halt_watches _ guard timed)
          · split
            · exact .plain _ (halt_watches _ guard timed)
            · rename_i valid
              split
              · exact .plain _ (.goes _ timed rfl rfl rfl true)
              · exact .plain _ (halt_watches _ guard timed)
              · rename_i after online seen
                obtain ⟨inner, halted, enabled, twitch⟩ := input_frame seen
                refine permit_ticks (timed.trans inner) halted enabled twitch up fun lease held => ?_
                simp only [held, Option.any_some, Bool.not_eq_true, decide_eq_true_eq] at valid
                exact Bool.not_eq_false _ ▸ valid

theorem tick_frame (off : guard.halted = true → guard.enabled = false) :
    Frame guard (guard.tick readings).guard := by
  have ticks : Ticks guard readings (guard.tick readings) := tick_ticks off
  generalize guard.tick readings = ticked at ticks ⊢
  cases ticks with
  | plain _ watches => exact watches.frame
  | fails permits after frame halted enabled began => exact frame
  | forwards permits start frame halted enabled twitch ticked watches began => exact frame.trans watches.frame

/-- The forwarding stays on, or is turned on, only on a fresh input. -/
theorem permit_fresh {online : Bool} : (guard.permit readings online).guard.enabled = true →
    readings.now - (guard.permit readings online).guard.lastProgress ≤ 4 := by
  unfold Guard.permit
  split
  · rintro ⟨⟩
  · rename_i kept
    split
    · rename_i on
      rw [watch_input.2]
      exact fun _ => not_lt.mp fun stale => kept ⟨on, Or.inr stale⟩
    · rename_i off _
      exact fun enabled => by cases off.symm.trans enabled
    · rename_i lease off held
      split
      · rename_i fresh
        split
        · rintro ⟨⟩
        · dsimp only
          split
          · rw [watch_input.2]
            exact fun _ => by linarith [fresh.2.2]
          · exact fun enabled => by cases off.symm.trans enabled
      · exact fun enabled => by cases off.symm.trans enabled

/-- What a tick has seen that returns and leaves the forwarding on. -/
structure Forwarding (guard : Guard δ) (readings : Readings) (after : Guard δ) : Prop where
  up : guard.halted = false
  running : guard.running = true ∧ readings.running = true
  clock : guard.lastWall ≤ readings.wall ∧
    |(readings.wall - guard.lastWall) - (readings.now - guard.lastElapsed)| ≤ 2
  grant : guard.config.continuous = false → readings.now < guard.grantElapsedDeadline ∧
    readings.wall < guard.config.grant.grantExpiresAt
  lease : ∀ lease, guard.lease = some lease → lease.valid readings.leaseWall readings.now = true
  fresh : readings.now - after.lastProgress ≤ 4

theorem tick_forwarding (off : guard.halted = true → guard.enabled = false) :
    (guard.tick readings).guard.enabled = true → (guard.tick readings).raised = false →
      Forwarding guard readings (guard.tick readings).guard := by
  unfold Guard.tick
  split
  · rename_i halted
    exact fun enabled => by cases (off halted).symm.trans enabled
  · rename_i up
    split
    · rintro ⟨⟩
    · rename_i running
      split
      · rintro ⟨⟩
      · rename_i clock
        dsimp only
        split
        · rintro ⟨⟩
        · rename_i elapsed
          split
          · rintro ⟨⟩
          · rename_i expiry
            split
            · rintro ⟨⟩
            · rename_i valid
              split
              · exact fun _ => by rintro ⟨⟩
              · rintro ⟨⟩
              · rename_i after online seen
                intro enabled _
                exact
                  { up := Bool.eq_false_iff.mpr up
                    running := not_not.mp running
                    clock := by
                      obtain ⟨behind, apart⟩ := not_or.mp clock
                      exact ⟨not_lt.mp behind, not_lt.mp apart⟩
                    grant := fun finite => by
                      rw [finite] at elapsed expiry
                      exact ⟨not_le.mp fun late => elapsed ⟨by rintro ⟨⟩, late⟩,
                        not_le.mp fun late => expiry ⟨by rintro ⟨⟩, late⟩⟩
                    lease := fun lease held => by
                      simp only [held, Option.any_some, Bool.not_eq_true, decide_eq_true_eq] at valid
                      exact Bool.not_eq_false _ ▸ valid
                    fresh := permit_fresh enabled }

/-! ### What holds of a process -/

/-- The lists that were patched so far: none, the full one, or then one without Twitch. -/
def Patched (destinations : List δ) (patches : List (List δ)) : Prop :=
  patches = [] ∨ patches = [destinations] ∨ patches = [destinations, destinations.take 1]

variable (sign : Fields → Option String)

structure Process.Fits (process : Process δ) : Prop where
  lease : process.guard.lease = process.leases.getLast?.map Admission.lease
  below : ∀ admission ∈ process.leases, admission.lease.body.sequence ≤ process.guard.highwater
  chain : (process.leases.map Admission.lease).Pairwise Follows
  admitted : ∀ admission ∈ process.leases,
    Admitted sign admission.raw admission.signature process.guard.relayInstance admission.wall
      admission.elapsed process.guard.config.continuous admission.lease ∧
    process.guard.granted admission.raw = true
  off : process.guard.halted = true → process.guard.enabled = false
  patched : Patched process.guard.config.destinations process.patches
  idle : process.raised = false → process.guard.halted = false → process.guard.enabled = false →
    process.patches = []
  whole : process.raised = false → process.guard.enabled = true → process.guard.twitchDisabled = false →
    process.patches = [process.guard.config.destinations]
  leased : process.guard.enabled = true → process.guard.lease.isSome = true

variable {sign} {process : Process δ} {world : World δ}

theorem init_fits (config : Config δ) (relayInstance : String) (highwater : Int) (wall elapsed : ℚ) :
    Process.Fits sign ⟨Guard.init config relayInstance highwater wall elapsed, false, [], []⟩ where
  lease := rfl
  below := by simp
  chain := List.Pairwise.nil
  admitted := by simp
  off := by rintro ⟨⟩
  patched := Or.inl rfl
  idle := fun _ _ _ => rfl
  whole := fun _ => by rintro ⟨⟩
  leased := by rintro ⟨⟩

theorem stop_fits (fits : process.Fits sign) (reason : String) (ended raised : Bool) :
    Process.Fits sign { process with guard := process.guard.stop reason ended, raised := raised } where
  lease := fits.lease
  below := fits.below
  chain := fits.chain
  admitted := fits.admitted
  off := fun _ => rfl
  patched := fits.patched
  idle := fun _ => by rintro ⟨⟩
  whole := fun _ => by rintro ⟨⟩
  leased := by rintro ⟨⟩

theorem granted_congr {after : Guard δ} (frame : Frame guard after) (raw : Fields) :
    after.granted raw = guard.granted raw := by
  simp only [Guard.granted, frame.config]

/-- After a tick the static part holds as before; the patches are what is left to show. -/
theorem Process.Fits.ticked (fits : process.Fits sign) {after : Guard δ} {patches : List (List δ)} {raised : Bool}
    (frame : Frame process.guard after) (off : after.halted = true → after.enabled = false)
    (patched : Patched process.guard.config.destinations (process.patches ++ patches))
    (idle : raised = false → after.halted = false → after.enabled = false → process.patches ++ patches = [])
    (whole : raised = false → after.enabled = true → after.twitchDisabled = false →
      process.patches ++ patches = [process.guard.config.destinations])
    (leased : after.enabled = true → process.guard.lease.isSome = true) :
    Process.Fits sign { process with
      guard := after, raised := raised, patches := process.patches ++ patches } where
  lease := frame.lease.trans fits.lease
  below := fun admission member => by
    rw [frame.highwater]
    exact fits.below admission member
  chain := fits.chain
  admitted := fun admission member => by
    rw [frame.config, frame.relayInstance, granted_congr frame]
    exact fits.admitted admission member
  off := off
  patched := by
    rw [frame.config]
    exact patched
  idle := idle
  whole := fun kept on present => by
    rw [frame.config]
    exact whole kept on present
  leased := fun on => by
    rw [frame.lease]
    exact leased on

/-- A tick of a process whose guard is up to date. -/
theorem tick_fits (fits : process.Fits sign) (settled : process.raised = false) (readings : Readings) :
    Process.Fits sign { process with
      guard := (process.guard.tick readings).guard
      raised := (process.guard.tick readings).raised
      patches := process.patches ++ (process.guard.tick readings).patches } := by
  have ticks : Ticks process.guard readings (process.guard.tick readings) := tick_ticks fits.off
  generalize process.guard.tick readings = ticked at ticks ⊢
  cases ticks with
  | plain _ watches =>
    cases watches with
    | halts after frame halted off =>
      refine fits.ticked frame (fun _ => off) ?_ ?_ ?_ ?_
      · rw [List.append_nil]
        exact fits.patched
      · exact fun _ up => by cases halted.symm.trans up
      · exact fun _ on => by cases off.symm.trans on
      · exact fun on => by cases off.symm.trans on
    | goes after frame halted enabled twitch raised =>
      refine fits.ticked frame ?_ ?_ ?_ ?_ ?_
      · rw [halted, enabled]
        exact fits.off
      · rw [List.append_nil]
        exact fits.patched
      · rw [List.append_nil, halted, enabled]
        exact fun _ => fits.idle settled
      · rw [List.append_nil, enabled, twitch]
        exact fun _ => fits.whole settled
      · rw [enabled]
        exact fits.leased
    | removes after frame halted on enabled present raised removed =>
      have whole := fits.whole settled on present
      refine fits.ticked frame ?_ ?_ ?_ ?_ fun _ => fits.leased on
      · rw [halted]
        exact fun stopped => by cases (fits.off stopped).symm.trans on
      · rw [whole]
        exact Or.inr (Or.inr rfl)
      · exact fun _ _ off => by cases enabled.symm.trans off
      · exact fun returned _ kept => by cases (removed returned).symm.trans kept
  | fails permits after frame halted enabled _ =>
    have none := fits.idle settled permits.halted permits.enabled
    refine fits.ticked frame ?_ ?_ ?_ ?_ ?_
    · exact fun stopped => by cases halted.symm.trans stopped
    · rw [none]
      exact Or.inr (Or.inl rfl)
    · rintro ⟨⟩
    · rintro ⟨⟩
    · exact fun on => by cases enabled.symm.trans on
  | forwards permits start frame halted enabled twitch ticked watches _ =>
    have none := fits.idle settled permits.halted permits.enabled
    obtain ⟨lease, held, _⟩ := permits.lease
    have leased : process.guard.lease.isSome = true := by
      rw [held]
      rfl
    dsimp only
    cases watches with
    | halts after inner stopped off =>
      refine fits.ticked (frame.trans inner) (fun _ => off) ?_ ?_ ?_ fun _ => leased
      · rw [none]
        exact Or.inr (Or.inl rfl)
      · exact fun _ up => by cases stopped.symm.trans up
      · exact fun _ on => by cases off.symm.trans on
    | goes after inner same on kept raised =>
      refine fits.ticked (frame.trans inner) ?_ ?_ ?_ ?_ fun _ => leased
      · exact fun stopped => by cases (halted.symm.trans (same.symm.trans stopped))
      · rw [none]
        exact Or.inr (Or.inl rfl)
      · exact fun _ _ off => by cases (enabled.symm.trans (on.symm.trans off))
      · rw [none]
        exact fun _ _ _ => rfl
    | removes after inner same on kept present raised removed =>
      refine fits.ticked (frame.trans inner) ?_ ?_ ?_ ?_ fun _ => leased
      · exact fun stopped => by cases (halted.symm.trans (same.symm.trans stopped))
      · rw [none, frame.config]
        exact Or.inr (Or.inr rfl)
      · exact fun _ _ off => by cases kept.symm.trans off
      · exact fun returned _ still => by cases (removed returned).symm.trans still

/-! ### What holds of the guards over one database -/

theorem chain_snoc {leases : List Admission} {admission : Admission}
    (chain : (leases.map Admission.lease).Pairwise Follows)
    (goes : ∀ last ∈ leases.getLast?, Follows last.lease admission.lease) :
    ((leases ++ [admission]).map Admission.lease).Pairwise Follows := by
  rw [List.map_append, List.pairwise_append]
  refine ⟨chain, List.pairwise_singleton _ _, ?_⟩
  rintro lease member _ (_ | ⟨_, ⟨⟩⟩)
  obtain ⟨front, last, rfl⟩ := (List.eq_nil_or_concat' leases).resolve_left (by rintro rfl; cases member)
  have follows : Follows last.lease admission.lease := goes last (by simp)
  rw [List.map_append, List.pairwise_append] at chain
  rw [List.map_append] at member
  rcases List.mem_append.mp member with early | final
  · exact (chain.2.2 lease early last.lease (List.mem_singleton_self _)).trans follows
  · rw [List.mem_singleton.mp final]
    exact follows

theorem admits_ok {raw : Fields} {signature : Value} {wall elapsed : ℚ} {lease : Lease}
    (accepted : guard.admits sign raw signature wall elapsed = .ok lease) :
    guard.halted = false ∧ guard.granted raw = true ∧
      admitLease sign raw signature guard.relayInstance guard.highwater wall elapsed guard.lease
        guard.config.continuous = .ok lease := by
  unfold Guard.admits at accepted
  split at accepted
  · cases accepted
  · rename_i up
    split at accepted
    · cases accepted
    · rename_i granted
      exact ⟨Bool.eq_false_iff.mpr up, not_not.mp granted, accepted⟩

structure World.Sound (sign : Fields → Option String) (world : World δ) : Prop where
  ordered : (world.admissions.map fun admission => admission.lease.body.sequence).Pairwise (· < ·)
  below : ∀ admission ∈ world.admissions, admission.lease.body.sequence ≤ world.highwater
  process : ∀ process, world.process = some process → process.Fits sign ∧
    process.guard.highwater ≤ world.highwater ∧ process.leases <:+ world.admissions ∧
    ∀ admission ∈ world.admissions, admission.lease.body.sequence ≤ process.guard.highwater

theorem empty_sound : World.Sound sign (World.empty : World δ) :=
  ⟨List.Pairwise.nil, by simp [World.empty], by simp [World.empty]⟩

/-- Steps that admit nothing. -/
theorem World.Sound.put (sound : world.Sound sign) (present : world.process = some process)
    {after : Process δ} (fits : after.Fits sign) (highwater : after.guard.highwater = process.guard.highwater)
    (leases : after.leases = process.leases) : World.Sound sign { world with process := some after } := by
  refine ⟨sound.ordered, sound.below, fun other same => ?_⟩
  obtain rfl := Option.some.inj same
  obtain ⟨_, within, part, above⟩ := sound.process process present
  rw [highwater, leases]
  exact ⟨fits, within, part, above⟩

theorem World.Sound.accept (sound : world.Sound sign) (present : world.process = some process)
    (raw : Fields) (signature : Value) (wall elapsed : ℚ) (save : Save) :
    (world.accept sign process raw signature wall elapsed save).Sound sign := by
  unfold World.accept
  split
  · exact sound
  · rename_i lease accepted
    obtain ⟨up, granted, admitted⟩ := admits_ok accepted
    obtain ⟨own, fresh, goes⟩ := admit_ok admitted
    obtain ⟨fits, within, part, above⟩ := sound.process process present
    split
    · exact sound
    · refine ⟨sound.ordered, fun admission member => (above admission member).trans fresh.le, fun other same => ?_⟩
      obtain rfl := Option.some.inj (present.symm.trans same)
      exact ⟨fits, fresh.le, part, above⟩
    · have follows : ∀ last ∈ process.leases.getLast?, Follows last.lease lease := by
        intro last final
        have held : process.guard.lease = some last.lease := by
          rw [fits.lease, Option.mem_def.mp final]
          rfl
        exact goes last.lease held (fits.below last (List.mem_of_getLast? final))
      refine ⟨?_, fun admission member => ?_, fun other same => ?_⟩
      · rw [List.map_append, List.pairwise_append]
        refine ⟨sound.ordered, List.pairwise_singleton _ _, ?_⟩
        rintro sequence member _ (_ | ⟨_, ⟨⟩⟩)
        obtain ⟨admission, former, rfl⟩ := List.mem_map.mp member
        exact (above admission former).trans_lt fresh
      · rcases List.mem_append.mp member with former | new
        · exact (above admission former).trans fresh.le
        · rw [List.mem_singleton.mp new]
      · obtain rfl := Option.some.inj same
        refine ⟨?_, le_refl _, ?_, fun admission member => ?_⟩
        · exact
            { lease := by simp
              below := fun admission member => by
                rcases List.mem_append.mp member with former | new
                · exact (fits.below admission former).trans fresh.le
                · rw [List.mem_singleton.mp new]
              chain := chain_snoc fits.chain follows
              admitted := fun admission member => by
                rcases List.mem_append.mp member with former | new
                · exact fits.admitted admission former
                · rw [List.mem_singleton.mp new]
                  exact ⟨own, granted⟩
              off := fits.off
              patched := fits.patched
              idle := fits.idle
              whole := fits.whole
              leased := fun _ => rfl }
        · obtain ⟨front, same⟩ := part
          exact ⟨front, (List.append_assoc front process.leases _).symm.trans (congrArg (· ++ _) same)⟩
        · rcases List.mem_append.mp member with former | new
          · exact (above admission former).trans fresh.le
          · rw [List.mem_singleton.mp new]

theorem World.Sound.step (sound : world.Sound sign) (event : Event δ) : (world.step sign event).Sound sign := by
  unfold World.step
  split
  · rename_i process present
    have fits := (sound.process process present).1
    cases event with
    | boot config relayInstance wall elapsed => exact sound
    | accept raw signature wall elapsed save => exact sound.accept present raw signature wall elapsed save
    | stop ended => exact sound.put present (stop_fits fits _ ended process.raised) rfl rfl
    | tick readings =>
      unfold World.act
      dsimp only
      split
      · exact sound
      · rename_i settled
        have settled : process.raised = false := Bool.eq_false_iff.mpr settled
        exact sound.put present (tick_fits fits settled readings) (tick_frame fits.off).highwater rfl
    | recover error ended =>
      unfold World.act
      dsimp only
      split
      · exact sound.put present (stop_fits fits _ ended false) rfl rfl
      · exact sound
    | exit => exact ⟨sound.ordered, sound.below, fun _ => by rintro ⟨⟩⟩
  · split
    · rename_i config relayInstance wall elapsed
      refine ⟨sound.ordered, sound.below, fun other same => ?_⟩
      obtain rfl := Option.some.inj same
      exact ⟨init_fits config relayInstance _ wall elapsed, le_refl _, List.nil_suffix, sound.below⟩
    · exact sound

theorem run_sound (events : List (Event δ)) : (World.run sign events).Sound sign := by
  induction events using List.reverseRecOn with
  | nil => exact empty_sound
  | append_singleton events event ih =>
    unfold World.run
    rw [List.foldl_append]
    exact ih.step event

/-! ### What a step may do -/

/-- A step of a running guard: a halted one stays as it is, the first patch is made by a tick on a lease
that holds and whose sequence is saved, on an input that moves, and a tick that returns with the
forwarding on has seen all its conditions. -/
structure Lawful (world : World δ) (event : Event δ) (process after : Process δ) : Prop where
  final : process.guard.halted = true → after.guard.halted = true ∧ after.guard.enabled = false ∧
    after.leases = process.leases ∧ after.patches = process.patches
  first : process.patches = [] → after.patches ≠ [] → ∃ readings lease, event = .tick readings ∧
    Permits process.guard readings ∧ Began readings after.guard ∧ process.guard.lease = some lease ∧
    lease.body.sequence ≤ world.highwater
  forwarding : ∀ readings, event = .tick readings → process.raised = false → after.raised = false →
    after.guard.enabled = true → Forwarding process.guard readings after.guard

/-- A step that changes nothing but the guard's own stop. -/
theorem lawful_quiet {event : Event δ} {after : Process δ} (halts : process.guard.halted = true →
    after.guard.halted = true ∧ after.guard.enabled = false ∧ after.leases = process.leases)
    (patches : after.patches = process.patches) (other : ∀ readings, event ≠ .tick readings) :
    Lawful world event process after where
  final := fun halted => by
    obtain ⟨stopped, off, leases⟩ := halts halted
    exact ⟨stopped, off, leases, patches⟩
  first := fun none some => absurd (patches.trans none) some
  forwarding := fun readings same => absurd same (other readings)

theorem tick_lawful (fits : process.Fits sign) (within : process.guard.highwater ≤ world.highwater)
    (settled : process.raised = false) (readings : Readings) :
    Lawful world (.tick readings) process { process with
      guard := (process.guard.tick readings).guard
      raised := (process.guard.tick readings).raised
      patches := process.patches ++ (process.guard.tick readings).patches } where
  final := fun halted => by
    have same : process.guard.tick readings = ⟨process.guard, [], false⟩ := by
      unfold Guard.tick
      rw [if_pos halted]
    rw [same]
    exact ⟨halted, fits.off halted, rfl, List.append_nil _⟩
  first := fun none some => by
    have ticks : Ticks process.guard readings (process.guard.tick readings) := tick_ticks fits.off
    rw [none] at some
    have saved : ∀ lease, process.guard.lease = .some lease → lease.body.sequence ≤ world.highwater := by
      intro lease held
      rw [fits.lease] at held
      obtain ⟨last, final, rfl⟩ := Option.map_eq_some_iff.mp held
      exact (fits.below last (List.mem_of_getLast? final)).trans within
    generalize process.guard.tick readings = ticked at ticks some ⊢
    cases ticks with
    | plain _ watches =>
      cases watches with
      | halts after frame halted off => exact absurd rfl some
      | goes after frame halted enabled twitch raised => exact absurd rfl some
      | removes after frame halted on enabled present raised removed =>
        cases none.symm.trans (fits.whole settled on present)
    | fails permits after frame halted enabled began =>
      obtain ⟨lease, held, _⟩ := permits.lease
      exact ⟨readings, lease, rfl, permits, began, held, saved lease held⟩
    | forwards permits start frame halted enabled twitch ticked watches began =>
      obtain ⟨lease, held, _⟩ := permits.lease
      exact ⟨readings, lease, rfl, permits, began, held, saved lease held⟩
  forwarding := by
    rintro _ ⟨⟩ _ returned enabled
    exact tick_forwarding fits.off enabled returned

theorem step_lawful (sound : world.Sound sign) (present : world.process = some process) (event : Event δ)
    {after : Process δ} (stepped : (world.step sign event).process = some after) :
    Lawful world event process after := by
  obtain ⟨fits, within, _, _⟩ := sound.process process present
  unfold World.step at stepped
  rw [present] at stepped
  have same : ∀ {other : Process δ}, world.process = some other → other = process := fun found =>
    Option.some.inj (found.symm.trans present)
  cases event with
  | boot config relayInstance wall elapsed =>
    obtain rfl := same stepped
    exact lawful_quiet (fun halted => ⟨halted, fits.off halted, rfl⟩) rfl (by rintro _ ⟨⟩)
  | accept raw signature wall elapsed save =>
    dsimp only [World.act] at stepped
    unfold World.accept at stepped
    split at stepped
    · obtain rfl := same stepped
      exact lawful_quiet (fun halted => ⟨halted, fits.off halted, rfl⟩) rfl (by rintro _ ⟨⟩)
    · rename_i lease accepted
      have up := (admits_ok accepted).1
      split at stepped
      · obtain rfl := same stepped
        exact lawful_quiet (fun halted => ⟨halted, fits.off halted, rfl⟩) rfl (by rintro _ ⟨⟩)
      · obtain rfl := same stepped
        exact lawful_quiet (fun halted => ⟨halted, fits.off halted, rfl⟩) rfl (by rintro _ ⟨⟩)
      · obtain rfl := Option.some.inj stepped
        exact lawful_quiet (fun halted => by cases up.symm.trans halted) rfl (by rintro _ ⟨⟩)
  | stop ended =>
    obtain rfl := Option.some.inj stepped
    exact lawful_quiet (fun _ => ⟨rfl, rfl, rfl⟩) rfl (by rintro _ ⟨⟩)
  | tick readings =>
    dsimp only [World.act] at stepped
    split at stepped
    · rename_i raised
      obtain rfl := same stepped
      exact
        { final := fun halted => ⟨halted, fits.off halted, rfl, rfl⟩
          first := fun none some => absurd none some
          forwarding := fun _ _ settled => by cases raised.symm.trans settled }
    · rename_i settled
      obtain rfl := Option.some.inj stepped
      exact tick_lawful fits within (Bool.eq_false_iff.mpr settled) readings
  | recover error ended =>
    dsimp only [World.act] at stepped
    split at stepped
    · obtain rfl := Option.some.inj stepped
      exact lawful_quiet (fun _ => ⟨rfl, rfl, rfl⟩) rfl (by rintro _ ⟨⟩)
    · obtain rfl := same stepped
      exact lawful_quiet (fun halted => ⟨halted, fits.off halted, rfl⟩) rfl (by rintro _ ⟨⟩)
  | exit => cases stepped

/-- Over any run of the guards of one relay, with any answers of the control API and any clocks: the
sequences that were admitted rise, over restarts too; what a guard holds is signed for it, granted, short
and goes on with the leases before; it patched nothing, the full list, or then the list without Twitch;
and each further step is lawful. -/
theorem forwarding_bound_to_lease (sign : Fields → Option String) (events : List (Event δ)) (event : Event δ) :
    let world := World.run sign events
    (world.admissions.map fun admission => admission.lease.body.sequence).Pairwise (· < ·) ∧
    ∀ process, world.process = some process →
      process.leases <:+ world.admissions ∧ (process.leases.map Admission.lease).Pairwise Follows ∧
      (∀ admission ∈ process.leases,
        Admitted sign admission.raw admission.signature process.guard.relayInstance admission.wall
          admission.elapsed process.guard.config.continuous admission.lease ∧
        process.guard.granted admission.raw = true ∧ admission.lease.body.sequence ≤ world.highwater) ∧
      process.guard.lease = process.leases.getLast?.map Admission.lease ∧
      Patched process.guard.config.destinations process.patches ∧
      ∀ after, (world.step sign event).process = some after → Lawful world event process after := by
  intro world
  have sound : world.Sound sign := run_sound events
  refine ⟨sound.ordered, fun process present => ?_⟩
  obtain ⟨fits, within, part, _⟩ := sound.process process present
  refine ⟨part, fits.chain, fun admission member => ?_, fits.lease, fits.patched, fun after stepped => ?_⟩
  · obtain ⟨admitted, granted⟩ := fits.admitted admission member
    exact ⟨admitted, granted, (fits.below admission member).trans within⟩
  · exact step_lawful sound present event stepped

end LiveStream.Relay
