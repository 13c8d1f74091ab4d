import LiveStream.Maintenance.Methods

/-! The commands of a maintenance session: every one of them keeps its store sound, and
only the end of `complete` releases the inhibition. -/

namespace LiveStream.Maintenance

open LiveStream.Support Script Process

variable {opened : Session}

theorem Steady.inMethod {world : World} (steady : Steady opened world) (method : Method) :
    Steady opened { world with method := method } :=
  ⟨{ steady.1 with }, steady.2⟩

theorem Sound.inMethod {world : World} (sound : Sound opened world) (method : Method) :
    Sound opened { world with method := method } :=
  { sound with }

/-- A method returns to its caller. -/
theorem ensures_within {α : Type} {method : Method} {body : Process α} {start : World}
    {post : α → World → Prop} {otherwise : World → Prop}
    (ran : Ensures body { start with method := method }
      (fun value world => post value { world with method := start.method }) otherwise) :
    Ensures (within method body) start post otherwise := by
  refine ensures_seq (ensures_get (ensures_seq (ensures_modify ?_)))
  refine ensures_bind ran fun value world left => ?_
  exact ensures_seq (ensures_modify (ensures_pure left))

/-- A method that keeps every store steady. -/
def Keeps {α : Type} (process : Process α) : Prop :=
  ∀ ⦃opened⦄ start, Steady opened start → Ensures process start (fun _ => (Steady opened)) (Steady opened)

theorem keeps_within {α : Type} {method : Method} {body : Process α} (kept : Keeps body) :
    Keeps (within method body) := by
  intro opened start steady
  refine ensures_within (ensures_weaken (kept _ (steady.inMethod method)) ?_ fun _ held => held)
  exact fun _ world held => held.inMethod start.method

theorem sound_within {α : Type} {method : Method} {body : Process α} {start : World}
    (kept : Ensures body { start with method := method } (fun _ => (Sound opened)) (Sound opened)) :
    Ensures (within method body) start (fun _ => (Sound opened)) (Sound opened) :=
  ensures_within (ensures_weaken kept (fun _ _ held => held.inMethod start.method)
    fun _ held => held)

theorem ensures_sound {α : Type} {process : Process α} {start : World} {post : α → World → Prop}
    (ensures : Ensures process start post (Steady opened)) : Ensures process start post (Sound opened) :=
  ensures_weaken ensures (fun _ _ held => held) fun _ held => held.1

/-- A phase and its entry in the history. -/
def Session.entered (session : Session) (phase : Phase) (history : List (ℚ × Phase))
    (now : ℚ) : Session :=
  { session with phase := phase, history := history, updatedAt := some now }

/-- `save(phase)` for a phase that keeps the inhibition. -/
theorem ensures_savePhase {start : World} (steady : Steady opened start) {phase : Phase}
    (active : start.memory.phase ≠ .normal) (inhibits : phase ≠ .normal) :
    Ensures (save (some phase)) start
      (fun _ world => Steady opened world ∧ ∃ history now,
        world = start.saved (start.memory.entered phase history now)) (Steady opened) := by
  have changed : ∀ history, Steady opened { start with
      memory := { start.memory with phase := phase, history := history } } :=
    fun history => ⟨steady.1.remember rfl rfl fun normal => (active normal).elim,
      fun normal => (inhibits normal).elim⟩
  have logged : ∀ history, Steady opened { start with memory := { start.memory with history := history } } :=
    fun history => steady.remember rfl rfl rfl
  have entered : Ensures (enter (some phase)) start
      (fun _ world => ∃ history, world = { start with
        memory := { start.memory with phase := phase, history := history } }) (Steady opened) := by
    refine ensures_seq (ensures_state ?_)
    split
    · refine ensures_seq (ensures_clock steady fun now => ensures_seq (ensures_change ?_))
      exact ensures_change ⟨_, rfl⟩
    · rename_i same
      refine ensures_pure ⟨start.memory.history, ?_⟩
      rw [not_not] at same
      rw [← same]
  refine ensures_bind entered fun _ world left => ?_
  obtain ⟨history, rfl⟩ := left
  refine ensures_seq (ensures_clock (changed history) fun now => ensures_seq (ensures_change ?_))
  have held : Steady opened { start with memory := start.memory.entered phase history now } :=
    (changed history).remember rfl rfl rfl
  exact ensures_weaken (ensures_steadyWrite held)
    (fun _ world saved => ⟨saved.1, history, now, saved.2⟩) fun _ kept => kept

theorem keeps_savePhase {start : World} (steady : Steady opened start) (phase : Phase)
    (active : start.memory.phase ≠ .normal) (inhibits : phase ≠ .normal) :
    Ensures (save (some phase)) start (fun _ => (Steady opened)) (Steady opened) :=
  ensures_weaken (ensures_savePhase steady active inhibits) (fun _ _ saved => saved.1)
    fun _ kept => kept

section Commands

variable (settings : Settings)

/-- What the effects of a session ask for. -/
def Session.requests (session : Session) : List (EffectName × Request) :=
  session.effects.map fun effect => (effect.name, effect.request)

theorem Session.requests_mark (session : Session) (name : EffectName) (result : EffectResult) :
    (session.mark name result).requests = session.requests := by
  simp only [Session.requests, Session.mark, List.map_map]
  refine List.map_congr_left fun effect _ => ?_
  simp only [Function.comp_apply]
  split <;> rfl

theorem Session.requests_stamp (session : Session) (name : EffectName) (now : ℚ) :
    (session.stamp name now).requests = session.requests := by
  simp only [Session.requests, Session.stamp, List.map_map]
  refine List.map_congr_left fun effect _ => ?_
  simp only [Function.comp_apply]
  split <;> rfl

theorem Session.names_eq (session : Session) : session.names = session.requests.map Prod.fst := by
  simp [Session.names, Session.requests]

/-- Effects of one name in a record ask for the same. -/
theorem Covers.request_unique {dispatches : List Dispatch} {sightings : List Sighting}
    {session : Session} (covers : Covers dispatches sightings session) {name : EffectName}
    {first second : Request} (one : (name, first) ∈ session.requests)
    (two : (name, second) ∈ session.requests) : first = second := by
  have distinct := covers.distinct
  rw [session.names_eq] at distinct
  exact congrArg Prod.snd (List.inj_on_of_nodup_map distinct one two rfl)

theorem Steady.stamp {world : World} (steady : Steady opened world) (name : EffectName) (now : ℚ) :
    Steady opened { world with memory := world.memory.stamp name now } := by
  obtain ⟨sound, faithful⟩ := steady
  have names : (world.memory.stamp name now).names = world.memory.names := by
    rw [Session.names_eq, Session.names_eq, Session.requests_stamp]
  refine ⟨{ sound with
    memory := ⟨sound.memory.age, sound.memory.ended⟩
    issued := sound.issued
    coversMemory := ⟨?_, fun dispatch member same => ?_, fun effect member result => ?_⟩ }, faithful⟩
  · rw [names]
    exact sound.coversMemory.distinct
  · rw [names]
    exact sound.coversMemory.listed dispatch member same
  · obtain ⟨earlier, listed, rfl⟩ := List.mem_map.mp member
    by_cases same : earlier.name = name
    · rw [if_pos same] at result ⊢
      exact sound.coversMemory.seen earlier listed result
    · rw [if_neg same] at result ⊢
      exact sound.coversMemory.seen earlier listed result

/-- The loop of `reconcile` marks what the sample shows. -/
theorem ensures_reconcileEffects (sample : Value) {entries : List Effect} {start : World}
    (steady : Steady opened start)
    (listed : ∀ entry ∈ entries, (entry.name, entry.request) ∈ start.memory.requests) :
    Ensures (reconcileEffects sample entries) start (fun _ => (Steady opened)) (Steady opened) := by
  induction entries generalizing start with
  | nil => exact ensures_pure steady
  | cons entry rest inductionHypothesis =>
    have later : ∀ other ∈ rest, (other.name, other.request) ∈ start.memory.requests :=
      fun other member => listed other (List.mem_cons_of_mem _ member)
    unfold reconcileEffects
    split
    · refine ensures_seq (ensures_requireThat steady fun shown => ?_)
      refine ensures_seq (ensures_modify ?_)
      have sighted := steady.sight ⟨start.memory.sessionId, entry, sample⟩
      have marked := sighted.markApplied entry.name ?_
      · refine ensures_seq (ensures_change (ensures_seq (ensures_clock marked fun now => ?_)))
        refine ensures_seq (ensures_change ?_)
        have requests : ((start.memory.mark entry.name .applied).stamp entry.name now).requests =
            start.memory.requests := by
          rw [Session.requests_stamp, Session.requests_mark]
        refine inductionHypothesis (marked.stamp entry.name now) fun other member => ?_
        have kept := later other member
        rw [← requests] at kept
        exact kept
      · intro effect member named
        have same : effect.request = entry.request :=
          steady.1.coversMemory.request_unique
            (List.mem_map.mpr ⟨effect, member, by rw [named]⟩)
            (listed entry (List.mem_cons_self ..))
        exact ⟨_, List.mem_append_right _ (List.mem_singleton_self _), rfl, named.symm, same.symm,
          shown⟩
    · exact ensures_seq (ensures_pure (inductionHypothesis steady later))

theorem keeps_reconcile : Keeps (reconcile settings) := by
  refine keeps_within fun opened start steady => ?_
  refine ensures_bind (ensures_snapshot settings steady) fun sample world looked => ?_
  have held := looked.1.steady steady
  refine ensures_seq (ensures_state ?_)
  refine ensures_bind (ensures_reconcileEffects sample held fun entry member =>
    List.mem_map.mpr ⟨entry, member, rfl⟩) fun _ after kept => ?_
  exact ensures_weaken (ensures_save kept) (fun _ _ saved => saved.1) fun _ held => held

theorem ensures_preflight {start : World} (steady : Steady opened start) :
    Ensures (preflight settings) start
      (fun _ world => Quiet start world) (Steady opened) := by
  refine ensures_within ?_
  have begun := steady.inMethod .preflight
  refine ensures_bind (ensures_snapshot settings begun) fun sample world looked => ?_
  have quiet := looked.1
  have held := quiet.steady begun
  refine ensures_seq (ensures_lift (fun status _ => ?_) held)
  refine ensures_seq (ensures_lift (fun _ _ => ?_) held)
  refine ensures_seq (ensures_clock held fun now => ?_)
  refine ensures_seq (ensures_lift (fun stamp _ => ?_) held)
  refine ensures_seq (ensures_require held fun _ => ?_)
  refine ensures_seq (ensures_lift (fun _ _ => ?_) held)
  refine ensures_seq (ensures_lift (fun _ _ => ?_) held)
  refine ensures_bind (ensures_progress settings held sample .live none) fun _ after same => ?_
  subst same
  refine ensures_seq (ensures_sleep held ?_)
  refine ensures_bind (ensures_snapshot settings held) fun later further again => ?_
  have kept := again.1.steady held
  refine ensures_bind (ensures_progress settings kept later .live (some sample))
    fun _ after same => ?_
  subst same
  obtain ⟨more, rfl⟩ := quiet.trans again.1
  exact ensures_pure ⟨more, rfl⟩

theorem ensures_withinWindow {start : World} (steady : Steady opened start) :
    Ensures withinWindow start (fun _ world => world = start) (Steady opened) := by
  refine ensures_seq (ensures_clock steady fun now => ?_)
  refine ensures_seq (ensures_key steady fun deadline _ => ?_)
  exact ensures_require steady fun _ => rfl

/-- The phase of a session after an effect is the one before. -/
theorem Settled.phase {start world : World} {name : EffectName}
    (settled : Settled opened start world name) : world.memory.phase = start.memory.phase := by
  obtain ⟨effects, updated, memory⟩ := settled.memory
  rw [memory]

theorem keeps_advance : Keeps (advance settings) := by
  refine keeps_within fun opened start steady => ?_
  refine ensures_seq (ensures_state (ensures_seq (ensures_require steady fun preparing => ?_)))
  refine ensures_bind (ensures_noUnknown steady) fun _ world still => ?_
  obtain ⟨rfl, _⟩ := still
  refine ensures_seq (ensures_key steady fun before _ => ?_)
  refine ensures_seq (ensures_lift (fun units _ => ?_) steady)
  refine ensures_seq (ensures_lift (fun ledger _ => ?_) steady)
  refine ensures_bind (ensures_effect settings steady .quiesce .dell (.quiesce units ledger)
    fun scales => scales.elim) fun _ first quiesced => ?_
  refine ensures_seq (ensures_lift (fun fields _ => ?_) quiesced.steady)
  refine ensures_seq (ensures_key quiesced.steady fun armed _ => ?_)
  refine ensures_seq (ensures_lift (fun fingerprint _ => ?_) quiesced.steady)
  refine ensures_bind (ensures_effect settings quiesced.steady .armSlate .oci
    (.pathPatch fields armed fingerprint) fun scales => scales.elim) fun _ second slate => ?_
  have ready : second.memory.Has .quiesce ∧ second.memory.Has .armSlate :=
    ⟨slate.kept _ quiesced.has, slate.has⟩
  have phase : second.memory.phase = .preparing := slate.phase.trans (quiesced.phase.trans preparing)
  have finish : ∀ third : World, Quiet second third → Ensures (do
      let uid ← liftM (before.path ["dell", "main", "uid"])
      effect settings .sourceStop .dell (.scaleMain uid 1 0 ledger)
      let _ ← waitContent settings .maintenanceSlate
      save (some .awaitingSlateConfirmation)) third (fun _ => (Steady opened)) (Steady opened) := by
    intro third quiet
    have held := quiet.steady slate.steady
    obtain ⟨more, rfl⟩ := quiet
    refine ensures_seq (ensures_lift (fun uid _ => ?_) held)
    refine ensures_bind (ensures_effect settings held .sourceStop .dell (.scaleMain uid 1 0 ledger)
      fun _ => ready) fun _ fourth stopped => ?_
    refine ensures_bind (ensures_waitContent settings stopped.steady .maintenanceSlate)
      fun _ fifth quiet => ?_
    have waited := quiet.steady stopped.steady
    obtain ⟨further, rfl⟩ := quiet
    have active : fourth.memory.phase ≠ .normal := by
      rw [stopped.phase.trans phase]
      decide
    exact keeps_savePhase waited _ active (by decide)
  refine ensures_seq (ensures_state ?_)
  split
  · refine ensures_bind (ensures_waitContent settings slate.steady .live) fun _ third quiet => ?_
    exact finish third quiet
  · exact finish second (.refl second)

/-- An id that is drawn is newer than every record. -/
theorem ensures_uuid {start : World} (steady : Steady opened start) :
    Ensures uuid start
      (fun session world => Steady opened world ∧ world.memory = start.memory ∧
        world.memory.age ≤ session ∧ world.issued = session + 1) (Steady opened) := by
  refine ensures_interact steady fun turn => ?_
  obtain ⟨sound, faithful⟩ := steady
  exact ⟨⟨{ sound with issued := sound.issued.trans (Nat.le_succ _) }, faithful⟩, rfl,
    sound.issued, rfl⟩

theorem ensures_archive {start : World} (steady : Steady opened start) (session : Nat) :
    Ensures (archive session) start (fun _ world => Steady opened world) (Steady opened) := by
  refine ensures_interact steady fun turn => ?_
  have archived : Steady opened { start with archives := session :: start.archives } :=
    ⟨{ steady.1 with }, steady.2⟩
  by_cases preserved : session ∈ start.archives
  · simp only [preserved, if_true]
    exact steady
  · simp only [preserved, if_false]
    cases turn.writing with
    | refused error => exact steady
    | unsynced kept error => cases error <;> exact archived
    | synced => exact archived

theorem ensures_archiveEnded {start : World} (steady : Steady opened start) :
    Ensures archiveEnded start (fun _ world => Steady opened world) (Steady opened) := by
  refine ensures_seq (ensures_state ?_)
  cases start.memory.sessionId with
  | some session => exact ensures_archive steady session
  | none => exact ensures_pure steady

theorem keeps_begin (minutes : Int) (reason : String) : Keeps (begin settings minutes reason) := by
  refine keeps_within fun opened start steady => ?_
  refine ensures_seq (ensures_state (ensures_seq (ensures_require steady fun normal => ?_)))
  refine ensures_seq (ensures_require steady fun _ => ?_)
  refine ensures_bind (ensures_preflight settings steady) fun before world quiet => ?_
  have held := quiet.steady steady
  refine ensures_bind (ensures_archiveEnded held) fun _ after archived => ?_
  refine ensures_seq (ensures_state ?_)
  refine ensures_bind (ensures_uuid archived) fun session drawn fresh => ?_
  obtain ⟨kept, _, unused, issued⟩ := fresh
  refine ensures_seq (ensures_clock kept fun now => ensures_seq (ensures_change ?_))
  refine ensures_bind (ensures_save (kept.begin rfl unused issued rfl nofun)) fun _ saved done => ?_
  exact keeps_advance settings saved done.1

theorem keeps_confirmSlate (youtube twitch : Bool) :
    Keeps (confirmSlate settings youtube twitch) := by
  refine keeps_within fun opened start steady => ?_
  refine ensures_seq (ensures_state (ensures_seq (ensures_require steady fun phase => ?_)))
  have active : start.memory.phase ≠ .normal := by
    rcases phase with same | same <;> rw [same] <;> decide
  refine ensures_seq (ensures_require steady fun _ => ?_)
  refine ensures_bind (ensures_withinWindow steady) fun _ world same => ?_
  subst same
  refine ensures_bind (ensures_noUnknown steady) fun _ _ still => ?_
  obtain ⟨rfl, _⟩ := still
  refine ensures_bind (ensures_waitContent settings steady .maintenanceSlate) fun _ _ quiet => ?_
  have held := quiet.steady steady
  obtain ⟨more, rfl⟩ := quiet
  refine ensures_bind (ensures_withinWindow held) fun _ _ same => ?_
  subst same
  refine ensures_seq (ensures_clock held fun now => ensures_seq (ensures_change ?_))
  have confirmed := held.update
    (fun session => { session with slatePlayerConfirmation := some now }) fun _ => ⟨rfl, rfl, rfl⟩
  exact keeps_savePhase confirmed .maintenance active (by decide)

theorem keeps_check : Keeps (check settings) := by
  refine keeps_within fun opened start steady => ?_
  refine ensures_bind (ensures_noUnknown steady) fun _ _ still => ?_
  obtain ⟨rfl, _⟩ := still
  refine ensures_seq (ensures_state (ensures_seq (ensures_require steady fun _ => ?_)))
  refine ensures_bind (ensures_waitContent settings steady _) fun _ _ quiet => ?_
  exact ensures_pure (quiet.steady steady)

theorem keeps_on (minutes : Int) (reason : String) : Keeps (on settings minutes reason) := by
  refine keeps_within fun opened start steady => ?_
  refine ensures_bind (ensures_noUnknown steady) fun _ world still => ?_
  obtain ⟨rfl, _⟩ := still
  have confirmed : ∀ after : World, Steady opened after → Ensures (do
      withinWindow
      check settings
      require ((← confirm) = true) "playback_not_confirmed_maintenance_retained"
      confirmSlate settings true true) after (fun _ => (Steady opened)) (Steady opened) := by
    intro after entered
    refine ensures_bind (ensures_withinWindow entered) fun _ _ same => ?_
    subst same
    refine ensures_bind (keeps_check settings _ entered) fun _ _ checked => ?_
    refine ensures_seq (ensures_confirm checked fun answer => ?_)
    refine ensures_seq (ensures_require checked fun _ => ?_)
    exact keeps_confirmSlate settings true true _ checked
  refine ensures_seq (ensures_state ?_)
  dsimp only
  split
  · refine ensures_bind (keeps_begin settings minutes reason _ steady) fun _ after begun => ?_
    exact confirmed after begun
  · split
    · refine ensures_bind (keeps_advance settings _ steady) fun _ after advanced => ?_
      exact confirmed after advanced
    · refine ensures_seq (ensures_require steady fun _ => ?_)
      exact confirmed _ steady

/-- A method that keeps every store steady, and a phase that inhibits. -/
def KeepsPhase {α : Type} (process : Process α) (phase : Phase) : Prop :=
  ∀ ⦃opened⦄ start, Steady opened start → start.memory.phase = phase →
    Ensures process start (fun _ world => Steady opened world ∧ world.memory.phase = phase) (Steady opened)

theorem keeps_resumeSource (before : Value) (phase : Phase) :
    KeepsPhase (resumeSource settings before) phase := by
  intro opened start steady active
  refine ensures_bind (ensures_snapshot settings steady) fun current _ quiet => ?_
  have held := quiet.1.steady steady
  obtain ⟨⟨more, rfl⟩, _⟩ := quiet
  refine ensures_seq (ensures_lift (fun replicas _ => ?_) held)
  split
  · refine ensures_seq (ensures_lift (fun uid _ => ?_) held)
    refine ensures_seq (ensures_lift (fun ledger _ => ?_) held)
    exact ensures_weaken (ensures_effect settings held .sourceResume .dell
      (.scaleMain uid 0 1 ledger) fun scales => by cases scales)
      (fun _ _ settled => ⟨settled.steady, settled.phase.trans active⟩) fun _ kept => kept
  · exact ensures_pure ⟨held, active⟩

theorem keeps_restorePath (before : Value) (phase : Phase) :
    KeepsPhase (restorePath settings before) phase := by
  intro opened start steady active
  refine ensures_bind (ensures_snapshot settings steady) fun current _ quiet => ?_
  have held := quiet.1.steady steady
  obtain ⟨⟨more, rfl⟩, _⟩ := quiet
  refine ensures_seq (ensures_lift (fun fields _ => ?_) held)
  refine ensures_seq (ensures_key held fun armed _ => ?_)
  split
  · refine ensures_seq (ensures_lift (fun original _ => ?_) held)
    refine ensures_seq (ensures_lift (fun fingerprint _ => ?_) held)
    exact ensures_weaken (ensures_effect settings held .restorePath .oci
      (.pathPatch armed original fingerprint) fun scales => scales.elim)
      (fun _ _ settled => ⟨settled.steady, settled.phase.trans active⟩) fun _ kept => kept
  · exact ensures_pure ⟨held, active⟩

theorem keeps_waitContent (content : Content) (phase : Phase) :
    KeepsPhase (waitContent settings content) phase := by
  intro opened start steady active
  refine ensures_weaken (ensures_waitContent settings steady content) (fun _ world quiet => ?_)
    fun _ kept => kept
  have held := quiet.steady steady
  obtain ⟨more, rfl⟩ := quiet
  exact ⟨held, active⟩

theorem keeps_resume : Keeps (resume settings) := by
  refine keeps_within fun opened start steady => ?_
  refine ensures_seq (ensures_state (ensures_seq (ensures_require steady fun phase => ?_)))
  have active : start.memory.phase ≠ .normal := by
    rcases phase with same | same | same | same <;> rw [same] <;> decide
  refine ensures_bind (ensures_noUnknown steady) fun _ _ still => ?_
  obtain ⟨rfl, _⟩ := still
  refine ensures_bind (ensures_savePhase steady active (by decide)) fun _ _ saved => ?_
  obtain ⟨first, history, now, rfl⟩ := saved
  refine ensures_seq (ensures_key first fun before _ => ?_)
  refine ensures_bind (keeps_resumeSource settings before .resuming _ first rfl)
    fun _ second resumed => ?_
  refine ensures_bind (keeps_waitContent settings .live .resuming _ resumed.1 resumed.2)
    fun _ third live => ?_
  refine ensures_bind (keeps_restorePath settings before .resuming _ live.1 live.2)
    fun _ fourth restored => ?_
  refine ensures_bind (ensures_snapshot settings restored.1) fun sample fifth looked => ?_
  have held := looked.1.steady restored.1
  have inhibits : fifth.memory.phase = .resuming := by
    obtain ⟨⟨more, rfl⟩, _⟩ := looked
    exact restored.2
  refine ensures_seq (ensures_requireThat held fun _ => ?_)
  refine ensures_bind (keeps_waitContent settings .live .resuming _ held inhibits)
    fun _ sixth live => ?_
  refine ensures_seq (ensures_change ?_)
  have cleared := live.1.update (fun session => { session with stability := none })
    fun _ => ⟨rfl, rfl, rfl⟩
  exact keeps_savePhase cleared .verifying (by rw [live.2]; decide) (by decide)

/-- What a verification sample that returned leaves: the path fields were those from
before the maintenance, in a sample of this command. -/
structure Verified (opened : Session) (start world : World) : Prop where
  steady : Steady opened world
  method : world.method = start.method
  memory : ∃ stability updated, world.memory =
    { start.memory with stability := some stability, updatedAt := updated }
  path : ∃ stability before, world.memory.stability = some stability ∧
    world.memory.before = some before ∧ stability.sample ∈ world.samples ∧
    equals (stability.sample.path ["oci", "path_fields"]) (before.path ["oci", "path_fields"]) =
      .ok true

theorem ensures_verificationSample {start : World} (steady : Steady opened start) :
    Ensures (verificationSample settings) start (fun _ world => Verified opened start world) (Steady opened) := by
  refine ensures_bind (ensures_snapshot settings steady) fun sample looked found => ?_
  have held := found.1.steady steady
  obtain ⟨⟨more, rfl⟩, member⟩ := found
  refine ensures_seq (ensures_key held fun before recorded => ?_)
  refine ensures_seq (ensures_requireThat held fun restored => ?_)
  refine ensures_seq (ensures_state ?_)
  have tried : Ensures (handle
      (progress settings sample .live (start.memory.stability.map (·.sample))) fun error =>
        if isProgressError error then do
          change fun session => { session with stability := none }
          save none
          throw error
        else throw error) { start with samples := start.samples ++ more }
      (fun _ world => world = { start with samples := start.samples ++ more }) (Steady opened) := by
    refine ensures_handle (I := fun world => world = { start with samples := start.samples ++ more })
      (ensures_progress settings (by rfl) sample _ _) (fun _ same => same ▸ held) fun error _ same => ?_
    subst same
    split
    · refine ensures_seq (ensures_change ?_)
      have cleared := held.update (fun session => { session with stability := none })
        fun _ => ⟨rfl, rfl, rfl⟩
      exact ensures_bind (ensures_save cleared) fun _ _ saved => ensures_throw saved.1
    · exact ensures_throw held
  refine ensures_bind tried fun _ _ same => ?_
  subst same
  have since : Ensures (stableSince start.memory.stability)
      { start with samples := start.samples ++ more }
      (fun _ world => world = { start with samples := start.samples ++ more }) (Steady opened) := by
    cases start.memory.stability with
    | some stability => exact ensures_pure rfl
    | none => exact ensures_clock held fun _ => rfl
  refine ensures_bind since fun since _ same => ?_
  subst same
  refine ensures_seq (ensures_change ?_)
  have stable := held.update (fun session => { session with stability := some ⟨since, sample⟩ })
    fun _ => ⟨rfl, rfl, rfl⟩
  refine ensures_bind (ensures_save stable) fun _ _ saved => ?_
  obtain ⟨kept, now, rfl⟩ := saved
  refine ensures_seq (ensures_clock kept fun _ => ensures_pure ?_)
  exact ⟨kept, rfl, ⟨_, _, rfl⟩, _, _, rfl, recorded, member, restored⟩

theorem keeps_verify : Keeps (verify settings) := by
  refine keeps_within fun opened start steady => ?_
  refine ensures_seq (ensures_state (ensures_seq (ensures_require steady fun _ => ?_)))
  refine ensures_bind (ensures_noUnknown steady) fun _ _ still => ?_
  obtain ⟨rfl, _⟩ := still
  refine ensures_seq (ensures_clock steady fun now => ?_)
  refine ensures_loop (I := fun _ => (Steady opened)) (fun _ _ held => held) (fun _ world held => ?_) steady
  refine ensures_seq (ensures_clock held fun now => ?_)
  split
  · have tried : Ensures (handle
        (do return decide (settings.stableSeconds ≤ (← verificationSample settings)))
        fun error =>
          if error.kind = .value ∧ error.text ∈ transientReasons then return false else throw error)
        world (fun _ => (Steady opened)) (Steady opened) := by
      refine ensures_handle (I := (Steady opened)) ?_ (fun _ kept => kept) fun error _ kept => ?_
      · refine ensures_bind (ensures_verificationSample settings held) fun _ _ verified => ?_
        exact ensures_pure verified.steady
      · split
        · exact ensures_pure kept
        · exact ensures_throw kept
    refine ensures_bind tried fun stable _ kept => ?_
    split
    · exact ensures_pure kept
    · exact ensures_seq (ensures_sleep kept (ensures_pure kept))
  · exact ensures_throw held

/-- The end of `complete`: the phase NORMAL in the record of a session whose return was
verified, attested and undone. -/
theorem ensures_release {start : World} (steady : Steady opened start) (active : start.memory.phase ≠ .normal)
    (earned : ∀ history now, Write.Returned start.sightings
      ⟨start.method, start.samples, start.disk.visible,
        start.memory.entered .normal history now⟩) :
    Ensures (save (some .normal)) start (fun _ => (Sound opened)) (Sound opened) := by
  have sound := steady.1
  have changed : ∀ history, Sound opened { start with
      memory := { start.memory with phase := .normal, history := history } } :=
    fun history => sound.remember rfl rfl fun _ => rfl
  have entered : Ensures (enter (some .normal)) start
      (fun _ world => ∃ history, world = { start with
        memory := { start.memory with phase := .normal, history := history } }) (Sound opened) := by
    refine ensures_seq (ensures_state ?_)
    rw [if_pos active]
    refine ensures_seq (ensures_clock sound fun now => ensures_seq (ensures_change ?_))
    exact ensures_change ⟨_, rfl⟩
  refine ensures_bind entered fun _ _ left => ?_
  obtain ⟨history, rfl⟩ := left
  refine ensures_seq (ensures_clock (changed history) fun now => ensures_seq (ensures_change ?_))
  have held : Sound opened { start with memory := start.memory.entered .normal history now } :=
    sound.remember rfl rfl fun _ => rfl
  exact ensures_weaken (ensures_write held fun _ _ => earned history now)
    (fun _ _ saved => saved.1) fun _ kept => kept

theorem sound_complete (youtube twitch liveData : Bool) {start : World} (steady : Steady opened start) :
    Ensures (complete settings youtube twitch liveData) start (fun _ => (Sound opened)) (Sound opened) := by
  refine sound_within ?_
  have begun := steady.inMethod .complete
  refine ensures_seq (ensures_state (ensures_seq (ensures_require begun.1 fun phase => ?_)))
  have active : start.memory.phase ≠ .normal := by
    rcases phase with same | same <;> rw [same] <;> decide
  refine ensures_seq (ensures_require begun.1 fun _ => ?_)
  refine ensures_bind (ensures_sound (ensures_noUnknown begun)) fun _ _ still => ?_
  obtain ⟨rfl, applied⟩ := still
  refine ensures_seq (ensures_sleep begun.1 ?_)
  refine ensures_bind (ensures_sound (ensures_verificationSample settings begun)) fun stable first verified => ?_
  obtain ⟨held, method, ⟨stability, updated, memory⟩, path⟩ := verified
  refine ensures_seq (ensures_require held.1 fun _ => ?_)
  refine ensures_seq (ensures_clock held.1 fun attestedAt => ensures_seq (ensures_change ?_))
  have attested := held.update
    (fun session => { session with livePlayerConfirmation := some attestedAt }) fun _ => ⟨rfl, rfl, rfl⟩
  have inhibits : first.memory.phase ≠ .normal := by
    rw [memory]
    exact active
  refine ensures_bind (ensures_sound (ensures_savePhase attested inhibits (by decide))) fun _ _ saved => ?_
  obtain ⟨recorded, history, now, rfl⟩ := saved
  refine ensures_seq (ensures_key recorded.1 fun before _ => ?_)
  refine ensures_seq (ensures_lift (fun units _ => ?_) recorded.1)
  refine ensures_seq (ensures_lift (fun ledger _ => ?_) recorded.1)
  refine ensures_bind (ensures_sound (ensures_effect settings recorded .restoreUnits .dell
    (.restoreUnits units ledger) fun scales => scales.elim)) fun _ last settled => ?_
  obtain ⟨stability', before', stable', recordedBefore, observed, restored⟩ := path
  have visible := settled.saved rfl
  obtain ⟨effects, updatedAt, restoredMemory⟩ := settled.memory
  refine ensures_seq (ensures_clock settled.steady.1 fun doneAt => ensures_seq (ensures_change ?_))
  have completed := settled.steady.update
    (fun session => { session with completedAt := some doneAt }) fun _ => ⟨rfl, rfl, rfl⟩
  have ending : last.memory.phase ≠ .normal := by
    rw [settled.phase]
    nofun
  refine ensures_release completed ending fun entries instant => ?_
  have allApplied : last.memory.AllApplied := by
    refine settled.settled fun effect member => ?_
    have effects : first.memory.effects = start.memory.effects := by rw [memory]
    exact applied effect (effects ▸ member)
  have session : last.disk.visible.sessionId = last.memory.sessionId :=
    congrArg Session.sessionId visible
  obtain ⟨effect, listed, named, result⟩ := settled.has
  exact {
    method := settled.method.trans method
    session := session
    applied := allApplied
    restored := ⟨effect, listed, named, settled.steady.1.coversMemory.seen effect listed result⟩
    path := ⟨stability', before', by
      change last.memory.stability = _
      rw [restoredMemory]
      exact stable', by
      change last.memory.before = _
      rw [restoredMemory]
      exact recordedBefore, settled.samples _ observed, restored⟩
    attested := by
      constructor
      · change last.disk.visible.livePlayerConfirmation.isSome = true
        rw [visible, restoredMemory]
        rfl
      · change last.memory.livePlayerConfirmation.isSome = true
        rw [restoredMemory]
        rfl }

theorem sound_off {start : World} (steady : Steady opened start) :
    Ensures (off settings) start (fun _ => (Sound opened)) (Sound opened) := by
  refine sound_within ?_
  have begun := steady.inMethod .off
  refine ensures_bind (ensures_sound (ensures_noUnknown begun)) fun _ _ still => ?_
  obtain ⟨rfl, _⟩ := still
  have returned : ∀ world : World, Steady opened world → Ensures (do
      verify settings
      require ((← confirm) = true) "live_playback_not_confirmed_inhibition_retained"
      complete settings true true true) world (fun _ => (Sound opened)) (Sound opened) := by
    intro world held
    refine ensures_bind (ensures_sound (keeps_verify settings _ held)) fun _ _ verified => ?_
    refine ensures_seq (ensures_confirm verified.1 fun _ => ?_)
    refine ensures_seq (ensures_require verified.1 fun _ => ?_)
    exact sound_complete settings true true true verified
  refine ensures_seq (ensures_state ?_)
  dsimp only
  split
  · exact ensures_pure begun.1
  · split
    · refine ensures_bind (ensures_sound (keeps_resume settings _ begun)) fun _ _ resumed => ?_
      exact returned _ resumed
    · refine ensures_seq (ensures_require begun.1 fun _ => ?_)
      exact returned _ begun

/-- Every command keeps its store sound, wherever it is interrupted or killed. -/
theorem sound_command (command : Command) {start : World} (steady : Steady opened start) :
    Ensures (command.script settings) start (fun _ => (Sound opened)) (Sound opened) := by
  have sound : ∀ {process : Process Unit}, Keeps process →
      Ensures process start (fun _ => (Sound opened)) (Sound opened) :=
    fun kept => ensures_weaken (kept start steady) (fun _ _ held => held.1) fun _ held => held.1
  cases command with
  | preflight =>
    refine ensures_bind (ensures_weaken (ensures_preflight settings steady)
      (fun _ _ quiet => (quiet.steady steady).1) fun _ held => held.1) fun _ _ held => ?_
    exact ensures_pure held
  | begin minutes reason => exact sound (keeps_begin settings minutes reason)
  | advance => exact sound (keeps_advance settings)
  | confirmSlate youtube twitch => exact sound (keeps_confirmSlate settings youtube twitch)
  | resume => exact sound (keeps_resume settings)
  | verify => exact sound (keeps_verify settings)
  | complete youtube twitch liveData => exact sound_complete settings youtube twitch liveData steady
  | reconcile => exact sound (keeps_reconcile settings)
  | check => exact sound (keeps_check settings)
  | on minutes reason => exact sound (keeps_on settings minutes reason)
  | off => exact sound_off settings steady

end Commands

end LiveStream.Maintenance
