import LiveStream.Maintenance.Chronicle
import LiveStream.Maintenance.Methods

/-! What commands do to the stability windows of a store: none but a verification sample
opens or moves one, and none but the end of `complete` releases the inhibition. -/

namespace LiveStream.Maintenance

open LiveStream.Support Script Process

/-- What holds of the window of a record and, if its phase is NORMAL, of its release. -/
structure Session.Holds (windows : Stability → Prop) (released : Prop) (session : Session) : Prop where
  window : ∀ stability, session.stability = some stability → windows stability
  ended : session.phase = .normal → released

/-- What holds of the records in memory and on the disk. -/
structure Holding (windows : Stability → Prop) (released : Prop) (world : World) : Prop where
  memory : world.memory.Holds windows released
  visible : world.disk.visible.Holds windows released
  durable : ∀ stability, world.disk.durable.stability = some stability → windows stability

variable {windows : Stability → Prop} {released : Prop} {α : Type}

theorem Session.Holds.of_same {first second : Session} (holds : first.Holds windows released)
    (stability : second.stability = first.stability) (phase : second.phase = first.phase) :
    second.Holds windows released :=
  ⟨fun window stored => holds.window window (stability ▸ stored),
    fun normal => holds.ended (phase ▸ normal)⟩

theorem Session.Holds.imp {session : Session} {windows' : Stability → Prop} {released' : Prop}
    (holds : session.Holds windows released) (window : ∀ stability, windows stability → windows' stability)
    (ended : released → released') : session.Holds windows' released' :=
  ⟨fun stability stored => window stability (holds.window stability stored),
    fun normal => ended (holds.ended normal)⟩

theorem Holding.imp {world : World} {windows' : Stability → Prop} {released' : Prop}
    (holding : Holding windows released world)
    (window : ∀ stability, windows stability → windows' stability) (ended : released → released') :
    Holding windows' released' world :=
  ⟨holding.memory.imp window ended, holding.visible.imp window ended,
    fun stability stored => window stability (holding.durable stability stored)⟩

/-- A change of the record that leaves its window and its phase. -/
def Neutral (update : Session → Session) : Prop :=
  ∀ session, (update session).stability = session.stability ∧ (update session).phase = session.phase

section Interactions

theorem preserves_interact {answer : Turn → World → Exit PyError α × World}
    (keeps : ∀ turn world, Holding windows released world →
      Holding windows released (answer turn world).2) :
    Preserves (Holding windows released) (interact answer) := by
  intro world held
  refine ensures_interact held fun turn => ?_
  have left := keeps turn world held
  rcases (answer turn world).1 with value | error | _ <;> exact left

theorem preserves_clock : Preserves (Holding windows released) clock :=
  preserves_interact fun _ _ held => held

theorem preserves_sleep : Preserves (Holding windows released) sleep :=
  preserves_interact fun _ _ held => held

theorem preserves_uuid : Preserves (Holding windows released) uuid :=
  preserves_interact fun _ _ held => ⟨held.memory, held.visible, held.durable⟩

theorem preserves_confirm : Preserves (Holding windows released) confirm :=
  preserves_interact fun turn world held => by
    cases turn.confirmed <;> exact held

theorem preserves_observe : Preserves (Holding windows released) observe :=
  preserves_interact fun turn world held => by
    cases turn.snapshot with
    | ok sample => exact ⟨held.memory, held.visible, held.durable⟩
    | error error => exact held

theorem preserves_dispatch (effect : Effect) : Preserves (Holding windows released) (dispatch effect) :=
  preserves_interact fun turn world held => by
    rcases turn.reply with _ | (error | _) <;> exact ⟨held.memory, held.visible, held.durable⟩

theorem preserves_archive (session : Nat) : Preserves (Holding windows released) (archive session) :=
  preserves_interact fun turn world held => by
    by_cases archived : session ∈ world.archives
    · simp only [if_pos archived]
      exact held
    · simp only [if_neg archived]
      rcases turn.writing with error | ⟨kept, _ | error⟩ | _ <;>
        exact ⟨held.memory, held.visible, held.durable⟩

/-- The record in memory becomes the session file. -/
theorem preserves_write : Preserves (Holding windows released) write :=
  preserves_interact fun turn world held => by
    rcases turn.writing with error | ⟨kept, _ | error⟩ | _
    · exact held
    · exact ⟨held.memory, held.memory, by cases kept; exacts [held.durable, held.memory.window]⟩
    · exact ⟨held.memory, held.memory, by cases kept; exacts [held.durable, held.memory.window]⟩
    · exact ⟨held.memory, held.memory, held.memory.window⟩

theorem preserves_state : Preserves (Holding windows released) state :=
  preserves_bind preserves_get fun _ => preserves_pure _

theorem preserves_change {update : Session → Session}
    (keeps : ∀ session, session.Holds windows released → (update session).Holds windows released) :
    Preserves (Holding windows released) (change update) :=
  preserves_modify fun _ held => ⟨keeps _ held.memory, held.visible, held.durable⟩

theorem preserves_neutral {update : Session → Session} (neutral : Neutral update) :
    Preserves (Holding windows released) (change update) :=
  preserves_change fun session holds => holds.of_same (neutral session).1 (neutral session).2

theorem preserves_sight (effect : Effect) (sample : Value) :
    Preserves (Holding windows released) (sight effect sample) :=
  preserves_modify fun _ held => ⟨held.memory, held.visible, held.durable⟩

theorem preserves_require {holds : Prop} [Decidable holds] (reason : String) :
    Preserves (Holding windows released) (require holds reason) :=
  preserves_ite (fun _ => preserves_pure ()) fun _ => preserves_throw _

theorem preserves_requireThat (check : Except PyError Bool) (reason : String) :
    Preserves (Holding windows released) (requireThat check reason) :=
  preserves_bind (preserves_lift check) fun _ => preserves_require reason

theorem preserves_key (field : Session → Option α) (name : String) :
    Preserves (Holding windows released) (key field name) :=
  preserves_bind preserves_state fun _ => preserves_lift _

theorem preserves_within (method : Method) {body : Process α}
    (kept : Preserves (Holding windows released) body) :
    Preserves (Holding windows released) (within method body) :=
  preserves_bind preserves_get fun _ =>
    preserves_bind (preserves_modify fun _ held => ⟨held.memory, held.visible, held.durable⟩) fun _ =>
      preserves_bind kept fun _ =>
        preserves_bind (preserves_modify fun _ held => ⟨held.memory, held.visible, held.durable⟩)
          fun _ => preserves_pure _

end Interactions

section Methods

variable (settings : Settings)

theorem preserves_save (phase : Option Phase) (ending : phase = some .normal → released) :
    Preserves (Holding windows released) (save phase) := by
  have entered : Preserves (Holding windows released) (enter phase) := by
    cases phase with
    | none => exact preserves_pure ()
    | some phase =>
      refine preserves_bind preserves_state fun session => preserves_ite (fun _ => ?_) fun _ => ?_
      · refine preserves_bind preserves_clock fun now => preserves_bind (preserves_neutral ?_) fun _ => ?_
        · exact fun _ => ⟨rfl, rfl⟩
        · exact preserves_change fun session holds =>
            ⟨holds.window, fun normal => ending (congrArg some normal)⟩
      · exact preserves_pure ()
  refine preserves_bind entered fun _ => preserves_bind preserves_clock fun now => ?_
  exact preserves_bind (preserves_neutral fun _ => ⟨rfl, rfl⟩) fun _ => preserves_write

theorem preserves_saved {phase : Phase} (active : phase ≠ .normal) :
    Preserves (Holding windows released) (save (some phase)) :=
  preserves_save _ fun same => (active (Option.some.inj same)).elim

theorem preserves_kept : Preserves (Holding windows released) (save none) :=
  preserves_save none fun same => by cases same

theorem preserves_snapshot : Preserves (Holding windows released) (snapshot settings) := by
  refine preserves_bind preserves_observe fun sample => preserves_bind preserves_clock fun now => ?_
  refine preserves_bind preserves_state fun session => ?_
  exact preserves_bind (preserves_lift _) fun _ => preserves_pure _

theorem preserves_progress (sample : Value) (content : Content) (previous : Option Value) :
    Preserves (Holding windows released) (progress settings sample content previous) :=
  preserves_bind preserves_clock fun _ => preserves_bind preserves_state fun _ => preserves_lift _

theorem preserves_waitContent (content : Content) :
    Preserves (Holding windows released) (waitContent settings content) := by
  refine preserves_bind preserves_clock fun now => preserves_loop (fun previous => ?_) none
  refine preserves_bind preserves_clock fun now => preserves_ite (fun _ => ?_) fun _ => preserves_throw _
  refine preserves_bind (preserves_snapshot settings) fun sample => preserves_bind ?_ fun outcome => ?_
  · refine preserves_handle ?_ fun error => preserves_ite (fun _ => preserves_pure _) fun _ => preserves_throw _
    exact preserves_bind (preserves_progress settings sample content previous) fun _ => preserves_pure _
  · cases outcome with
    | inr sample => exact preserves_pure _
    | inl previous => exact preserves_bind preserves_sleep fun _ => preserves_pure _

theorem preserves_noUnknown : Preserves (Holding windows released) noUnknown :=
  preserves_bind preserves_state fun _ => preserves_require _

theorem preserves_perform (entry : Effect) (current : Value) :
    Preserves (Holding windows released) (perform settings entry current) := by
  refine preserves_bind (preserves_lift _) fun _ => preserves_bind (preserves_dispatch entry) fun _ => ?_
  refine preserves_bind (preserves_snapshot settings) fun sample => ?_
  refine preserves_bind (preserves_requireThat _ _) fun _ => preserves_bind (preserves_sight _ _) fun _ => ?_
  exact preserves_bind (preserves_neutral fun _ => ⟨rfl, rfl⟩) fun _ => preserves_kept

theorem preserves_effect (name : EffectName) (role : Role) (request : Request) :
    Preserves (Holding windows released) (effect settings name role request) := by
  refine preserves_bind preserves_state fun session => ?_
  cases session.effect? name with
  | some previous => exact preserves_require _
  | none =>
    refine preserves_bind preserves_noUnknown fun _ => ?_
    refine preserves_bind (preserves_snapshot settings) fun current => ?_
    refine preserves_bind preserves_clock fun now => ?_
    refine preserves_bind (preserves_neutral fun _ => ⟨rfl, rfl⟩) fun _ => ?_
    refine preserves_bind preserves_kept fun _ => ?_
    refine preserves_handle (preserves_perform settings _ current) fun error => ?_
    refine preserves_bind (preserves_neutral fun _ => ⟨rfl, rfl⟩) fun _ => ?_
    exact preserves_bind preserves_kept fun _ => preserves_throw _

theorem preserves_reconcileEffects (sample : Value) (entries : List Effect) :
    Preserves (Holding windows released) (reconcileEffects sample entries) := by
  induction entries with
  | nil => exact preserves_pure ()
  | cons entry rest inductionHypothesis =>
    refine preserves_ite (fun _ => ?_) fun _ => ?_
    · refine preserves_bind (preserves_requireThat _ _) fun _ => ?_
      refine preserves_bind (preserves_sight _ _) fun _ => ?_
      refine preserves_bind (preserves_neutral fun _ => ⟨rfl, rfl⟩) fun _ => ?_
      refine preserves_bind preserves_clock fun now => ?_
      exact preserves_bind (preserves_neutral fun _ => ⟨rfl, rfl⟩) fun _ => inductionHypothesis
    · exact inductionHypothesis

theorem preserves_reconcile : Preserves (Holding windows released) (reconcile settings) := by
  refine preserves_within .reconcile ?_
  refine preserves_bind (preserves_snapshot settings) fun sample => ?_
  refine preserves_bind preserves_state fun session => ?_
  exact preserves_bind (preserves_reconcileEffects _ _) fun _ => preserves_kept

theorem preserves_preflight : Preserves (Holding windows released) (preflight settings) := by
  refine preserves_within .preflight ?_
  refine preserves_bind (preserves_snapshot settings) fun sample => ?_
  refine preserves_bind (preserves_lift _) fun status => preserves_bind (preserves_lift _) fun _ => ?_
  refine preserves_bind preserves_clock fun now => preserves_bind (preserves_lift _) fun stamp => ?_
  refine preserves_bind (preserves_require _) fun _ => preserves_bind (preserves_lift _) fun _ => ?_
  refine preserves_bind (preserves_lift _) fun _ => ?_
  refine preserves_bind (preserves_progress settings _ _ _) fun _ => ?_
  refine preserves_bind preserves_sleep fun _ => preserves_bind (preserves_snapshot settings) fun later => ?_
  exact preserves_bind (preserves_progress settings _ _ _) fun _ => preserves_pure _

theorem preserves_advance : Preserves (Holding windows released) (advance settings) := by
  refine preserves_within .advance ?_
  refine preserves_bind preserves_state fun session => preserves_bind (preserves_require _) fun _ => ?_
  refine preserves_bind preserves_noUnknown fun _ => preserves_bind (preserves_key _ _) fun before => ?_
  refine preserves_bind (preserves_lift _) fun units => preserves_bind (preserves_lift _) fun ledger => ?_
  refine preserves_bind (preserves_effect settings _ _ _) fun _ => ?_
  refine preserves_bind (preserves_lift _) fun fields => preserves_bind (preserves_key _ _) fun armed => ?_
  refine preserves_bind (preserves_lift _) fun fingerprint => ?_
  refine preserves_bind (preserves_effect settings _ _ _) fun _ => ?_
  have finish : Preserves (Holding windows released) (do
      let uid ← liftM (before.path ["dell", "main", "uid"])
      effect settings .sourceStop .dell (.scaleMain uid 1 0 ledger)
      let _ ← waitContent settings .maintenanceSlate
      save (some .awaitingSlateConfirmation)) := by
    refine preserves_bind (preserves_lift _) fun uid => ?_
    refine preserves_bind (preserves_effect settings _ _ _) fun _ => ?_
    exact preserves_bind (preserves_waitContent settings _) fun _ => preserves_saved (by decide)
  refine preserves_bind preserves_state fun session => preserves_ite (fun _ => ?_) fun _ => finish
  exact preserves_bind (preserves_waitContent settings _) fun _ => finish

theorem preserves_begin (minutes : Int) (reason : String) :
    Preserves (Holding windows released) (begin settings minutes reason) := by
  refine preserves_within .begin ?_
  refine preserves_bind preserves_state fun session => preserves_bind (preserves_require _) fun _ => ?_
  refine preserves_bind (preserves_require _) fun _ => ?_
  refine preserves_bind (preserves_preflight settings) fun before => ?_
  have ended : Preserves (Holding windows released) archiveEnded := by
    refine preserves_bind preserves_state fun session => ?_
    cases session.sessionId with
    | some ended => exact preserves_archive ended
    | none => exact preserves_pure ()
  refine preserves_bind ended fun _ => preserves_bind preserves_state fun session => ?_
  refine preserves_bind preserves_uuid fun drawn => preserves_bind preserves_clock fun now => ?_
  refine preserves_bind (preserves_change fun _ _ => ⟨nofun, nofun⟩) fun _ => ?_
  exact preserves_bind preserves_kept fun _ => preserves_advance settings

theorem preserves_withinWindow : Preserves (Holding windows released) withinWindow :=
  preserves_bind preserves_clock fun _ => preserves_bind (preserves_key _ _) fun _ => preserves_require _

theorem preserves_confirmSlate (youtube twitch : Bool) :
    Preserves (Holding windows released) (confirmSlate settings youtube twitch) := by
  refine preserves_within .confirmSlate ?_
  refine preserves_bind preserves_state fun session => preserves_bind (preserves_require _) fun _ => ?_
  refine preserves_bind (preserves_require _) fun _ => preserves_bind preserves_withinWindow fun _ => ?_
  refine preserves_bind preserves_noUnknown fun _ => ?_
  refine preserves_bind (preserves_waitContent settings _) fun _ => ?_
  refine preserves_bind preserves_withinWindow fun _ => preserves_bind preserves_clock fun now => ?_
  exact preserves_bind (preserves_neutral fun _ => ⟨rfl, rfl⟩) fun _ => preserves_saved (by decide)

theorem preserves_check : Preserves (Holding windows released) (check settings) := by
  refine preserves_within .check ?_
  refine preserves_bind preserves_noUnknown fun _ => preserves_bind preserves_state fun session => ?_
  refine preserves_bind (preserves_require _) fun _ => ?_
  exact preserves_bind (preserves_waitContent settings _) fun _ => preserves_pure _

theorem preserves_on (minutes : Int) (reason : String) :
    Preserves (Holding windows released) (on settings minutes reason) := by
  refine preserves_within .on (preserves_bind preserves_noUnknown fun _ => ?_)
  have confirmed : Preserves (Holding windows released) (do
      withinWindow
      check settings
      require ((← confirm) = true) "playback_not_confirmed_maintenance_retained"
      confirmSlate settings true true) := by
    refine preserves_bind preserves_withinWindow fun _ => preserves_bind (preserves_check settings) fun _ => ?_
    refine preserves_bind preserves_confirm fun _ => preserves_bind (preserves_require _) fun _ => ?_
    exact preserves_confirmSlate settings true true
  refine preserves_bind preserves_state fun session => preserves_ite (fun _ => ?_) fun _ => ?_
  · exact preserves_bind (preserves_begin settings minutes reason) fun _ => confirmed
  · refine preserves_ite (fun _ => ?_) fun _ => preserves_bind (preserves_require _) fun _ => confirmed
    exact preserves_bind (preserves_advance settings) fun _ => confirmed

theorem preserves_resumeSource (before : Value) :
    Preserves (Holding windows released) (resumeSource settings before) := by
  refine preserves_bind (preserves_snapshot settings) fun current => ?_
  refine preserves_bind (preserves_lift _) fun replicas => preserves_ite (fun _ => ?_) fun _ => preserves_pure ()
  refine preserves_bind (preserves_lift _) fun uid => preserves_bind (preserves_lift _) fun ledger => ?_
  exact preserves_effect settings _ _ _

theorem preserves_restorePath (before : Value) :
    Preserves (Holding windows released) (restorePath settings before) := by
  refine preserves_bind (preserves_snapshot settings) fun current => ?_
  refine preserves_bind (preserves_lift _) fun fields => preserves_bind (preserves_key _ _) fun armed => ?_
  refine preserves_ite (fun _ => ?_) fun _ => preserves_pure ()
  refine preserves_bind (preserves_lift _) fun original => preserves_bind (preserves_lift _) fun fingerprint => ?_
  exact preserves_effect settings _ _ _

theorem preserves_resume : Preserves (Holding windows released) (resume settings) := by
  refine preserves_within .resume ?_
  refine preserves_bind preserves_state fun session => preserves_bind (preserves_require _) fun _ => ?_
  refine preserves_bind preserves_noUnknown fun _ => preserves_bind (preserves_saved (by decide)) fun _ => ?_
  refine preserves_bind (preserves_key _ _) fun before => ?_
  refine preserves_bind (preserves_resumeSource settings before) fun _ => ?_
  refine preserves_bind (preserves_waitContent settings _) fun _ => ?_
  refine preserves_bind (preserves_restorePath settings before) fun _ => ?_
  refine preserves_bind (preserves_snapshot settings) fun restored => ?_
  refine preserves_bind (preserves_requireThat _ _) fun _ => ?_
  refine preserves_bind (preserves_waitContent settings _) fun _ => ?_
  refine preserves_bind (preserves_change fun _ holds => ⟨nofun, holds.ended⟩) fun _ => ?_
  exact preserves_saved (by decide)

/-- A command that takes no verification sample opens no window and releases nothing. -/
theorem preserves_command {command : Command} (takesNone : match command with
    | .verify | .complete _ _ _ | .off => False
    | _ => True) : Preserves (Holding windows released) (command.script settings) := by
  cases command with
  | verify | complete | off => exact takesNone.elim
  | preflight => exact preserves_bind (preserves_preflight settings) fun _ => preserves_pure ()
  | begin minutes reason => exact preserves_begin settings minutes reason
  | advance => exact preserves_advance settings
  | confirmSlate youtube twitch => exact preserves_confirmSlate settings youtube twitch
  | resume => exact preserves_resume settings
  | reconcile => exact preserves_reconcile settings
  | check => exact preserves_check settings
  | on minutes reason => exact preserves_on settings minutes reason

/-- The end of `complete` releases only what it was called for. -/
theorem preserves_release {stable : ℚ} (earned : settings.stableSeconds ≤ stable → released) :
    Preserves (Holding windows released) (release settings stable) := by
  intro world held
  refine ensures_seq (ensures_require held fun enough => ?_)
  revert world
  refine preserves_bind preserves_clock fun now => ?_
  refine preserves_bind (preserves_neutral fun _ => ⟨rfl, rfl⟩) fun _ => ?_
  refine preserves_bind (preserves_saved (by decide)) fun _ => preserves_bind (preserves_key _ _) fun before => ?_
  refine preserves_bind (preserves_lift _) fun units => preserves_bind (preserves_lift _) fun ledger => ?_
  refine preserves_bind (preserves_effect settings _ _ _) fun _ => preserves_bind preserves_clock fun now => ?_
  refine preserves_bind (preserves_neutral fun _ => ⟨rfl, rfl⟩) fun _ => ?_
  exact preserves_save _ fun _ => earned enough

theorem preserves_clearing (error : PyError) : Preserves (Holding windows released) (clearing error) := by
  refine preserves_ite (fun _ => ?_) fun _ => preserves_throw error
  refine preserves_bind (preserves_change fun _ holds => ⟨nofun, holds.ended⟩) fun _ => ?_
  exact preserves_bind preserves_kept fun _ => preserves_throw error

theorem preserves_saving {stability : Stability} (window : windows stability) :
    Preserves (Holding windows released) (saving stability) := by
  refine preserves_bind (preserves_change fun _ holds => ⟨fun other same => ?_, holds.ended⟩) fun _ => ?_
  · exact Option.some.inj same ▸ window
  · exact preserves_bind preserves_kept fun _ => preserves_bind preserves_clock fun _ => preserves_pure _

end Methods

end LiveStream.Maintenance
