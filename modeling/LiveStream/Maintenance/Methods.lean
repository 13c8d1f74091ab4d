import LiveStream.Maintenance.Invariant

/-! What each method of a maintenance command does to a store that is sound: the rules of
its interactions, and one lemma for each method. -/

namespace LiveStream.Maintenance

open LiveStream.Support Script Process

variable {opened : Session}

section Interactions

variable {α : Type} {start : World} {post : α → World → Prop} {otherwise : World → Prop}

theorem ensures_interact {answer : Turn → World → Exit PyError α × World}
    (held : otherwise start)
    (answered : ∀ turn,
      Leaves post otherwise ((answer turn start).1, ([] : List Turn), (answer turn start).2)) :
    Ensures (interact answer) start post otherwise := by
  refine ensures_act held fun turn => ?_
  cases signalled : turn.signal with
  | some error => exact held
  | none => exact answered turn

theorem ensures_clock {post : ℚ → World → Prop} (held : otherwise start)
    (read : ∀ now, post now start) : Ensures clock start post otherwise :=
  ensures_interact held fun turn => read turn.clock

theorem ensures_sleep {post : Unit → World → Prop} (held : otherwise start)
    (slept : post () start) : Ensures sleep start post otherwise :=
  ensures_interact held fun _ => slept

theorem ensures_confirm {post : Bool → World → Prop} (held : otherwise start)
    (answered : ∀ answer, post answer start) : Ensures confirm start post otherwise := by
  refine ensures_interact held fun turn => ?_
  cases turn.confirmed with
  | ok answer => exact answered answer
  | error error => exact held

theorem ensures_state {post : Session → World → Prop} (read : post start.memory start) :
    Ensures state start post otherwise := by
  exact ensures_seq (ensures_get (ensures_pure read))

theorem ensures_change {post : Unit → World → Prop} {update : Session → Session}
    (changed : post () { start with memory := update start.memory }) :
    Ensures (change update) start post otherwise :=
  ensures_modify changed

theorem ensures_require {post : Unit → World → Prop} {holds : Prop} [Decidable holds]
    {reason : String} (held : otherwise start) (passed : holds → post () start) :
    Ensures (require holds reason) start post otherwise := by
  unfold require
  split
  · exact ensures_pure (passed ‹_›)
  · exact ensures_throw held

theorem ensures_requireThat {post : Unit → World → Prop} {check : Except PyError Bool}
    {reason : String} (held : otherwise start) (passed : check = .ok true → post () start) :
    Ensures (requireThat check reason) start post otherwise := by
  refine ensures_seq (ensures_lift (fun value same => ?_) held)
  exact ensures_require held fun yes => passed (yes ▸ same)

theorem ensures_key {field : Session → Option α} {name : String} (held : otherwise start)
    (found : ∀ value, field start.memory = some value → post value start) :
    Ensures (key field name) start post otherwise := by
  exact ensures_seq (ensures_state (ensures_lift
    (fun value read => found value (orReject_eq_ok.mp read)) held))

theorem ensures_observe {post : Value → World → Prop} (held : otherwise start)
    (observed : ∀ sample, post sample { start with samples := start.samples ++ [sample] }) :
    Ensures observe start post otherwise := by
  refine ensures_interact held fun turn => ?_
  cases turn.snapshot with
  | ok sample => exact observed sample
  | error error => exact held

end Interactions

/-- Nothing but samples was added. -/
def Quiet (start world : World) : Prop :=
  ∃ more, world = { start with samples := start.samples ++ more }

theorem Quiet.refl (world : World) : Quiet world world :=
  ⟨[], by rw [List.append_nil]⟩

theorem Quiet.trans {first second third : World} (quiet : Quiet first second)
    (later : Quiet second third) : Quiet first third := by
  obtain ⟨more, rfl⟩ := quiet
  obtain ⟨further, rfl⟩ := later
  exact ⟨more ++ further, by rw [List.append_assoc]⟩

theorem Quiet.steady {start world : World} (quiet : Quiet start world) (steady : Steady opened start) :
    Steady opened world := by
  obtain ⟨more, rfl⟩ := quiet
  obtain ⟨sound, faithful⟩ := steady
  exact ⟨{ sound with }, faithful⟩

section Looking

variable (settings : Settings) {start : World} (steady : Steady opened start)
include steady

theorem ensures_snapshot :
    Ensures (snapshot settings) start
      (fun sample world => Quiet start world ∧ sample ∈ world.samples) (Steady opened) := by
  refine ensures_seq (ensures_observe steady fun sample => ?_)
  have quiet : Quiet start { start with samples := start.samples ++ [sample] } := ⟨[sample], rfl⟩
  have held := quiet.steady steady
  refine ensures_seq (ensures_clock held fun now => ?_)
  refine ensures_seq (ensures_state ?_)
  refine ensures_seq (ensures_lift (fun _ _ => ?_) held)
  exact ensures_pure ⟨quiet, List.mem_append_right _ (List.mem_singleton_self _)⟩

omit steady in
theorem ensures_progress {otherwise : World → Prop} (held : otherwise start) (sample : Value)
    (content : Content) (previous : Option Value) :
    Ensures (progress settings sample content previous) start (fun _ world => world = start)
      otherwise := by
  refine ensures_seq (ensures_clock held fun now => ?_)
  refine ensures_seq (ensures_state ?_)
  exact ensures_lift (fun _ _ => rfl) held

theorem ensures_tryProgress (sample : Value) (content : Content) (previous : Option Value) :
    Ensures (tryProgress settings sample content previous) start (fun _ world => world = start)
      (Steady opened) := by
  have body : Ensures (do
      progress settings sample content previous
      return if previous.isSome then .inr sample else .inl (some sample) :
        Process (Option Value ⊕ Value)) start (fun _ world => world = start)
      fun world => world = start := by
    refine ensures_bind (ensures_progress settings (by rfl) sample content previous)
      fun _ world same => ?_
    exact ensures_pure same
  refine ensures_handle body (fun world same => same ▸ steady) fun error world same => ?_
  subst same
  split
  · exact ensures_pure rfl
  · exact ensures_throw steady

/-- One round of `wait_content` only looks. -/
theorem ensures_waitRound (content : Content) (deadline : ℚ) (previous : Option Value) :
    Ensures (waitRound settings content deadline previous) start
      (fun _ world => Quiet start world) (Steady opened) := by
  refine ensures_seq (ensures_clock steady fun now => ?_)
  split
  · refine ensures_bind (ensures_snapshot settings steady) fun sample world found => ?_
    have held := found.1.steady steady
    refine ensures_bind (ensures_tryProgress settings held sample content previous)
      fun outcome after same => ?_
    subst same
    cases outcome with
    | inr sample => exact ensures_pure found.1
    | inl previous => exact ensures_seq (ensures_sleep held (ensures_pure found.1))
  · exact ensures_throw steady

theorem ensures_waitContent (content : Content) :
    Ensures (waitContent settings content) start (fun _ world => Quiet start world) (Steady opened) := by
  refine ensures_seq (ensures_clock steady fun now => ?_)
  refine ensures_loop (I := fun _ world => Quiet start world)
    (fun _ world quiet => quiet.steady steady) (fun previous world quiet => ?_) (.refl start)
  refine ensures_weaken (ensures_waitRound settings (quiet.steady steady) content _ previous)
    (fun outcome after later => ?_) fun _ held => held
  cases outcome <;> exact quiet.trans later

omit settings in
theorem ensures_noUnknown :
    Ensures noUnknown start (fun _ world => world = start ∧ start.memory.AllApplied) (Steady opened) :=
  ensures_seq (ensures_state (ensures_require steady fun applied => ⟨rfl, applied⟩))

end Looking

/-- A session file that was replaced and synced. -/
def World.saved (world : World) (session : Session) : World :=
  { world with
    memory := session
    disk := ⟨session, session⟩
    writes := world.writes ++ [⟨world.method, world.samples, world.disk.visible, session⟩] }

section Saving

variable {start : World}

/-- A write that may release the inhibition only if that is earned. -/
theorem ensures_write (sound : Sound opened start)
    (earned : start.disk.visible.phase ≠ .normal → start.memory.phase = .normal →
      Write.Returned start.sightings
        ⟨start.method, start.samples, start.disk.visible, start.memory⟩) :
    Ensures write start
      (fun _ world => Sound opened world ∧ world = start.saved start.memory) (Sound opened) := by
  refine ensures_interact sound fun turn => ?_
  have written := sound.written earned
  cases turn.writing with
  | refused error => exact sound
  | unsynced kept error =>
    cases error with
    | none => exact written kept
    | some error => exact written kept
  | synced => exact ⟨written true, rfl⟩

/-- A write of a command that does not release the inhibition. -/
theorem ensures_steadyWrite (steady : Steady opened start) :
    Ensures write start
      (fun _ world => Steady opened world ∧ world = start.saved start.memory) (Steady opened) := by
  refine ensures_interact steady fun turn => ?_
  have written := steady.1.written fun active normal => (active (steady.2 normal)).elim
  cases turn.writing with
  | refused error => exact steady
  | unsynced kept error =>
    cases error with
    | none => exact ⟨written kept, fun normal => normal⟩
    | some error => exact ⟨written kept, fun normal => normal⟩
  | synced => exact ⟨⟨written true, fun normal => normal⟩, rfl⟩

/-- `save()`. -/
theorem ensures_save (steady : Steady opened start) :
    Ensures (save none) start
      (fun _ world => Steady opened world ∧
        ∃ now, world = start.saved { start.memory with updatedAt := some now }) (Steady opened) := by
  refine ensures_seq (ensures_pure ?_)
  refine ensures_seq (ensures_clock steady fun now => ensures_seq (ensures_change ?_))
  have held : Steady opened { start with memory := { start.memory with updatedAt := some now } } :=
    steady.remember rfl rfl rfl
  exact ensures_weaken (ensures_steadyWrite held)
    (fun _ world saved => ⟨saved.1, now, saved.2⟩) fun _ kept => kept

end Saving

/-- What an effect that returned leaves: its entry is APPLIED, and nothing else of the
session changed. -/
structure Settled (opened : Session) (start world : World) (name : EffectName) : Prop where
  steady : Steady opened world
  method : world.method = start.method
  memory : ∃ effects updated,
    world.memory = { start.memory with effects := effects, updatedAt := updated }
  saved : start.disk.visible = start.memory → world.disk.visible = world.memory
  has : world.memory.Has name
  kept : ∀ other, start.memory.Has other → world.memory.Has other
  settled : start.memory.AllApplied → world.memory.AllApplied
  samples : ∀ sample ∈ start.samples, sample ∈ world.samples

section Effects

variable (settings : Settings) {start : World}

/-- The entry that an effect appends and saves. -/
def Session.announced (session : Session) (entry : Effect) (now : ℚ) : Session :=
  { session with effects := session.effects ++ [entry], updatedAt := some now }

theorem Session.has_mark_self (session : Session) {name : EffectName}
    (named : name ∈ session.names) : (session.mark name .applied).Has name := by
  obtain ⟨effect, member, rfl⟩ := List.mem_map.mp named
  refine ⟨{ effect with result := .applied }, List.mem_map.mpr ⟨effect, member, ?_⟩, rfl, rfl⟩
  rw [if_pos rfl]

theorem Session.has_mark (session : Session) {name other : EffectName} (has : session.Has other) :
    (session.mark name .applied).Has other := by
  obtain ⟨effect, member, named, result⟩ := has
  by_cases same : effect.name = name
  · refine ⟨{ effect with result := .applied }, List.mem_map.mpr ⟨effect, member, ?_⟩, named, rfl⟩
    rw [if_pos same]
  · refine ⟨effect, List.mem_map.mpr ⟨effect, member, ?_⟩, named, result⟩
    rw [if_neg same]

theorem Session.allApplied_mark (session : Session) {name : EffectName}
    (others : ∀ effect ∈ session.effects, effect.name ≠ name → effect.result = .applied) :
    (session.mark name .applied).AllApplied := by
  intro effect member
  obtain ⟨earlier, listed, rfl⟩ := List.mem_map.mp member
  by_cases same : earlier.name = name
  · rw [if_pos same]
  · rw [if_neg same]
    exact others earlier listed same

/-- The dispatch of an entry that was announced in the saved record. -/
theorem ensures_perform (session : Session) (entry : Effect) (now : ℚ) (current : Value)
    (steady : Steady opened start) (memory : start.memory = session.announced entry now)
    (saved : start.disk = ⟨start.memory, start.memory⟩) (pending : entry.result = .pending)
    (fresh : entry.name ∉ session.names) (settled : session.AllApplied)
    (unspent : ∀ dispatch ∈ start.dispatches, dispatch.session = session.sessionId →
      dispatch.effect.name ≠ entry.name)
    (prepared : entry.request.scalesToZero → session.Has .quiesce ∧ session.Has .armSlate) :
    Ensures (perform settings entry current) start
      (fun _ world => Steady opened world ∧ world.method = start.method ∧
        (∃ updated, world.memory =
          { start.memory.mark entry.name .applied with updatedAt := updated }) ∧
        world.disk.visible = world.memory ∧
        ∀ sample ∈ start.samples, sample ∈ world.samples) (Steady opened) := by
  refine ensures_seq (ensures_lift (fun _ _ => ?_) steady)
  have called : Steady opened { start with
      dispatches := start.dispatches ++ [⟨start.memory.sessionId, entry, start.disk⟩] } := by
    have has : ∀ {name}, session.Has name → start.memory.Has name := by
      rintro name ⟨effect, member, rest⟩
      rw [memory]
      exact ⟨effect, List.mem_append_left _ member, rest⟩
    refine steady.dispatch (by rw [saved]) (by rw [saved])
      (congrArg Session.effects memory) pending fresh ?_ settled ?_
    · intro dispatch member same
      rw [memory] at same
      exact unspent dispatch member same
    · exact fun scales => ⟨has (prepared scales).1, has (prepared scales).2⟩
  have dispatched : Ensures (dispatch entry) start
      (fun _ world => world = { start with
        dispatches := start.dispatches ++ [⟨start.memory.sessionId, entry, start.disk⟩] }) (Steady opened) := by
    refine ensures_interact steady fun turn => ?_
    cases turn.reply with
    | none => exact called
    | some reply =>
      cases reply with
      | ok _ => exact rfl
      | error error => exact called
  refine ensures_bind dispatched fun _ world same => ?_
  subst same
  refine ensures_bind (ensures_snapshot settings called) fun sample world found => ?_
  obtain ⟨⟨more, rfl⟩, _⟩ := found
  have looked : Steady opened { start with
      dispatches := start.dispatches ++ [⟨start.memory.sessionId, entry, start.disk⟩]
      samples := start.samples ++ more } := Quiet.steady ⟨more, rfl⟩ called
  refine ensures_seq (ensures_requireThat looked fun confirmed => ?_)
  refine ensures_seq (ensures_modify ?_)
  have sighted := looked.sight ⟨start.memory.sessionId, entry, sample⟩
  refine ensures_seq (ensures_change ?_)
  have marked := sighted.markApplied entry.name ?_
  · refine ensures_weaken (ensures_save marked) (fun _ world done => ?_) fun _ kept => kept
    obtain ⟨held, later, rfl⟩ := done
    exact ⟨held, rfl, ⟨_, rfl⟩, rfl, fun sample member => List.mem_append_left _ member⟩
  · intro effect member named
    have effects : start.memory.effects = session.effects ++ [entry] :=
      congrArg Session.effects memory
    have listed : effect ∈ session.effects ++ [entry] := effects ▸ member
    rcases List.mem_append.mp listed with earlier | new
    · exact (fresh (List.mem_map.mpr ⟨effect, earlier, named⟩)).elim
    · rw [List.mem_singleton.mp new]
      exact ⟨_, List.mem_append_right _ (List.mem_singleton_self _), rfl, rfl, rfl, confirmed⟩

/-- An effect is dispatched at most once, after its entry is durable, and returns only
when it was seen to be applied. -/
theorem ensures_effect (steady : Steady opened start) (name : EffectName) (role : Role)
    (request : Request) (prepared : request.scalesToZero →
      start.memory.Has .quiesce ∧ start.memory.Has .armSlate) :
    Ensures (effect settings name role request) start
      (fun _ world => Settled opened start world name) (Steady opened) := by
  refine ensures_seq (ensures_state ?_)
  cases found : start.memory.effect? name with
  | some previous =>
    refine ensures_require steady fun applied => ?_
    have named : previous.name = name := by
      simpa using List.find?_some found
    exact ⟨steady, rfl, ⟨_, _, rfl⟩, fun same => same,
      ⟨previous, List.mem_of_find?_eq_some found, named, applied⟩, fun _ has => has,
      fun applied => applied, fun _ member => member⟩
  | none =>
    have fresh : name ∉ start.memory.names := by
      intro listed
      obtain ⟨effect, member, named⟩ := List.mem_map.mp listed
      simpa [named] using List.find?_eq_none.mp found effect member
    refine ensures_bind (ensures_noUnknown steady) fun _ world still => ?_
    obtain ⟨rfl, settled⟩ := still
    refine ensures_bind (ensures_snapshot settings steady) fun current looked quiet => ?_
    have held := quiet.1.steady steady
    obtain ⟨⟨more, rfl⟩, _⟩ := quiet
    refine ensures_seq (ensures_clock held fun now => ensures_seq (ensures_change ?_))
    let entry : Effect := ⟨name, role, request, .pending, now, none⟩
    have appended := held.append entry rfl fresh
    refine ensures_bind (ensures_save appended) fun _ saved done => ?_
    obtain ⟨announced, later, rfl⟩ := done
    have unspent : ∀ dispatch ∈ world.dispatches,
        dispatch.session = world.memory.sessionId → dispatch.effect.name ≠ name := by
      intro dispatch member same named
      exact fresh (named ▸ steady.1.coversMemory.listed dispatch member same)
    have performed := ensures_perform settings world.memory entry later current announced rfl rfl
      rfl fresh settled unspent prepared
    refine ensures_handle (ensures_weaken performed (fun _ after done => ?_) fun _ kept => kept)
      (fun _ kept => kept) fun error after left => ?_
    swap
    · refine ensures_seq (ensures_change ?_)
      refine ensures_bind (ensures_save (left.markUnknown name)) fun _ unknown saved => ?_
      exact ensures_throw saved.1
    obtain ⟨finished, method, ⟨updated, memory⟩, saved, samples⟩ := done
    exact {
      steady := finished
      method := method
      memory := ⟨_, _, memory⟩
      saved := fun _ => saved
      has := by
        rw [memory]
        exact Session.has_mark_self (world.memory.announced entry later)
          (by simp [Session.names, Session.announced])
      kept := fun other has => by
        rw [memory]
        obtain ⟨effect, member, rest⟩ := has
        exact Session.has_mark (world.memory.announced entry later)
          ⟨effect, List.mem_append_left _ member, rest⟩
      settled := fun applied => by
        rw [memory]
        refine Session.allApplied_mark (world.memory.announced entry later)
          fun effect member other => ?_
        rcases List.mem_append.mp member with earlier | new
        · exact applied effect earlier
        · rw [List.mem_singleton.mp new] at other
          exact (other rfl).elim
      samples := fun sample member => samples sample (List.mem_append_left _ member) }

end Effects

end LiveStream.Maintenance
