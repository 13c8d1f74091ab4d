import LiveStream.Maintenance.Commands

/-! What every store keeps: sessions only grow newer from disk to memory, every dispatch
is in each record of its session, and each record is backed by what was observed. -/

namespace LiveStream.Maintenance

open LiveStream.Support Script Process

/-- Sessions in the order of their ids; the first record has none. -/
def ageOf : Option Nat → Nat
  | none => 0
  | some session => session + 1

theorem ageOf_injective {first second : Option Nat} (same : ageOf first = ageOf second) :
    first = second := by
  cases first <;> cases second
  · rfl
  · cases same
  · cases same
  · exact congrArg some (Nat.succ.inj same)

def Session.age (session : Session) : Nat := ageOf session.sessionId

/-- A record of an older session, or of the same one, which NORMAL then ends. -/
structure Session.Older (first second : Session) : Prop where
  age : first.age ≤ second.age
  ended : first.sessionId = second.sessionId → first.phase = .normal → second.phase = .normal

theorem Session.Older.refl (session : Session) : session.Older session :=
  ⟨le_rfl, fun _ ended => ended⟩

theorem Session.Older.trans {first second third : Session} (older : first.Older second)
    (newer : second.Older third) : first.Older third := by
  refine ⟨older.age.trans newer.age, fun same ended => ?_⟩
  have ages : first.age = third.age := congrArg ageOf same
  have middle : first.sessionId = second.sessionId := by
    apply ageOf_injective
    exact le_antisymm older.age (newer.age.trans ages.ge)
  exact newer.ended (middle.symm.trans same) (older.ended middle ended)

/-- The effect was seen to be applied in its session. -/
def Seen (sightings : List Sighting) (session : Option Nat) (effect : Effect) : Prop :=
  ∃ sighting ∈ sightings, sighting.session = session ∧ sighting.effect.name = effect.name ∧
    sighting.effect.request = effect.request ∧
    applied sighting.effect sighting.sample = .ok true

/-- A record that lists each effect once and what was dispatched in its session, with
APPLIED only for what was seen. -/
structure Covers (dispatches : List Dispatch) (sightings : List Sighting) (session : Session) :
    Prop where
  distinct : session.names.Nodup
  listed : ∀ dispatch ∈ dispatches, dispatch.session = session.sessionId →
    dispatch.effect.name ∈ session.names
  seen : ∀ effect ∈ session.effects, effect.result = .applied →
    Seen sightings session.sessionId effect

/-- A call whose PENDING entry is durable while every other entry is APPLIED. -/
def Dispatch.Announced (dispatch : Dispatch) : Prop :=
  dispatch.effect.result = .pending ∧ dispatch.disk.durable.sessionId = dispatch.session ∧
    ∃ earlier, dispatch.disk.durable.effects = earlier ++ [dispatch.effect] ∧
      dispatch.effect.name ∉ earlier.map (·.name) ∧ ∀ effect ∈ earlier, effect.result = .applied

/-- The entry of an effect is APPLIED in the record. -/
def Session.Has (session : Session) (name : EffectName) : Prop :=
  ∃ effect ∈ session.effects, effect.name = name ∧ effect.result = .applied

/-- The main workload is scaled to 0 only with the timer quiesced and the slate armed. -/
def Dispatch.Prepared (dispatch : Dispatch) : Prop :=
  dispatch.effect.request.scalesToZero →
    dispatch.disk.durable.Has .quiesce ∧ dispatch.disk.durable.Has .armSlate

/-- A release of the inhibition that is earned: everything of the session is applied and
seen, the path is back and the players were attested before. -/
structure Write.Returned (sightings : List Sighting) (write : Write) : Prop where
  method : write.method = .complete
  session : write.before.sessionId = write.after.sessionId
  applied : write.after.AllApplied
  restored : ∃ effect ∈ write.after.effects, effect.name = .restoreUnits ∧
    Seen sightings write.after.sessionId effect
  path : ∃ stability before, write.after.stability = some stability ∧
    write.after.before = some before ∧ stability.sample ∈ write.samples ∧
    equals (stability.sample.path ["oci", "path_fields"]) (before.path ["oci", "path_fields"]) =
      .ok true
  attested : write.before.livePlayerConfirmation.isSome = true ∧
    write.after.livePlayerConfirmation.isSome = true

/-- A replacement of the session file that releases the inhibition only if it is earned. -/
def Write.Earned (sightings : List Sighting) (write : Write) : Prop :=
  write.before.phase ≠ .normal → write.after.phase = .normal → write.Returned sightings

/-- Replacements that lead from one session file to another. -/
def Chain : Session → List Write → Session → Prop
  | first, [], last => last = first
  | first, write :: rest, last => write.before = first ∧ Chain write.after rest last

theorem Chain.append {first last : Session} {writes : List Write} (chain : Chain first writes last)
    {write : Write} (next : write.before = last) : Chain first (writes ++ [write]) write.after := by
  induction writes generalizing first with
  | nil => exact ⟨next.trans chain, rfl⟩
  | cons earlier rest inductionHypothesis => exact ⟨chain.1, inductionHypothesis chain.2⟩

/-- What every store keeps, between commands and within them; `opened` is the session file
that the running command found. -/
structure Sound (opened : Session) (world : World) : Prop where
  visible : world.disk.durable.Older world.disk.visible
  memory : world.disk.visible.Older world.memory
  issued : world.memory.age ≤ world.issued
  spent : ∀ dispatch ∈ world.dispatches, ageOf dispatch.session ≤ world.disk.durable.age
  coversMemory : Covers world.dispatches world.sightings world.memory
  coversVisible : Covers world.dispatches world.sightings world.disk.visible
  coversDurable : Covers world.dispatches world.sightings world.disk.durable
  once : (world.dispatches.map fun dispatch => (dispatch.session, dispatch.effect.name)).Nodup
  ordered : world.dispatches.Pairwise fun first later => first.session = later.session →
    first.effect.name ∈ later.disk.durable.names
  announced : ∀ dispatch ∈ world.dispatches, dispatch.Announced
  prepared : ∀ dispatch ∈ world.dispatches, dispatch.Prepared
  chained : Chain opened world.writes world.disk.visible
  earned : ∀ write ∈ world.writes, write.Earned world.sightings

/-- Within a command: the copy in memory is NORMAL only if the session file is. -/
def Steady (opened : Session) (world : World) : Prop :=
  Sound opened world ∧ (world.memory.phase = .normal → world.disk.visible.phase = .normal)

variable {opened : Session}

theorem Covers.of_same {dispatches : List Dispatch} {sightings : List Sighting}
    {first second : Session} (covers : Covers dispatches sightings first)
    (session : second.sessionId = first.sessionId) (effects : second.effects = first.effects) :
    Covers dispatches sightings second := by
  obtain ⟨distinct, listed, seen⟩ := covers
  constructor
  · rw [Session.names, effects]
    exact distinct
  · intro dispatch member same
    rw [Session.names, effects]
    exact listed dispatch member (same.trans session)
  · rw [effects, session]
    exact seen

theorem Seen.mono {sightings : List Sighting} {session : Option Nat} {effect : Effect}
    (seen : Seen sightings session effect) (more : List Sighting) :
    Seen (sightings ++ more) session effect := by
  obtain ⟨sighting, member, rest⟩ := seen
  exact ⟨sighting, List.mem_append_left _ member, rest⟩

/-- The copy in memory may change where neither session nor effects nor phase do. -/
theorem Sound.remember {world : World} (sound : Sound opened world) {session : Session}
    (same : session.sessionId = world.memory.sessionId)
    (effects : session.effects = world.memory.effects)
    (phase : world.memory.phase = .normal → session.phase = .normal) :
    Sound opened { world with memory := session } := by
  have ages : session.age = world.memory.age := congrArg ageOf same
  exact { sound with
    memory := ⟨sound.memory.age.trans ages.ge, fun visible ended =>
      phase (sound.memory.ended (visible.trans same) ended)⟩
    issued := ages.le.trans sound.issued
    coversMemory := sound.coversMemory.of_same same effects }

theorem Steady.remember {world : World} (steady : Steady opened world) {session : Session}
    (same : session.sessionId = world.memory.sessionId)
    (effects : session.effects = world.memory.effects)
    (phase : session.phase = world.memory.phase) : Steady opened { world with memory := session } :=
  ⟨steady.1.remember same effects phase.trans, fun normal => steady.2 (phase.symm.trans normal)⟩

/-- A change of what neither identifies the session nor inhibits anything. -/
theorem Steady.update {world : World} (steady : Steady opened world) (update : Session → Session)
    (same : ∀ session, (update session).sessionId = session.sessionId ∧
      (update session).effects = session.effects ∧ (update session).phase = session.phase) :
    Steady opened { world with memory := update world.memory } :=
  steady.remember (same _).1 (same _).2.1 (same _).2.2

/-- The names of a marked session are those of the session. -/
@[simp] theorem Session.names_mark (session : Session) (name : EffectName)
    (result : EffectResult) : (session.mark name result).names = session.names := by
  simp only [Session.names, Session.mark, List.map_map]
  refine List.map_congr_left fun effect _ => ?_
  simp only [Function.comp_apply]
  split <;> rfl

section Steps

variable {world : World} (steady : Steady opened world)
include steady

/-- An effect that is marked as unknown backs no more than before. -/
theorem Steady.markUnknown (name : EffectName) :
    Steady opened { world with memory := world.memory.mark name .outcomeUnknown } := by
  obtain ⟨sound, faithful⟩ := steady
  refine ⟨{ sound with
    memory := ⟨sound.memory.age, sound.memory.ended⟩
    issued := sound.issued
    coversMemory := ⟨?_, fun dispatch member same => ?_, fun effect member result => ?_⟩ }, faithful⟩
  · rw [Session.names_mark]
    exact sound.coversMemory.distinct
  · rw [Session.names_mark]
    exact sound.coversMemory.listed dispatch member same
  · obtain ⟨earlier, listed, rfl⟩ := List.mem_map.mp member
    by_cases named : earlier.name = name
    · simp [named] at result
    · rw [if_neg named] at result ⊢
      exact sound.coversMemory.seen earlier listed result

/-- An effect that was seen may be marked as applied. -/
theorem Steady.markApplied (name : EffectName)
    (seen : ∀ effect ∈ world.memory.effects, effect.name = name →
      Seen world.sightings world.memory.sessionId effect) :
    Steady opened { world with memory := world.memory.mark name .applied } := by
  obtain ⟨sound, faithful⟩ := steady
  refine ⟨{ sound with
    memory := ⟨sound.memory.age, sound.memory.ended⟩
    issued := sound.issued
    coversMemory := ⟨?_, fun dispatch member same => ?_, fun effect member result => ?_⟩ }, faithful⟩
  · rw [Session.names_mark]
    exact sound.coversMemory.distinct
  · rw [Session.names_mark]
    exact sound.coversMemory.listed dispatch member same
  · obtain ⟨earlier, listed, rfl⟩ := List.mem_map.mp member
    by_cases named : earlier.name = name
    · rw [if_pos named]
      exact seen earlier listed named
    · rw [if_neg named] at result ⊢
      exact sound.coversMemory.seen earlier listed result

/-- A new entry is PENDING. -/
theorem Steady.append (entry : Effect) (pending : entry.result = .pending)
    (fresh : entry.name ∉ world.memory.names) :
    Steady opened { world with
      memory := { world.memory with effects := world.memory.effects ++ [entry] } } := by
  obtain ⟨sound, faithful⟩ := steady
  refine ⟨{ sound with
    memory := ⟨sound.memory.age, sound.memory.ended⟩
    issued := sound.issued
    coversMemory := ⟨?_, fun dispatch member same => ?_, fun effect member result => ?_⟩ }, faithful⟩
  · rw [Session.names, List.map_append, List.nodup_append]
    refine ⟨sound.coversMemory.distinct, List.nodup_singleton _, ?_⟩
    rintro name listed other single rfl
    rw [List.map_singleton, List.mem_singleton] at single
    exact fresh (single ▸ listed)
  · rw [Session.names, List.map_append, List.mem_append]
    exact Or.inl (sound.coversMemory.listed dispatch member same)
  · rcases List.mem_append.mp member with earlier | new
    · exact sound.coversMemory.seen effect earlier result
    · rw [List.mem_singleton.mp new, pending] at result
      cases result

/-- A sighting backs at least as much as before. -/
theorem Steady.sight (sighting : Sighting) :
    Steady opened { world with sightings := world.sightings ++ [sighting] } := by
  obtain ⟨sound, faithful⟩ := steady
  have more : ∀ session, Covers world.dispatches world.sightings session →
      Covers world.dispatches (world.sightings ++ [sighting]) session :=
    fun session covers => ⟨covers.distinct, covers.listed, fun effect member result =>
      (covers.seen effect member result).mono _⟩
  refine ⟨{ sound with
    coversMemory := more _ sound.coversMemory
    coversVisible := more _ sound.coversVisible
    coversDurable := more _ sound.coversDurable
    earned := fun write member active ended => ?_ }, faithful⟩
  have returned := sound.earned write member active ended
  obtain ⟨effect, listed, named, seen⟩ := returned.restored
  exact { returned with restored := ⟨effect, listed, named, seen.mono _⟩ }

/-- A session that begins has an id that no record and no dispatch has. -/
theorem Steady.begin {session : Session} {fresh : Nat} (drawn : session.sessionId = some fresh)
    (unused : world.memory.age ≤ fresh) (issued : world.issued = fresh + 1)
    (empty : session.effects = []) (active : session.phase ≠ .normal) :
    Steady opened { world with memory := session } := by
  obtain ⟨sound, _⟩ := steady
  have age : session.age = fresh + 1 := congrArg ageOf drawn
  have newer : world.disk.visible.age < session.age := by
    have bound := sound.memory.age.trans unused
    omega
  refine ⟨{ sound with
    memory := ⟨newer.le, fun same _ => ?_⟩
    issued := ?_
    coversMemory := ⟨?_, fun dispatch member same => ?_, fun effect member _ => ?_⟩ },
    fun normal => (active normal).elim⟩
  · exact (newer.ne (congrArg ageOf same)).elim
  · change session.age ≤ world.issued
    omega
  · rw [Session.names, empty]
    exact List.nodup_nil
  · have spent := (sound.spent dispatch member).trans sound.visible.age
    rw [same] at spent
    exact (Nat.not_le.mpr newer spent).elim
  · rw [empty] at member
    cases member

end Steps

/-- A replacement of the session file that may release the inhibition. -/
theorem Sound.written {world : World} (sound : Sound opened world)
    (earned : world.disk.visible.phase ≠ .normal → world.memory.phase = .normal →
      Write.Returned world.sightings
        ⟨world.method, world.samples, world.disk.visible, world.memory⟩)
    (kept : Bool) :
    Sound opened { world with
      disk := ⟨world.memory, if kept then world.memory else world.disk.durable⟩
      writes := world.writes ++
        [⟨world.method, world.samples, world.disk.visible, world.memory⟩] } := by
  have writes : ∀ write ∈ world.writes ++
      [⟨world.method, world.samples, world.disk.visible, world.memory⟩],
      write.Earned world.sightings := by
    intro write member
    rcases List.mem_append.mp member with earlier | new
    · exact sound.earned write earlier
    · rw [List.mem_singleton.mp new]
      exact earned
  cases kept with
  | true =>
    exact { sound with
      visible := .refl _
      memory := .refl _
      spent := fun dispatch member =>
        (sound.spent dispatch member).trans (sound.visible.age.trans sound.memory.age)
      coversVisible := sound.coversMemory
      coversDurable := sound.coversMemory
      chained := sound.chained.append rfl
      earned := writes }
  | false =>
    exact { sound with
      visible := sound.visible.trans sound.memory
      memory := .refl _
      coversVisible := sound.coversMemory
      coversDurable := sound.coversDurable
      chained := sound.chained.append rfl
      earned := writes }

/-- A dispatch whose entry was just saved. -/
theorem Steady.dispatch {world : World} (steady : Steady opened world) {effect : Effect}
    {earlier : List Effect} (durable : world.disk.durable = world.memory)
    (visible : world.disk.visible = world.memory)
    (listed : world.memory.effects = earlier ++ [effect]) (pending : effect.result = .pending)
    (fresh : effect.name ∉ earlier.map (·.name))
    (unspent : ∀ dispatch ∈ world.dispatches, dispatch.session = world.memory.sessionId →
      dispatch.effect.name ≠ effect.name)
    (settled : ∀ effect ∈ earlier, effect.result = .applied)
    (prepared : effect.request.scalesToZero →
      world.memory.Has .quiesce ∧ world.memory.Has .armSlate) :
    Steady opened { world with
      dispatches := world.dispatches ++ [⟨world.memory.sessionId, effect, world.disk⟩] } := by
  obtain ⟨sound, faithful⟩ := steady
  have named : effect.name ∈ world.memory.names := by
    simp [Session.names, listed]
  have covers : Covers (world.dispatches ++ [⟨world.memory.sessionId, effect, world.disk⟩])
      world.sightings world.memory := by
    refine ⟨sound.coversMemory.distinct, fun dispatch member same => ?_, sound.coversMemory.seen⟩
    rcases List.mem_append.mp member with before | new
    · exact sound.coversMemory.listed dispatch before same
    · rw [List.mem_singleton.mp new]
      exact named
  refine ⟨{ sound with
    spent := fun dispatch member => ?_
    coversMemory := covers
    coversVisible := visible ▸ covers
    coversDurable := durable ▸ covers
    once := ?_
    ordered := ?_
    announced := fun dispatch member => ?_
    prepared := fun dispatch member => ?_ }, faithful⟩
  · rcases List.mem_append.mp member with before | new
    · exact sound.spent dispatch before
    · rw [List.mem_singleton.mp new]
      exact (congrArg Session.age durable).ge
  · rw [List.map_append, List.nodup_append]
    refine ⟨sound.once, List.nodup_singleton _, ?_⟩
    intro key member other single same
    obtain ⟨dispatch, before, rfl⟩ := List.mem_map.mp member
    rw [List.map_singleton, List.mem_singleton] at single
    rw [single] at same
    obtain ⟨session, name⟩ := Prod.mk.inj same
    exact unspent dispatch before session name
  · rw [List.pairwise_append]
    refine ⟨sound.ordered, List.pairwise_singleton _ _, fun first before later new same => ?_⟩
    rw [List.mem_singleton.mp new] at same ⊢
    have listed := sound.coversMemory.listed first before same
    rw [← durable] at listed
    exact listed
  · rcases List.mem_append.mp member with before | new
    · exact sound.announced dispatch before
    · rw [List.mem_singleton.mp new]
      exact ⟨pending, congrArg Session.sessionId durable, earlier,
        (congrArg Session.effects durable).trans listed, fresh, settled⟩
  · rcases List.mem_append.mp member with before | new
    · exact sound.prepared dispatch before
    · rw [List.mem_singleton.mp new]
      intro scales
      have ready := prepared scales
      rw [← durable] at ready
      exact ready

end LiveStream.Maintenance
