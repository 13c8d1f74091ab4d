import LiveStream.Maintenance.Phases

/-! Runs of maintenance commands over one store: every effect is dispatched at most once
in a session, and the inhibition ends with a verified return only. -/

namespace LiveStream.Maintenance

open LiveStream.Support Script

theorem sound_initial : Sound .initial .initial where
  visible := .refl _
  memory := .refl _
  issued := le_rfl
  spent := by simp [World.initial]
  coversMemory := ⟨List.nodup_nil, by simp [World.initial], by simp [World.initial, Session.initial]⟩
  coversVisible := ⟨List.nodup_nil, by simp [World.initial], by simp [World.initial, Session.initial]⟩
  coversDurable := ⟨List.nodup_nil, by simp [World.initial], by simp [World.initial, Session.initial]⟩
  once := List.nodup_nil
  ordered := List.Pairwise.nil
  announced := by simp [World.initial]
  prepared := by simp [World.initial]
  chained := rfl
  earned := by simp [World.initial]

variable {opened : Session} {world : World} (sound : Sound opened world)
include sound

/-- A command starts on a copy of the session file. -/
theorem Sound.started : Steady world.disk.visible world.started :=
  ⟨{ sound with
    memory := .refl _
    issued := sound.memory.age.trans sound.issued
    coversMemory := sound.coversVisible
    chained := rfl
    earned := by simp [World.started] }, fun normal => normal⟩

theorem Sound.command (settings : Settings) (command : Command) (turns : List Turn) :
    Sound world.disk.visible (world.move (.command settings command turns)) := by
  have left := sound_command settings command sound.started turns
  change Sound _ ((command.script settings).run turns world.started).2.2
  rcases ended : (command.script settings).run turns world.started with
    ⟨value | error | _, rest, after⟩ <;>
    rw [ended] at left <;> exact left

theorem Sound.powerLoss (archives : List Nat) :
    Sound world.disk.durable (world.move (.powerLoss archives)) :=
  { sound with
    visible := .refl _
    memory := sound.visible.trans sound.memory
    coversVisible := sound.coversDurable
    chained := rfl
    earned := by simp [World.move] }

omit sound

theorem sound_run (moves : List Move) : ∃ opened, Sound opened (World.run moves) := by
  unfold World.run
  induction moves using List.reverseRecOn with
  | nil => exact ⟨_, sound_initial⟩
  | append_singleton earlier move inductionHypothesis =>
    rw [List.foldl_append]
    obtain ⟨opened, sound⟩ := inductionHypothesis
    cases move with
    | powerLoss archives => exact ⟨_, sound.powerLoss archives⟩
    | command settings command turns => exact ⟨_, sound.command settings command turns⟩

/-- Over every run of commands, with crashes, exceptions and failed writes anywhere, each
effect of a session is dispatched at most once; its PENDING entry is durable before, and
then every other effect of the session, in particular each one dispatched before, is
APPLIED. -/
theorem effects_dispatched_once (moves : List Move) :
    ((World.run moves).dispatches.map fun dispatch =>
        (dispatch.session, dispatch.effect.name)).Nodup ∧
      (∀ dispatch ∈ (World.run moves).dispatches,
        dispatch.effect.result = .pending ∧
          dispatch.disk.durable.sessionId = dispatch.session ∧
          dispatch.effect ∈ dispatch.disk.durable.effects ∧
          ∀ other ∈ dispatch.disk.durable.effects, other.name ≠ dispatch.effect.name →
            other.result = .applied) ∧
      (World.run moves).dispatches.Pairwise fun first later =>
        first.session = later.session →
          first.effect.name ≠ later.effect.name ∧
            later.disk.durable.Has first.effect.name := by
  obtain ⟨opened, sound⟩ := sound_run moves
  refine ⟨sound.once, fun dispatch member => ?_, ?_⟩
  · obtain ⟨pending, session, earlier, listed, _, settled⟩ := sound.announced dispatch member
    refine ⟨pending, session, ?_, fun other present different => ?_⟩
    · rw [listed]
      exact List.mem_append_right _ (List.mem_singleton_self _)
    · rw [listed] at present
      rcases List.mem_append.mp present with before | new
      · exact settled other before
      · rw [List.mem_singleton.mp new] at different
        exact (different rfl).elim
  · have distinct : (World.run moves).dispatches.Pairwise fun first later =>
        (first.session, first.effect.name) ≠ (later.session, later.effect.name) :=
      List.pairwise_map.mp sound.once
    refine (sound.ordered.and distinct).imp_of_mem fun {first later} _ present both same => ?_
    obtain ⟨ordered, different⟩ := both
    have name : first.effect.name ≠ later.effect.name := fun named =>
      different (Prod.ext same named)
    refine ⟨name, ?_⟩
    obtain ⟨_, _, earlier, listed, _, settled⟩ := sound.announced later present
    obtain ⟨effect, member, named⟩ := List.mem_map.mp (ordered same)
    refine ⟨effect, member, named, ?_⟩
    rw [listed] at member
    rcases List.mem_append.mp member with before | new
    · exact settled effect before
    · rw [List.mem_singleton.mp new] at named
      exact (name named.symm).elim

/-- A power loss that takes the session file from another phase back to NORMAL undoes a
session in which nothing was dispatched. -/
theorem Sound.powerLoss_normal (sound : Sound opened world)
    (active : world.disk.visible.phase ≠ .normal) (ended : world.disk.durable.phase = .normal) :
    ∀ dispatch ∈ world.dispatches, dispatch.session ≠ world.disk.visible.sessionId := by
  intro dispatch member same
  have spent := sound.spent dispatch member
  rw [same] at spent
  have session : world.disk.durable.sessionId = world.disk.visible.sessionId :=
    ageOf_injective (le_antisymm sound.visible.age spent)
  exact active (sound.visible.ended session ended)

/-- In every run, a command changes the session file by replacements only, of which the
ones from another phase to NORMAL are those at the end of a verified `complete`; and the
main workload is scaled to 0 only with the timer quiesced and the slate armed. -/
theorem maintenance_ends_verified (moves : List Move) (settings : Settings) (command : Command)
    (turns : List Turn) :
    let before := World.run moves
    let after := before.move (.command settings command turns)
    Chain before.disk.visible after.writes after.disk.visible ∧
      (∀ write ∈ after.writes, write.before.phase ≠ .normal → write.after.phase = .normal →
        write.Returned after.sightings) ∧
      (∀ dispatch ∈ after.dispatches, dispatch.effect.request.scalesToZero →
        dispatch.disk.durable.sessionId = dispatch.session ∧
          dispatch.disk.durable.Has .quiesce ∧ dispatch.disk.durable.Has .armSlate) ∧
      ∀ archives, after.disk.visible.phase ≠ .normal →
        (after.move (.powerLoss archives)).disk.visible.phase = .normal →
          ∀ dispatch ∈ after.dispatches, dispatch.session ≠ after.disk.visible.sessionId := by
  intro before after
  obtain ⟨opened, earlier⟩ := sound_run moves
  have sound : Sound before.disk.visible after := earlier.command settings command turns
  refine ⟨sound.chained, sound.earned, fun dispatch member scales => ?_, fun archives active ended => ?_⟩
  · obtain ⟨_, session, _⟩ := sound.announced dispatch member
    exact ⟨session, sound.prepared dispatch member scales⟩
  · exact sound.powerLoss_normal active ended

end LiveStream.Maintenance
