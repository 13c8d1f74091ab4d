import LiveStream.Maintenance.Stability

/-! The release of the inhibition: if every failing verification sample clears the stability
window, then `complete` releases only after an uninterrupted window of passed samples. -/

namespace LiveStream.Maintenance

open LiveStream.Support Script Process

/-- No record has a window. -/
def World.Windowless (world : World) : Prop :=
  world.memory.stability = none ∧ world.disk.visible.stability = none ∧
    world.disk.durable.stability = none

instance (world : World) : Decidable world.Windowless :=
  inferInstanceAs (Decidable (_ ∧ _ ∧ _))

/-- The record is saved, and the directory is synced. -/
def Saves : List Turn → Prop
  | timing :: writing :: _ => timing.signal = none ∧ writing.signal = none ∧ writing.writing = .synced
  | [] | [_] => False

deriving instance DecidableEq for Writing

instance : DecidablePred Saves
  | timing :: writing :: _ => inferInstanceAs (Decidable
      (timing.signal = none ∧ writing.signal = none ∧ writing.writing = .synced))
  | [] | [_] => inferInstanceAs (Decidable False)

/-- A sample that passed is saved with its window. -/
def Stores : Option Stability → List Turn → Prop
  | some _, rest => Saves rest
  | none, timing :: rest => timing.signal = none ∧ Saves rest
  | none, [] => False

instance (resumed : Option Stability) : DecidablePred (Stores resumed) := fun rest =>
  match resumed, rest with
  | some _, rest => inferInstanceAs (Decidable (Saves rest))
  | none, timing :: rest => inferInstanceAs (Decidable (timing.signal = none ∧ Saves rest))
  | none, [] => inferInstanceAs (Decidable False)

/-- The sample was not judged, or failed in the `try` block with a ValueError, TypeError or
KeyError, or passed, and then the record is saved. -/
def Verdict.Settles (resumed : Option Stability) : Verdict → Prop
  | .cut => True
  | .outside _ _ => False
  | .inside error rest => isProgressError error = true ∧ Saves rest
  | .passed _ rest => Stores resumed rest

instance (resumed : Option Stability) (verdict : Verdict) : Decidable (verdict.Settles resumed) :=
  match verdict with
  | .cut => inferInstanceAs (Decidable True)
  | .outside _ _ => inferInstanceAs (Decidable False)
  | .inside error rest => inferInstanceAs (Decidable (isProgressError error = true ∧ Saves rest))
  | .passed _ rest => inferInstanceAs (Decidable (Stores resumed rest))

/-- The call finds no window, or its sample settles. -/
def Call.Settles (call : Call) : Prop :=
  call.world.Windowless ∨ call.verdict.Settles call.world.memory.stability

instance (call : Call) : Decidable call.Settles := inferInstanceAs (Decidable (_ ∨ _))

/-- A comparison of what a sample and the one before have at a path. -/
def compares (relation : Value → Value → Except PyError Bool) (sample previous : Value)
    (path : List String) : Except PyError Bool := do
  let left ← sample.path path
  let right ← previous.path path
  relation left right

/-- A sample against the one before: the gap is bounded, the connections are the same and
every counter advances. -/
structure Advances (previous sample : Value) : Prop where
  gap : compares (Value.after MAX_GAP) sample previous ["oci", "observed_at"] = .ok true
  connection : ∀ key ∈ ["pid", "session", "boot_id", "destination_fingerprint"],
    compares (fun left right => .ok (left.same right)) sample previous ["oci", "copy", key] = .ok true
  counters : ∀ key ∈ ["output_bytes", "video_packets", "audio_packets"],
    compares Value.exceeds sample previous ["oci", "copy", key] = .ok true
  twitch : compares Value.exceeds sample previous ["oci", "twitch", "bytes"] = .ok true

/-- Samples that all passed, each against the one before, over so many seconds. -/
structure Stable (seconds : ℚ) (window : List Call) : Prop where
  passed : ∀ call ∈ window, call.sample?.isSome
  advancing : window.IsChain fun earlier later =>
    ∃ previous sample, earlier.sample? = some previous ∧ later.sample? = some sample ∧
      Advances previous sample
  lasted : ∃ begun ended, window.head?.bind Call.begun? = some begun ∧
    window.getLast?.bind Call.ended? = some ended ∧ seconds ≤ ended - begun

/-- The latest samples that were taken are such a window. -/
def Recent (calls : List Call) (seconds : ℚ) : Prop :=
  ∃ earlier window, calls.filter Call.taken = earlier ++ window ∧ Stable seconds window

/-- Calls that open a window and keep it. -/
inductive Keep : List Call → Stability → Prop
  | opened {call : Call} {sample : Value} {timing : Turn} {rest : List Turn}
      (fresh : call.world.memory.stability = none)
      (judged : call.verdict = .passed sample (timing :: rest)) : Keep [call] ⟨timing.clock, sample⟩
  | continued {window : List Call} {previous : Stability} {call : Call} {sample : Value}
      {rest : List Turn} (keep : Keep window previous)
      (resumed : call.world.memory.stability = some previous)
      (judged : call.verdict = .passed sample rest) : Keep (window ++ [call]) ⟨previous.since, sample⟩

/-- The window is that of the latest samples that were taken. -/
def Backed (calls : List Call) (stability : Stability) : Prop :=
  ∃ earlier window, calls.filter Call.taken = earlier ++ window ∧ Keep window stability

section Verdicts

variable {call : Call} {sample : Value} {rest : List Turn}

theorem Call.sample_of_passed (judged : call.verdict = .passed sample rest) :
    call.sample? = some sample := by
  simp [Call.sample?, judged]

theorem Call.taken_of_passed (judged : call.verdict = .passed sample rest) : call.taken = true := by
  simp [Call.taken, judged]

theorem inside_of_judgeInside {settings : Settings} {session : Session} {turns : List Turn}
    {observed : Value} (judged : judgeInside settings session observed turns = .passed sample rest) :
    ∃ now, insideChecks settings session now sample = .ok () := by
  cases turns with
  | nil => cases judged
  | cons timing turns =>
    simp only [judgeInside] at judged
    split at judged
    · cases judged
    · rename_i checked
      cases judged
      exact ⟨timing.clock, (Turn.answers_eq_ok checked).2⟩

/-- A sample that passes has passed the checks of the `try` block. -/
theorem Call.inside_of_passed (judged : call.verdict = .passed sample rest) :
    ∃ now, insideChecks call.settings call.world.memory now sample = .ok () := by
  unfold Call.verdict at judged
  cases turns : call.turns with
  | nil => simp [judge, turns] at judged
  | cons looking later =>
    simp only [turns, judge] at judged
    split at judged
    · cases judged
    · rename_i observed _
      cases later with
      | nil => cases judged
      | cons bounding later =>
        simp only [judgeOutside] at judged
        split at judged
        · cases judged
        · exact inside_of_judgeInside judged

theorem demand_eq_ok {checks : List (Except PyError Bool)} {reason : String} {result : Unit} :
    demand checks reason = .ok result ↔ ∀ check ∈ checks, check = .ok true := by
  rw [← every_eq_true]
  rcases decided : every checks with error | _ | _ <;> simp [demand, decided]

/-- What is compared below two places is compared at the whole path. -/
theorem compares_of {relation : Value → Value → Except PyError Bool} {previous left right : Value}
    {place : List String} {key : String} (sampled : sample.path place = .ok left)
    (read : previous.path place = .ok right)
    (related : (left.index key >>= fun first => right.index key >>= relation first) = .ok true) :
    compares relation sample previous (place ++ [key]) = .ok true := by
  rw [compares, Value.path_append sampled, Value.path_append read, Value.path_singleton,
    Value.path_singleton]
  exact related

theorem advances_of_checks {cloud cp tw previous : Value} (oci : sample.path ["oci"] = .ok cloud)
    (copy : sample.path ["oci", "copy"] = .ok cp) (twitch : sample.path ["oci", "twitch"] = .ok tw)
    (checked : advanceChecks cloud cp tw previous = .ok ()) : Advances previous sample := by
  simp only [advanceChecks, bind_eq_ok, demand_eq_ok] at checked
  obtain ⟨before, read, _, gap, _, connection, _, counters, old, oldRead, bytes⟩ := checked
  constructor
  · have within := gap _ (List.mem_singleton_self _)
    rw [compares, ← List.singleton_append, Value.path_append oci, Value.path_singleton]
    exact within
  · intro key member
    refine compares_of copy read ?_
    exact connection (equals (cp.index key) (before.index key))
      (List.mem_append_left _ (List.mem_map_of_mem member))
  · intro key member
    refine compares_of copy read ?_
    exact counters _ (List.mem_map_of_mem member)
  · refine compares_of twitch oldRead ?_
    exact bytes _ (List.mem_cons_of_mem _ (List.mem_singleton_self _))

theorem advances_of_passed {previous : Stability} (resumed : call.world.memory.stability = some previous)
    (judged : call.verdict = .passed sample rest) : Advances previous.sample sample := by
  obtain ⟨now, checked⟩ := Call.inside_of_passed judged
  simp only [insideChecks, resumed, Option.map_some, progressChecks, bind_eq_ok] at checked
  obtain ⟨cloud, oci, _, _, cp, copy, tw, twitch, _, _, _, _, _, _, _, _, _, _, _, _, _, _, advanced⟩ :=
    checked
  have opened : sample.path ["oci"] = .ok cloud := (Value.path_singleton ..).trans oci
  refine advances_of_checks opened ?_ ?_ advanced
  · exact (Value.path_append opened ["copy"]).trans ((Value.path_singleton ..).trans copy)
  · exact (Value.path_append opened ["twitch"]).trans ((Value.path_singleton ..).trans twitch)

end Verdicts

section Windows

variable {window : List Call} {stability : Stability}

/-- What a kept window is: passed samples, each against the one before. -/
structure Kept (window : List Call) (stability : Stability) : Prop where
  passed : ∀ call ∈ window, call.sample?.isSome
  advancing : window.IsChain fun earlier later =>
    ∃ previous sample, earlier.sample? = some previous ∧ later.sample? = some sample ∧
      Advances previous sample
  begun : window.head?.bind Call.begun? = some stability.since
  latest : window.getLast?.bind Call.sample? = some stability.sample

theorem Keep.kept (keep : Keep window stability) : Kept window stability := by
  induction keep with
  | @opened call sample timing rest fresh judged =>
    have found := Call.sample_of_passed judged
    exact {
      passed := by simp [found]
      advancing := List.isChain_singleton _
      begun := by simp [Call.begun?, judged, fresh]
      latest := by simp [found] }
  | @continued window previous call sample rest keep resumed judged inductionHypothesis =>
    have found := Call.sample_of_passed judged
    obtain ⟨last, ended, sampled⟩ := Option.bind_eq_some_iff.mp inductionHypothesis.latest
    exact {
      passed := by
        intro other member
        rcases List.mem_append.mp member with earlier | new
        · exact inductionHypothesis.passed other earlier
        · rw [List.mem_singleton.mp new, found]
          rfl
      advancing := by
        refine inductionHypothesis.advancing.append (List.isChain_singleton _) ?_
        intro earlier final later first
        rw [ended] at final
        cases final
        cases first
        exact ⟨_, _, sampled, found, advances_of_passed resumed judged⟩
      begun := by
        obtain ⟨first, head, begun⟩ := Option.bind_eq_some_iff.mp inductionHypothesis.begun
        simp [List.head?_append, head, begun]
      latest := by simp [found] }

/-- A window lasts from where it was opened to where its last call returned. -/
theorem Keep.stable (keep : Keep window stability) {ended : ℚ}
    (last : window.getLast?.bind Call.ended? = some ended) : Stable (ended - stability.since) window :=
  ⟨keep.kept.passed, keep.kept.advancing, _, _, keep.kept.begun, last, le_rfl⟩

end Windows

section Calls

variable {calls : List Call} {call : Call} {released : Prop} {world : World} {rest : List Turn}

/-- A window that was opened or kept by a passed sample is the latest one. -/
theorem keep_of_passed {sample : Value} {turns : List Turn}
    (held : ∀ stability, call.world.memory.stability = some stability → Backed calls stability)
    (judged : call.verdict = .passed sample turns) (stability : Stability)
    (next : match call.world.memory.stability, turns with
      | some previous, _ => stability = ⟨previous.since, sample⟩
      | none, timing :: _ => stability = ⟨timing.clock, sample⟩
      | none, [] => False) :
    ∃ earlier window, (calls ++ [call]).filter Call.taken = earlier ++ window ∧
      Keep window stability ∧ window.getLast? = some call := by
  have filtered : (calls ++ [call]).filter Call.taken = calls.filter Call.taken ++ [call] := by
    rw [List.filter_append, List.filter_cons_of_pos (Call.taken_of_passed judged), List.filter_nil]
  cases resumed : call.world.memory.stability with
  | some previous =>
    rw [resumed] at next
    obtain ⟨earlier, window, split, keep⟩ := held previous resumed
    refine ⟨earlier, window ++ [call], ?_, ?_, List.getLast?_concat ..⟩
    · rw [filtered, split, List.append_assoc]
    · rw [next]
      exact .continued keep resumed judged
  | none =>
    rw [resumed] at next
    cases turns with
    | nil => exact next.elim
    | cons timing later =>
      refine ⟨calls.filter Call.taken, [call], filtered, ?_, rfl⟩
      rw [next]
      exact .opened resumed judged

theorem saving_synced (stability : Stability) (world : World) (saves : Saves rest)
    (ended : world.memory.phase = .normal → released) :
    Holding (· = stability) released ((saving stability).run rest world).2.2 := by
  rcases rest with _ | ⟨timing, _ | ⟨writing, rest⟩⟩
  · exact saves.elim
  · exact saves.elim
  · obtain ⟨unsignalled, unstopped, synced⟩ := saves
    have holds : Session.Holds (· = stability) released
        { world.memory with stability := some stability, updatedAt := some timing.clock } :=
      ⟨fun other same => (Option.some.inj same).symm, ended⟩
    rw [saving, run_bind, run_change]
    dsimp only
    rw [run_bind, run_save, unsignalled]
    dsimp only
    rw [run_write, unstopped, synced]
    refine (preserves_bind preserves_clock fun _ => preserves_pure _).run ?_ rest
    exact ⟨holds, holds, holds.window⟩

theorem clearing_synced (world : World) {error : PyError} (progressive : isProgressError error = true)
    (saves : Saves rest) (ended : world.memory.phase = .normal → released) :
    Holding (fun _ => False) released ((clearing error).run rest world).2.2 := by
  rcases rest with _ | ⟨timing, _ | ⟨writing, rest⟩⟩
  · exact saves.elim
  · exact saves.elim
  · obtain ⟨unsignalled, unstopped, synced⟩ := saves
    have holds : Session.Holds (fun _ => False) released
        { world.memory with stability := none, updatedAt := some timing.clock } :=
      ⟨nofun, ended⟩
    rw [clearing, if_pos progressive, run_bind, run_change]
    dsimp only
    rw [run_bind, run_save, unsignalled]
    dsimp only
    rw [run_write, unstopped, synced]
    exact ⟨holds, holds, holds.window⟩

theorem clock_done {now : ℚ} {turns left : List Turn} {after : World}
    (done : clock.run turns world = (.done now, left, after)) :
    ∃ turn, turns = turn :: left ∧ now = turn.clock := by
  cases turns with
  | nil => cases done
  | cons turn rest =>
    rw [run_clock] at done
    cases signalled : turn.signal <;> rw [signalled] at done <;> cases done
    exact ⟨turn, rfl, rfl⟩

theorem write_done {turns left : List Turn} {after : World}
    (done : write.run turns world = (.done (), left, after)) : ∃ turn, turns = turn :: left := by
  cases turns with
  | nil => cases done
  | cons turn rest =>
    rw [run_write] at done
    cases signalled : turn.signal with
    | some error =>
      rw [signalled] at done
      cases done
    | none =>
      rw [signalled] at done
      rcases written : turn.writing with error | ⟨kept, _ | error⟩ | _ <;> rw [written] at done <;>
        cases done
      exact ⟨turn, rfl⟩

/-- A window that was saved is read off the clock at the third turn. -/
theorem saving_done (stability : Stability) {elapsed : ℚ} {left : List Turn} {after : World}
    (done : (saving stability).run rest world = (.done elapsed, left, after)) :
    ∃ ending, rest[2]? = some ending ∧ elapsed = ending.clock - stability.since := by
  obtain ⟨_, _, _, changed, unsaved⟩ := done_of_bind done
  cases changed
  obtain ⟨_, _, _, saved, reading⟩ := done_of_bind unsaved
  obtain ⟨_, _, _, entered, untimed⟩ := done_of_bind saved
  cases entered
  obtain ⟨_, _, _, timed, unstamped⟩ := done_of_bind untimed
  obtain ⟨_, _, _, stamped, written⟩ := done_of_bind unstamped
  cases stamped
  obtain ⟨now, _, _, read, returned⟩ := done_of_bind reading
  cases returned
  obtain ⟨timing, rfl, _⟩ := clock_done timed
  obtain ⟨writing, rfl⟩ := write_done written
  obtain ⟨ending, rfl, rfl⟩ := clock_done read
  exact ⟨ending, rfl, rfl⟩

theorem clearing_not_done {error : PyError} {elapsed : ℚ} :
    ((clearing error).run rest world).1 ≠ .done elapsed := by
  unfold clearing
  by_cases progressive : isProgressError error = true
  · rw [if_pos progressive, run_bind, run_change]
    dsimp only
    rw [run_bind]
    rcases (save none).run rest _ with ⟨value | error | _, remaining, after⟩ <;> nofun
  · rw [if_neg progressive]
    nofun

/-- A verification sample that settles leaves the latest window, if any. -/
theorem holding_of_call (settles : call.Settles)
    (held : Holding (Backed calls) released call.world) :
    Holding (Backed (calls ++ [call])) released
      ((verificationSample call.settings).run call.turns call.world).2.2 := by
  obtain ⟨samples, ended⟩ :=
    run_verificationSample call.settings call.world call.turns
  rw [ended]
  have emptied : call.world.Windowless → Holding (fun _ => False) released
      { call.world with samples := samples } := fun windowless =>
    ⟨⟨fun stability stored => by simp [windowless.1] at stored, held.memory.ended⟩,
      ⟨fun stability stored => by simp [windowless.2.1] at stored, held.visible.ended⟩,
      fun stability stored => by simp [windowless.2.2] at stored⟩
  have settled := settles
  unfold Call.Settles at settled
  cases judged : call.verdict with
  | cut =>
    have untaken : (calls ++ [call]).filter Call.taken = calls.filter Call.taken := by
      simp [List.filter_append, Call.taken, judged]
    unfold Call.verdict at judged
    rw [judged]
    have unmoved : Holding (Backed calls) released { call.world with samples := samples } :=
      ⟨held.memory, held.visible, held.durable⟩
    exact unmoved.imp (fun stability backed => by
      obtain ⟨earlier, window, split, keep⟩ := backed
      exact ⟨earlier, window, untaken.trans split, keep⟩) id
  | outside error rest =>
    rw [judged] at settled
    unfold Call.verdict at judged
    rw [judged]
    rcases settled with windowless | impossible
    · exact (emptied windowless).imp (fun _ => False.elim) id
    · exact impossible.elim
  | inside error rest =>
    rw [judged] at settled
    unfold Call.verdict at judged
    rw [judged]
    rcases settled with windowless | ⟨progressive, saves⟩
    · exact ((preserves_clearing error).run (emptied windowless) rest).imp (fun _ => False.elim) id
    · exact (clearing_synced { call.world with samples := samples } progressive saves
        held.memory.ended).imp (fun _ => False.elim) id
  | passed sample rest =>
    rw [judged] at settled
    have latest := keep_of_passed held.memory.window judged
    unfold Call.verdict at judged
    rw [judged]
    cases resumed : call.world.memory.stability with
    | some previous =>
      rw [resumed] at settled latest
      obtain ⟨earlier, window, split, keep, _⟩ := latest ⟨previous.since, sample⟩ rfl
      change Holding _ _ ((saving ⟨previous.since, sample⟩).run rest _).2.2
      rcases settled with windowless | saves
      · rw [windowless.1] at resumed
        cases resumed
      · refine (saving_synced _ { call.world with samples := samples } saves
          held.memory.ended).imp (fun stability same => ?_) id
        rw [same]
        exact ⟨earlier, window, split, keep⟩
    | none =>
      rw [resumed] at settled latest
      cases rest with
      | nil =>
        rcases settled with windowless | impossible
        · exact (emptied windowless).imp (fun _ => False.elim) id
        · exact impossible.elim
      | cons timing rest =>
        obtain ⟨earlier, window, split, keep, _⟩ := latest ⟨timing.clock, sample⟩ rfl
        have backed : Backed (calls ++ [call]) ⟨timing.clock, sample⟩ := ⟨earlier, window, split, keep⟩
        dsimp only [Verdict.ending]
        rw [storing, stableSince, run_bind, run_clock]
        rcases settled with windowless | ⟨unsignalled, saves⟩
        · have empty : Holding (Backed (calls ++ [call])) released
              { call.world with samples := samples } :=
            (emptied windowless).imp (fun _ => False.elim) id
          cases timing.signal with
          | some error => exact empty
          | none => exact (preserves_saving backed).run empty rest
        · rw [unsignalled]
          refine (saving_synced _ { call.world with samples := samples } saves
            held.memory.ended).imp (fun stability same => ?_) id
          rw [same]
          exact backed

/-- A verification sample that returns ends a window that lasted as long as it returns. -/
theorem recent_of_call (held : Holding (Backed calls) released call.world) {elapsed : ℚ}
    (done : ((verificationSample call.settings).run call.turns call.world).1 = .done elapsed) :
    Recent (calls ++ [call]) elapsed := by
  obtain ⟨samples, ended⟩ :=
    run_verificationSample call.settings call.world call.turns
  rw [ended] at done
  cases judged : call.verdict with
  | cut | outside =>
    unfold Call.verdict at judged
    rw [judged] at done
    cases done
  | inside error rest =>
    unfold Call.verdict at judged
    rw [judged] at done
    exact (clearing_not_done done).elim
  | passed sample rest =>
    have latest := keep_of_passed held.memory.window judged
    have saved := judged
    unfold Call.verdict at saved
    rw [saved] at done
    cases resumed : call.world.memory.stability with
    | some previous =>
      rw [resumed] at latest done
      obtain ⟨earlier, window, split, keep, last⟩ := latest ⟨previous.since, sample⟩ rfl
      obtain ⟨ending, third, same⟩ := saving_done ⟨previous.since, sample⟩ (Prod.ext done rfl)
      refine ⟨earlier, window, split, same ▸ keep.stable ?_⟩
      simp [last, Call.ended?, Call.saving?, judged, resumed, third]
    | none =>
      rw [resumed] at latest done
      cases rest with
      | nil => cases done
      | cons timing rest =>
        obtain ⟨earlier, window, split, keep, last⟩ := latest ⟨timing.clock, sample⟩ rfl
        dsimp only [Verdict.ending] at done
        rw [storing, stableSince, run_bind, run_clock] at done
        cases signalled : timing.signal with
        | some error =>
          rw [signalled] at done
          cases done
        | none =>
          rw [signalled] at done
          obtain ⟨ending, third, same⟩ := saving_done ⟨timing.clock, sample⟩ (Prod.ext done rfl)
          refine ⟨earlier, window, split, same ▸ keep.stable ?_⟩
          simp [last, Call.ended?, Call.saving?, judged, resumed, third]

end Calls

/-- What holds beside a chronicle whose samples all settle. -/
def Following (released : List Call → Prop) (state : World × List Call) : Prop :=
  (∀ call ∈ state.2, call.Settles) → Holding (Backed state.2) (released state.2) state.1

section Recordings

variable (settings : Settings) {released : Prop} {start : World × List Call}

theorem Following.imp {first later : List Call → Prop} {state : World × List Call}
    (following : Following first state) (weaker : ∀ calls, first calls → later calls) :
    Following later state :=
  fun settles => (following settles).imp (fun _ backed => backed) (weaker _)

theorem follows_plain {α : Type} {script : Process α} {released : List Call → Prop}
    (kept : ∀ calls, Preserves (Holding (Backed calls) (released calls)) script) :
    Preserves (Following released) (plain script) :=
  preserves_plain (fun calls => Holding (Backed calls) (released calls))
    (fun calls => ∀ call ∈ calls, call.Settles) fun calls _ => kept calls

/-- A verification sample keeps what holds, and returns for how long the window lasted. -/
theorem ensures_sampled (following : Following (fun _ => released) start) :
    Ensures (sampled settings) start
      (fun elapsed after => Following (fun _ => released) after ∧
        ((∀ call ∈ after.2, call.Settles) → Recent after.2 elapsed))
      (Following fun _ => released) := by
  intro turns
  let call : Call := ⟨settings, turns, start.1⟩
  have held : ∀ settles : ∀ other ∈ start.2 ++ [call], other.Settles,
      Holding (Backed start.2) released call.world :=
    fun settles => following fun other member => settles other (List.mem_append_left _ member)
  have kept : ∀ settles : ∀ other ∈ start.2 ++ [call], other.Settles,
      Holding (Backed (start.2 ++ [call])) released
        ((verificationSample settings).run turns start.1).2.2 := fun settles =>
    holding_of_call (settles call (List.mem_append_right _ (List.mem_singleton_self _))) (held settles)
  have recent : ∀ settles : ∀ other ∈ start.2 ++ [call], other.Settles, ∀ elapsed,
      ((verificationSample settings).run turns start.1).1 = .done elapsed →
        Recent (start.2 ++ [call]) elapsed := fun settles _ => recent_of_call (held settles)
  simp only [sampled, noted, plain]
  rcases ended : (verificationSample settings).run turns start.1 with
    ⟨elapsed | error | _, rest, after⟩ <;> rw [ended] at kept recent
  · exact ⟨kept, fun settles => recent settles elapsed rfl⟩
  · exact kept
  · exact kept

theorem follows_sampled : Preserves (Following fun _ => released) (sampled settings) :=
  fun _ following => ensures_weaken (ensures_sampled settings following) (fun _ _ left => left.1)
    fun _ left => left

theorem follows_entered (method : Method) {released : List Call → Prop} :
    Preserves (Following released)
      (plain (modify fun world => { world with method := method }) : Recording Unit) :=
  follows_plain fun _ => preserves_modify fun _ held => ⟨held.memory, held.visible, held.durable⟩

theorem ensures_recordedWithin (method : Method) {body : Recording Unit} {later : List Call → Prop}
    (following : Following (fun _ => released) start) (weaker : ∀ calls, released → later calls)
    (kept : ∀ start, Following (fun _ => released) start →
      Ensures body start (fun _ => Following later) (Following later)) :
    Ensures (recordedWithin method body) start (fun _ => Following later) (Following later) := by
  have interrupted : ∀ after, Following (fun _ => released) after → Following later after :=
    fun _ left => left.imp weaker
  refine ensures_bind (ensures_weaken (follows_plain (fun _ => preserves_get) start following)
    (fun _ _ left => left) interrupted) fun caller first held => ?_
  refine ensures_bind (ensures_weaken (follows_entered method first held) (fun _ _ left => left)
    interrupted) fun _ second held => ?_
  refine ensures_bind (kept second held) fun value third left => ?_
  exact preserves_bind (follows_entered _) (fun _ => preserves_pure _) third left

theorem follows_within (method : Method) {body : Recording Unit}
    (kept : Preserves (Following fun _ => released) body) :
    Preserves (Following fun _ => released) (recordedWithin method body) :=
  fun _ following => ensures_recordedWithin method following (fun _ => id) kept

theorem follows_verify : Preserves (Following fun _ => released) (recordedVerify settings) := by
  refine follows_within .verify ?_
  refine preserves_bind (follows_plain fun _ => preserves_state) fun session => ?_
  refine preserves_bind (follows_plain fun _ => preserves_require _) fun _ => ?_
  refine preserves_bind (follows_plain fun _ => preserves_noUnknown) fun _ => ?_
  refine preserves_bind (follows_plain fun _ => preserves_clock) fun now => ?_
  refine preserves_loop (fun _ => ?_) ()
  refine preserves_bind (follows_plain fun _ => preserves_clock) fun now => ?_
  refine preserves_ite (fun _ => ?_) fun _ => follows_plain fun _ => preserves_throw _
  refine preserves_bind (preserves_handle ?_ fun error => ?_) fun stable => ?_
  · exact preserves_bind (follows_sampled settings) fun _ => preserves_pure _
  · exact preserves_ite (fun _ => preserves_pure _) fun _ => preserves_throw _
  · refine preserves_ite (fun _ => preserves_pure _) fun _ => ?_
    exact preserves_bind (follows_plain fun _ => preserves_sleep) fun _ => preserves_pure _

/-- Nothing was released, or after a window of the length that is asked for. -/
def Finished (released : Prop) : World × List Call → Prop :=
  Following fun calls => released ∨ Recent calls settings.stableSeconds

theorem Following.finished {state : World × List Call} (following : Following (fun _ => released) state) :
    Finished settings released state :=
  following.imp fun _ => Or.inl

/-- A script that takes no sample, in front of one that may release. -/
theorem ensures_prelude {α : Type} {script : Process α} {next : α → Recording Unit}
    (kept : ∀ windows, Preserves (Holding windows released) script)
    (following : Following (fun _ => released) start)
    (rest : ∀ value after, Following (fun _ => released) after →
      Ensures (next value) after (fun _ => Finished settings released) (Finished settings released)) :
    Ensures (plain script >>= next) start (fun _ => Finished settings released)
      (Finished settings released) :=
  ensures_bind (ensures_weaken (follows_plain (fun calls => kept (Backed calls)) start following)
    (fun _ _ left => left) fun _ left => left.finished settings) rest

/-- `complete` releases only after a window of the length that is asked for. -/
theorem ensures_complete (youtube twitch liveData : Bool)
    (following : Following (fun _ => released) start) :
    Ensures (recordedComplete settings youtube twitch liveData) start
      (fun _ => Finished settings released) (Finished settings released) := by
  refine ensures_recordedWithin .complete following (fun _ => Or.inl) fun start following => ?_
  refine ensures_prelude settings (fun _ => preserves_state) following fun session _ following => ?_
  refine ensures_prelude settings (fun _ => preserves_require _) following fun _ _ following => ?_
  refine ensures_prelude settings (fun _ => preserves_require _) following fun _ _ following => ?_
  refine ensures_prelude settings (fun _ => preserves_noUnknown) following fun _ _ following => ?_
  refine ensures_prelude settings (fun _ => preserves_sleep) following fun _ _ following => ?_
  refine ensures_bind (ensures_weaken (ensures_sampled settings following) (fun _ _ left => left)
    fun _ left => left.finished settings) fun stable after sampled => ?_
  obtain ⟨state, calls⟩ := after
  obtain ⟨following, recent⟩ := sampled
  refine ensures_plain ?_
  by_cases settles : ∀ call ∈ calls, call.Settles
  · have earned : settings.stableSeconds ≤ stable → released ∨ Recent calls settings.stableSeconds := by
      intro enough
      obtain ⟨earlier, window, split, passed⟩ := recent settles
      obtain ⟨begun, ended, first, last, seconds⟩ := passed.lasted
      exact Or.inr ⟨earlier, window, split, passed.passed, passed.advancing, begun, ended, first, last,
        enough.trans seconds⟩
    exact ensures_weaken (preserves_release settings earned state
      ((following settles).imp (fun _ => id) Or.inl)) (fun _ _ left _ => left) fun _ left _ => left
  · exact ensures_trivial (fun _ _ all => (settles all).elim) fun _ all => (settles all).elim

theorem ensures_return (following : Following (fun _ => released) start) :
    Ensures (recordedReturn settings) start (fun _ => Finished settings released)
      (Finished settings released) := by
  refine ensures_bind (ensures_weaken (follows_verify settings start following) (fun _ _ left => left)
    fun _ left => left.finished settings) fun _ after following => ?_
  refine ensures_prelude settings (fun _ => preserves_confirm) following fun _ _ following => ?_
  refine ensures_prelude settings (fun _ => preserves_require _) following fun _ _ following => ?_
  exact ensures_complete settings true true true following

theorem ensures_off (following : Following (fun _ => released) start) :
    Ensures (recordedOff settings) start (fun _ => Finished settings released)
      (Finished settings released) := by
  refine ensures_recordedWithin .off following (fun _ => Or.inl) fun start following => ?_
  refine ensures_prelude settings (fun _ => preserves_noUnknown) following fun _ _ following => ?_
  refine ensures_prelude settings (fun _ => preserves_state) following fun session _ following => ?_
  dsimp only
  split
  · exact ensures_pure (following.finished settings)
  · split
    · refine ensures_prelude settings (fun _ => preserves_resume settings) following fun _ _ following => ?_
      exact ensures_return settings following
    · refine ensures_prelude settings (fun _ => preserves_require _) following fun _ _ following => ?_
      exact ensures_return settings following

/-- Every command keeps the windows, and releases only after one. -/
theorem ensures_recording (command : Command) (following : Following (fun _ => released) start) :
    Ensures (command.recording settings) start (fun _ => Finished settings released)
      (Finished settings released) := by
  have finished : ∀ {recording : Recording Unit}, Preserves (Following fun _ => released) recording →
      Ensures recording start (fun _ => Finished settings released) (Finished settings released) :=
    fun kept => ensures_weaken (kept start following) (fun _ _ left => left.finished settings)
      fun _ left => left.finished settings
  cases command with
  | verify => exact finished (follows_verify settings)
  | complete youtube twitch liveData => exact ensures_complete settings youtube twitch liveData following
  | off => exact ensures_off settings following
  | preflight | begin | advance | confirmSlate | resume | reconcile | check | on =>
    exact finished (follows_plain fun _ => preserves_command settings trivial)

end Recordings

/-- What holds of the session files between commands. -/
def Filed (state : World × List Call) : Prop :=
  (∀ call ∈ state.2, call.Settles) →
    (∀ stability, state.1.disk.visible.stability = some stability → Backed state.2 stability) ∧
      ∀ stability, state.1.disk.durable.stability = some stability → Backed state.2 stability

variable {state : World × List Call}

theorem Filed.following (filed : Filed state) :
    Following (fun _ => state.1.disk.visible.phase = .normal) (state.1.started, state.2) :=
  fun settles =>
    have holds : state.1.disk.visible.Holds (Backed state.2) (state.1.disk.visible.phase = .normal) :=
      ⟨(filed settles).1, id⟩
    ⟨holds, holds, (filed settles).2⟩

theorem Filed.finished (filed : Filed state) (settings : Settings) (command : Command)
    (turns : List Turn) : Finished settings (state.1.disk.visible.phase = .normal)
      (moved state (.command settings command turns)) :=
  (ensures_recording settings command filed.following turns).state

theorem filed_moved (filed : Filed state) (move : Move) : Filed (moved state move) := by
  cases move with
  | powerLoss archives => exact fun settles => ⟨(filed settles).2, (filed settles).2⟩
  | command settings command turns =>
    exact fun settles => have held := filed.finished settings command turns settles
      ⟨held.visible.window, held.durable⟩

/-- In every run from a store without a window, what is stored is the latest window. -/
theorem filed_chronicle {start : World} (visible : start.disk.visible.stability = none)
    (durable : start.disk.durable.stability = none) (moves : List Move) :
    Filed (chronicle start moves) := by
  unfold chronicle
  induction moves using List.reverseRecOn with
  | nil => exact fun _ => ⟨by simp [visible], by simp [durable]⟩
  | append_singleton earlier move inductionHypothesis =>
    rw [List.foldl_append]
    exact filed_moved inductionHypothesis move

/-- Two hosts on which the live output flows. -/
def fixtureSample (now : ℚ) (count : Int) (backupPods : Int) (timer : String) : Value :=
  let stamp := Value.str "1970-01-01T00:16:50+00:00"
  .dict [
    ("dell", .dict [
      ("identity", .dict [("machine", .str "dell"), ("boot", .str "dell-boot")]),
      ("observed_at", .float (.finite now)),
      ("main", .dict [("uid", .str "main"), ("replicas", .int 1), ("active_pods", .int 1),
        ("ready_pods", .int 1)]),
      ("backup", .dict [("uid", .str "backup"), ("replicas", .int 0),
        ("active_pods", .int backupPods), ("ready_pods", .int 0)]),
      ("units", .dict [
        (TIMER, .dict [("active", .bool (timer = "enabled")), ("enabled", .str timer)]),
        (SERVICE, .dict [("active", .bool false), ("enabled", .str "static")])]),
      ("ledger", .dict [("producer_id", .str "independent-controller"), ("unresolved", .int 0)])]),
    ("oci", .dict [
      ("identity", .dict [("machine", .str "oci"), ("boot", .str "oci-boot")]),
      ("observed_at", .float (.finite now)),
      ("config_fingerprint", .str "config"),
      ("path_fields", .dict [("alwaysAvailable", .bool false), ("alwaysAvailableFile", .str ""),
        ("alwaysAvailableTracks", .list [])]),
      ("content", .str "LIVE"),
      ("input_id", .str "publisher"),
      ("tracks", .list [.str "H264", .str "MPEG-4 Audio"]),
      ("twitch", .dict [("id", .str "tw-1"), ("state", .str "forwarding"), ("error", .bool false),
        ("bytes", .int count)]),
      ("copy", .dict [("schema", .str "stream_v3.youtube_forward.v1"), ("boot_id", .str "oci-boot"),
        ("pid", .int 20), ("session", .int 1), ("state", .str "FLOWING"),
        ("destination_fingerprint", .str "youtube"), ("updated_at", stamp),
        ("last_progress_at", stamp), ("output_bytes", .int count), ("video_packets", .int count),
        ("audio_packets", .int count)])])]

/-- `fromisoformat` on the one stamp of the samples. -/
def fixtureSettings : Settings where
  config := ⟨"dell", "oci", "youtube", "/opt/offline.mp4"⟩
  stableSeconds := 10
  root := "/var/lib/maintenance"
  fromisoformat := fun _ => .ok (some 1010)

/-- A session in which the live output is being verified. -/
def fixtureSession (stability : Option Stability) : Session where
  phase := .verifying
  sessionId := some 0
  generation := 1
  deadline := some 600
  reason := some "Security updates"
  configSha := some fixtureSettings.config
  before := some (fixtureSample 100 1 0 "enabled")
  effects := [⟨.quiesce, .dell, .quiesce .none .none, .applied, 110, none⟩]
  history := []
  armedFields := none
  updatedAt := none
  slatePlayerConfirmation := none
  livePlayerConfirmation := none
  stability := stability
  completedAt := none

def fixtureWorld (stability : Option Stability) : World :=
  { World.initial with
    memory := fixtureSession stability
    disk := ⟨fixtureSession stability, fixtureSession stability⟩
    issued := 1 }

def fixtureTurn (now : ℚ) (count : Int) (backupPods : Int) (timer : String) : Turn where
  signal := none
  clock := now
  snapshot := .ok (fixtureSample now count backupPods timer)
  reply := some (.ok ())
  writing := .synced
  confirmed := .ok true

/-- A sample with an active backup sender raises, and the window stays. -/
theorem failed_sample_keeps_window :
    ¬ ∀ settings world turns,
      world.memory.phase = .verifying ∨ world.memory.phase = .restoring →
        Clears settings world turns := by
  intro every
  have cleared := every fixtureSettings
    (fixtureWorld (some ⟨1000, fixtureSample 1008 1 0 "disabled"⟩))
    (List.replicate 7 (fixtureTurn 1010 2 1 "disabled")) (Or.inl rfl)
    (valueError "backup_sender_is_active_or_unknown") (by decide +kernel)
  revert cleared
  decide +kernel

/-- A verification sample that raises clears the stored window exactly if none is stored or
it fails in the `try` block and the save goes through. In every run whose samples settle in
this way, a command that releases the inhibition ends a window of passed samples that lasted
as long as is asked for, without any other sample that was taken in between. -/
theorem failed_samples_restart_window (settings : Settings) (world : World) (turns : List Turn) :
    (Clears settings world turns ↔ ClearsWhen settings world turns) ∧
      ∀ start : World, start.disk.visible.stability = none → start.disk.durable.stability = none →
        ∀ moves command,
          let before := chronicle start moves
          let after := moved before (.command settings command turns)
          (∀ call ∈ after.2, call.Settles) → before.1.disk.visible.phase ≠ .normal →
            after.1.disk.visible.phase = .normal → Recent after.2 settings.stableSeconds := by
  constructor
  · exact clears_iff settings turns
  · intro start visible durable moves command before after settles active ended
    have filed : Filed before := filed_chronicle visible durable moves
    have held := filed.finished settings command turns settles
    rcases held.visible.ended ended with unmoved | recent
    · exact (active unmoved).elim
    · exact recent

/-- A `verify` with two samples. -/
def fixtureVerified : World × List Call :=
  chronicle (fixtureWorld none) [.command fixtureSettings .verify
    (List.replicate 10 (fixtureTurn 1010 2 0 "disabled") ++
      List.replicate 7 (fixtureTurn 1020 3 0 "disabled"))]

/-- A `complete` with a third one, and the timer enabled again in the end. -/
def fixtureCompleted : World × List Call :=
  moved fixtureVerified (.command fixtureSettings (.complete true true true)
    (List.replicate 17 (fixtureTurn 1025 4 0 "disabled") ++
      List.replicate 12 (fixtureTurn 1025 4 0 "enabled")))

theorem failed_samples_restart_window_completed :
    fixtureCompleted.1.disk.visible.phase = .normal ∧ Recent fixtureCompleted.2 10 :=
  ⟨by decide +kernel, (failed_samples_restart_window fixtureSettings (fixtureWorld none) _).2
    (fixtureWorld none) rfl rfl _ _ (by decide +kernel) (by decide +kernel) (by decide +kernel)⟩

end LiveStream.Maintenance
