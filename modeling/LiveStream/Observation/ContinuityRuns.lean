import LiveStream.Observation.Continuity
import LiveStream.Support.Run

/-! Calls of `advance` that hand the record on: what a recovery and a loss of observation say
about the calls before. -/

namespace LiveStream.Observation

open LiveStream.Support

section Streaks

/-- The calls end with a streak in one boot of the receiver: from `first` to `last`, `count`
distinct samples of one identity are judged alike, each with a later source time and received
within the gap, and every call in between carries such a sample again or one that is not older. -/
inductive Streak (maxGap : ℚ) (boot : String) (identity : Identity) (verdict : Verdict) :
    List Call → Call → Call → Nat → Prop where
  | started (earlier : List Call) (call : Call) (fresh : call.fresh = true)
      (received : call.now.boot = boot) (same : call.sample.identity = identity)
      (judged : call.verdict = verdict) :
      Streak maxGap boot identity verdict (earlier ++ [call]) call call 1
  | repeated {calls : List Call} {first last : Call} {count : Nat}
      (streak : Streak maxGap boot identity verdict calls first last count) (call : Call)
      (fresh : call.fresh = true) (received : call.now.boot = boot)
      (same : call.sample.identity = identity)
      (younger : last.sample.sourceMono ≤ call.sample.sourceMono) :
      Streak maxGap boot identity verdict (calls ++ [call]) first last count
  | continued {calls : List Call} {first last : Call} {count : Nat}
      (streak : Streak maxGap boot identity verdict calls first last count) (call : Call)
      (fresh : call.fresh = true) (received : call.now.boot = boot)
      (same : call.sample.identity = identity) (judged : call.verdict = verdict)
      (increasing : last.sample.sourceMono < call.sample.sourceMono)
      (ordered : last.now.mono ≤ call.now.mono)
      (near : call.now.mono - last.now.mono ≤ maxGap) :
      Streak maxGap boot identity verdict (calls ++ [call]) first call (count + 1)

/-- The record of a streak. -/
structure Describes (state : Continuity) (boot : String) (identity : Identity) (first last : Call)
    (count : Nat) : Prop where
  boot : state.receiverBoot = some boot
  identity : state.sourceIdentity = some identity
  since : state.since = some first.now.mono
  sourceSince : state.sourceSince = some first.sample.sourceMono
  lastNew : state.lastNew = some last.now.mono
  sourceMono : state.sourceMono = some last.sample.sourceMono
  count : state.count = some (count : Int)

/-- A record with one of the two verdicts describes a streak that the calls end with. -/
def Recorded (maxGap : ℚ) (calls : List Call) (state : Continuity) : Prop :=
  ∀ verdict, state.verdict = some verdict → verdict ≠ .unknown →
    ∃ boot identity first last count,
      Streak maxGap boot identity verdict calls first last count ∧
        Describes state boot identity first last count

end Streaks

section Steps

variable {state : Continuity} {call : Call}

/-- A call keeps the record as it is, or finds no verdict in it. -/
theorem prior_cases (state : Continuity) (call : Call) :
    (state.prior call).verdict = none ∨
      (state.prior call = state ∧ state.prepare call.now = state ∧
        state.receiverBoot = some call.now.boot ∧ state.changed call.sample = false) := by
  rw [Continuity.prior, Continuity.distinguish]
  by_cases changed : (state.prepare call.now).changed call.sample = true
  · rw [if_pos changed]
    exact .inl rfl
  rw [if_neg changed]
  rw [Continuity.prepare] at changed ⊢
  by_cases boot : state.receiverBoot = some call.now.boot
  · rw [if_pos boot] at changed ⊢
    by_cases ordered : state.lastNew.any (· ≤ call.now.mono) = true
    · rw [if_pos ordered] at changed ⊢
      by_cases corrupt : state.corrupt call.now = true
      · rw [if_pos corrupt]
        exact .inl rfl
      · rw [if_neg corrupt] at changed ⊢
        exact .inr ⟨rfl, rfl, boot, by simpa using changed⟩
    · rw [if_neg ordered]
      left
      split <;> rfl
  · rw [if_neg boot]
    left
    split <;> split <;> rfl

theorem fresh_of_isNew {prior : Continuity} (new : prior.isNew call = true) :
    call.fresh = true := (Bool.and_eq_true_iff.mp new).1

/-- What a new sample that carries on finds in the record. -/
theorem of_contiguous {prior : Continuity} {maxGap : ℚ} {changed : Bool}
    (contiguous : prior.contiguous call maxGap changed = true) :
    prior.verdict = some call.verdict ∧ ∃ lastNew, prior.lastNew = some lastNew ∧
      lastNew ≤ call.now.mono ∧ call.now.mono - lastNew ≤ maxGap := by
  simp only [Continuity.contiguous, Bool.and_eq_true, decide_eq_true_eq] at contiguous
  obtain ⟨⟨verdict, gap⟩, -⟩ := contiguous
  cases found : prior.lastNew with
  | none => simp [found] at gap
  | some lastNew =>
    simp only [found, Option.any_some, Bool.and_eq_true, decide_eq_true_eq] at gap
    exact ⟨verdict, lastNew, rfl, by linarith [gap.1], gap.2⟩

/-- After a new sample the calls end with a streak up to it. -/
theorem streak_of_new {maxGap : ℚ} {calls : List Call} (recorded : Recorded maxGap calls state)
    (boot : (state.prior call).receiverBoot = some call.now.boot)
    (new : (state.prior call).isNew call = true) :
    ∃ first count, Streak maxGap call.now.boot call.sample.identity call.verdict
        (calls ++ [call]) first call count ∧
      Describes (state.result call maxGap) call.now.boot call.sample.identity first call count := by
  have fresh := fresh_of_isNew new
  rw [Continuity.result]
  rw [if_pos new]
  cases carries : (state.prior call).contiguous call maxGap
      ((state.prepare call.now).changed call.sample) with
  | false =>
    exact ⟨call, 1, .started calls call fresh rfl rfl rfl,
      ⟨boot, rfl, rfl, rfl, rfl, rfl, rfl⟩⟩
  | true =>
    obtain ⟨verdict, lastNew, found, ordered, near⟩ := of_contiguous carries
    rcases prior_cases state call with absent | ⟨kept, -, received, unchanged⟩
    · rw [absent] at verdict
      cases verdict
    rw [kept] at verdict found new ⊢
    have known : call.verdict ≠ .unknown := by
      simp only [Call.fresh, Bool.and_eq_true, decide_eq_true_eq] at fresh
      exact fresh.2
    obtain ⟨boot', identity, first, last, count, streak, describes⟩ :=
      recorded call.verdict verdict known
    have sameBoot : boot' = call.now.boot :=
      Option.some.inj (describes.boot.symm.trans received)
    have sameIdentity : identity = call.sample.identity := by
      simpa [Continuity.changed, describes.identity] using unchanged
    subst sameBoot sameIdentity
    have lastTime : last.now.mono = lastNew := Option.some.inj (describes.lastNew.symm.trans found)
    have increasing : last.sample.sourceMono < call.sample.sourceMono := by
      simp only [Continuity.isNew, describes.identity, describes.sourceMono, ne_eq,
        not_true_eq_false, decide_false, Bool.false_or, Bool.and_eq_true, Option.getD_some,
        decide_eq_true_eq] at new
      exact new.2.2
    refine ⟨first, count + 1, .continued streak call fresh rfl rfl rfl increasing
      (lastTime ▸ ordered) (lastTime ▸ near), ?_⟩
    exact {
      boot := received
      identity := rfl
      since := by simp [Continuity.accept, describes.since]
      sourceSince := by simp [Continuity.accept, describes.sourceSince]
      lastNew := rfl
      sourceMono := rfl
      count := by simp [Continuity.accept, describes.count] }

theorem boot_of_prior (state : Continuity) (call : Call) :
    (state.prior call).receiverBoot = some call.now.boot := by
  have prepared : (state.prepare call.now).receiverBoot = some call.now.boot := by
    rw [Continuity.prepare]
    by_cases boot : state.receiverBoot = some call.now.boot
    · rw [if_pos boot]
      split <;> split <;> first | exact boot | rfl
    · rw [if_neg boot]
      split <;> split <;> rfl
  rw [Continuity.prior, Continuity.distinguish]
  split <;> exact prepared

/-- A fresh sample that is neither new nor older is one more of its streak. -/
theorem recorded_of_repeated {maxGap : ℚ} {calls : List Call}
    (recorded : Recorded maxGap calls state) (fresh : call.fresh = true)
    (younger : (state.prior call).regressed call = false) :
    Recorded maxGap (calls ++ [call]) (state.prior call) := by
  intro verdict found known
  rcases prior_cases state call with absent | ⟨kept, -, received, unchanged⟩
  · rw [absent] at found
    cases found
  rw [kept] at found younger ⊢
  obtain ⟨boot, identity, first, last, count, streak, describes⟩ := recorded verdict found known
  have sameBoot : call.now.boot = boot := Option.some.inj (received.symm.trans describes.boot)
  have sameIdentity : call.sample.identity = identity := by
    have same : identity = call.sample.identity := by
      simpa [Continuity.changed, describes.identity] using unchanged
    exact same.symm
  refine ⟨boot, identity, first, last, count, .repeated streak call fresh sameBoot sameIdentity ?_,
    describes⟩
  simp only [Continuity.regressed, fresh, describes.identity, sameIdentity, describes.sourceMono,
    decide_true, Bool.and_true, Bool.true_and, Option.any_some, decide_eq_false_iff_not,
    not_lt] at younger
  exact younger

theorem recorded_result {maxGap : ℚ} {calls : List Call} (recorded : Recorded maxGap calls state)
    (call : Call) : Recorded maxGap (calls ++ [call]) (state.result call maxGap) := by
  by_cases new : (state.prior call).isNew call = true
  · obtain ⟨first, count, streak, describes⟩ :=
      streak_of_new recorded (boot_of_prior state call) new
    intro verdict found known
    have same : verdict = call.verdict := by
      rw [Continuity.result] at found
      rw [if_pos new] at found
      exact (Option.some.inj found).symm
    exact ⟨call.now.boot, call.sample.identity, first, call, count, same ▸ streak, describes⟩
  · rw [Continuity.result]
    rw [if_neg new]
    by_cases broken : (!call.fresh || (state.prior call).regressed call) = true
    · rw [if_pos broken]
      intro verdict found known
      cases found
      exact absurd rfl known
    · rw [if_neg broken]
      simp only [Bool.or_eq_true, Bool.not_eq_true', not_or, Bool.not_eq_false,
        Bool.not_eq_true] at broken
      exact recorded_of_repeated recorded broken.1 broken.2

end Steps

section Loss

/-- The times of one boot do not decrease. -/
def Ordered (calls : List Call) : Prop :=
  calls.Pairwise fun left right => left.now.boot = right.now.boot → left.now.mono ≤ right.now.mono

instance (calls : List Call) : Decidable (Ordered calls) :=
  inferInstanceAs (Decidable (calls.Pairwise _))

/-- The record after the calls. -/
def record (parameters : Parameters) (calls : List Call) : Continuity :=
  final (advance parameters) {} calls

/-- A call of the list whose sample was accepted as a new one. -/
def Accepted (parameters : Parameters) (calls : List Call) (call : Call) : Prop :=
  ∃ earlier later, calls = earlier ++ call :: later ∧
    ((record parameters earlier).prior call).isNew call = true

/-- No sample was accepted in this boot after `last_new`. -/
def Latest (parameters : Parameters) (calls : List Call) (state : Continuity) : Prop :=
  ∀ boot ∈ state.receiverBoot, ∃ lastNew, state.lastNew = some lastNew ∧
    ∀ call, Accepted parameters calls call → call.now.boot = boot → call.now.mono ≤ lastNew

variable {parameters : Parameters} {calls : List Call}

theorem record_snoc (parameters : Parameters) (calls : List Call) (call : Call) :
    record parameters (calls ++ [call]) =
      (record parameters calls).result call parameters.maxGap := by
  rw [record, final_append]
  rfl

theorem accepted_snoc {call other : Call} (accepted : Accepted parameters (calls ++ [call]) other) :
    Accepted parameters calls other ∨
      (other = call ∧ ((record parameters calls).prior call).isNew call = true) := by
  obtain ⟨earlier, later, shape, new⟩ := accepted
  rcases List.eq_nil_or_concat later with rfl | ⟨front, last, rfl⟩
  · obtain ⟨rfl, same⟩ := List.append_inj' shape rfl
    cases same
    exact .inr ⟨rfl, new⟩
  · left
    rw [List.concat_eq_append, ← List.cons_append, ← List.append_assoc] at shape
    obtain ⟨rfl, -⟩ := List.append_inj' shape rfl
    exact ⟨earlier, front, rfl, new⟩

/-- In one boot an earlier call has no later time. -/
theorem le_of_ordered {call other : Call} (ordered : Ordered (calls ++ [call]))
    (accepted : Accepted parameters (calls ++ [call]) other)
    (boot : other.now.boot = call.now.boot) : other.now.mono ≤ call.now.mono := by
  obtain ⟨earlier, later, shape, -⟩ := accepted
  have member : other ∈ calls ++ [call] := by
    rw [shape]
    exact List.mem_append_right _ (List.mem_cons_self ..)
  rcases List.mem_append.mp member with old | same
  · exact (List.pairwise_append.mp ordered).2.2 other old call (List.mem_singleton_self _) boot
  · rw [List.mem_singleton.mp same]

/-- A call takes `last_new` over from the same boot, or starts it. -/
theorem lastNew_of_prior (state : Continuity) (call : Call) :
    (state.prior call).lastNew = some call.now.mono ∨
      (state.receiverBoot = some call.now.boot ∧
        (state.prior call).lastNew = state.lastNew) := by
  have prepared : (state.prepare call.now).lastNew = some call.now.mono ∨
      (state.receiverBoot = some call.now.boot ∧
        (state.prepare call.now).lastNew = state.lastNew) := by
    rw [Continuity.prepare]
    by_cases boot : state.receiverBoot = some call.now.boot
    · rw [if_pos boot]
      by_cases ordered : state.lastNew.any (· ≤ call.now.mono) = true
      · rw [if_pos ordered]
        right
        split <;> exact ⟨boot, rfl⟩
      · rw [if_neg ordered]
        left
        split <;> rfl
    · rw [if_neg boot]
      left
      split <;> split <;> rfl
  rw [Continuity.prior, Continuity.distinguish]
  split <;> exact prepared

/-- A sample that is not new leaves `last_new` alone. -/
theorem lastNew_of_result {state : Continuity} {call : Call} {maxGap : ℚ}
    (old : (state.prior call).isNew call = false) :
    (state.result call maxGap).lastNew = (state.prior call).lastNew := by
  rw [Continuity.result, if_neg (by simp [old])]
  split <;> rfl

theorem lastNew_of_new {state : Continuity} {call : Call} {maxGap : ℚ}
    (new : (state.prior call).isNew call = true) :
    (state.result call maxGap).lastNew = some call.now.mono := by
  rw [Continuity.result, if_pos new]
  rfl

theorem boot_of_result (state : Continuity) (call : Call) (maxGap : ℚ) :
    (state.result call maxGap).receiverBoot = some call.now.boot := by
  have boot := boot_of_prior state call
  rw [Continuity.result]
  split
  · exact boot
  · split <;> exact boot

theorem latest_snoc {call : Call} (latest : Latest parameters calls (record parameters calls))
    (ordered : Ordered (calls ++ [call])) :
    Latest parameters (calls ++ [call]) (record parameters (calls ++ [call])) := by
  intro boot member
  rw [record_snoc, boot_of_result] at member
  cases member
  rw [record_snoc]
  cases new : ((record parameters calls).prior call).isNew call with
  | true =>
    exact ⟨call.now.mono, lastNew_of_new new, fun other accepted boot =>
      le_of_ordered ordered accepted boot⟩
  | false =>
    rw [lastNew_of_result new]
    rcases lastNew_of_prior (record parameters calls) call with started | ⟨boot, kept⟩
    · exact ⟨call.now.mono, started, fun other accepted boot =>
        le_of_ordered ordered accepted boot⟩
    · obtain ⟨lastNew, found, bound⟩ := latest call.now.boot boot
      refine ⟨lastNew, kept.trans found, fun other accepted same => ?_⟩
      rcases accepted_snoc accepted with earlier | ⟨-, again⟩
      · exact bound other earlier same
      · rw [new] at again
        cases again

theorem latest_record (parameters : Parameters) {calls : List Call} (ordered : Ordered calls) :
    Latest parameters calls (record parameters calls) := by
  induction calls using List.reverseRecOn with
  | nil => exact fun boot member => by cases member
  | append_singleton calls call inductionHypothesis =>
    exact latest_snoc (inductionHypothesis (List.pairwise_append.mp ordered).1) ordered

theorem recorded_record (parameters : Parameters) (calls : List Call) :
    Recorded parameters.maxGap calls (record parameters calls) := by
  induction calls using List.reverseRecOn with
  | nil => exact fun verdict found => by cases found
  | append_singleton calls call inductionHypothesis =>
    rw [record_snoc]
    exact recorded_result inductionHypothesis call

end Loss

section Results

/-- What a call of `advance` answers about the calls before it, whatever the samples, verdicts,
boots and identities are: a recovery is a streak of at least two good samples that lasts for the
hold by both clocks, and a loss means that nothing new was accepted for as long as it says. -/
theorem continuity_sound (parameters : Parameters) (earlier : List Call) (call : Call)
    (ordered : Ordered (earlier ++ [call])) :
    ((advance parameters (record parameters earlier) call).2.ready = .good →
      ∃ first count, 2 ≤ count ∧
        Streak parameters.maxGap call.now.boot call.sample.identity .good (earlier ++ [call]) first
          call count ∧
        parameters.goodHold ≤ call.now.mono - first.now.mono ∧
        parameters.goodHold ≤ call.sample.sourceMono - first.sample.sourceMono) ∧
    ((advance parameters (record parameters earlier) call).2.lost = true →
      ∀ other, Accepted parameters (earlier ++ [call]) other → other.now.boot = call.now.boot →
        parameters.lostAfter ≤ call.now.mono - other.now.mono) := by
  constructor
  · intro ready
    have granted : granted parameters (record parameters earlier) call = true := by
      by_contra refused
      rw [advance, if_neg refused] at ready
      cases ready
    have judged : call.verdict = .good := by rwa [advance, if_pos granted] at ready
    simp only [Observation.granted, judged, Bool.and_eq_true, Bool.or_eq_true, decide_eq_true_eq,
      reduceCtorEq, false_and, false_or, if_false] at granted
    obtain ⟨⟨⟨⟨fresh, new⟩, -⟩, lasts⟩, many⟩ := granted
    obtain ⟨first, count, streak, describes⟩ :=
      streak_of_new (recorded_record parameters earlier) (boot_of_prior _ call) new
    rw [elapsed, if_pos fresh, describes.since, describes.sourceSince, le_min_iff] at lasts
    rw [describes.count, Option.getD_some] at many
    rw [judged] at streak
    exact ⟨first, count, by exact_mod_cast many, streak, lasts.1, lasts.2⟩
  · intro lost other accepted boot
    have latest := latest_record parameters ordered
    rw [record_snoc] at latest
    obtain ⟨lastNew, found, bound⟩ := latest call.now.boot (boot_of_result _ call _)
    simp only [advance, found, Option.getD_some, decide_eq_true_eq] at lost
    have := bound other accepted boot
    linarith

/-- A good sample of one source, received as it was taken. -/
def goodSample (sample : String) (mono : ℚ) : Call :=
  ⟨⟨true, "host", "boot", "network", sample, mono⟩, .good, ⟨mono, "boot"⟩⟩

/-- Two good samples a minute apart, the first of them read twice, are a recovery. -/
theorem continuity_sound_of_minute :
    ∃ first count, 2 ≤ count ∧
      Streak 180 "boot" ⟨"host", "boot", "network"⟩ .good
        [goodSample "a" 100, goodSample "a" 100, goodSample "b" 160] first (goodSample "b" 160)
        count ∧ 45 ≤ (160 : ℚ) - first.now.mono ∧ 45 ≤ (160 : ℚ) - first.sample.sourceMono :=
  (continuity_sound {} [goodSample "a" 100, goodSample "a" 100] (goodSample "b" 160)
    (by decide +kernel)).1 (by decide +kernel)

end Results

end LiveStream.Observation
