import LiveStream.Reception.Guard

/-! Runs of the reception guard over one store, and the window of low snapshots that a run leaves
in an episode. A call can be cut short after any of its effects; what it saved last is durable. -/

namespace LiveStream.Reception

open LiveStream.Support

/-- The states that effects save. -/
def saves (effects : List Effect) : List State :=
  effects.filterMap fun
    | .save state => some state
    | .event _ | .restart | .status _ => none

def lastSaved (state : State) (effects : List Effect) : State :=
  (saves effects).getLast?.getD state

/-- One call, and how many of its effects happen before it ends or is killed. -/
structure Turn where
  reading : Reading
  performed : Nat

/-- A call on the durable state; the output are the effects that happened. -/
def turn (policy : Policy) (state : State) (event : Turn) : State × List Effect :=
  let effects := (observe policy state event.reading).take event.performed
  (lastSaved state effects, effects)

abbrev Step := Taken State Turn (List Effect)

/-- Whether the call saved anything. -/
def recorded (step : Step) : Bool := !(saves step.output).isEmpty

/-- The snapshot of a call that saved what it made of it. -/
def snapshot? (step : Step) : Option Sample :=
  if recorded step then step.event.reading.collected.toOption else none

@[simp] theorem saves_append (front back : List Effect) :
    saves (front ++ back) = saves front ++ saves back := List.filterMap_append

@[simp] theorem saves_events (rows : List Event) : saves (rows.map .event) = [] := by
  simp [saves]

@[simp] theorem saves_settle (state : State) (episode : Episode) (verdict : Verdict) :
    saves (settle state episode verdict) = [state.withEpisode episode] := rfl

/-- The state with the episode and the history of a call that came to its end. -/
def State.finished (state : State) (values : PolicyValues) (episode : Episode) (sample : Sample)
    (verdict : Verdict) : State :=
  { state.withEpisode { episode with status := some verdict } with
    history := remember values state.history sample }

@[simp] theorem saves_finish (values : PolicyValues) (state : State) (episode : Episode)
    (sample : Sample) (verdict : Verdict) :
    saves (finish values state episode sample verdict) =
      [state.finished values episode sample verdict] := rfl

theorem mem_saves {effects : List Effect} {state : State} :
    state ∈ saves effects ↔ Effect.save state ∈ effects := by
  rw [saves, List.mem_filterMap]
  constructor
  · rintro ⟨effect, member, same⟩
    cases effect with
    | save other => exact Option.some.inj same ▸ member
    | event _ | restart | status _ => cases same
  · intro member
    exact ⟨_, member, rfl⟩

/-- What is durable after a call: the state before it, or a state that the call saves. -/
theorem turn_cases (policy : Policy) (state : State) (event : Turn) :
    (saves (turn policy state event).2 = [] ∧ (turn policy state event).1 = state) ∨
      (turn policy state event).1 ∈ saves (turn policy state event).2 := by
  cases last : (saves (turn policy state event).2).getLast? with
  | none =>
    have none := List.getLast?_eq_none_iff.mp last
    exact .inl ⟨none, by
      change (saves (turn policy state event).2).getLast?.getD state = state
      rw [last]
      rfl⟩
  | some saved =>
    have same : (turn policy state event).1 = saved := by
      change (saves (turn policy state event).2).getLast?.getD state = saved
      rw [last]
      rfl
    exact .inr (same ▸ List.mem_of_getLast? last)

/-- What a call saves, it saves in `observe`. -/
theorem saved_of_turn {policy : Policy} {state saved : State} {event : Turn}
    (member : saved ∈ saves (turn policy state event).2) :
    saved ∈ saves (observe policy state event.reading) := by
  rw [mem_saves] at member ⊢
  exact List.mem_of_mem_take member

/-- The next snapshot of a window: newer, near, and without a new position. -/
structure Follows (values : PolicyValues) (last sample : Sample) : Prop where
  newer : last.sourceNow < sample.sourceNow
  near : sample.sourceNow - last.sourceNow ≤ values.sampleMaxAgeSec
  positions : sample.positions = last.positions

/-- A low snapshot of this process, past its grace, from the decoder of the baseline. -/
structure LowAt (values : PolicyValues) (binding : Binding) (start : ℚ) (baseline : Baseline)
    (sample : Sample) : Prop where
  bound : sample.binding = binding
  grace : values.graceSec ≤ sample.mono - start
  isLow : low values baseline sample
  decoder : sample.readsbStart = baseline.readsbStart

/-- Calls over which the low snapshots of a window were taken. Between two of them a call saved
nothing, read the last snapshot again, or saw sources older than the process; no other. -/
inductive Window (values : PolicyValues) (binding : Binding) (start : ℚ) (baseline : Baseline) :
    List Step → List Sample → Prop
  | first {step : Step} {sample : Sample} : snapshot? step = some sample →
      LowAt values binding start baseline sample →
      Window values binding start baseline [step] [sample]
  | next {steps : List Step} {front : List Sample} {last sample : Sample} {step : Step} :
      Window values binding start baseline steps (front ++ [last]) →
      snapshot? step = some sample → LowAt values binding start baseline sample →
      Follows values last sample →
      Window values binding start baseline (steps ++ [step]) (front ++ [last] ++ [sample])
  | unrecorded {steps : List Step} {window : List Sample} {step : Step} :
      Window values binding start baseline steps window → recorded step = false →
      Window values binding start baseline (steps ++ [step]) window
  | reread {steps : List Step} {front : List Sample} {last sample : Sample} {step : Step} :
      Window values binding start baseline steps (front ++ [last]) →
      snapshot? step = some sample → sample.binding = binding →
      sample.sourceNow = last.sourceNow →
      Window values binding start baseline (steps ++ [step]) (front ++ [last])
  | preStart {steps : List Step} {window : List Sample} {step : Step} {sample : Sample} :
      Window values binding start baseline steps window → snapshot? step = some sample →
      sample.binding = binding → sample.preStart →
      Window values binding start baseline (steps ++ [step]) window

namespace Window

variable {values : PolicyValues} {binding : Binding} {start : ℚ} {baseline : Baseline}
  {steps : List Step} {window : List Sample}

theorem lows (holds : Window values binding start baseline steps window) :
    ∀ sample ∈ window, LowAt values binding start baseline sample := by
  induction holds with
  | first _ isLow => simpa using isLow
  | next _ _ isLow _ inductionHypothesis =>
    intro other member
    rcases List.mem_append.mp member with old | new
    · exact inductionHypothesis other old
    · obtain rfl := List.mem_singleton.mp new
      exact isLow
  | unrecorded _ _ inductionHypothesis => exact inductionHypothesis
  | reread _ _ _ _ inductionHypothesis => exact inductionHypothesis
  | preStart _ _ _ _ inductionHypothesis => exact inductionHypothesis

theorem length_le (holds : Window values binding start baseline steps window) :
    window.length ≤ steps.length := by
  have added : ∀ {α : Type} (items : List α) (item : α), (items ++ [item]).length = items.length + 1 :=
    fun _ _ => List.length_append
  induction holds with
  | first _ _ => exact le_rfl
  | @next steps front last sample step _ _ _ _ inductionHypothesis =>
    rw [added (front ++ [last]), added steps]
    exact Nat.add_le_add_right inductionHypothesis 1
  | @unrecorded steps _ step _ _ inductionHypothesis
  | @preStart steps _ step _ _ _ _ _ inductionHypothesis
  | @reread steps _ _ _ step _ _ _ _ inductionHypothesis =>
    rw [added steps]
    exact inductionHypothesis.trans (Nat.le_succ _)

theorem ne_nil (holds : Window values binding start baseline steps window) : window ≠ [] := by
  induction holds with
  | first _ _ => simp
  | next _ _ _ _ _ => simp
  | unrecorded _ _ inductionHypothesis => exact inductionHypothesis
  | reread _ _ _ _ inductionHypothesis => exact inductionHypothesis
  | preStart _ _ _ _ inductionHypothesis => exact inductionHypothesis

/-- The snapshots of a window come from its calls, in their order. -/
theorem sublist (holds : Window values binding start baseline steps window) :
    window.Sublist (steps.filterMap snapshot?) := by
  induction holds with
  | first taken _ => simp [taken]
  | next _ taken _ _ inductionHypothesis =>
    rw [List.filterMap_append]
    exact inductionHypothesis.append (by simp [taken])
  | unrecorded _ _ inductionHypothesis =>
    rw [List.filterMap_append]
    exact inductionHypothesis.trans (List.sublist_append_left _ _)
  | reread _ _ _ _ inductionHypothesis =>
    rw [List.filterMap_append]
    exact inductionHypothesis.trans (List.sublist_append_left _ _)
  | preStart _ _ _ _ inductionHypothesis =>
    rw [List.filterMap_append]
    exact inductionHypothesis.trans (List.sublist_append_left _ _)

end Window

/-- The bad entries of an episode are the window that the last calls leave. -/
def Evidence (values : PolicyValues) (history : List Step) (episode : Episode) : Prop :=
  episode.bad = [] ∨ ∃ baseline early span window, episode.baseline = some baseline ∧
    history = early ++ span ∧
    Window values episode.binding (episode.retryStartMono.getD episode.startMono) baseline span
      window ∧
    episode.bad = window.map (·.badEntry baseline) ∧ episode.lastPost = window.getLast?

/-- An episode began with a call that saw its invocation for the first time, and has the baseline
that was known then; without an attempt it is still that invocation. -/
def Opened (values : PolicyValues) (history : List Step) (episode : Episode) : Prop :=
  ∃ early opening later first, history = early ++ opening :: later ∧
    snapshot? opening = some first ∧ episode.startMono = first.startMono ∧
    episode.baseline = baselineFor values opening.before.history first ∧
    (episode.attempts = 0 → episode.binding = first.binding ∧ episode.retryStartMono = none)

/-- What a run keeps of the episode. -/
structure Watched (values : PolicyValues) (history : List Step) (episode : Episode) : Prop where
  notWaiting : episode.waitingOrigin = none
  source : episode.lastSource = episode.lastPost.map (·.sourceNow)
  opened : Opened values history episode
  evidence : Evidence values history episode

theorem Opened.append {values : PolicyValues} {history : List Step} {episode : Episode}
    (opened : Opened values history episode) (step : Step) :
    Opened values (history ++ [step]) episode := by
  obtain ⟨early, opening, later, first, rfl, rest⟩ := opened
  exact ⟨early, opening, later ++ [step], first, by simp, rest⟩

/-- The parts of an episode that no snapshot changes. -/
structure SameOrigin (episode other : Episode) : Prop where
  binding : other.binding = episode.binding
  startMono : other.startMono = episode.startMono
  retryStartMono : other.retryStartMono = episode.retryStartMono
  baseline : other.baseline = episode.baseline
  waitingOrigin : other.waitingOrigin = episode.waitingOrigin

theorem Opened.same {values : PolicyValues} {history : List Step} {episode other : Episode}
    (opened : Opened values history episode) (same : SameOrigin episode other)
    (attempts : other.attempts = 0 → episode.attempts = 0) : Opened values history other := by
  obtain ⟨early, opening, later, first, split, taken, start, baseline, unspent⟩ := opened
  refine ⟨early, opening, later, first, split, taken, same.startMono.trans start,
    same.baseline.trans baseline, fun none => ?_⟩
  rw [same.binding, same.retryStartMono]
  exact unspent (attempts none)

/-- A call that saved nothing leaves the episode as it was watched. -/
theorem Watched.unrecorded {values : PolicyValues} {history : List Step} {episode : Episode}
    (watched : Watched values history episode) {step : Step} (lost : recorded step = false) :
    Watched values (history ++ [step]) episode where
  notWaiting := watched.notWaiting
  source := watched.source
  opened := watched.opened.append step
  evidence := by
    rcases watched.evidence with none | ⟨baseline, early, span, window, known, split, held, rest⟩
    · exact .inl none
    · refine .inr ⟨baseline, early, span ++ [step], window, known, ?_, held.unrecorded lost, rest⟩
      rw [split, List.append_assoc]

end LiveStream.Reception
