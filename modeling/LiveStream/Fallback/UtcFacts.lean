import LiveStream.Fallback.StopRule

/-! The facts path without UTC: two answers of the facts producer that only differ
in wall readings and labels give the same sample but for one label. -/

namespace LiveStream.Fallback

open LiveStream.Support

section Masks

/-- A wall reading or a label, removed. -/
def blank (_ : Value) : Value := .none

def maskRaw (raw : Value) : Value := raw.update "observed_at" blank

def maskCopy (cp : Value) : Value :=
  (cp.update "updated_at" blank).update "last_progress_at" blank

def maskExchange (exchanged : Value) : Value :=
  (exchanged.update "received" (·.update "wall" blank)).update "sent" (·.update "wall" blank)

/-- The answer of the facts producer without its UTC data. -/
def withoutUtc (value : Value) : Value :=
  ((value.update "relay" maskRaw).update "youtube_copy" maskCopy).update "clock" maskExchange

/-- The labels of the answer are texts within their bounds. -/
def WellTyped (value : Value) : Prop :=
  (∀ label, value.path ["relay", "observed_at"] = .ok label → label.isTextWithin 64 = true) ∧
    (∀ label, value.path ["youtube_copy", "updated_at"] = .ok label →
      label.isTextWithin 40 = true) ∧
    ∀ label, value.path ["youtube_copy", "last_progress_at"] = .ok label →
      label.isTextWithin 40 = true

variable {left right : Value}

theorem index_of_maskRaw (same : maskRaw left = maskRaw right) {key : String}
    (other : key ≠ "observed_at") : left.index key = right.index key := by
  have masked := congrArg (·.index key) same
  simpa only [maskRaw, Value.index_update, if_neg other] using masked

theorem path_of_maskRaw (same : maskRaw left = maskRaw right) {key : String}
    (other : key ≠ "observed_at") (rest : List String) :
    left.path (key :: rest) = right.path (key :: rest) := by
  rw [Value.path, Value.path, index_of_maskRaw same other]

theorem index_of_maskCopy (same : maskCopy left = maskCopy right) {key : String}
    (other : key ≠ "updated_at") (another : key ≠ "last_progress_at") :
    left.index key = right.index key := by
  have masked := congrArg (·.index key) same
  simpa only [maskCopy, Value.index_update, if_neg other, if_neg another] using masked

theorem index_of_maskExchange (same : maskExchange left = maskExchange right) {key : String}
    (other : key ≠ "received") (another : key ≠ "sent") : left.index key = right.index key := by
  have masked := congrArg (·.index key) same
  simpa only [maskExchange, Value.index_update, if_neg other, if_neg another] using masked

theorem index_of_withoutUtc (same : withoutUtc left = withoutUtc right) {key : String}
    (relay : key ≠ "relay") (copy : key ≠ "youtube_copy") (exchange : key ≠ "clock") :
    left.index key = right.index key := by
  have masked := congrArg (·.index key) same
  simpa only [withoutUtc, Value.index_update, if_neg relay, if_neg copy, if_neg exchange]
    using masked

theorem getD_of_withoutUtc (same : withoutUtc left = withoutUtc right) {key : String}
    (relay : key ≠ "relay") (copy : key ≠ "youtube_copy") (exchange : key ≠ "clock")
    (default : Value) : left.getD key default = right.getD key default := by
  have masked := congrArg (·.getD key default) same
  simpa only [withoutUtc, Value.getD_update _ _ _ relay, Value.getD_update _ _ _ copy,
    Value.getD_update _ _ _ exchange] using masked

theorem relay_of_withoutUtc (same : withoutUtc left = withoutUtc right) :
    (left.index "relay").map maskRaw = (right.index "relay").map maskRaw := by
  have masked := congrArg (·.index "relay") same
  simpa [withoutUtc, Value.index_update] using masked

theorem copy_of_withoutUtc (same : withoutUtc left = withoutUtc right) :
    (left.index "youtube_copy").map maskCopy = (right.index "youtube_copy").map maskCopy := by
  have masked := congrArg (·.index "youtube_copy") same
  simpa [withoutUtc, Value.index_update] using masked

theorem exchange_of_withoutUtc (same : withoutUtc left = withoutUtc right) :
    (left.index "clock").map maskExchange = (right.index "clock").map maskExchange := by
  have masked := congrArg (·.index "clock") same
  simpa [withoutUtc, Value.index_update] using masked

theorem isDict_of_withoutUtc (same : withoutUtc left = withoutUtc right) :
    left.isDict = right.isDict := by
  simpa [withoutUtc] using congrArg Value.isDict same

theorem isNone_of_maskCopy (same : maskCopy left = maskCopy right) :
    left.isNone = right.isNone ∧ left.isDict = right.isDict := by
  have dict := congrArg Value.isDict same
  have none := congrArg Value.isNone same
  simp only [maskCopy, Value.isDict_update, Value.isNone_update] at dict none
  exact ⟨none, dict⟩

end Masks

section Relations

variable {α β γ δ : Type}

/-- Both computations raise the same, or yield related values. -/
def Facts.Related (related : α → β → Prop) : Facts α → Facts β → Prop
  | .ok left, .ok right => related left right
  | .error left, .error right => left = right
  | .ok _, .error _ | .error _, .ok _ => False

theorem related_bind {related : α → β → Prop} {further : γ → δ → Prop} {first : Facts α}
    {other : Facts β} {next : α → Facts γ} {following : β → Facts δ}
    (begun : Facts.Related related first other)
    (rest : ∀ left right, first = .ok left → other = .ok right → related left right →
      Facts.Related further (next left) (following right)) :
    Facts.Related further (first >>= next) (other >>= following) := by
  cases first with
  | error error =>
    cases other with
    | error other => exact begun
    | ok right => exact begun.elim
  | ok left =>
    cases other with
    | error other => exact begun.elim
    | ok right => exact rest left right rfl rfl begun

/-- The same first part, whatever it is. -/
theorem related_same {further : γ → δ → Prop} {first : Facts α} {next : α → Facts γ}
    {following : α → Facts δ} (rest : ∀ value, Facts.Related further (next value) (following value)) :
    Facts.Related further (first >>= next) (first >>= following) := by
  cases first with
  | error error => exact rfl
  | ok value => exact rest value

theorem related_refl {facts : Facts α} : Facts.Related Eq facts facts := by
  cases facts <;> exact rfl

theorem eq_of_related {left right : Facts α} (same : Facts.Related Eq left right) :
    left = right := by
  cases left <;> cases right
  · exact congrArg _ same
  · exact same.elim
  · exact same.elim
  · exact congrArg _ same

theorem related_lift {related : Value → Value → Prop} {left right : Except PyError Value}
    {mask : Value → Value} (same : left.map mask = right.map mask)
    (unmask : ∀ first second, mask first = mask second → related first second) :
    Facts.Related related (liftM left) (liftM right) := by
  cases left with
  | error error =>
    cases right with
    | error other =>
      cases same
      exact rfl
    | ok value => cases same
  | ok value =>
    cases right with
    | error other => cases same
    | ok second => exact unmask value second (Except.ok.inj same)

end Relations

section Samples

/-- The sample without the label of its copy record. -/
def Sample.unlabelled (sample : Sample) : Sample :=
  { sample with route := sample.route.map fun route => { route with copyUpdatedAt := "" } }

/-- The same sample and reason but for the label. -/
def SameSample (left right : Sample × String) : Prop :=
  left.1.unlabelled = right.1.unlabelled ∧ left.2 = right.2

theorem related_sameSample {facts : Facts (Sample × String)} :
    Facts.Related SameSample facts facts := by
  cases facts with
  | error error => exact rfl
  | ok sample => exact ⟨rfl, rfl⟩

variable {raw raw' cp cp' : Value} (sameRaw : maskRaw raw = maskRaw raw')
variable (sameCopy : maskCopy cp = maskCopy cp')
include sameRaw sameCopy

theorem stoppedRelay_related (availability : Value) (received : ℚ) :
    stoppedRelay availability raw cp received = stoppedRelay availability raw' cp' received := by
  have path := @path_of_maskRaw raw raw' sameRaw
  have index := @index_of_maskRaw raw raw' sameRaw
  simp (disch := decide) only [stoppedRelay, index, path, (isNone_of_maskCopy sameCopy).1]

theorem unavailableCopy_related (destination : String) (availability : Value) (received : ℚ) :
    unavailableCopy destination availability raw cp received =
      unavailableCopy destination availability raw' cp' received := by
  have path := @path_of_maskRaw raw raw' sameRaw
  have index := @index_of_maskRaw raw raw' sameRaw
  have copied := @index_of_maskCopy cp cp' sameCopy
  have ⟨absent, dict⟩ := isNone_of_maskCopy sameCopy
  simp (disch := decide) only [unavailableCopy, copyFault, index, path, copied, absent, dict]

/-- A label that only the sample carries: it may differ, but not its type check. -/
theorem observedRoute_related (destination : String) (observation : Value)
    (received boottime sourceAge : ℚ)
    (updated : (cp.index "updated_at").map (·.isTextWithin 40) =
      (cp'.index "updated_at").map (·.isTextWithin 40))
    (progressed : (cp.index "last_progress_at").map (·.isTextWithin 40) =
      (cp'.index "last_progress_at").map (·.isTextWithin 40)) :
    Facts.Related SameSample
      (observedRoute destination observation raw cp received boottime sourceAge)
      (observedRoute destination observation raw' cp' received boottime sourceAge) := by
  have path := @path_of_maskRaw raw raw' sameRaw
  have index := @index_of_maskRaw raw raw' sameRaw
  have copied := @index_of_maskCopy cp cp' sameCopy
  have dict := (isNone_of_maskCopy sameCopy).2
  have labelled : (cp.index "updated_at").map blank = (cp'.index "updated_at").map blank := by
    cases found : cp.index "updated_at" with
    | error error =>
      cases other : cp'.index "updated_at" with
      | error error' => rw [found, other] at updated; cases updated; rfl
      | ok _ => rw [found, other] at updated; cases updated
    | ok _ =>
      cases other : cp'.index "updated_at" with
      | error error' => rw [found, other] at updated; cases updated
      | ok _ => rfl
  simp (disch := decide) only [observedRoute, index, path, copied, dict, updated, progressed]
  refine related_same fun _ => related_same fun freshness => ?_
  obtain ⟨fresh, new⟩ := freshness
  repeat refine related_same fun _ => ?_
  refine related_bind (related_lift labelled fun _ _ _ => trivial) fun _ _ _ _ _ => ?_
  repeat refine related_same fun _ => ?_
  exact ⟨rfl, rfl⟩

end Samples

theorem liftM_eq_ok {α : Type} {read : Except PyError α} {value : α} :
    (liftM read : Facts α) = .ok value ↔ read = .ok value := by
  cases read <;> simp

/-- Labels that pass their check are indistinguishable to it. -/
theorem checked_label {left right : Except PyError Value} {check : Value → Bool}
    (same : left.map blank = right.map blank) (first : ∀ label, left = .ok label → check label = true)
    (second : ∀ label, right = .ok label → check label = true) : left.map check = right.map check := by
  cases left with
  | error error =>
    cases right with
    | error other => cases same; rfl
    | ok label => cases same
  | ok label =>
    cases right with
    | error other => cases same
    | ok other =>
      exact congrArg Except.ok ((first label rfl).trans (second other rfl).symm)

theorem path_pair {value inner : Value} {outer key : String} (found : value.index outer = .ok inner) :
    value.path [outer, key] = inner.index key := by
  rw [Value.path, found, ok_bind, Value.path]
  cases inner.index key <;> rfl

section Answers

variable {value value' : Value} (same : withoutUtc value = withoutUtc value')
variable (typed : WellTyped value) (typed' : WellTyped value')
include same typed typed'

theorem readCopyRoute_related (settings : Settings) (received boottime sourceAge : ℚ) :
    Facts.Related SameSample (readCopyRoute settings value received boottime sourceAge)
      (readCopyRoute settings value' received boottime sourceAge) := by
  have getD := @getD_of_withoutUtc value value' same
  have index := @index_of_withoutUtc value value' same
  simp (disch := decide) only [readCopyRoute, getD, index]
  refine related_same fun relayAvailability => related_same fun copyAvailability =>
    related_same fun _ => ?_
  refine related_bind (related_lift (relay_of_withoutUtc same) fun _ _ masked => masked)
    fun raw raw' readRaw readRaw' sameRaw => ?_
  refine related_bind (related_lift (copy_of_withoutUtc same) fun _ _ masked => masked)
    fun cp cp' readCopy readCopy' sameCopy => ?_
  rw [liftM_eq_ok] at readRaw readRaw' readCopy readCopy'
  have rawIndex := @index_of_maskRaw raw raw' sameRaw
  have observed : (raw.index "observed_at").map (·.isTextWithin 64) =
      (raw'.index "observed_at").map (·.isTextWithin 64) := by
    refine checked_label ?_ (fun label found => typed.1 label ((path_pair readRaw).trans found))
      fun label found => typed'.1 label ((path_pair readRaw').trans found)
    simpa [maskRaw, Value.index_update] using congrArg (·.index "observed_at") sameRaw
  have updated : (cp.index "updated_at").map (·.isTextWithin 40) =
      (cp'.index "updated_at").map (·.isTextWithin 40) := by
    refine checked_label ?_ (fun label found => typed.2.1 label ((path_pair readCopy).trans found))
      fun label found => typed'.2.1 label ((path_pair readCopy').trans found)
    simpa [maskCopy, Value.index_update] using congrArg (·.index "updated_at") sameCopy
  have progressed : (cp.index "last_progress_at").map (·.isTextWithin 40) =
      (cp'.index "last_progress_at").map (·.isTextWithin 40) := by
    refine checked_label ?_ (fun label found => typed.2.2 label ((path_pair readCopy).trans found))
      fun label found => typed'.2.2 label ((path_pair readCopy').trans found)
    simpa [maskCopy, Value.index_update] using congrArg (·.index "last_progress_at") sameCopy
  simp (disch := decide) only [rawIndex, observed]
  refine related_same fun _ => related_same fun _ => related_same fun _ => ?_
  split_ifs
  · rw [stoppedRelay_related sameRaw sameCopy]
    exact related_sameSample
  · rw [unavailableCopy_related sameRaw sameCopy]
    exact related_sameSample
  · exact related_same fun observation => observedRoute_related sameRaw sameCopy _ observation
      received boottime sourceAge updated progressed

theorem copyRouteSample_related (settings : Settings) (received boottime sourceAge : ℚ) :
    (copyRouteSample settings value received boottime sourceAge).1.map Sample.unlabelled =
      (copyRouteSample settings value' received boottime sourceAge).1.map Sample.unlabelled := by
  have read := readCopyRoute_related same typed typed' settings received boottime sourceAge
  unfold copyRouteSample
  cases left : readCopyRoute settings value received boottime sourceAge with
  | error error =>
    cases right : readCopyRoute settings value' received boottime sourceAge with
    | error other =>
      rw [left, right] at read
      obtain rfl : error = other := read
      rfl
    | ok given => rw [left, right] at read; exact read.elim
  | ok given =>
    cases right : readCopyRoute settings value' received boottime sourceAge with
    | error other => rw [left, right] at read; exact read.elim
    | ok other =>
      rw [left, right] at read
      exact congrArg some read.1

end Answers

section Exchanges

theorem path_of_maskExchange {left right : Value} (same : maskExchange left = maskExchange right)
    {part : String} (named : part = "received" ∨ part = "sent") :
    left.path [part, "mono"] = right.path [part, "mono"] := by
  have masked := congrArg (·.index part) same
  have parts : (left.index part).map (·.update "wall" blank) =
      (right.index part).map (·.update "wall" blank) := by
    rcases named with rfl | rfl <;> simpa [maskExchange, Value.index_update] using masked
  cases first : left.index part with
  | error error =>
    rw [first] at parts
    cases second : right.index part with
    | error other =>
      rw [second] at parts
      cases parts
      rw [Value.path, Value.path, first, second]
    | ok _ => rw [second] at parts; cases parts
  | ok inner =>
    rw [first] at parts
    cases second : right.index part with
    | error _ => rw [second] at parts; cases parts
    | ok other =>
      rw [second] at parts
      have mono := congrArg (·.index "mono") (Except.ok.inj parts)
      rw [path_pair first, path_pair second]
      simpa [Value.index_update] using mono

/-- The age of a source does not look at any wall reading. -/
theorem monotonicSourceAge_related {left right : Value}
    (same : maskExchange left = maskExchange right) (nonce : String)
    {sent sent' received received' : Instant} (begun : sent.mono = sent'.mono)
    (ended : received.mono = received'.mono) (machine : String) (bootId sourceMono : Value)
    (maxAge : ℚ) :
    monotonicSourceAge left nonce sent received machine bootId sourceMono maxAge =
      monotonicSourceAge right nonce sent' received' machine bootId sourceMono maxAge := by
  have index := @index_of_maskExchange left right same
  have first := path_of_maskExchange same (Or.inl rfl)
  have second := path_of_maskExchange same (Or.inr rfl)
  simp (disch := decide) only [monotonicSourceAge, index, first, second, begun, ended]

theorem exchangedClock_related {left right : Value}
    (same : withoutUtc left = withoutUtc right) :
    Facts.Related (fun first second => maskExchange first = maskExchange second)
      (liftM (left.index "clock")) (liftM (right.index "clock")) :=
  related_lift (exchange_of_withoutUtc same) fun _ _ masked => masked

theorem relayPath_of_withoutUtc {left right : Value} (same : withoutUtc left = withoutUtc right)
    {key : String} (other : key ≠ "observed_at") :
    left.path ["relay", key] = right.path ["relay", key] := by
  have relay := relay_of_withoutUtc same
  cases first : left.index "relay" with
  | error error =>
    rw [first] at relay
    cases second : right.index "relay" with
    | error other =>
      rw [second] at relay
      cases relay
      rw [Value.path, Value.path, first, second]
    | ok _ => rw [second] at relay; cases relay
  | ok raw =>
    rw [first] at relay
    cases second : right.index "relay" with
    | error _ => rw [second] at relay; cases relay
    | ok raw' =>
      rw [second] at relay
      rw [path_pair first, path_pair second, index_of_maskRaw (Except.ok.inj relay) other]

end Exchanges

end LiveStream.Fallback
