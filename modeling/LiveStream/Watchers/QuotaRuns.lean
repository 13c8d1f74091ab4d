import LiveStream.Watchers.QuotaState

/-! Every order of marks and checks on one quota file: what a clear that is saved late loses, and
that without one the latch of a completed mark is never lost. -/

namespace LiveStream.Watchers

open LiveStream.Support

section Law

/-- The marks that a check which has not loaded the file yet has to see. -/
def Call.awaits : Call → List Int
  | .entered entry _ => entry.owed
  | .loaded .. | .clearing .. | .checked .. | .marking .. | .marked .. => []

/-- The completed marks that some check still relies on: they last beyond the clock, or beyond the
start of a check that has yet to load the file. -/
def World.owed (world : World) : List Int :=
  world.completed.filter (world.clock < ·) ++ world.calls.flatMap Call.awaits

/-- Whether the expiry of a loaded state lies ahead. -/
def ahead (clock : Int) (state : Fields) : Bool :=
  match count state "quota_exhausted_until_ts" with
  | .ok untilTs => untilTs ≤ 0 || clock < untilTs
  | .error _ => false

/-- A step that loses no mark: a clear is saved when no completed mark is relied on, a mark does
not fall behind one that is, and a check that owes a mark reads its clock before the expiry. -/
def Call.Careful (world : World) : Call → Prop
  | .clearing _ _ => world.owed = []
  | .marking mark => ∀ untilTs ∈ world.owed, untilTs ≤ mark.untilTs
  | .loaded entry none state => entry.owed = [] ∨ ahead world.clock state = true
  | .loaded _ (some _) _ | .entered .. | .checked .. | .marked .. => True

instance (world : World) : (call : Call) → Decidable (call.Careful world)
  | .clearing _ _ => inferInstanceAs (Decidable (world.owed = []))
  | .marking mark => inferInstanceAs (Decidable (∀ untilTs ∈ world.owed, untilTs ≤ mark.untilTs))
  | .loaded entry none state =>
    inferInstanceAs (Decidable (entry.owed = [] ∨ ahead world.clock state = true))
  | .loaded _ (some _) _ | .entered .. | .checked .. | .marked .. => .isTrue trivial

def Careful (world : World) : Turn → Prop
  | .advance index _ => ∀ call ∈ world.calls[index]?, call.Careful world
  | .pass _ | .check _ | .mark .. => True

instance (world : World) : (turn : Turn) → Decidable (Careful world turn)
  | .advance index _ => inferInstanceAs (Decidable (∀ call ∈ world.calls[index]?, _))
  | .pass _ | .check _ | .mark .. => .isTrue trivial

def reportsActive : Except PyError (Bool × Fields) → Bool
  | .ok (active, _) => active
  | .error _ => false

/-- A check that started after a mark had completed and before its `until_ts` reports active. -/
def Call.Lawful : Call → Prop
  | .checked entry answer =>
    ∀ untilTs ∈ entry.completed, entry.started < untilTs → reportsActive answer = true
  | .entered .. | .loaded .. | .clearing .. | .marking .. | .marked .. => True

instance : (call : Call) → Decidable call.Lawful
  | .checked entry answer => inferInstanceAs (Decidable (∀ untilTs ∈ entry.completed,
      entry.started < untilTs → reportsActive answer = true))
  | .entered .. | .loaded .. | .clearing .. | .marking .. | .marked .. => .isTrue trivial

def World.Lawful (world : World) : Prop := ∀ call ∈ world.calls, call.Lawful

instance (world : World) : Decidable world.Lawful :=
  inferInstanceAs (Decidable (∀ call ∈ world.calls, call.Lawful))

end Law

section Latch

variable {state : Fields} {untilTs : Int}

/-- The state is latched until the given time at least. -/
def Latched (untilTs : Int) (state : Fields) : Prop :=
  quotaExhausted state = true ∧
    ∃ bound, count state "quota_exhausted_until_ts" = .ok bound ∧ untilTs ≤ bound

theorem count_int {key : String} {number : Int} (found : state.get? key = some (.int number)) :
    count state key = .ok number := by
  rw [count, found]
  by_cases zero : number = 0
  · simp [Value.truthy, zero]
  · simp [Value.truthy, zero, Value.toInt]

/-- A mark latches the state until its own time. -/
theorem latched_updater {mark : Mark} {utcNow : String} {after : Fields} {wasActive : Bool}
    (updated : mark.updater utcNow state = .ok (after, wasActive)) (early : untilTs ≤ mark.untilTs) :
    Latched untilTs after := by
  simp only [Mark.updater, bind_eq_ok, pure_eq_ok, Prod.mk.injEq] at updated
  obtain ⟨sinceTs, -, rfl, -⟩ := updated
  constructor
  · simp [quotaExhausted, Value.truthy]
  · exact ⟨mark.untilTs, count_int (by simp), early⟩

/-- Before the expiry a latched state is found active. -/
theorem verdict_latched (latched : Latched untilTs state) {current : Int} (utcNow : String)
    (early : ahead current state = true) : verdict current utcNow state = .ok .active := by
  obtain ⟨exhausted, bound, read, -⟩ := latched
  rw [verdict, if_pos exhausted, read, ok_bind, if_neg]
  · rfl
  · simp only [ahead, read, Bool.or_eq_true, decide_eq_true_eq] at early
    omega

theorem ahead_of_latched (latched : Latched untilTs state) {current : Int}
    (early : current < untilTs) : ahead current state = true := by
  obtain ⟨-, bound, read, lasts⟩ := latched
  simp only [ahead, read, Bool.or_eq_true, decide_eq_true_eq]
  omega

end Latch

section Invariant

/-- What a call holds on the way to a lawful answer. -/
def Call.Kept : Call → Prop
  | .entered entry nowTs => ∀ current ∈ nowTs, current ≤ entry.started
  | .loaded entry nowTs state =>
    (∀ current ∈ nowTs, current ≤ entry.started) ∧ ∀ untilTs ∈ entry.owed, Latched untilTs state
  | .clearing entry _ => entry.owed = []
  | .checked entry answer => Call.Lawful (.checked entry answer)
  | .marking _ | .marked _ => True

structure World.Kept (world : World) : Prop where
  latched : ∀ untilTs ∈ world.owed, Latched untilTs world.file
  calls : ∀ call ∈ world.calls, call.Kept

theorem Entry.mem_owed {entry : Entry} {untilTs : Int} :
    untilTs ∈ entry.owed ↔ untilTs ∈ entry.completed ∧ entry.started < untilTs := by
  simp [Entry.owed]

theorem World.mem_owed {world : World} {untilTs : Int} :
    untilTs ∈ world.owed ↔
      (untilTs ∈ world.completed ∧ world.clock < untilTs) ∨
        ∃ call ∈ world.calls, untilTs ∈ call.awaits := by
  simp [World.owed]

variable {world : World}

/-- A check that owes no mark is lawful whatever it answers. -/
theorem lawful_of_free {entry : Entry} (free : entry.owed = [])
    (answer : Except PyError (Bool × Fields)) : Call.Lawful (.checked entry answer) := by
  intro untilTs member late
  have owed := Entry.mem_owed.mpr ⟨member, late⟩
  rw [free] at owed
  cases owed

theorem kept_pass (kept : world.Kept) (seconds : Nat) :
    World.Kept { world with clock := world.clock + seconds } := by
  constructor
  · intro untilTs owed
    apply kept.latched
    rcases World.mem_owed.mp owed with ⟨member, late⟩ | waiting
    · exact World.mem_owed.mpr (.inl ⟨member, by simp only at late; omega⟩)
    · exact World.mem_owed.mpr (.inr waiting)
  · exact kept.calls

/-- A call that starts awaits nothing that is not owed already. -/
theorem kept_start (kept : world.Kept) {call : Call} (own : call.Kept)
    (awaits : ∀ untilTs ∈ call.awaits, untilTs ∈ world.owed) :
    World.Kept { world with calls := world.calls ++ [call] } := by
  constructor
  · intro untilTs owed
    apply kept.latched
    rcases World.mem_owed.mp owed with lasting | ⟨other, member, awaited⟩
    · exact World.mem_owed.mpr (.inl lasting)
    · rcases List.mem_append.mp member with old | fresh
      · exact World.mem_owed.mpr (.inr ⟨other, old, awaited⟩)
      · cases List.mem_singleton.mp fresh
        exact awaits untilTs awaited
  · intro other member
    rcases List.mem_append.mp member with old | fresh
    · exact kept.calls other old
    · cases List.mem_singleton.mp fresh
      exact own

/-- A call that moves on to a step after its load, with what it makes of the file. -/
theorem kept_replace (kept : world.Kept) (index : Nat) {file : Fields} {completed : List Int}
    {call : Call} (own : call.Kept) (quiet : call.awaits = [])
    (latched : ∀ untilTs, (untilTs ∈ completed ∧ world.clock < untilTs) ∨
      (∃ other ∈ world.calls, untilTs ∈ other.awaits) → Latched untilTs file) :
    World.Kept { world with file, completed, calls := world.calls.set index call } := by
  constructor
  · intro untilTs owed
    apply latched
    rcases World.mem_owed.mp owed with lasting | ⟨other, member, awaited⟩
    · exact .inl lasting
    · rcases List.mem_or_eq_of_mem_set member with old | rfl
      · exact .inr ⟨other, old, awaited⟩
      · rw [quiet] at awaited
        cases awaited
  · intro other member
    rcases List.mem_or_eq_of_mem_set member with old | rfl
    · exact kept.calls other old
    · exact own

/-- A call that moves on and leaves the file alone. -/
theorem kept_quiet (kept : world.Kept) (index : Nat) {call : Call} (own : call.Kept)
    (quiet : call.awaits = []) :
    World.Kept { world with calls := world.calls.set index call } :=
  kept_replace kept index own quiet fun untilTs owed =>
    kept.latched untilTs (World.mem_owed.mpr owed)

/-- What a check decides on the state it loaded. -/
theorem kept_loaded (kept : world.Kept) (index : Nat) (utcNow : String) {entry : Entry}
    {nowTs : Option Int} {state : Fields} (own : Call.Kept (.loaded entry nowTs state))
    (careful : Call.Careful world (.loaded entry nowTs state)) :
    World.Kept { (world.proceed utcNow (.loaded entry nowTs state)).1 with
      calls := world.calls.set index (world.proceed utcNow (.loaded entry nowTs state)).2 } := by
  obtain ⟨given, latched⟩ := own
  by_cases free : entry.owed = []
  · cases decision : verdict (nowTs.getD world.clock) utcNow state with
    | error error =>
      simp only [World.proceed, decision]
      exact kept_quiet kept index (lawful_of_free free _) rfl
    | ok found =>
      cases found with
      | inactive =>
        simp only [World.proceed, decision]
        exact kept_quiet kept index (lawful_of_free free _) rfl
      | active =>
        simp only [World.proceed, decision]
        exact kept_quiet kept index (lawful_of_free free _) rfl
      | expired cleared =>
        simp only [World.proceed, decision]
        exact kept_quiet kept index free rfl
  · obtain ⟨untilTs, owed⟩ := List.exists_mem_of_ne_nil _ free
    have early : ahead (nowTs.getD world.clock) state = true := by
      cases nowTs with
      | none => exact careful.resolve_left free
      | some current =>
        have late := (Entry.mem_owed.mp owed).2
        have := given current rfl
        exact ahead_of_latched (latched untilTs owed) (by simp only [Option.getD_some]; omega)
    simp only [World.proceed, verdict_latched (latched untilTs owed) utcNow early]
    exact kept_quiet kept index (fun _ _ _ => rfl) rfl

theorem kept_proceed (kept : world.Kept) {index : Nat} {call : Call}
    (found : world.calls[index]? = some call) (utcNow : String) (careful : call.Careful world) :
    World.Kept { (world.proceed utcNow call).1 with
      calls := world.calls.set index (world.proceed utcNow call).2 } := by
  have member := List.mem_of_getElem? found
  have own := kept.calls call member
  cases call with
  | entered entry nowTs =>
    refine kept_quiet kept index ⟨own, fun untilTs owed => ?_⟩ rfl
    exact kept.latched untilTs (World.mem_owed.mpr (.inr ⟨_, member, owed⟩))
  | loaded entry nowTs state => exact kept_loaded kept index utcNow own careful
  | clearing entry state =>
    refine kept_replace kept index (lawful_of_free own _) rfl fun untilTs owed => ?_
    have none : untilTs ∈ world.owed := World.mem_owed.mpr owed
    rw [show world.owed = [] from careful] at none
    cases none
  | checked entry answer => exact kept_quiet kept index own rfl
  | marking mark =>
    cases updated : mark.updater utcNow world.file with
    | error error =>
      simp only [World.proceed, updated]
      exact kept_quiet kept index trivial rfl
    | ok result =>
      simp only [World.proceed, updated]
      refine kept_replace kept index trivial rfl fun untilTs owed => latched_updater updated ?_
      rcases owed with ⟨member, late⟩ | waiting
      · rcases List.mem_append.mp member with old | fresh
        · exact careful untilTs (World.mem_owed.mpr (.inl ⟨old, late⟩))
        · exact (List.mem_singleton.mp fresh).le
      · exact careful untilTs (World.mem_owed.mpr (.inr waiting))
  | marked answer => exact kept_quiet kept index trivial rfl

theorem kept_turn (config : QuotaConfig) (kept : world.Kept) (turn : Turn)
    (careful : Careful world turn) : (world.turn config turn).1.Kept := by
  cases turn with
  | pass seconds => exact kept_pass kept seconds
  | check age =>
    refine kept_start kept ?_ fun untilTs owed => ?_
    · intro current member
      obtain ⟨seconds, -, rfl⟩ := Option.mem_map.mp member
      simp only
      omega
    · exact World.mem_owed.mpr (.inl (Entry.mem_owed.mp owed))
  | mark age source detail reasonHint =>
    simp only [World.turn, QuotaConfig.startMark]
    split <;> exact kept_start kept trivial fun _ awaited => by cases awaited
  | advance index utcNow =>
    rw [World.turn]
    cases found : world.calls[index]? with
    | none => exact kept
    | some call => exact kept_proceed kept found utcNow (careful call found)

end Invariant

section Results

/-- Without a late clear, every check that starts after a mark has completed and before its
`until_ts` reports active, in every order of any number of marks and checks. -/
theorem quota_latch_kept (config : QuotaConfig) (clock : Int) (file : Fields) (turns : List Turn)
    (careful : Guarded (World.turn config) Careful { clock, file } turns) :
    (final (World.turn config) { clock, file } turns).Lawful := by
  have kept : (final (World.turn config) { clock, file } turns).Kept := by
    apply final_invariant World.Kept _ _ careful
    · exact fun world turn kept careful => kept_turn config kept turn careful
    · constructor
      · intro untilTs owed
        cases owed
      · intro call member
        cases member
  intro call member
  have own := kept.calls call member
  cases call with
  | checked entry answer => exact own
  | entered _ _ | loaded _ _ _ | clearing _ _ | marking _ | marked _ => trivial

/-- A clear that is saved over a lasting mark loses it: the next check reports inactive. -/
theorem lost_of_clearing (config : QuotaConfig) {world : World} {index : Nat} {entry : Entry}
    {state : Fields} {untilTs : Int} (found : world.calls[index]? = some (.clearing entry state))
    (cleared : quotaExhausted state = false) (completed : untilTs ∈ world.completed)
    (late : world.clock < untilTs) (utcNow : String) :
    ¬ (final (World.turn config) world [.advance index utcNow, .check none,
      .advance world.calls.length utcNow, .advance world.calls.length utcNow]).Lawful := by
  have decided : verdict world.clock utcNow state = .ok .inactive := by simp [verdict, cleared]
  have saved : (World.turn config world (.advance index utcNow)).1 =
      { world with
        file := state, calls := world.calls.set index (.checked entry (.ok (false, state))) } := by
    simp only [World.turn, found, World.proceed]
  intro lawful
  have report := lawful (.checked ⟨world.clock, world.completed⟩ (.ok (false, state))) (by
    simp only [final_cons, final_nil, saved]
    simp [World.turn, World.proceed, decided])
  exact absurd (report untilTs completed late) (by simp [reportsActive])

/-- The calendar of a Pacific summer, with the configured margin and cooldown. -/
def summer : QuotaConfig where
  nextQuotaResetTsPacific nowTs := some ((nowTs - 25200) / 86400 * 86400 + 86400 + 25200)
  QUOTA_RESET_MARGIN_SEC := 300
  QUOTA_EXHAUSTED_COOLDOWN_SEC := 21600

/-- A check loads a latch that expired an hour ago, a mark latches the next day, and the check then
saves its clear over it. The second check reports inactive fifteen hours too early. -/
theorem quota_latch_lost : ¬ (final (World.turn summer)
    { clock := 1777995000
      file := [("quota_exhausted", .bool true), ("quota_exhausted_until_ts", .int 1777991400)] }
    [.check none, .advance 0 "", .advance 0 "2026-05-05T15:30:00Z",
      .mark 0 "data_api_search" "quota exceeded" "quotaExceeded",
      .advance 1 "2026-05-05T15:30:00Z", .advance 0 "", .check none, .advance 2 "",
      .advance 2 ""]).Lawful := by
  decide +kernel

/-- An expired latch is cleared, a mark latches the next day, and a check reports it. -/
theorem quota_latch_kept_after_clear : (final (World.turn summer)
    { clock := 1777995000
      file := [("quota_exhausted", .bool true), ("quota_exhausted_until_ts", .int 1777991400)] }
    [.check (some 0), .advance 0 "", .advance 0 "2026-05-05T15:30:00Z", .advance 0 "",
      .mark 0 "data_api_search" "quota exceeded" "quotaExceeded",
      .advance 1 "2026-05-05T15:30:00Z", .check none, .pass 3600, .advance 2 "",
      .advance 2 ""]).Lawful :=
  quota_latch_kept summer 1777995000 _ _ (by decide +kernel)

end Results

end LiveStream.Watchers
