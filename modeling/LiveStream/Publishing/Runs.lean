import LiveStream.Publishing.Publish

/-! Runs of publications over one receipts file: an upload whose outcome is uncertain is not
repeated, and the release goes last. -/

namespace LiveStream.Publishing

open LiveStream.Support

universe u v

variable {α : Type u} {δ : Type v}

/-! ### What the history says of an object -/

section History

variable [DecidableEq δ]

/-- The digest of an upload that may have had its effect: it was not classified as not sent, and no
read has returned its bytes since. -/
def Op.pending (name : String) (open' : Option δ) : Op δ → Option δ
  | .put other digest => if other = name then some digest else open'
  | .unsent other => if other = name then none else open'
  | .read other digest => if other = name ∧ digest = open' then none else open'
  | .seed .. => open'

/-- The digests that reads of an object returned since its last upload, or that it was seeded with. -/
def Op.confirmed (name : String) (known : List δ) : Op δ → List δ
  | .put other _ => if other = name then [] else known
  | .read other digest => if other = name then known ++ digest.toList else known
  | .seed other digest => if other = name then known ++ [digest] else known
  | .unsent _ => known

def pendingOf (history : List (Op δ)) (name : String) : Option δ :=
  history.foldl (Op.pending name) none

def confirmedOf (history : List (Op δ)) (name : String) : List δ :=
  history.foldl (Op.confirmed name) []

/-- The object that an operation is about. -/
def Op.name : Op δ → String
  | .put name _ | .unsent name | .read name _ | .seed name _ => name

variable {history : List (Op δ)} {op : Op δ} {name : String}

@[simp] theorem pendingOf_append :
    pendingOf (history ++ [op]) name = op.pending name (pendingOf history name) := by
  simp [pendingOf]

omit [DecidableEq δ] in
@[simp] theorem confirmedOf_append :
    confirmedOf (history ++ [op]) name = op.confirmed name (confirmedOf history name) := by
  simp [confirmedOf]

omit [DecidableEq δ] in
theorem confirmed_of_ne (other : op.name ≠ name) (known : List δ) : op.confirmed name known = known := by
  cases op <;> simp_all [Op.confirmed, Op.name]

theorem pending_of_ne (other : op.name ≠ name) (open' : Option δ) : op.pending name open' = open' := by
  cases op <;> simp_all [Op.pending, Op.name]

/-- Seeds leave the uploads as they are, and what they name is confirmed. -/
theorem pendingOf_seeds (rows : List (String × Receipt δ)) :
    pendingOf (history ++ rows.map fun row => .seed row.1 row.2.sha256) name = pendingOf history name := by
  induction rows using List.reverseRecOn with
  | nil => simp
  | append_singleton rows row ih =>
    rw [List.map_append, ← List.append_assoc, List.map_singleton, pendingOf_append, ih]
    rfl

omit [DecidableEq δ] in
theorem mem_confirmedOf_seeds {rows : List (String × Receipt δ)} {digest : δ} :
    digest ∈ confirmedOf (history ++ rows.map fun row => .seed row.1 row.2.sha256) name ↔
      digest ∈ confirmedOf history name ∨ ∃ row ∈ rows, row.1 = name ∧ row.2.sha256 = digest := by
  induction rows using List.reverseRecOn with
  | nil => simp
  | append_singleton rows row ih =>
    rw [List.map_append, ← List.append_assoc, List.map_singleton, confirmedOf_append]
    simp only [Op.confirmed, List.mem_append, List.mem_singleton]
    split
    · rename_i own
      rw [List.mem_append, ih, List.mem_singleton]
      constructor
      · rintro ((former | ⟨other, listed, named, same⟩) | rfl)
        · exact Or.inl former
        · exact Or.inr ⟨other, Or.inl listed, named, same⟩
        · exact Or.inr ⟨row, Or.inr rfl, own, rfl⟩
      · rintro (former | ⟨other, listed | rfl, named, same⟩)
        · exact Or.inl (Or.inl former)
        · exact Or.inl (Or.inr ⟨other, listed, named, same⟩)
        · exact Or.inr same.symm
    · rename_i apart
      rw [ih]
      constructor
      · rintro (former | ⟨other, listed, named, same⟩)
        · exact Or.inl former
        · exact Or.inr ⟨other, Or.inl listed, named, same⟩
      · rintro (former | ⟨other, listed | rfl, named, same⟩)
        · exact Or.inl former
        · exact Or.inr ⟨other, listed, named, same⟩
        · exact absurd named apart

end History

/-! ### Receipts -/

variable {objects : Objects δ} {name other : String} {receipt : Receipt δ}

@[simp] theorem get_put_self : (objects.put name receipt).get name = some receipt := by
  have found : lookup Prod.fst (upsert Prod.fst objects.rows (name, receipt)) name =
      some (name, receipt) := lookup_upsert_self (name, receipt)
  simp only [Objects.get, Objects.put, found, Option.map_some]

theorem get_put_of_ne (apart : other ≠ name) : (objects.put name receipt).get other = objects.get other := by
  have kept : lookup Prod.fst (upsert Prod.fst objects.rows (name, receipt)) other =
      lookup Prod.fst objects.rows other := lookup_upsert_of_ne apart
  simp only [Objects.get, Objects.put, kept]

theorem get_seeded {allowed : List String} {seed : List (String × δ)}
    (found : (Objects.seeded allowed seed).get name = some receipt) :
    receipt.state = .verified ∧
      ∃ row ∈ (Objects.seeded allowed seed).rows, row.1 = name ∧ row.2.sha256 = receipt.sha256 := by
  obtain ⟨row, stored, same⟩ := Option.map_eq_some_iff.mp found
  obtain ⟨member, named⟩ := lookup_some stored
  refine ⟨?_, row, member, named, by rw [same]⟩
  obtain ⟨item, _, rfl⟩ := List.mem_map.mp member
  rw [← same]

/-! ### What holds between two steps -/

section Invariant

variable [DecidableEq δ] (digest : α → δ)

/-- Receipts, in the file or in memory, against the history: an uncertain upload is unknown, and a
verified digest was confirmed. -/
structure Kept (history : List (Op δ)) (objects : Objects δ) : Prop where
  pending : ∀ name digest, pendingOf history name = some digest →
    objects.get name = some ⟨.outcomeUnknown, digest⟩
  verified : ∀ name digest, objects.get name = some ⟨.verified, digest⟩ →
    digest ∈ confirmedOf history name

/-- What a task relies on at each stage. -/
def Stage.Fits (history : List (Op δ)) (file : Option (Objects δ)) (objects : Objects δ) (name : String)
    (own : δ) : Stage δ → Prop
  | .begin | .failed => True
  | .resolve expected _ => objects.get name = some ⟨.outcomeUnknown, expected⟩
  | .resolved expected => pendingOf history name = none ∧ expected ∈ confirmedOf history name
  | .reconcile _ | .claim | .unsent => pendingOf history name = none
  | .put => pendingOf history name = none ∧ objects.get name = some ⟨.outcomeUnknown, own⟩ ∧
    ∃ saved, file = some saved ∧ saved.get name = some ⟨.outcomeUnknown, own⟩
  | .await | .confirm .. => pendingOf history name = none ∨ pendingOf history name = some own
  | .verify _ => pendingOf history name = none ∧ own ∈ confirmedOf history name
  | .done _ => objects.get name = some ⟨.verified, own⟩

structure Publisher.Fits (history : List (Op δ)) (file : Option (Objects δ)) (publisher : Publisher α δ) :
    Prop where
  memory : Kept history publisher.objects
  tasks : ∀ name task, publisher.tasks name = some task → (name, task.raw) ∈ publisher.frozen.items ∧
    task.stage.Fits history file publisher.objects name (digest task.raw)
  release : ∀ task, publisher.tasks RELEASE_FILE = some task → ∀ item ∈ publisher.frozen.items,
    item.1 ≠ RELEASE_FILE → ∃ other, publisher.tasks item.1 = some other ∧ other.stage.isDone = true
  synced : ∀ task, publisher.tasks RELEASE_FILE = some task → task.stage = .put →
    file = some publisher.objects

structure World.Sound (world : World α δ) : Prop where
  file : ∀ objects, world.file = some objects → Kept world.history objects
  absent : world.file = none → ∀ name, pendingOf world.history name = none
  process : ∀ publisher, world.process = some publisher →
    publisher.Fits digest world.history world.file

variable {digest} {world : World α δ} {publisher : Publisher α δ} {history later : List (Op δ)}
  {file file' : Option (Objects δ)} {objects objects' : Objects δ} {name : String} {own : δ}
  {stage : Stage δ} {task : Task α δ} {op : Op δ}

theorem empty_sound : World.Sound digest (World.empty : World α δ) :=
  ⟨by simp [World.empty], fun _ _ => rfl, by simp [World.empty]⟩

/-- What a task relies on is about its own object only. -/
theorem Stage.Fits.congr (fits : stage.Fits history file objects name own)
    (pending : pendingOf later name = pendingOf history name)
    (confirmed : confirmedOf later name = confirmedOf history name)
    (memory : objects'.get name = objects.get name)
    (saved : file' = file ∨ file' = some objects') :
    stage.Fits later file' objects' name own := by
  cases stage with
  | put =>
    obtain ⟨clear, unknown, former, stored, same⟩ := fits
    refine ⟨pending.trans clear, memory.trans unknown, ?_⟩
    rcases saved with rfl | rfl
    · exact ⟨former, stored, same⟩
    · exact ⟨objects', rfl, memory.trans unknown⟩
  | begin => trivial
  | failed => trivial
  | resolve expected tries => exact memory.trans fits
  | resolved expected => exact ⟨pending.trans fits.1, confirmed ▸ fits.2⟩
  | reconcile tries => exact pending.trans fits
  | claim => exact pending.trans fits
  | unsent => exact pending.trans fits
  | await => exact fits.imp pending.trans pending.trans
  | confirm outcome tries => exact fits.imp pending.trans pending.trans
  | verify outcome => exact ⟨pending.trans fits.1, confirmed ▸ fits.2⟩
  | done outcome => exact memory.trans fits

/-- An operation that is no upload settles at most what is pending, and confirms at most more. -/
theorem Kept.note (kept : Kept history objects) (quiet : ∀ name digest, op ≠ .put name digest) :
    Kept (history ++ [op]) objects := by
  constructor
  · intro name digest pending
    rw [pendingOf_append] at pending
    apply kept.pending
    cases op with
    | put other sent => exact absurd rfl (quiet other sent)
    | unsent other =>
      simp only [Op.pending] at pending
      split at pending
      · cases pending
      · exact pending
    | read other answer =>
      simp only [Op.pending] at pending
      split at pending
      · cases pending
      · exact pending
    | seed other sent => exact pending
  · intro name digest verified
    have former := kept.verified name digest verified
    rw [confirmedOf_append]
    cases op with
    | put other sent => exact absurd rfl (quiet other sent)
    | unsent other => exact former
    | read other answer =>
      simp only [Op.confirmed]
      split
      · exact List.mem_append_left _ former
      · exact former
    | seed other sent =>
      simp only [Op.confirmed]
      split
      · exact List.mem_append_left _ former
      · exact former

/-- An upload of an object that is unknown by then, under the digest of its bytes. -/
theorem Kept.upload {sent : δ} (kept : Kept history objects)
    (unknown : objects.get name = some ⟨.outcomeUnknown, sent⟩) :
    Kept (history ++ [.put name sent]) objects := by
  constructor
  · intro other digest pending
    rw [pendingOf_append] at pending
    simp only [Op.pending] at pending
    split at pending
    · rename_i same
      rw [← same, unknown, Option.some.inj pending]
    · exact kept.pending other digest pending
  · intro other digest verified
    rw [confirmedOf_append]
    simp only [Op.confirmed]
    split
    · rename_i same
      rw [← same, unknown] at verified
      cases verified
    · exact kept.verified other digest verified

/-- A new receipt of an object without an uncertain upload; a verified one names what was confirmed. -/
theorem Kept.put {receipt : Receipt δ} (kept : Kept history objects)
    (clear : pendingOf history name = none)
    (confirmed : receipt.state = .verified → receipt.sha256 ∈ confirmedOf history name) :
    Kept history (objects.put name receipt) := by
  constructor
  · intro other digest pending
    by_cases same : other = name
    · rw [same, clear] at pending
      cases pending
    · rw [get_put_of_ne same]
      exact kept.pending other digest pending
  · intro other digest verified
    by_cases same : other = name
    · subst same
      rw [get_put_self] at verified
      cases verified
      exact confirmed rfl
    · rw [get_put_of_ne same] at verified
      exact kept.verified other digest verified

/-! ### Moves of one task -/

/-- While a task is not over, the release is not taken up by another one. -/
theorem Publisher.Fits.release_none (fits : publisher.Fits digest history file)
    (running : publisher.tasks name = some task) (open' : task.stage.isOver = false)
    (other : name ≠ RELEASE_FILE) : publisher.tasks RELEASE_FILE = none := by
  cases found : publisher.tasks RELEASE_FILE with
  | none => rfl
  | some release =>
    obtain ⟨done, stored, ended⟩ := fits.release release found _ (fits.tasks name task running).1 other
    obtain rfl := Option.some.inj (running.symm.trans stored)
    cases stage : task.stage <;> simp [Stage.isDone, Stage.isOver, stage] at ended open'

/-- A move of one task: it changes what is known of its own object only. -/
structure Move (history later : List (Op δ)) (file file' : Option (Objects δ))
    (objects objects' : Objects δ) (name : String) (own : δ) (next : Stage δ) : Prop where
  pending : ∀ other, other ≠ name → pendingOf later other = pendingOf history other
  confirmed : ∀ other, other ≠ name → confirmedOf later other = confirmedOf history other
  objects : ∀ other, other ≠ name → objects'.get other = objects.get other
  kept : Kept later objects'
  saved : file' = file ∨ file' = some objects'
  fits : next.Fits later file' objects' name own
  synced : next = .put → file' = some objects'

theorem Publisher.Fits.move (fits : publisher.Fits digest history file)
    (running : publisher.tasks name = some task) (open' : task.stage.isOver = false)
    {next : Stage δ} (move : Move history later file file' publisher.objects objects' name
      (digest task.raw) next) :
    Publisher.Fits digest later file' { publisher with
      objects := objects'
      tasks := Function.update publisher.tasks name (some { task with stage := next }) } := by
  refine ⟨move.kept, fun other found stored => ?_, fun release stored => ?_, fun release stored put => ?_⟩
  · by_cases same : other = name
    · subst same
      simp only [Function.update_self] at stored
      obtain rfl := Option.some.inj stored
      exact ⟨(fits.tasks other task running).1, move.fits⟩
    · simp only [Function.update_of_ne same] at stored
      obtain ⟨listed, former⟩ := fits.tasks other found stored
      exact ⟨listed, former.congr (move.pending other same) (move.confirmed other same)
        (move.objects other same) move.saved⟩
  · intro item member apart
    by_cases same : name = RELEASE_FILE
    · subst same
      obtain ⟨done, stored', ended⟩ := fits.release task running item member apart
      refine ⟨done, ?_, ended⟩
      simp only [Function.update_of_ne apart]
      exact stored'
    · have none := fits.release_none running open' same
      simp only [Function.update_of_ne (Ne.symm same), none] at stored
      cases stored
  · by_cases same : name = RELEASE_FILE
    · subst same
      simp only [Function.update_self] at stored
      obtain rfl := Option.some.inj stored
      exact move.synced put
    · have none := fits.release_none running open' same
      simp only [Function.update_of_ne (Ne.symm same), none] at stored
      cases stored

/-- A task that goes on without touching the receipts. -/
theorem Move.goto {next : Stage δ} (kept : Kept history objects)
    (fits : next.Fits history file objects name own) (other : next ≠ .put) :
    Move history history file file objects objects name own next :=
  ⟨fun _ _ => rfl, fun _ _ => rfl, fun _ _ => rfl, kept, Or.inl rfl, fits, fun same => absurd same other⟩

/-- The same with an operation that is noted. -/
theorem Move.note {next : Stage δ} (named : op.name = name) (kept : Kept (history ++ [op]) objects)
    (fits : next.Fits (history ++ [op]) file objects name own) (other : next ≠ .put) :
    Move history (history ++ [op]) file file objects objects name own next := by
  refine ⟨fun other apart => ?_, fun other apart => ?_, fun _ _ => rfl, kept, Or.inl rfl, fits,
    fun same => absurd same other⟩
  · rw [pendingOf_append, pending_of_ne (named ▸ Ne.symm apart)]
  · rw [confirmedOf_append, confirmed_of_ne (named ▸ Ne.symm apart)]

theorem World.Sound.goto (sound : world.Sound digest) (present : world.process = some publisher)
    (running : publisher.tasks name = some task) (open' : task.stage.isOver = false) {next : Stage δ}
    (fits : next.Fits world.history world.file publisher.objects name (digest task.raw))
    (other : next ≠ .put) : (world.goto publisher name task next).Sound digest := by
  have former := sound.process publisher present
  refine ⟨sound.file, sound.absent, fun after same => ?_⟩
  obtain rfl := Option.some.inj same
  exact former.move running open' (.goto former.memory fits other)

/-- A task whose receipt is set: the receipts are saved whole, or not, or nobody knows. -/
theorem World.Sound.set (sound : world.Sound digest) (present : world.process = some publisher)
    (running : publisher.tasks name = some task) (open' : task.stage.isOver = false)
    {receipt : Receipt δ} {next : Stage δ} (save : Save)
    (clear : pendingOf world.history name = none)
    (confirmed : receipt.state = .verified → receipt.sha256 ∈ confirmedOf world.history name)
    (fits : ∀ objects : Objects δ, objects.get name = some receipt →
      next.Fits world.history (some objects) objects name (digest task.raw)) :
    (world.set publisher name task receipt save next).Sound digest := by
  have former := sound.process publisher present
  have kept := former.memory.put clear confirmed
  unfold World.set
  split
  · refine ⟨fun saved same => ?_, fun absent => ?_, fun after same => ?_⟩
    · dsimp only at same
      split at same
      · exact sound.file saved same
      · obtain rfl := Option.some.inj same
        exact kept
    · dsimp only at absent
      split at absent
      · exact sound.absent absent
      · cases absent
    · obtain rfl := Option.some.inj same
      apply former.move running open'
      refine ⟨fun _ _ => rfl, fun _ _ => rfl, fun other apart => get_put_of_ne apart, kept, ?_, ?_, ?_⟩
      · dsimp only
        split
        · exact Or.inl rfl
        · exact Or.inr rfl
      · cases save with
        | kept => exact fits _ get_put_self
        | lost => trivial
        | replaced => trivial
      · cases save with
        | kept => exact fun _ => rfl
        | lost => rintro ⟨⟩
        | replaced => rintro ⟨⟩
  · exact sound.goto present running open' trivial (by rintro ⟨⟩)

/-- From nothing pending, only an upload makes something pending. -/
theorem pending_quiet (quiet : ∀ name digest, op ≠ .put name digest) : op.pending name none = none := by
  cases op with
  | put other sent => exact absurd rfl (quiet other sent)
  | unsent other => simp [Op.pending]
  | read other answer => simp [Op.pending]
  | seed other sent => rfl

/-- An operation that is no upload, noted as its task goes on. -/
theorem World.Sound.noted (sound : world.Sound digest) (present : world.process = some publisher)
    (running : publisher.tasks name = some task) (open' : task.stage.isOver = false) {next : Stage δ}
    (named : op.name = name) (quiet : ∀ name digest, op ≠ .put name digest)
    (fits : next.Fits (world.history ++ [op]) world.file publisher.objects name (digest task.raw))
    (other : next ≠ .put) : ((world.note op).goto publisher name task next).Sound digest := by
  have former := sound.process publisher present
  refine ⟨fun saved same => (sound.file saved same).note quiet, fun absent any => ?_, fun after same => ?_⟩
  · exact pendingOf_append.trans ((sound.absent absent any).symm ▸ pending_quiet quiet)
  · obtain rfl := Option.some.inj same
    exact former.move running open' (.note named (former.memory.note quiet) fits other)

/-- The upload itself. -/
theorem World.Sound.uploading (sound : world.Sound digest) (present : world.process = some publisher)
    (running : publisher.tasks name = some task) (stage : task.stage = .put) :
    ((world.note (.put name (digest task.raw))).goto publisher name task .await).Sound digest := by
  have former := sound.process publisher present
  have fits := (former.tasks name task running).2
  rw [stage] at fits
  obtain ⟨_, unknown, saved, stored, written⟩ := fits
  refine ⟨fun other same => ?_, fun absent => ?_, fun after same => ?_⟩
  · obtain rfl := Option.some.inj (stored.symm.trans same)
    exact (sound.file saved stored).upload written
  · cases stored.symm.trans absent
  · obtain rfl := Option.some.inj same
    apply former.move running (by rw [stage]; rfl)
    refine .note rfl (former.memory.upload unknown) (Or.inr ?_) (by rintro ⟨⟩)
    rw [pendingOf_append]
    exact if_pos rfl

/-! ### The steps -/

/-- A receipt that is not unknown leaves nothing pending. -/
theorem Kept.settled (kept : Kept history objects)
    (known : ∀ digest, objects.get name ≠ some ⟨.outcomeUnknown, digest⟩) : pendingOf history name = none := by
  cases found : pendingOf history name with
  | none => rfl
  | some digest => exact absurd (kept.pending name digest found) (known digest)

theorem Stage.after_fits (kept : Kept history objects)
    (known : ∀ digest, objects.get name ≠ some ⟨.outcomeUnknown, digest⟩) :
    (Stage.after (objects.get name) own).Fits history file objects name own := by
  have clear := kept.settled known
  unfold Stage.after
  split
  · rename_i digest found
    split
    · rename_i same
      exact found.trans (by rw [same])
    · exact clear
  · exact clear

/-- A read of the bytes that may be pending settles the upload. -/
theorem pendingOf_read {sent : δ}
    (open' : pendingOf history name = none ∨ pendingOf history name = some sent) :
    pendingOf (history ++ [.read name (some sent)]) name = none := by
  rw [pendingOf_append]
  rcases open' with clear | same
  · rw [clear]
    simp [Op.pending]
  · rw [same]
    simp [Op.pending]

omit [DecidableEq δ] in
theorem mem_confirmedOf_read {sent : δ} : sent ∈ confirmedOf (history ++ [.read name (some sent)]) name := by
  simp [Op.confirmed]

theorem Stage.read_fits [DecidableEq α] {answer : Option α} {raw : α} {next : Stage δ} (kept : Kept history objects)
    (fits : stage.Fits history file objects name (digest raw))
    (read : Stage.read digest raw answer stage = some next) :
    stage.isOver = false ∧ next ≠ .put ∧
      next.Fits (history ++ [.read name (answer.map digest)]) file objects name (digest raw) := by
  have quiet : ∀ (other : String) (sent : δ), Op.read name (answer.map digest) ≠ .put other sent := by
    rintro other sent ⟨⟩
  cases stage with
  | resolve expected tries =>
    obtain rfl := Option.some.inj read
    split
    · rename_i same
      refine ⟨rfl, by rintro ⟨⟩, ?_⟩
      rw [same]
      refine ⟨pendingOf_read ?_, mem_confirmedOf_read⟩
      cases found : pendingOf history name with
      | none => exact Or.inl rfl
      | some sent =>
        have unknown := fits.symm.trans (kept.pending name sent found)
        cases unknown
        exact Or.inr rfl
    · exact ⟨rfl, by rintro ⟨⟩, trivial⟩
  | reconcile tries =>
    obtain rfl := Option.some.inj read
    have clear : pendingOf (history ++ [.read name (answer.map digest)]) name = none := by
      rw [pendingOf_append, show pendingOf history name = none from fits, pending_quiet quiet]
    split
    · rename_i same
      refine ⟨rfl, by rintro ⟨⟩, clear, ?_⟩
      rw [same]
      exact mem_confirmedOf_read
    · exact ⟨rfl, by rintro ⟨⟩, clear⟩
  | confirm outcome tries =>
    obtain rfl := Option.some.inj read
    split
    · rename_i same
      refine ⟨rfl, by rintro ⟨⟩, ?_⟩
      rw [same]
      exact ⟨pendingOf_read fits, mem_confirmedOf_read⟩
    · exact ⟨rfl, by rintro ⟨⟩, trivial⟩
  | _ => cases read

theorem Stage.again_fits {transient : Bool} {next : Stage δ}
    (fits : stage.Fits history file objects name own)
    (again : Stage.again transient stage = some next) :
    stage.isOver = false ∧ next ≠ .put ∧ next.Fits history file objects name own := by
  cases stage with
  | resolve expected tries =>
    obtain rfl := Option.some.inj again
    split
    · exact ⟨rfl, by rintro ⟨⟩, fits⟩
    · exact ⟨rfl, by rintro ⟨⟩, trivial⟩
  | reconcile tries =>
    obtain rfl := Option.some.inj again
    split
    · exact ⟨rfl, by rintro ⟨⟩, fits⟩
    · exact ⟨rfl, by rintro ⟨⟩, trivial⟩
  | confirm outcome tries =>
    obtain rfl := Option.some.inj again
    split
    · exact ⟨rfl, by rintro ⟨⟩, fits⟩
    · exact ⟨rfl, by rintro ⟨⟩, trivial⟩
  | _ => cases again

/-- A process that has just loaded its receipts. -/
theorem loaded_fits (kept : Kept history objects) (allowed : List String) :
    (World.loaded allowed objects : Publisher α δ).Fits digest history file :=
  ⟨kept, fun _ _ => by rintro ⟨⟩, fun _ => by rintro ⟨⟩, fun _ => by rintro ⟨⟩⟩

theorem World.Sound.load (sound : world.Sound digest) (allowed : List String)
    (seed : List (String × δ)) (save : Save) : (world.load allowed seed save).Sound digest := by
  unfold World.load
  split
  · rename_i objects stored
    split
    · refine ⟨sound.file, sound.absent, fun after same => ?_⟩
      obtain rfl := Option.some.inj same
      exact loaded_fits (sound.file objects stored) allowed
    · exact sound
  · rename_i absent
    have clear : ∀ name, pendingOf (world.history ++ (Objects.seeded allowed seed).rows.map fun row =>
        .seed row.1 row.2.sha256) name = none := fun name =>
      (pendingOf_seeds _).trans (sound.absent absent name)
    have kept : Kept (world.history ++ (Objects.seeded allowed seed).rows.map fun row =>
        .seed row.1 row.2.sha256) (Objects.seeded allowed seed) := by
      constructor
      · intro name digest pending
        cases (clear name).symm.trans pending
      · intro name digest verified
        exact mem_confirmedOf_seeds.mpr (Or.inr (get_seeded verified).2)
    refine ⟨fun objects same => ?_, fun _ => clear, fun publisher same => ?_⟩
    · dsimp only at same
      split at same
      · cases same
      · obtain rfl := Option.some.inj same
        exact kept
    · dsimp only at same
      split at same
      · obtain rfl := Option.some.inj same
        exact loaded_fits kept allowed
      · cases same

omit [DecidableEq δ] in
/-- A step that takes no task leaves the world as it is. -/
theorem onTask_cases {move : Publisher α δ → Task α δ → World α δ} (motive : World α δ → Prop)
    (same : motive world)
    (moved : ∀ publisher task, world.process = some publisher → publisher.tasks name = some task →
      motive (move publisher task)) : motive (world.onTask name move) := by
  unfold World.onTask
  split
  · exact same
  · rename_i publisher present
    split
    · exact same
    · rename_i task running
      exact moved publisher task present running

theorem World.Sound.proceed (sound : world.Sound digest) (present : world.process = some publisher)
    (running : publisher.tasks name = some task) (save : Save) :
    (world.proceed digest publisher name task save).Sound digest := by
  have former := sound.process publisher present
  have fits := (former.tasks name task running).2
  unfold World.proceed
  dsimp only
  split
  · rename_i stage
    apply sound.goto present running (by rw [stage]; rfl)
    · unfold Stage.first
      split
      · rename_i expected found
        exact found
      · rename_i known
        exact Stage.after_fits former.memory known
    · unfold Stage.first Stage.after
      split
      · rintro ⟨⟩
      · split
        · split <;> rintro ⟨⟩
        · rintro ⟨⟩
  · rename_i expected stage
    rw [stage] at fits
    refine sound.set present running (by rw [stage]; rfl) save fits.1 (fun _ => fits.2) fun objects found => ?_
    unfold Stage.after
    dsimp only
    split
    · rename_i same
      exact found.trans (by rw [same])
    · exact fits.1
  · rename_i stage
    rw [stage] at fits
    refine sound.set present running (by rw [stage]; rfl) save fits (by rintro ⟨⟩) fun objects found => ?_
    exact ⟨fits, found, objects, rfl, found⟩
  · rename_i stage
    exact sound.uploading present running stage
  · rename_i stage
    rw [stage] at fits
    exact sound.set present running (by rw [stage]; rfl) save fits (by rintro ⟨⟩) fun _ _ => trivial
  · rename_i outcome stage
    rw [stage] at fits
    exact sound.set present running (by rw [stage]; rfl) save fits.1 (fun _ => fits.2) fun _ found => found
  · exact sound

/-- A new call of `publish` starts without tasks. -/
theorem Publisher.Fits.publish (fits : publisher.Fits digest history file) (frozen : Frozen α) :
    Publisher.Fits digest history file { publisher with frozen := frozen, tasks := fun _ => none } :=
  ⟨fits.memory, fun _ _ => by rintro ⟨⟩, fun _ => by rintro ⟨⟩, fun _ => by rintro ⟨⟩⟩

/-- A worker takes up an object: the release only when every other object is done. -/
theorem Publisher.Fits.start (fits : publisher.Fits digest history file) {item : String × α}
    (listed : lookup Prod.fst publisher.frozen.items name = some item)
    (startable : World.startable publisher name = true) :
    Publisher.Fits digest history file { publisher with
      tasks := Function.update publisher.tasks name (some ⟨item.2, .begin⟩) } := by
  obtain ⟨member, named⟩ := lookup_some listed
  obtain ⟨absent, turn⟩ := Bool.and_eq_true_iff.mp startable
  have new : publisher.tasks name = none := Option.isNone_iff_eq_none.mp absent
  refine ⟨fits.memory, fun other found stored => ?_, fun release stored => ?_, fun release stored put => ?_⟩
  · by_cases same : other = name
    · subst same
      simp only [Function.update_self] at stored
      obtain rfl := Option.some.inj stored
      exact ⟨named ▸ member, trivial⟩
    · simp only [Function.update_of_ne same] at stored
      exact fits.tasks other found stored
  · intro entry among apart
    by_cases same : name = RELEASE_FILE
    · subst same
      simp only [Function.update_of_ne apart]
      simp only [ne_eq, not_true_eq_false, decide_false, Bool.false_or, List.all_eq_true,
        Bool.or_eq_true, decide_eq_true_eq, Option.any_eq_true] at turn
      exact (turn entry among).resolve_left apart
    · simp only [Function.update_of_ne (Ne.symm same)] at stored
      obtain ⟨done, found, ended⟩ := fits.release release stored entry among apart
      have other : entry.1 ≠ name := by
        rintro rfl
        cases new.symm.trans found
      refine ⟨done, ?_, ended⟩
      simp only [Function.update_of_ne other]
      exact found
  · by_cases same : name = RELEASE_FILE
    · subst same
      simp only [Function.update_self] at stored
      obtain rfl := Option.some.inj stored
      cases put
    · simp only [Function.update_of_ne (Ne.symm same)] at stored
      exact fits.synced release stored put

variable [DecidableEq α]

theorem World.Sound.step (sound : world.Sound digest) (event : Event α δ) :
    (world.step digest event).Sound digest := by
  cases event with
  | load allowed seed save =>
    unfold World.step
    dsimp only
    split
    · exact sound
    · exact sound.load allowed seed save
  | publish frozen =>
    unfold World.step
    dsimp only
    split
    · exact sound
    · rename_i publisher present
      split
      · refine ⟨sound.file, sound.absent, fun after same => ?_⟩
        obtain rfl := Option.some.inj same
        exact (sound.process publisher present).publish frozen
      · exact sound
  | start name =>
    unfold World.step
    dsimp only
    split
    · exact sound
    · rename_i publisher present
      split
      · exact sound
      · rename_i item listed
        split
        · rename_i startable
          refine ⟨sound.file, sound.absent, fun after same => ?_⟩
          obtain rfl := Option.some.inj same
          exact (sound.process publisher present).start listed startable
        · exact sound
  | proceed name save =>
    refine onTask_cases (World.Sound digest) sound fun publisher task present running => ?_
    exact sound.proceed present running save
  | got name answer =>
    refine onTask_cases (World.Sound digest) sound fun publisher task present running => ?_
    split
    · rename_i next read
      have former := sound.process publisher present
      have fits := (former.tasks name task running).2
      obtain ⟨open', other, after⟩ := Stage.read_fits former.memory fits read
      exact sound.noted present running open' rfl (by rintro other sent ⟨⟩) after other
    · exact sound
  | getFailed name transient =>
    refine onTask_cases (World.Sound digest) sound fun publisher task present running => ?_
    split
    · rename_i next again
      have fits := ((sound.process publisher present).tasks name task running).2
      obtain ⟨open', other, after⟩ := Stage.again_fits fits again
      exact sound.goto present running open' after other
    · exact sound
  | putEnded name ending =>
    refine onTask_cases (World.Sound digest) sound fun publisher task present running => ?_
    split
    · rename_i stage
      have fits := ((sound.process publisher present).tasks name task running).2
      rw [stage] at fits
      have open' : task.stage.isOver = false := by rw [stage]; rfl
      cases ending with
      | acknowledged => exact sound.goto present running open' fits (by rintro ⟨⟩)
      | failed failure =>
        dsimp only
        split
        · refine sound.noted present running open' rfl (by rintro other sent ⟨⟩) ?_ (by rintro ⟨⟩)
          exact pendingOf_append.trans (if_pos rfl)
        · exact sound.goto present running open' fits (by rintro ⟨⟩)
      | escaped => exact sound.goto present running open' trivial (by rintro ⟨⟩)
    · exact sound
  | raised name =>
    refine onTask_cases (World.Sound digest) sound fun publisher task present running => ?_
    split
    · exact sound
    · rename_i open'
      exact sound.goto present running (Bool.eq_false_iff.mpr open') trivial (by rintro ⟨⟩)
  | exit => exact ⟨sound.file, sound.absent, fun _ => by rintro ⟨⟩⟩

theorem run_sound (events : List (Event α δ)) : (World.run digest events).Sound digest := by
  induction events using List.reverseRecOn with
  | nil => exact empty_sound
  | append_singleton events event ih =>
    unfold World.run
    rw [List.foldl_append]
    exact ih.step event

/-! ### What begins an upload -/

/-- What holds when the bytes of an object are about to be uploaded: nothing uncertain is left of it,
the saved receipts say that its outcome is unknown, and before the release every other object of the
snapshot is verified under its own bytes. -/
structure World.MayPut (digest : α → δ) (world : World α δ) (name : String) (sent : δ) : Prop where
  clear : pendingOf world.history name = none
  durable : ∃ publisher saved raw, world.process = some publisher ∧ world.file = some saved ∧
    (name, raw) ∈ publisher.frozen.items ∧ sent = digest raw ∧
    saved.get name = some ⟨.outcomeUnknown, sent⟩ ∧
    (name = RELEASE_FILE → ∀ item ∈ publisher.frozen.items, item.1 ≠ RELEASE_FILE →
      saved.get item.1 = some ⟨.verified, digest item.2⟩ ∧
      digest item.2 ∈ confirmedOf world.history item.1)

/-- A step adds to the history, and an upload only for a task that is about to put its bytes. -/
def World.Adds (digest : α → δ) (world after : World α δ) : Prop :=
  ∃ added, after.history = world.history ++ added ∧ ∀ name sent, .put name sent ∈ added →
    ∃ publisher task, world.process = some publisher ∧ publisher.tasks name = some task ∧
      task.stage = .put ∧ sent = digest task.raw

omit [DecidableEq α] [DecidableEq δ] in
theorem adds_nothing {after : World α δ} (same : after.history = world.history) : world.Adds digest after :=
  ⟨[], by rw [same, List.append_nil], fun _ _ => by rintro ⟨⟩⟩

omit [DecidableEq α] [DecidableEq δ] in
theorem adds_quiet {after : World α δ} (noted : after.history = world.history ++ [op])
    (quiet : ∀ name digest, op ≠ .put name digest) : world.Adds digest after := by
  refine ⟨[op], noted, fun name sent listed => ?_⟩
  exact absurd (List.mem_singleton.mp listed).symm (quiet name sent)

omit [DecidableEq α] [DecidableEq δ] in
theorem set_history (receipt : Receipt δ) (save : Save) (next : Stage δ) :
    (world.set publisher name task receipt save next).history = world.history := by
  unfold World.set
  split
  · rfl
  · rfl

omit [DecidableEq α] in
theorem proceed_adds (present : world.process = some publisher) (running : publisher.tasks name = some task)
    (save : Save) : world.Adds digest (world.proceed digest publisher name task save) := by
  unfold World.proceed
  dsimp only
  split
  · exact adds_nothing rfl
  · exact adds_nothing (set_history _ _ _)
  · exact adds_nothing (set_history _ _ _)
  · rename_i stage
    refine ⟨[.put name (digest task.raw)], rfl, fun other sent listed => ?_⟩
    cases List.mem_singleton.mp listed
    exact ⟨publisher, task, present, running, stage, rfl⟩
  · exact adds_nothing (set_history _ _ _)
  · exact adds_nothing (set_history _ _ _)
  · exact adds_nothing rfl

theorem step_adds (world : World α δ) (event : Event α δ) : world.Adds digest (world.step digest event) := by
  cases event with
  | load allowed seed save =>
    unfold World.step World.load
    dsimp only
    split
    · exact adds_nothing rfl
    · split
      · split
        · exact adds_nothing rfl
        · exact adds_nothing rfl
      · refine ⟨_, rfl, fun name sent listed => ?_⟩
        obtain ⟨row, _, ⟨⟩⟩ := List.mem_map.mp listed
  | publish frozen =>
    unfold World.step
    dsimp only
    split
    · exact adds_nothing rfl
    · split
      · exact adds_nothing rfl
      · exact adds_nothing rfl
  | start name =>
    unfold World.step
    dsimp only
    split
    · exact adds_nothing rfl
    · split
      · exact adds_nothing rfl
      · split
        · exact adds_nothing rfl
        · exact adds_nothing rfl
  | proceed name save =>
    exact onTask_cases (world.Adds digest) (adds_nothing rfl) fun publisher task present running =>
      proceed_adds present running save
  | got name answer =>
    refine onTask_cases (world.Adds digest) (adds_nothing rfl) fun publisher task _ _ => ?_
    split
    · exact adds_quiet rfl (by rintro other sent ⟨⟩)
    · exact adds_nothing rfl
  | getFailed name transient =>
    refine onTask_cases (world.Adds digest) (adds_nothing rfl) fun publisher task _ _ => ?_
    split
    · exact adds_nothing rfl
    · exact adds_nothing rfl
  | putEnded name ending =>
    refine onTask_cases (world.Adds digest) (adds_nothing rfl) fun publisher task _ _ => ?_
    split
    · cases ending with
      | acknowledged => exact adds_nothing rfl
      | failed failure =>
        dsimp only
        split
        · exact adds_quiet rfl (by rintro other sent ⟨⟩)
        · exact adds_nothing rfl
      | escaped => exact adds_nothing rfl
    · exact adds_nothing rfl
  | raised name =>
    refine onTask_cases (world.Adds digest) (adds_nothing rfl) fun publisher task _ _ => ?_
    split
    · exact adds_nothing rfl
    · exact adds_nothing rfl
  | exit => exact adds_nothing rfl

omit [DecidableEq α] in
/-- A task that is about to put its bytes may do so. -/
theorem World.Sound.mayPut (sound : world.Sound digest) (present : world.process = some publisher)
    (running : publisher.tasks name = some task) (stage : task.stage = .put) :
    world.MayPut digest name (digest task.raw) := by
  have fits := sound.process publisher present
  obtain ⟨listed, about⟩ := fits.tasks name task running
  rw [stage] at about
  obtain ⟨clear, unknown, saved, stored, written⟩ := about
  refine ⟨clear, publisher, saved, task.raw, present, stored, listed, rfl, written, ?_⟩
  rintro rfl item member apart
  obtain ⟨other, found, done⟩ := fits.release task running item member apart
  obtain ⟨listed', after⟩ := fits.tasks item.1 other found
  have raw : other.raw = item.2 :=
    congrArg Prod.snd (List.inj_on_of_nodup_map publisher.frozen.unique listed' member rfl)
  have verified : publisher.objects.get item.1 = some ⟨.verified, digest item.2⟩ := by
    rw [← raw]
    cases ended : other.stage <;> simp only [ended, Stage.isDone, Bool.false_eq_true] at done
    rw [ended] at after
    exact after
  obtain rfl := Option.some.inj (stored.symm.trans (fits.synced task running stage))
  exact ⟨verified, fits.memory.verified item.1 _ verified⟩

/-- At every step of every run, over kills and restarts: a step begins an upload only where it may;
an upload that may have had its effect is unknown, under its own digest, in the saved receipts; and
a verified receipt there is of bytes that were seeded or were read back since the last upload. -/
theorem uncertain_upload_kept (events : List (Event α δ)) (event : Event α δ) :
    let world := World.run digest events
    (∃ added, (world.step digest event).history = world.history ++ added ∧
      ∀ name sent, .put name sent ∈ added → world.MayPut digest name sent) ∧
    (∀ name sent, pendingOf world.history name = some sent →
      ∃ saved, world.file = some saved ∧ saved.get name = some ⟨.outcomeUnknown, sent⟩) ∧
    (∀ saved name sent, world.file = some saved → saved.get name = some ⟨.verified, sent⟩ →
      sent ∈ confirmedOf world.history name) := by
  intro world
  have sound : world.Sound digest := run_sound events
  have adds : world.Adds digest (world.step digest event) := step_adds world event
  obtain ⟨added, same, uploads⟩ := adds
  refine ⟨⟨added, same, fun name sent listed => ?_⟩, fun name sent pending => ?_, fun saved name sent stored => ?_⟩
  · obtain ⟨publisher, task, present, running, stage, rfl⟩ := uploads name sent listed
    exact sound.mayPut present running stage
  · cases stored : world.file with
    | none => cases (sound.absent stored name).symm.trans pending
    | some saved => exact ⟨saved, rfl, (sound.file saved stored).pending name sent pending⟩
  · exact (sound.file saved stored).verified name sent

end Invariant

end LiveStream.Publishing
