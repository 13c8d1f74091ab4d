import LiveStream.Backup.InstallRuns
import LiveStream.Support.Identical
import Mathlib.Data.List.Infix

/-! A restore that is cut anywhere: where it may write, what it never changes, and when the next
installation completes it. -/

namespace LiveStream.Backup

open LiveStream.Support

variable {platform : Platform} {host : Host} {stage root tree : Files} {files : Fields}
  {plan : List Placement} {name target : String} {row : Value}

/-! ### The manifest in its own words -/

/-- `manifest['files']`. -/
def filesOf (manifest : Value) : Fields :=
  match manifest.index "files" with
  | .ok (.dict files) => files
  | _ => []

/-- The runtime and network entries, with the targets that `runtime_path` admits for their roles. -/
def Installs (files : Fields) (name : String) (row : Value) (target : String) : Prop :=
  (name, row) ∈ items files ∧ ∃ role ∈ installRoles,
    binding name row = .ok (some (role, target)) ∧ runtimePath name role = .ok target

/-- The node has the content and the mode of the row, or its link. -/
def Stated (platform : Platform) (row : Value) : Option (Node UInt8) → Prop
  | some (.file content held) =>
    row.index "type" = .ok (.str "file") ∧
      row.index "sha256" = .ok (.str (platform.sha256 content)) ∧ rowMode row = .ok (held % 512)
  | some (.link text) =>
    row.index "type" = .ok (.str "symlink") ∧ row.index "linkname" = .ok (.str text)
  | some (.dir _) | none => False

/-- Whatever is new is the target of an entry, or a directory on the way to one. -/
def Confined (files : Fields) (root tree : Files) : Prop :=
  ∀ path node, root.node path = none → tree.node path = some node →
    ∃ name row target, Installs files name row target ∧ ['.', '.'] ∉ below target.toList ∧
      path <:+ below target.toList ∧ (path ≠ below target.toList → node.isDir = true)

/-- Nothing but directories stands on the way to the targets. -/
def Unblocked (files : Fields) (root : Files) : Prop :=
  ∀ name row target, Installs files name row target → Clear root (below target.toList)

/-- A file whose copy was cut is as the manifest wants it all the same. -/
def Resumable (platform : Platform) (files : Fields) (left : Outcome) : Prop :=
  ∀ name row target, Installs files name row target →
    copying left.performed = some (below target.toList) →
      Stated platform row (left.tree.node (below target.toList))

/-- The installation is through, and every entry is in place. -/
def Complete (platform : Platform) (files : Fields) (left : Outcome) : Prop :=
  left.ending = .finished ∧ ∀ name row target, Installs files name row target →
    Stated platform row (left.tree.node (below target.toList))

theorem isText_iff {value : Value} {text : String} : value.isText text = true ↔ value = .str text := by
  cases value <;> simp [Value.isText, Value.text?]

theorem textOf_eq_ok {value : Value} {text : String} : textOf value = .ok text ↔ value = .str text := by
  cases value <;> simp [textOf, Value.text?, orReject]

/-- What a row of the plan wants is what its row of the manifest states. -/
theorem stated_iff {wanted : Wanted} {entries : List String} {node : Option (Node UInt8)}
    (read : platform.wanted stage entries name row = .ok wanted) :
    Stated platform row node ↔ wanted.matches platform node = true := by
  unfold Platform.wanted at read
  obtain ⟨type, typed, read⟩ := bind_eq_ok.mp read
  split at read
  · rename_i isFile
    rw [isText_iff.mp isFile] at typed
    cases source : stage.node (parts name.toList).reverse with
    | none =>
      simp only [source] at read
      cases read
    | some found =>
      cases found with
      | file content held =>
        simp only [source, bind_eq_ok, pure_eq_ok, rejectIf_eq_ok, Bool.not_eq_true',
          Bool.not_eq_false, isText_iff] at read
        obtain ⟨_, digest, _, rfl, mode, moded, rfl⟩ := read
        cases node with
        | none => simp [Stated, Wanted.matches]
        | some node =>
          cases node with
          | file other mode' =>
            simp only [Stated, Wanted.matches, typed, digest, moded, true_and, Except.ok.injEq,
              Value.str.injEq, Bool.and_eq_true, decide_eq_true_eq]
            exact and_congr eq_comm eq_comm
          | link text | dir mode => simp [Stated, Wanted.matches, typed]
      | link text | dir mode =>
        simp only [source] at read
        cases read
  · split at read
    · rename_i isLink
      rw [isText_iff.mp isLink] at typed
      simp only [bind_eq_ok, pure_eq_ok, textOf_eq_ok] at read
      obtain ⟨_, linked, text, rfl, _, _, _, _, rfl⟩ := read
      cases node with
      | none => simp [Stated, Wanted.matches]
      | some node =>
        cases node with
        | file other mode' => simp [Stated, Wanted.matches, typed]
        | link text => simp [Stated, Wanted.matches, typed, linked]
        | dir mode => simp [Stated, Wanted.matches]
    · cases read

/-- Every entry that is installed has its row in the plan. -/
theorem planned_of_binding {entries : List String} {role : String} {fields : Fields}
    (planned : platform.planAll stage entries root fields = .ok plan) (member : (name, row) ∈ fields)
    (bound : binding name row = .ok (some (role, target))) :
    ∃ entry ∈ plan, entry.target = target ∧ Bound platform stage entries row entry := by
  induction fields generalizing plan with
  | nil => cases member
  | cons field rest inductionHypothesis =>
    simp only [Platform.planAll, bind_eq_ok, pure_eq_ok] at planned
    obtain ⟨found, one, others, remaining, rfl⟩ := planned
    rcases List.mem_cons.mp member with rfl | later
    · cases found with
      | none =>
        simp only [Platform.planEntry, bound, ok_bind, bind_eq_ok, pure_eq_ok] at one
        obtain ⟨_, _, _, _, _, _, impossible⟩ := one
        cases impossible
      | some entry =>
        obtain ⟨named, passed, _, _⟩ := of_planEntry one
        have same := passed.bound
        rw [named, bound] at same
        cases same
        exact ⟨entry, by simp, rfl, passed⟩
    · obtain ⟨entry, listed, here, passed⟩ := inductionHypothesis remaining later
      exact ⟨entry, List.mem_append_right _ listed, here, passed⟩

/-! ### The rows of the plan -/

theorem Planned.sound (planned : Planned platform stage root files plan) :
    ∀ entry ∈ plan, Sound platform entry := by
  intro entry member
  obtain ⟨row, passed⟩ := planned.bound entry member
  obtain ⟨installs, path⟩ := of_binding passed.bound
  exact ⟨(target_inside (planned.safe entry member) installs path).1, _,
    staged_of_wanted passed.wanted⟩

/-- A target that is not in place is free. -/
theorem Planned.free (planned : Planned platform stage root files plan) {entry : Placement}
    (member : entry ∈ plan) (unplaced : entry.same = false) : root.node entry.path = none := by
  rcases (planned.fits entry member).free with free | held
  · exact free
  · rw [← planned.same entry member, unplaced] at held
    cases held

theorem Planned.ready (planned : Planned platform stage root files plan)
    (unblocked : ∀ entry ∈ plan, Clear root entry.path) :
    ∀ entry ∈ plan, Ready platform root entry := fun entry member =>
  { placed := fun placed => planned.same entry member ▸ placed
    absent := planned.free member
    clear := unblocked entry member }

theorem mem_sorted {entry : Placement} : entry ∈ sorted plan ↔ entry ∈ plan := by
  simp only [sorted, List.mem_append, List.mem_filter]
  cases entry.wanted.isLink <;> simp

instance : Std.Symm Placement.Apart := ⟨fun _ _ one => one.symm⟩

theorem sorted_apart (apart : plan.Pairwise Placement.Apart) :
    (sorted plan).Pairwise Placement.Apart := by
  have order : (sorted plan).Perm plan := by
    have split := List.filter_append_perm (fun entry : Placement => !entry.wanted.isLink) plan
    simpa [sorted] using split
  exact order.symm.pairwise apart fun one => one.symm

/-- A tree that has grown is as free on the way to the targets as it was. -/
theorem clear_grown (grown : Grown plan root tree) (apart : plan.Pairwise Placement.Apart)
    (unblocked : ∀ entry ∈ plan, Clear root entry.path) : ∀ entry ∈ plan, Clear tree entry.path := by
  intro entry member above under proper
  rcases unblocked entry member above under proper with absent | ⟨mode, directory⟩
  · cases present : tree.node above with
    | none => exact Or.inl rfl
    | some node =>
      obtain ⟨other, listed, _, directory⟩ := grown.fresh above node absent present
      have away : above ≠ other.path := by
        rintro rfl
        have different : other ≠ entry := by
          rintro rfl
          exact proper rfl
        have between : other.Apart entry := apart.forall listed member different
        exact between.1 under
      right
      cases node with
      | dir mode => exact ⟨mode, rfl⟩
      | file content mode | link text => cases directory away
  · exact Or.inr ⟨mode, grown.kept above _ directory⟩

theorem linkAbove_clear {path : Path} (target : path ≠ []) (clear : Clear tree path) :
    linkAbove tree path = false := by
  obtain ⟨name, parent, rfl⟩ := List.exists_cons_of_ne_nil target
  rw [linkAbove, List.tail_cons, List.any_eq_false]
  intro above member
  have under : above <:+ parent := (List.mem_tails above parent).mp member
  have proper : above ≠ name :: parent := by
    rintro rfl
    simpa using under.length_le
  rcases clear above (under.trans (List.suffix_cons name parent)) proper with absent | ⟨mode, held⟩
  · simp [absent]
  · simp [held]

/-- The plan of the same archive in a tree where the targets are reached. -/
theorem plan_again {manifest : Value} {other : Files} {members : List Member}
    (read : platform.readArchive members = .ok (manifest, stage))
    (planned : platform.plan host stage manifest root = .ok plan)
    (unblocked : ∀ entry ∈ plan, Clear other entry.path) :
    platform.plan host stage manifest other =
      if plan.any (Placement.differs platform other) then
        .error (valueError "existing_target_differs")
      else .ok (plan.map (Placement.recheck platform other)) := by
  obtain ⟨files, listed, home, facts⟩ := planned_of_plan read planned
  have reached : ∀ entry ∈ plan, linkAbove other entry.path = false := fun entry member =>
    linkAbove_clear (facts.sound entry member).target (unblocked entry member)
  rw [Platform.plan, home, listed]
  exact planAll_again facts.planned reached

/-! ### The law -/

theorem installs_of_mem (planned : Planned platform stage root files plan) {entry : Placement}
    (member : entry ∈ plan) : ∃ row, Installs files entry.name row entry.target ∧
      Bound platform stage (files.map Prod.fst) row entry := by
  obtain ⟨field, listed, one⟩ := mem_planAll planned.planned member
  obtain ⟨named, passed, _, _⟩ := of_planEntry one
  obtain ⟨installs, path⟩ := of_binding passed.bound
  exact ⟨field.2, ⟨named ▸ listed, entry.role, installs, passed.bound, path⟩, passed⟩

theorem mem_of_installs (planned : Planned platform stage root files plan)
    (installs : Installs files name row target) :
    ∃ entry ∈ plan, entry.target = target ∧ Bound platform stage (files.map Prod.fst) row entry := by
  obtain ⟨listed, role, _, bound, _⟩ := installs
  exact planned_of_binding planned.planned listed bound

theorem confined_of_grown (planned : Planned platform stage root files plan)
    (grown : Grown plan root tree) : Confined files root tree := by
  intro path node absent present
  obtain ⟨entry, member, under, directory⟩ := grown.fresh path node absent present
  obtain ⟨row, installs, passed⟩ := installs_of_mem planned member
  obtain ⟨role, path⟩ := of_binding passed.bound
  have inside := (target_inside (planned.safe entry member) role path).2
  exact ⟨entry.name, row, entry.target, installs, inside, under, directory⟩

theorem stated_of_placed (planned : Planned platform stage root files plan)
    (placed : ∀ entry ∈ plan, entry.wanted.matches platform (tree.node entry.path) = true)
    (installs : Installs files name row target) :
    Stated platform row (tree.node (below target.toList)) := by
  obtain ⟨entry, member, rfl, passed⟩ := mem_of_installs planned installs
  exact (stated_iff passed.wanted).mpr (placed entry member)

theorem grown_installation (planned : Planned platform stage root files plan) (budget : Nat) :
    Grown plan root (writeAll host budget root (sorted plan)).tree :=
  grown_writeAll (Grown.refl plan root) (fun _ member => mem_sorted.mp member)
    fun _ member => planned.free (mem_sorted.mp member)

/-- The plan of the next run, where no copy was cut. -/
theorem recheck_ready {other : Files} (clear : ∀ entry ∈ plan, Clear other entry.path)
    (settled : ∀ entry ∈ plan, entry.differs platform other = false) :
    ∀ entry ∈ plan.map (Placement.recheck platform other), Ready platform other entry := by
  intro entry member
  obtain ⟨before, listed, rfl⟩ := List.mem_map.mp member
  refine ⟨fun placed => placed, fun unplaced => ?_, clear before listed⟩
  rcases differs_eq_false.mp (settled before listed) with free | held
  · exact free
  · have same : before.wanted.matches platform (other.node before.path) = false := unplaced
    rw [same] at held
    cases held

theorem recheck_sound {other : Files} (sound : ∀ entry ∈ plan, Sound platform entry) :
    ∀ entry ∈ plan.map (Placement.recheck platform other), Sound platform entry := by
  intro entry member
  obtain ⟨before, listed, rfl⟩ := List.mem_map.mp member
  exact ⟨(sound before listed).target, (sound before listed).staged⟩

theorem recheck_apart {other : Files} (apart : plan.Pairwise Placement.Apart) :
    (plan.map (Placement.recheck platform other)).Pairwise Placement.Apart :=
  List.pairwise_map.mpr (apart.imp fun one => one)

/-- The next run completes a tree in which no target differs. -/
theorem complete_again {other : Files} (planned : Planned platform stage root files plan)
    (clear : ∀ entry ∈ plan, Clear other entry.path)
    (settled : ∀ entry ∈ plan, entry.differs platform other = false) :
    ∃ enough, ∀ budget, enough ≤ budget → Complete platform files
      (writeAll host budget other (sorted (plan.map (Placement.recheck platform other)))) := by
  obtain ⟨enough, finishes⟩ := enough_writeAll host
    (fun entry member => recheck_sound planned.sound entry (mem_sorted.mp member))
    (fun entry member => recheck_ready clear settled entry (mem_sorted.mp member))
    (sorted_apart (recheck_apart planned.apart))
  refine ⟨enough, fun budget long => ?_⟩
  obtain ⟨finished, placed⟩ := finishes budget long
  refine ⟨finished, fun name row target installs => stated_of_placed planned ?_ installs⟩
  intro entry member
  exact placed (entry.recheck platform other)
    (mem_sorted.mpr (List.mem_map.mpr ⟨entry, member, rfl⟩))

variable (host) in
/-- After a cut, a target differs exactly if its copy was cut and left it other than it is wanted. -/
theorem differs_after (planned : Planned platform stage root files plan)
    (clear : ∀ entry ∈ plan, Clear root entry.path) (budget : Nat) :
    (plan.any (Placement.differs platform (writeAll host budget root (sorted plan)).tree) = false) ↔
      Resumable platform files (writeAll host budget root (sorted plan)) := by
  have settled : ∀ entry ∈ plan,
      (writeAll host budget root (sorted plan)).tree.node entry.path = none ∨
        entry.wanted.matches platform
          ((writeAll host budget root (sorted plan)).tree.node entry.path) = true ∨
        copying (writeAll host budget root (sorted plan)).performed = some entry.path :=
    fun entry member => settled_writeAll
      (fun entry member => planned.sound entry (mem_sorted.mp member))
      (fun entry member => planned.ready clear entry (mem_sorted.mp member))
      (sorted_apart planned.apart) entry (mem_sorted.mpr member)
  rw [List.any_eq_false]
  constructor
  · intro agrees name row target installs copied
    obtain ⟨entry, member, rfl, passed⟩ := mem_of_installs planned installs
    rw [stated_iff passed.wanted]
    have fits := differs_eq_false.mp (Bool.eq_false_iff.mpr (agrees entry member))
    exact fits.resolve_left (present_of_copying copied)
  · intro resumable entry member
    rw [Bool.not_eq_true, differs_eq_false]
    rcases settled entry member with free | held | copied
    · exact Or.inl free
    · exact Or.inr held
    · obtain ⟨row, installs, passed⟩ := installs_of_mem planned member
      right
      exact (stated_iff passed.wanted).mp (resumable entry.name row entry.target installs copied)

/-- A restore that is cut anywhere has written below the root only, at targets that the runtime path
admits and at directories on the way to them; it has changed nothing that was there, and nothing at
all if its plan was refused. The next run completes it, unless the cut fell into the copy of a file,
between its creation and its mode: such a file is refused as one that differs. -/
theorem restore_resumes {members : List Member} {manifest : Value}
    (read : platform.readArchive members = .ok (manifest, stage)) (host : Host) (root : Files)
    (budget : Nat) :
    let left := platform.installFiles host stage manifest budget root
    (∀ path node, root.node path = some node → left.tree.node path = some node) ∧
      Confined (filesOf manifest) root left.tree ∧
      (∀ error, platform.plan host stage manifest root = .error error →
        left = ⟨root, [], .raised error⟩) ∧
      ∀ plan, platform.plan host stage manifest root = .ok plan →
        Unblocked (filesOf manifest) root →
          (Resumable platform (filesOf manifest) left → ∃ enough, ∀ time, enough ≤ time →
            Complete platform (filesOf manifest)
              (platform.installFiles host stage manifest time left.tree)) ∧
          (¬ Resumable platform (filesOf manifest) left → ∀ time,
            platform.installFiles host stage manifest time left.tree =
              ⟨left.tree, [], .raised (valueError "existing_target_differs")⟩) := by
  intro left
  cases outcome : platform.plan host stage manifest root with
  | error error =>
    have nothing : left = ⟨root, [], .raised error⟩ := by
      simp only [left, Platform.installFiles, outcome]
    rw [nothing]
    refine ⟨fun _ _ present => present, ?_, ?_, fun plan impossible => by cases impossible⟩
    · intro path node absent present
      rw [absent] at present
      cases present
    · intro other same
      cases same
      rfl
  | ok plan =>
    obtain ⟨files, listed, _, planned⟩ := planned_of_plan read outcome
    have named : filesOf manifest = files := by simp only [filesOf, listed]
    have ran : left = writeAll host budget root (sorted plan) := by
      simp only [left, Platform.installFiles, outcome]
    have grown : Grown plan root left.tree := ran ▸ grown_installation planned budget
    rw [named]
    refine ⟨grown.kept, confined_of_grown planned grown, fun _ refused => absurd refused (by simp), ?_⟩
    rintro _ ⟨⟩ unblocked
    have clear : ∀ entry ∈ plan, Clear root entry.path := by
      intro entry member
      obtain ⟨row, installs, _⟩ := installs_of_mem planned member
      exact unblocked entry.name row entry.target installs
    have clear' := clear_grown grown planned.apart clear
    have again := plan_again read outcome clear'
    have settled := differs_after host planned clear budget
    rw [← ran] at settled
    constructor
    · intro resumable
      have none_ := settled.mpr resumable
      rw [none_, if_neg (by simp)] at again
      simp only [Platform.installFiles, again]
      apply complete_again planned clear'
      intro entry member
      exact Bool.eq_false_iff.mpr (List.any_eq_false.mp none_ entry member)
    · intro stuck time
      have some_ : plan.any (Placement.differs platform left.tree) = true :=
        Bool.ne_false_iff.mp fun none_ => stuck (settled.mp none_)
      rw [some_, if_pos rfl] at again
      simp only [Platform.installFiles, again]

/-! ### One file -/

def bytesOf (text : String) : List UInt8 := text.toList.map fun letter => UInt8.ofNat letter.toNat

def oneRow : Value := .dict [
  ("type", .str "file"), ("mode", .int 0o644), ("size", .int 1),
  ("sha256", .str "2d711642b726b04401627ca9fbac32f5c8530fb1903cc4db02258717921a4881"),
  ("role", .str "runtime"), ("target", .str "/etc/stream-v3-twitch-daily/a")]

def oneManifest : Value := .dict [
  ("schema", .str "stream_v3.oci_backup.v1"), ("complete", .bool true),
  ("files", .dict [("rootfs/etc/stream-v3-twitch-daily/a", oneRow)]),
  ("components", .dict []), ("credential_sources", .list [])]

def oneText : List String := [
  "\x7b\"schema\":\"stream_v3.oci_backup.v1\",",
  "\"complete\":true,",
  "\"files\":\x7b\"rootfs/etc/",
  "stream-v3-twitch-daily/a\":",
  "\x7b\"type\":\"file\",\"mode\":420,",
  "\"size\":1,\"sha256\":\"",
  "2d711642b726b04401627ca9fbac32f5",
  "c8530fb1903cc4db02258717921a4881",
  "\",\"role\":\"runtime\",\"target\":",
  "\"/etc/stream-v3-twitch-daily/a\"\x7d\x7d,",
  "\"components\":\x7b\x7d,",
  "\"credential_sources\":[]\x7d"]

/-- The digests of one byte and of none, and the one document. -/
def onePlatform : Platform where
  sha256 content :=
    if content = bytesOf "x" then "2d711642b726b04401627ca9fbac32f5c8530fb1903cc4db02258717921a4881"
    else "e3b0c44298fc1c149afbf4c8996fb92427ae41e4649b934ca495991b7852b855"
  parsesPython _ := true
  json content := if content = oneText.flatMap bytesOf then .ok oneManifest else .error (valueError "json")

def oneArchive : List Member := [
  { name := "rootfs/etc/stream-v3-twitch-daily/a", size := 1, mode := 0o644, content := bytesOf "x" },
  { name := "manifest.private.json", size := (oneText.flatMap bytesOf).length, mode := 0o600,
    content := oneText.flatMap bytesOf }]

def oneHost : Host := { umask := 0o022, foreignRoot := false }

def oneStage : Files :=
  match onePlatform.readArchive oneArchive with
  | .ok (_, stage) => stage
  | .error _ => Tree.empty

def oneLeft (budget : Nat) : Outcome :=
  onePlatform.installFiles oneHost oneStage oneManifest budget Tree.empty

theorem one_read : onePlatform.readArchive oneArchive = .ok (oneManifest, oneStage) := by
  have manifest : (onePlatform.readArchive oneArchive).toOption.map Prod.fst = some oneManifest := by
    decide +kernel
  unfold oneStage
  cases read : onePlatform.readArchive oneArchive with
  | error error =>
    rw [read] at manifest
    cases manifest
  | ok pair =>
    rw [read] at manifest
    rw [← Option.some.inj manifest]

/-- A run that is cut in the copy of the one file is refused ever after. -/
theorem half_copied_refused :
    ¬ ∀ (platform : Platform) (host : Host) (members : List Member) (manifest : Value)
      (stage root : Files) (budget : Nat),
      platform.readArchive members = .ok (manifest, stage) →
      (∀ path text, root.node path ≠ some (.link text)) →
      ∃ enough, ∀ time, enough ≤ time → Complete platform (filesOf manifest)
        (platform.installFiles host stage manifest time
          (platform.installFiles host stage manifest budget root).tree) := by
  intro claimed
  obtain ⟨enough, finishes⟩ := claimed onePlatform oneHost oneArchive oneManifest oneStage Tree.empty 6
    one_read (by simp [Tree.empty])
  have finished := (finishes enough le_rfl).1
  have refused : (onePlatform.plan oneHost oneStage oneManifest (oneLeft 6).tree).toOption.isSome =
      false := by
    decide +kernel
  cases outcome : onePlatform.plan oneHost oneStage oneManifest (oneLeft 6).tree with
  | error error =>
    have ending : (onePlatform.installFiles oneHost oneStage oneManifest enough
        (oneLeft 6).tree).ending = .raised error := by
      simp only [Platform.installFiles, outcome]
    cases ending.symm.trans finished
  | ok plan =>
    rw [outcome] at refused
    cases refused

/-- A run that is cut among the directories is completed by the next one. -/
theorem restore_resumes_one : ∃ enough, ∀ time, enough ≤ time →
    Complete onePlatform (filesOf oneManifest)
      (onePlatform.installFiles oneHost oneStage oneManifest time (oneLeft 3).tree) := by
  have law := (restore_resumes one_read oneHost Tree.empty 3).2.2.2
  have planned : (onePlatform.plan oneHost oneStage oneManifest Tree.empty).toOption.isSome = true := by
    decide +kernel
  have outside : copying (oneLeft 3).performed = none := by decide +kernel
  cases outcome : onePlatform.plan oneHost oneStage oneManifest Tree.empty with
  | error error =>
    rw [outcome] at planned
    cases planned
  | ok plan =>
    apply (law plan outcome fun _ _ _ _ _ _ _ => Or.inl rfl).1
    intro name row target _ copied
    cases outside.symm.trans copied

end LiveStream.Backup
