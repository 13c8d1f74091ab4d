import LiveStream.Backup.Names
import LiveStream.Support.FileTree

/-! How an archive is read: every member is checked as it comes and staged, and the manifest at its
end has to describe exactly what came. -/

namespace LiveStream.Backup

open LiveStream.Support

abbrev Files := Tree (List Char) UInt8

/-- The digest of a content, the parser of Python, and the parser of JSON. -/
structure Platform where
  sha256 : List UInt8 → String
  parsesPython : List UInt8 → Bool
  json : List UInt8 → Except PyError Value

inductive MemberKind where
  | file | symlink | other
  deriving DecidableEq

/-- A member of the archive, with the bytes that can be read of it. -/
structure Member where
  name : String
  kind : MemberKind := .file
  size : Int := 0
  mode : Nat := 0
  linkname : String := ""
  content : List UInt8 := []

def SCHEMA : String := "stream_v3.oci_backup.v1"
def MAX_BYTES : Int := 256 * 1024 * 1024
def MAX_FILES : Nat := 160

/-- A row of `seen`. -/
inductive Seen where
  | file (mode : Nat) (size : Int) (sha256 : String)
  | symlink (mode : Nat) (linkname : String)

def Seen.items : Seen → Fields
  | file mode size sha256 =>
    [("type", .str "file"), ("mode", .int mode), ("size", .int size), ("sha256", .str sha256)]
  | symlink mode linkname =>
    [("type", .str "symlink"), ("mode", .int mode), ("linkname", .str linkname)]

/-- What has been read so far, and the directory where it is staged. -/
structure Reading where
  seen : List (String × Seen) := []
  links : List (String × String) := []
  manifest : Value := .none
  total : Int := 0
  stage : Files

/-- The new staging directory. -/
def emptyStage : Files := Tree.empty.add [] (.dir 0o700) rfl rfl

/-- A node of the staging directory, with the directories on the way to it. -/
def stageNode (stage : Files) (name : String) (node : Node UInt8) : Except PyError Files := do
  let path := (parts name.toList).reverse
  let ready ← stage.applyAll (stage.mkdirs 0o700 0o700 path.tail)
  ready.adds path node

def endsWith (text ending : String) : Bool := ending.toList <:+ text.toList

/-- A configuration or a program has to parse. -/
def Platform.parses (platform : Platform) (name : String) (size : Int) (content : List UInt8) :
    Except PyError Unit :=
  if size ≤ 1024 * 1024 then
    if endsWith name ".py" then
      rejectIf (!platform.parsesPython content) (valueError "SyntaxError")
    else if endsWith name ".json" ∨ endsWith name "mediamtx.yml" then do
      let _ ← platform.json content
      return ()
    else .ok ()
  else .ok ()

/-- One member of the archive. -/
def Platform.take (platform : Platform) (reading : Reading) (member : Member) :
    Except PyError Reading := do
  safeMember member.name
  rejectIf (!reading.manifest.isNone) (valueError "data_after_final_manifest")
  rejectIf (member.name ∈ reading.seen.map Prod.fst) (valueError "duplicate_archive_member")
  rejectIf (MAX_FILES ≤ reading.seen.length ∨ member.size < 0 ∨ MAX_BYTES < member.size)
    (valueError "archive_limit_exceeded")
  let total := reading.total + member.size
  rejectIf (MAX_BYTES < total) (valueError "archive_limit_exceeded")
  if member.name = "manifest.private.json" then
    rejectIf (member.kind ≠ .file ∨ 1024 * 1024 < member.size) (valueError "invalid_manifest")
    let manifest ← platform.json (member.content.take member.size.toNat)
    return { reading with manifest, total }
  else
    match member.kind with
    | .symlink =>
      safeMember (resolved member.name member.linkname)
      rejectIf (startsWith member.linkname "/" ∨
        !startsWith (resolved member.name member.linkname) "rootfs/") (valueError "unsafe_symlink")
      return { reading with
        seen := reading.seen ++ [(member.name, .symlink member.mode member.linkname)]
        links := reading.links ++ [(member.name, member.linkname)], total }
    | .other => throw (valueError "unsupported_archive_member")
    | .file =>
      let content := member.content.take member.size.toNat
      rejectIf ((content.length : Int) < member.size) (valueError "truncated_archive_file")
      let stage ← stageNode reading.stage member.name (.file content 0o600)
      platform.parses member.name member.size content
      return { reading with
        seen := reading.seen ++
          [(member.name, .file member.mode member.size (platform.sha256 content))]
        total, stage }

def Platform.takeAll (platform : Platform) (reading : Reading) :
    List Member → Except PyError Reading
  | [] => .ok reading
  | member :: rest => do
    let next ← platform.take reading member
    platform.takeAll next rest

/-- What a loop over the value visits. -/
def iterate : Value → Except PyError (List Value)
  | .list items => .ok items
  | .dict fields => .ok (fields.map fun field => .str field.1)
  | .str text => .ok (text.toList.map fun letter => .str (String.ofList [letter]))
  | .none | .bool _ | .int _ | .float _ | .foreign => .error (typeError "object is not iterable")

/-- `value.values()`. -/
def mappingValues : Value → Except PyError (List Value)
  | .dict fields => .ok (fields.map Prod.snd)
  | .none | .bool _ | .int _ | .float _ | .str _ | .list _ | .foreign =>
    .error (attributeError "object has no attribute 'values'")

def textOf (value : Value) : Except PyError String :=
  orReject (typeError "can only concatenate str") value.text?

/-- `text.split()`. -/
def words (text : String) : List String :=
  ((text.toList.splitOnP isSpace).filter (· ≠ [])).map String.ofList

/-- The row of a member says what came, and a runtime member names its target. -/
def checkRow (files : Value) (name : String) (came : Seen) : Except PyError Unit := do
  let row ← files.index name
  let agrees ← every (came.items.map fun item => do return (← row.getD item.1 .none).same item.2)
  rejectIf (agrees = false) (valueError "manifest_content_mismatch")
  if startsWith name "rootfs/" then
    let role ← row.getD "role" .none
    let target ← row.getD "target" .none
    rejectIf (!role.isOneOf installRoles) (valueError "invalid_runtime_binding")
    let expected ← runtimePath name (role.text?.getD "")
    rejectIf (!target.isText expected) (valueError "invalid_runtime_binding")
  else rejectIf (!startsWith name "reference/") (valueError "unexpected_archive_member")

/-- The unit files of a component came with the archive. -/
def checkComponent (names : List String) (props : Value) : Except PyError Unit := do
  let fragment ← textOf (← props.index "FragmentPath")
  let dropIns ← orReject (attributeError "object has no attribute 'split'")
    (← props.getD "DropInPaths" (.str "")).text?
  rejectIf (!(fragment :: words dropIns).all fun path =>
      names.contains ("rootfs" ++ path) || names.contains ("reference/rootfs" ++ path))
    (valueError "unit_file_missing")

def stageLinks (names : List String) (stage : Files) :
    List (String × String) → Except PyError Files
  | [] => .ok stage
  | (name, link) :: rest => do
    releaseLink name link names
    let next ← stageNode stage name (.link link)
    stageLinks names next rest

/-- `read_archive` into a new directory: the manifest, and what was staged. -/
def Platform.readArchive (platform : Platform) (members : List Member) :
    Except PyError (Value × Files) := do
  let reading ← platform.takeAll { stage := emptyStage } members
  let manifest := reading.manifest
  let names := reading.seen.map Prod.fst
  rejectIf (manifest.truthy = false) (valueError "capture_not_complete")
  let schema ← manifest.getD "schema" .none
  let complete ← manifest.getD "complete" .none
  rejectIf (!schema.isText SCHEMA ∨ !complete.isTrue) (valueError "capture_not_complete")
  let files ← manifest.index "files"
  let listed ← iterate files
  rejectIf (!(listed.all fun name => name.isOneOf names) ∨
      !(names.all fun name => listed.any (Value.isText name)))
    (valueError "manifest_inventory_mismatch")
  reading.seen.forM fun row => checkRow files row.1 row.2
  let stage ← stageLinks names reading.stage reading.links
  let components ← manifest.index "components"
  (← mappingValues components).forM (checkComponent names)
  let sources ← manifest.index "credential_sources"
  (← iterate sources).forM fun source => do
    rejectIf (!names.contains ("rootfs" ++ (← textOf source))) (valueError "credential_missing")
  return (manifest, stage)

/-! ### What an archive that was read consists of -/

section Reads

variable {platform : Platform} {reading next : Reading}

/-- Every member that was seen has a safe name. -/
def Reading.AllSafe (reading : Reading) : Prop := ∀ row ∈ reading.seen, Safe row.1

theorem allSafe_take {member : Member} (safe : reading.AllSafe)
    (taken : platform.take reading member = .ok next) : next.AllSafe := by
  unfold Platform.take at taken
  simp only [bind_eq_ok, rejectIf_eq_ok] at taken
  obtain ⟨_, named, _, _, _, _, _, _, _, _, taken⟩ := taken
  have grown {came : Seen} : ∀ row ∈ reading.seen ++ [(member.name, came)], Safe row.1 := by
    intro row present
    rcases List.mem_append.mp present with old | new
    · exact safe row old
    · cases List.mem_singleton.mp new
      exact safe_of_member named
  split at taken
  · simp only [bind_eq_ok, pure_eq_ok] at taken
    obtain ⟨_, _, _, _, rfl⟩ := taken
    exact safe
  · cases kind : member.kind with
    | other =>
      simp only [kind] at taken
      cases taken
    | symlink =>
      simp only [kind, bind_eq_ok, pure_eq_ok] at taken
      obtain ⟨_, _, _, _, rfl⟩ := taken
      exact grown
    | file =>
      simp only [kind, bind_eq_ok, pure_eq_ok] at taken
      obtain ⟨_, _, _, _, _, _, rfl⟩ := taken
      exact grown

theorem allSafe_takeAll {members : List Member} (safe : reading.AllSafe)
    (taken : platform.takeAll reading members = .ok next) : next.AllSafe := by
  induction members generalizing reading with
  | nil =>
    cases taken
    exact safe
  | cons member rest inductionHypothesis =>
    obtain ⟨one, first, remaining⟩ := bind_eq_ok.mp taken
    exact inductionHypothesis (allSafe_take safe first) remaining

/-- Every file of the manifest of an archive that was read has a safe name. -/
theorem safe_of_readArchive {members : List Member} {manifest : Value} {stage : Files}
    (read : platform.readArchive members = .ok (manifest, stage)) {files : Fields}
    (listed : manifest.index "files" = .ok (.dict files)) :
    ∀ name ∈ files.map Prod.fst, Safe name := by
  unfold Platform.readArchive at read
  simp only [bind_eq_ok, rejectIf_eq_ok, pure_eq_ok] at read
  obtain ⟨reading, taken, _, _, _, _, _, _, _, _, found, indexed, names, iterated, _, same, _, _, _,
    _, _, _, _, _, _, _, _, _, _, _, _, _, whole⟩ := read
  have safe : reading.AllSafe := allSafe_takeAll (by simp [Reading.AllSafe]) taken
  have manifest_eq : reading.manifest = manifest := (Prod.mk.inj whole).1
  rw [manifest_eq, listed] at indexed
  cases indexed
  cases iterated
  intro name member
  simp only [not_or, Bool.not_eq_true, Bool.not_eq_false', List.all_eq_true] at same
  have known := same.1 (.str name) (by
    obtain ⟨field, present, rfl⟩ := List.mem_map.mp member
    exact List.mem_map.mpr ⟨field, present, rfl⟩)
  have came : name ∈ reading.seen.map Prod.fst := by
    simpa [Value.isOneOf, Value.text?] using known
  obtain ⟨row, present, rfl⟩ := List.mem_map.mp came
  exact safe row present

end Reads

end LiveStream.Backup
