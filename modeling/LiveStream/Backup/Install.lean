import LiveStream.Backup.Archive

/-! The installation of a staged archive: a loop that plans and checks every target before anything
is written, and a loop that writes what is not there yet, which can be cut after any effect. -/

namespace LiveStream.Backup

open LiveStream.Support

/-- What an entry of the manifest wants at its target: a file with a content of this digest and with
this mode, or a link. -/
inductive Wanted where
  | file (content : List UInt8) (digest : String) (mode : Nat)
  | link (text : String)

def Wanted.isLink : Wanted → Bool
  | .link _ => true
  | .file _ _ _ => false

/-- The target is what the manifest wants; `mode % 512` is `st_mode & 0o777`. -/
def Wanted.matches (platform : Platform) : Wanted → Option (Node UInt8) → Bool
  | .file _ digest mode, some (.file content held) =>
    platform.sha256 content = digest && held % 512 = mode
  | .link text, some (.link held) => text = held
  | .file _ _ _, some (.link _) | .file _ _ _, some (.dir _) | .file _ _ _, none
  | .link _, some (.file _ _) | .link _, some (.dir _) | .link _, none => false

/-- A row of the plan. -/
structure Placement where
  name : String
  role : String
  target : String
  wanted : Wanted
  same : Bool

def Placement.path (entry : Placement) : Path := below entry.target.toList

/-- Something else stands at the target. -/
def Placement.differs (platform : Platform) (tree : Files) (entry : Placement) : Bool :=
  (tree.node entry.path).isSome && !entry.wanted.matches platform (tree.node entry.path)

/-- `row['mode'] & 0o777`. -/
def permissions : Value → Except PyError Nat
  | .int mode => .ok (mode % 512).toNat
  | .bool flag => .ok (if flag then 1 else 0)
  | .none | .float _ | .str _ | .list _ | .dict _ | .foreign =>
    .error (typeError "unsupported operand type(s) for &")

/-- The mode of a file; a secret is private. -/
def rowMode (row : Value) : Except PyError Nat := do
  let secret ← row.getD "secret" .none
  if secret.truthy then return 0o600
  permissions (← row.index "mode")

/-- The role and the target of a row that is installed. -/
def binding (name : String) (row : Value) : Except PyError (Option (String × String)) := do
  let role ← row.index "role"
  if role.isOneOf installRoles then
    let target ← row.index "target"
    let expected ← runtimePath name (role.text?.getD "")
    rejectIf (!target.isText expected) (valueError "invalid_runtime_binding")
    return some (role.text?.getD "", expected)
  else return none

/-- What the row wants, checked against what was staged. A row that is neither a file nor a link is
refused here, as no archive that was read has one. -/
def Platform.wanted (platform : Platform) (stage : Files) (entries : List String) (name : String)
    (row : Value) : Except PyError Wanted := do
  let source := stage.node (parts name.toList).reverse
  let type ← row.index "type"
  if type.isText "file" then
    match source with
    | some (.file content _) =>
      let digest ← row.index "sha256"
      rejectIf (!digest.isText (platform.sha256 content)) (valueError "staging_content_changed")
      let mode ← rowMode row
      return .file content (platform.sha256 content) mode
    | some (.link _) => throw (valueError "staging_content_changed")
    | some (.dir _) | none => throw (osError "FileNotFoundError")
  else if type.isText "symlink" then
    let linkname ← textOf (← row.index "linkname")
    releaseLink name linkname entries
    rejectIf (source ≠ some (.link linkname)) (valueError "staging_link_changed")
    return .link linkname
  else throw (typeError "invalid_row_type")

/-- A directory on the way to the target is a link. -/
def linkAbove (root : Files) (path : Path) : Bool :=
  path.tail.tails.any fun above => (root.node above).any fun node =>
    match node with
    | .link _ => true
    | .file _ _ | .dir _ => false

/-- The checks of one entry of the manifest. -/
def Platform.planEntry (platform : Platform) (stage : Files) (entries : List String) (root : Files)
    (name : String) (row : Value) : Except PyError (Option Placement) := do
  match ← binding name row with
  | none => return none
  | some (role, target) =>
    let path := below target.toList
    rejectIf (linkAbove root path) (valueError "target_parent_is_symlink")
    let wanted ← platform.wanted stage entries name row
    let entry : Placement :=
      { name, role, target, wanted, same := wanted.matches platform (root.node path) }
    rejectIf (entry.differs platform root = true) (valueError "existing_target_differs")
    return some entry

def Platform.planAll (platform : Platform) (stage : Files) (entries : List String) (root : Files) :
    Fields → Except PyError (List Placement)
  | [] => .ok []
  | (name, row) :: rest => do
    let found ← platform.planEntry stage entries root name row
    let others ← platform.planAll stage entries root rest
    return found.toList ++ others

/-- The items of a mapping; it has every key once. -/
def items (fields : Fields) : Fields :=
  (fields.map Prod.fst).dedup.map fun name => (name, (fields.get? name).getD .none)

/-- The host on which files are installed: its `umask`, and whether the root is `/` of a host that
is not the relay's. -/
structure Host where
  umask : Nat
  foreignRoot : Bool

def Host.masked (host : Host) (mode : Nat) : Nat := mode &&& (0o777 ^^^ (host.umask &&& 0o777))

/-- The planning loop. -/
def Platform.plan (platform : Platform) (host : Host) (stage : Files) (manifest : Value)
    (root : Files) : Except PyError (List Placement) := do
  rejectIf (host.foreignRoot = true) (valueError "root_linux_amd64_required")
  match ← manifest.index "files" with
  | .dict files => platform.planAll stage (files.map Prod.fst) root (items files)
  | _ => throw (attributeError "object has no attribute 'items'")

/-- The effects at the target of a row of the plan. -/
def Placement.writes (host : Host) (entry : Placement) : List (Effect (List Char) UInt8) :=
  match entry.wanted with
  | .link text => [.symlink entry.path text]
  | .file content _ mode =>
    .create entry.path (host.masked 0o666) :: content.map (Effect.append entry.path) ++
      [.chmod entry.path mode]

/-- The effects that prepare the way to it. -/
def Placement.opens (host : Host) (tree : Files) (entry : Placement) :
    List (Effect (List Char) UInt8) :=
  (if tree.node [] = none then [.mkdir [] (host.masked 0o700)] else []) ++
    tree.mkdirs (host.masked 0o755) 0o755 entry.path.tail

/-- The effects of one row of the plan. -/
def Placement.effects (host : Host) (tree : Files) (entry : Placement) :
    List (Effect (List Char) UInt8) :=
  if entry.same then [] else entry.opens host tree ++ entry.writes host

abbrev Outcome := Left (List Char) UInt8

/-- The writing loop, of which a process that is killed makes only so many effects. -/
def writeAll (host : Host) (budget : Nat) (tree : Files) : List Placement → Outcome
  | [] => ⟨tree, [], .finished⟩
  | entry :: rest =>
    let left := perform budget tree (entry.effects host tree)
    match left.ending with
    | .finished =>
      let later := writeAll host (budget - left.performed.length) left.tree rest
      { later with performed := left.performed ++ later.performed }
    | .raised _ | .killed => left

/-- The links come last. -/
def sorted (plan : List Placement) : List Placement :=
  plan.filter (!·.wanted.isLink) ++ plan.filter (·.wanted.isLink)

/-- `install_files`, killed after so many effects. -/
def Platform.installFiles (platform : Platform) (host : Host) (stage : Files) (manifest : Value)
    (budget : Nat) (root : Files) : Outcome :=
  match platform.plan host stage manifest root with
  | .error error => ⟨root, [], .raised error⟩
  | .ok plan => writeAll host budget root (sorted plan)

/-- The target of a copy that was cut: its file was created, and its mode not set yet. -/
def copying (performed : List (Effect (List Char) UInt8)) : Option Path :=
  match performed.getLast? with
  | some (.create path _) | some (.append path _) => some path
  | some (.mkdir _ _) | some (.symlink _ _) | some (.chmod _ _) | none => none

end LiveStream.Backup
