import LiveStream.Support.Operators

/-! The names of a restore archive: the members that are safe, the path where a runtime member is
installed, and the one link that a release may have. -/

namespace LiveStream.Backup

open LiveStream.Support

/-- `PurePosixPath(text).parts` of a relative path. -/
def parts (text : List Char) : List (List Char) :=
  (text.splitOn '/').filter fun part => part ≠ [] ∧ part ≠ ['.']

/-- `str(PurePosixPath(text))` of a relative path. -/
def pathText (text : List Char) : List Char :=
  if parts text = [] then ['.'] else ['/'].intercalate (parts text)

/-- A path of the file system, innermost component first. -/
abbrev Path := List (List Char)

/-- Where a text leads below a directory; leading separators are stripped. -/
def below (text : List Char) : Path := (parts (text.dropWhile (· = '/'))).reverse

/-- The name of a member that may be extracted. -/
structure Safe (name : String) : Prop where
  inside : ['.', '.'] ∉ parts name.toList
  exact : pathText name.toList = name.toList

def safeMember (name : String) : Except PyError Unit :=
  rejectIf (name = "" ∨ name.toList.head? = some '/' ∨ ['.', '.'] ∈ parts name.toList ∨
    Char.ofNat 92 ∈ name.toList ∨ pathText name.toList ≠ name.toList)
    (valueError "unsafe_archive_path")

/-- The roles whose members are installed. -/
def installRoles : List String := ["runtime", "network"]

/-- The beginnings of the targets that belong to the relay. -/
def relayScope : List String :=
  ["/opt/stream-v3-oci-relay/", "/opt/stream-v3-oci-keeper/", "/opt/stream-v3-relay-observer/",
    "/etc/stream-v3-oci-mediamtx/", "/etc/stream-v3-twitch-daily/",
    "/etc/systemd/system/stream-v3-oci-mediamtx.service",
    "/etc/systemd/system/stream-v3-oci-keeper.service",
    "/etc/systemd/system/wg-quick@wg-stream.service.d/"]

/-- `text.startswith(start)`. -/
def startsWith (text start : String) : Bool := start.toList <+: text.toList

def runtimePath (name role : String) : Except PyError String := do
  let start := if role ∈ installRoles then "rootfs/" else "reference/rootfs/"
  rejectIf (!startsWith name start) (valueError "invalid_runtime_member")
  let value := String.ofList ('/' :: name.toList.drop start.toList.length)
  rejectIf (role ∈ installRoles ∧ value ≠ "/etc/wireguard/wg-stream.conf" ∧
    !relayScope.any (startsWith value)) (valueError "target_outside_relay_scope")
  return value

/-- `posixpath.dirname`. -/
def dirname (text : List Char) : List Char :=
  let head := text.rdropWhile (· ≠ '/')
  if head.all (· = '/') then head else head.rdropWhile (· = '/')

/-- `posixpath.join`. -/
def joined (base text : List Char) : List Char :=
  if text.head? = some '/' then text
  else if base = [] ∨ base.getLast? = some '/' then base ++ text
  else base ++ '/' :: text

/-- One component of a path that is normalised, onto the components before it. -/
def normStep (rooted : Bool) (done : List (List Char)) (part : List Char) : List (List Char) :=
  if part = [] ∨ part = ['.'] then done
  else if part ≠ ['.', '.'] ∨ (rooted = false ∧ done = []) ∨ done.head? = some ['.', '.'] then
    part :: done
  else done.tail

/-- `posixpath.normpath`. -/
def normpath (text : List Char) : List Char :=
  let slashes := (text.takeWhile (· = '/')).length
  let kept := if slashes = 2 then 2 else min slashes 1
  let body := ['/'].intercalate ((text.splitOn '/').foldl (normStep (0 < slashes)) []).reverse
  if kept = 0 ∧ body = [] then ['.'] else List.replicate kept '/' ++ body

/-- Where a link leads, as the archive names it. -/
def resolved (name link : String) : String :=
  String.ofList (normpath (joined (dirname name.toList) link.toList))

def releaseLink (name link : String) (entries : List String) : Except PyError Unit :=
  rejectIf (name ≠ "rootfs/opt/stream-v3-relay-observer/current" ∨ startsWith link "/" ∨
      !startsWith (resolved name link) "rootfs/opt/stream-v3-relay-observer/releases/" ∨
      !entries.any fun entry => startsWith entry (resolved name link ++ "/"))
    (valueError "unresolved_release_symlink")

/-! ### Safe names and their paths -/

theorem safe_of_member {name : String} (safe : safeMember name = .ok ()) : Safe name := by
  have accepted := rejectIf_eq_ok.mp safe
  simp only [not_or, ne_eq, not_not] at accepted
  exact ⟨accepted.2.2.1, accepted.2.2.2.2⟩

/-- A safe name is given by its components. -/
theorem Safe.injective {one other : String} (safe : Safe one) (safe' : Safe other)
    (same : parts one.toList = parts other.toList) : one = other := by
  have text : one.toList = other.toList := by
    rw [← safe.exact, ← safe'.exact, pathText, pathText, same]
  exact String.toList_inj.mp text

theorem parts_cons_slash (rest : List Char) : parts ('/' :: rest) = parts rest := by
  have split : ('/' :: rest).splitOn '/' = [] :: rest.splitOn '/' := by
    simp [List.splitOn, List.splitOnP_cons_eq_if_modifyHead]
  simp [parts, split]

/-- Leading separators lead nowhere. -/
theorem parts_dropWhile_slash (text : List Char) : parts (text.dropWhile (· = '/')) = parts text := by
  induction text with
  | nil => rfl
  | cons letter rest inductionHypothesis =>
    by_cases slash : letter = '/'
    · subst slash
      rw [List.dropWhile_cons_of_pos (by simp), inductionHypothesis, parts_cons_slash]
    · rw [List.dropWhile_cons_of_neg (by simpa using slash)]

theorem parts_append_slash {first : List Char} (plain : '/' ∉ first) (nonempty : first ≠ [])
    (named : first ≠ ['.']) (rest : List Char) :
    parts (first ++ '/' :: rest) = first :: parts rest := by
  have split : (first ++ '/' :: rest).splitOn '/' = first :: rest.splitOn '/' := by
    apply List.splitOnP_append_cons_of_forall_mem
    · intro letter member
      simpa using fun same : letter = '/' => plain (same ▸ member)
    · simp
  simp [parts, split, nonempty, named]

/-- A text whose path is empty leads nowhere. -/
theorem below_eq (text : List Char) : below text = (parts text).reverse := by
  rw [below, parts_dropWhile_slash]

/-- What the path of an installed member looks like. -/
theorem runtimePath_shape {name role target : String} (installs : role ∈ installRoles)
    (path : runtimePath name role = .ok target) :
    ∃ rest, name.toList = "rootfs".toList ++ '/' :: rest ∧ target.toList = '/' :: rest := by
  rw [runtimePath, if_pos installs] at path
  obtain ⟨_, started, path⟩ := bind_eq_ok.mp path
  obtain ⟨_, _, path⟩ := bind_eq_ok.mp path
  cases path
  have begun : startsWith name "rootfs/" = true := by
    simpa only [rejectIf_eq_ok, Bool.not_eq_true', Bool.not_eq_false] using started
  obtain ⟨rest, text⟩ : "rootfs/".toList <+: name.toList := of_decide_eq_true begun
  refine ⟨rest, text.symm, ?_⟩
  rw [String.toList_ofList, ← text, List.drop_left]

/-- A runtime member is staged below `rootfs` where it is installed below the root. -/
theorem of_runtimePath {name role target : String} (installs : role ∈ installRoles)
    (path : runtimePath name role = .ok target) :
    parts name.toList = "rootfs".toList :: parts target.toList := by
  obtain ⟨rest, staged, installed⟩ := runtimePath_shape installs path
  rw [installed, staged, parts_cons_slash]
  exact parts_append_slash (by decide) (by decide) (by decide) rest

/-- The path of a runtime member is not the root, and it does not leave it. -/
theorem target_inside {name role target : String} (safe : Safe name)
    (installs : role ∈ installRoles) (path : runtimePath name role = .ok target) :
    below target.toList ≠ [] ∧ ['.', '.'] ∉ below target.toList := by
  have shape := of_runtimePath installs path
  rw [below_eq]
  constructor
  · intro empty
    have nothing : parts target.toList = [] := by simpa using empty
    obtain ⟨rest, staged, _⟩ := runtimePath_shape installs path
    have text := safe.exact
    rw [pathText, shape, nothing, if_neg (List.cons_ne_nil _ _), staged] at text
    have length := congrArg List.length text
    simp at length
  · have inside := safe.inside
    rw [shape] at inside
    simpa using fun member => inside (List.mem_cons_of_mem _ member)

end LiveStream.Backup
