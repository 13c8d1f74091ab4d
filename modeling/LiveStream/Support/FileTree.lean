import LiveStream.Support.Value

/-! A tree of files, links and directories, the single effects on it, and what a list of effects
leaves when it is cut after any of them. A path names its innermost component first. -/

namespace LiveStream.Support

inductive Node (β : Type) where
  | file (content : List β) (mode : Nat)
  | link (text : String)
  | dir (mode : Nat)
  deriving DecidableEq

def Node.isDir {β : Type} : Node β → Bool
  | .dir _ => true
  | .file _ _ | .link _ => false

/-- Whatever exists stands in a directory. -/
structure Tree (κ β : Type) where
  node : List κ → Option (Node β)
  rooted : ∀ name parent, node (name :: parent) ≠ none → ∃ mode, node parent = some (.dir mode)

variable {κ β : Type}

namespace Tree

def empty : Tree κ β := ⟨fun _ => none, fun _ _ absent => absurd rfl absent⟩

/-- The path has a directory to stand in. -/
def hosts (tree : Tree κ β) : List κ → Bool
  | [] => true
  | _ :: parent => (tree.node parent).any Node.isDir

theorem hosts_cons {tree : Tree κ β} {name : κ} {parent : List κ} :
    tree.hosts (name :: parent) = true ↔ ∃ mode, tree.node parent = some (.dir mode) := by
  simp only [hosts]
  rcases tree.node parent with _ | node
  · simp
  · cases node <;> simp [Node.isDir]

section Updates

variable [DecidableEq κ]

/-- A new node at a path that has none. -/
def add (tree : Tree κ β) (path : List κ) (node : Node β) (absent : tree.node path = none)
    (hosted : tree.hosts path = true) : Tree κ β where
  node other := if other = path then some node else tree.node other
  rooted name parent present := by
    by_cases here : name :: parent = path
    · subst here
      obtain ⟨mode, host⟩ := hosts_cons.mp hosted
      have apart : parent ≠ name :: parent := fun same => List.cons_ne_self name parent same.symm
      exact ⟨mode, by simp [apart, host]⟩
    · obtain ⟨mode, host⟩ := tree.rooted name parent (by simpa [here] using present)
      have apart : parent ≠ path := by
        rintro rfl
        rw [absent] at host
        cases host
      exact ⟨mode, by simp [apart, host]⟩

/-- Another node of the same kind at a path that has one. -/
def change (tree : Tree κ β) (path : List κ) (old new : Node β) (present : tree.node path = some old)
    (alike : old.isDir = new.isDir) : Tree κ β where
  node other := if other = path then some new else tree.node other
  rooted name parent there := by
    have before : tree.node (name :: parent) ≠ none := by
      by_cases here : name :: parent = path
      · rw [here, present]
        simp
      · simpa [here] using there
    obtain ⟨mode, host⟩ := tree.rooted name parent before
    by_cases here : parent = path
    · have directory : new.isDir = true := by
        rw [here, present] at host
        cases host
        rw [← alike]
        rfl
      cases new with
      | dir mode => exact ⟨mode, by simp [here]⟩
      | file content mode => cases directory
      | link text => cases directory
    · exact ⟨mode, by simp [here, host]⟩

end Updates

end Tree

def osError (text : String) : PyError := ⟨.os, text⟩

namespace Node

/-- The node with one more item. -/
def append (item : β) : Node β → Option (Node β)
  | file content mode => some (file (content ++ [item]) mode)
  | link _ | dir _ => none

/-- The node with another mode. -/
def chmod (mode : Nat) : Node β → Option (Node β)
  | file content _ => some (file content mode)
  | dir _ => some (dir mode)
  | link _ => none

theorem append_alike {item : β} {old new : Node β} (written : old.append item = some new) :
    old.isDir = new.isDir := by
  cases old <;> cases written
  rfl

theorem chmod_alike {mode : Nat} {old new : Node β} (written : old.chmod mode = some new) :
    old.isDir = new.isDir := by
  cases old <;> cases written <;> rfl

end Node

/-- A single operation of the file system. -/
inductive Effect (κ β : Type) where
  | mkdir (path : List κ) (mode : Nat)
  | create (path : List κ) (mode : Nat)
  | symlink (path : List κ) (text : String)
  | append (path : List κ) (item : β)
  | chmod (path : List κ) (mode : Nat)

def Effect.path : Effect κ β → List κ
  | mkdir path _ | create path _ | symlink path _ | append path _ | chmod path _ => path

variable [DecidableEq κ]

namespace Tree

/-- The exclusive creation of a node. -/
def adds (tree : Tree κ β) (path : List κ) (node : Node β) : Except PyError (Tree κ β) :=
  if absent : tree.node path = none then
    if hosted : tree.hosts path = true then .ok (tree.add path node absent hosted)
    else .error (osError "FileNotFoundError")
  else .error (osError "FileExistsError")

/-- A change of an existing node. -/
def rewrites (tree : Tree κ β) (path : List κ) (write : Node β → Option (Node β))
    (alike : ∀ old new, write old = some new → old.isDir = new.isDir) :
    Except PyError (Tree κ β) :=
  match present : tree.node path with
  | none => .error (osError "FileNotFoundError")
  | some old =>
    match written : write old with
    | none => .error (osError "OSError")
    | some new => .ok (tree.change path old new present (alike old new written))

def apply (tree : Tree κ β) : Effect κ β → Except PyError (Tree κ β)
  | .mkdir path mode => tree.adds path (.dir mode)
  | .create path mode => tree.adds path (.file [] mode)
  | .symlink path text => tree.adds path (.link text)
  | .append path item => tree.rewrites path (Node.append item) fun _ _ => Node.append_alike
  | .chmod path mode => tree.rewrites path (Node.chmod mode) fun _ _ => Node.chmod_alike

/-- All effects, one after the other. -/
def applyAll (tree : Tree κ β) : List (Effect κ β) → Except PyError (Tree κ β)
  | [] => .ok tree
  | effect :: rest => do (← tree.apply effect).applyAll rest

/-- The directories on the way to a path that are missing, outermost first. -/
def missing (tree : Tree κ β) : List κ → List (List κ)
  | [] => []
  | name :: parent =>
    if (tree.node (name :: parent)).isSome then [] else missing tree parent ++ [name :: parent]

end Tree

/-- How a list of effects ends. -/
inductive Ending where
  | finished
  | raised (error : PyError)
  | killed
  deriving DecidableEq

/-- What a list of effects leaves: the tree, the effects that were made, and how it ended. -/
structure Left (κ β : Type) where
  tree : Tree κ β
  performed : List (Effect κ β)
  ending : Ending

/-- The effects, of which a process that is killed makes only so many. -/
def perform (budget : Nat) (tree : Tree κ β) : List (Effect κ β) → Left κ β
  | [] => ⟨tree, [], .finished⟩
  | effect :: rest =>
    match budget with
    | 0 => ⟨tree, [], .killed⟩
    | budget + 1 =>
      match tree.apply effect with
      | .error error => ⟨tree, [], .raised error⟩
      | .ok next =>
        let left := perform budget next rest
        { left with performed := effect :: left.performed }

/-! ### One effect -/

section Apply

variable {tree next : Tree κ β} {effect : Effect κ β}

omit [DecidableEq κ] in
/-- Whatever lies under an existing path lies in directories. -/
theorem Tree.dir_of_below {path below : List κ} (present : tree.node below ≠ none)
    (under : path <:+ below) (proper : path ≠ below) : ∃ mode, tree.node path = some (.dir mode) := by
  induction below with
  | nil => exact absurd (List.suffix_nil.mp under) proper
  | cons name parent inductionHypothesis =>
    obtain ⟨mode, host⟩ := tree.rooted name parent present
    rcases List.suffix_cons_iff.mp under with same | inner
    · exact absurd same proper
    · by_cases here : path = parent
      · exact ⟨mode, here ▸ host⟩
      · exact inductionHypothesis (by rw [host]; simp) inner here

theorem Tree.adds_ok {path : List κ} (node : Node β) (absent : tree.node path = none)
    (hosted : tree.hosts path = true) :
    ∃ next, tree.adds path node = .ok next ∧
      ∀ other, next.node other = if other = path then some node else tree.node other :=
  ⟨tree.add path node absent hosted, by simp [Tree.adds, absent, hosted], fun _ => rfl⟩

theorem Tree.of_adds {path : List κ} {node : Node β} (added : tree.adds path node = .ok next) :
    tree.node path = none ∧
      ∀ other, next.node other = if other = path then some node else tree.node other := by
  unfold Tree.adds at added
  split at added
  · split at added
    · cases added
      exact ⟨by assumption, fun _ => rfl⟩
    · cases added
  · cases added

theorem Tree.rewrites_ok {path : List κ} {old new : Node β} {write : Node β → Option (Node β)}
    (alike : ∀ old new, write old = some new → old.isDir = new.isDir)
    (present : tree.node path = some old) (written : write old = some new) :
    ∃ next, tree.rewrites path write alike = .ok next ∧
      ∀ other, next.node other = if other = path then some new else tree.node other := by
  refine ⟨tree.change path old new present (alike old new written), ?_, fun _ => rfl⟩
  unfold Tree.rewrites
  split
  · rename_i absent
    rw [present] at absent
    cases absent
  · rename_i found there
    cases present.symm.trans there
    split
    · rename_i unwritten
      rw [written] at unwritten
      cases unwritten
    · rename_i got wrote
      cases written.symm.trans wrote
      rfl

theorem Tree.of_rewrites {path : List κ} {write : Node β → Option (Node β)}
    {alike : ∀ old new, write old = some new → old.isDir = new.isDir}
    (rewritten : tree.rewrites path write alike = .ok next) :
    ∃ old new, tree.node path = some old ∧ write old = some new ∧
      ∀ other, next.node other = if other = path then some new else tree.node other := by
  unfold Tree.rewrites at rewritten
  split at rewritten
  · cases rewritten
  · rename_i old present
    split at rewritten
    · cases rewritten
    · rename_i new written
      cases rewritten
      exact ⟨old, new, present, written, fun _ => rfl⟩

/-- An effect writes one node, at its own path, and a directory stays one. -/
theorem Tree.of_apply (applied : tree.apply effect = .ok next) :
    ∃ node, (∀ other, next.node other = if other = effect.path then some node else tree.node other) ∧
      ∀ mode, tree.node effect.path = some (.dir mode) → node.isDir = true := by
  have created {path : List κ} {node : Node β} (added : tree.adds path node = .ok next) :
      ∃ node, (∀ other, next.node other = if other = path then some node else tree.node other) ∧
        ∀ mode, tree.node path = some (.dir mode) → node.isDir = true := by
    obtain ⟨absent, shape⟩ := Tree.of_adds added
    refine ⟨node, shape, fun mode present => ?_⟩
    rw [absent] at present
    cases present
  have changed {path : List κ} {write : Node β → Option (Node β)}
      {alike : ∀ old new, write old = some new → old.isDir = new.isDir}
      (rewritten : tree.rewrites path write alike = .ok next) :
      ∃ node, (∀ other, next.node other = if other = path then some node else tree.node other) ∧
        ∀ mode, tree.node path = some (.dir mode) → node.isDir = true := by
    obtain ⟨old, new, present, written, shape⟩ := Tree.of_rewrites rewritten
    refine ⟨new, shape, fun mode there => ?_⟩
    cases present.symm.trans there
    exact (alike _ _ written).symm
  cases effect with
  | mkdir path mode | create path mode | symlink path text => exact created applied
  | append path item | chmod path mode => exact changed applied

end Apply

/-! ### Lists of effects -/

section Lists

variable {tree between after : Tree κ β} {first later effects : List (Effect κ β)}

theorem Tree.applyAll_append (done : tree.applyAll first = .ok between) :
    tree.applyAll (first ++ later) = between.applyAll later := by
  induction first generalizing tree with
  | nil =>
    cases done
    rfl
  | cons effect rest inductionHypothesis =>
    obtain ⟨next, applied, remaining⟩ := bind_eq_ok.mp done
    simp only [List.cons_append, Tree.applyAll, applied, ok_bind]
    exact inductionHypothesis remaining

theorem Tree.applyAll_take (done : tree.applyAll effects = .ok after) (budget : Nat) :
    ∃ between, tree.applyAll (effects.take budget) = .ok between := by
  induction effects generalizing tree budget with
  | nil => exact ⟨tree, by simp [Tree.applyAll]⟩
  | cons effect rest inductionHypothesis =>
    cases budget with
    | zero => exact ⟨tree, rfl⟩
    | succ budget =>
      obtain ⟨next, applied, remaining⟩ := bind_eq_ok.mp done
      obtain ⟨between, made⟩ := inductionHypothesis remaining budget
      exact ⟨between, by simpa [Tree.applyAll, applied] using made⟩

/-- With enough time, all effects are made. -/
theorem perform_enough {budget : Nat} (done : tree.applyAll effects = .ok after)
    (enough : effects.length ≤ budget) : perform budget tree effects = ⟨after, effects, .finished⟩ := by
  induction effects generalizing tree budget with
  | nil =>
    cases done
    simp [perform]
  | cons effect rest inductionHypothesis =>
    obtain ⟨next, applied, remaining⟩ := bind_eq_ok.mp done
    obtain ⟨budget, rfl⟩ : ∃ less, budget = less + 1 :=
      ⟨budget - 1, by simp only [List.length_cons] at enough; omega⟩
    have shorter : rest.length ≤ budget := by simpa using enough
    simp only [perform, applied, inductionHypothesis remaining shorter]

/-- With less, the first ones are made, and the process is killed. -/
theorem perform_cut {budget : Nat} (done : tree.applyAll effects = .ok after)
    (made : tree.applyAll (effects.take budget) = .ok between) (short : budget < effects.length) :
    perform budget tree effects = ⟨between, effects.take budget, .killed⟩ := by
  induction effects generalizing tree budget with
  | nil => simp at short
  | cons effect rest inductionHypothesis =>
    obtain ⟨next, applied, remaining⟩ := bind_eq_ok.mp done
    cases budget with
    | zero =>
      cases made
      rfl
    | succ budget =>
      have fewer : next.applyAll (rest.take budget) = .ok between := by
        simpa [Tree.applyAll, applied] using made
      have shorter : budget < rest.length := by simpa using short
      simp only [perform, applied, inductionHypothesis remaining fewer shorter, List.take_succ_cons]

/-- What every effect of a list preserves holds of whatever the list leaves. -/
theorem perform_invariant {budget : Nat} (invariant : Tree κ β → Prop)
    (preserved : ∀ effect ∈ effects, ∀ current next, invariant current →
      current.apply effect = .ok next → invariant next)
    (initially : invariant tree) : invariant (perform budget tree effects).tree := by
  induction effects generalizing tree budget with
  | nil => simpa [perform] using initially
  | cons effect rest inductionHypothesis =>
    cases budget with
    | zero => exact initially
    | succ budget =>
      simp only [perform]
      cases applied : tree.apply effect with
      | error error => exact initially
      | ok next =>
        apply inductionHypothesis
        · intro other member
          exact preserved other (List.mem_cons_of_mem effect member)
        · exact preserved effect List.mem_cons_self tree next initially applied

/-- The content of a new file, item by item. -/
theorem Tree.applyAll_appends {path : List κ} {content : List β} {mode : Nat} (items : List β)
    (present : tree.node path = some (.file content mode)) :
    ∃ next, tree.applyAll (items.map (Effect.append path)) = .ok next ∧ ∀ other, next.node other =
      if other = path then some (.file (content ++ items) mode) else tree.node other := by
  induction items generalizing tree content with
  | nil =>
    refine ⟨tree, rfl, fun other => ?_⟩
    split
    · rename_i here
      rw [here, present, List.append_nil]
    · rfl
  | cons item rest inductionHypothesis =>
    obtain ⟨one, appended, shape⟩ :=
      Tree.rewrites_ok (fun _ _ => Node.append_alike) present (rfl : Node.append item _ = some _)
    obtain ⟨next, remaining, final⟩ := inductionHypothesis (by rw [shape, if_pos rfl])
    refine ⟨next, ?_, fun other => ?_⟩
    · change (tree.apply (.append path item) >>= fun next => _) = _
      rw [Tree.apply, appended]
      exact remaining
    · rw [final, shape]
      split <;> simp

/-- What no effect of a list is about stays as it was. -/
theorem Tree.applyAll_untouched {path : List κ} (done : tree.applyAll effects = .ok after)
    (away : ∀ effect ∈ effects, effect.path ≠ path) : after.node path = tree.node path := by
  induction effects generalizing tree with
  | nil =>
    cases done
    rfl
  | cons effect rest inductionHypothesis =>
    obtain ⟨next, applied, remaining⟩ := bind_eq_ok.mp done
    obtain ⟨node, shape, _⟩ := Tree.of_apply applied
    rw [inductionHypothesis remaining fun other member => away other (List.mem_cons_of_mem _ member),
      shape, if_neg (away effect List.mem_cons_self).symm]

/-- Nothing is removed, and every effect that was made has left a node. -/
theorem perform_present (budget : Nat) (tree : Tree κ β) (effects : List (Effect κ β)) :
    (∀ path, tree.node path ≠ none → (perform budget tree effects).tree.node path ≠ none) ∧
      ∀ effect ∈ (perform budget tree effects).performed,
        (perform budget tree effects).tree.node effect.path ≠ none := by
  induction effects generalizing tree budget with
  | nil => simp [perform]
  | cons effect rest inductionHypothesis =>
    cases budget with
    | zero => simp [perform]
    | succ budget =>
      simp only [perform]
      cases applied : tree.apply effect with
      | error error => simp
      | ok next =>
        obtain ⟨kept, made⟩ := inductionHypothesis budget next
        obtain ⟨node, shape, _⟩ := Tree.of_apply applied
        constructor
        · intro path present
          apply kept
          rw [shape]
          split
          · simp
          · exact present
        · intro other member
          rcases List.mem_cons.mp member with rfl | later
          · apply kept
            rw [shape, if_pos rfl]
            simp
          · exact made other later

end Lists

/-! ### Missing directories -/

/-- `mkdir` and `chmod` for every missing directory on the way to a path. -/
def Tree.mkdirs (tree : Tree κ β) (fresh mode : Nat) (path : List κ) : List (Effect κ β) :=
  (tree.missing path).flatMap fun directory => [.mkdir directory fresh, .chmod directory mode]

section Missing

variable {tree : Tree κ β} {fresh mode : Nat} {path : List κ}

omit [DecidableEq κ] in
/-- Which directories are missing does not depend on the root. -/
theorem Tree.missing_congr {other : Tree κ β} (same : ∀ path, path ≠ [] → other.node path = tree.node path)
    (path : List κ) : other.missing path = tree.missing path := by
  induction path with
  | nil => rfl
  | cons name parent inductionHypothesis =>
    simp only [Tree.missing, inductionHypothesis, same (name :: parent) (List.cons_ne_nil _ _)]

omit [DecidableEq κ] in
theorem Tree.of_missing {directory : List κ} (member : directory ∈ tree.missing path) :
    directory <:+ path ∧ tree.node directory = none := by
  induction path with
  | nil => simp [Tree.missing] at member
  | cons name parent inductionHypothesis =>
    unfold Tree.missing at member
    split at member
    · cases member
    · rename_i absent
      rcases List.mem_append.mp member with outer | here
      · obtain ⟨under, unmade⟩ := inductionHypothesis outer
        exact ⟨under.trans (List.suffix_cons name parent), unmade⟩
      · cases List.mem_singleton.mp here
        exact ⟨List.suffix_refl _, by simpa using absent⟩

/-- Where only directories stand in the way, the missing ones can be made. -/
theorem Tree.mkdirs_ok (fresh mode : Nat) (home : ∃ mode, tree.node [] = some (.dir mode))
    (clear : ∀ above, above <:+ path →
      tree.node above = none ∨ ∃ mode, tree.node above = some (.dir mode)) :
    ∃ next, tree.applyAll (tree.mkdirs fresh mode path) = .ok next ∧
      (∃ mode, next.node path = some (.dir mode)) ∧
      ∀ other, next.node other =
        if other <:+ path ∧ tree.node other = none then some (.dir mode) else tree.node other := by
  induction path with
  | nil =>
    refine ⟨tree, rfl, home, fun other => ?_⟩
    obtain ⟨own, stands⟩ := home
    rw [if_neg]
    rintro ⟨under, absent⟩
    rw [List.suffix_nil.mp under, stands] at absent
    cases absent
  | cons name parent inductionHypothesis =>
    cases stands : tree.node (name :: parent) with
    | some node =>
      have none_missing : tree.missing (name :: parent) = [] := by simp [Tree.missing, stands]
      refine ⟨tree, by rw [Tree.mkdirs, none_missing]; rfl, ?_, fun other => ?_⟩
      · rcases clear (name :: parent) (List.suffix_refl _) with absent | found
        · rw [stands] at absent
          cases absent
        · exact found
      · rw [if_neg]
        rintro ⟨under, absent⟩
        by_cases here : other = name :: parent
        · rw [here, stands] at absent
          cases absent
        · obtain ⟨own, above⟩ := Tree.dir_of_below (by rw [stands]; simp) under here
          rw [absent] at above
          cases above
    | none =>
      obtain ⟨outer, made, ⟨own, host⟩, shape⟩ := inductionHypothesis fun above under =>
        clear above (under.trans (List.suffix_cons name parent))
      have longer : ¬ name :: parent <:+ parent := fun under => by
        simpa using under.length_le
      have absent : outer.node (name :: parent) = none := by
        rw [shape, if_neg fun both => longer both.1, stands]
      obtain ⟨opened, created, shape'⟩ :=
        Tree.adds_ok (.dir fresh) absent (Tree.hosts_cons.mpr ⟨own, host⟩)
      obtain ⟨next, changed, shape''⟩ := Tree.rewrites_ok (fun _ _ => Node.chmod_alike)
        (by rw [shape', if_pos rfl]) (rfl : Node.chmod mode (.dir fresh) = some _)
      have listed : tree.mkdirs fresh mode (name :: parent) =
          tree.mkdirs fresh mode parent ++
            [.mkdir (name :: parent) fresh, .chmod (name :: parent) mode] := by
        simp [Tree.mkdirs, Tree.missing, stands]
      refine ⟨next, ?_, ⟨mode, by rw [shape'', if_pos rfl]⟩, fun other => ?_⟩
      · rw [listed, Tree.applyAll_append made]
        change (outer.apply (.mkdir (name :: parent) fresh) >>= fun next =>
          next.apply (.chmod (name :: parent) mode) >>= fun next => .ok next) = _
        rw [Tree.apply, created, ok_bind, Tree.apply, changed, ok_bind]
      · rw [shape'', shape', shape]
        by_cases here : other = name :: parent
        · subst here
          rw [if_pos rfl, if_pos ⟨List.suffix_refl _, stands⟩]
        · rw [if_neg here, if_neg here]
          simp only [List.suffix_cons_iff, here, false_or]

end Missing

end LiveStream.Support
