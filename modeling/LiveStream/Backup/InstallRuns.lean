import LiveStream.Backup.InstallPlan

/-! What an installation leaves when it is cut after any effect, and what the next one makes of it. -/

namespace LiveStream.Backup

open LiveStream.Support

variable {platform : Platform} {host : Host} {root tree : Files} {entry : Placement}
  {entries plan : List Placement} {budget : Nat}

/-! ### Nothing but the targets and the way to them -/

/-- What existed is as it was, and what is new is a target or a directory on the way to one. -/
structure Grown (plan : List Placement) (root tree : Files) : Prop where
  kept : ∀ path node, root.node path = some node → tree.node path = some node
  fresh : ∀ path node, root.node path = none → tree.node path = some node →
    ∃ entry ∈ plan, path <:+ entry.path ∧ (path ≠ entry.path → node.isDir = true)

theorem Grown.refl (plan : List Placement) (root : Files) : Grown plan root root where
  kept _ _ present := present
  fresh path node absent present := by
    rw [absent] at present
    cases present

/-- The effect makes a directory or changes a mode. -/
def prepares : Effect (List Char) UInt8 → Bool
  | .mkdir _ _ | .chmod _ _ => true
  | .create _ _ | .symlink _ _ | .append _ _ => false

theorem Grown.apply {effect : Effect (List Char) UInt8} {next : Files} (grown : Grown plan root tree)
    (member : entry ∈ plan) (under : effect.path <:+ entry.path)
    (free : root.node effect.path = none)
    (way : effect.path ≠ entry.path → prepares effect = true)
    (applied : tree.apply effect = .ok next) : Grown plan root next := by
  obtain ⟨written, shape, stays⟩ := Tree.of_apply applied
  constructor
  · intro path node present
    have other : path ≠ effect.path := by
      rintro rfl
      rw [free] at present
      cases present
    rw [shape, if_neg other]
    exact grown.kept path node present
  · intro path node absent present
    rw [shape] at present
    split at present
    · rename_i here
      subst here
      cases present
      by_cases target : effect.path = entry.path
      · exact ⟨entry, member, under, fun other => absurd target other⟩
      · cases effect with
        | mkdir directory mode =>
          have made := (Tree.of_adds applied).2 directory
          rw [shape, Effect.path, if_pos rfl, if_pos rfl] at made
          cases made
          exact ⟨entry, member, under, fun _ => rfl⟩
        | chmod directory mode =>
          obtain ⟨old, _, before, _, _⟩ := Tree.of_rewrites applied
          obtain ⟨other, listed, above, directory'⟩ := grown.fresh directory old free before
          refine ⟨other, listed, above, fun away => ?_⟩
          have was := directory' away
          cases old with
          | dir held => exact stays held before
          | file _ _ | link _ => cases was
        | create _ _ | symlink _ _ | append _ _ => cases way target
    · exact grown.fresh path node absent present

/-- Where the effects of a row are. -/
theorem effects_spec {effect : Effect (List Char) UInt8} (unplaced : entry.same = false)
    (member : effect ∈ entry.effects host tree) :
    effect.path <:+ entry.path ∧
      (effect.path ≠ entry.path → tree.node effect.path = none ∧ prepares effect = true) := by
  rw [Placement.effects, unplaced, if_neg (by simp), Placement.opens] at member
  rcases List.mem_append.mp member with opens | writes
  · rcases List.mem_append.mp opens with home | directories
    · split at home
      · rename_i absent
        cases List.mem_singleton.mp home
        exact ⟨List.nil_suffix, fun _ => ⟨absent, rfl⟩⟩
      · cases home
    · obtain ⟨directory, missing, made⟩ := List.mem_flatMap.mp directories
      obtain ⟨under, absent⟩ := Tree.of_missing missing
      have inside : directory <:+ entry.path := under.trans (List.tail_suffix _)
      rcases List.mem_cons.mp made with rfl | changed
      · exact ⟨inside, fun _ => ⟨absent, rfl⟩⟩
      · cases List.mem_singleton.mp changed
        exact ⟨inside, fun _ => ⟨absent, rfl⟩⟩
  · have here : effect.path = entry.path := by
      unfold Placement.writes at writes
      split at writes
      · cases List.mem_singleton.mp writes
        rfl
      · simp only [List.cons_append, List.mem_cons, List.mem_append, List.mem_map,
          List.not_mem_nil, or_false] at writes
        rcases writes with rfl | ⟨item, _, rfl⟩ | rfl <;> rfl
    exact ⟨here ▸ List.suffix_refl _, fun away => absurd here away⟩

theorem grown_perform (host : Host) (budget : Nat) (grown : Grown plan root tree) (member : entry ∈ plan)
    (free : entry.same = false → root.node entry.path = none) :
    Grown plan root (perform budget tree (entry.effects host tree)).tree := by
  cases unplaced : entry.same with
  | true => simpa [Placement.effects, unplaced, perform] using grown
  | false =>
    apply perform_invariant (Grown plan root) _ grown
    intro effect made current next holds applied
    obtain ⟨under, way⟩ := effects_spec unplaced made
    apply holds.apply member under _ (fun away => (way away).2) applied
    by_cases here : effect.path = entry.path
    · rw [here]
      exact free unplaced
    · by_contra present
      obtain ⟨node, there⟩ := Option.ne_none_iff_exists'.mp present
      have still := grown.kept effect.path node there
      rw [(way here).1] at still
      cases still

/-- However the writing loop ends, the tree has only grown. -/
theorem grown_writeAll (grown : Grown plan root tree) (listed : ∀ entry ∈ entries, entry ∈ plan)
    (free : ∀ entry ∈ entries, entry.same = false → root.node entry.path = none) :
    Grown plan root (writeAll host budget tree entries).tree := by
  induction entries generalizing tree budget with
  | nil => exact grown
  | cons entry rest inductionHypothesis =>
    have one := grown_perform host budget grown
      (listed entry List.mem_cons_self) (free entry List.mem_cons_self)
    simp only [writeAll]
    split
    · exact inductionHypothesis one
        (fun other member => listed other (List.mem_cons_of_mem entry member))
        (fun other member => free other (List.mem_cons_of_mem entry member))
    all_goals exact one

/-! ### The way of a target is free -/

/-- Only directories stand on the way to the target. -/
def Clear (tree : Files) (path : Path) : Prop :=
  ∀ above, above <:+ path → above ≠ path →
    tree.node above = none ∨ ∃ mode, tree.node above = some (.dir mode)

/-- The row can be written, or it has nothing to write. -/
structure Ready (platform : Platform) (tree : Files) (entry : Placement) : Prop where
  placed : entry.same = true → entry.wanted.matches platform (tree.node entry.path) = true
  absent : entry.same = false → tree.node entry.path = none
  clear : Clear tree entry.path

/-- The target is not the root, and what is wanted is what was staged. -/
structure Sound (platform : Platform) (entry : Placement) : Prop where
  target : entry.path ≠ []
  staged : ∃ source, entry.wanted.Staged platform source

/-- The target itself, once there is a directory for it. -/
theorem writes_ok (host : Host) (sound : Sound platform entry) (absent : tree.node entry.path = none)
    (hosted : tree.hosts entry.path = true) :
    ∃ after, tree.applyAll (entry.writes host) = .ok after ∧
      entry.wanted.matches platform (after.node entry.path) = true ∧
      ∀ other, other ≠ entry.path → after.node other = tree.node other := by
  obtain ⟨source, staged⟩ := sound.staged
  unfold Placement.writes
  cases wanted : entry.wanted with
  | link text =>
    obtain ⟨after, made, shape⟩ := Tree.adds_ok (.link text) absent hosted
    refine ⟨after, by simp only [Tree.applyAll, Tree.apply, made, ok_bind], ?_, fun other away => ?_⟩
    · rw [shape, if_pos rfl]
      simp [Wanted.matches]
    · rw [shape, if_neg away]
  | file content digest mode =>
    rw [wanted] at staged
    obtain ⟨_, hashed, permitted⟩ := staged
    obtain ⟨created, made, shape⟩ := Tree.adds_ok (.file [] (host.masked 0o666)) absent hosted
    obtain ⟨copied, filled, shape'⟩ :=
      Tree.applyAll_appends content (by rw [shape, if_pos rfl])
    obtain ⟨after, changed, shape''⟩ := Tree.rewrites_ok (fun _ _ => Node.chmod_alike)
      (by rw [shape', if_pos rfl]) (rfl : Node.chmod mode _ = some _)
    refine ⟨after, ?_, ?_, fun other away => ?_⟩
    · simp only [List.cons_append, Tree.applyAll, Tree.apply, made, ok_bind]
      rw [Tree.applyAll_append filled]
      simp only [Tree.applyAll, Tree.apply, changed, ok_bind]
    · rw [shape'', if_pos rfl, List.nil_append]
      simp [Wanted.matches, hashed, Nat.mod_eq_of_lt permitted]
    · rw [shape'', if_neg away, shape', if_neg away, shape, if_neg away]

/-- The way to the target, where only directories stand on it. -/
theorem opens_ok (host : Host) (sound : Sound platform entry) (absent : tree.node entry.path = none)
    (clear : Clear tree entry.path) :
    ∃ after, tree.applyAll (entry.opens host tree) = .ok after ∧
      after.node entry.path = none ∧ after.hosts entry.path = true ∧
      (∀ other, other <:+ entry.path → other ≠ entry.path →
        ∃ mode, after.node other = some (.dir mode)) ∧
      ∀ other, ¬ other <:+ entry.path → after.node other = tree.node other := by
  obtain ⟨name, parent, path⟩ := List.exists_cons_of_ne_nil sound.target
  have above {other : Path} (under : other <:+ parent) : other <:+ entry.path ∧ other ≠ entry.path := by
    rw [path]
    refine ⟨under.trans (List.suffix_cons name parent), ?_⟩
    rintro rfl
    simpa using under.length_le
  obtain ⟨opened, begun, home, others⟩ : ∃ opened,
      tree.applyAll (if tree.node [] = none then [.mkdir [] (host.masked 0o700)] else []) =
        .ok opened ∧ (∃ mode, opened.node [] = some (.dir mode)) ∧
      ∀ other, other ≠ [] → opened.node other = tree.node other := by
    by_cases missing : tree.node [] = none
    · obtain ⟨opened, made, shape⟩ := Tree.adds_ok (.dir (host.masked 0o700)) missing rfl
      refine ⟨opened, ?_, ⟨_, by rw [shape, if_pos rfl]⟩, fun other away => ?_⟩
      · rw [if_pos missing]
        simp only [Tree.applyAll, Tree.apply, made, ok_bind]
      · rw [shape, if_neg away]
    · refine ⟨tree, by rw [if_neg missing]; rfl, ?_, fun _ _ => rfl⟩
      rcases clear [] List.nil_suffix (by rw [path]; simp) with none_ | home
      · exact absurd none_ missing
      · exact home
  have clear' : ∀ other, other <:+ parent →
      opened.node other = none ∨ ∃ mode, opened.node other = some (.dir mode) := by
    intro other under
    by_cases nil : other = []
    · exact Or.inr (nil ▸ home)
    · rw [others other nil]
      exact clear other (above under).1 (above under).2
  obtain ⟨after, made, host', shape⟩ := Tree.mkdirs_ok (host.masked 0o755) 0o755 home clear'
  have listed : opened.mkdirs (host.masked 0o755) 0o755 parent =
      tree.mkdirs (host.masked 0o755) 0o755 parent := by
    rw [Tree.mkdirs, Tree.mkdirs, Tree.missing_congr others]
  have outside {other : Path} (away : ¬ other <:+ parent) : after.node other = opened.node other := by
    rw [shape, if_neg fun both => away both.1]
  refine ⟨after, ?_, ?_, ?_, ?_, ?_⟩
  · rw [Placement.opens, Tree.applyAll_append begun, path, List.tail_cons, ← listed, made]
  · rw [outside, others entry.path sound.target, absent]
    intro under
    exact (above under).2 rfl
  · rw [path]
    exact Tree.hosts_cons.mpr host'
  · intro other under proper
    have inner : other <:+ parent := by
      rw [path] at under proper
      exact (List.suffix_cons_iff.mp under).resolve_left proper
    rw [shape]
    rcases clear' other inner with none_ | ⟨mode, directory⟩
    · exact ⟨_, if_pos ⟨inner, none_⟩⟩
    · refine ⟨mode, ?_⟩
      rw [if_neg, directory]
      rw [directory]
      simp
  · intro other away
    rw [outside fun under => away (above under).1, others]
    rintro rfl
    exact away List.nil_suffix

/-- A row that is ready is written completely. -/
theorem effects_ok (host : Host) (sound : Sound platform entry) (ready : Ready platform tree entry)
    (unplaced : entry.same = false) :
    ∃ after, tree.applyAll (entry.effects host tree) = .ok after ∧
      entry.wanted.matches platform (after.node entry.path) = true ∧
      (∀ other, other <:+ entry.path → other ≠ entry.path →
        ∃ mode, after.node other = some (.dir mode)) ∧
      ∀ other, ¬ other <:+ entry.path → after.node other = tree.node other := by
  obtain ⟨opened, made, free, hosted, way, outside⟩ :=
    opens_ok host sound (ready.absent unplaced) ready.clear
  obtain ⟨after, wrote, placed, others⟩ := writes_ok host sound free hosted
  refine ⟨after, ?_, placed, fun other under proper => ?_, fun other away => ?_⟩
  · rw [Placement.effects, unplaced, if_neg (by simp), Tree.applyAll_append made, wrote]
  · rw [others other proper]
    exact way other under proper
  · have different : other ≠ entry.path := by
      rintro rfl
      exact away (List.suffix_refl _)
    rw [others other different, outside other away]

/-- A row stays ready while another one is written. -/
theorem Ready.after {other : Placement} {after : Files} (ready : Ready platform tree other)
    (apart : entry.Apart other)
    (way : ∀ above, above <:+ entry.path → above ≠ entry.path →
      ∃ mode, after.node above = some (.dir mode))
    (outside : ∀ above, ¬ above <:+ entry.path → after.node above = tree.node above) :
    Ready platform after other where
  placed same := by rw [outside _ apart.2]; exact ready.placed same
  absent unplaced := by rw [outside _ apart.2]; exact ready.absent unplaced
  clear above under proper := by
    by_cases shared : above <:+ entry.path
    · by_cases here : above = entry.path
      · exact absurd (here ▸ under) apart.1
      · exact Or.inr (way above shared here)
    · rw [outside above shared]
      exact ready.clear above under proper

/-! ### Where a cut falls -/

theorem copying_append (first later : List (Effect (List Char) UInt8)) :
    copying (first ++ later) = if later = [] then copying first else copying later := by
  by_cases none_ : later = []
  · simp [none_]
  · rw [if_neg none_, copying, copying, List.getLast?_append_of_ne_nil first none_]

/-- The last effect of a row is no part of a copy. -/
theorem copying_effects : copying (entry.effects host tree) = none := by
  unfold Placement.effects
  split
  · rfl
  · rw [copying_append]
    unfold Placement.writes
    split
    · rfl
    · rw [copying_append]
      simp [copying]

/-- The way to a target does not touch it. -/
theorem opens_away (sound : Sound platform entry) :
    ∀ effect ∈ entry.opens host tree, effect.path ≠ entry.path := by
  intro effect member here
  rcases List.mem_append.mp member with home | directories
  · split at home
    · cases List.mem_singleton.mp home
      exact sound.target here.symm
    · cases home
  · obtain ⟨directory, missing, made⟩ := List.mem_flatMap.mp directories
    have longer : directory ≠ entry.path := by
      intro same
      have bound := (Tree.of_missing missing).1.length_le
      have positive := List.length_pos_iff.mpr sound.target
      rw [same, List.length_tail] at bound
      omega
    rcases List.mem_cons.mp made with rfl | changed
    · exact longer here
    · cases List.mem_singleton.mp changed
      exact longer here

/-- A cut after the first write at a target, and before the last one, falls into a copy. -/
theorem cut_writes (extra : Nat) (short : extra + 1 < (entry.writes host).length) :
    (entry.writes host).take (extra + 1) ≠ [] ∧
      copying ((entry.writes host).take (extra + 1)) = some entry.path := by
  cases wanted : entry.wanted with
  | link text => simp [Placement.writes, wanted] at short
  | file content digest mode =>
    simp only [Placement.writes, wanted, List.cons_append, List.length_cons, List.length_append,
      List.length_map, List.length_nil] at short
    have within : extra - (content.map (Effect.append (κ := List Char) entry.path)).length = 0 := by
      rw [List.length_map]
      omega
    simp only [Placement.writes, wanted]
    rw [List.cons_append, List.take_succ_cons, List.take_append, within, List.take_zero,
      List.append_nil, ← List.map_take]
    refine ⟨List.cons_ne_nil _ _, ?_⟩
    generalize content.take extra = copied
    rcases List.eq_nil_or_concat' copied with rfl | ⟨front, last, rfl⟩
    · rfl
    · rw [List.map_append, ← List.cons_append, copying_append]
      rfl

/-- A cut inside the effects of a row falls before its file is created, or into the copy. -/
theorem cut_effects (sound : Sound platform entry) {count : Nat}
    (short : count < (entry.effects host tree).length) :
    (∀ effect ∈ (entry.effects host tree).take count, effect.path ≠ entry.path) ∨
      copying ((entry.effects host tree).take count) = some entry.path := by
  unfold Placement.effects at short ⊢
  split
  · rename_i same
    simp [same] at short
  · rename_i unplaced
    rw [if_neg unplaced, List.length_append] at short
    rw [List.take_append]
    by_cases before : count ≤ (entry.opens host tree).length
    · left
      rw [Nat.sub_eq_zero_of_le before, List.take_zero, List.append_nil]
      intro effect member
      exact opens_away sound effect (List.take_subset _ _ member)
    · right
      obtain ⟨extra, rfl⟩ : ∃ extra, count = (entry.opens host tree).length + (extra + 1) :=
        ⟨count - (entry.opens host tree).length - 1, by omega⟩
      have inner : extra + 1 < (entry.writes host).length := by omega
      obtain ⟨begun, copied⟩ := cut_writes extra inner
      rw [Nat.add_sub_cancel_left, copying_append, if_neg begun, copied]

/-! ### The writing loop -/

theorem writeAll_same (placed : entry.same = true) :
    writeAll host budget tree (entry :: entries) = writeAll host budget tree entries := by
  simp [writeAll, Placement.effects, placed, perform]

/-- What a finished row leaves, the later rows leave too. -/
theorem matches_writeAll {wanted : Wanted} {path : Path}
    (placed : wanted.matches platform (tree.node path) = true)
    (ready : ∀ entry ∈ entries, Ready platform tree entry) :
    wanted.matches platform ((writeAll host budget tree entries).tree.node path) = true := by
  have grown : Grown entries tree (writeAll host budget tree entries).tree :=
    grown_writeAll (Grown.refl entries tree) (fun _ member => member)
      fun entry member unplaced => (ready entry member).absent unplaced
  cases present : tree.node path with
  | none =>
    rw [present] at placed
    cases wanted <;> cases placed
  | some node =>
    rw [grown.kept path node present, ← present]
    exact placed

theorem ready_rest {after : Files}
    (ready : ∀ other ∈ entry :: entries, Ready platform tree other)
    (apart : (entry :: entries).Pairwise Placement.Apart)
    (way : ∀ above, above <:+ entry.path → above ≠ entry.path →
      ∃ mode, after.node above = some (.dir mode))
    (outside : ∀ above, ¬ above <:+ entry.path → after.node above = tree.node above) :
    ∀ other ∈ entries, Ready platform after other := by
  intro other member
  have away := (List.pairwise_cons.mp apart).1 other member
  exact (ready other (List.mem_cons_of_mem entry member)).after away way outside

/-- Wherever the writing loop is cut, every target is free, or as wanted, or just being copied. -/
theorem settled_writeAll (sound : ∀ entry ∈ entries, Sound platform entry)
    (ready : ∀ entry ∈ entries, Ready platform tree entry)
    (apart : entries.Pairwise Placement.Apart) :
    ∀ entry ∈ entries, (writeAll host budget tree entries).tree.node entry.path = none ∨
      entry.wanted.matches platform ((writeAll host budget tree entries).tree.node entry.path) =
        true ∨
      copying (writeAll host budget tree entries).performed = some entry.path := by
  induction entries generalizing tree budget with
  | nil => simp
  | cons entry rest inductionHypothesis =>
    have later := List.pairwise_cons.mp apart
    have sound' : ∀ other ∈ rest, Sound platform other := fun other member =>
      sound other (List.mem_cons_of_mem entry member)
    have own := ready entry List.mem_cons_self
    cases placed : entry.same with
    | true =>
      have ready' : ∀ other ∈ rest, Ready platform tree other := fun other member =>
        ready other (List.mem_cons_of_mem entry member)
      rw [writeAll_same placed]
      intro other member
      rcases List.mem_cons.mp member with rfl | member
      · exact Or.inr (Or.inl (matches_writeAll (own.placed placed) ready'))
      · exact inductionHypothesis sound' ready' later.2 other member
    | false =>
      obtain ⟨after, done, written, way, outside⟩ :=
        effects_ok host (sound entry List.mem_cons_self) own placed
      by_cases enough : (entry.effects host tree).length ≤ budget
      · have ready' := ready_rest ready apart way outside
        simp only [writeAll, perform_enough done enough]
        intro other member
        rcases List.mem_cons.mp member with rfl | member
        · exact Or.inr (Or.inl (matches_writeAll written ready'))
        · rcases inductionHypothesis sound' ready' later.2 other member with free | held | copied
          · exact Or.inl free
          · exact Or.inr (Or.inl held)
          · right
            right
            rw [copying_append, if_neg, copied]
            intro nothing
            rw [nothing] at copied
            cases copied
      · obtain ⟨between, made⟩ := Tree.applyAll_take done budget
        simp only [writeAll, perform_cut done made (not_le.mp enough)]
        have untouched {path : Path} (away : ∀ effect ∈ (entry.effects host tree).take budget,
            effect.path ≠ path) : between.node path = tree.node path :=
          Tree.applyAll_untouched made away
        intro other member
        rcases List.mem_cons.mp member with rfl | member
        · rcases cut_effects (sound other List.mem_cons_self) (not_le.mp enough) with away | copied
          · left
            rw [untouched away, own.absent placed]
          · exact Or.inr (Or.inr copied)
        · have away := later.1 other member
          have apartFrom : ∀ effect ∈ (entry.effects host tree).take budget,
              effect.path ≠ other.path := by
            rintro effect taken here
            have under := (effects_spec placed (List.take_subset _ _ taken)).1
            exact away.2 (here ▸ under)
          rw [untouched apartFrom]
          have other' := ready other (List.mem_cons_of_mem entry member)
          cases same : other.same with
          | true => exact Or.inr (Or.inl (other'.placed same))
          | false => exact Or.inl (other'.absent same)

/-- With enough time every target becomes what is wanted. -/
theorem enough_writeAll (host : Host) (sound : ∀ entry ∈ entries, Sound platform entry)
    (ready : ∀ entry ∈ entries, Ready platform tree entry)
    (apart : entries.Pairwise Placement.Apart) :
    ∃ enough, ∀ budget, enough ≤ budget →
      (writeAll host budget tree entries).ending = .finished ∧
      ∀ entry ∈ entries,
        entry.wanted.matches platform ((writeAll host budget tree entries).tree.node entry.path) =
          true := by
  induction entries generalizing tree with
  | nil => exact ⟨0, fun budget _ => ⟨rfl, by simp⟩⟩
  | cons entry rest inductionHypothesis =>
    have later := List.pairwise_cons.mp apart
    have sound' : ∀ other ∈ rest, Sound platform other := fun other member =>
      sound other (List.mem_cons_of_mem entry member)
    have own := ready entry List.mem_cons_self
    cases placed : entry.same with
    | true =>
      have ready' : ∀ other ∈ rest, Ready platform tree other := fun other member =>
        ready other (List.mem_cons_of_mem entry member)
      obtain ⟨enough, finishes⟩ := inductionHypothesis sound' ready' later.2
      refine ⟨enough, fun budget long => ?_⟩
      rw [writeAll_same placed]
      obtain ⟨finished, all⟩ := finishes budget long
      refine ⟨finished, fun other member => ?_⟩
      rcases List.mem_cons.mp member with rfl | member
      · exact matches_writeAll (own.placed placed) ready'
      · exact all other member
    | false =>
      obtain ⟨after, done, written, way, outside⟩ :=
        effects_ok host (sound entry List.mem_cons_self) own placed
      have ready' := ready_rest ready apart way outside
      obtain ⟨enough, finishes⟩ := inductionHypothesis sound' ready' later.2
      refine ⟨(entry.effects host tree).length + enough, fun budget long => ?_⟩
      simp only [writeAll, perform_enough done (by omega : _ ≤ budget)]
      obtain ⟨finished, all⟩ := finishes (budget - (entry.effects host tree).length) (by omega)
      refine ⟨finished, fun other member => ?_⟩
      rcases List.mem_cons.mp member with rfl | member
      · exact matches_writeAll written ready'
      · exact all other member

/-- What was performed has left a node, however the writing loop ends. -/
theorem present_writeAll :
    (∀ path, tree.node path ≠ none → (writeAll host budget tree entries).tree.node path ≠ none) ∧
      ∀ effect ∈ (writeAll host budget tree entries).performed,
        (writeAll host budget tree entries).tree.node effect.path ≠ none := by
  induction entries generalizing tree budget with
  | nil => simp [writeAll]
  | cons entry rest inductionHypothesis =>
    obtain ⟨kept, made⟩ := perform_present budget tree (entry.effects host tree)
    simp only [writeAll]
    split
    · obtain ⟨kept', made'⟩ := @inductionHypothesis
        (perform budget tree (entry.effects host tree)).tree
        (budget - (perform budget tree (entry.effects host tree)).performed.length)
      refine ⟨fun path present => kept' path (kept path present), fun effect member => ?_⟩
      rcases List.mem_append.mp member with first | later
      · exact kept' effect.path (made effect first)
      · exact made' effect later
    all_goals exact ⟨kept, made⟩

theorem present_of_copying {path : Path}
    (copied : copying (writeAll host budget tree entries).performed = some path) :
    (writeAll host budget tree entries).tree.node path ≠ none := by
  unfold copying at copied
  cases last : (writeAll host budget tree entries).performed.getLast? with
  | none => simp [last] at copied
  | some effect =>
    have member := List.mem_of_getLast? last
    have present := present_writeAll.2 effect member
    rw [last] at copied
    cases effect with
    | create here _ | append here _ =>
      cases copied
      exact present
    | mkdir _ _ | symlink _ _ | chmod _ _ => cases copied

end LiveStream.Backup
