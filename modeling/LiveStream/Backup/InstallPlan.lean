import LiveStream.Backup.Install

/-! What the planning loop establishes: every row of a plan is bound to a target of its role, its
source is staged, and no target lies on the way to another. -/

namespace LiveStream.Backup

open LiveStream.Support

variable {platform : Platform} {host : Host} {stage root : Files} {entries : List String}
  {name : String} {row : Value}

theorem of_binding {role target : String} (bound : binding name row = .ok (some (role, target))) :
    role ∈ installRoles ∧ runtimePath name role = .ok target := by
  unfold binding at bound
  obtain ⟨found, read, bound⟩ := bind_eq_ok.mp bound
  split at bound
  · rename_i installs
    simp only [bind_eq_ok, pure_eq_ok, Option.some.injEq, Prod.mk.injEq] at bound
    obtain ⟨_, _, _, path, _, _, rfl, rfl⟩ := bound
    refine ⟨?_, path⟩
    cases found with
    | str text => simpa [Value.isOneOf, Value.text?] using installs
    | none | bool _ | int _ | float _ | list _ | dict _ | foreign =>
      simp [Value.isOneOf, Value.text?] at installs
  · simp at bound

/-- What is wanted is what was staged: a file with its digest and the permissions of a file, or a
link. -/
def Wanted.Staged (platform : Platform) (source : Option (Node UInt8)) : Wanted → Prop
  | .file content digest mode =>
    (∃ held, source = some (.file content held)) ∧ platform.sha256 content = digest ∧ mode < 512
  | .link text => source = some (.link text)

theorem permissions_lt {value : Value} {mode : Nat} (read : permissions value = .ok mode) :
    mode < 512 := by
  cases value with
  | int number =>
    cases read
    omega
  | bool flag =>
    cases read
    split <;> decide
  | none | float _ | str _ | list _ | dict _ | foreign => cases read

theorem rowMode_lt {mode : Nat} (read : rowMode row = .ok mode) : mode < 512 := by
  unfold rowMode at read
  obtain ⟨secret, _, read⟩ := bind_eq_ok.mp read
  split at read
  · cases read
    decide
  · obtain ⟨_, _, given⟩ := bind_eq_ok.mp read
    exact permissions_lt given

theorem staged_of_wanted {wanted : Wanted}
    (read : platform.wanted stage entries name row = .ok wanted) :
    wanted.Staged platform (stage.node (parts name.toList).reverse) := by
  unfold Platform.wanted at read
  obtain ⟨type, _, read⟩ := bind_eq_ok.mp read
  split at read
  · cases source : stage.node (parts name.toList).reverse with
    | none =>
      simp only [source] at read
      cases read
    | some node =>
      cases node with
      | file content held =>
        simp only [source, bind_eq_ok, pure_eq_ok] at read
        obtain ⟨_, _, _, _, mode, moded, rfl⟩ := read
        exact ⟨⟨held, rfl⟩, rfl, rowMode_lt moded⟩
      | link text | dir mode =>
        simp only [source] at read
        cases read
  · split at read
    · simp only [bind_eq_ok, pure_eq_ok, rejectIf_eq_ok, not_not] at read
      obtain ⟨_, _, _, _, _, _, _, source, rfl⟩ := read
      exact source
    · cases read

/-- A wanted node is neither missing nor a directory where it is staged. -/
theorem Wanted.Staged.proper {source : Option (Node UInt8)} {wanted : Wanted}
    (staged : wanted.Staged platform source) : source ≠ none ∧ ∀ mode, source ≠ some (.dir mode) := by
  cases wanted with
  | file content digest mode =>
    obtain ⟨⟨held, there⟩, _⟩ := staged
    simp [there]
  | link text =>
    have there : source = some (.link text) := staged
    simp [there]

/-- What a row of the plan has passed, apart from what stands at its target. -/
structure Bound (platform : Platform) (stage : Files) (entries : List String) (row : Value)
    (entry : Placement) : Prop where
  bound : binding entry.name row = .ok (some (entry.role, entry.target))
  wanted : platform.wanted stage entries entry.name row = .ok entry.wanted

/-- The target is free, or it holds what is wanted. -/
structure Placement.Fits (platform : Platform) (root : Files) (entry : Placement) : Prop where
  reached : linkAbove root entry.path = false
  free : root.node entry.path = none ∨ entry.wanted.matches platform (root.node entry.path) = true

/-- The row, looked at in a tree. -/
def Placement.recheck (platform : Platform) (tree : Files) (entry : Placement) : Placement :=
  { entry with same := entry.wanted.matches platform (tree.node entry.path) }

theorem differs_eq_false {entry : Placement} : entry.differs platform root = false ↔
    root.node entry.path = none ∨ entry.wanted.matches platform (root.node entry.path) = true := by
  unfold Placement.differs
  cases root.node entry.path <;> simp

theorem planEntry_eq {entry : Placement} (passed : Bound platform stage entries row entry)
    (reached : linkAbove root entry.path = false) :
    platform.planEntry stage entries root entry.name row =
      if entry.differs platform root then .error (valueError "existing_target_differs")
      else .ok (some (entry.recheck platform root)) := by
  have away : linkAbove root (below entry.target.toList) = false := reached
  have again : (⟨entry.name, entry.role, entry.target, entry.wanted,
      entry.wanted.matches platform (root.node (below entry.target.toList))⟩ : Placement) =
        entry.recheck platform root := rfl
  have differs : (entry.recheck platform root).differs platform root =
      entry.differs platform root := rfl
  simp only [Platform.planEntry, passed.bound, ok_bind, away, passed.wanted, again, differs,
    rejectIf]
  cases entry.differs platform root <;> rfl

theorem of_planEntry {entry : Placement}
    (planned : platform.planEntry stage entries root name row = .ok (some entry)) :
    entry.name = name ∧ Bound platform stage entries row entry ∧ entry.Fits platform root ∧
      entry.same = entry.wanted.matches platform (root.node entry.path) := by
  unfold Platform.planEntry at planned
  obtain ⟨found, bound, planned⟩ := bind_eq_ok.mp planned
  cases found with
  | none => simp at planned
  | some pair =>
    obtain ⟨role, target⟩ := pair
    simp only [bind_eq_ok, rejectIf_eq_ok, pure_eq_ok, Option.some.injEq] at planned
    obtain ⟨_, reached, wanted, staged, _, free, rfl⟩ := planned
    rw [Bool.not_eq_true] at reached free
    exact ⟨rfl, ⟨bound, staged⟩, ⟨reached, differs_eq_false.mp free⟩, rfl⟩

/-- An entry that is not installed is passed over in every tree. -/
theorem planEntry_none (skipped : platform.planEntry stage entries root name row = .ok none)
    (other : Files) : platform.planEntry stage entries other name row = .ok none := by
  unfold Platform.planEntry at skipped ⊢
  obtain ⟨found, bound, skipped⟩ := bind_eq_ok.mp skipped
  cases found with
  | none => simp [bound]
  | some pair =>
    simp only [bind_eq_ok, pure_eq_ok] at skipped
    obtain ⟨_, _, _, _, _, _, impossible⟩ := skipped
    cases impossible

theorem mem_planAll {files : Fields} {plan : List Placement}
    (planned : platform.planAll stage entries root files = .ok plan) {entry : Placement}
    (member : entry ∈ plan) :
    ∃ field ∈ files, platform.planEntry stage entries root field.1 field.2 = .ok (some entry) := by
  induction files generalizing plan with
  | nil =>
    cases planned
    cases member
  | cons field rest inductionHypothesis =>
    simp only [Platform.planAll, bind_eq_ok, pure_eq_ok] at planned
    obtain ⟨found, one, others, remaining, rfl⟩ := planned
    rcases List.mem_append.mp member with here | later
    · refine ⟨field, List.mem_cons_self, ?_⟩
      rw [one, Option.mem_toList.mp here]
    · obtain ⟨other, present, planned⟩ := inductionHypothesis remaining later
      exact ⟨other, List.mem_cons_of_mem field present, planned⟩

/-- The names of a plan are those of its items, in their order. -/
theorem names_planAll {files : Fields} {plan : List Placement}
    (planned : platform.planAll stage entries root files = .ok plan) :
    (plan.map Placement.name).Sublist (files.map Prod.fst) := by
  induction files generalizing plan with
  | nil =>
    cases planned
    exact List.Sublist.refl []
  | cons field rest inductionHypothesis =>
    simp only [Platform.planAll, bind_eq_ok, pure_eq_ok] at planned
    obtain ⟨found, one, others, remaining, rfl⟩ := planned
    cases found with
    | none => exact (inductionHypothesis remaining).cons field.1
    | some entry =>
      have same : entry.name = field.1 := (of_planEntry one).1
      simpa [same] using inductionHypothesis remaining

/-- The plan made in another tree, where the same entries are reached: every row looked at again, or
the refusal of a target that differs. -/
theorem planAll_again {files : Fields} {plan : List Placement} {other : Files}
    (planned : platform.planAll stage entries root files = .ok plan)
    (reached : ∀ entry ∈ plan, linkAbove other entry.path = false) :
    platform.planAll stage entries other files =
      if plan.any (Placement.differs platform other) then
        .error (valueError "existing_target_differs")
      else .ok (plan.map (Placement.recheck platform other)) := by
  induction files generalizing plan with
  | nil =>
    cases planned
    simp [Platform.planAll]
  | cons field rest inductionHypothesis =>
    simp only [Platform.planAll, bind_eq_ok, pure_eq_ok] at planned
    obtain ⟨found, one, others, remaining, rfl⟩ := planned
    have tail := inductionHypothesis remaining fun entry member =>
      reached entry (List.mem_append_right _ member)
    cases found with
    | none =>
      change platform.planAll stage entries other (field :: rest) =
        if others.any (Placement.differs platform other) then _
        else .ok (others.map (Placement.recheck platform other))
      rw [Platform.planAll, planEntry_none one other, ok_bind, tail]
      cases others.any (Placement.differs platform other) <;> rfl
    | some entry =>
      obtain ⟨named, passed, _, _⟩ := of_planEntry one
      have here := planEntry_eq passed (reached entry (by simp))
      rw [named] at here
      simp only [Platform.planAll, here, tail, Option.toList_some, List.singleton_append,
        List.any_cons, List.map_cons]
      cases entry.differs platform other with
      | true => rfl
      | false =>
        by_cases later : others.any (Placement.differs platform other) = true
        · simp [later]
        · simp [later]

/-! ### Apart -/

/-- Neither target lies on the way to the other. -/
def Placement.Apart (one other : Placement) : Prop :=
  ¬ one.path <:+ other.path ∧ ¬ other.path <:+ one.path

theorem Placement.Apart.symm {one other : Placement} (apart : one.Apart other) : other.Apart one :=
  ⟨apart.2, apart.1⟩

theorem source_eq {entry : Placement} (passed : Bound platform stage entries row entry) :
    (parts entry.name.toList).reverse = entry.path ++ ["rootfs".toList] := by
  obtain ⟨installs, path⟩ := of_binding passed.bound
  rw [of_runtimePath installs path, Placement.path, below_eq, List.reverse_cons]

/-- The target of one row cannot lie on the way to that of another, since both are staged. -/
theorem not_on_the_way {one other : Placement} {row' : Value}
    (passed : Bound platform stage entries row one)
    (passed' : Bound platform stage entries row' other) (safe : Safe one.name)
    (safe' : Safe other.name) (different : one.name ≠ other.name) : ¬ one.path <:+ other.path := by
  intro under
  have staged := (staged_of_wanted passed.wanted).proper
  have staged' := (staged_of_wanted passed'.wanted).proper
  rw [source_eq passed] at staged
  rw [source_eq passed'] at staged'
  have within : one.path ++ ["rootfs".toList] <:+ other.path ++ ["rootfs".toList] := by
    obtain ⟨front, shape⟩ := under
    exact ⟨front, by rw [← shape, List.append_assoc]⟩
  by_cases same : one.path ++ ["rootfs".toList] = other.path ++ ["rootfs".toList]
  · apply different
    apply safe.injective safe'
    rw [← List.reverse_inj, source_eq passed, source_eq passed', same]
  · obtain ⟨mode, directory⟩ := Tree.dir_of_below staged'.1 within same
    exact staged.2 mode directory

/-- What the plan of an archive that was read has in common with every other one. -/
structure Planned (platform : Platform) (stage : Files) (root : Files) (files : Fields)
    (plan : List Placement) : Prop where
  planned : platform.planAll stage (files.map Prod.fst) root (items files) = .ok plan
  bound : ∀ entry ∈ plan, ∃ row, Bound platform stage (files.map Prod.fst) row entry
  fits : ∀ entry ∈ plan, entry.Fits platform root
  same : ∀ entry ∈ plan, entry.same = entry.wanted.matches platform (root.node entry.path)
  safe : ∀ entry ∈ plan, Safe entry.name
  apart : plan.Pairwise Placement.Apart

theorem items_names (files : Fields) : (items files).map Prod.fst = (files.map Prod.fst).dedup := by
  simp [items, List.map_map, Function.comp_def]

theorem planned_of_plan {members : List Member} {manifest : Value} {plan : List Placement}
    (read : platform.readArchive members = .ok (manifest, stage))
    (planned : platform.plan host stage manifest root = .ok plan) :
    ∃ files, manifest.index "files" = .ok (.dict files) ∧ host.foreignRoot = false ∧
      Planned platform stage root files plan := by
  simp only [Platform.plan, bind_eq_ok, rejectIf_eq_ok] at planned
  obtain ⟨_, home, found, listed, planned⟩ := planned
  cases found with
  | dict files =>
    have safeNames := safe_of_readArchive read listed
    have entryOf : ∀ entry ∈ plan, ∃ field ∈ items files,
        platform.planEntry stage (files.map Prod.fst) root field.1 field.2 = .ok (some entry) :=
      fun _ => mem_planAll planned
    have passed : ∀ entry ∈ plan, ∃ row, Bound platform stage (files.map Prod.fst) row entry := by
      intro entry member
      obtain ⟨field, _, one⟩ := entryOf entry member
      exact ⟨field.2, (of_planEntry one).2.1⟩
    have safe : ∀ entry ∈ plan, Safe entry.name := by
      intro entry member
      have listedName : entry.name ∈ (items files).map Prod.fst :=
        (names_planAll planned).subset (List.mem_map_of_mem member)
      rw [items_names, List.mem_dedup] at listedName
      exact safeNames entry.name listedName
    have names : (plan.map Placement.name).Nodup :=
      (names_planAll planned).nodup (by rw [items_names]; exact List.nodup_dedup _)
    refine ⟨files, listed, by simpa using home, planned, passed, ?_, ?_, safe, ?_⟩
    · intro entry member
      obtain ⟨field, _, one⟩ := entryOf entry member
      exact (of_planEntry one).2.2.1
    · intro entry member
      obtain ⟨field, _, one⟩ := entryOf entry member
      exact (of_planEntry one).2.2.2
    · have distinct : plan.Pairwise fun one other => one.name ≠ other.name :=
        List.pairwise_map.mp names
      apply List.Pairwise.imp_of_mem _ distinct
      intro one other member member' different
      obtain ⟨row, passed₁⟩ := passed one member
      obtain ⟨row', passed₂⟩ := passed other member'
      exact ⟨not_on_the_way passed₁ passed₂ (safe one member) (safe other member') different,
        not_on_the_way passed₂ passed₁ (safe other member') (safe one member) different.symm⟩
  | none | bool _ | int _ | float _ | str _ | list _ | foreign => cases planned

end LiveStream.Backup
