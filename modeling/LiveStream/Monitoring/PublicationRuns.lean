import LiveStream.Monitoring.Publications
import LiveStream.Support.Run

/-! Stagings, reconciliations and damage in any order: what the ledger keeps, and when the file
shows the newest publication. -/

namespace LiveStream.Monitoring

open LiveStream.Support

variable {π : Type} [DecidableEq π]

section Law

variable (formats : Formats π)

/-- The file holds the bytes of the most recently staged publication, which is marked published
under the digest of its payload. -/
def Shop.ShowsNewest (shop : Shop π) : Prop :=
  ∀ newest ∈ newestStaged shop.rows PUBLIC_SAFE_ARTIFACT_KEY,
    newest.state = .published ∧ newest.payloadSha256 = formats.payloadSha256 newest.payload ∧
      ∃ content, formats.publicSafeBytes newest.payload = .ok content ∧
        shop.output = .regular content

abbrev Passed (π : Type) := Taken (Shop π) (Move π) (Option (Reconciled π))

/-- What every move keeps to: one pending publication for each key, and the newest one in the file
after a reconciliation that returns. -/
structure Advances (taken : Passed π) : Prop where
  onePending : ∀ artifactKey, (taken.after.rows.filter fun row =>
    row.artifactKey = artifactKey ∧ row.state = .pending).length ≤ 1
  newest : ∀ reconciled ∈ taken.output, ∀ answer, reconciled.result = .ok answer →
    taken.after.ShowsNewest formats

/-- A publication that a move neither writes nor revives. -/
structure Buried (publicationId : String) (taken : Passed π) : Prop where
  unwritten : ∀ reconciled ∈ taken.output, ∀ publication ∈ reconciled.wrote,
    publication.publicationId ≠ publicationId
  superseded : ∀ row ∈ taken.after.rows, row.publicationId = publicationId →
    row.state = .superseded

/-- `created_ts`, then `publication_id`. -/
def ArtifactPublication.rank (row : ArtifactPublication π) : ℤ ×ₗ String :=
  toLex (unixTs row.createdAt, row.publicationId)

/-- A published row of a key that no other published row of the key outranks. -/
def Leads (rows : List (ArtifactPublication π)) (row : ArtifactPublication π) : Prop :=
  row.state = .published ∧ ∀ other ∈ rows, other.artifactKey = row.artifactKey →
    other.state = .published → other.rank ≤ row.rank

/-- With nothing pending, the leading publication of the public-safe file carries the bytes of the
newest one. -/
def Shop.NewestLeads (shop : Shop π) : Prop :=
  (∀ row ∈ shop.rows, row.artifactKey = PUBLIC_SAFE_ARTIFACT_KEY → row.state ≠ .pending) →
    ∀ first ∈ shop.rows, first.artifactKey = PUBLIC_SAFE_ARTIFACT_KEY → Leads shop.rows first →
      ∀ newest ∈ newestStaged shop.rows PUBLIC_SAFE_ARTIFACT_KEY,
        ∀ content ∈ (formats.publicSafeBytes first.payload).toOption,
          formats.publicSafeBytes newest.payload = .ok content

instance (shop : Shop π) : Decidable (shop.ShowsNewest formats) :=
  decidable_of_iff (∀ newest ∈ newestStaged shop.rows PUBLIC_SAFE_ARTIFACT_KEY,
    newest.state = .published ∧ newest.payloadSha256 = formats.payloadSha256 newest.payload ∧
      shop.output ∈ (formats.publicSafeBytes newest.payload).toOption.map Output.regular) (by
    apply forall₂_congr
    intro newest _
    cases formats.publicSafeBytes newest.payload <;> simp [Except.toOption, eq_comm])

/-- The condition on a reconciliation. -/
def NewestLeads (shop : Shop π) : Move π → Prop
  | .reconcile _ _ => shop.NewestLeads formats
  | .stage _ _ | .damage _ => True

instance (rows : List (ArtifactPublication π)) (row : ArtifactPublication π) :
    Decidable (Leads rows row) :=
  inferInstanceAs (Decidable (_ ∧ _))

instance (shop : Shop π) : Decidable (shop.NewestLeads formats) :=
  inferInstanceAs (Decidable (_ → _))

instance (shop : Shop π) : (move : Move π) → Decidable (NewestLeads formats shop move)
  | .reconcile _ _ => inferInstanceAs (Decidable (shop.NewestLeads formats))
  | .stage _ _ | .damage _ => .isTrue trivial

end Law

section Ledger

variable {formats : Formats π} {rows : List (ArtifactPublication π)} {artifactKey : String}

/-- What a change of a row in place leaves as it was. -/
structure Amends (row after : ArtifactPublication π) : Prop where
  publicationId : after.publicationId = row.publicationId
  artifactKey : after.artifactKey = row.artifactKey
  payloadSha256 : after.payloadSha256 = row.payloadSha256
  payload : after.payload = row.payload
  state : after.state = row.state ∨ row.state = .pending ∧ after.state = .published

omit [DecidableEq π] in
theorem Amends.refl (row : ArtifactPublication π) : Amends row row :=
  ⟨rfl, rfl, rfl, rfl, .inl rfl⟩

omit [DecidableEq π] in
theorem Amends.trans {first second third : ArtifactPublication π} (left : Amends first second)
    (right : Amends second third) : Amends first third where
  publicationId := right.publicationId.trans left.publicationId
  artifactKey := right.artifactKey.trans left.artifactKey
  payloadSha256 := right.payloadSha256.trans left.payloadSha256
  payload := right.payload.trans left.payload
  state := by
    rcases right.state with same | ⟨was, now⟩
    · rw [same]
      exact left.state
    · rcases left.state with same | ⟨old, published⟩
      · exact .inr ⟨same ▸ was, now⟩
      · exact absurd (was.symm.trans published) (by decide)

/-- The ledger with its rows amended in place. -/
def Amended (rows after : List (ArtifactPublication π)) : Prop :=
  ∃ change : ArtifactPublication π → ArtifactPublication π,
    (∀ row, Amends row (change row)) ∧ after = rows.map change

omit [DecidableEq π] in
theorem Amended.refl (rows : List (ArtifactPublication π)) : Amended rows rows :=
  ⟨id, Amends.refl, (List.map_id rows).symm⟩

omit [DecidableEq π] in
theorem Amended.trans {first second third : List (ArtifactPublication π)}
    (left : Amended first second) (right : Amended second third) : Amended first third := by
  obtain ⟨change, amends, rfl⟩ := left
  obtain ⟨again, amendsAgain, rfl⟩ := right
  refine ⟨again ∘ change, fun row => (amends row).trans (amendsAgain _), ?_⟩
  rw [List.map_map]

omit [DecidableEq π] in
theorem amended_updateWhere {matched : ArtifactPublication π → Bool}
    {rewrite : ArtifactPublication π → ArtifactPublication π}
    (amends : ∀ row, matched row = true → Amends row (rewrite row)) :
    Amended rows (updateWhere matched rewrite rows) := by
  refine ⟨_, fun row => ?_, rfl⟩
  by_cases found : matched row
  · rw [if_pos found]
    exact amends row found
  · rw [if_neg found]
    exact Amends.refl row

/-- The ledger that stagings and acknowledgements build: unique ids, true digests, at most the
newest row of a key pending, and that row not superseded. -/
structure LedgerKept (formats : Formats π) (rows : List (ArtifactPublication π)) : Prop where
  unique : (rows.map ArtifactPublication.publicationId).Nodup
  digests : ∀ row ∈ rows, row.payloadSha256 = formats.payloadSha256 row.payload
  settled : rows.Pairwise fun earlier later =>
    earlier.artifactKey = later.artifactKey → earlier.state ≠ .pending
  alive : ∀ artifactKey, ∀ newest ∈ newestStaged rows artifactKey, newest.state ≠ .superseded

omit [DecidableEq π] in
theorem newestStaged_mem {newest : ArtifactPublication π}
    (found : newestStaged rows artifactKey = some newest) :
    newest ∈ rows ∧ newest.artifactKey = artifactKey := by
  have member := List.mem_of_getLast? found
  simpa using member

omit [DecidableEq π] in
/-- A pending row is the newest of its key. -/
theorem LedgerKept.newest_of_pending (kept : LedgerKept formats rows)
    {row : ArtifactPublication π} (member : row ∈ rows) (pending : row.state = .pending) :
    newestStaged rows row.artifactKey = some row := by
  have listed : row ∈ rows.filter fun other => other.artifactKey = row.artifactKey :=
    List.mem_filter.mpr ⟨member, by simp⟩
  obtain ⟨front, newest, shape⟩ :=
    (List.eq_nil_or_concat' _).resolve_left (List.ne_nil_of_mem listed)
  rw [newestStaged, shape, List.getLast?_concat]
  have settled := kept.settled.filter fun other => other.artifactKey = row.artifactKey
  rw [shape] at settled listed
  have sameKey : newest.artifactKey = row.artifactKey := by
    have last : newest ∈ rows.filter fun other => other.artifactKey = row.artifactKey := by
      simp [shape]
    simpa using (List.mem_filter.mp last).2
  rcases List.mem_append.mp listed with earlier | last
  · have apart := (List.pairwise_append.mp settled).2.2 row earlier newest (by simp)
    exact absurd pending (apart sameKey.symm)
  · rw [List.mem_singleton.mp last]

/-- So each key has at most one pending row. -/
theorem LedgerKept.onePending (kept : LedgerKept formats rows) (artifactKey : String) :
    (rows.filter fun row => row.artifactKey = artifactKey ∧ row.state = .pending).length ≤ 1 := by
  have settled := kept.settled.filter fun row =>
    decide (row.artifactKey = artifactKey ∧ row.state = .pending)
  cases shape : rows.filter fun row =>
      decide (row.artifactKey = artifactKey ∧ row.state = .pending) with
  | nil => simp
  | cons first rest =>
    cases rest with
    | nil => simp
    | cons second rest =>
      have matched (row : ArtifactPublication π) (listed : row ∈ first :: second :: rest) :
          row.artifactKey = artifactKey ∧ row.state = .pending := by
        rw [← shape] at listed
        simpa using (List.mem_filter.mp listed).2
      rw [shape, List.pairwise_cons] at settled
      obtain ⟨firstKey, pending⟩ := matched first (by simp)
      obtain ⟨secondKey, -⟩ := matched second (by simp)
      exact absurd pending (settled.1 second (by simp) (firstKey.trans secondKey.symm))

omit [DecidableEq π] in
/-- Amendments in place keep the newest row of each key in its place. -/
theorem newestStaged_map {change : ArtifactPublication π → ArtifactPublication π}
    (amends : ∀ row, Amends row (change row)) :
    newestStaged (rows.map change) artifactKey = (newestStaged rows artifactKey).map change := by
  rw [newestStaged, List.filter_map, List.getLast?_map]
  congr 3
  funext row
  simp [(amends row).artifactKey]

omit [DecidableEq π] in
theorem LedgerKept.amend (kept : LedgerKept formats rows)
    {change : ArtifactPublication π → ArtifactPublication π}
    (amends : ∀ row, Amends row (change row)) : LedgerKept formats (rows.map change) where
  unique := by
    have same : ArtifactPublication.publicationId ∘ change = ArtifactPublication.publicationId :=
      funext fun row => (amends row).publicationId
    rw [List.map_map, same]
    exact kept.unique
  digests := by
    intro row member
    obtain ⟨old, owned, rfl⟩ := List.mem_map.mp member
    rw [(amends old).payloadSha256, (amends old).payload]
    exact kept.digests old owned
  settled := by
    rw [List.pairwise_map]
    apply kept.settled.imp
    intro earlier later settled same pending
    apply settled ((amends earlier).artifactKey ▸ (amends later).artifactKey ▸ same)
    rcases (amends earlier).state with unchanged | ⟨was, -⟩
    · rw [← unchanged, pending]
    · exact was
  alive := by
    intro artifactKey newest found superseded
    rw [newestStaged_map amends] at found
    obtain ⟨old, oldest, rfl⟩ := Option.map_eq_some_iff.mp found
    rcases (amends old).state with unchanged | ⟨-, published⟩
    · exact kept.alive artifactKey old oldest (unchanged ▸ superseded)
    · rw [published] at superseded
      cases superseded

/-- The row as `UPDATE … SET state='superseded'` leaves it. -/
def bury (publicationId artifactKey : String) (row : ArtifactPublication π) :
    ArtifactPublication π :=
  if row.artifactKey = artifactKey ∧ row.state = .pending then
    { row with state := .superseded, lastError := "superseded_by:" ++ publicationId }
  else row

omit [DecidableEq π] in
theorem supersede_eq_map (publicationId : String) :
    supersede rows publicationId artifactKey = rows.map (bury publicationId artifactKey) := by
  apply List.map_congr_left
  intro row _
  simp [bury]

omit [DecidableEq π] in
/-- Only pending rows of the key change, and they are superseded. -/
theorem bury_cases (publicationId artifactKey : String) (row : ArtifactPublication π) :
    bury publicationId artifactKey row = row ∧
        ¬ (row.artifactKey = artifactKey ∧ row.state = .pending) ∨
      (row.artifactKey = artifactKey ∧ row.state = .pending) ∧
        (bury publicationId artifactKey row).state = .superseded := by
  by_cases chosen : row.artifactKey = artifactKey ∧ row.state = .pending
  · exact .inr ⟨chosen, by simp [bury, chosen]⟩
  · exact .inl ⟨by simp [bury, chosen], chosen⟩

omit [DecidableEq π] in
/-- What it leaves of every row. -/
theorem bury_kept (publicationId artifactKey : String) (row : ArtifactPublication π) :
    (bury publicationId artifactKey row).publicationId = row.publicationId ∧
      (bury publicationId artifactKey row).artifactKey = row.artifactKey ∧
      (bury publicationId artifactKey row).payloadSha256 = row.payloadSha256 ∧
      (bury publicationId artifactKey row).payload = row.payload := by
  rw [bury]
  split <;> exact ⟨rfl, rfl, rfl, rfl⟩

omit [DecidableEq π] in
theorem newestStaged_concat (fresh : ArtifactPublication π) (artifactKey : String) :
    newestStaged (rows ++ [fresh]) artifactKey =
      if fresh.artifactKey = artifactKey then some fresh else newestStaged rows artifactKey := by
  rw [newestStaged, List.filter_append]
  by_cases same : fresh.artifactKey = artifactKey
  · simp [same]
  · simp [same, newestStaged]

omit [DecidableEq π] in
/-- A new cycle supersedes the pending row of its key and becomes the newest. -/
theorem LedgerKept.add (kept : LedgerKept formats rows) {fresh : ArtifactPublication π}
    (digest : fresh.payloadSha256 = formats.payloadSha256 fresh.payload)
    (pending : fresh.state = .pending)
    (new : ∀ row ∈ rows, row.publicationId ≠ fresh.publicationId) :
    LedgerKept formats (supersede rows fresh.publicationId fresh.artifactKey ++ [fresh]) := by
  rw [supersede_eq_map]
  constructor
  · apply nodup_map_append
    · rw [List.map_map, show ArtifactPublication.publicationId ∘ bury _ _ =
        ArtifactPublication.publicationId from funext fun row => (bury_kept _ _ row).1]
      exact kept.unique
    · intro row member
      obtain ⟨old, owned, rfl⟩ := List.mem_map.mp member
      rw [(bury_kept _ _ old).1]
      exact new old owned
  · intro row member
    rcases List.mem_append.mp member with earlier | last
    · obtain ⟨old, owned, rfl⟩ := List.mem_map.mp earlier
      obtain ⟨-, -, sha, payload⟩ := bury_kept fresh.publicationId fresh.artifactKey old
      rw [sha, payload]
      exact kept.digests old owned
    · rw [List.mem_singleton.mp last]
      exact digest
  · apply List.pairwise_append.mpr
    refine ⟨?_, List.pairwise_singleton _ _, ?_⟩
    · rw [List.pairwise_map]
      apply kept.settled.imp
      intro earlier later settled same waiting
      rw [(bury_kept _ _ earlier).2.1, (bury_kept _ _ later).2.1] at same
      rcases bury_cases fresh.publicationId fresh.artifactKey earlier with
        ⟨unchanged, -⟩ | ⟨-, superseded⟩
      · exact settled same (unchanged ▸ waiting)
      · exact absurd (waiting.symm.trans superseded) (by decide)
    · intro row member last only same waiting
      obtain ⟨old, -, rfl⟩ := List.mem_map.mp member
      rw [List.mem_singleton.mp only, (bury_kept _ _ old).2.1] at same
      rcases bury_cases fresh.publicationId fresh.artifactKey old with
        ⟨unchanged, apart⟩ | ⟨-, superseded⟩
      · exact apart ⟨same, unchanged ▸ waiting⟩
      · exact absurd (waiting.symm.trans superseded) (by decide)
  · intro artifactKey newest found superseded
    rw [newestStaged_concat] at found
    by_cases same : fresh.artifactKey = artifactKey
    · rw [if_pos same, Option.mem_some] at found
      rw [← found, pending] at superseded
      cases superseded
    · rw [if_neg same, newestStaged, List.filter_map, List.getLast?_map] at found
      obtain ⟨old, last, rfl⟩ := Option.map_eq_some_iff.mp found
      have oldest : newestStaged rows artifactKey = some old := by
        rw [← last, newestStaged]
        congr 2
        funext row
        simp [(bury_kept fresh.publicationId fresh.artifactKey row).2.1]
      rcases bury_cases fresh.publicationId fresh.artifactKey old with
        ⟨unchanged, -⟩ | ⟨⟨own, -⟩, -⟩
      · exact kept.alive artifactKey old oldest (unchanged ▸ superseded)
      · exact same (own.symm.trans (newestStaged_mem oldest).2)

/-- A staging leaves the ledger, or adds the row of a new cycle. -/
theorem stage_cases {request : Staging π} {after : List (ArtifactPublication π)}
    {row : ArtifactPublication π} (staged : stage formats rows request = .ok (after, row)) :
    after = rows ∨ ∃ fresh : ArtifactPublication π,
      fresh.payloadSha256 = formats.payloadSha256 fresh.payload ∧ fresh.state = .pending ∧
        (∀ old ∈ rows, old.publicationId ≠ fresh.publicationId) ∧
        after = supersede rows fresh.publicationId fresh.artifactKey ++ [fresh] := by
  rw [stage] at staged
  obtain ⟨-, -, staged⟩ := bind_eq_ok.mp staged
  obtain ⟨createdAt, -, staged⟩ := bind_eq_ok.mp staged
  obtain ⟨payload, -, staged⟩ := bind_eq_ok.mp staged
  dsimp only at staged
  split at staged
  · obtain ⟨-, -, staged⟩ := bind_eq_ok.mp staged
    cases staged
    exact .inl rfl
  · obtain ⟨_, unique, staged⟩ := bind_eq_ok.mp staged
    cases staged
    refine .inr ⟨request.row formats createdAt payload, rfl, rfl, ?_, rfl⟩
    intro old owned same
    exact rejectIf_eq_ok.mp unique ⟨old, owned, same⟩

theorem kept_stage (kept : LedgerKept formats rows) {request : Staging π}
    {after : List (ArtifactPublication π)} {row : ArtifactPublication π}
    (staged : stage formats rows request = .ok (after, row)) : LedgerKept formats after := by
  rcases stage_cases staged with rfl | ⟨fresh, digest, pending, new, rfl⟩
  · exact kept
  · exact kept.add digest pending new

omit [DecidableEq π] in
/-- An acknowledgement amends the ledger, and the publication it names is published then. -/
theorem markPublished_ok {publication : ArtifactPublication π} {publishedAt : Int}
    {after : List (ArtifactPublication π)} {first : Bool}
    (unique : (rows.map ArtifactPublication.publicationId).Nodup)
    (member : publication ∈ rows)
    (live : publication.state = .pending ∨ publication.state = .published)
    (marked : markPublished rows publication.publicationId publication.payloadSha256 publishedAt =
      .ok (after, first)) :
    ∃ change : ArtifactPublication π → ArtifactPublication π,
      (∀ row, Amends row (change row)) ∧ after = rows.map change ∧
        (change publication).state = .published := by
  have own {row : ArtifactPublication π} (listed : row ∈ rows)
      (same : row.publicationId = publication.publicationId) : row = publication :=
    eq_of_key unique listed member same
  rw [markPublished] at marked
  split at marked
  · cases marked
    refine ⟨_, fun row => ?_, rfl, ?_⟩
    · split
      · rename_i waiting
        exact ⟨rfl, rfl, rfl, rfl, .inr ⟨(of_decide_eq_true waiting).2.1, rfl⟩⟩
      · exact Amends.refl row
    · rcases live with pending | published
      · simp [pending]
      · simp [published]
  · rename_i noneWaiting
    split at marked
    · cases marked
      have published : publication.state = .published := by
        apply live.resolve_left
        intro pending
        apply noneWaiting
        have once := (countP_key_eq_one unique publication.publicationId fun row =>
          decide (row.state = .pending ∧ row.payloadSha256 = publication.payloadSha256)).mpr
            ⟨publication, member, rfl, by simp [pending]⟩
        rw [← once]
        apply List.countP_congr
        simp
      refine ⟨_, fun row => ?_, rfl, ?_⟩
      · split
        · exact ⟨rfl, rfl, rfl, rfl, .inl rfl⟩
        · exact Amends.refl row
      · split <;> exact published
    · cases marked

omit [DecidableEq π] in
theorem amended_recordFailure (publicationId : String) (attemptedAt : Int) (error : String) :
    Amended rows (recordFailure rows publicationId attemptedAt error) :=
  amended_updateWhere fun _ _ => ⟨rfl, rfl, rfl, rfl, .inl rfl⟩

end Ledger

section Reconciliation

variable {formats : Formats π} {shop : Shop π} {publication : ArtifactPublication π}

/-- The ledger with a row amended to published. -/
def Publishes (publication : ArtifactPublication π) (rows after : List (ArtifactPublication π)) :
    Prop :=
  ∃ change : ArtifactPublication π → ArtifactPublication π,
    (∀ row, Amends row (change row)) ∧ after = rows.map change ∧
      (change publication).state = .published

omit [DecidableEq π] in
theorem Publishes.amended {rows after : List (ArtifactPublication π)}
    (publishes : Publishes publication rows after) : Amended rows after := by
  obtain ⟨change, amends, shape, -⟩ := publishes
  exact ⟨change, amends, shape⟩

/-- What the first row of the selection is: of the key, not superseded, and ahead of the others. -/
theorem reconcilable_some {rows : List (ArtifactPublication π)} {artifactKey : String}
    (found : reconcilable rows artifactKey = some publication) :
    (publication ∈ rows ∧ publication.artifactKey = artifactKey) ∧
      (publication.state = .pending ∨ publication.state = .published) ∧
      ∀ other ∈ rows, other.artifactKey = artifactKey →
        (other.state = .pending ∨ other.state = .published) →
          publication.selection ≤ other.selection := by
  obtain ⟨member, first⟩ := head?_sortBy found
  obtain ⟨owned, own, live⟩ : publication ∈ rows ∧ publication.artifactKey = artifactKey ∧
      (publication.state = .pending ∨ publication.state = .published) := by
    simpa using member
  refine ⟨⟨owned, own⟩, live, ?_⟩
  intro other listed same alive
  apply first
  simp [listed, same, alive]

/-- The selection finds nothing only where nothing was staged. -/
theorem reconcilable_none {rows : List (ArtifactPublication π)} {artifactKey : String}
    (kept : LedgerKept formats rows) (absent : reconcilable rows artifactKey = none) :
    newestStaged rows artifactKey = none := by
  have empty := head?_sortBy_none absent
  cases found : newestStaged rows artifactKey with
  | none => rfl
  | some newest =>
    obtain ⟨owned, own⟩ := newestStaged_mem found
    have dead := List.filter_eq_nil_iff.mp empty newest owned
    have alive := kept.alive artifactKey newest found
    cases state : newest.state <;> simp [own, state] at dead alive

variable (kept : LedgerKept formats shop.rows) (member : publication ∈ shop.rows)
  (live : publication.state = .pending ∨ publication.state = .published)

include kept member live

omit [DecidableEq π] in
theorem acknowledge_spec (attemptedAt : Int) (marking : Marking) :
    Amended shop.rows (acknowledge shop.rows publication attemptedAt marking).1 ∧
      ((acknowledge shop.rows publication attemptedAt marking).2 = .ok () →
        Publishes publication shop.rows
          (acknowledge shop.rows publication attemptedAt marking).1) := by
  rw [acknowledge.eq_def]
  cases marked : markPublished shop.rows publication.publicationId publication.payloadSha256
      attemptedAt with
  | error error =>
    refine ⟨Amended.refl _, ?_⟩
    intro answered
    cases answered
  | ok result =>
    have publishes : Publishes publication shop.rows result.1 :=
      markPublished_ok kept.unique member live marked
    cases marking with
    | done => exact ⟨publishes.amended, fun _ => publishes⟩
    | lost error => exact ⟨Amended.refl _, fun answered => by cases answered⟩
    | unanswered error => exact ⟨publishes.amended, fun answered => by cases answered⟩

/-- The `try` block amends the ledger; where it does not raise, the file holds the bytes and the
publication is published. -/
theorem attempt_spec (expected : List UInt8) (exactBefore : Bool) (attemptedAt : Int)
    (encounter : Encounter) :
    Amended shop.rows
        (attempt shop publication expected exactBefore attemptedAt encounter).1.rows ∧
      ((attempt shop publication expected exactBefore attemptedAt encounter).2 = .ok () →
        (attempt shop publication expected exactBefore attemptedAt encounter).1.output =
            .regular expected ∧
          Publishes publication shop.rows
            (attempt shop publication expected exactBefore attemptedAt encounter).1.rows) := by
  rw [attempt]
  generalize (if exactBefore then (shop.output, Except.ok ())
    else writePublicSafeAtomic shop.output expected encounter.writing) = written
  obtain ⟨output, error | done⟩ := written
  · exact ⟨Amended.refl _, fun done => by cases done⟩
  · dsimp only
    split
    · rename_i exactAfter
      obtain ⟨amended, publishes⟩ :=
        acknowledge_spec kept member live attemptedAt encounter.marking
      refine ⟨amended, fun done => ⟨?_, publishes done⟩⟩
      simpa [exactRegularFile] using (Bool.and_eq_true_iff.mp exactAfter).2
    · exact ⟨Amended.refl _, fun done => by cases done⟩

end Reconciliation

section Reconciliation

variable {formats : Formats π} {shop : Shop π}

/-- What a reconciliation does: it amends the ledger, writes only what it selected, and where it
returns, the bytes of the selection are in the file and the selection is published. -/
structure Reconciles (formats : Formats π) (shop : Shop π) (reconciled : Reconciled π) : Prop where
  amended : Amended shop.rows reconciled.shop.rows
  wrote : ∀ publication ∈ reconciled.wrote,
    reconcilable shop.rows PUBLIC_SAFE_ARTIFACT_KEY = some publication
  returned : ∀ answer, reconciled.result = .ok answer →
    reconcilable shop.rows PUBLIC_SAFE_ARTIFACT_KEY = none ∧ reconciled.shop = shop ∨
      ∃ publication content,
        reconcilable shop.rows PUBLIC_SAFE_ARTIFACT_KEY = some publication ∧
          formats.publicSafeBytes publication.payload = .ok content ∧
          reconciled.shop.output = .regular content ∧
          Publishes publication shop.rows reconciled.shop.rows

theorem reconciles (kept : LedgerKept formats shop.rows) (nowTs : Int) (encounter : Encounter) :
    Reconciles formats shop (reconcilePublicSafe formats shop nowTs encounter) := by
  rw [reconcilePublicSafe.eq_def]
  cases selected : reconcilable shop.rows PUBLIC_SAFE_ARTIFACT_KEY with
  | none =>
    refine ⟨Amended.refl _, (fun _ wrote => by cases wrote), ?_⟩
    intro answer _
    exact .inl ⟨selected, rfl⟩
  | some publication =>
    have idle (error : PyError) :
        Reconciles formats shop { shop, result := .error error } :=
      ⟨Amended.refl _, (fun _ wrote => by cases wrote), (fun _ answered => by cases answered)⟩
    obtain ⟨⟨member, -⟩, live, -⟩ := reconcilable_some selected
    dsimp only
    cases attempted : utcText nowTs with
    | error error => exact idle error
    | ok attemptedAt =>
      cases bytes : formats.publicSafeBytes publication.payload with
      | error error => exact idle error
      | ok expected =>
        dsimp only
        split
        · rename_i exact
          obtain ⟨exactBefore, published⟩ := exact
          refine ⟨Amended.refl _, (fun _ wrote => by cases wrote), ?_⟩
          intro answer _
          refine .inr ⟨publication, expected, selected, bytes, ?_, ?_⟩
          · simpa [exactRegularFile] using (Bool.and_eq_true_iff.mp exactBefore).2
          · exact ⟨id, Amends.refl, (List.map_id _).symm, published⟩
        · have only : ∀ written ∈ (if exactRegularFile encounter.readBefore shop.output expected
              then none else some publication),
              reconcilable shop.rows PUBLIC_SAFE_ARTIFACT_KEY = some written := by
            intro written wrote
            split at wrote
            · cases wrote
            · rw [selected, Option.mem_some.mp wrote]
          obtain ⟨amended, done⟩ := attempt_spec kept member live expected
            (exactRegularFile encounter.readBefore shop.output expected) attemptedAt encounter
          split
          · rename_i succeeded
            refine ⟨amended, only, ?_⟩
            intro answer _
            obtain ⟨output, publishes⟩ := done succeeded
            exact .inr ⟨publication, expected, selected, bytes, output, publishes⟩
          · refine ⟨?_, only, fun _ answered => by cases answered⟩
            split
            · exact amended.trans (amended_recordFailure _ _ _)
            · exact amended

omit [DecidableEq π] in
/-- A pending row is selected before any published one. -/
theorem pending_of_selection_le {first other : ArtifactPublication π}
    (pending : other.state = .pending) (ahead : first.selection ≤ other.selection) :
    first.state = .pending := by
  by_contra late
  rw [ArtifactPublication.selection, ArtifactPublication.selection, Prod.Lex.le_iff] at ahead
  simp [pending, late] at ahead

omit [DecidableEq π] in
/-- Among published rows the selection goes by rank. -/
theorem selection_le_iff {first other : ArtifactPublication π}
    (published : first.state = .published) (too : other.state = .published) :
    first.selection ≤ other.selection ↔ other.rank ≤ first.rank := by
  rw [ArtifactPublication.selection, ArtifactPublication.selection, ArtifactPublication.rank,
    ArtifactPublication.rank, Prod.Lex.le_iff, Prod.Lex.le_iff]
  simp only [ofLex_toLex, published, too, reduceCtorEq, if_false, lt_self_iff_false, true_and,
    false_or, Prod.Lex.le_iff, OrderDual.toDual_le_toDual, neg_lt_neg_iff, neg_inj]
  constructor
  · rintro (later | ⟨same, above⟩)
    · exact .inl later
    · exact .inr ⟨same.symm, above⟩
  · rintro (later | ⟨same, above⟩)
    · exact .inl later
    · exact .inr ⟨same.symm, above⟩

/-- With nothing pending, the selection is the leading row. -/
theorem leads_of_reconcilable {rows : List (ArtifactPublication π)} {artifactKey : String}
    {publication : ArtifactPublication π}
    (selected : reconcilable rows artifactKey = some publication)
    (waiting : ∀ row ∈ rows, row.artifactKey = artifactKey → row.state ≠ .pending) :
    Leads rows publication := by
  obtain ⟨⟨member, own⟩, live, ahead⟩ := reconcilable_some selected
  have published := live.resolve_left (waiting publication member own)
  refine ⟨published, ?_⟩
  intro other listed same too
  exact (selection_le_iff published too).mp (ahead other listed (same.trans own) (.inr too))

/-- With a pending row of the key the selection is the newest row. -/
theorem newest_of_reconcilable {rows : List (ArtifactPublication π)} {artifactKey : String}
    (kept : LedgerKept formats rows) {publication : ArtifactPublication π}
    (selected : reconcilable rows artifactKey = some publication)
    (waiting : ∃ row ∈ rows, row.artifactKey = artifactKey ∧ row.state = .pending) :
    newestStaged rows artifactKey = some publication := by
  obtain ⟨⟨member, own⟩, -, ahead⟩ := reconcilable_some selected
  obtain ⟨row, listed, same, pending⟩ := waiting
  have first := pending_of_selection_le pending (ahead row listed same (.inl pending))
  rw [← own]
  exact kept.newest_of_pending member first

/-- Only one row of a key leads. -/
theorem leads_unique {rows : List (ArtifactPublication π)} (kept : LedgerKept formats rows)
    {first second : ArtifactPublication π} (member : first ∈ rows) (memberToo : second ∈ rows)
    (same : first.artifactKey = second.artifactKey) (leads : Leads rows first)
    (leadsToo : Leads rows second) : first = second := by
  have equal : first.rank = second.rank :=
    le_antisymm (leadsToo.2 first member same leads.1)
      (leads.2 second memberToo same.symm leadsToo.1)
  apply eq_of_key kept.unique member memberToo
  exact congrArg (fun rank => (ofLex rank).2) equal

end Reconciliation

section Runs

variable {formats : Formats π} {shop : Shop π}

theorem LedgerKept.amended {rows after : List (ArtifactPublication π)}
    (kept : LedgerKept formats rows) (amended : Amended rows after) : LedgerKept formats after := by
  obtain ⟨change, amends, rfl⟩ := amended
  exact kept.amend amends

theorem kept_move (kept : LedgerKept formats shop.rows) (move : Move π) :
    LedgerKept formats (shop.move formats move).1.rows := by
  cases move with
  | damage output => exact kept
  | reconcile nowTs encounter => exact kept.amended (reconciles kept nowTs encounter).amended
  | stage request commits =>
    rw [Shop.move]
    cases staged : stage formats shop.rows request with
    | error error => exact kept
    | ok result =>
      dsimp only
      split
      · exact kept_stage kept staged
      · exact kept

/-- A reconciliation that returns leaves the newest publication in the file exactly where the
leading one carries the same bytes. -/
theorem showsNewest_iff (kept : LedgerKept formats shop.rows) {nowTs : Int}
    {encounter : Encounter} {answer : Option PublicationResult}
    (returned : (reconcilePublicSafe formats shop nowTs encounter).result = .ok answer) :
    (reconcilePublicSafe formats shop nowTs encounter).shop.ShowsNewest formats ↔
      shop.NewestLeads formats := by
  have after := kept.amended (reconciles kept nowTs encounter).amended
  rcases (reconciles kept nowTs encounter).returned answer returned with
    ⟨absent, same⟩ | ⟨publication, content, selected, bytes, output, change, amends, shape,
      published⟩
  · have unstaged := reconcilable_none kept absent
    constructor
    · intro _ _ _ _ _ _ newest found
      rw [unstaged] at found
      cases found
    · intro _ newest found
      rw [same, unstaged] at found
      cases found
  · obtain ⟨⟨member, own⟩, -⟩ := reconcilable_some selected
    constructor
    · intro shows waiting first listed firstKey leads newest found other read
      have chosen : first = publication :=
        leads_unique kept listed member (firstKey.trans own.symm) leads
          (leads_of_reconcilable selected waiting)
      have place : newestStaged (shop.rows.map change) PUBLIC_SAFE_ARTIFACT_KEY =
          some (change newest) := by
        rw [newestStaged_map amends, Option.mem_def.mp found, Option.map_some]
      obtain ⟨-, -, shown, held, file⟩ := shows (change newest) (shape ▸ place)
      have equal : other = shown := by
        rw [chosen, bytes] at read
        have same : content = other := Option.some.inj read
        rw [← same]
        exact Output.regular.inj (output.symm.trans file)
      rw [equal, ← held, (amends newest).payload]
    · intro leads newest found
      rw [shape, newestStaged_map amends] at found
      obtain ⟨old, last, rfl⟩ := Option.map_eq_some_iff.mp found
      have digest := after.digests (change old) (shape ▸ List.mem_map_of_mem (newestStaged_mem last).1)
      by_cases pending : ∃ row ∈ shop.rows, row.artifactKey = PUBLIC_SAFE_ARTIFACT_KEY ∧
          row.state = .pending
      · have newest := newest_of_reconcilable kept selected pending
        obtain rfl : publication = old := Option.some.inj (newest.symm.trans last)
        exact ⟨published, digest, content, (amends publication).payload ▸ bytes, output⟩
      · push Not at pending
        have read : content ∈ (formats.publicSafeBytes publication.payload).toOption := by
          rw [bytes]
          rfl
        have leading := leads_of_reconcilable selected pending
        have same := leads pending publication member own leading old last content read
        have state : old.state = .published := by
          have alive := kept.alive _ old last
          have quiet := pending old (newestStaged_mem last).1 (newestStaged_mem last).2
          cases state : old.state with
          | pending => exact absurd state quiet
          | published => rfl
          | superseded => exact absurd state alive
        refine ⟨?_, digest, content, (amends old).payload ▸ same, output⟩
        rcases (amends old).state with unchanged | ⟨-, now⟩
        · exact unchanged.trans state
        · exact now

/-- What is superseded stays superseded. -/
theorem superseded_move (kept : LedgerKept formats shop.rows) (move : Move π)
    {row : ArtifactPublication π} (member : row ∈ shop.rows) (superseded : row.state = .superseded) :
    ∃ after ∈ (shop.move formats move).1.rows,
      after.publicationId = row.publicationId ∧ after.state = .superseded := by
  have amended {after : List (ArtifactPublication π)} (amended : Amended shop.rows after) :
      ∃ now ∈ after, now.publicationId = row.publicationId ∧ now.state = .superseded := by
    obtain ⟨change, amends, rfl⟩ := amended
    refine ⟨change row, List.mem_map_of_mem member, (amends row).publicationId, ?_⟩
    rcases (amends row).state with same | ⟨pending, -⟩
    · exact same.trans superseded
    · exact absurd (superseded.symm.trans pending) (by decide)
  cases move with
  | damage output => exact ⟨row, member, rfl, superseded⟩
  | reconcile nowTs encounter => exact amended (reconciles kept nowTs encounter).amended
  | stage request commits =>
    rw [Shop.move]
    cases staged : stage formats shop.rows request with
    | error error => exact ⟨row, member, rfl, superseded⟩
    | ok result =>
      dsimp only
      split
      · rcases stage_cases staged with same | ⟨fresh, -, -, -, grown⟩
        · exact ⟨row, same ▸ member, rfl, superseded⟩
        · rw [grown, supersede_eq_map]
          have same := (bury_kept fresh.publicationId fresh.artifactKey row).1
          refine ⟨_, List.mem_append_left _ (List.mem_map_of_mem member), same, ?_⟩
          rcases bury_cases fresh.publicationId fresh.artifactKey row with
            ⟨unchanged, -⟩ | ⟨-, buried⟩
          · rw [unchanged, superseded]
          · exact buried
      · exact ⟨row, member, rfl, superseded⟩

/-- A superseded publication is neither written nor revived by a move. -/
theorem buried_move (kept : LedgerKept formats shop.rows) (move : Move π)
    {row : ArtifactPublication π} (member : row ∈ shop.rows)
    (superseded : row.state = .superseded) :
    Buried row.publicationId (take (Shop.move formats) shop move) := by
  have own {other : ArtifactPublication π} (listed : other ∈ shop.rows)
      (same : other.publicationId = row.publicationId) : other = row :=
    eq_of_key kept.unique listed member same
  constructor
  · intro reconciled output publication wrote same
    cases move with
    | damage _ => cases output
    | stage request commits =>
      simp only [take, Shop.move] at output
      split at output <;> cases output
    | reconcile nowTs encounter =>
      obtain rfl := Option.some.inj output
      obtain ⟨⟨listed, -⟩, live, -⟩ :=
        reconcilable_some ((reconciles kept nowTs encounter).wrote publication wrote)
      rw [own listed same, superseded] at live
      simp at live
  · intro now listed same
    obtain ⟨after, stays, name, dead⟩ := superseded_move kept move member superseded
    rw [eq_of_key (kept_move kept move).unique listed stays (same.trans name.symm)]
    exact dead

end Runs

section Results

variable (formats : Formats π)

omit [DecidableEq π] in
theorem kept_empty : LedgerKept formats [] where
  unique := List.nodup_nil
  digests := by simp
  settled := List.Pairwise.nil
  alive := by simp [newestStaged]

/-- What is superseded after one move of a run is buried in all that follow. -/
theorem pairwise_buried {shop : Shop π} (kept : LedgerKept formats shop.rows)
    (moves : List (Move π)) :
    (trace (Shop.move formats) shop moves).Pairwise fun earlier later =>
      ∀ row ∈ earlier.after.rows, row.state = .superseded → Buried row.publicationId later := by
  have always : Guarded (Shop.move formats) (fun _ _ => True) shop moves := fun _ _ => trivial
  apply (pairwise_settled (fun shop : Shop π => LedgerKept formats shop.rows)
    (fun publicationId shop =>
      ∃ row ∈ shop.rows, row.publicationId = publicationId ∧ row.state = .superseded)
    Buried (fun _ move kept _ => kept_move kept move) ?_ ?_ kept always).imp
  · intro earlier later buried row member superseded
    exact buried row.publicationId ⟨row, member, rfl, superseded⟩
  · rintro publicationId shop move kept - ⟨row, member, rfl, superseded⟩
    exact superseded_move kept move member superseded
  · rintro publicationId shop move kept - ⟨row, member, rfl, superseded⟩
    exact buried_move kept move member superseded

/-- In every order of stagings, reconciliations and damage: one publication of a key is pending at
most, what is superseded is never written or published afterwards, and a reconciliation that starts
with the newest publication pending or leading and returns leaves that one in the file. -/
theorem artifact_advances (output : Output) (moves : List (Move π))
    (leads : Guarded (Shop.move formats) (NewestLeads formats) { output } moves) :
    (∀ taken ∈ trace (Shop.move formats) { output } moves, Advances formats taken) ∧
      (trace (Shop.move formats) { output } moves).Pairwise fun earlier later =>
        ∀ row ∈ earlier.after.rows, row.state = .superseded →
          Buried row.publicationId later := by
  refine ⟨?_, pairwise_buried formats (kept_empty formats) moves⟩
  intro taken listed
  obtain ⟨kept, step⟩ := trace_invariant (fun shop : Shop π => LedgerKept formats shop.rows)
    (fun _ move kept _ => kept_move kept move) (kept_empty formats) leads taken listed
  have guarded := leads taken listed
  constructor
  · rw [step]
    exact (kept_move kept taken.event).onePending
  · intro reconciled out answer returned
    rw [step] at out ⊢
    cases move : taken.event with
    | damage _ =>
      rw [move] at out
      cases out
    | stage request commits =>
      simp only [move, take, Shop.move] at out
      split at out <;> cases out
    | reconcile nowTs encounter =>
      rw [move] at out guarded
      obtain rfl := Option.some.inj out
      exact (showsNewest_iff kept returned).mpr guarded

/-- Payloads as texts, with ids and digests that spell out what they name. -/
def spelled : Formats String where
  stableId artifactKey cycleId digest := "pub:" ++ artifactKey ++ ":" ++ cycleId ++ ":" ++ digest
  payloadSha256 payload := payload
  publicSafeBytes payload := .ok (payload.toList.map fun letter => letter.val.toUInt8)
  className _ := "OSError"

/-- The artifact of a cycle that completes at a second of the year 2026. -/
def cycleAt (cycleId text : String) (second : Int) (within : 0 ≤ second ∧ second < 1000000000) :
    Move String :=
  .stage ⟨PUBLIC_SAFE_ARTIFACT_KEY, cycleId, .ok
    { text
      micros := (1767225600 + second) * 1000000
      above := by unfold MIN_TS; omega
      below := by unfold MAX_TS; omega }, .ok cycleId⟩ true

/-- Two cycles are published, the second after the clock was set back by ten minutes. -/
def rolledBack : List (Move String) :=
  [cycleAt "first" "2026-01-01T00:10:00Z" 600 (by decide), .reconcile 1767226201 {},
    cycleAt "second" "2026-01-01T00:00:30Z" 30 (by decide), .reconcile 1767225631 {}]

/-- The next reconciliation writes the first artifact over the second. -/
theorem artifact_goes_back : ¬ ∀ taken ∈
    trace (Shop.move spelled) {} (rolledBack ++ [.reconcile 1767225660 {}]),
      Advances spelled taken := by
  intro advances
  have member : take (Shop.move spelled) (final (Shop.move spelled) {} rolledBack)
      (.reconcile 1767225660 {}) ∈
        trace (Shop.move spelled) {} (rolledBack ++ [.reconcile 1767225660 {}]) := by
    rw [trace_append]
    simp [trace]
  have returned : ∃ answer, (reconcilePublicSafe spelled (final (Shop.move spelled) {} rolledBack)
      1767225660 {}).result = .ok answer := by
    refine ⟨some ⟨"pub:public-safe-shadow:first:first", "first", true⟩, ?_⟩
    decide +kernel
  obtain ⟨answer, returned⟩ := returned
  have shows := (advances _ member).newest _ rfl answer returned
  revert shows
  decide +kernel

/-- With the clock in order: a lost acknowledgement, a failed write and a removed file. -/
def inOrder : List (Move String) :=
  [cycleAt "first" "2026-01-01T00:00:30Z" 30 (by decide),
    .reconcile 1767225631 { marking := .lost ⟨.database, "connection lost"⟩ },
    cycleAt "second" "2026-01-01T00:10:00Z" 600 (by decide),
    .reconcile 1767226201 { writing := .failedBefore ⟨.os, "No space left on device"⟩ },
    .reconcile 1767226202 {}, .damage .missing, .reconcile 1767226203 {}]

theorem artifact_advances_inOrder :
    (∀ taken ∈ trace (Shop.move spelled) {} inOrder, Advances spelled taken) ∧
      (trace (Shop.move spelled) {} inOrder).Pairwise fun earlier later =>
        ∀ row ∈ earlier.after.rows, row.state = .superseded →
          Buried row.publicationId later :=
  artifact_advances spelled .missing inOrder (by decide +kernel)

end Results

end LiveStream.Monitoring
