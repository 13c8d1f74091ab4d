import LiveStream.Support.Run
import LiveStream.Upload.Replica

/-! Replicated samples are kept as long as no append continues an unfinished line. -/

namespace LiveStream.Upload

open LiveStream.Support

variable {ρ : Type} {codec : Codec ρ} {directory : Directory ρ} {row : ρ}

/-- The rows of a text that is read whole. -/
def wholeRows (codec : Codec ρ) (text : List Char) : List ρ :=
  (splitLines '\n' text).filterMap codec.loads

theorem fileRows_whole {text : List Char} {limit : ℕ} (fits : text.length ≤ limit) :
    fileRows codec limit text = wholeRows codec text := by
  rw [fileRows, readTail, if_pos fits]
  rfl

variable (codec) in
/-- Some bytes of a row read as the row once its text is whole, and as nothing before. -/
theorem wholeRows_take (row : ρ) (bytes : ℕ) : wholeRows codec ((codec.raw row).take bytes) =
    if (codec.dumps row).length ≤ bytes then [row] else [] := by
  have plain := codec.one_line row
  unfold wholeRows Codec.raw
  rcases lt_trichotomy bytes (codec.dumps row).length with part | text | line
  · rw [if_neg (not_le.mpr part), List.take_append_of_le_length part.le]
    by_cases none : (codec.dumps row).take bytes = []
    · rw [none]
      rfl
    · have sub : (codec.dumps row).take bytes <+: codec.dumps row := List.take_prefix _ _
      have short : (codec.dumps row).take bytes ≠ codec.dumps row := by
        intro same
        have length := congrArg List.length same
        rw [List.length_take] at length
        omega
      rw [splitLines_plain (fun here => plain (sub.subset here)) none]
      simp [codec.loads_part row _ sub short]
  · rw [if_pos text.ge, text, List.take_left]
    rw [splitLines_plain plain (codec.nonempty row)]
    simp [codec.loads_dumps]
  · rw [if_pos line.le, List.take_of_length_le (by simpa using line), splitLines_snoc plain]
    simp [codec.loads_dumps]

/-- The two files hold the copies of the last two rotations, in order. -/
structure Shelved (codec : Codec ρ) (directory : Directory ρ) (old recent current : List (Copy ρ)) :
    Prop where
  copies : directory.copies = old ++ (recent ++ current)
  fromOld : ∀ copy ∈ old, copy.rotations + 2 ≤ directory.rotations
  fromPrevious : ∀ copy ∈ recent, copy.rotations + 1 = directory.rotations
  fromJournal : ∀ copy ∈ current, copy.rotations = directory.rotations
  previous : wholeRows codec directory.previous = recent.map Copy.row
  journal : wholeRows codec directory.journal = current.map Copy.row
  previousFits : directory.previous.length ≤ journalBytes
  journalFits : directory.journal.length ≤ journalBytes

/-- The directory holds its copies, and a copy of every id that is known. -/
structure Kept (codec : Codec ρ) (directory : Directory ρ) : Prop where
  shelved : ∃ old recent current, Shelved codec directory old recent current
  seen : ∀ name ∈ directory.seen, ∃ copy ∈ directory.copies, codec.sampleId copy.row = name

theorem kept_rotate (kept : Kept codec directory) : Kept codec directory.rotate := by
  obtain ⟨old, recent, current, shelved⟩ := kept.shelved
  refine ⟨⟨old ++ recent, current, [], ?_⟩, kept.seen⟩
  constructor
  · simpa [Directory.rotate] using shelved.copies
  · intro copy member
    change copy.rotations + 2 ≤ directory.rotations + 1
    rcases List.mem_append.mp member with before | after
    · exact (shelved.fromOld copy before).trans (Nat.le_succ _)
    · have last := shelved.fromPrevious copy after
      omega
  · intro copy member
    exact congrArg (· + 1) (shelved.fromJournal copy member)
  · exact fun _ member => absurd member List.not_mem_nil
  · exact shelved.journal
  · rfl
  · exact shelved.journalFits
  · exact Nat.zero_le _

theorem mem_write_copies (directory : Directory ρ) (row : ρ) (bytes : ℕ) {copy : Copy ρ}
    (member : copy ∈ directory.copies) : copy ∈ (directory.write codec row bytes).copies := by
  unfold Directory.write
  dsimp only
  split_ifs
  · exact List.mem_append_left _ member
  · exact member

/-- At the start of a line some bytes of a row keep what the journal holds. -/
theorem kept_write (kept : Kept codec directory) (start : atLineStart '\n' directory.journal)
    (fits : directory.journal.length + (codec.raw row).length ≤ journalBytes) (bytes : ℕ) :
    Kept codec (directory.write codec row bytes) := by
  obtain ⟨old, recent, current, shelved⟩ := kept.shelved
  have journal : wholeRows codec (directory.journal ++ (codec.raw row).take bytes) =
      current.map Copy.row ++ if (codec.dumps row).length ≤ bytes then [row] else [] := by
    rw [← wholeRows_take codec, ← shelved.journal]
    simp only [wholeRows, splitLines_append start, List.filterMap_append]
  have bound : (directory.journal ++ (codec.raw row).take bytes).length ≤ journalBytes := by
    rw [List.length_append, List.length_take]
    omega
  constructor
  · by_cases text : (codec.dumps row).length ≤ bytes
    · refine ⟨old, recent, current ++ [⟨row, directory.rotations⟩], ?_⟩
      rw [if_pos text] at journal
      constructor
      · simp [Directory.write, text, shelved.copies]
      · exact shelved.fromOld
      · exact shelved.fromPrevious
      · intro copy member
        rcases List.mem_append.mp member with before | same
        · exact shelved.fromJournal copy before
        · rw [List.mem_singleton.mp same]
          rfl
      · exact shelved.previous
      · rw [List.map_append]
        exact journal
      · exact shelved.previousFits
      · exact bound
    · refine ⟨old, recent, current, ?_⟩
      rw [if_neg text, List.append_nil] at journal
      constructor
      · simp [Directory.write, text, shelved.copies]
      · exact shelved.fromOld
      · exact shelved.fromPrevious
      · exact shelved.fromJournal
      · exact shelved.previous
      · exact journal
      · exact shelved.previousFits
      · exact bound
  · intro name member
    obtain ⟨copy, present, same⟩ := kept.seen name member
    exact ⟨copy, mem_write_copies directory row bytes present, same⟩

/-- A row may be appended: the journal is absent, empty or ends a line, or the row rotates it. -/
def startsLine (codec : Codec ρ) (directory : Directory ρ) (row : ρ) : Prop :=
  atLineStart '\n' directory.journal ∨ rotates codec directory row

instance (directory : Directory ρ) (row : ρ) : Decidable (startsLine codec directory row) :=
  inferInstanceAs (Decidable (_ ∨ _))

/-- The journal that a row is written to. -/
def opened (codec : Codec ρ) (directory : Directory ρ) (row : ρ) : Directory ρ :=
  if rotates codec directory row then directory.rotate else directory

theorem kept_opened (kept : Kept codec directory) (starts : startsLine codec directory row)
    (short : (codec.raw row).length ≤ rowBytes) :
    Kept codec (opened codec directory row) ∧
      atLineStart '\n' (opened codec directory row).journal ∧
      (opened codec directory row).journal.length + (codec.raw row).length ≤ journalBytes := by
  have small : rowBytes ≤ journalBytes := by decide
  unfold opened
  by_cases full : rotates codec directory row
  · rw [if_pos full]
    exact ⟨kept_rotate kept, atLineStart_nil, by simpa [Directory.rotate] using short.trans small⟩
  · rw [if_neg full]
    refine ⟨kept, starts.resolve_right full, ?_⟩
    by_cases empty : directory.journal = []
    · simpa [empty] using short.trans small
    · exact not_lt.mp fun above => full ⟨empty, above⟩

theorem opened_copies (codec : Codec ρ) (directory : Directory ρ) (row : ρ) :
    (opened codec directory row).copies = directory.copies ∧
      (opened codec directory row).seen = directory.seen := by
  unfold opened
  split_ifs
  · exact ⟨rfl, rfl⟩
  · exact ⟨rfl, rfl⟩

/-- What an append leaves where it may be made: the copies there were, and the row when it
returns. -/
theorem appendSample_spec (kept : Kept codec directory) (starts : startsLine codec directory row)
    (ending : Appended) :
    let after := appendSample codec directory row ending
    Kept codec after.1 ∧ after.1.seen = directory.seen ∧
      (∀ copy ∈ directory.copies, copy ∈ after.1.copies) ∧
      (after.2 = true → atLineStart '\n' after.1.journal ∧
        ∃ copy ∈ after.1.copies, copy.row = row) := by
  unfold appendSample
  by_cases large : rowBytes < (codec.raw row).length
  · rw [if_pos large]
    exact ⟨kept, rfl, fun _ member => member, fun returned => absurd returned (by simp)⟩
  · rw [if_neg large]
    obtain ⟨next, start, fits⟩ := kept_opened kept starts (not_lt.mp large)
    obtain ⟨copies, seen⟩ := opened_copies codec directory row
    have older : ∀ bytes, ∀ copy ∈ directory.copies,
        copy ∈ ((opened codec directory row).write codec row bytes).copies :=
      fun bytes copy member => mem_write_copies _ row bytes (copies.symm ▸ member)
    cases ending with
    | fails => exact ⟨kept, rfl, fun _ member => member, fun returned => absurd returned (by simp)⟩
    | cut bytes =>
      exact ⟨kept_write next start fits bytes, seen, older bytes,
        fun returned => absurd returned (by simp)⟩
    | succeeds =>
      refine ⟨kept_write next start fits _, seen, older _, fun _ => ⟨?_, ?_⟩⟩
      · change atLineStart '\n' ((opened codec directory row).journal ++
          (codec.raw row).take (codec.raw row).length)
        rw [List.take_length, Codec.raw, ← List.append_assoc]
        exact atLineStart_snoc _
      · have whole : (codec.dumps row).length ≤ (codec.raw row).length := by simp [Codec.raw]
        refine ⟨⟨row, (opened codec directory row).rotations⟩, ?_, rfl⟩
        change _ ∈ if _ then _ else _
        rw [if_pos whole]
        exact List.mem_append_right _ (List.mem_singleton_self _)

/-- Rows appended one by one: only the first may meet an unfinished line. -/
theorem appendSamples_spec (rows : List ρ) (endings : List Appended) (kept : Kept codec directory)
    (starts : ∀ row ∈ rows.head?, startsLine codec directory row) :
    let after := appendSamples codec directory rows endings
    Kept codec after.1 ∧ after.1.seen = directory.seen ∧
      (∀ copy ∈ directory.copies, copy ∈ after.1.copies) ∧
      (after.2 = true → ∀ row ∈ rows, ∃ copy ∈ after.1.copies, copy.row = row) := by
  induction rows generalizing directory endings with
  | nil =>
    exact ⟨kept, rfl, fun _ member => member, fun _ row member => absurd member List.not_mem_nil⟩
  | cons row rest inductionHypothesis =>
    obtain ⟨next, seen, older, returned⟩ :=
      appendSample_spec kept (starts row rfl) (endings.headD .fails)
    simp only [appendSamples]
    cases step : appendSample codec directory row (endings.headD .fails) with
    | mk after ended =>
      rw [step] at next seen older returned
      cases ended with
      | false => exact ⟨next, seen, older, fun done => absurd done (by simp)⟩
      | true =>
        obtain ⟨start, copied⟩ := returned rfl
        obtain ⟨last, seen', older', all⟩ := inductionHypothesis endings.tail
          next (fun _ _ => .inl start)
        refine ⟨last, seen'.trans seen, fun copy member => older' copy (older copy member), ?_⟩
        intro done other member
        rcases List.mem_cons.mp member with rfl | later
        · obtain ⟨copy, present, same⟩ := copied
          exact ⟨copy, older' copy present, same⟩
        · exact all done other later

/-- A state may remember whatever has a copy. -/
theorem kept_remember (kept : Kept codec directory) {names : List String}
    (known : ∀ name ∈ names, ∃ copy ∈ directory.copies, codec.sampleId copy.row = name) :
    Kept codec { directory with seen := names } := by
  obtain ⟨old, recent, current, shelved⟩ := kept.shelved
  refine ⟨⟨old, recent, current, ?_⟩, known⟩
  exact ⟨shelved.copies, shelved.fromOld, shelved.fromPrevious, shelved.fromJournal,
    shelved.previous, shelved.journal, shelved.previousFits, shelved.journalFits⟩

theorem mem_latestIds {seen : List String} {name : String} (member : name ∈ latestIds seen) :
    name ∈ seen :=
  List.mem_of_mem_drop member

/-- A call appends its first row at the start of a line. -/
def opensLine (codec : Codec ρ) (directory : Directory ρ) (acceptance : Acceptance ρ) : Prop :=
  match pendingRows codec directory.seen acceptance.samples with
  | .ok (row :: _) => startsLine codec directory row
  | _ => True

instance (directory : Directory ρ) (acceptance : Acceptance ρ) :
    Decidable (opensLine codec directory acceptance) := by
  unfold opensLine
  split <;> infer_instance

theorem kept_acceptPacket (kept : Kept codec directory) {acceptance : Acceptance ρ}
    (opens : opensLine codec directory acceptance) :
    Kept codec (acceptPacket codec directory acceptance).1 := by
  unfold acceptPacket
  unfold opensLine at opens
  cases shape : pendingRows codec directory.seen acceptance.samples with
  | error reason => exact kept
  | ok pending =>
    rw [shape] at opens
    have starts : ∀ row ∈ pending.head?, startsLine codec directory row := by
      intro row first
      cases pending with
      | nil => cases first
      | cons head rest => exact Option.some.inj first ▸ opens
    obtain ⟨next, seen, older, all⟩ := appendSamples_spec pending acceptance.appends kept starts
    dsimp only
    split_ifs with done
    · apply kept_remember next
      intro name member
      rcases List.mem_append.mp (mem_latestIds member) with known | new
      · obtain ⟨copy, present, same⟩ := kept.seen name known
        exact ⟨copy, older copy present, same⟩
      · obtain ⟨row, pended, rfl⟩ := List.mem_map.mp new
        obtain ⟨copy, present, same⟩ := all done.1 row pended
        exact ⟨copy, present, congrArg codec.sampleId same⟩
    · exact next

/-- The first copy of a sample. -/
def firstCopy (codec : Codec ρ) (directory : Directory ρ) (name : String) : Option (Copy ρ) :=
  directory.copies.find? fun copy => codec.sampleId copy.row = name

/-- Every known sample is read back as it came first, unless two rotations have passed, and no
sample is read twice. -/
def KeptOnce (codec : Codec ρ) (directory : Directory ρ) : Prop :=
  (∀ name ∈ directory.seen, ∃ first ∈ firstCopy codec directory name,
    directory.rotations < first.rotations + 2 → first.row ∈ journalRows codec directory true) ∧
  ∀ history, ((journalRows codec directory history).map codec.sampleId).Nodup

/-- The first copy is the first in the two files, when it is not older than they are. -/
theorem firstCopy_read (kept : Kept codec directory) {name : String} {first : Copy ρ}
    (found : firstCopy codec directory name = some first)
    (recent : directory.rotations < first.rotations + 2) :
    first.row ∈ journalRows codec directory true := by
  obtain ⟨old, former, current, shelved⟩ := kept.shelved
  have read : journalRows codec directory true =
      setdefaults codec.sampleId ((former ++ current).map Copy.row) := by
    simp only [journalRows, if_true]
    rw [fileRows_whole shelved.previousFits, fileRows_whole shelved.journalFits, shelved.previous,
      shelved.journal, List.map_append]
  have gone : old.find? (fun copy => codec.sampleId copy.row = name) = none := by
    apply Option.eq_none_iff_forall_ne_some.mpr
    intro copy present
    have same : first = copy := by
      have whole := found
      rw [firstCopy, shelved.copies, List.find?_append, present] at whole
      exact (Option.some.inj whole).symm
    have older := shelved.fromOld copy (List.mem_of_find?_eq_some present)
    rw [same] at recent
    omega
  have window : (former ++ current).find? (fun copy => codec.sampleId copy.row = name) =
      some first := by
    have whole := found
    rw [firstCopy, shelved.copies, List.find?_append, gone] at whole
    exact whole
  have row : (journalRows codec directory true).find?
      (fun row => codec.sampleId row = name) = some first.row := by
    rw [read, find?_setdefaults, List.find?_map]
    exact congrArg (Option.map Copy.row) window
  exact List.mem_of_find?_eq_some row

theorem keptOnce (kept : Kept codec directory) : KeptOnce codec directory := by
  constructor
  · intro name member
    obtain ⟨copy, present, same⟩ := kept.seen name member
    obtain ⟨first, found⟩ : ∃ first, firstCopy codec directory name = some first := by
      apply Option.isSome_iff_exists.mp
      rw [firstCopy, List.find?_isSome]
      exact ⟨copy, present, by simpa using same⟩
    exact ⟨first, found, firstCopy_read kept found⟩
  · exact fun history => nodup_setdefaults _

/-- In a run whose calls append at line starts, known samples are read back as they came first. -/
theorem replicated_samples_kept (codec : Codec ρ) (acceptances : List (Acceptance ρ))
    (opens : Guarded (acceptPacket codec) (opensLine codec) {} acceptances) :
    KeptOnce codec (final (acceptPacket codec) {} acceptances) := by
  apply keptOnce
  apply final_invariant (Kept codec) _ _ opens
  · exact fun directory acceptance kept starts => kept_acceptPacket kept starts
  · refine ⟨⟨[], [], [], ?_⟩, fun _ member => absurd member List.not_mem_nil⟩
    constructor
    · rfl
    · exact fun _ member => absurd member List.not_mem_nil
    · exact fun _ member => absurd member List.not_mem_nil
    · exact fun _ member => absurd member List.not_mem_nil
    · rfl
    · rfl
    · exact Nat.zero_le _
    · exact Nat.zero_le _

section Torn

/-- Two rows and their texts. -/
def measuredText (first : Bool) : List Char :=
  if first then "\x7b\"sample_id\":\"a1\",\"ts_utc\":\"2026-01-01T00:01:00Z\"\x7d".toList
  else "\x7b\"sample_id\":\"b2\",\"ts_utc\":\"2026-01-01T00:02:00Z\"\x7d".toList

def measuredCodec : Codec Bool where
  sampleId first := if first then "a1" else "b2"
  dumps := measuredText
  loads text :=
    if text = measuredText true then some true
    else if text = measuredText false then some false else none
  loads_dumps := by decide +kernel
  one_line := by decide +kernel
  nonempty := by decide +kernel
  loads_part := by
    intro row text part short
    have shorter : text.length < (measuredText row).length := by
      apply lt_of_le_of_ne part.length_le
      exact fun same => short (part.eq_of_length same)
    have equal : ∀ first, text ≠ measuredText first := by
      rintro first rfl
      have lengths : ∀ left right, (measuredText left).length = (measuredText right).length := by
        decide +kernel
      exact absurd (lengths first row) shorter.ne
    rw [if_neg (equal true), if_neg (equal false)]

/-- A call that fails at its second row, and the one after it. -/
theorem replicated_samples_kept_restarts :
    opensLine measuredCodec ({} : Directory Bool) ⟨[.ok true, .ok false], [.succeeds, .fails], true⟩ ∧
      KeptOnce measuredCodec (final (acceptPacket measuredCodec) {}
        [⟨[.ok true, .ok false], [.succeeds, .fails], true⟩,
          ⟨[.ok true, .ok false], [.succeeds, .succeeds], true⟩]) :=
  ⟨by decide +kernel, replicated_samples_kept measuredCodec _ (by decide +kernel)⟩

/-- A row that continues the unfinished line of a crash is known and not read back. -/
theorem torn_sample_lost :
    ¬ ∀ acceptances, KeptOnce measuredCodec (final (acceptPacket measuredCodec) {} acceptances) := by
  intro claimed
  obtain ⟨kept, -⟩ := claimed
    [⟨[.ok true], [.cut 20], false⟩, ⟨[.ok true], [.succeeds], true⟩]
  obtain ⟨first, found, read⟩ := kept "a1" (by decide +kernel)
  have copy : firstCopy measuredCodec (final (acceptPacket measuredCodec) {}
      [⟨[.ok true], [.cut 20], false⟩, ⟨[.ok true], [.succeeds], true⟩]) "a1" = some ⟨true, 0⟩ := by
    decide +kernel
  obtain rfl := Option.some.inj (copy.symm.trans found)
  exact absurd (read (by decide +kernel)) (by decide +kernel)

end Torn

end LiveStream.Upload
