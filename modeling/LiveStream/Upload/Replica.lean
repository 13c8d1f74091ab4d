import LiveStream.Support.Lines

/-! The replica of the upload samples: rows are appended one by one before the state that remembers
their ids, and the reader skips the lines that it cannot parse. -/

namespace LiveStream.Upload

open LiveStream.Support

def journalBytes : ℕ := 4 * 1024 * 1024

def tailBytes : ℕ := 262144

def rowBytes : ℕ := 8192

/-- `json.dumps` and `json.loads` of rows: a row is one line of ASCII, and no part of it from its
start reads as a row. -/
structure Codec (ρ : Type) where
  sampleId : ρ → String
  dumps : ρ → List Char
  loads : List Char → Option ρ
  loads_dumps : ∀ row, loads (dumps row) = some row
  one_line : ∀ row, '\n' ∉ dumps row
  nonempty : ∀ row, dumps row ≠ []
  loads_part : ∀ row text, text <+: dumps row → text ≠ dumps row → loads text = none

/-- A row whose text reached the journal, with the number of rotations before. -/
structure Copy (ρ : Type) where
  row : ρ
  rotations : ℕ
  deriving DecidableEq

/-- The directory, an absent file as an empty one. The copies and the rotations are a history that
no code reads. -/
structure Directory (ρ : Type) where
  journal : List Char := []
  previous : List Char := []
  seen : List String := []
  copies : List (Copy ρ) := []
  rotations : ℕ := 0
  deriving DecidableEq

/-- How an `append_sample` ends: well, before it changed anything, or after so many bytes of the
row, with an error or the death of the process. -/
inductive Appended where
  | succeeds
  | fails
  | cut (bytes : ℕ)
  deriving DecidableEq

section Code

variable {ρ : Type} (codec : Codec ρ)

def Codec.raw (row : ρ) : List Char := codec.dumps row ++ ['\n']

/-- Whether the row is the one that rotates the journal. -/
def rotates (directory : Directory ρ) (row : ρ) : Prop :=
  directory.journal ≠ [] ∧ journalBytes < directory.journal.length + (codec.raw row).length

instance (directory : Directory ρ) (row : ρ) : Decidable (rotates codec directory row) :=
  inferInstanceAs (Decidable (_ ∧ _))

/-- `os.replace` of the previous journal by the journal. -/
def Directory.rotate (directory : Directory ρ) : Directory ρ :=
  { directory with
    previous := directory.journal
    journal := []
    rotations := directory.rotations + 1 }

/-- The journal with so many bytes of the row. -/
def Directory.write (directory : Directory ρ) (row : ρ) (bytes : ℕ) : Directory ρ :=
  { directory with
    journal := directory.journal ++ (codec.raw row).take bytes
    copies :=
      if (codec.dumps row).length ≤ bytes then directory.copies ++ [⟨row, directory.rotations⟩]
      else directory.copies }

/-- `append_sample`, and whether it returned. -/
def appendSample (directory : Directory ρ) (row : ρ) (ending : Appended) : Directory ρ × Bool :=
  if rowBytes < (codec.raw row).length then (directory, false)
  else
    let opened := if rotates codec directory row then directory.rotate else directory
    match ending with
    | .fails => (directory, false)
    | .cut bytes => (opened.write codec row bytes, false)
    | .succeeds => (opened.write codec row (codec.raw row).length, true)

def appendSamples (directory : Directory ρ) : List ρ → List Appended → Directory ρ × Bool
  | [], _ => (directory, true)
  | row :: rest, endings =>
    match appendSample codec directory row (endings.headD .fails) with
    | (directory, true) => appendSamples directory rest endings.tail
    | (directory, false) => (directory, false)

/-- The rows of a packet that are not known yet. The checks leave a sample as an error or as the row
with its receipt. -/
def pendingRows (known : List String) : List (Except String ρ) → Except String (List ρ)
  | [] => .ok []
  | .error reason :: _ => .error reason
  | .ok row :: rest =>
    if codec.sampleId row ∈ known then pendingRows known rest
    else (pendingRows (codec.sampleId row :: known) rest).map fun rows => row :: rows

/-- A call of `accept_packet`, with how its appends end and whether it came to replace the state. -/
structure Acceptance (ρ : Type) where
  samples : List (Except String ρ)
  appends : List Appended
  saved : Bool

/-- `seen[-1000:]`. -/
def latestIds (seen : List String) : List String := seen.drop (seen.length - 1000)

/-- `accept_packet`. -/
def acceptPacket (directory : Directory ρ) (acceptance : Acceptance ρ) : Directory ρ × Unit :=
  match pendingRows codec directory.seen acceptance.samples with
  | .error _ => (directory, ())
  | .ok pending =>
    let (appended, returned) := appendSamples codec directory pending acceptance.appends
    if returned ∧ acceptance.saved then
      ({ appended with seen := latestIds (directory.seen ++ pending.map codec.sampleId) }, ())
    else (appended, ())

/-- `read_regular` with `tail`: the last bytes, from the first line start on. -/
def readTail (limit : ℕ) (text : List Char) : List Char :=
  if text.length ≤ limit then text
  else
    let raw := text.drop (text.length - limit)
    match raw.dropWhile fun letter => letter ≠ '\n' with
    | [] => raw
    | _ :: rest => rest

/-- The rows that the lines of a file hold. -/
def fileRows (limit : ℕ) (text : List Char) : List ρ :=
  (splitLines '\n' (readTail limit text)).filterMap codec.loads

/-- `journal_rows`. -/
def journalRows (directory : Directory ρ) (history : Bool) : List ρ :=
  let limit := if history then journalBytes else tailBytes
  setdefaults codec.sampleId
    (fileRows codec limit directory.previous ++ fileRows codec limit directory.journal)

end Code

end LiveStream.Upload
