import Mathlib.Data.List.Nodup
import Kanzan.Mail.Rows
import Kanzan.Support.Runs

/-!
# Attachments of inbound emails

The files of an email wait in the storage, which knows no transactions.  An attempt to process the
email attaches one after the other to the ticket and deletes it where it waited; where the attempt
fails, only the database goes back.
-/

namespace Kanzan.Mail.Attaching

open Support

/-! ## Files -/

abbrev Content := List UInt8

/-- An entry of `attachment_metadata`. -/
structure Meta where
  storagePath : String
  filename : String := "attachment"
  size : ℕ := 0

/-- An attachment, with the path of the file that it was made of. -/
structure Attachment where
  ticket : ℕ
  originalName : String
  mimeType : String
  sizeBytes : ℕ
  content : Content
  source : String
  deriving DecidableEq

/-- The attachments, the storage, and the paths that `create_attachment` has refused. -/
structure Files where
  attachments : List Attachment := []
  storage : String → Option Content
  refused : List String := []

/-- Whether the storage opens a file, the attachment can be saved, and the storage deletes it. -/
structure Access where
  opens : Bool := true
  saves : Bool := true
  deletes : Bool := true

def maxFileSizeBytes : ℕ := 25 * 1024 * 1024

def allowedMimeTypes : List String :=
  [ "image/jpeg", "image/png", "image/gif", "image/webp",
    "application/pdf", "text/plain", "text/csv",
    "application/msword", "application/vnd.ms-excel", "application/vnd.ms-powerpoint",
    "application/vnd.openxmlformats-officedocument.wordprocessingml.document",
    "application/vnd.openxmlformats-officedocument.spreadsheetml.sheet",
    "application/vnd.openxmlformats-officedocument.presentationml.presentation",
    "application/vnd.oasis.opendocument.text",
    "application/vnd.oasis.opendocument.spreadsheet",
    "application/vnd.oasis.opendocument.presentation" ]

section Attach

variable (magic : Content → Option String) (ticket : ℕ) (access : String → Access)

/-- `validate_file_upload`; nothing where it raises. -/
def validateFileUpload (size : ℕ) (content : Content) : Option String :=
  if maxFileSizeBytes < size ∨ size = 0 then none
  else (magic (content.take 2048)).filter fun mimeType => allowedMimeTypes.contains mimeType

/-- `create_attachment`; nothing where it raises. -/
def createAttachment (entry : Meta) (content : Content) (saves : Bool) : Option Attachment :=
  let size := if entry.size = 0 then content.length else entry.size
  match validateFileUpload magic size content, saves with
  | some mimeType, true =>
    some
      { ticket
        originalName := entry.filename
        mimeType
        sizeBytes := size
        content
        source := entry.storagePath }
  | _, _ => none

/-- The turn of an entry in `_attach_inbound_files`. -/
def attachInboundFile (files : Files) (entry : Meta) : Files :=
  if entry.storagePath = "" then files
  else
    match files.storage entry.storagePath with
    | none => files
    | some content =>
      let access := access entry.storagePath
      if !access.opens then files
      else
        match createAttachment magic ticket entry content access.saves with
        | none => { files with refused := entry.storagePath :: files.refused }
        | some attachment =>
          { files with
            attachments := files.attachments ++ [attachment]
            storage :=
              if access.deletes then Function.update files.storage entry.storagePath none
              else files.storage }

def attachInboundFiles (metadata : List Meta) (files : Files) : Files :=
  metadata.foldl (attachInboundFile magic ticket access) files

end Attach

/-! ## Attempts -/

structure Email where
  status : Status := .pending
  ticket : Option ℕ := none
  files : Files

/-- A run of `process_inbound_email`: the status and the ticket that it comes to, how storage and
database behave, and how many of the files it has gone through when it fails, if it does. -/
structure Attempt where
  status : Status
  ticket : ℕ
  access : String → Access := fun _ => {}
  failsAfter : Option ℕ := none

inductive Event where
  | attempt (attempt : Attempt)
  /-- `mark_inbound_failed`. -/
  | markFailed

def isFiled : Status → Bool
  | .ticketCreated | .replyAdded => true
  | _ => false

def isOpen : Status → Bool
  | .pending | .processing => true
  | _ => false

section Process

variable (magic : Content → Option String) (metadata : List Meta)

/-- What an attempt has made of the files when it is over, or fails. -/
def Attempt.handled (attempt : Attempt) (files : Files) : Files :=
  if isFiled attempt.status then
    attachInboundFiles magic attempt.ticket attempt.access
      (metadata.take (attempt.failsAfter.getD metadata.length)) { files with refused := [] }
  else files

/-- `process_inbound_email`. -/
def processInboundEmail (email : Email) (attempt : Attempt) : Email :=
  if !isOpen email.status then email
  else
    let files := attempt.handled magic metadata email.files
    match attempt.failsAfter with
    | some _ => { email with files := { email.files with storage := files.storage } }
    | none =>
      { status := attempt.status
        ticket := if isFiled attempt.status then some attempt.ticket else email.ticket
        files }

def step (email : Email) : Event → Email
  | .attempt attempt => processInboundEmail magic metadata email attempt
  | .markFailed => { email with status := .failed }

/-! ## The property -/

/-- The file is one attachment of the ticket, or it was refused and waits where it was. -/
def Kept (ticket : ℕ) (path : String) (content : Content) (files : Files) : Prop :=
  (∃ attachment, files.attachments.filter (fun row => row.source = path) = [attachment] ∧
    attachment.ticket = ticket ∧ attachment.content = content) ∨
      path ∈ files.refused ∧ files.storage path = some content

/-- An email that is filed has all the files that were stored for it. -/
def Complete (stored : String → Option Content) (email : Email) : Prop :=
  isFiled email.status → ∃ ticket, email.ticket = some ticket ∧
    ∀ entry ∈ metadata, entry.storagePath ≠ "" → ∀ content,
      stored entry.storagePath = some content →
        Kept ticket entry.storagePath content email.files

/-- An email that has come in; the storage gives out each path once. -/
structure Received (email : Email) : Prop where
  nodup : (metadata.map Meta.storagePath).Nodup
  pending : email.status = .pending
  unattached : ∀ entry ∈ metadata, ∀ row ∈ email.files.attachments,
    row.source ≠ entry.storagePath

/-- An attempt would attach the file and delete it. -/
def Attempt.moves (attempt : Attempt) (files : Files) (entry : Meta) : Bool :=
  let access := attempt.access entry.storagePath
  entry.storagePath != "" && access.opens && access.deletes &&
    (files.storage entry.storagePath).any fun content =>
      (createAttachment magic attempt.ticket entry content access.saves).isSome

/-- No attempt fails that has moved a file, and one that ends well opens all of them. -/
def Admits (email : Email) : Event → Prop
  | .attempt attempt => isOpen email.status → isFiled attempt.status →
    match attempt.failsAfter with
    | some count => ∀ entry ∈ metadata.take count, attempt.moves magic email.files entry = false
    | none => ∀ entry ∈ metadata, email.files.storage entry.storagePath ≠ none →
      (attempt.access entry.storagePath).opens = true
  | .markFailed => True

end Process

/-! ## One file among the others -/

/-- Nothing has become of the file in between. -/
structure SameAt (path : String) (a b : Files) : Prop where
  attachments : b.attachments.filter (fun row => row.source = path) =
    a.attachments.filter fun row => row.source = path
  storage : b.storage path = a.storage path
  refused : path ∈ b.refused ↔ path ∈ a.refused

section Laws

variable {magic : Content → Option String} {ticket : ℕ} {access : String → Access}
variable {entry : Meta} {metadata : List Meta} {path : String} {content : Content} {a b c : Files}

theorem SameAt.refl (path : String) (files : Files) : SameAt path files files := ⟨rfl, rfl, .rfl⟩

theorem SameAt.trans (first : SameAt path a b) (second : SameAt path b c) : SameAt path a c where
  attachments := second.attachments.trans first.attachments
  storage := second.storage.trans first.storage
  refused := second.refused.trans first.refused

theorem SameAt.kept (same : SameAt path a b) (kept : Kept ticket path content a) :
    Kept ticket path content b := by
  rcases kept with ⟨attachment, hrows, hattached⟩ | ⟨hrefused, hstored⟩
  · exact .inl ⟨attachment, same.attachments.trans hrows, hattached⟩
  · exact .inr ⟨same.refused.mpr hrefused, same.storage.trans hstored⟩

theorem createAttachment_eq_some {saves : Bool} {attachment : Attachment}
    (hcreated : createAttachment magic ticket entry content saves = some attachment) :
    attachment.ticket = ticket ∧ attachment.content = content ∧
      attachment.source = entry.storagePath := by
  unfold createAttachment at hcreated
  dsimp only at hcreated
  split at hcreated
  · cases hcreated
    exact ⟨rfl, rfl, rfl⟩
  · cases hcreated

theorem attachInboundFile_same (hne : entry.storagePath ≠ path) (files : Files) :
    SameAt path files (attachInboundFile magic ticket access files entry) := by
  unfold attachInboundFile
  split
  · exact .refl path files
  cases files.storage entry.storagePath with
  | none => exact .refl path files
  | some content =>
    dsimp only
    split
    · exact .refl path files
    cases hcreated : createAttachment magic ticket entry content
        (access entry.storagePath).saves with
    | none => exact ⟨rfl, rfl, by simp [hne.symm]⟩
    | some attachment =>
      have hsource := (createAttachment_eq_some hcreated).2.2
      refine ⟨?_, ?_, .rfl⟩
      · simp [List.filter_append, hsource, hne]
      · dsimp only
        split
        · exact Function.update_of_ne hne.symm _ _
        · rfl

theorem attachInboundFiles_same (hne : ∀ entry ∈ metadata, entry.storagePath ≠ path)
    (files : Files) :
    SameAt path files (attachInboundFiles magic ticket access metadata files) := by
  induction metadata generalizing files with
  | nil => exact .refl path files
  | cons entry rest ih =>
    obtain ⟨hentry, hrest⟩ := List.forall_mem_cons.mp hne
    exact (attachInboundFile_same hentry files).trans (ih hrest _)

/-- A file that can be opened is attached or refused. -/
theorem attachInboundFile_kept {files : Files} (hpath : entry.storagePath ≠ "")
    (hstored : files.storage entry.storagePath = some content)
    (hopens : (access entry.storagePath).opens = true)
    (hnone : files.attachments.filter (fun row => row.source = entry.storagePath) = []) :
    Kept ticket entry.storagePath content (attachInboundFile magic ticket access files entry) := by
  rw [attachInboundFile, if_neg hpath, hstored]
  dsimp only
  rw [hopens, Bool.not_true, if_neg Bool.false_ne_true]
  cases hcreated : createAttachment magic ticket entry content (access entry.storagePath).saves with
  | none => exact .inr ⟨List.mem_cons_self, hstored⟩
  | some attachment =>
    obtain ⟨hticket, hcontent, hsource⟩ := createAttachment_eq_some hcreated
    refine .inl ⟨attachment, ?_, hticket, hcontent⟩
    rw [List.filter_append, hnone, List.nil_append, List.filter_singleton, decide_eq_true hsource]
    rfl

/-- The other files stay out of it, as the paths are different. -/
theorem attachInboundFiles_kept {files : Files} (hnodup : (metadata.map Meta.storagePath).Nodup)
    (hentry : entry ∈ metadata) (hpath : entry.storagePath ≠ "")
    (hstored : files.storage entry.storagePath = some content)
    (hopens : (access entry.storagePath).opens = true)
    (hnone : files.attachments.filter (fun row => row.source = entry.storagePath) = []) :
    Kept ticket entry.storagePath content
      (attachInboundFiles magic ticket access metadata files) := by
  obtain ⟨first, rest, rfl⟩ := List.append_of_mem hentry
  rw [List.map_append, List.map_cons, List.nodup_append] at hnodup
  obtain ⟨-, hrest, hfirst⟩ := hnodup
  have hbefore : SameAt entry.storagePath files
      (attachInboundFiles magic ticket access first files) :=
    attachInboundFiles_same
      (fun other hother => hfirst _ (List.mem_map_of_mem hother) _ List.mem_cons_self) files
  have hafter : ∀ other ∈ rest, other.storagePath ≠ entry.storagePath := fun other hother hsame =>
    (List.nodup_cons.mp hrest).1 (hsame ▸ List.mem_map_of_mem hother)
  rw [attachInboundFiles, List.foldl_append, List.foldl_cons]
  exact (attachInboundFiles_same hafter _).kept (attachInboundFile_kept hpath
    (hbefore.storage.trans hstored) hopens (hbefore.attachments.trans hnone))

theorem attachInboundFile_storage {attempt : Attempt} {files : Files}
    (hmoves : attempt.moves magic files entry = false) :
    (attachInboundFile magic attempt.ticket attempt.access files entry).storage =
      files.storage := by
  unfold attachInboundFile
  split
  · rfl
  rename_i hpath
  cases hstored : files.storage entry.storagePath with
  | none => rfl
  | some content =>
    dsimp only
    split
    · rfl
    rename_i hopens
    cases hcreated : createAttachment magic attempt.ticket entry content
        (attempt.access entry.storagePath).saves with
    | none => rfl
    | some attachment =>
      simp only [Bool.not_eq_true', Bool.not_eq_false] at hopens
      have hdeletes : (attempt.access entry.storagePath).deletes = false := by
        simpa [Attempt.moves, hpath, hopens, hstored, hcreated] using hmoves
      dsimp only
      rw [hdeletes, if_neg Bool.false_ne_true]

theorem attachInboundFiles_storage {attempt : Attempt} {files : Files}
    (hmoves : ∀ entry ∈ metadata, attempt.moves magic files entry = false) :
    (attachInboundFiles magic attempt.ticket attempt.access metadata files).storage =
      files.storage := by
  induction metadata generalizing files with
  | nil => rfl
  | cons entry rest ih =>
    obtain ⟨hentry, hrest⟩ := List.forall_mem_cons.mp hmoves
    have hstep := attachInboundFile_storage hentry
    rw [attachInboundFiles, List.foldl_cons]
    refine (ih fun other hother => ?_).trans hstep
    have hother := hrest other hother
    unfold Attempt.moves at hother ⊢
    rwa [hstep]

/-! ## Runs -/

variable {stored : String → Option Content} {email : Email}

/-- While the email is open its files wait; then it is complete. -/
structure Tended (magic : Content → Option String) (metadata : List Meta)
    (stored : String → Option Content) (email : Email) : Prop where
  waiting : isOpen email.status → ∀ entry ∈ metadata,
    email.files.storage entry.storagePath = stored entry.storagePath ∧
      email.files.attachments.filter (fun row => row.source = entry.storagePath) = []
  complete : Complete metadata stored email

theorem not_isFiled_of_isOpen {status : Status} (hopen : isOpen status = true) :
    isFiled status = false := by
  cases status with
  | pending | processing => rfl
  | _ => cases hopen

theorem tended_step (hnodup : (metadata.map Meta.storagePath).Nodup) (event : Event)
    (tended : Tended magic metadata stored email) (admits : Admits magic metadata email event) :
    Tended magic metadata stored (step magic metadata email event) := by
  cases event with
  | markFailed => exact ⟨fun hopen => (by cases hopen), fun hfiled => (by cases hfiled)⟩
  | attempt attempt =>
    by_cases hopen : isOpen email.status = true
    · have hwaiting := tended.waiting hopen
      have hadmits := admits hopen
      cases hfails : attempt.failsAfter with
      | some count =>
        rw [hfails] at hadmits
        have hsame : (attempt.handled magic metadata email.files).storage =
            email.files.storage := by
          unfold Attempt.handled
          split
          · rename_i hfiled
            rw [hfails]
            exact attachInboundFiles_storage (hadmits hfiled)
          · rfl
        have hstep : step magic metadata email (.attempt attempt) = email := by
          simp only [step, processInboundEmail, hopen, hfails, hsame]
          rfl
        rw [hstep]
        exact tended
      | none =>
        rw [hfails] at hadmits
        simp only [step, processInboundEmail, hopen, hfails, Bool.not_true, Bool.false_eq_true,
          if_false]
        refine ⟨fun hstill entry hentry => ?_, fun hfiled => ⟨attempt.ticket, if_pos hfiled, ?_⟩⟩
        · have hskipped : attempt.handled magic metadata email.files = email.files := by
            rw [Attempt.handled, not_isFiled_of_isOpen hstill, if_neg Bool.false_ne_true]
          rw [hskipped]
          exact hwaiting entry hentry
        · intro entry hentry hpath content hcontent
          obtain ⟨hstorage, hnone⟩ := hwaiting entry hentry
          have hhandled : attempt.handled magic metadata email.files = attachInboundFiles magic
              attempt.ticket attempt.access metadata { email.files with refused := [] } := by
            rw [Attempt.handled, if_pos (by exact hfiled), hfails, Option.getD_none,
              List.take_length]
          rw [hhandled]
          refine attachInboundFiles_kept hnodup hentry hpath (hstorage.trans hcontent) ?_ hnone
          exact hadmits hfiled entry hentry (by rw [hstorage, hcontent]; exact Option.some_ne_none _)
    · have hstep : step magic metadata email (.attempt attempt) = email := by
        simp only [step, processInboundEmail, Bool.eq_false_iff.mpr hopen]
        rfl
      rw [hstep]
      exact tended

end Laws

/--
An email that ends as filed has all its files, if no attempt fails that has moved one of them, and
the last one opens them all.
-/
theorem complete_of_admits (magic : Content → Option String) (metadata : List Meta) (email : Email)
    (received : Received metadata email) (events : List Event)
    (admitted : Every (step magic metadata) (Admits magic metadata) email events) :
    Always (step magic metadata) (Complete metadata email.files.storage) email events := by
  refine always_of_invariant _
    (fun _ (tended : Tended magic metadata email.files.storage _) => tended.complete)
    (fun _ => tended_step received.nodup) ⟨?_, ?_⟩ events admitted
  · refine fun _ entry hentry => ⟨rfl, List.filter_eq_nil_iff.mpr fun row hrow hsource => ?_⟩
    exact received.unattached entry hentry row hrow (of_decide_eq_true hsource)
  · intro hfiled
    rw [received.pending] at hfiled
    cases hfiled

def report : Meta where
  storagePath := "inbound_emails/1/report.pdf"
  filename := "report.pdf"

def waiting : Email where
  files.storage path := if path = report.storagePath then some [37, 80, 68, 70] else none

theorem received_waiting : Received [report] waiting where
  nodup := List.nodup_singleton _
  pending := rfl
  unattached _ _ _ hrow := absurd hrow List.not_mem_nil

/-- The first attempt finds the storage closed, and the second files the email. -/
theorem complete_of_admits_retry :
    Always (step (fun _ => some "application/pdf") [report])
      (Complete [report] waiting.files.storage) waiting
      [.attempt { status := .ticketCreated, ticket := 7, access := fun _ => { opens := false },
                  failsAfter := some 1 },
        .attempt { status := .ticketCreated, ticket := 7 }] :=
  complete_of_admits _ [report] waiting received_waiting _
    ⟨fun _ _ _ hentry => by rw [List.mem_singleton.mp hentry]; rfl, fun _ _ _ _ _ => rfl, trivial⟩

/-- An attempt that fails once the file is attached, and one that finds no file. -/
theorem not_always_complete :
    ¬ ∀ (magic : Content → Option String) (metadata : List Meta) (email : Email),
      Received metadata email → ∀ events : List Event,
        Always (step magic metadata) (Complete metadata email.files.storage) email events := by
  intro hall
  obtain ⟨-, -, hcomplete⟩ := hall (fun _ => some "application/pdf") [report] waiting
    received_waiting
    [.attempt { status := .ticketCreated, ticket := 7, failsAfter := some 1 },
      .attempt { status := .ticketCreated, ticket := 7 }]
  obtain ⟨ticket, -, hkept⟩ := hcomplete rfl
  rcases hkept report (List.mem_singleton_self _) (by decide) [37, 80, 68, 70] rfl with
    ⟨attachment, hrows, -⟩ | ⟨hrefused, -⟩
  · cases hrows
  · cases hrefused

end Kanzan.Mail.Attaching
