import Kanzan.Attachments.Views

/-!
# Paths to an attachment

The list, the object check and the media view each decide on their own who sees an attachment.
-/

namespace Kanzan.Attachments

open Accounts (Membership)

/-- The view of the protected media lets a member have a file exactly if the object check does. -/
def MediaAgrees (library : Library) (settings : Settings) (session : Session) : Prop :=
  ∀ upload ∈ library.uploads, upload.tenant = session.tenant →
    serveProtectedMedia library.toDb settings
        { user := some session.user, path := upload.file, now := session.now } =
      if library.hasObjectPermission session upload = true then
        serve library.toDb settings upload.file
      else .forbidden "You do not have access to this file."

/-- Every attachment of the list passes the object check, and the media view agrees with it. -/
def AccessPathsAgree (library : Library) (settings : Settings) (session : Session)
    (filter : AttachmentFilter) : Prop :=
  (∀ upload ∈ library.listed library.uploads session filter,
    library.hasObjectPermission session upload = true) ∧
  MediaAgrees library settings session

/-! ## The path of an upload -/

section Path

theorem splitSlashes_append (text rest segment : List Char) (hslash : '/' ∉ text) :
    splitSlashes (text ++ '/' :: rest) segment =
      (segment.reverse ++ text) :: splitSlashes rest [] := by
  induction text generalizing segment with
  | nil => simp [splitSlashes]
  | cons c tail ih =>
    obtain ⟨hc, htail⟩ := not_or.mp (List.mem_cons.not.mp hslash)
    rw [List.cons_append, splitSlashes, if_neg (Ne.symm hc), ih (c :: segment) htail,
      List.reverse_cons, List.append_assoc, List.singleton_append]

theorem splitSlashes_last (text segment : List Char) (hslash : '/' ∉ text) :
    splitSlashes text segment = [segment.reverse ++ text] := by
  induction text generalizing segment with
  | nil => simp [splitSlashes]
  | cons c tail ih =>
    obtain ⟨hc, htail⟩ := not_or.mp (List.mem_cons.not.mp hslash)
    rw [splitSlashes, if_neg (Ne.symm hc), ih (c :: segment) htail, List.reverse_cons,
      List.append_assoc, List.singleton_append]

theorem parts_append (first rest : String) (hslash : '/' ∉ first.toList) :
    parts (first ++ "/" ++ rest) = first :: parts rest := by
  have hlist : (first ++ "/" ++ rest).toList = first.toList ++ '/' :: rest.toList := by
    rw [String.toList_append, String.toList_append, List.append_assoc]
    rfl
  rw [parts, hlist, splitSlashes_append _ _ _ hslash, List.map_cons, List.reverse_nil,
    List.nil_append, String.ofList_toList, parts]

theorem parts_last (text : String) (hslash : '/' ∉ text.toList) : parts text = [text] := by
  rw [parts, splitSlashes_last _ _ hslash, List.map_singleton, List.reverse_nil, List.nil_append,
    String.ofList_toList]

variable (tenant year month name : Segment)

theorem parts_uploadPath :
    parts (uploadPath tenant year month name) =
      ["tenants", tenant.text, "attachments", year.text, month.text, name.text] := by
  have hshape : uploadPath tenant year month name =
      "tenants" ++ "/" ++ (tenant.text ++ "/" ++ ("attachments" ++ "/" ++
        (year.text ++ "/" ++ (month.text ++ "/" ++ name.text)))) := by
    refine String.toList_injective ?_
    simp [uploadPath]
  rw [hshape, parts_append _ _ (by decide), parts_append _ _ tenant.noSlash,
    parts_append _ _ (by decide), parts_append _ _ year.noSlash, parts_append _ _ month.noSlash,
    parts_last _ name.noSlash]

theorem keepSegment_of_kept {rooted : Bool} {kept : List String} {segment : String}
    (hkept : segment ≠ "" ∧ segment ≠ "." ∧ segment ≠ "..") :
    keepSegment rooted kept segment = segment :: kept := by
  rw [keepSegment, if_neg (not_or.mpr ⟨hkept.1, hkept.2.1⟩), if_pos (Or.inl hkept.2.2)]

theorem head_uploadPath : (uploadPath tenant year month name).toList.head? = some 't' :=
  head_of_startsWith (startsWith_of_parts (parts_uploadPath tenant year month name)) rfl

theorem initialSlashes_of_head {c : Char} {text : List Char} (hhead : text.head? = some c)
    (hc : c ≠ '/') : initialSlashes text = 0 := by
  cases text with
  | nil => rfl
  | cons first rest =>
    obtain rfl := Option.some.inj hhead
    unfold initialSlashes
    split
    · rename_i heq
      exact absurd (List.cons.inj heq).1 hc
    · rename_i heq
      exact absurd (List.cons.inj heq).1 hc
    · rename_i heq
      exact absurd (List.cons.inj heq).1 hc
    · rfl

theorem normpath_uploadPath :
    normpath (uploadPath tenant year month name) = uploadPath tenant year month name := by
  have hhead := head_uploadPath tenant year month name
  have hne : uploadPath tenant year month name ≠ "" := by
    intro hempty
    rw [hempty] at hhead
    cases hhead
  have hjoined : String.ofList (List.replicate 0 '/') ++ "/".intercalate
      ["tenants", tenant.text, "attachments", year.text, month.text, name.text] =
        uploadPath tenant year month name := by
    refine String.toList_injective ?_
    simp [uploadPath, String.intercalate_cons_cons]
  rw [normpath, if_neg hne, initialSlashes_of_head hhead (by decide), parts_uploadPath]
  simp only [List.foldl_cons, List.foldl_nil, keepSegment_of_kept tenant.kept,
    keepSegment_of_kept year.kept, keepSegment_of_kept month.kept, keepSegment_of_kept name.kept,
    keepSegment_of_kept (show "tenants" ≠ "" ∧ "tenants" ≠ "." ∧ "tenants" ≠ ".." by decide),
    keepSegment_of_kept
      (show "attachments" ≠ "" ∧ "attachments" ≠ "." ∧ "attachments" ≠ ".." by decide),
    List.reverse_cons, List.reverse_nil, List.nil_append, List.cons_append, hjoined, if_neg hne]

end Path

/-- The file of the agent, under the folder of the first tenant. -/
def scan : String :=
  uploadPath ⟨"00000000-0000-0000-0000-000000000001", by decide, by decide⟩
    ⟨"2026", by decide, by decide⟩ ⟨"05", by decide, by decide⟩
    ⟨"a1b2c3d4e5f6_scan.pdf", by decide, by decide⟩

/-- An upload of the agent to the seventh ticket. -/
def scanUpload : Upload where
  file := scan
  tenant := 1
  contentType := .ticket
  objectId := 7
  id := 1
  originalName := "scan.pdf"
  mimeType := "application/pdf"
  sizeBytes := 2048
  uploadedBy := "agent"
  createdAt := 0

/-- The role of an agent in the first tenant. -/
def agentRole : Accounts.Role where
  id := 3
  tenant := 1
  slug := "agent"
  hierarchyLevel := 30

/-- The ticket of the upload is somebody else's by now. -/
def reassigned : Library where
  memberships := [{ user := "agent", tenant := 1, role := agentRole }]
  tickets := [{ id := 7, tenant := 1, assignee := some "other", createdBy := some "manager" }]
  attachments := [scanUpload.toAttachment]
  uploads := [scanUpload]
  rows := rfl
  ids := List.nodup_singleton _
  names := List.nodup_singleton _
  stored := by
    intro upload hmem
    rw [List.mem_singleton.mp hmem]
    exact ⟨_, _, _, _, by decide +kernel, rfl⟩
  ticketIds := List.nodup_singleton _

/-- The list still shows the agent his file, and the object check refuses it. -/
theorem not_accessPathsAgree_reassigned :
    ¬ AccessPathsAgree reassigned {} { user := "agent", tenant := 1, now := 0 } {} := by
  rintro ⟨hlisted, -⟩
  have hmem : reassigned.listed reassigned.uploads { user := "agent", tenant := 1, now := 0 } {} =
      [scanUpload] := by rfl
  have hpermission := hlisted scanUpload (by rw [hmem]; exact List.mem_singleton.mpr rfl)
  revert hpermission
  decide

/-! ## Agreement -/

section Agreement

variable {library : Library} {session : Session} {upload other : Upload}

theorem Library.eq_of_file (library : Library) (hmem : upload ∈ library.uploads)
    (hother : other ∈ library.uploads) (hfile : other.file = upload.file) : other = upload :=
  List.inj_on_of_nodup_map library.names hother hmem hfile

theorem Library.find_attachment (library : Library) (hmem : upload ∈ library.uploads) :
    library.attachments.find? (fun row => row.file == upload.file) = some upload.toAttachment := by
  rw [library.rows, List.find?_map]
  cases hfind : library.uploads.find? ((fun row : Attachment => row.file == upload.file) ∘
      Upload.toAttachment) with
  | none =>
    have hother := List.find?_eq_none.mp hfind upload hmem
    exact absurd (beq_self_eq_true upload.file) hother
  | some other =>
    have hfile := List.find?_some hfind
    rw [Function.comp_apply, beq_iff_eq] at hfile
    rw [library.eq_of_file hmem (List.mem_of_find?_eq_some hfind) hfile, Option.map_some]

/-- A ticket that the list may show an attachment of is one that the object check finds. -/
theorem Library.canAccessTarget_of_visible (library : Library)
    (hvisible : upload.objectId ∈ library.visibleTicketIds session)
    (hticket : upload.contentType = .ticket) :
    library.hasObjectPermission session upload = true := by
  obtain ⟨ticket, hrow, hid, htenant, hdeleted, hsee⟩ := mem_visibleTicketIds.mp hvisible
  by_cases hlevel : library.effectiveLevel session.now session.user session.tenant ≤ 20
  · exact hasObjectPermission_of_manager upload hlevel
  · simp only [Db.hasObjectPermission, Db.canAccessTarget, hticket, if_neg hlevel]
    cases hfind : library.tickets.find? fun ticket =>
        ticket.id == upload.objectId && ticket.tenant == session.tenant && !ticket.isDeleted with
    | none =>
      have hnot := List.find?_eq_none.mp hfind ticket hrow
      simp [hid, htenant, hdeleted] at hnot
    | some found =>
      have hfound := List.find?_some hfind
      simp only [Bool.and_eq_true, beq_iff_eq] at hfound
      have hsame : found = ticket :=
        List.inj_on_of_nodup_map library.ticketIds (List.mem_of_find?_eq_some hfind) hrow
          (hfound.1.1.trans hid.symm)
      rw [hsame]
      exact hsee

theorem Library.hasObjectPermission_of_listed (library : Library) {filter : AttachmentFilter}
    {membership : Membership}
    (hmember : library.membershipOf session.user session.tenant = some membership)
    (hmem : upload ∈ library.listed library.uploads session filter)
    (hother : upload.uploadedBy ≠ session.user) :
    library.hasObjectPermission session upload = true := by
  obtain ⟨-, -, hlevel | hown | ⟨hticket, hvisible⟩⟩ := mem_listed hmember hmem
  · rw [← effectiveLevel_of_member hmember] at hlevel
    exact hasObjectPermission_of_manager upload hlevel
  · exact absurd hown hother
  · exact library.canAccessTarget_of_visible hvisible hticket

theorem Library.isAuthorized_upload (library : Library) (hmem : upload ∈ library.uploads)
    (htenant : upload.tenant = session.tenant)
    (hmember : library.userIsTenantMember session.user session.tenant = true) :
    library.isAuthorized session.now session.user upload.file =
      .ok (library.hasObjectPermission session upload) := by
  obtain ⟨tenant, year, month, name, huuid, hfile⟩ := library.stored upload hmem
  have hknowledge : tenant.text ≠ "knowledge" := by
    intro hname
    have hnone : uuid "knowledge" = none := by decide +kernel
    rw [hname, hnone] at huuid
    cases huuid
  have hpath : library.attachmentPathAuthorized session.now session.user upload.file
      upload.tenant = library.hasObjectPermission session upload := by
    rw [Db.attachmentPathAuthorized, htenant, hmember, library.find_attachment hmem]
    simp only [Bool.not_true, Bool.false_eq_true, if_false, htenant, Db.hasObjectPermission]
  rw [Db.isAuthorized, hfile, parts_uploadPath]
  simp only [if_true, if_neg hknowledge, huuid, List.head?_cons, ← hfile, hpath]

/-- The media view lets a member have the file of an attachment exactly if the object check does. -/
theorem Library.mediaAgrees (library : Library) (settings : Settings)
    (hmember : library.userIsTenantMember session.user session.tenant = true) :
    MediaAgrees library settings session := by
  intro upload hmem htenant
  have hauthorized := library.isAuthorized_upload hmem htenant hmember
  obtain ⟨tenant, year, month, name, huuid, hfile⟩ := library.stored upload hmem
  have hnormal : normpath upload.file = upload.file := by
    rw [hfile, normpath_uploadPath]
  have hescapes : escapes upload.file = false := by
    rw [hfile]
    exact not_escapes_of_head (head_uploadPath tenant year month name) (by decide) (by decide)
  have hpublic : publicPrefixes.any (fun word => startsWith word upload.file) = false := by
    rw [← Bool.not_eq_true]
    intro hpublic
    have hprotected := not_isProtected_of_public hpublic
    rw [isProtected, hfile, parts_uploadPath] at hprotected
    simp [huuid] at hprotected
  cases hpermission : library.hasObjectPermission session upload with
  | false =>
    rw [hpermission] at hauthorized
    simp only [serveProtectedMedia, hnormal, hescapes, hpublic, hauthorized, Bool.false_eq_true,
      if_false]
  | true =>
    rw [hpermission] at hauthorized
    simp only [serveProtectedMedia, hnormal, hescapes, hpublic, hauthorized, Bool.false_eq_true,
      if_false, if_true]

end Agreement

/--
Every attachment that the list shows to a member is his own upload or passes the object check, and
the media view lets him have a file exactly if the object check does.
-/
theorem listed_own_or_permitted (library : Library) (settings : Settings) (session : Session)
    (filter : AttachmentFilter)
    (hmember : library.userIsTenantMember session.user session.tenant = true) :
    (∀ upload ∈ library.listed library.uploads session filter,
      upload.uploadedBy = session.user ∨ library.hasObjectPermission session upload = true) ∧
    MediaAgrees library settings session := by
  refine ⟨fun upload hmem => ?_, library.mediaAgrees settings hmember⟩
  obtain ⟨membership, hfound⟩ := Option.isSome_iff_exists.mp hmember
  by_cases hown : upload.uploadedBy = session.user
  · exact Or.inl hown
  · exact Or.inr (library.hasObjectPermission_of_listed hfound hmem hown)

/-- The agent of the reassigned ticket is a member. -/
theorem listed_own_or_permitted_reassigned :
    (∀ upload ∈ reassigned.listed reassigned.uploads { user := "agent", tenant := 1, now := 0 } {},
      upload.uploadedBy = "agent" ∨ reassigned.hasObjectPermission
        { user := "agent", tenant := 1, now := 0 } upload = true) ∧
    MediaAgrees reassigned {} { user := "agent", tenant := 1, now := 0 } :=
  listed_own_or_permitted reassigned {} { user := "agent", tenant := 1, now := 0 } {} (by decide)

end Kanzan.Attachments
