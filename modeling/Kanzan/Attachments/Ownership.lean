import Mathlib.Data.Fintype.EquivFin
import Kanzan.Attachments.Media

/-!
# Owners of the protected files

Which files the media view serves to users who are no members of the tenant that owns them.
-/

namespace Kanzan.Attachments

open Accounts (Membership)

/-! ## Owners -/

/--
The tables together with the storage: a file under the folder of a tenant belongs to that tenant,
and the rows that reference a file carry the tenant that it belongs to.
-/
structure Media extends Db where
  tenantFiles : ∀ stored ∈ files, ∀ key rest tenant, parts stored.path = "tenants" :: key :: rest →
    uuid key = some tenant → stored.tenant = some tenant
  exportFiles : ∀ stored ∈ files, ∀ job ∈ exportJobs, job.file = stored.path →
    job.tenant = stored.tenant
  articleFiles : ∀ stored ∈ files, ∀ article ∈ articles, article.file = stored.path →
    article.tenant = stored.tenant
  emailFiles : ∀ stored ∈ files, ∀ inbound ∈ inboundEmails, ∀ key rest,
    parts stored.path = "inbound_emails" :: key :: rest → uuid key = some inbound.id →
      inbound.tenant = stored.tenant

/-- Whether a path lies in one of the folders that hold the documents of tenants. -/
def isProtected (path : String) : Bool :=
  match parts path with
  | first :: second :: _ =>
    first == "tenants" && (second == "knowledge" || (uuid second).isSome) ||
      first == "exports" || first == "inbound_emails"
  | _ => false

/-- Whether no row is left that says to which tenant an export or the attachment of an email belongs. -/
def orphaned (db : Db) (path : String) : Bool :=
  match parts path with
  | first :: second :: _ =>
    if first = "exports" then db.exportJobs.all fun job => job.file != path
    else if first = "inbound_emails" then
      match uuid second with
      | none => false
      | some id => db.inboundEmails.all fun inbound => inbound.id != id
    else false
  | _ => false

/-- Whoever is served a protected file is a member of the tenant that owns it. -/
def MembersOnly (media : Media) (settings : Settings) (path : String) (now : ℕ) : Prop :=
  ∀ user location, ∀ stored ∈ media.files, isProtected stored.path = true →
    serveProtectedMedia media.toDb settings { user := some user, path, now } =
      .file stored.path location →
    ∃ tenant, stored.tenant = some tenant ∧ media.userIsTenantMember user tenant = true

/-! ## Paths -/

section Paths

variable {path : String}

theorem not_isProtected_of_public
    (hpublic : publicPrefixes.any (fun word => startsWith word path) = true) :
    isProtected path = false := by
  simp only [publicPrefixes, List.any_cons, List.any_nil, Bool.or_false, startsWith,
    List.isPrefixOf_iff_prefix] at hpublic
  obtain ⟨tail, htail⟩ := hpublic
  have hparts : parts path = "tenants" :: "logos" :: (splitSlashes tail []).map String.ofList := by
    rw [parts, ← htail]
    rfl
  have huuid : uuid "logos" = none := by decide +kernel
  rw [isProtected, hparts]
  simp only [huuid]
  decide

theorem not_escapes_of_head {c : Char} (hhead : path.toList.head? = some c) (hdot : c ≠ '.')
    (hslash : c ≠ '/') : escapes path = false := by
  have hother : ∀ word : String, word.toList.head? = some '.' ∨ word.toList.head? = some '/' →
      startsWith word path = false := by
    intro word hword
    by_contra hstarts
    rw [Bool.not_eq_false] at hstarts
    rcases hword with hword | hword
    · rw [head_of_startsWith hstarts hword] at hhead
      exact hdot (Option.some.inj hhead).symm
    · rw [head_of_startsWith hstarts hword] at hhead
      exact hslash (Option.some.inj hhead).symm
  have hname : path ≠ "." := by
    rintro rfl
    exact hdot (Option.some.inj hhead).symm
  rw [escapes, hother ".." (Or.inl rfl), hother "/" (Or.inr rfl), Bool.or_false, Bool.false_or]
  exact beq_eq_false_iff_ne.mpr hname

theorem not_escapes {first : String} {rest : List String} (hparts : parts path = first :: rest)
    (hfirst : first = "exports" ∨ first = "inbound_emails") : escapes path = false := by
  have hstarts := startsWith_of_parts hparts
  rcases hfirst with rfl | rfl
  · exact not_escapes_of_head (head_of_startsWith hstarts rfl) (by decide) (by decide)
  · exact not_escapes_of_head (head_of_startsWith hstarts rfl) (by decide) (by decide)

end Paths

theorem orphaned_iff {db : Db} {path : String} :
    orphaned db path = true ↔
      (∃ name rest, parts path = "exports" :: name :: rest ∧
        ∀ job ∈ db.exportJobs, job.file ≠ path) ∨
      ∃ key rest, parts path = "inbound_emails" :: key :: rest ∧
        ∃ id, uuid key = some id ∧ ∀ inbound ∈ db.inboundEmails, inbound.id ≠ id := by
  constructor
  · intro horphan
    unfold orphaned at horphan
    split at horphan
    · rename_i first second rest hparts
      split at horphan
      · rename_i hfirst
        subst hfirst
        refine Or.inl ⟨second, rest, hparts, fun job hmem => ?_⟩
        exact bne_iff_ne.mp (List.all_eq_true.mp horphan job hmem)
      · split at horphan
        · rename_i hfirst
          subst hfirst
          cases hkey : uuid second with
          | none => simp [hkey] at horphan
          | some id =>
            rw [hkey] at horphan
            refine Or.inr ⟨second, rest, hparts, id, hkey, fun inbound hmem => ?_⟩
            exact bne_iff_ne.mp (List.all_eq_true.mp horphan inbound hmem)
        · cases horphan
    · cases horphan
  · rintro (⟨name, rest, hparts, hjobs⟩ | ⟨key, rest, hparts, id, hkey, hrows⟩)
    · rw [orphaned, hparts]
      exact List.all_eq_true.mpr fun job hmem => bne_iff_ne.mpr (hjobs job hmem)
    · rw [orphaned, hparts]
      simp only [hkey]
      exact List.all_eq_true.mpr fun inbound hmem => bne_iff_ne.mpr (hrows inbound hmem)

theorem isProtected_of_orphaned {db : Db} {path : String} (horphan : orphaned db path = true) :
    isProtected path = true := by
  rcases orphaned_iff.mp horphan with ⟨name, rest, hparts, -⟩ | ⟨key, rest, hparts, -⟩
  · simp [isProtected, hparts]
  · simp [isProtected, hparts]

/-! ## Members -/

section Members

variable {db : Db} {now : ℕ} {user : String} {path : String}

theorem exists_outsider (db : Db) : ∃ user, ∀ tenant, db.userIsTenantMember user tenant = false := by
  obtain ⟨user, hout⟩ := Infinite.exists_notMem_finset (db.memberships.map Membership.user).toFinset
  refine ⟨user, fun tenant => ?_⟩
  rw [List.mem_toFinset] at hout
  have hnone : db.membershipOf user tenant = none := by
    refine List.find?_eq_none.mpr fun row hrow hof => hout ?_
    rw [Bool.and_eq_true, Membership.isOf, Bool.and_eq_true] at hof
    rw [← beq_iff_eq.mp hof.1.2]
    exact List.mem_map_of_mem hrow
  rw [Db.userIsTenantMember, hnone, Option.isSome_none]

theorem member_of_attachmentPath {tenant : ℕ}
    (hauthorized : db.attachmentPathAuthorized now user path tenant = true) :
    db.userIsTenantMember user tenant = true := by
  rw [Db.attachmentPathAuthorized] at hauthorized
  split at hauthorized
  · cases hauthorized
  · rename_i hmember
    rwa [Bool.not_eq_true, Bool.not_eq_false'] at hmember

theorem member_of_exportPath (hauthorized : db.exportPathAuthorized now user path = true) :
    (∀ job ∈ db.exportJobs, job.file ≠ path) ∨
      ∃ job ∈ db.exportJobs, job.file = path ∧
        ∃ tenant, job.tenant = some tenant ∧ db.userIsTenantMember user tenant = true := by
  rw [Db.exportPathAuthorized] at hauthorized
  cases hjob : db.exportJobs.find? fun job => job.file == path with
  | none =>
    refine Or.inl fun job hmem hfile => ?_
    exact List.find?_eq_none.mp hjob job hmem (beq_iff_eq.mpr hfile)
  | some job =>
    have hfile := List.find?_some hjob
    rw [hjob] at hauthorized
    refine Or.inr ⟨job, List.mem_of_find?_eq_some hjob, beq_iff_eq.mp hfile, ?_⟩
    cases htenant : job.tenant with
    | none => simp [htenant] at hauthorized
    | some tenant =>
      refine ⟨tenant, rfl, ?_⟩
      cases hmember : db.userIsTenantMember user tenant with
      | true => rfl
      | false => simp [htenant, hmember] at hauthorized

theorem member_of_knowledgePath (hauthorized : db.knowledgePathAuthorized now user path = true) :
    ∃ article ∈ db.articles, article.file = path ∧
      ∃ tenant, article.tenant = some tenant ∧ db.userIsTenantMember user tenant = true := by
  rw [Db.knowledgePathAuthorized] at hauthorized
  cases harticle : db.articles.find? fun article => article.file == path with
  | none => simp [harticle] at hauthorized
  | some article =>
    have hfile := List.find?_some harticle
    rw [harticle] at hauthorized
    refine ⟨article, List.mem_of_find?_eq_some harticle, beq_iff_eq.mp hfile, ?_⟩
    cases htenant : article.tenant with
    | none => simp [htenant] at hauthorized
    | some tenant =>
      refine ⟨tenant, rfl, ?_⟩
      cases hmember : db.userIsTenantMember user tenant with
      | true => rfl
      | false => simp [htenant, hmember] at hauthorized

theorem member_of_inboundPath {key : String}
    (hauthorized : db.inboundPathAuthorized user key = .ok true) :
    ∃ id, uuid key = some id ∧
      ((∀ inbound ∈ db.inboundEmails, inbound.id ≠ id) ∨
        ∃ inbound ∈ db.inboundEmails, inbound.id = id ∧
          ∃ tenant, inbound.tenant = some tenant ∧ db.userIsTenantMember user tenant = true) := by
  rw [Db.inboundPathAuthorized] at hauthorized
  cases hkey : uuid key with
  | none => simp [hkey] at hauthorized
  | some id =>
    rw [hkey] at hauthorized
    refine ⟨id, rfl, ?_⟩
    cases hinbound : db.inboundEmails.find? fun inbound => inbound.id == id with
    | none =>
      refine Or.inl fun inbound hmem hid => ?_
      exact List.find?_eq_none.mp hinbound inbound hmem (beq_iff_eq.mpr hid)
    | some inbound =>
      have hid := List.find?_some hinbound
      refine Or.inr ⟨inbound, List.mem_of_find?_eq_some hinbound, beq_iff_eq.mp hid, ?_⟩
      cases htenant : inbound.tenant with
      | none => simp [hinbound, htenant] at hauthorized
      | some tenant =>
        refine ⟨tenant, rfl, ?_⟩
        simpa [hinbound, htenant] using hauthorized

theorem isAuthorized_of_orphaned (now : ℕ) (user : String) (horphan : orphaned db path = true) :
    db.isAuthorized now user path = .ok true := by
  rcases orphaned_iff.mp horphan with ⟨name, rest, hparts, hjobs⟩ | ⟨key, rest, hparts, id, hkey, hrows⟩
  · have hnone : db.exportJobs.find? (fun job => job.file == path) = none :=
      List.find?_eq_none.mpr fun job hmem hfile => hjobs job hmem (beq_iff_eq.mp hfile)
    have hauthorized : db.exportPathAuthorized now user path = true := by
      rw [Db.exportPathAuthorized, hnone]
    rw [Db.isAuthorized, hparts]
    simp [hauthorized]
  · have hnone : db.inboundEmails.find? (fun inbound => inbound.id == id) = none :=
      List.find?_eq_none.mpr fun inbound hmem hid => hrows inbound hmem (beq_iff_eq.mp hid)
    have hauthorized : db.inboundPathAuthorized user key = .ok true := by
      simp only [Db.inboundPathAuthorized, hkey, hnone]
    rw [Db.isAuthorized, hparts]
    simp [hauthorized]

end Members

variable {stored : StoredFile} {location : Option String}

/-! ## The view -/

section View

variable {db : Db} {settings : Settings} {path : String} {user : String} {now : ℕ}

theorem serve_eq_file {stored : String} (hserve : serve db settings path = .file stored location) :
    stored = path := by
  unfold serve at hserve
  split at hserve
  · cases hserve
  · split at hserve
    · injection hserve with hpath
      exact hpath.symm
    · injection hserve with hpath
      exact hpath.symm

theorem serve_of_mem (settings : Settings) (hmem : stored ∈ db.files) :
    ∃ location, serve db settings stored.path = .file stored.path location := by
  have hexists : ¬ db.files.all (fun file => file.path != stored.path) = true := by
    intro hall
    have hother := List.all_eq_true.mp hall stored hmem
    simp at hother
  rw [serve, if_neg hexists]
  split
  · exact ⟨_, rfl⟩
  · exact ⟨_, rfl⟩

theorem isAuthorized_of_served {stored : String} (hprotected : isProtected stored = true)
    (hserved : serveProtectedMedia db settings { user := some user, path, now } =
      .file stored location) :
    stored = normpath path ∧ db.isAuthorized now user stored = .ok true := by
  unfold serveProtectedMedia at hserved
  simp only at hserved
  split at hserved
  · cases hserved
  · split at hserved
    · rename_i hpublic
      obtain rfl := serve_eq_file hserved
      rw [not_isProtected_of_public hpublic] at hprotected
      cases hprotected
    · split at hserved
      · cases hserved
      · cases hserved
      · rename_i hauthorized
        obtain rfl := serve_eq_file hserved
        exact ⟨rfl, hauthorized⟩

theorem served_of_orphaned (settings : Settings) (now : ℕ) (user : String)
    (hmem : stored ∈ db.files) (hpath : stored.path = normpath path)
    (horphan : orphaned db stored.path = true) :
    ∃ location, serveProtectedMedia db settings { user := some user, path, now } =
      .file stored.path location := by
  obtain ⟨location, hserve⟩ := serve_of_mem settings hmem
  refine ⟨location, ?_⟩
  have hescapes : escapes stored.path = false := by
    rcases orphaned_iff.mp horphan with ⟨name, rest, hparts, -⟩ | ⟨key, rest, hparts, -⟩
    · exact not_escapes hparts (Or.inl rfl)
    · exact not_escapes hparts (Or.inr rfl)
  have hpublic : publicPrefixes.any (fun word => startsWith word stored.path) = false := by
    rw [← Bool.not_eq_true]
    intro hpublic
    have hnot := not_isProtected_of_public hpublic
    rw [isProtected_of_orphaned horphan] at hnot
    cases hnot
  simp only [serveProtectedMedia, ← hpath, hescapes, hpublic, Bool.false_eq_true, if_false,
    isAuthorized_of_orphaned now user horphan, hserve]

end View

/-! ## Members only -/

/-- Whoever is authorised for a protected file that a row references is a member of its owner. -/
theorem member_of_authorized (media : Media) {now : ℕ} {user : String} (hmem : stored ∈ media.files)
    (hprotected : isProtected stored.path = true) (howned : orphaned media.toDb stored.path = false)
    (hauthorized : media.isAuthorized now user stored.path = .ok true) :
    ∃ tenant, stored.tenant = some tenant ∧ media.userIsTenantMember user tenant = true := by
  unfold isProtected at hprotected
  unfold Db.isAuthorized at hauthorized
  split at hprotected
  · rename_i first second rest hparts
    rw [hparts] at hauthorized
    by_cases htenants : first = "tenants"
    · simp only [if_pos htenants] at hauthorized
      subst htenants
      by_cases hknowledge : second = "knowledge"
      · rw [if_pos hknowledge] at hauthorized
        have hknown := Except.ok.inj hauthorized
        obtain ⟨article, hrow, hfile, tenant, htenant, hmember⟩ := member_of_knowledgePath hknown
        exact ⟨tenant, (media.articleFiles stored hmem article hrow hfile).symm.trans htenant, hmember⟩
      · cases hkey : uuid second with
        | none => simp [hknowledge, hkey] at hprotected
        | some tenant =>
          refine ⟨tenant, media.tenantFiles stored hmem second rest tenant hparts hkey, ?_⟩
          simp only [hknowledge, if_false, hkey] at hauthorized
          split at hauthorized
          · exact member_of_attachmentPath (Except.ok.inj hauthorized)
          · exact Except.ok.inj hauthorized
    · by_cases hexports : first = "exports"
      · simp only [if_neg htenants, if_pos hexports] at hauthorized
        rw [hexports] at hparts
        rcases member_of_exportPath (Except.ok.inj hauthorized) with hjobs | howner
        · rw [orphaned_iff.mpr (Or.inl ⟨second, rest, hparts, hjobs⟩)] at howned
          cases howned
        · obtain ⟨job, hrow, hfile, tenant, htenant, hmember⟩ := howner
          exact ⟨tenant, (media.exportFiles stored hmem job hrow hfile).symm.trans htenant, hmember⟩
      · by_cases hinbound : first = "inbound_emails"
        · simp only [if_neg htenants, if_neg hexports, if_pos hinbound] at hauthorized
          rw [hinbound] at hparts
          obtain ⟨id, hkey, hrows | howner⟩ := member_of_inboundPath hauthorized
          · rw [orphaned_iff.mpr (Or.inr ⟨second, rest, hparts, id, hkey, hrows⟩)] at howned
            cases howned
          · obtain ⟨inbound, hrow, rfl, tenant, htenant, hmember⟩ := howner
            have howns := media.emailFiles stored hmem inbound hrow second rest hparts hkey
            exact ⟨tenant, howns.symm.trans htenant, hmember⟩
        · simp [htenants, hexports, hinbound] at hprotected
  · cases hprotected

/--
The view keeps a path to the members of the owner exactly if the file under it, if one is stored, is
no export without a job and no attachment without an email.
-/
theorem membersOnly_iff (media : Media) (settings : Settings) (path : String) (now : ℕ) :
    MembersOnly media settings path now ↔
      ∀ stored ∈ media.files, stored.path = normpath path →
        orphaned media.toDb stored.path = false := by
  constructor
  · intro hmembers stored hmem hpath
    by_contra horphan
    rw [Bool.not_eq_false] at horphan
    obtain ⟨user, hout⟩ := exists_outsider media.toDb
    obtain ⟨location, hserved⟩ := served_of_orphaned settings now user hmem hpath horphan
    obtain ⟨tenant, -, hmember⟩ :=
      hmembers user location stored hmem (isProtected_of_orphaned horphan) hserved
    rw [hout tenant] at hmember
    cases hmember
  · intro howned user location stored hmem hprotected hserved
    obtain ⟨hpath, hauthorized⟩ := isAuthorized_of_served hprotected hserved
    exact member_of_authorized media hmem hprotected (howned stored hmem hpath) hauthorized

/-- The export of the second tenant, whose job is gone. -/
def strayExport : Media where
  files := [{ path := "exports/contacts.csv", tenant := some 2 }]
  tenantFiles := by
    intro stored hmem key rest tenant hparts huuid
    have hexports : parts "exports/contacts.csv" = ["exports", "contacts.csv"] := by decide +kernel
    rw [List.mem_singleton.mp hmem, hexports] at hparts
    exact absurd (List.cons.inj hparts).1 (by decide)
  exportFiles := fun _ _ _ hjob => absurd hjob List.not_mem_nil
  articleFiles := fun _ _ _ hrow => absurd hrow List.not_mem_nil
  emailFiles := fun _ _ _ hrow => absurd hrow List.not_mem_nil

/-- A user without any membership is served the export. -/
theorem not_membersOnly_strayExport :
    ¬ MembersOnly strayExport {} "exports/contacts.csv" 0 := by
  intro hmembers
  have hserved : serveProtectedMedia strayExport.toDb {}
      { user := some "guest", path := "exports/contacts.csv", now := 0 } =
        .file "exports/contacts.csv" none := by
    decide +kernel
  obtain ⟨tenant, -, hmember⟩ :=
    hmembers "guest" none _ (List.mem_singleton.mpr rfl) (by decide +kernel) hserved
  cases hmember

end Kanzan.Attachments
