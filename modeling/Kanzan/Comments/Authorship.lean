import Kanzan.Comments.Threads

/-!
# Who writes what

The viewset shows an agent the public comments on the agent's own tickets.  Which requests of agents
write on such tickets only, and change no comment of somebody else.
-/

namespace Kanzan.Comments

open Attachments (ContentType Session)
open Support

/-! ## Rights -/

section Rights

variable (db : Db) (session : Session)

/-- A member whose level is above that of the managers. -/
def Db.IsAgent : Prop :=
  ∃ membership, db.membershipOf session = some membership ∧ 20 < membership.level session.now

/-- The user may see an object, a ticket, deleted or not; superusers see all of the tenant's. -/
def Db.maySee (target : ContentType × ℕ) : Bool :=
  target.1 == .ticket && db.tickets.any fun ticket =>
    ticket.id == target.2 && ticket.tenant == session.tenant &&
      (db.superusers.contains session.user ||
        Attachments.Db.agentCanSeeTicket session.user ticket)

def Db.MayChange (comment : Comment) : Prop :=
  comment.author = session.user ∨
    ∃ membership, db.membershipOf session = some membership ∧ membership.level session.now ≤ 20

end Rights

/-- What has been added, or moved to another object. -/
def Placed (before after : List Comment) (comment : Comment) : Prop :=
  comment ∈ after ∧ ∀ row ∈ before, row.id = comment.id → row.target ≠ comment.target

/-- A comment is still there, with its text, its object, its parent and its readers. -/
def Kept (after : List Comment) (comment : Comment) : Prop :=
  ∃ row ∈ after, row.id = comment.id ∧ row.body = comment.body ∧ row.target = comment.target ∧
    row.parent = comment.parent ∧ row.isInternal = comment.isInternal

/-- Agents write on tickets that they may see, and nobody changes what is not theirs to change. -/
structure Db.Respects (db : Db) (session : Session) (after : List Comment) : Prop where
  placed : db.IsAgent session → ∀ comment, Placed db.comments after comment →
    db.maySee session comment.target = true
  changed : ∀ comment ∈ db.comments, ¬ Kept after comment → db.MayChange session comment

/-- Every request respects the rights of its user. -/
def Confined (db : Db) (event : Event) : Prop :=
  match event with
  | .request session _ _ => db.Respects session (step db event).comments
  | .elsewhere _ => True

def Attrs.KeepsContent (attrs : Attrs) (comment : Comment) : Prop :=
  attrs.body.getD comment.body = comment.body ∧ attrs.KeepsTarget comment ∧
    (attrs.parent.map fun parent => parent.map fun row => row.id).getD comment.parent =
      comment.parent ∧
    attrs.isInternal.getD comment.isInternal = comment.isInternal

/--
What an agent's request has to meet if it is accepted: a new object is a ticket that the agent may
see, and what is changed or deleted is the agent's, the replies that go with it included.
-/
def Careful (db : Db) : Event → Prop
  | .request session _ (.create id (some submitted)) =>
    db.IsAgent session → ∀ attrs contentType objectId,
      db.validated session false submitted = .ok attrs → attrs.contentType = some contentType →
        attrs.objectId = some objectId → (∀ row ∈ db.comments, row.id ≠ id) →
          db.maySee session (contentType, objectId) = true
  | .request session filter (.update id patch (some submitted)) =>
    db.IsAgent session → ∀ comment attrs, db.getComment session filter id = some comment →
      db.validated session patch submitted = .ok attrs →
        (attrs.KeepsTarget comment ∨
          db.maySee session (comment.assign session.now attrs).target = true) ∧
        (attrs.KeepsContent comment ∨ comment.author = session.user)
  | .request session filter (.destroy id) =>
    db.IsAgent session → ∀ comment, db.getComment session filter id = some comment →
      db.hasContentObject comment = true → ∀ row ∈ db.comments,
        row.id ∈ cascade db.comments db.comments.length [comment.id] → row.author = session.user
  | _ => True

def Distinct (comments : List Comment) : Prop := (comments.map fun row => row.id).Nodup

variable {attrs : Attrs} {submitted : Submitted}

/-! ## What is placed and what is kept -/

section Tables

variable {comments : List Comment} {comment edited row : Comment}

theorem not_placed_self : ¬ Placed comments comments comment := fun placed =>
  placed.2 comment placed.1 rfl rfl

theorem kept_of_mem (hmem : comment ∈ comments) : Kept comments comment :=
  ⟨comment, hmem, rfl, rfl, rfl, rfl, rfl⟩

theorem Distinct.eq_of_id (distinct : Distinct comments) (hmem : comment ∈ comments) (hrow : row ∈ comments)
    (hid : row.id = comment.id) : row = comment :=
  List.inj_on_of_nodup_map distinct hrow hmem hid

theorem placed_append_iff (hfresh : ∀ row ∈ comments, row.id ≠ edited.id) :
    Placed comments (comments ++ [edited]) comment ↔ comment = edited := by
  constructor
  · rintro ⟨hmem, hnew⟩
    rcases List.mem_append.mp hmem with hold | hlast
    · exact absurd rfl (hnew comment hold rfl)
    · exact List.mem_singleton.mp hlast
  · rintro rfl
    exact ⟨List.mem_append_right _ (List.mem_singleton.mpr rfl),
      fun row hrow hid => absurd hid (hfresh row hrow)⟩

theorem placed_saved_iff (distinct : Distinct comments) (hmem : comment ∈ comments)
    (hid : edited.id = comment.id) :
    Placed comments (saved comments edited) row ↔ row = edited ∧ edited.target ≠ comment.target := by
  constructor
  · rintro ⟨hrow, hmoved⟩
    rcases (mem_saved hmem hid).mp hrow with rfl | ⟨hold, -⟩
    · exact ⟨rfl, (hmoved comment hmem hid.symm).symm⟩
    · exact absurd rfl (hmoved row hold rfl)
  · rintro ⟨rfl, hmoved⟩
    refine ⟨(mem_saved hmem hid).mpr (Or.inl rfl), fun old hold holdId => ?_⟩
    rw [distinct.eq_of_id hmem hold (holdId.trans hid)]
    exact hmoved.symm

theorem kept_saved_of_ne (hmem : comment ∈ comments) (hid : edited.id = comment.id)
    (hrow : row ∈ comments) (hother : row.id ≠ comment.id) : Kept (saved comments edited) row :=
  kept_of_mem ((mem_saved hmem hid).mpr (Or.inr ⟨hrow, hother⟩))

theorem kept_assign_iff {now : ℕ} (hmem : comment ∈ comments) :
    Kept (saved comments (comment.assign now attrs)) comment ↔ attrs.KeepsContent comment := by
  have hrow := @mem_saved comments comment (comment.assign now attrs)
  have hself : comment.assign now attrs ∈ saved comments (comment.assign now attrs) :=
    (hrow hmem rfl).mpr (Or.inl rfl)
  constructor
  · rintro ⟨after, hafter, hid, hbody, htarget, hparent, hinternal⟩
    rcases (hrow hmem rfl).mp hafter with rfl | ⟨-, hother⟩
    · exact ⟨hbody, target_assign.mp htarget, hparent, hinternal⟩
    · exact absurd hid hother
  · rintro ⟨hbody, htarget, hparent, hinternal⟩
    exact ⟨_, hself, rfl, hbody, target_assign.mpr htarget, hparent, hinternal⟩

theorem not_placed_deleted {id : ℕ} : ¬ Placed comments (deleted comments id) comment :=
  fun placed => not_placed_self ⟨(mem_deleted.mp placed.1).1, placed.2⟩

theorem kept_deleted_iff {id : ℕ} (hmem : comment ∈ comments) :
    Kept (deleted comments id) comment ↔
      comment.id ∉ cascade comments comments.length [id] := by
  constructor
  · rintro ⟨after, hafter, hid, -⟩
    rw [← hid]
    exact (mem_deleted.mp hafter).2
  · intro hleft
    exact kept_of_mem (mem_deleted.mpr ⟨hmem, hleft⟩)

end Tables

/-! ## Requests -/

section Requests

variable {db : Db} {session : Session} {filter : CommentFilter} {id : ℕ} {after : List Comment}
variable {comment : Comment}

theorem respects_self (db : Db) (session : Session) : db.Respects session db.comments where
  placed := fun _ _ placed => absurd placed not_placed_self
  changed := fun _ hmem hgone => absurd (kept_of_mem hmem) hgone

theorem respects_of_manager (hmember : ¬ (db.membershipOf session).isNone = true)
    (hmanager : ¬ db.IsAgent session) : db.Respects session after where
  placed := fun agent => absurd agent hmanager
  changed := by
    intro comment _ _
    cases hmembership : db.membershipOf session with
    | none =>
      rw [hmembership] at hmember
      exact absurd rfl hmember
    | some membership =>
      refine Or.inr ⟨membership, hmembership, Nat.not_lt.mp fun hlevel => ?_⟩
      exact hmanager ⟨membership, hmembership, hlevel⟩

theorem author_of_mayChange (agent : db.IsAgent session) (may : db.MayChange session comment) :
    comment.author = session.user := by
  obtain ⟨membership, hmembership, hlevel⟩ := agent
  rcases may with hauthor | ⟨other, hother, hle⟩
  · exact hauthor
  · rw [hmembership, Option.some.injEq] at hother
    subst hother
    exact absurd hlevel (Nat.not_lt.mpr hle)

theorem eq_of_validate {attrs' : Attrs} (hvalid : db.validate session attrs = .ok attrs') :
    attrs' = attrs := by
  unfold Db.validate at hvalid
  split at hvalid
  · cases hvalid
  · split at hvalid
    · split at hvalid
      · cases hvalid
      · split at hvalid
        · cases hvalid
        · exact (Except.ok.inj hvalid).symm
    · exact (Except.ok.inj hvalid).symm

theorem text_of_validated (hvalid : db.validated session false submitted = .ok attrs) :
    ∃ text, attrs.body = some text := by
  have hread : db.toInternalValue session false submitted = .ok attrs := by
    unfold Db.validated at hvalid
    cases hvalue : db.toInternalValue session false submitted with
    | error errors =>
      rw [hvalue] at hvalid
      cases hvalid
    | ok internal =>
      rw [hvalue] at hvalid
      rw [eq_of_validate hvalid]
  unfold Db.toInternalValue at hread
  dsimp only at hread
  split at hread
  · rename_i hbody _
    cases hread
    unfold readText at hbody
    split at hbody
    · cases hbody
    · split at hbody
      · cases hbody
      · exact ⟨_, (Except.ok.inj hbody).symm⟩
  · cases hread

theorem create_of_validated {contentType : ContentType} {objectId : ℕ}
    (hvalid : db.validated session false submitted = .ok attrs)
    (hcontent : attrs.contentType = some contentType) (hobject : attrs.objectId = some objectId)
    (hfresh : ∀ row ∈ db.comments, row.id ≠ id) :
    ∃ text, (db.create session id (some submitted)).2.comments =
      db.comments ++ [newComment session id attrs contentType objectId text] := by
  obtain ⟨text, htext⟩ := text_of_validated hvalid
  refine ⟨text, ?_⟩
  have hnone : ¬ (db.comments.any fun row => row.id == id) = true := by
    intro hany
    obtain ⟨row, hrow, hid⟩ := List.any_eq_true.mp hany
    exact hfresh row hrow (beq_iff_eq.mp hid)
  unfold Db.create
  dsimp only
  rw [hvalid]
  dsimp only
  rw [hcontent, hobject, htext]
  dsimp only
  rw [if_neg hnone]
  split <;> rfl

/-- A creation is within the rights of an agent if the object is a ticket that the agent may see. -/
theorem respects_create_iff (agent : db.IsAgent session) (body : Option Submitted) :
    db.Respects session (db.create session id body).2.comments ↔
      Careful db (.request session filter (.create id body)) := by
  constructor
  · intro respects
    cases body with
    | none => trivial
    | some submitted =>
      intro _ attrs contentType objectId hvalid hcontent hobject hfresh
      obtain ⟨text, hcreated⟩ := create_of_validated hvalid hcontent hobject hfresh
      rw [hcreated] at respects
      exact respects.placed agent _ ((placed_append_iff hfresh).mpr rfl)
  · intro careful
    rcases create_cases db session id body with
      hsame | ⟨submitted, attrs, contentType, objectId, text, rfl, hvalid, hcontent, hobject,
        hfresh, hcreated⟩
    · rw [hsame]
      exact respects_self db session
    · rw [hcreated]
      constructor
      · intro _ comment placed
        rw [(placed_append_iff hfresh).mp placed]
        exact careful agent attrs contentType objectId hvalid hcontent hobject hfresh
      · intro comment hmem hgone
        exact absurd (kept_of_mem (List.mem_append_left _ hmem)) hgone

theorem respects_saved_iff (distinct : Distinct db.comments) (agent : db.IsAgent session)
    (hmem : comment ∈ db.comments) :
    db.Respects session (saved db.comments (comment.assign session.now attrs)) ↔
      (attrs.KeepsTarget comment ∨
        db.maySee session (comment.assign session.now attrs).target = true) ∧
      (attrs.KeepsContent comment ∨ comment.author = session.user) := by
  have hplaced := @placed_saved_iff db.comments comment (comment.assign session.now attrs)
  constructor
  · intro respects
    constructor
    · by_cases hkeeps : attrs.KeepsTarget comment
      · exact Or.inl hkeeps
      · exact Or.inr (respects.placed agent _
          ((hplaced distinct hmem rfl).mpr ⟨rfl, mt target_assign.mp hkeeps⟩))
    · by_cases hkeeps : attrs.KeepsContent comment
      · exact Or.inl hkeeps
      · exact Or.inr (author_of_mayChange agent
          (respects.changed comment hmem (mt (kept_assign_iff hmem).mp hkeeps)))
  · rintro ⟨htarget, hauthor⟩
    constructor
    · intro _ row placed
      obtain ⟨rfl, hmoved⟩ := (hplaced distinct hmem rfl).mp placed
      rcases htarget with hkeeps | hsees
      · exact absurd (target_assign.mpr hkeeps) hmoved
      · exact hsees
    · intro row hrow hgone
      by_cases hid : row.id = comment.id
      · rw [distinct.eq_of_id hmem hrow hid] at hgone ⊢
        rcases hauthor with hkeeps | hauthor
        · exact absurd ((kept_assign_iff hmem).mpr hkeeps) hgone
        · exact Or.inl hauthor
      · have hkept : Kept (saved db.comments (comment.assign session.now attrs)) row :=
          kept_saved_of_ne hmem rfl hrow hid
        exact absurd hkept hgone

theorem respects_update_iff (distinct : Distinct db.comments) (agent : db.IsAgent session)
    (patch : Bool) (body : Option Submitted) :
    db.Respects session (db.update session filter id patch body).2.comments ↔
      Careful db (.request session filter (.update id patch body)) := by
  constructor
  · intro respects
    cases body with
    | none => trivial
    | some submitted =>
      intro _ comment attrs hget hvalid
      have hnext : (db.update session filter id patch (some submitted)).2.comments =
          saved db.comments (comment.assign session.now attrs) := by
        simp only [Db.update, hget, hvalid]
        rfl
      rw [hnext] at respects
      exact (respects_saved_iff distinct agent (mem_of_getComment hget).1).mp respects
  · intro careful
    rcases update_cases db session filter id patch body with
      hsame | ⟨submitted, comment, attrs, rfl, hget, hvalid, hnext⟩
    · rw [hsame]
      exact respects_self db session
    · rw [hnext]
      exact (respects_saved_iff distinct agent (mem_of_getComment hget).1).mpr
        (careful agent comment attrs hget hvalid)

/-- A deletion takes the replies along, whoever has written them. -/
theorem respects_destroy_iff (agent : db.IsAgent session) :
    db.Respects session (db.destroy session filter id).2.comments ↔
      Careful db (.request session filter (.destroy id)) := by
  constructor
  · intro respects _ comment hget hobject row hrow hgone
    have hnext : (db.destroy session filter id).2.comments = deleted db.comments comment.id := by
      simp only [Db.destroy, hget, if_pos hobject]
    rw [hnext] at respects
    refine author_of_mayChange agent (respects.changed row hrow fun hkept => ?_)
    exact (kept_deleted_iff hrow).mp hkept hgone
  · intro careful
    unfold Db.destroy
    cases hget : db.getComment session filter id with
    | none => exact respects_self db session
    | some comment =>
      by_cases hobject : db.hasContentObject comment = true
      · simp only [if_pos hobject]
        refine ⟨fun _ row placed => absurd placed not_placed_deleted, fun row hrow hgone => ?_⟩
        refine Or.inl (careful agent comment hget hobject row hrow ?_)
        exact not_not.mp (mt (kept_deleted_iff hrow).mpr hgone)
      · simp only [if_neg hobject]
        exact respects_self db session

theorem careful_of_not_agent (hagent : ¬ db.IsAgent session) (request : Request) :
    Careful db (.request session filter request) := by
  cases request with
  | create id body =>
    cases body with
    | none => trivial
    | some submitted => exact fun agent => absurd agent hagent
  | update id patch body =>
    cases body with
    | none => trivial
    | some submitted => exact fun agent => absurd agent hagent
  | destroy id => exact fun agent => absurd agent hagent

theorem confined_iff_careful (distinct : Distinct db.comments) (event : Event) :
    Confined db event ↔ Careful db event := by
  cases event with
  | elsewhere other => exact Iff.rfl
  | request session filter request =>
    by_cases hstranger : (db.membershipOf session).isNone = true
    · have hagent : ¬ db.IsAgent session := by
        rintro ⟨membership, hmembership, -⟩
        rw [hmembership] at hstranger
        cases hstranger
      refine ⟨fun _ => careful_of_not_agent hagent request, fun _ => ?_⟩
      dsimp only [Confined]
      rw [step_of_stranger filter request hstranger]
      exact respects_self db session
    · by_cases agent : db.IsAgent session
      · dsimp only [Confined]
        rw [step_of_member filter request hstranger]
        cases request with
        | create id body => exact respects_create_iff agent body
        | update id patch body => exact respects_update_iff distinct agent patch body
        | destroy id => exact respects_destroy_iff agent
      · exact ⟨fun _ => careful_of_not_agent agent request,
          fun _ => respects_of_manager hstranger agent⟩

theorem distinct_step (event : Event) (distinct : Distinct db.comments) :
    Distinct (step db event).comments := by
  cases event with
  | elsewhere other => exact distinct
  | request session filter request =>
    by_cases hstranger : (db.membershipOf session).isNone = true
    · rw [step_of_stranger filter request hstranger]
      exact distinct
    · rw [step_of_member filter request hstranger]
      cases request with
      | create id body =>
        rcases create_cases db session id body with
          hsame | ⟨submitted, attrs, contentType, objectId, text, -, -, -, -, hfresh, hcreated⟩
        · dsimp only
          rw [hsame]
          exact distinct
        · dsimp only
          rw [hcreated]
          unfold Distinct
          rw [List.map_append, List.map_singleton]
          refine List.nodup_append.mpr ⟨distinct, List.nodup_singleton _, ?_⟩
          intro key hkey other hother heq
          obtain ⟨row, hrow, rfl⟩ := List.mem_map.mp hkey
          exact hfresh row hrow (heq.trans (List.mem_singleton.mp hother))
      | update id patch body =>
        rcases update_cases db session filter id patch body with
          hsame | ⟨submitted, comment, attrs, -, -, -, hnext⟩
        · dsimp only
          rw [hsame]
          exact distinct
        · dsimp only
          rw [hnext]
          unfold Distinct
          rw [ids_saved]
          exact distinct
      | destroy id =>
        dsimp only
        unfold Db.destroy
        split
        · exact distinct
        · split
          · exact distinct.sublist (List.filter_sublist.map _)
          · exact distinct

end Requests

/--
In a run, agents write on tickets that they may see only, and nobody changes or deletes a comment
without being its author or a manager, if and only if the accepted requests of agents are careful.
-/
theorem every_confined_iff {db : Db} (distinct : Distinct db.comments) (events : List Event) :
    Every step Confined db events ↔ Every step Careful db events :=
  every_iff_every (fun _ event (distinct : Distinct _) _ => distinct_step event distinct)
    (fun _ event distinct => confined_iff_careful distinct event) distinct events

/-! ## An agent who writes elsewhere -/

/-- An agent with one ticket of two, on which an administrator has commented. -/
def shared : Db where
  memberships :=
    [{ user := "admin", tenant := 1,
       role := { id := 1, tenant := 1, slug := "admin", hierarchyLevel := 10 } },
     { user := "agent", tenant := 1,
       role := { id := 2, tenant := 1, slug := "agent", hierarchyLevel := 30 } }]
  contentTypes := [{ appLabel := "tickets", model := "ticket", contentType := .ticket }]
  tickets := [{ id := 7, tenant := 1, assignee := some "agent" }, { id := 8, tenant := 1 }]
  comments :=
    [{ id := 1, tenant := 1, contentType := .ticket, objectId := 7, author := "admin",
       body := "Call them back.", createdAt := 0, updatedAt := 0 }]

/-- The agent answers on the own ticket, and deletes the answer again. -/
theorem every_confined_shared :
    Every step Confined shared
      [.request ⟨"agent", 1, 1⟩ {}
        (.create 2 (some { contentType := some "tickets.ticket", objectId := some 7,
                           body := some "Done." })),
       .request ⟨"agent", 1, 2⟩ {} (.destroy 2)] := by
  have distinct : Distinct shared.comments := List.nodup_singleton 1
  refine (every_confined_iff distinct _).mpr ⟨?_, ?_, trivial⟩
  · intro _ attrs contentType objectId hvalid hcontent hobject _
    have hread : ((shared.validated ⟨"agent", 1, 1⟩ false
        { contentType := some "tickets.ticket", objectId := some 7,
          body := some "Done." }).toOption.map fun attrs => (attrs.contentType, attrs.objectId)) =
        some (some .ticket, some 7) := by
      decide +kernel
    rw [hvalid, Except.toOption, Option.map_some, hcontent, hobject] at hread
    cases hread
    decide
  · intro _ comment hget _ row hrow hgone
    rw [(mem_of_getComment hget).2] at hgone
    revert row
    decide +kernel

/-- An agent rewrites the comment of an administrator. -/
theorem not_every_confined :
    ¬ ∀ (db : Db) (events : List Event), Distinct db.comments → Every step Confined db events := by
  intro hall
  have hconfined := (hall shared [.request ⟨"agent", 1, 1⟩ {}
    (.update 1 true (some { body := some "Do not call them." }))] (List.nodup_singleton 1)).1
  have agent : shared.IsAgent ⟨"agent", 1, 1⟩ := ⟨_, rfl, by decide⟩
  have hbodies : (step shared (.request ⟨"agent", 1, 1⟩ {}
      (.update 1 true (some { body := some "Do not call them." })))).comments.map
        (fun row => row.body) = ["Do not call them."] := by
    decide +kernel
  have hauthor := author_of_mayChange agent (hconfined.changed _ List.mem_cons_self ?_)
  · exact absurd hauthor (by decide)
  · rintro ⟨row, hrow, -, hbody, -⟩
    have hmem := List.mem_map_of_mem (f := fun row : Comment => row.body) hrow
    rw [hbodies, List.mem_singleton, hbody] at hmem
    exact absurd hmem (by decide)

end Kanzan.Comments
