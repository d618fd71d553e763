import Kanzan.Comments.Views
import Kanzan.Support.Runs

/-!
# Threads

A reply is about the object of its parent, and a parent is no reply.  Which requests keep it so.
-/

namespace Kanzan.Comments

open Attachments (ContentType Session)
open Support

/-! ## Threads -/

/-- Every reply has another comment as its parent, a top-level one on the same object. -/
def Threaded (comments : List Comment) : Prop :=
  ∀ reply ∈ comments, ∀ key, reply.parent = some key →
    ∃ parent ∈ comments, parent.id = key ∧ parent.id ≠ reply.id ∧ parent.parent = none ∧
      parent.target = reply.target

def IsThreaded (db : Db) : Prop := Threaded db.comments

def HasReplies (comments : List Comment) (comment : Comment) : Prop :=
  ∃ reply ∈ comments, reply.parent = some comment.id

def Attrs.KeepsTarget (attrs : Attrs) (comment : Comment) : Prop :=
  attrs.contentType.getD comment.contentType = comment.contentType ∧
    attrs.objectId.getD comment.objectId = comment.objectId

/--
A parent is given neither to a comment that has replies nor to itself, and the object stays the same
if the comment has replies, or a parent that the body leaves.
-/
def KeepsThread (comments : List Comment) (comment : Comment) (attrs : Attrs) : Prop :=
  (∀ parent, attrs.parent = some (some parent) →
    parent.id ≠ comment.id ∧ ¬ HasReplies comments comment) ∧
  (HasReplies comments comment ∨ attrs.parent = none ∧ comment.parent ≠ none →
    attrs.KeepsTarget comment)

/-- What an update has to meet if it is accepted; nothing else has to meet anything. -/
def Admits (db : Db) : Event → Prop
  | .request session filter (.update id patch (some submitted)) =>
    ∀ comment attrs, (db.membershipOf session).isSome = true →
      db.getComment session filter id = some comment →
      db.validated session patch submitted = .ok attrs → KeepsThread db.comments comment attrs
  | _ => True

/-- Threads of comments whose keys differ. -/
structure Sound (comments : List Comment) : Prop where
  threaded : Threaded comments
  ids : (comments.map fun row => row.id).Nodup

theorem Sound.eq_of_id {comments : List Comment} (sound : Sound comments) {first second : Comment}
    (hfirst : first ∈ comments) (hsecond : second ∈ comments) (hid : first.id = second.id) :
    first = second :=
  List.inj_on_of_nodup_map sound.ids hfirst hsecond hid

/-! ## Validation -/

/-- A parent of the body is a top-level comment on the object of the body. -/
def Attrs.FitsParent (attrs : Attrs) (comments : List Comment) : Prop :=
  ∀ parent, attrs.parent = some (some parent) →
    parent ∈ comments ∧ parent.parent = none ∧ attrs.contentType = some parent.contentType ∧
      attrs.objectId = some parent.objectId

variable {parent : Comment}

section Validation

variable {db : Db} {session : Session} {patch : Bool} {submitted : Submitted} {attrs : Attrs}

theorem mem_of_readParent {value : Option (Option ℕ)}
    (hread : db.readParent session value = .ok (some (some parent))) : parent ∈ db.comments := by
  unfold Db.readParent at hread
  split at hread
  · cases hread
  · cases hread
  · split at hread
    · rename_i hfind
      cases hread
      exact List.mem_of_mem_filter (List.mem_of_find?_eq_some hfind)
    · cases hread

theorem parent_of_toInternalValue (hvalue : db.toInternalValue session patch submitted = .ok attrs)
    (hparent : attrs.parent = some (some parent)) : parent ∈ db.comments := by
  unfold Db.toInternalValue at hvalue
  simp only at hvalue
  split at hvalue
  · rename_i hread
    cases hvalue
    exact mem_of_readParent (hread.trans (congrArg Except.ok hparent))
  · cases hvalue

theorem fitsParent_of_validated (hvalid : db.validated session patch submitted = .ok attrs) :
    attrs.FitsParent db.comments := by
  intro parent hparent
  unfold Db.validated at hvalid
  split at hvalid
  · cases hvalid
  · rename_i internal hvalue
    unfold Db.validate at hvalid
    split at hvalid
    · cases hvalid
    · split at hvalid
      · rename_i found hfound
        split at hvalid
        · cases hvalid
        · rename_i hsame
          split at hvalid
          · cases hvalid
          · rename_i htop
            cases hvalid
            rw [hparent] at hfound
            cases hfound
            rw [not_or, not_ne_iff, not_ne_iff] at hsame
            rw [Option.not_isSome_iff_eq_none] at htop
            exact ⟨parent_of_toInternalValue hvalue hparent, htop, hsame.1.symm, hsame.2.symm⟩
      · rename_i hother
        cases hvalid
        exact absurd hparent (hother parent)

end Validation

/-! ## Creation -/

section Creation

variable {comments : List Comment} {comment : Comment}

theorem Sound.append (sound : Sound comments) (hnew : ∀ row ∈ comments, row.id ≠ comment.id)
    (hparent : ∀ key, comment.parent = some key → ∃ parent ∈ comments, parent.id = key ∧
      parent.parent = none ∧ parent.target = comment.target) :
    Sound (comments ++ [comment]) where
  threaded := by
    intro reply hreply key hkey
    rcases List.mem_append.mp hreply with hold | hlast
    · obtain ⟨parent, hmem, hrest⟩ := sound.threaded reply hold key hkey
      exact ⟨parent, List.mem_append_left _ hmem, hrest⟩
    · rw [List.mem_singleton] at hlast
      subst hlast
      obtain ⟨parent, hmem, hid, htop, htarget⟩ := hparent key hkey
      exact ⟨parent, List.mem_append_left _ hmem, hid, hnew parent hmem, htop, htarget⟩
  ids := by
    rw [List.map_append, List.map_singleton]
    refine List.nodup_append.mpr ⟨sound.ids, List.nodup_singleton _, ?_⟩
    intro key hkey other hother heq
    obtain ⟨row, hrow, rfl⟩ := List.mem_map.mp hkey
    rw [List.mem_singleton] at hother
    exact hnew row hrow (heq.trans hother)

theorem create_cases (db : Db) (session : Session) (id : ℕ) (body : Option Submitted) :
    (db.create session id body).2.comments = db.comments ∨
      ∃ submitted attrs contentType objectId text, body = some submitted ∧
        db.validated session false submitted = .ok attrs ∧ attrs.contentType = some contentType ∧
        attrs.objectId = some objectId ∧ (∀ row ∈ db.comments, row.id ≠ id) ∧
        (db.create session id body).2.comments =
          db.comments ++ [newComment session id attrs contentType objectId text] := by
  unfold Db.create
  split
  · exact Or.inl rfl
  · rename_i submitted
    split
    · exact Or.inl rfl
    · rename_i attrs hvalid
      split
      · rename_i contentType objectId text hcontent hobject _
        dsimp only
        split
        · exact Or.inl rfl
        · rename_i hfree
          have hfresh : ∀ row ∈ db.comments, row.id ≠ id := by
            intro row hrow hid
            exact hfree (List.any_eq_true.mpr ⟨row, hrow, beq_iff_eq.mpr hid⟩)
          refine Or.inr ⟨submitted, attrs, contentType, objectId, text, rfl, hvalid, hcontent,
            hobject, hfresh, ?_⟩
          split <;> rfl
      · exact Or.inl rfl

theorem sound_create {db : Db} (session : Session) (id : ℕ) (body : Option Submitted)
    (sound : Sound db.comments) : Sound (db.create session id body).2.comments := by
  rcases create_cases db session id body with
    hsame | ⟨submitted, attrs, contentType, objectId, text, -, hvalid, hcontent, hobject, hfresh,
      hcreated⟩
  · rw [hsame]
    exact sound
  · rw [hcreated]
    refine sound.append hfresh fun key hkey => ?_
    obtain ⟨parent, hparent, rfl⟩ := Option.map_eq_some_iff.mp hkey
    have hgiven : attrs.parent = some (some parent) := by
      cases hcase : attrs.parent with
      | none => simp [hcase] at hparent
      | some value => simpa [hcase] using hparent
    obtain ⟨hmem, htop, hct, hoid⟩ := fitsParent_of_validated hvalid parent hgiven
    refine ⟨parent, hmem, rfl, htop, ?_⟩
    rw [hcontent] at hct
    rw [hobject] at hoid
    cases hct
    cases hoid
    rfl

end Creation

/-! ## Updates -/

section Update

variable {comments : List Comment} {comment : Comment} {attrs : Attrs} {now : ℕ}

def saved (comments : List Comment) (edited : Comment) : List Comment :=
  comments.map fun row => if row.id = edited.id then edited else row

theorem mem_saved {edited row : Comment} (hmem : comment ∈ comments)
    (hid : edited.id = comment.id) :
    row ∈ saved comments edited ↔ row = edited ∨ row ∈ comments ∧ row.id ≠ comment.id := by
  constructor
  · intro hrow
    obtain ⟨old, hold, hnew⟩ := List.mem_map.mp hrow
    split at hnew
    · exact Or.inl hnew.symm
    · rename_i hother
      subst hnew
      exact Or.inr ⟨hold, hid ▸ hother⟩
  · rintro (rfl | ⟨hold, hother⟩)
    · exact List.mem_map.mpr ⟨comment, hmem, if_pos hid.symm⟩
    · exact List.mem_map.mpr ⟨row, hold, if_neg (hid ▸ hother)⟩

theorem target_assign :
    (comment.assign now attrs).target = comment.target ↔ attrs.KeepsTarget comment := by
  rw [Comment.target, Comment.target, Prod.mk.injEq]
  exact Iff.rfl

theorem parent_assign_eq_some {key : ℕ} :
    (comment.assign now attrs).parent = some key ↔
      attrs.parent = none ∧ comment.parent = some key ∨
        ∃ parent, attrs.parent = some (some parent) ∧ parent.id = key := by
  unfold Comment.assign
  cases attrs.parent with
  | none => simp
  | some value =>
    cases value with
    | none => simp
    | some parent => simp

theorem parent_assign_eq_none (hparent : comment.parent = none)
    (hgiven : ∀ parent, attrs.parent ≠ some (some parent)) :
    (comment.assign now attrs).parent = none := by
  rw [Option.eq_none_iff_forall_not_mem]
  intro key hkey
  rcases parent_assign_eq_some.mp hkey with ⟨-, hold⟩ | ⟨parent, hnew, -⟩
  · rw [hparent] at hold
    cases hold
  · exact hgiven parent hnew

theorem exists_parent_of_keeps (sound : Sound comments) (hmem : comment ∈ comments)
    (hfits : attrs.FitsParent comments) (hkeeps : KeepsThread comments comment attrs) {key : ℕ}
    (hkey : (comment.assign now attrs).parent = some key) :
    ∃ parent ∈ comments, parent.id = key ∧ parent.id ≠ comment.id ∧ parent.parent = none ∧
      parent.target = (comment.assign now attrs).target := by
  rcases parent_assign_eq_some.mp hkey with ⟨hleft, hold⟩ | ⟨parent, hnew, rfl⟩
  · obtain ⟨parent, hparent, hid, hother, htop, htarget⟩ := sound.threaded comment hmem key hold
    have hsame : attrs.KeepsTarget comment := by
      refine hkeeps.2 (Or.inr ⟨hleft, ?_⟩)
      rw [hold]
      nofun
    exact ⟨parent, hparent, hid, hother, htop, htarget.trans (target_assign.mpr hsame).symm⟩
  · obtain ⟨hparent, htop, hcontent, hobject⟩ := hfits parent hnew
    refine ⟨parent, hparent, rfl, (hkeeps.1 parent hnew).1, htop, ?_⟩
    rw [Comment.target, Comment.target, Comment.assign, hcontent, hobject, Option.getD_some,
      Option.getD_some]

theorem threaded_saved_iff (sound : Sound comments) (hmem : comment ∈ comments)
    (hfits : attrs.FitsParent comments) :
    Threaded (saved comments (comment.assign now attrs)) ↔ KeepsThread comments comment attrs := by
  have hrow := @mem_saved comments comment (comment.assign now attrs)
  have hself : comment.assign now attrs ∈ saved comments (comment.assign now attrs) :=
    (hrow hmem rfl).mpr (Or.inl rfl)
  constructor
  · intro hthreaded
    -- a reply is another comment, and finds its parent changed
    have hreplies : HasReplies comments comment →
        (comment.assign now attrs).parent = none ∧ attrs.KeepsTarget comment := by
      rintro ⟨reply, hreply, hkey⟩
      obtain ⟨old, hold, hid, hother, -, htarget⟩ := sound.threaded reply hreply _ hkey
      obtain rfl := sound.eq_of_id hold hmem hid
      obtain ⟨parent, hparent, hid', -, htop, htarget'⟩ :=
        hthreaded reply ((hrow hmem rfl).mpr (Or.inr ⟨hreply, hother.symm⟩)) _ hkey
      rcases (hrow hmem rfl).mp hparent with rfl | ⟨-, hne⟩
      · exact ⟨htop, target_assign.mp (htarget'.trans htarget.symm)⟩
      · exact absurd hid' hne
    have hgiven : ∀ parent, attrs.parent = some (some parent) →
        (comment.assign now attrs).parent = some parent.id := fun parent hparent =>
      parent_assign_eq_some.mpr (Or.inr ⟨parent, hparent, rfl⟩)
    refine ⟨fun parent hparent => ⟨?_, fun hhas => ?_⟩, ?_⟩
    · obtain ⟨found, -, hid, hother, -⟩ := hthreaded _ hself _ (hgiven parent hparent)
      exact hid ▸ hother
    · have hkey := hgiven parent hparent
      rw [(hreplies hhas).1] at hkey
      cases hkey
    · rintro (hhas | ⟨hleft, hparent⟩)
      · exact (hreplies hhas).2
      · obtain ⟨key, hkey⟩ := Option.ne_none_iff_exists'.mp hparent
        obtain ⟨old, hold, hid, -, -, htarget⟩ := sound.threaded comment hmem key hkey
        obtain ⟨found, hfound, hid', hother, -, htarget'⟩ :=
          hthreaded _ hself key (parent_assign_eq_some.mpr (Or.inl ⟨hleft, hkey⟩))
        rcases (hrow hmem rfl).mp hfound with rfl | ⟨hfound, -⟩
        · exact absurd rfl hother
        · obtain rfl := sound.eq_of_id hfound hold (hid'.trans hid.symm)
          exact target_assign.mp (htarget'.symm.trans htarget)
  · intro hkeeps reply hreply key hkey
    rcases (hrow hmem rfl).mp hreply with rfl | ⟨hold, -⟩
    · obtain ⟨parent, hparent, hid, hne, hrest⟩ :=
        exists_parent_of_keeps sound hmem hfits hkeeps hkey
      exact ⟨parent, (hrow hmem rfl).mpr (Or.inr ⟨hparent, hne⟩), hid, hne, hrest⟩
    · obtain ⟨parent, hparent, hid, hne, htop, htarget⟩ := sound.threaded reply hold key hkey
      by_cases hsame : parent.id = comment.id
      · obtain rfl := sound.eq_of_id hparent hmem hsame
        have hhas : HasReplies comments parent := ⟨reply, hold, hid ▸ hkey⟩
        refine ⟨_, hself, hid, hne, ?_, ?_⟩
        · exact parent_assign_eq_none htop fun given hgiven => (hkeeps.1 given hgiven).2 hhas
        · exact (target_assign.mpr (hkeeps.2 (Or.inl hhas))).trans htarget
      · exact ⟨parent, (hrow hmem rfl).mpr (Or.inr ⟨hparent, hsame⟩), hid, hne, htop, htarget⟩

theorem ids_saved (edited : Comment) :
    (saved comments edited).map (fun row => row.id) = comments.map fun row => row.id := by
  rw [saved, List.map_map]
  refine List.map_congr_left fun row hrow => ?_
  rw [Function.comp_apply]
  split
  · rename_i hid
    exact hid.symm
  · rfl

end Update

/-! ## Deletions -/

section Deletion

variable {comments : List Comment} {ids : List ℕ} {key : ℕ} {level : ℕ}

theorem subset_cascade : ids ⊆ cascade comments level ids := by
  induction level generalizing ids with
  | zero => exact List.Subset.refl ids
  | succ level ih => exact List.Subset.trans (List.subset_append_left _ _) ih

theorem mem_cascade (hmem : key ∈ cascade comments level ids) :
    key ∈ ids ∨ ∃ comment ∈ comments, comment.id = key ∧ comment.parent ≠ none := by
  induction level generalizing ids with
  | zero => exact Or.inl hmem
  | succ level ih =>
    rcases ih hmem with hnext | hreply
    · rcases List.mem_append.mp hnext with hgiven | hfound
      · exact Or.inl hgiven
      · obtain ⟨comment, hrow, hid⟩ := List.mem_map.mp hfound
        obtain ⟨hrow, hany⟩ := List.mem_filter.mp hrow
        refine Or.inr ⟨comment, hrow, hid, fun hnone => ?_⟩
        rw [hnone] at hany
        cases hany
    · exact Or.inr hreply

theorem reply_mem_cascade {reply : Comment} (hrow : reply ∈ comments)
    (hparent : reply.parent = some key) (hmem : key ∈ ids) :
    reply.id ∈ cascade comments (level + 1) ids := by
  rw [cascade]
  refine subset_cascade ?_
  by_cases hgiven : reply.id ∈ ids
  · exact List.mem_append_left _ hgiven
  · refine List.mem_append_right _ (List.mem_map.mpr ⟨reply, List.mem_filter.mpr ⟨hrow, ?_⟩, rfl⟩)
    rw [hparent, Option.any_some, List.contains_iff_mem.mpr hmem, Bool.true_and,
      Bool.not_eq_true', List.contains_eq_mem, decide_eq_false hgiven]

theorem mem_deleted {comment : Comment} {id : ℕ} :
    comment ∈ deleted comments id ↔
      comment ∈ comments ∧ comment.id ∉ cascade comments comments.length [id] := by
  rw [deleted, List.mem_filter, Bool.not_eq_true', List.contains_eq_mem, decide_eq_false_iff_not]

theorem Sound.delete (sound : Sound comments) (id : ℕ) : Sound (deleted comments id) where
  threaded := by
    intro reply hreply key hkey
    obtain ⟨hrow, hleft⟩ := mem_deleted.mp hreply
    obtain ⟨parent, hparent, hid, hother, htop, htarget⟩ := sound.threaded reply hrow key hkey
    refine ⟨parent, mem_deleted.mpr ⟨hparent, fun hgone => ?_⟩, hid, hother, htop, htarget⟩
    rcases mem_cascade hgone with hself | ⟨row, hmem, hrowId, hrowParent⟩
    · obtain ⟨level, hlevel⟩ : ∃ level, comments.length = level + 1 :=
        Nat.exists_eq_add_one.mpr (List.length_pos_of_mem hrow)
      rw [hlevel] at hleft
      exact hleft (reply_mem_cascade hrow hkey (hid ▸ hself))
    · rw [sound.eq_of_id hmem hparent hrowId] at hrowParent
      exact hrowParent htop
  ids := sound.ids.sublist (List.filter_sublist.map _)

end Deletion

/-! ## Runs -/

section Run

variable {db : Db}
variable {session : Session}

theorem update_cases (db : Db) (session : Session) (filter : CommentFilter) (id : ℕ)
    (patch : Bool) (body : Option Submitted) :
    (db.update session filter id patch body).2 = db ∨
      ∃ submitted comment attrs, body = some submitted ∧
        db.getComment session filter id = some comment ∧
        db.validated session patch submitted = .ok attrs ∧
        (db.update session filter id patch body).2 =
          { db with comments := saved db.comments (comment.assign session.now attrs) } := by
  unfold Db.update
  split
  · exact Or.inl rfl
  · rename_i comment hget
    split
    · exact Or.inl rfl
    · rename_i submitted
      split
      · exact Or.inl rfl
      · rename_i attrs hvalid
        exact Or.inr ⟨submitted, comment, attrs, rfl, hget, hvalid, rfl⟩

theorem sound_destroy (session : Session) (filter : CommentFilter) (id : ℕ)
    (sound : Sound db.comments) : Sound (db.destroy session filter id).2.comments := by
  unfold Db.destroy
  split
  · exact sound
  · split
    · exact sound.delete _
    · exact sound

theorem step_of_stranger (filter : CommentFilter) (request : Request)
    (hstranger : (db.membershipOf session).isNone = true) :
    step db (.request session filter request) = db := by
  simp only [step, Db.handle, if_pos hstranger]

theorem step_of_member (filter : CommentFilter) (request : Request)
    (hmember : ¬ (db.membershipOf session).isNone = true) :
    step db (.request session filter request) =
      match request with
      | .create id body => (db.create session id body).2
      | .update id patch body => (db.update session filter id patch body).2
      | .destroy id => (db.destroy session filter id).2 := by
  cases request with
  | create id body => simp only [step, Db.handle, if_neg hmember]
  | update id patch body => simp only [step, Db.handle, if_neg hmember]
  | destroy id => simp only [step, Db.handle, if_neg hmember]

/-- A step keeps the threads if the updates among them keep that of their comment. -/
theorem sound_step (event : Event) (sound : Sound db.comments) (hadmits : Admits db event) :
    Sound (step db event).comments := by
  cases event with
  | elsewhere other => exact sound
  | request session filter request =>
    by_cases hstranger : (db.membershipOf session).isNone = true
    · rw [step_of_stranger filter request hstranger]
      exact sound
    · rw [step_of_member filter request hstranger]
      cases request with
      | create id body => exact sound_create session id body sound
      | destroy id => exact sound_destroy session filter id sound
      | update id patch body =>
        rcases update_cases db session filter id patch body with
          hsame | ⟨submitted, comment, attrs, rfl, hget, hvalid, hnext⟩
        · simp only [hsame]
          exact sound
        · have hmember : (db.membershipOf session).isSome = true := by
            rwa [Option.isNone_iff_eq_none, ← ne_eq, Option.ne_none_iff_isSome] at hstranger
          have hkeeps := hadmits comment attrs hmember hget hvalid
          have hfits := fitsParent_of_validated hvalid
          simp only [hnext]
          constructor
          · exact (threaded_saved_iff sound (mem_of_getComment hget).1 hfits).mpr hkeeps
          · rw [ids_saved]
            exact sound.ids

theorem admits_of_threaded (event : Event) (sound : Sound db.comments)
    (hthreaded : IsThreaded (step db event)) : Admits db event := by
  cases event with
  | elsewhere other => trivial
  | request session filter request =>
    cases request with
    | create id body => trivial
    | destroy id => trivial
    | update id patch body =>
      cases body with
      | none => trivial
      | some submitted =>
        intro comment attrs hmember hget hvalid
        have hstranger : ¬ (db.membershipOf session).isNone = true := by
          rwa [Option.isNone_iff_eq_none, ← ne_eq, Option.ne_none_iff_isSome]
        have hnext : step db (.request session filter (.update id patch (some submitted))) =
            { db with comments := saved db.comments (comment.assign session.now attrs) } := by
          simp only [step_of_member _ _ hstranger, Db.update, hget, hvalid]
          rfl
        rw [hnext] at hthreaded
        exact (threaded_saved_iff sound (mem_of_getComment hget).1
          (fitsParent_of_validated hvalid)).mp hthreaded

end Run

def uncommented (db : Db) : Db := { db with comments := [] }

theorem sound_uncommented (db : Db) : Sound (uncommented db).comments where
  threaded := fun _ hmem => absurd hmem List.not_mem_nil
  ids := List.nodup_nil

/--
All replies of a run stay directly below a top-level comment on the same object exactly if every
accepted update keeps the thread of the comment that it changes.
-/
theorem always_isThreaded_iff (db : Db) (events : List Event) :
    Always step IsThreaded (uncommented db) events ↔
      Every step Admits (uncommented db) events :=
  always_iff_every (fun (db : Db) (sound : Sound db.comments) => sound.threaded)
    (fun _ event sound hadmits => sound_step event sound hadmits)
    (fun _ event sound hthreaded => admits_of_threaded event sound hthreaded)
    (sound_uncommented db) events

/-! ## A comment that replies to itself -/

/-- A tenant with one member and one ticket. -/
def desk : Db where
  memberships := [{ user := "admin", tenant := 1,
                    role := { id := 1, tenant := 1, slug := "admin", hierarchyLevel := 10 } }]
  contentTypes := [{ appLabel := "tickets", model := "ticket", contentType := .ticket }]
  tickets := [{ id := 7, tenant := 1, createdBy := some "admin" }]

/-- A comment is created, and patched to be its own parent. -/
def selfReply : List Event :=
  [.request ⟨"admin", 1, 0⟩ {}
    (.create 1 (some { contentType := some "tickets.ticket", objectId := some 7,
                       body := some "The fix works." })),
   .request ⟨"admin", 1, 1⟩ {}
    (.update 1 true (some { contentType := some "tickets.ticket", objectId := some 7,
                            parent := some (some 1) }))]

theorem not_always_threaded_selfReply :
    ¬ ∀ (db : Db) (events : List Event), Always step IsThreaded (uncommented db) events := by
  intro hall
  have hthreaded := (hall desk selfReply).finish
  have hrows : (run step (uncommented desk) selfReply).comments.map
      (fun row => (row.id, row.parent)) = [(1, some 1)] := by decide +kernel
  obtain ⟨comment, hmem, hcomment⟩ := List.mem_map.mp (hrows ▸ List.mem_singleton.mpr rfl)
  obtain ⟨parent, hparent, -, -, htop, -⟩ := hthreaded comment hmem 1 (Prod.mk.inj hcomment).2
  have hsame := List.mem_map_of_mem (f := fun row : Comment => (row.id, row.parent)) hparent
  rw [hrows, List.mem_singleton, Prod.mk.injEq, htop] at hsame
  cases hsame.2

end Kanzan.Comments
