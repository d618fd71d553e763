import Kanzan.Knowledge.Articles
import Kanzan.Support.Processes

/-!
# What is published

The requests of the review workflow as processes over the articles of one tenant: a turn loads an
article, or saves one.  Beside each article stand which of its texts an Admin or Manager has saved
since they are in it, and the texts that were last approved.
-/

namespace Kanzan.Knowledge

open Support

/-- Which texts of an article an Admin or Manager has saved since they are in it. -/
structure Marks where
  title : Bool := false
  content : Bool := false
  file : Bool := false
  deriving DecidableEq, Repr

/-- The articles, and what was marked and approved of them. -/
structure Shelf where
  articles : ℕ → Option Article := fun _ => none
  marks : ℕ → Marks := fun _ => {}
  approved : ℕ → Option Texts := fun _ => none
  count : ℕ := 0

/-- Where a request stands; `updating` knows whether an Admin or Manager is to save. -/
inductive Editor where
  | idle
  | updating (trusted : Bool) (pk : ℕ) (saved : Article)
  | submitting (pk : ℕ)
  | approving (reviewer : String) (pk : ℕ) (loaded : Article)
  | rejecting (reviewer : String) (pk : ℕ) (reason : String)
  | replied
  | refused (refusal : Refusal)

variable {pk : ℕ} {trusted : Bool}

namespace Shelf

variable (site : Site) (shelf : Shelf) (now : ℕ)

/-! ## Saves -/

def remark (trusted : Bool) (old : Option Texts) (new : Texts) (marks : Marks) : Marks where
  title := trusted || marks.title && old.any fun old => old.title = new.title
  content := trusted || marks.content && old.any fun old => old.content = new.content
  file := trusted || marks.file && old.any fun old => old.file = new.file

def store (trusted : Bool) (pk : ℕ) (article : Article) : Shelf :=
  { shelf with
    articles := Function.update shelf.articles pk (some article)
    marks := Function.update shelf.marks pk
      (remark trusted ((shelf.articles pk).map Article.texts) article.texts (shelf.marks pk)) }

def amend (pk : ℕ) (columns : Article → Article) : Shelf :=
  { shelf with
    articles := Function.update shelf.articles pk ((shelf.articles pk).map columns) }

def approve (reviewer : String) (pk : ℕ) (loaded : Article) : Shelf :=
  { shelf.amend pk (Article.approved now reviewer) with
    approved := Function.update shelf.approved pk (some loaded.texts) }

def begin : Request → Shelf × Editor
  | .create caller data =>
    match createArticle site now caller data with
    | .error refusal => (shelf, .refused refusal)
    | .ok article =>
      ({ shelf.store (caller.isAdminOrManager now) shelf.count article with
          count := shelf.count + 1 }, .replied)
  | .update caller patch pk data =>
    match updateArticle site now caller patch pk (shelf.articles pk) data with
    | .error refusal => (shelf, .refused refusal)
    | .ok saved => (shelf, .updating (caller.isAdminOrManager now) pk saved)
  | .submitForReview caller pk =>
    match checkSubmit site now caller pk (shelf.articles pk) with
    | .error refusal => (shelf, .refused refusal)
    | .ok _ => (shelf, .submitting pk)
  | .approve caller pk =>
    match checkApprove site now caller pk (shelf.articles pk) with
    | .error refusal => (shelf, .refused refusal)
    | .ok loaded => (shelf, .approving caller.user pk loaded)
  | .reject caller pk reason =>
    match checkReject site now caller pk (shelf.articles pk) reason with
    | .error refusal => (shelf, .refused refusal)
    | .ok reason => (shelf, .rejecting caller.user pk reason)

/-- A turn at an instant: the save of a request under way, or the loading half of a new one. -/
def act (_process : ℕ) (shelf : Shelf) (editor : Editor) (event : ℕ × Request) : Shelf × Editor :=
  match editor with
  | .updating trusted pk saved => (shelf.store trusted pk (saved.stamp event.1), .replied)
  | .submitting pk => (shelf.amend pk (Article.submitted event.1), .replied)
  | .approving reviewer pk loaded => (shelf.approve event.1 reviewer pk loaded, .replied)
  | .rejecting reviewer pk reason =>
    (shelf.amend pk (Article.rejected event.1 reviewer reason), .replied)
  | _ => shelf.begin site event.1 event.2

/-! ## The property and the condition -/

/-- Each text was saved by an Admin or Manager, or is the one approved. -/
structure Vouched (marks : Marks) (approved : Option Texts) (texts : Texts) : Prop where
  title : marks.title = true ∨ ∃ seen ∈ approved, seen.title = texts.title
  content : marks.content = true ∨ ∃ seen ∈ approved, seen.content = texts.content
  file : marks.file = true ∨ ∃ seen ∈ approved, seen.file = texts.file

instance (marks : Marks) (approved : Option Texts) (texts : Texts) :
    Decidable (Vouched marks approved texts) :=
  decidable_of_iff
    ((marks.title = true ∨ ∃ seen ∈ approved, seen.title = texts.title) ∧
      (marks.content = true ∨ ∃ seen ∈ approved, seen.content = texts.content) ∧
        (marks.file = true ∨ ∃ seen ∈ approved, seen.file = texts.file))
    ⟨fun vouched => ⟨vouched.1, vouched.2.1, vouched.2.2⟩,
      fun vouched => ⟨vouched.title, vouched.content, vouched.file⟩⟩

/-- Whatever is published is vouched for. -/
def Curated : Prop :=
  ∀ pk, ∀ article ∈ shelf.articles pk, article.status = .published →
    Vouched (shelf.marks pk) (shelf.approved pk) article.texts

/--
An update of somebody else that is going to save an article as published finds it published, with
the texts that it saves; an approval finds the texts that it has loaded, or later ones of an Admin
or Manager.
-/
def Fresh : Editor → Prop
  | .updating trusted pk saved => trusted = false → saved.status = .published →
      ∃ row ∈ shelf.articles pk, row.status = .published ∧ row.texts = saved.texts
  | .approving _ pk loaded => ∀ row ∈ shelf.articles pk,
      Vouched (shelf.marks pk) (some loaded.texts) row.texts
  | _ => True

instance : DecidablePred shelf.Fresh
  | .idle => isTrue trivial
  | .updating trusted pk saved => inferInstanceAs (Decidable (trusted = false →
      saved.status = .published →
        ∃ row ∈ shelf.articles pk, row.status = .published ∧ row.texts = saved.texts))
  | .submitting _ => isTrue trivial
  | .approving _ pk loaded => inferInstanceAs (Decidable (∀ row ∈ shelf.articles pk,
      Vouched (shelf.marks pk) (some loaded.texts) row.texts))
  | .rejecting _ _ _ => isTrue trivial
  | .replied => isTrue trivial
  | .refused _ => isTrue trivial

/-- What a turn saves is not overtaken. -/
def Admits (world : World Shelf Editor) (event : ℕ × ℕ × Request) : Prop :=
  world.shared.Fresh (world.locals event.1)

instance (world : World Shelf Editor) (event : ℕ × ℕ × Request) :
    Decidable (Admits world event) :=
  inferInstanceAs (Decidable (world.shared.Fresh (world.locals event.1)))

section Laws

variable {site : Site} {shelf : Shelf} {now : ℕ}

theorem vouched_trusted (old : Option Texts) (new texts : Texts) (marks : Marks)
    (approved : Option Texts) : Vouched (remark true old new marks) approved texts :=
  ⟨.inl rfl, .inl rfl, .inl rfl⟩

theorem vouched_remark {marks : Marks} {approved : Option Texts} {texts : Texts}
    (vouched : Vouched marks approved texts) :
    Vouched (remark trusted (some texts) texts marks) approved texts := by
  refine ⟨vouched.title.imp_left ?_, vouched.content.imp_left ?_, vouched.file.imp_left ?_⟩
  · intro hmark
    simp [remark, hmark]
  · intro hmark
    simp [remark, hmark]
  · intro hmark
    simp [remark, hmark]

theorem curated_store (curated : shelf.Curated) {article : Article}
    (hsaved : trusted = false → article.status = .published →
      ∃ row ∈ shelf.articles pk, row.status = .published ∧ row.texts = article.texts) :
    (shelf.store trusted pk article).Curated := by
  intro shown found hfound hpublished
  by_cases heq : shown = pk
  · subst heq
    simp only [store, Function.update_self] at hfound ⊢
    obtain rfl := Option.some.inj hfound
    cases htrusted : trusted with
    | true => exact vouched_trusted ..
    | false =>
      obtain ⟨row, hrow, hstatus, htexts⟩ := hsaved htrusted hpublished
      have vouched := curated shown row hrow hstatus
      rw [hrow, Option.map_some, htexts]
      rw [htexts] at vouched
      exact vouched_remark vouched
  · simp only [store, Function.update_of_ne heq] at hfound ⊢
    exact curated shown found hfound hpublished

theorem curated_amend (curated : shelf.Curated) {columns : Article → Article}
    (hcolumns : ∀ row, (columns row).status ≠ .published) : (shelf.amend pk columns).Curated := by
  intro shown found hfound hpublished
  by_cases heq : shown = pk
  · subst heq
    simp only [amend, Function.update_self] at hfound
    obtain ⟨row, -, rfl⟩ := Option.map_eq_some_iff.mp hfound
    exact absurd hpublished (hcolumns row)
  · simp only [amend, Function.update_of_ne heq] at hfound ⊢
    exact curated shown found hfound hpublished

theorem curated_approve (curated : shelf.Curated) {reviewer : String} {loaded : Article}
    (hloaded : ∀ row ∈ shelf.articles pk,
      Vouched (shelf.marks pk) (some loaded.texts) row.texts) :
    (shelf.approve now reviewer pk loaded).Curated := by
  intro shown found hfound hpublished
  by_cases heq : shown = pk
  · subst heq
    simp only [approve, amend, Function.update_self] at hfound ⊢
    obtain ⟨row, hrow, rfl⟩ := Option.map_eq_some_iff.mp hfound
    exact hloaded row hrow
  · simp only [approve, amend, Function.update_of_ne heq] at hfound ⊢
    exact curated shown found hfound hpublished

theorem curated_begin (curated : shelf.Curated) (request : Request) :
    (shelf.begin site now request).1.Curated := by
  cases request with
  | create caller data =>
    rw [begin]
    cases hcreated : createArticle site now caller data with
    | error refusal => exact curated
    | ok article =>
      have stored : (shelf.store (caller.isAdminOrManager now) shelf.count article).Curated := by
        refine curated_store curated fun hother hpublished => ?_
        rw [draft_of_createArticle hother hcreated] at hpublished
        cases hpublished
      exact stored
  | update caller patch pk data =>
    rw [begin]
    split
    · exact curated
    · exact curated
  | submitForReview caller pk =>
    rw [begin]
    split
    · exact curated
    · exact curated
  | approve caller pk =>
    rw [begin]
    split
    · exact curated
    · exact curated
  | reject caller pk reason =>
    rw [begin]
    split
    · exact curated
    · exact curated

theorem curated_turn {world : World Shelf Editor} {event : ℕ × ℕ × Request}
    (curated : world.shared.Curated) (admits : Admits world event) :
    (world.turn (act site) event).shared.Curated := by
  obtain ⟨process, now, request⟩ := event
  rw [World.turn_shared]
  rw [Admits] at admits
  cases hlocal : world.locals process with
  | idle => exact curated_begin curated request
  | updating trusted pk saved =>
    rw [hlocal] at admits
    exact curated_store curated admits
  | submitting pk =>
    refine curated_amend curated fun row hpublished => ?_
    cases hpublished
  | approving reviewer pk loaded =>
    rw [hlocal] at admits
    exact curated_approve curated admits
  | rejecting reviewer pk reason =>
    refine curated_amend curated fun row hpublished => ?_
    cases hpublished
  | replied => exact curated_begin curated request
  | refused refusal => exact curated_begin curated request

end Laws

/-! ## Runs -/

def opening : World Shelf Editor where
  shared := {}
  locals _ := .idle

/-- Nobody has special permissions, and no article is restricted to groups. -/
def plain : Site where
  catalogue := {}
  allows _ _ := true

/-- An agent. -/
def ann : Caller where
  membership.user := "ann"
  membership.tenant := 1
  membership.role := { id := 3, tenant := 1, slug := "agent", hierarchyLevel := 30 }

/-- A manager. -/
def mia : Caller where
  membership.user := "mia"
  membership.tenant := 1
  membership.role := { id := 2, tenant := 1, slug := "manager", hierarchyLevel := 20 }

end Shelf

end Kanzan.Knowledge
