import Kanzan.Support.Runs
import Kanzan.Support.Search

/-!
# Ticket links

The links endpoint of the tickets, and the creation of a link that `TicketLink.clean` has
validated.  A blocking link of either type is an edge of one relation between tickets, of
which the check for circular dependencies follows only the edges of type `BLOCKS`.
-/

namespace Kanzan.Tickets.Links

open Support

/-! ## Links and requests -/

/-- `TicketLink.LinkType`. -/
inductive LinkType where
  | duplicateOf
  | relatedTo
  | blocks
  | blockedBy
  deriving DecidableEq, Repr

/-- A ticket, as far as the links look at it. -/
structure LinkedTicket where
  tenant : ℕ
  isDeleted : Bool := false
  deriving DecidableEq, Repr

/-- The `TicketLink` row. -/
structure TicketLink where
  pk : ℕ
  tenant : ℕ
  sourceTicket : ℕ
  targetTicket : ℕ
  linkType : LinkType
  deriving DecidableEq, Repr

/-- The two tables; `nextPk` is a key that no link has had. -/
structure LinkDb where
  tickets : ℕ → Option LinkedTicket
  links : List TicketLink := []
  nextPk : ℕ := 0

/-- Why a request creates or deletes nothing. -/
inductive Refusal where
  /-- `get_object` finds no ticket. -/
  | notFound
  | response (status : ℕ) (detail : String)
  /-- A `ValidationError` of `clean`. -/
  | validation (message : String)
  /-- The uniqueness of links, or the check constraint against self links. -/
  | constraint
  deriving DecidableEq, Repr

/-- A request to the endpoint, past the permission checks, or a validated creation. -/
inductive LinkRequest where
  | post (tenant ticket : ℕ) (includeDeleted : Bool) (target : ℕ) (linkType : LinkType)
  | delete (tenant ticket : ℕ) (includeDeleted : Bool) (linkId : ℕ)
  | create (tenant sourceTicket targetTicket : ℕ) (linkType : LinkType)
  deriving DecidableEq, Repr

namespace LinkDb

/-- `Ticket.objects.get(pk=...)`. -/
def objectsGet (db : LinkDb) (tenant ticket : ℕ) : Option LinkedTicket :=
  (db.tickets ticket).filter fun row => row.tenant == tenant && !row.isDeleted

/-- `self.get_object()`; a query parameter lets it find deleted tickets. -/
def getObject (db : LinkDb) (tenant : ℕ) (includeDeleted : Bool) (ticket : ℕ) :
    Option LinkedTicket :=
  (db.tickets ticket).filter fun row => row.tenant == tenant && (includeDeleted || !row.isDeleted)

def hasLink (db : LinkDb) (sourceTicket targetTicket : ℕ) (linkType : LinkType) : Bool :=
  db.links.any fun link => link.sourceTicket == sourceTicket &&
    link.targetTicket == targetTicket && link.linkType == linkType

/-- The row that `TicketLink.objects.create` adds. -/
def addLink (db : LinkDb) (tenant sourceTicket targetTicket : ℕ) (linkType : LinkType) : LinkDb :=
  { db with
    links := db.links ++ [{ pk := db.nextPk, tenant, sourceTicket, targetTicket, linkType }]
    nextPk := db.nextPk + 1 }

def insertLink (db : LinkDb) (tenant sourceTicket targetTicket : ℕ) (linkType : LinkType) :
    Except Refusal LinkDb :=
  if db.hasLink sourceTicket targetTicket linkType ∨ sourceTicket = targetTicket then
    .error .constraint
  else .ok (db.addLink tenant sourceTicket targetTicket linkType)

end LinkDb

def followed (links : List TicketLink) : List (ℕ × ℕ) :=
  (links.filter fun link => link.linkType == .blocks).map fun link =>
    (link.sourceTicket, link.targetTicket)

/-- `_creates_circular_dependency`. -/
def createsCircularDependency (links : List TicketLink) (sourceTicket targetTicket : ℕ)
    (linkType : LinkType) : Bool :=
  let (start, goal) :=
    if linkType = .blocks then (targetTicket, sourceTicket) else (sourceTicket, targetTicket)
  searchFrom (followed links) start goal

/-- `TicketLink.clean`. -/
def clean (db : LinkDb) (sourceTicket targetTicket : ℕ) (linkType : LinkType) :
    Except Refusal Unit :=
  if (db.tickets sourceTicket).map LinkedTicket.tenant ≠
      (db.tickets targetTicket).map LinkedTicket.tenant then
    .error (.validation "Both tickets must belong to the same tenant.")
  else if (linkType = .blocks ∨ linkType = .blockedBy) ∧
      createsCircularDependency db.links sourceTicket targetTicket linkType then
    .error (.validation "This link would create a circular blocking dependency.")
  else .ok ()

/-- `TicketViewSet.links` for a `POST`. -/
def links (db : LinkDb) (tenant ticket : ℕ) (includeDeleted : Bool) (target : ℕ)
    (linkType : LinkType) : Except Refusal LinkDb :=
  match db.getObject tenant includeDeleted ticket with
  | none => .error .notFound
  | some ticketRow =>
    match db.objectsGet tenant target with
    | none => .error (.response 404 "Target ticket not found.")
    | some targetRow =>
      if target = ticket then .error (.response 400 "Cannot link a ticket to itself.")
      else if targetRow.tenant ≠ ticketRow.tenant then
        .error (.response 400 "Cannot link tickets from different tenants.")
      else if db.links.any fun link => link.tenant == tenant && link.sourceTicket == ticket &&
          link.targetTicket == target && link.linkType == linkType then
        .error (.response 409 "This link already exists.")
      else db.insertLink ticketRow.tenant ticket target linkType

/-- `TicketViewSet.delete_link`. -/
def deleteLink (db : LinkDb) (tenant ticket : ℕ) (includeDeleted : Bool) (linkId : ℕ) :
    Except Refusal LinkDb :=
  match db.getObject tenant includeDeleted ticket with
  | none => .error .notFound
  | some _ =>
    if db.links.any fun link => link.tenant == tenant && link.pk == linkId &&
        (link.sourceTicket == ticket || link.targetTicket == ticket) then
      .ok { db with links := db.links.filter fun link => link.pk != linkId }
    else .error (.response 404 "Link not found.")

/-- A link between two tickets, stored if `clean` and the constraints let it. -/
def createLink (db : LinkDb) (tenant sourceTicket targetTicket : ℕ) (linkType : LinkType) :
    Except Refusal LinkDb :=
  if (db.tickets sourceTicket).isNone ∨ (db.tickets targetTicket).isNone then .error .constraint
  else do
    clean db sourceTicket targetTicket linkType
    db.insertLink tenant sourceTicket targetTicket linkType

def attempt (db : LinkDb) : LinkRequest → Except Refusal LinkDb
  | .post tenant ticket includeDeleted target linkType =>
    links db tenant ticket includeDeleted target linkType
  | .delete tenant ticket includeDeleted linkId => deleteLink db tenant ticket includeDeleted linkId
  | .create tenant sourceTicket targetTicket linkType =>
    createLink db tenant sourceTicket targetTicket linkType

def step (db : LinkDb) (request : LinkRequest) : LinkDb :=
  match attempt db request with
  | .ok after => after
  | .error _ => db

/-! ## The blocking relation -/

def LinkType.edge (linkType : LinkType) (sourceTicket targetTicket : ℕ) : Option (ℕ × ℕ) :=
  match linkType with
  | .blocks => some (sourceTicket, targetTicket)
  | .blockedBy => some (targetTicket, sourceTicket)
  | .duplicateOf | .relatedTo => none

def blocking (links : List TicketLink) : List (ℕ × ℕ) :=
  links.filterMap fun link => link.linkType.edge link.sourceTicket link.targetTicket

/-- No chain of stored links leads from the ticket to be blocked to the one that blocks it. -/
def NoWayBack (db : LinkDb) (sourceTicket targetTicket : ℕ) (linkType : LinkType) : Prop :=
  ∀ edge ∈ linkType.edge sourceTicket targetTicket, ¬ Reaches (blocking db.links) edge.2 edge.1

instance (db : LinkDb) (sourceTicket targetTicket : ℕ) (linkType : LinkType) :
    Decidable (NoWayBack db sourceTicket targetTicket linkType) :=
  inferInstanceAs (Decidable (∀ edge ∈ linkType.edge sourceTicket targetTicket,
    ¬ Reaches (blocking db.links) edge.2 edge.1))

/-- If such a chain exists, one exists that has links of type `BLOCKS` only. -/
def SeenWayBack (db : LinkDb) (sourceTicket targetTicket : ℕ) (linkType : LinkType) : Prop :=
  ∀ edge ∈ linkType.edge sourceTicket targetTicket,
    Reaches (blocking db.links) edge.2 edge.1 → Reaches (followed db.links) edge.2 edge.1

instance (db : LinkDb) (sourceTicket targetTicket : ℕ) (linkType : LinkType) :
    Decidable (SeenWayBack db sourceTicket targetTicket linkType) :=
  inferInstanceAs (Decidable (∀ edge ∈ linkType.edge sourceTicket targetTicket,
    Reaches (blocking db.links) edge.2 edge.1 → Reaches (followed db.links) edge.2 edge.1))

/-- The requests that do not run into what the endpoint and the search leave out. -/
def Admissible (db : LinkDb) : LinkRequest → Prop
  | .post tenant ticket includeDeleted target linkType =>
    (db.getObject tenant includeDeleted ticket).isSome → (db.objectsGet tenant target).isSome →
      target ≠ ticket → NoWayBack db ticket target linkType
  | .delete .. => True
  | .create _ sourceTicket targetTicket linkType =>
    (db.tickets sourceTicket).isSome →
      (db.tickets sourceTicket).map LinkedTicket.tenant =
        (db.tickets targetTicket).map LinkedTicket.tenant →
      SeenWayBack db sourceTicket targetTicket linkType

instance Admissible.decidable (db : LinkDb) : DecidablePred (Admissible db)
  | .post .. => inferInstanceAs (Decidable (_ → _ → _ → NoWayBack ..))
  | .delete .. => isTrue trivial
  | .create .. => inferInstanceAs (Decidable (_ → _ → SeenWayBack ..))

section Laws

variable {db : LinkDb} {tenant sourceTicket targetTicket : ℕ} {linkType : LinkType}

/-- The search decides whether a chain of type `BLOCKS` leads back. -/
theorem createsCircularDependency_iff {edge : ℕ × ℕ}
    (hedge : linkType.edge sourceTicket targetTicket = some edge) (links : List TicketLink) :
    createsCircularDependency links sourceTicket targetTicket linkType = true ↔
      Reaches (followed links) edge.2 edge.1 := by
  unfold createsCircularDependency
  cases linkType with
  | blocks =>
    cases hedge
    exact searchFrom_iff
  | blockedBy =>
    cases hedge
    exact searchFrom_iff
  | duplicateOf => cases hedge
  | relatedTo => cases hedge

theorem blocking_addLink :
    blocking (db.addLink tenant sourceTicket targetTicket linkType).links =
      blocking db.links ++ (linkType.edge sourceTicket targetTicket).toList := by
  simp only [blocking, LinkDb.addLink, List.filterMap_append, List.filterMap_cons,
    List.filterMap_nil]
  cases linkType.edge sourceTicket targetTicket <;> rfl

theorem noWayBack_of_hasLink (acyclic : Acyclic (blocking db.links))
    (stored : db.hasLink sourceTicket targetTicket linkType) :
    NoWayBack db sourceTicket targetTicket linkType := by
  intro edge hedge hback
  rw [LinkDb.hasLink, List.any_eq_true] at stored
  obtain ⟨link, hlink, hsame⟩ := stored
  rw [Bool.and_eq_true, Bool.and_eq_true, beq_iff_eq, beq_iff_eq, beq_iff_eq] at hsame
  obtain ⟨⟨rfl, rfl⟩, rfl⟩ := hsame
  have hmem : edge ∈ blocking db.links := List.mem_filterMap.mpr ⟨link, hlink, hedge⟩
  exact acyclic edge.1 (Relation.TransGen.head' hmem hback)

theorem acyclic_addLink (acyclic : Acyclic (blocking db.links)) :
    Acyclic (blocking (db.addLink tenant sourceTicket targetTicket linkType).links) ↔
      NoWayBack db sourceTicket targetTicket linkType := by
  rw [blocking_addLink]
  unfold NoWayBack
  cases hedge : linkType.edge sourceTicket targetTicket with
  | none => simpa using acyclic
  | some edge =>
    obtain ⟨a, b⟩ := edge
    have hinsert : Acyclic (blocking db.links ++ [(a, b)]) ↔
        ¬ Reaches (blocking db.links) b a :=
      acyclic_insert (List.mem_append_right _ List.mem_cons_self)
        (List.subset_append_left _ _) (fun edge hmem => by simpa using hmem) acyclic
    simpa using hinsert

/-! ## Requests -/

variable (tenant linkType) in
/-- What `insertLink` does, and when it leaves the relation acyclic. -/
theorem acyclic_insertLink (acyclic : Acyclic (blocking db.links))
    (hdistinct : sourceTicket ≠ targetTicket) :
    Acyclic (blocking (match db.insertLink tenant sourceTicket targetTicket linkType with
      | .ok after => after
      | .error _ => db).links) ↔ NoWayBack db sourceTicket targetTicket linkType := by
  unfold LinkDb.insertLink
  by_cases hstored : db.hasLink sourceTicket targetTicket linkType = true
  · rw [if_pos (.inl hstored)]
    exact ⟨fun _ => noWayBack_of_hasLink acyclic hstored, fun _ => acyclic⟩
  · rw [if_neg (by simp [hstored, hdistinct])]
    exact acyclic_addLink acyclic

/-- The endpoint asks for no way back, so it keeps the relation acyclic only without one. -/
theorem acyclic_post (acyclic : Acyclic (blocking db.links)) (tenant ticket : ℕ)
    (includeDeleted : Bool) (target : ℕ) (linkType : LinkType) :
    Acyclic (blocking (step db (.post tenant ticket includeDeleted target linkType)).links) ↔
      Admissible db (.post tenant ticket includeDeleted target linkType) := by
  simp only [step, attempt, links, Admissible]
  cases hticket : db.getObject tenant includeDeleted ticket with
  | none => simpa using acyclic
  | some ticketRow =>
    cases htarget : db.objectsGet tenant target with
    | none => simpa using acyclic
    | some targetRow =>
      simp only [Option.isSome_some, forall_const]
      by_cases hself : target = ticket
      · simpa [hself] using acyclic
      have htenant : targetRow.tenant = ticketRow.tenant := by
        have hfirst := (Option.filter_eq_some_iff.mp hticket).2
        have hsecond := (Option.filter_eq_some_iff.mp htarget).2
        rw [Bool.and_eq_true, beq_iff_eq] at hfirst hsecond
        rw [hfirst.1, hsecond.1]
      rw [if_neg hself, if_neg (not_not_intro htenant)]
      by_cases hlisted : (db.links.any fun link => link.tenant == tenant &&
          link.sourceTicket == ticket && link.targetTicket == target &&
            link.linkType == linkType) = true
      · rw [if_pos hlisted]
        have hstored : db.hasLink ticket target linkType := by
          obtain ⟨link, hlink, hsame⟩ := List.any_eq_true.mp hlisted
          simp only [Bool.and_eq_true] at hsame
          exact List.any_eq_true.mpr ⟨link, hlink, by simp [hsame]⟩
        exact ⟨fun _ _ => noWayBack_of_hasLink acyclic hstored, fun _ => acyclic⟩
      · rw [if_neg hlisted]
        have hinsert := acyclic_insertLink ticketRow.tenant linkType acyclic (Ne.symm hself)
        exact ⟨fun h _ => hinsert.mp h, fun h => hinsert.mpr (h hself)⟩

theorem acyclic_delete (acyclic : Acyclic (blocking db.links)) (tenant ticket : ℕ)
    (includeDeleted : Bool) (linkId : ℕ) :
    Acyclic (blocking (step db (.delete tenant ticket includeDeleted linkId)).links) := by
  simp only [step, attempt, deleteLink]
  cases db.getObject tenant includeDeleted ticket with
  | none => exact acyclic
  | some row =>
    dsimp only
    split
    · rename_i after hafter
      split at hafter
      · cases hafter
        exact acyclic.mono (List.filterMap_subset _ List.filter_sublist.subset)
      · cases hafter
    · exact acyclic

/-- A validated creation keeps the relation acyclic unless the search misses the way back. -/
theorem acyclic_create (acyclic : Acyclic (blocking db.links)) (tenant sourceTicket
    targetTicket : ℕ) (linkType : LinkType) :
    Acyclic (blocking (step db (.create tenant sourceTicket targetTicket linkType)).links) ↔
      Admissible db (.create tenant sourceTicket targetTicket linkType) := by
  simp only [step, attempt, createLink, Admissible]
  by_cases hmissing : (db.tickets sourceTicket).isNone ∨ (db.tickets targetTicket).isNone
  · rw [if_pos hmissing]
    refine ⟨fun _ hsource htenant => ?_, fun _ => acyclic⟩
    have htarget : (db.tickets targetTicket).isSome := by
      simpa using (congrArg Option.isSome htenant).symm.trans (by simpa using hsource)
    simp [Option.isNone_iff_eq_none, Option.isSome_iff_ne_none.mp hsource,
      Option.isSome_iff_ne_none.mp htarget] at hmissing
  rw [if_neg hmissing]
  have hsource : (db.tickets sourceTicket).isSome := by
    simpa [Option.isSome_iff_ne_none] using (not_or.mp hmissing).1
  simp only [hsource, forall_const, clean]
  by_cases htenant : (db.tickets sourceTicket).map LinkedTicket.tenant =
      (db.tickets targetTicket).map LinkedTicket.tenant
  · rw [if_neg (not_not_intro htenant)]
    simp only [htenant, forall_const]
    cases hedge : linkType.edge sourceTicket targetTicket with
    | none =>
      have hplain : ¬ (linkType = .blocks ∨ linkType = .blockedBy) := by
        rintro (rfl | rfl) <;> cases hedge
      have hnone : ∀ {P : ℕ × ℕ → Prop},
          ∀ edge ∈ linkType.edge sourceTicket targetTicket, P edge := by
        intro P edge hmem
        rw [hedge] at hmem
        cases hmem
      rw [if_neg fun h => hplain h.1]
      refine iff_of_true ?_ hnone
      by_cases hself : sourceTicket = targetTicket
      · rw [LinkDb.insertLink, if_pos (.inr hself)]
        exact acyclic
      · exact (acyclic_insertLink _ _ acyclic hself).mpr hnone
    | some edge =>
      have hkind : linkType = .blocks ∨ linkType = .blockedBy := by
        cases linkType with
        | blocks => exact .inl rfl
        | blockedBy => exact .inr rfl
        | duplicateOf => cases hedge
        | relatedTo => cases hedge
      have hsearch := createsCircularDependency_iff hedge db.links
      by_cases hway : Reaches (followed db.links) edge.2 edge.1
      · rw [if_pos ⟨hkind, hsearch.mpr hway⟩]
        refine iff_of_true acyclic fun other hmem _ => ?_
        rw [hedge] at hmem
        cases hmem
        exact hway
      · rw [if_neg fun h => hway (hsearch.mp h.2)]
        have hself : sourceTicket ≠ targetTicket := by
          rintro rfl
          rcases hkind with rfl | rfl <;> cases hedge <;> exact hway .refl
        refine (acyclic_insertLink _ _ acyclic hself).trans ⟨fun hnone other hmem hback => ?_, ?_⟩
        · exact absurd hback (hnone other hmem)
        · intro hseen other hmem hback
          have hsame := hmem
          rw [hedge] at hsame
          cases hsame
          exact hway (hseen edge hmem hback)
  · rw [if_pos htenant]
    exact ⟨fun _ hsame => absurd hsame htenant, fun _ => acyclic⟩

theorem acyclic_step (acyclic : Acyclic (blocking db.links)) (request : LinkRequest) :
    Acyclic (blocking (step db request).links) ↔ Admissible db request := by
  cases request with
  | post tenant ticket includeDeleted target linkType => exact acyclic_post acyclic ..
  | delete tenant ticket includeDeleted linkId =>
    exact ⟨fun _ => trivial, fun _ => acyclic_delete acyclic tenant ticket includeDeleted linkId⟩
  | create tenant sourceTicket targetTicket linkType => exact acyclic_create acyclic ..

/--
Starting from an acyclic relation, a run keeps it acyclic exactly when no `POST` of a new
blocking link meets a way back, and no validated creation meets one that uses a `BLOCKED_BY`
link and has no counterpart without.
-/
theorem blocking_acyclic_iff (acyclic : Acyclic (blocking db.links))
    (requests : List LinkRequest) :
    Always step (fun db => Acyclic (blocking db.links)) db requests ↔
      Every step Admissible db requests := by
  have hpreserved : ∀ (db : LinkDb) request, Acyclic (blocking db.links) → Admissible db request →
      Acyclic (blocking (step db request).links) :=
    fun _ request holds admitted => (acyclic_step holds request).mpr admitted
  have hexact : ∀ (db : LinkDb) request, Acyclic (blocking db.links) →
      Acyclic (blocking (step db request).links) → Admissible db request :=
    fun _ request holds after => (acyclic_step holds request).mp after
  exact always_iff_every (fun _ holds => holds) hpreserved hexact acyclic requests

end Laws

/-! ## Runs on three tickets -/

/-- Three tickets of a tenant, without links. -/
def threeTickets : LinkDb where
  tickets := fun ticket => if ticket < 3 then some { tenant := 0 } else none

theorem threeTickets_acyclic : Acyclic (blocking threeTickets.links) := by
  intro ticket cycle
  obtain ⟨next, hedge, -⟩ := Relation.TransGen.head'_iff.mp cycle
  cases hedge

/-- A chain of three, in which one link is replaced by its opposite. -/
def rechained : List LinkRequest :=
  [.post 0 0 false 1 .blocks, .create 0 2 1 .blockedBy, .delete 0 0 false 0,
    .post 0 1 false 0 .blocks, .create 0 2 0 .blocks]

theorem blocking_acyclic_on_rechained :
    Always step (fun db => Acyclic (blocking db.links)) threeTickets rechained :=
  (blocking_acyclic_iff threeTickets_acyclic rechained).mpr (by decide)

/-- The endpoint stores two links that block each other. -/
def closedByPost : List LinkRequest :=
  [.post 0 0 false 1 .blocks, .post 0 1 false 0 .blocks]

/-- Each of these links passes `clean`: the search follows the first of them only. -/
def closedByClean : List LinkRequest :=
  [.create 0 0 1 .blocks, .create 0 2 1 .blockedBy, .create 0 0 2 .blockedBy]

theorem blocking_cycles :
    ¬ Always step (fun db => Acyclic (blocking db.links)) threeTickets closedByPost ∧
      ¬ Always step (fun db => Acyclic (blocking db.links)) threeTickets closedByClean := by
  constructor
  · intro always
    have hfirst : (0, 1) ∈ blocking (run step threeTickets closedByPost).links := by decide
    have hsecond : (1, 0) ∈ blocking (run step threeTickets closedByPost).links := by decide
    exact always.finish 0 (.head hfirst (.single hsecond))
  · intro always
    have hfirst : (0, 1) ∈ blocking (run step threeTickets closedByClean).links := by decide
    have hsecond : (1, 2) ∈ blocking (run step threeTickets closedByClean).links := by decide
    have hthird : (2, 0) ∈ blocking (run step threeTickets closedByClean).links := by decide
    exact always.finish 0 (.head hfirst (.head hsecond (.single hthird)))

end Kanzan.Tickets.Links
