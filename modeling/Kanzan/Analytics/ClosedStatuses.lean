import Kanzan.Analytics.Outputs
import Kanzan.Support.History
import Kanzan.Support.Processes

/-!
# The cache of closed statuses

The dictionary `_closed_status_cache` belongs to the process, not to a request.  Every dashboard
request looks its tenant up in it five or six times and clears it before it answers; a request that
raises leaves it as it is, and so does everything else.
-/

namespace Kanzan.Analytics

open Support

/-! ## The requests -/

/-- The query of `_get_closed_status_ids`. -/
def closedIds (tenant : ℕ) (statuses : List TicketStatus) : List ℕ :=
  ({ statuses } : Db).closedStatusIds tenant

/-- The services that call `_get_closed_status_ids`. -/
inductive Service where
  | getTicketStats
  | getAgentPerformance
  | getDueToday
  | getOverdueTickets
  | getDashboardSummary
  | getUnresolvedByQueue
deriving DecidableEq

/-- What `DashboardView.get` calls after `get_ticket_stats`. -/
def servicesAfterStats (isAdminOrManager : Bool) : List Service :=
  (if isAdminOrManager then [.getAgentPerformance] else []) ++
    [.getDueToday, .getOverdueTickets, .getDashboardSummary, .getUnresolvedByQueue]

/-- The ids in the cache, and the moment at which they were queried. -/
structure CacheEntry where
  ids : List ℕ
  queriedAt : ℕ
deriving DecidableEq

/-- The table of statuses with its past, and the dictionary. -/
structure StatusCache where
  statuses : History (List TicketStatus)
  cache : ℕ → Option CacheEntry := fun _ => none

/-- The steps of `_get_closed_status_ids`. -/
inductive Lookup where
  | test
  | query
  | fill (entry : CacheEntry)
  | read
deriving DecidableEq

/-- How a request ends: with a response, with an exception of its own, or with the `KeyError` of
the dictionary. -/
inductive Outcome where
  | answered
  | failed
  | keyError
deriving DecidableEq

/-- Where a request stands; `rest` are the services that it has yet to call. -/
inductive Phase where
  | waiting
  | lookup (stage : Lookup) (service : Service) (rest : List Service)
  | clear
  | done (outcome : Outcome) (endedAt : ℕ)
deriving DecidableEq

/-- Once a service has its ids, the next one is called, or the cache is cleared. -/
def Phase.after : List Service → Phase
  | [] => .clear
  | service :: rest => .lookup .test service rest

/-- A request for the dashboard of a tenant, and the ids that its services were given. -/
structure DashboardRequest where
  phase : Phase := .waiting
  tenant : ℕ := 0
  startedAt : ℕ := 0
  used : List (Service × List ℕ) := []

inductive Action where
  | get (tenant : ℕ) (isAdminOrManager : Bool)
  | proceed
  | fail
  | edit (statuses : List TicketStatus)

namespace StatusCache

variable (shared : StatusCache)

def proceed (request : DashboardRequest) : StatusCache × DashboardRequest :=
  match request.phase with
  | .waiting => (shared, request)
  | .lookup .test service rest =>
    let next := if (shared.cache request.tenant).isSome then Lookup.read else .query
    (shared, { request with phase := .lookup next service rest })
  | .lookup .query service rest =>
    let entry := ⟨closedIds request.tenant shared.statuses.present, shared.statuses.now⟩
    (shared, { request with phase := .lookup (.fill entry) service rest })
  | .lookup (.fill entry) service rest =>
    ({ shared with cache := Function.update shared.cache request.tenant (some entry) },
      { request with phase := .lookup .read service rest })
  | .lookup .read service rest =>
    match shared.cache request.tenant with
    | none => (shared, { request with phase := .done .keyError shared.statuses.now })
    | some entry =>
      (shared,
        { request with
          phase := .after rest
          used := request.used ++ [(service, entry.ids)] })
  | .clear =>
    ({ shared with cache := fun _ => none },
      { request with phase := .done .answered shared.statuses.now })
  | .done _ _ => (shared, request)

def fail (request : DashboardRequest) : DashboardRequest :=
  match request.phase with
  | .waiting | .done _ _ => request
  | .lookup _ _ _ | .clear => { request with phase := .done .failed shared.statuses.now }

end StatusCache

def act (_ : ℕ) (shared : StatusCache) (request : DashboardRequest) :
    Action → StatusCache × DashboardRequest
  | .get tenant isAdminOrManager =>
    match request.phase with
    | .waiting =>
      (shared,
        { phase := .lookup .test .getTicketStats (servicesAfterStats isAdminOrManager)
          tenant
          startedAt := shared.statuses.now })
    | _ => (shared, request)
  | .proceed => shared.proceed request
  | .fail => (shared, shared.fail request)
  | .edit statuses => ({ shared with statuses := shared.statuses.next statuses }, request)

/-! ## What they are given -/

def DashboardRequest.lastMoment (request : DashboardRequest) (now : ℕ) : ℕ :=
  match request.phase with
  | .done _ endedAt => endedAt
  | _ => now

/-- The ids that a request has used were in the database between its start and its end, and the
cache has not made it raise. -/
structure Served (shared : StatusCache) (request : DashboardRequest) : Prop where
  used : ∀ use ∈ request.used,
    shared.statuses.Between request.startedAt (request.lastMoment shared.statuses.now)
      fun statuses => use.2 = closedIds request.tenant statuses
  noKeyError : ∀ endedAt, request.phase ≠ .done .keyError endedAt

def AllServed (world : World StatusCache DashboardRequest) : Prop :=
  ∀ process, Served world.shared (world.locals process)

def Phase.reads : Phase → Bool
  | .lookup .read _ _ => true
  | _ => false

/--
An entry that a request reads has not gone out of date between its query and the start of the
request, and the cache is not cleared while another request is about to read it.
-/
def Undisturbed (world : World StatusCache DashboardRequest) (event : ℕ × Action) : Prop :=
  event.2 = .proceed →
    match (world.locals event.1).phase with
    | .lookup .read _ _ =>
      ∀ entry, world.shared.cache (world.locals event.1).tenant = some entry →
        world.shared.statuses.Unchanged entry.queriedAt (world.locals event.1).startedAt
          (closedIds (world.locals event.1).tenant)
    | .clear => ∀ other ≠ event.1, (world.locals other).phase.reads = false
    | _ => True

/-! ## The invariant -/

def Queried (statuses : History (List TicketStatus)) (tenant : ℕ) (entry : CacheEntry) : Prop :=
  ∃ table, statuses.stateAt entry.queriedAt = some table ∧ entry.ids = closedIds tenant table

def CacheQueried (shared : StatusCache) : Prop :=
  ∀ tenant entry, shared.cache tenant = some entry → Queried shared.statuses tenant entry

/-- A request is served, and the steps of its lookup have left what they promise. -/
structure InOrder (shared : StatusCache) (request : DashboardRequest) : Prop
    extends Served shared request where
  started : request.startedAt ≤ shared.statuses.now
  filling : ∀ entry service rest, request.phase = .lookup (.fill entry) service rest →
    Queried shared.statuses request.tenant entry
  reading : request.phase.reads = true → (shared.cache request.tenant).isSome = true

section Steps

variable {shared : StatusCache} {request : DashboardRequest} {phase : Phase}
variable {statuses : History (List TicketStatus)} {tenant : ℕ} {entry : CacheEntry}

theorem Queried.next (queried : Queried statuses tenant entry) (later : List TicketStatus) :
    Queried (statuses.next later) tenant entry := by
  obtain ⟨table, htable, hids⟩ := queried
  exact ⟨table, History.stateAt_next htable, hids⟩

theorem queried_now (statuses : History (List TicketStatus)) (tenant : ℕ) :
    Queried statuses tenant ⟨closedIds tenant statuses.present, statuses.now⟩ :=
  ⟨statuses.present, History.stateAt_now statuses, rfl⟩

theorem lastMoment_mono (request : DashboardRequest) {now later : ℕ} (hle : now ≤ later) :
    request.lastMoment now ≤ request.lastMoment later := by
  unfold DashboardRequest.lastMoment
  split
  · exact Nat.le_refl _
  · exact hle

theorem Served.next (served : Served shared request) (later : List TicketStatus) :
    Served { shared with statuses := shared.statuses.next later } request where
  used use huse := by
    apply History.Between.mono ((served.used use huse).next later)
    apply lastMoment_mono
    rw [History.now_next]
    exact Nat.le_succ _
  noKeyError := served.noKeyError

theorem InOrder.next (inOrder : InOrder shared request) (later : List TicketStatus) :
    InOrder { shared with statuses := shared.statuses.next later } request where
  toServed := inOrder.toServed.next later
  started := by
    dsimp only
    rw [History.now_next]
    exact Nat.le_succ_of_le inOrder.started
  filling entry service rest hphase := (inOrder.filling entry service rest hphase).next later
  reading := inOrder.reading

theorem InOrder.recache (inOrder : InOrder shared request) {cache : ℕ → Option CacheEntry}
    (hcache : request.phase.reads = true → (cache request.tenant).isSome = true) :
    InOrder { shared with cache } request where
  used := inOrder.used
  noKeyError := inOrder.noKeyError
  started := inOrder.started
  filling := inOrder.filling
  reading := hcache

theorem Served.goes (served : Served shared request)
    (hrunning : request.lastMoment shared.statuses.now = shared.statuses.now)
    (hphase : DashboardRequest.lastMoment { request with phase } shared.statuses.now =
      shared.statuses.now)
    (houtcome : ∀ endedAt, phase ≠ .done .keyError endedAt) :
    Served shared { request with phase } where
  used use huse := by
    rw [hphase, ← hrunning]
    exact served.used use huse
  noKeyError := houtcome

theorem between_of_queried (queried : Queried statuses tenant entry) {startedAt : ℕ}
    (hstarted : startedAt ≤ statuses.now)
    (unchanged : statuses.Unchanged entry.queriedAt startedAt (closedIds tenant)) :
    statuses.Between startedAt statuses.now fun table => entry.ids = closedIds tenant table := by
  obtain ⟨table, htable, hids⟩ := queried
  rw [hids]
  exact History.between_of_unchanged htable hstarted unchanged

theorem phase_after_ne (rest : List Service) (outcome : Outcome) (endedAt : ℕ) :
    Phase.after rest ≠ .done outcome endedAt := by
  cases rest <;> simp [Phase.after]

theorem CacheQueried.fill (queried : CacheQueried shared)
    (hfilled : Queried shared.statuses tenant entry) :
    CacheQueried { shared with cache := Function.update shared.cache tenant (some entry) } := by
  intro other found hfound
  dsimp only at hfound
  by_cases hother : other = tenant
  · subst hother
    rw [Function.update_self, Option.some.injEq] at hfound
    rwa [← hfound]
  · rw [Function.update_of_ne hother] at hfound
    exact queried other found hfound

theorem InOrder.proceed (inOrder : InOrder shared request) (queried : CacheQueried shared)
    (hunchanged : ∀ service rest entry, request.phase = .lookup .read service rest →
      shared.cache request.tenant = some entry →
        shared.statuses.Unchanged entry.queriedAt request.startedAt (closedIds request.tenant)) :
    CacheQueried (shared.proceed request).1 ∧
      InOrder (shared.proceed request).1 (shared.proceed request).2 := by
  obtain ⟨phase, tenant, startedAt, used⟩ := request
  have started := inOrder.started
  cases phase with
  | waiting => exact ⟨queried, inOrder⟩
  | done outcome endedAt => exact ⟨queried, inOrder⟩
  | clear =>
    refine ⟨?_, ⟨inOrder.used, ?_⟩, started, ?_, ?_⟩
    · intro _ _ hentry
      cases hentry
    · intro _ hdone
      cases hdone
    · intro _ _ _ hphase
      cases hphase
    · intro hreads
      cases hreads
  | lookup stage service rest =>
    cases stage with
    | test =>
      simp only [StatusCache.proceed]
      split
      · rename_i hcached
        refine ⟨queried, inOrder.toServed.goes rfl rfl ?_, started, ?_, fun _ => hcached⟩
        · intro _ hdone
          cases hdone
        · intro _ _ _ hphase
          cases hphase
      · refine ⟨queried, inOrder.toServed.goes rfl rfl ?_, started, ?_, ?_⟩
        · intro _ hdone
          cases hdone
        · intro _ _ _ hphase
          cases hphase
        · intro hreads
          cases hreads
    | query =>
      refine ⟨queried, inOrder.toServed.goes rfl rfl ?_, started, ?_, ?_⟩
      · intro _ hdone
        cases hdone
      · intro entry _ _ hphase
        cases hphase
        exact queried_now shared.statuses tenant
      · intro hreads
        cases hreads
    | fill entry =>
      have hfilled := inOrder.filling entry service rest rfl
      refine ⟨queried.fill hfilled, ⟨inOrder.used, ?_⟩, started, ?_, ?_⟩
      · intro _ hdone
        cases hdone
      · intro _ _ _ hphase
        cases hphase
      · intro _
        exact congrArg Option.isSome (Function.update_self tenant (some entry) shared.cache)
    | read =>
      obtain ⟨entry, hentry⟩ := Option.isSome_iff_exists.mp (inOrder.reading rfl)
      have hbetween := between_of_queried (queried tenant entry hentry) started
        (hunchanged service rest entry rfl hentry)
      simp only [StatusCache.proceed]
      rw [hentry]
      have hgoes : DashboardRequest.lastMoment
          { phase := .after rest, tenant, startedAt, used := used ++ [(service, entry.ids)] }
          shared.statuses.now = shared.statuses.now := by
        cases rest <;> rfl
      refine ⟨queried, ⟨?_, fun endedAt => phase_after_ne rest .keyError endedAt⟩, started, ?_, ?_⟩
      · intro use huse
        rw [hgoes]
        rcases List.mem_append.mp huse with hbefore | hlast
        · exact inOrder.used use hbefore
        · rw [List.mem_singleton.mp hlast]
          exact hbetween
      · intro _ _ _ hphase
        cases rest <;> cases hphase
      · intro hreads
        cases rest <;> cases hreads

theorem CacheQueried.next (queried : CacheQueried shared) (later : List TicketStatus) :
    CacheQueried { shared with statuses := shared.statuses.next later } :=
  fun tenant entry hentry => (queried tenant entry hentry).next later

theorem InOrder.fail (inOrder : InOrder shared request) : InOrder shared (shared.fail request) := by
  obtain ⟨phase, tenant, startedAt, used⟩ := request
  have hends : ∀ hrunning : DashboardRequest.lastMoment { phase, tenant, startedAt, used }
      shared.statuses.now = shared.statuses.now, InOrder shared
        { phase := .done .failed shared.statuses.now, tenant, startedAt, used } := by
    intro hrunning
    refine ⟨inOrder.toServed.goes hrunning rfl ?_, inOrder.started, ?_, ?_⟩
    · intro _ hdone
      cases hdone
    · intro _ _ _ hphase
      cases hphase
    · intro hreads
      cases hreads
  cases phase with
  | waiting => exact inOrder
  | done outcome endedAt => exact inOrder
  | lookup stage service rest => exact hends rfl
  | clear => exact hends rfl

theorem inOrder_start (shared : StatusCache) (tenant : ℕ) (rest : List Service) :
    InOrder shared
      { phase := .lookup .test .getTicketStats rest, tenant, startedAt := shared.statuses.now } where
  used use huse := by cases huse
  noKeyError _ hdone := by cases hdone
  started := Nat.le_refl _
  filling _ _ _ hphase := by cases hphase
  reading hreads := by cases hreads

theorem InOrder.others {other : DashboardRequest} (inOrder : InOrder shared other)
    (hclear : request.phase = .clear → other.phase.reads = false) :
    InOrder (shared.proceed request).1 other := by
  obtain ⟨phase, tenant, startedAt, used⟩ := request
  cases phase with
  | waiting => exact inOrder
  | done outcome endedAt => exact inOrder
  | clear =>
    refine inOrder.recache fun hreads => ?_
    rw [hclear rfl] at hreads
    cases hreads
  | lookup stage service rest =>
    cases stage with
    | test => exact inOrder
    | query => exact inOrder
    | fill entry =>
      refine inOrder.recache fun hreads => ?_
      by_cases htenant : other.tenant = tenant
      · rw [htenant, Function.update_self]
        rfl
      · rw [Function.update_of_ne htenant]
        exact inOrder.reading hreads
    | read =>
      simp only [StatusCache.proceed]
      split <;> exact inOrder

end Steps

theorem undisturbed_sound :
    World.Sound act Undisturbed CacheQueried fun _ shared request => InOrder shared request where
  own world process action keeps undisturbed := by
    have inOrder := keeps.locals process
    cases action with
    | get tenant isAdminOrManager =>
      simp only [act]
      split
      · exact ⟨keeps.shared, inOrder_start world.shared tenant _⟩
      · exact ⟨keeps.shared, inOrder⟩
    | proceed =>
      refine inOrder.proceed keeps.shared fun service rest entry hphase hentry => ?_
      have hread := undisturbed rfl
      dsimp only at hread
      rw [hphase] at hread
      exact hread entry hentry
    | fail => exact ⟨keeps.shared, inOrder.fail⟩
    | edit statuses => exact ⟨keeps.shared.next statuses, inOrder.next statuses⟩
  others world process action other keeps undisturbed hother := by
    have inOrder := keeps.locals other
    cases action with
    | get tenant isAdminOrManager =>
      simp only [act]
      split <;> exact inOrder
    | proceed =>
      refine inOrder.others fun hphase => ?_
      have hclear := undisturbed rfl
      dsimp only at hclear
      rw [hphase] at hclear
      exact hclear other hother
    | fail => exact inOrder
    | edit statuses => exact inOrder.next statuses

/-! ## Runs -/

def started (statuses : List TicketStatus) : World StatusCache DashboardRequest where
  shared := { statuses := { present := statuses } }
  locals _ := {}

theorem started_keeps (statuses : List TicketStatus) :
    World.Keeps CacheQueried (fun _ shared request => InOrder shared request)
      (started statuses) where
  shared tenant entry hentry := by cases hentry
  locals _ :=
    { used := fun use huse => by cases huse
      noKeyError := fun _ hdone => by cases hdone
      started := Nat.zero_le _
      filling := fun _ _ _ hphase => by cases hphase
      reading := fun hreads => by cases hreads }

/-- In every undisturbed interleaving all requests are served throughout. -/
theorem served_throughout (statuses : List TicketStatus) (events : List (ℕ × Action))
    (undisturbed : Every (World.turn act) Undisturbed (started statuses) events) :
    Always (World.turn act) AllServed (started statuses) events := by
  refine always_of_invariant
    (World.Keeps CacheQueried fun _ shared request => InOrder shared request) ?_ ?_ ?_ events
    undisturbed
  · intro world keeps process
    exact (keeps.locals process).toServed
  · intro world event keeps hundisturbed
    exact undisturbed_sound.turn keeps hundisturbed
  · exact started_keeps statuses

/-- The statuses of two tenants, the second of each closed. -/
def twoTenants : List TicketStatus :=
  [ { id := 1, tenant := 1, slug := "open", name := "Open" },
    { id := 2, tenant := 1, slug := "closed", name := "Closed", isClosed := true },
    { id := 3, tenant := 2, slug := "open", name := "Open" },
    { id := 4, tenant := 2, slug := "closed", name := "Closed", isClosed := true } ]

/-- The same after the first tenant has closed its open status, too. -/
def bothClosed : List TicketStatus :=
  twoTenants.map fun status => if status.id = 1 then { status with isClosed := true } else status

/-- The first lookup of a request, without the cache. -/
def firstLookup : List (ℕ × Action) :=
  [(0, .get 1 false), (0, .proceed), (0, .proceed), (0, .proceed)]

/-- A request that is alone with its cache is served. -/
theorem served_throughout_firstLookup :
    Always (World.turn act) AllServed (started twoTenants) (firstLookup ++ [(0, .proceed)]) := by
  refine served_throughout twoTenants _ ⟨?_, ?_, ?_, ?_, ?_, trivial⟩
  · intro hproceed
    cases hproceed
  · intro _
    trivial
  · intro _
    trivial
  · intro _
    trivial
  · rintro - entry - moment before state - - hbefore hstate
    have hbefore' : before = twoTenants := List.mem_singleton.mp (List.mem_of_getElem? hbefore)
    have hstate' : state = twoTenants := List.mem_singleton.mp (List.mem_of_getElem? hstate)
    rw [hbefore', hstate']

/-- A request raises in its first lookup; the statuses are edited, and the next request of the
tenant, which answers, is given what the first one has left. -/
def staleRun : List (ℕ × Action) :=
  firstLookup ++ [(0, .fail), (2, .edit bothClosed), (1, .get 1 false)] ++
    List.replicate 11 (1, .proceed)

/-- A request of one tenant answers while one of another is about to read. -/
def clearedRun : List (ℕ × Action) :=
  [(1, .get 2 false), (1, .proceed), (1, .proceed), (1, .proceed)] ++ firstLookup ++
    List.replicate 10 (0, .proceed) ++ [(1, .proceed)]

/-- The first defect gives a request ids that were out of date when it started; the second makes a
request raise. -/
theorem not_served_throughout :
    ¬ Always (World.turn act) AllServed (started twoTenants) staleRun ∧
      ¬ Always (World.turn act) AllServed (started twoTenants) clearedRun := by
  constructor
  · intro always
    have served := always.finish 1
    have hused : (.getTicketStats, [2]) ∈
        ((run (World.turn act) (started twoTenants) staleRun).locals 1).used := by
      decide +kernel
    have hspan : ((run (World.turn act) (started twoTenants) staleRun).locals 1).startedAt = 1 ∧
        ((run (World.turn act) (started twoTenants) staleRun).locals 1).phase =
          .done .answered 1 := by
      decide +kernel
    have hnow : (run (World.turn act) (started twoTenants) staleRun).shared.statuses.stateAt 1 =
        some bothClosed := rfl
    have htenant : ((run (World.turn act) (started twoTenants) staleRun).locals 1).tenant = 1 := by
      decide +kernel
    obtain ⟨moment, table, hfirst, hlast, htable, hids⟩ := served.used _ hused
    rw [DashboardRequest.lastMoment, hspan.2] at hlast
    rw [hspan.1] at hfirst
    obtain rfl : moment = 1 := Nat.le_antisymm hlast hfirst
    rw [hnow, Option.some.injEq] at htable
    rw [htenant, ← htable] at hids
    exact absurd hids (by decide)
  · intro always
    have hraised : ((run (World.turn act) (started twoTenants) clearedRun).locals 1).phase =
        .done .keyError 0 := by
      decide +kernel
    exact (always.finish 1).noKeyError 0 hraised

end Kanzan.Analytics
