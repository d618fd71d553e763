import Mathlib.Data.List.Induction
import Mathlib.Data.List.Nodup
import Kanzan.Tenants.Pages

/-!
# Where sessions come from

What the requests that established a session had found before, over every interleaving with
deactivations, changes of memberships and the passage of time.
-/

namespace Kanzan.Tenants

open Support

def opening (realm : Realm) : World Realm Visitor where
  shared := { realm with sessions := [] }
  locals _ := .ready

def reached (realm : Realm) (events : List (ℕ × Act)) : World Realm Visitor :=
  run (World.turn Realm.act) (opening realm) events

def Found (realm : Realm) (events : List (ℕ × Act)) (request : ℕ) (action : Act)
    (Holds : Realm → Visitor → Prop) : Prop :=
  Occurred (World.turn Realm.act)
    (fun world event => event = (request, action) ∧ Holds world.shared (world.locals request))
    (opening realm) events

def Presents (token user : ℕ) (Holds : Realm → EmailVerificationToken → Prop) (realm : Realm)
    (visitor : Visitor) : Prop :=
  visitor = .ready ∧ ∃ row, realm.tokens token = some row ∧ row.user = user ∧ Holds realm row

/-- Neither consumed nor expired. -/
def Valid (realm : Realm) (row : EmailVerificationToken) : Prop :=
  row.isConsumed = false ∧ row.isExpired realm.clock = false

/-- Consumed, and its user active. -/
def Repeated (realm : Realm) (row : EmailVerificationToken) : Prop :=
  row.isConsumed = true ∧ realm.isActive row.user = true

def Signed (index : ℕ) (payload : HandoffToken) (realm : Realm) (visitor : Visitor) : Prop :=
  visitor = .ready ∧ realm.minted[index]? = some payload ∧ payload.isExpired realm.clock = false

section Claims

variable (realm : Realm) (events : List (ℕ × Act)) (request : ℕ)

/-- A request began with a token that is valid, or that was consumed by an active user. -/
def Verified (token user : ℕ) (host : Option ℕ) : Prop :=
  Found realm events request (.verify host (some token)) fun realm visitor =>
    Presents token user (fun realm row => Valid realm row ∨ Repeated realm row) realm visitor

def Verifying (token user : ℕ) (host : Option ℕ) : Prop :=
  Found realm events request (.verify host (some token)) (Presents token user Valid)

/-- A request on a tenant host began with a hand-off token that is valid. -/
def Handed (index : ℕ) (payload : HandoffToken) (tenant : ℕ) : Prop :=
  Found realm events request (.handoff (some tenant) (some index)) (Signed index payload)

def Identified (payload : HandoffToken) : Prop :=
  Found realm events request .next fun realm _ => realm.isActive payload.uid = true

def Admitted (payload : HandoffToken) (tenant : ℕ) : Prop :=
  Found realm events request .next fun realm _ =>
    realm.hasTenantMembership payload.uid tenant = true

def Knows : Visitor → Prop
  | .verifying token row host => Verifying realm events request token row.user host
  | .verified token user host => Verified realm events request token user host
  | .handed index payload tenant => Handed realm events request index payload tenant
  | .identified index payload tenant => Handed realm events request index payload tenant ∧
      Identified realm events request payload
  | .admitted index payload tenant => Handed realm events request index payload tenant ∧
      Identified realm events request payload ∧ Admitted realm events request payload tenant
  | _ => True

def Grounded (session : Session) : Prop :=
  match session.origin with
  | .verification token => Verified realm events session.request token session.user session.host
  | .handoff index => ∃ payload tenant, session.user = payload.uid ∧ session.host = some tenant ∧
      Handed realm events session.request index payload tenant ∧
      Identified realm events session.request payload ∧
      Admitted realm events session.request payload tenant

end Claims

def Visitor.session? (request : ℕ) : Visitor → Option Session
  | .verified token user host =>
    some { request := request, user := user, host := host, origin := .verification token }
  | .admitted index payload tenant =>
    some
      { request := request
        user := payload.uid
        host := some tenant
        origin := .handoff index
        showWelcomeBack := payload.wb }
  | _ => none

def Act.isNext : Act → Bool
  | .next => true
  | _ => false

def Visitor.isPast : Visitor → Bool
  | .routing _ => true
  | .done _ => true
  | _ => false

variable {action : Act} {Holds : Realm → Visitor → Prop} {session : Session}

section Laws

variable {realm : Realm} {events : List (ℕ × Act)} {request : ℕ} {visitor : Visitor}

theorem reached_snoc (event : ℕ × Act) :
    reached realm (events ++ [event]) = (reached realm events).turn Realm.act event :=
  run_snoc (opening realm) events event

theorem Found.snoc (found : Found realm events request action Holds) (event : ℕ × Act) :
    Found realm (events ++ [event]) request action Holds :=
  Occurred.snoc found event

theorem Found.last
    (holds : Holds (reached realm events).shared ((reached realm events).locals request)) :
    Found realm (events ++ [(request, action)]) request action Holds :=
  Occurred.last ⟨rfl, holds⟩

theorem Found.mono {Holds' : Realm → Visitor → Prop}
    (weaker : ∀ realm visitor, Holds realm visitor → Holds' realm visitor)
    (found : Found realm events request action Holds) :
    Found realm events request action Holds' := by
  obtain ⟨first, event, rest, heq, hevent, holds⟩ := found
  exact ⟨first, event, rest, heq, hevent, weaker _ _ holds⟩

theorem Knows.snoc (knows : Knows realm events request visitor) (event : ℕ × Act) :
    Knows realm (events ++ [event]) request visitor := by
  cases visitor with
  | verifying token row host => exact Found.snoc knows event
  | verified token user host => exact Found.snoc knows event
  | handed index payload tenant => exact Found.snoc knows event
  | identified index payload tenant =>
    exact ⟨Found.snoc knows.1 event, Found.snoc knows.2 event⟩
  | admitted index payload tenant =>
    exact ⟨Found.snoc knows.1 event, Found.snoc knows.2.1 event, Found.snoc knows.2.2 event⟩
  | _ => trivial

theorem Grounded.snoc (grounded : Grounded realm events session) (event : ℕ × Act) :
    Grounded realm (events ++ [event]) session := by
  rw [Grounded] at grounded ⊢
  cases horigin : session.origin with
  | verification token =>
    rw [horigin] at grounded
    exact Found.snoc grounded event
  | handoff index =>
    rw [horigin] at grounded
    obtain ⟨payload, tenant, huser, hhost, handed, identified, admitted⟩ := grounded
    exact ⟨payload, tenant, huser, hhost, Found.snoc handed event, Found.snoc identified event,
      Found.snoc admitted event⟩

/-! ## One turn -/

theorem sessions_act (realm : Realm) (request : ℕ) (visitor : Visitor) (action : Act) :
    (Realm.act request realm visitor action).1.sessions =
      realm.sessions ++ if action.isNext then (visitor.session? request).toList else [] := by
  cases action with
  | next =>
    cases visitor with
    | verified token user host => rfl
    | admitted index payload tenant => rfl
    | routing user =>
      rw [Realm.act, Realm.proceed, Realm.postAuthRedirect]
      split
      · exact (List.append_nil _).symm
      · exact (List.append_nil _).symm
      · exact (List.append_nil _).symm
    | _ => exact (List.append_nil _).symm
  | verify host token => cases visitor <;> exact (List.append_nil _).symm
  | handoff tenant token => cases visitor <;> exact (List.append_nil _).symm
  | _ => exact (List.append_nil _).symm

theorem grounded_session (knows : Knows realm events request visitor)
    (hsession : visitor.session? request = some session) : Grounded realm events session := by
  cases visitor with
  | verified token user host =>
    obtain rfl := Option.some.inj hsession
    exact knows
  | admitted index payload tenant =>
    obtain rfl := Option.some.inj hsession
    exact ⟨payload, tenant, rfl, rfl, knows⟩
  | _ => cases hsession

theorem verified_of_verifying {token user : ℕ} {host : Option ℕ}
    (verifying : Verifying realm events request token user host) :
    Verified realm events request token user host := by
  refine Found.mono ?_ verifying
  rintro realm visitor ⟨hready, row, hrow, huser, valid⟩
  exact ⟨hready, row, hrow, huser, .inl valid⟩

theorem knows_verifyEmailPage (hready : (reached realm events).locals request = .ready)
    (host token : Option ℕ) :
    Knows realm (events ++ [(request, .verify host token)]) request
      ((reached realm events).shared.verifyEmailPage host token) := by
  cases token with
  | none => trivial
  | some token =>
    rw [Realm.verifyEmailPage]
    cases hrow : (reached realm events).shared.tokens token with
    | none => trivial
    | some row =>
      simp only
      split
      · rename_i hconsumed
        split
        · rename_i hactive
          refine Found.last ?_
          exact ⟨hready, row, hrow, rfl, .inr ⟨hconsumed, hactive⟩⟩
        · trivial
      · rename_i hconsumed
        split
        · trivial
        · rename_i hexpired
          refine Found.last ?_
          exact ⟨hready, row, hrow, rfl, eq_false_of_ne_true hconsumed,
            eq_false_of_ne_true hexpired⟩

theorem knows_authHandoff (hready : (reached realm events).locals request = .ready)
    (tenant token : Option ℕ) :
    Knows realm (events ++ [(request, .handoff tenant token)]) request
      ((reached realm events).shared.authHandoff tenant token) := by
  cases tenant with
  | none => trivial
  | some tenant =>
    cases token with
    | none => trivial
    | some index =>
      rw [Realm.authHandoff]
      cases hpayload : (reached realm events).shared.minted[index]? with
      | none => trivial
      | some payload =>
        simp only
        split
        · trivial
        · rename_i hexpired
          refine Found.last ?_
          exact ⟨hready, hpayload, eq_false_of_ne_true hexpired⟩

theorem knows_act (hvisitor : (reached realm events).locals request = visitor)
    (knows : Knows realm events request visitor) (action : Act) :
    Knows realm (events ++ [(request, action)]) request
      (Realm.act request (reached realm events).shared visitor action).2 := by
  cases action with
  | verify host token =>
    cases visitor with
    | ready => exact knows_verifyEmailPage hvisitor host token
    | _ => exact knows.snoc _
  | handoff tenant token =>
    cases visitor with
    | ready => exact knows_authHandoff hvisitor tenant token
    | _ => exact knows.snoc _
  | next =>
    cases visitor with
    | verifying token row host => exact (verified_of_verifying knows).snoc _
    | handed index payload tenant =>
      rw [Realm.act, Realm.proceed]
      split
      · rename_i hactive
        exact ⟨Found.snoc knows _, Found.last hactive⟩
      · trivial
    | identified index payload tenant =>
      rw [Realm.act, Realm.proceed]
      split
      · rename_i hmember
        exact ⟨Found.snoc knows.1 _, Found.snoc knows.2 _, Found.last hmember⟩
      · trivial
    | _ => trivial
  | _ => exact knows.snoc _

/-! ## Runs -/

/-- What holds of the requests and sessions of every run. -/
structure Lawful (realm : Realm) (events : List (ℕ × Act)) : Prop where
  knows : ∀ request, Knows realm events request ((reached realm events).locals request)
  grounded : ∀ session ∈ (reached realm events).shared.sessions, Grounded realm events session
  fresh : ∀ request, ((reached realm events).locals request).isPast = false →
    ∀ session ∈ (reached realm events).shared.sessions, session.request ≠ request
  once : ((reached realm events).shared.sessions.map Session.request).Nodup

theorem request_of_session (hsession : visitor.session? request = some session) :
    session.request = request ∧ visitor.isPast = false := by
  cases visitor with
  | verified token user host =>
    obtain rfl := Option.some.inj hsession
    exact ⟨rfl, rfl⟩
  | admitted index payload tenant =>
    obtain rfl := Option.some.inj hsession
    exact ⟨rfl, rfl⟩
  | _ => cases hsession

theorem isPast_act (realm : Realm) (request : ℕ) (visitor : Visitor) (action : Act)
    (hpast : (Realm.act request realm visitor action).2.isPast = false) :
    visitor.isPast = false ∧ (action.isNext = true → visitor.session? request = none) := by
  cases action with
  | next =>
    cases visitor with
    | ready => exact ⟨rfl, fun _ => rfl⟩
    | verifying token row host => exact ⟨rfl, fun _ => rfl⟩
    | handed index payload tenant => exact ⟨rfl, fun _ => rfl⟩
    | identified index payload tenant => exact ⟨rfl, fun _ => rfl⟩
    | _ => cases hpast
  | verify host token =>
    refine ⟨?_, fun hnext => by cases hnext⟩
    cases visitor with
    | ready => rfl
    | _ => exact hpast
  | handoff tenant token =>
    refine ⟨?_, fun hnext => by cases hnext⟩
    cases visitor with
    | ready => rfl
    | _ => exact hpast
  | _ => exact ⟨hpast, fun hnext => by cases hnext⟩

theorem lawful_reached (realm : Realm) (events : List (ℕ × Act)) : Lawful realm events := by
  induction events using List.reverseRecOn with
  | nil =>
    exact ⟨fun _ => trivial, fun _ hmem => absurd hmem List.not_mem_nil,
      fun _ _ _ hmem => absurd hmem List.not_mem_nil, List.nodup_nil⟩
  | append_singleton events event ih =>
    obtain ⟨process, action⟩ := event
    have hsessions := sessions_act (reached realm events).shared process
      ((reached realm events).locals process) action
    -- The sessions are the old ones, and possibly one of the process, which had none.
    have hnew : ∀ session ∈ (reached realm (events ++ [(process, action)])).shared.sessions,
        session ∈ (reached realm events).shared.sessions ∨
          action.isNext = true ∧
            ((reached realm events).locals process).session? process = some session := by
      intro session hmem
      rw [reached_snoc, World.turn_shared, hsessions] at hmem
      rcases List.mem_append.mp hmem with hold | hmem
      · exact .inl hold
      · split at hmem
        · rename_i hnext
          exact .inr ⟨hnext, Option.mem_toList.mp hmem⟩
        · cases hmem
    refine ⟨?_, ?_, ?_, ?_⟩
    · intro request
      rw [reached_snoc]
      by_cases heq : request = process
      · subst heq
        rw [World.turn_locals_self]
        exact knows_act rfl (ih.knows request) action
      · rw [World.turn_locals_of_ne _ action heq]
        exact (ih.knows request).snoc _
    · intro session hmem
      rcases hnew session hmem with hold | ⟨-, hsession⟩
      · exact (ih.grounded session hold).snoc _
      · exact (grounded_session (ih.knows process) hsession).snoc _
    · intro request hpast session hmem
      rw [reached_snoc] at hpast
      by_cases heq : request = process
      · subst heq
        rw [World.turn_locals_self] at hpast
        obtain ⟨hbefore, hnone⟩ := isPast_act _ _ _ _ hpast
        rcases hnew session hmem with hold | ⟨hnext, hsession⟩
        · exact ih.fresh request hbefore session hold
        · cases (hnone hnext).symm.trans hsession
      · rw [World.turn_locals_of_ne _ action heq] at hpast
        rcases hnew session hmem with hold | ⟨-, hsession⟩
        · exact ih.fresh request hpast session hold
        · rw [(request_of_session hsession).1]
          exact Ne.symm heq
    · rw [reached_snoc, World.turn_shared, hsessions, List.map_append]
      refine List.nodup_append.mpr ⟨ih.once, ?_, ?_⟩
      · split
        · cases ((reached realm events).locals process).session? process with
          | none => exact List.nodup_nil
          | some session => exact List.nodup_singleton _
        · exact List.nodup_nil
      · rintro first hfirst second hsecond rfl
        obtain ⟨old, hold, rfl⟩ := List.mem_map.mp hfirst
        obtain ⟨session, hmem, heq⟩ := List.mem_map.mp hsecond
        split at hmem
        · have hsession := Option.mem_toList.mp hmem
          obtain ⟨hrequest, hpast⟩ := request_of_session hsession
          exact ih.fresh process hpast old hold (heq.symm.trans hrequest)
        · cases hmem

/-! ## Activation -/

theorem activated_act {user : ℕ} (hbefore : realm.isActive user = false)
    (hafter : (Realm.act request realm visitor action).1.isActive user = true) :
    action = .setActive user true ∨
      ∃ token row host, visitor = .verifying token row host ∧ row.user = user := by
  have hsame : ∀ other : Realm, other.users = realm.users → other.isActive user ≠ true := by
    intro other heq
    rw [Realm.isActive, heq]
    exact ne_true_of_eq_false hbefore
  cases action with
  | next =>
    cases visitor with
    | verifying token row host =>
      refine .inr ⟨token, row, host, rfl, ?_⟩
      by_contra hne
      refine ne_true_of_eq_false hbefore ?_
      change (Function.update realm.users row.user _ user).any User.isActive = true at hafter
      rwa [Function.update_of_ne (Ne.symm hne)] at hafter
    | routing shown =>
      rw [Realm.act, Realm.proceed, Realm.postAuthRedirect] at hafter
      split at hafter
      · exact absurd hafter (hsame _ rfl)
      · exact absurd hafter (hsame _ rfl)
      · exact absurd hafter (hsame _ rfl)
    | _ => exact absurd hafter (hsame _ rfl)
  | verify host token => cases visitor <;> exact absurd hafter (hsame _ rfl)
  | handoff tenant token => cases visitor <;> exact absurd hafter (hsame _ rfl)
  | setActive shown isActive =>
    left
    change (Function.update realm.users shown _ user).any User.isActive = true at hafter
    by_cases heq : user = shown
    · subst heq
      rw [Function.update_self] at hafter
      cases hrow : realm.users user with
      | none =>
        rw [hrow] at hafter
        cases hafter
      | some row =>
        rw [hrow] at hafter
        obtain rfl : isActive = true := hafter
        rfl
    · rw [Function.update_of_ne heq] at hafter
      exact absurd hafter (ne_true_of_eq_false hbefore)
  | _ => exact absurd hafter (hsame _ rfl)

/--
Over every interleaving: a request establishes at most one session; a session of a verification
token comes from a request that found the token valid, or consumed and its user active; one of a
hand-off token from a request on a tenant host that found the signature good and not too old, the
user active and a member of the tenant; and a token activates its user only in a request that found
it valid.
-/
theorem sessions_lawful (realm : Realm) (events : List (ℕ × Act)) :
    ((reached realm events).shared.sessions.map Session.request).Nodup ∧
      (∀ session ∈ (reached realm events).shared.sessions, Grounded realm events session) ∧
      ∀ request action user, (reached realm events).shared.isActive user = false →
        ((reached realm events).turn Realm.act (request, action)).shared.isActive user = true →
          action = .setActive user true ∨
            ∃ token host, Verifying realm events request token user host := by
  have lawful := lawful_reached realm events
  refine ⟨lawful.once, lawful.grounded, fun request action user hbefore hafter => ?_⟩
  refine (activated_act hbefore hafter).imp_right ?_
  rintro ⟨token, row, host, hvisitor, rfl⟩
  have knows := lawful.knows request
  rw [hvisitor] at knows
  exact ⟨token, host, knows⟩

/-! ## Two clicks -/

/-- No token establishes a second session. -/
def OneShot (realm : Realm) : Prop := (realm.sessions.map Session.origin).Nodup

/-- An inactive user 7 with a token. -/
def signup : Realm where
  users user := if user = 7 then some { isActive := false } else none
  tokens token := if token = 0 then some { user := 7, expiresAt := 100 } else none
  memberships := []
  isActiveTenant _ := true
  clock := 50

/-- The link is opened twice, the second time after it has expired. -/
theorem not_oneShot_twice :
    ¬OneShot (reached signup
      [(0, .verify none (some 0)), (0, .next), (0, .next), (0, .tick 60),
        (1, .verify none (some 0)), (1, .next)]).shared := by
  rw [OneShot]
  decide +kernel

end Laws

end Kanzan.Tenants
