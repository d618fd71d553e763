import Kanzan.ApiKeys.Authentication

/-!
# Who holds which credential

Runs of minting, rotating, revoking and authenticating, beside the log of the cleartexts handed out
and of the revocations.  `Exact` says that a request is answered for a key exactly when it presents
the cleartext last minted for it.
-/

namespace Kanzan.ApiKeys

open Support Attachments

/-- The rows, with the cleartexts handed out, the last one first, and the keys revoked. -/
structure World where
  db : Db
  minted : List (ℕ × String)
  revoked : List ℕ

inductive Op where
  | create (request : KeyRequest) (token : String)
  | regenerate (pk : ℕ) (token : String)
  | revoke (pk : ℕ)
  | authenticate (now : ℕ) (request : Request)

namespace World

def start (slugs : ℕ → String) : World :=
  { db := { slugs := slugs, keys := [], memberships := [] }
    minted := []
    revoked := [] }

variable (world : World)

def get (pk : ℕ) : Option APIKey := world.db.keys.find? fun key => key.pk = pk

def latest (pk : ℕ) : Option String := world.minted.lookup pk

def minting (pk : ℕ) (cleartext : String) (db : Db) : World :=
  { world with
    db := db
    minted := (pk, cleartext) :: world.minted }

def step (digest : Digest) (world : World) : Op → World
  | .create request token =>
    match createApiKey digest world.db request token with
    | none => world
    | some (apikey, cleartext, db) => world.minting apikey.pk cleartext db
  | .regenerate pk token =>
    match world.get pk with
    | none => world
    | some apikey =>
      let (cleartext, db) := regenerateApiKey digest world.db apikey token
      world.minting apikey.pk cleartext db
  | .revoke pk =>
    match world.get pk with
    | none => world
    | some apikey =>
      { world with
        db := revokeApiKey world.db apikey
        revoked := apikey.pk :: world.revoked }
  | .authenticate now request =>
    match authenticate digest world.db now request with
    | .ok (some (_, db)) => { world with db := db }
    | _ => world

end World

/-! ## What the rows remember -/

/-- The stored columns of a key belong to a cleartext. -/
structure Stores (digest : Digest) (key : APIKey) (cleartext : String) : Prop where
  start : startsWith "kz_live_" cleartext = true
  lookup : key.keyPrefix = lookupPart cleartext
  hash : key.hashedKey = hashKey digest cleartext

/-- A row agrees with the log. -/
structure Recorded (digest : Digest) (world : World) (key : APIKey) : Prop where
  old : key.pk < world.db.keys.length
  minted : ∃ cleartext, world.latest key.pk = some cleartext ∧ Stores digest key cleartext
  active : key.isActive = !world.revoked.contains key.pk
  user : key.serviceUser.isActive = key.isActive

structure Consistent (digest : Digest) (world : World) : Prop where
  recorded : ∀ key ∈ world.db.keys, Recorded digest world key
  revoked : ∀ pk ∈ world.revoked, pk < world.db.keys.length

variable {pk : ℕ} {db : Db} {key : APIKey} {cleartext token : String}

section Steps

variable {digest : Digest} {world : World}

theorem consistent_start (slugs : ℕ → String) : Consistent digest (World.start slugs) where
  recorded := nofun
  revoked := nofun

@[simp]
theorem latest_minting_self : (world.minting pk cleartext db).latest pk = some cleartext := by
  simp [World.latest, World.minting]

theorem latest_minting_of_ne {other : ℕ} (hne : other ≠ pk) :
    (world.minting pk cleartext db).latest other = world.latest other := by
  have hbeq : (other == pk) = false := beq_false_of_ne hne
  simp [World.latest, World.minting, List.lookup_cons, hbeq]

theorem get_eq_some (hget : world.get pk = some key) : key ∈ world.db.keys ∧ key.pk = pk := by
  have hfound := List.find?_some hget
  exact ⟨List.mem_of_find?_eq_some hget, of_decide_eq_true hfound⟩

/-- A new key is recorded with its cleartext; the others have other numbers. -/
theorem consistent_create (consistent : Consistent digest world) {request : KeyRequest} :
    Consistent digest (world.step digest (.create request token)) := by
  rw [World.step, createApiKey]
  by_cases hname :
      (world.db.keys.any fun key => key.tenant = request.tenant ∧ key.name = request.name) = true
  · rw [if_pos hname]
    exact consistent
  · rw [if_neg hname]
    constructor
    · intro key hkey
      rcases List.mem_append.mp hkey with hold | hnew
      · have recorded := consistent.recorded key hold
        have hne : key.pk ≠ world.db.keys.length := Nat.ne_of_lt recorded.old
        constructor
        · exact Nat.lt_of_lt_of_le recorded.old (by simp [World.minting])
        · exact (latest_minting_of_ne hne).symm ▸ recorded.minted
        · exact recorded.active
        · exact recorded.user
      · obtain rfl := List.mem_singleton.mp hnew
        have hunrevoked : world.db.keys.length ∉ world.revoked := fun hmem =>
          Nat.lt_irrefl _ (consistent.revoked _ hmem)
        constructor
        · simp [World.minting, newKey]
        · exact ⟨_, latest_minting_self, startsWith_generateCleartext .., rfl, rfl⟩
        · simp [World.minting, newKey, hunrevoked]
        · rfl
    · intro pk hmem
      exact Nat.lt_of_lt_of_le (consistent.revoked pk hmem) (by simp [World.minting])

theorem consistent_of_update {world' : World} {f : APIKey → APIKey}
    (consistent : Consistent digest world) (hkeys : world'.db.keys = (world.db.update pk f).keys)
    (hself : ∀ old, Recorded digest world old → old.pk = pk → Recorded digest world' (f old))
    (hothers : ∀ old, Recorded digest world old → old.pk ≠ pk → Recorded digest world' old)
    (hrevoked : ∀ other ∈ world'.revoked, other < world.db.keys.length) :
    Consistent digest world' where
  recorded key hkey := by
    rw [hkeys] at hkey
    obtain ⟨old, hold, rfl⟩ := Db.mem_update.mp hkey
    have recorded := consistent.recorded old hold
    by_cases heq : old.pk = pk
    · rw [if_pos heq]
      exact hself old recorded heq
    · rw [if_neg heq]
      exact hothers old recorded heq
  revoked other hmem := by
    rw [hkeys, Db.length_update]
    exact hrevoked other hmem

theorem consistent_regenerate (consistent : Consistent digest world) :
    Consistent digest (world.step digest (.regenerate pk token)) := by
  rw [World.step]
  cases hget : world.get pk with
  | none => exact consistent
  | some apikey =>
    refine consistent_of_update consistent rfl ?_ ?_ consistent.revoked
    · intro old recorded heq
      constructor
      · exact Nat.lt_of_lt_of_eq recorded.old Db.length_update.symm
      · refine ⟨_, ?_, startsWith_generateCleartext .., rfl, rfl⟩
        exact (congrArg _ heq).trans latest_minting_self
      · exact recorded.active
      · exact recorded.user
    · intro old recorded hne
      constructor
      · exact Nat.lt_of_lt_of_eq recorded.old Db.length_update.symm
      · exact (latest_minting_of_ne hne).symm ▸ recorded.minted
      · exact recorded.active
      · exact recorded.user

theorem consistent_revoke (consistent : Consistent digest world) :
    Consistent digest (world.step digest (.revoke pk)) := by
  rw [World.step]
  cases hget : world.get pk with
  | none => exact consistent
  | some apikey =>
    refine consistent_of_update consistent rfl ?_ ?_ ?_
    · intro old recorded heq
      obtain ⟨cleartext, hlatest, stores⟩ := recorded.minted
      constructor
      · exact Nat.lt_of_lt_of_eq recorded.old Db.length_update.symm
      · exact ⟨cleartext, hlatest, stores.start, stores.lookup, stores.hash⟩
      · simp [APIKey.revoked, heq]
      · rfl
    · intro old recorded hne
      constructor
      · exact Nat.lt_of_lt_of_eq recorded.old Db.length_update.symm
      · exact recorded.minted
      · simpa [List.contains_cons, hne] using recorded.active
      · exact recorded.user
    · intro other hmem
      rcases List.mem_cons.mp hmem with rfl | hold
      · exact (consistent.recorded apikey (get_eq_some hget).1).old
      · exact consistent.revoked other hold

theorem consistent_authenticate (consistent : Consistent digest world) {now : ℕ}
    {request : Request} : Consistent digest (world.step digest (.authenticate now request)) := by
  rw [World.step]
  split
  · rename_i key db hreturned
    obtain rfl := rows_of_authenticate hreturned
    refine consistent_of_update consistent rfl ?_ ?_ consistent.revoked
    · intro old recorded _
      obtain ⟨cleartext, hlatest, stores⟩ := recorded.minted
      constructor
      · exact Nat.lt_of_lt_of_eq recorded.old Db.length_update.symm
      · exact ⟨cleartext, hlatest, stores.start, stores.lookup, stores.hash⟩
      · exact recorded.active
      · exact recorded.user
    · intro old recorded _
      constructor
      · exact Nat.lt_of_lt_of_eq recorded.old Db.length_update.symm
      · exact recorded.minted
      · exact recorded.active
      · exact recorded.user
  · exact consistent

theorem consistent_step (consistent : Consistent digest world) (op : Op) :
    Consistent digest (world.step digest op) := by
  cases op with
  | create request token => exact consistent_create consistent
  | regenerate pk token => exact consistent_regenerate consistent
  | revoke pk => exact consistent_revoke consistent
  | authenticate now request => exact consistent_authenticate consistent

end Steps

theorem consistent_run (digest : Digest) (slugs : ℕ → String) (ops : List Op) :
    Consistent digest (run (World.step digest) (World.start slugs) ops) :=
  run_invariant (Consistent digest) (fun _ op consistent _ => consistent_step consistent op)
    (consistent_start slugs) ops (every_of_forall (fun _ _ => trivial) _ ops)

/-! ## Requests -/

/-- What a request needs to be answered for a key. -/
structure Entitled (world : World) (now : ℕ) (request : Request) (key : APIKey) : Prop where
  mem : key ∈ world.db.keys
  presents : ∃ cleartext, world.latest key.pk = some cleartext ∧
    Presents request.authorization cleartext
  unrevoked : key.pk ∉ world.revoked
  unexpired : ∀ expiresAt, key.expiresAt = some expiresAt → now ≤ expiresAt
  tenant : ∀ tenant, request.tenant = some tenant → tenant = key.tenant

/--
The request gets nothing, the meant exception or a key, and a key exactly when it is entitled to it.
-/
structure Exact (digest : Digest) (world : World) (now : ℕ) (request : Request) : Prop where
  raises : ∀ e, authenticate digest world.db now request = .error e →
    ∃ detail, e = .authenticationFailed detail
  returns : ∀ key, (∃ db, authenticate digest world.db now request = .ok (some (key, db))) ↔
    Entitled world now request key

/-- The word behind the scheme is UTF-8. -/
def Decodes (request : Request) : Prop :=
  ∀ word, credential request.authorization = some word → (decode word).isSome = true

/-- A cleartext of the right form is looked up to one row at most. -/
def Unambiguous (db : Db) (request : Request) : Prop :=
  ∀ cleartext, Presents request.authorization cleartext →
    startsWith "kz_live_" cleartext = true → (db.candidates cleartext).length ≤ 1

section Requests

variable {digest : Digest} {world : World} {now : ℕ} {request : Request}

theorem entitled_of_authenticate (consistent : Consistent digest world)
    (hreturned : authenticate digest world.db now request = .ok (some (key, db))) :
    Entitled world now request key := by
  obtain ⟨cleartext, hpresents, hverify⟩ := verify_of_authenticate hreturned
  obtain ⟨-, hfound, passes, -⟩ := verify_eq_ok.mp hverify
  have hcandidate : key ∈ world.db.candidates cleartext := hfound ▸ List.mem_singleton_self key
  have hmem : key ∈ world.db.keys := List.mem_of_mem_filter hcandidate
  have recorded := consistent.recorded key hmem
  obtain ⟨minted, hlatest, stores⟩ := recorded.minted
  -- The hash of the row decides which cleartext was presented.
  have hsame : cleartext = minted :=
    hashKey_injective digest (passes.hash.trans stores.hash)
  constructor
  · exact hmem
  · exact ⟨minted, hlatest, hsame ▸ hpresents⟩
  · have hactive := recorded.active
    rw [passes.active, eq_comm, Bool.not_eq_true'] at hactive
    simpa using hactive
  · intro expiresAt hexpires
    have hexpired := passes.unexpired
    rw [APIKey.expired, hexpires, Option.any_some, decide_eq_false_iff_not] at hexpired
    exact Nat.le_of_not_lt hexpired
  · intro tenant htenant
    have hforeign := passes.tenant
    rw [Request.foreign, htenant, Option.any_some, decide_eq_false_iff_not] at hforeign
    exact not_not.mp hforeign

/-- Where the lookup finds no second row, a request gets the key it is entitled to. -/
theorem authenticate_of_entitled (consistent : Consistent digest world)
    (entitled : Entitled world now request key) (hone : Unambiguous world.db request) :
    ∃ db, authenticate digest world.db now request = .ok (some (key, db)) := by
  have recorded := consistent.recorded key entitled.mem
  obtain ⟨cleartext, hlatest, hpresents⟩ := entitled.presents
  obtain ⟨minted, hminted, stores⟩ := recorded.minted
  obtain rfl := Option.some.inj (hminted.symm.trans hlatest)
  have hcandidate : key ∈ world.db.candidates minted :=
    List.mem_filter.mpr ⟨entitled.mem, decide_eq_true stores.lookup⟩
  have hfound : world.db.candidates minted = [key] := by
    have hlength := hone minted hpresents stores.start
    rcases hrows : world.db.candidates minted with _ | ⟨found, _ | ⟨second, others⟩⟩
    · rw [hrows] at hcandidate
      cases hcandidate
    · rw [hrows, List.mem_singleton] at hcandidate
      rw [hcandidate]
    · rw [hrows] at hlength
      simp at hlength
  have hactive : key.isActive = true := by
    rw [recorded.active, Bool.not_eq_true']
    simpa using entitled.unrevoked
  have passes : Passes digest now request minted key := by
    constructor
    · exact hactive
    · exact recorded.user.trans hactive
    · rw [APIKey.expired, Option.any_eq_false]
      intro expiresAt hexpires
      simpa using entitled.unexpired expiresAt hexpires
    · exact stores.hash.symm
    · rw [Request.foreign, Option.any_eq_false]
      intro tenant htenant
      simpa using entitled.tenant tenant htenant
  have hverify := verify_eq_ok.mpr ⟨stores.start, hfound, passes, rfl⟩
  exact ⟨_, (authenticate_of_presents hpresents).trans (congrArg (Except.map some) hverify)⟩

theorem raises_of_conditions (hdecodes : Decodes request) (hone : Unambiguous world.db request)
    {e : Exception} (herror : authenticate digest world.db now request = .error e) :
    ∃ detail, e = .authenticationFailed detail := by
  cases hword : credential request.authorization with
  | none =>
    rcases authenticate_of_credential_none digest world.db now hword with
      hnone | ⟨detail, hfailed⟩
    · rw [hnone] at herror
      cases herror
    · rw [hfailed] at herror
      exact ⟨detail, (Except.error.inj herror).symm⟩
  | some word =>
    obtain ⟨cleartext, hdecode⟩ := Option.isSome_iff_exists.mp (hdecodes word hword)
    have hpresents := presents_of_decode hword hdecode
    rw [authenticate_of_presents hpresents] at herror
    cases hverify : verify digest world.db now request cleartext with
    | ok found =>
      rw [hverify] at herror
      cases herror
    | error raised =>
      rw [hverify] at herror
      obtain rfl : raised = e := Except.error.inj herror
      rcases verify_eq_error hverify with hfailed | ⟨hstart, htwo⟩
      · exact hfailed
      · have hle := hone cleartext hpresents hstart
        omega

/-- A request is answered exactly when what it presents decodes and is looked up to one row. -/
theorem exact_iff_of_consistent (consistent : Consistent digest world) :
    Exact digest world now request ↔ Decodes request ∧ Unambiguous world.db request := by
  constructor
  · intro exact
    constructor
    · intro word hword
      cases hdecode : decode word with
      | some cleartext => rfl
      | none =>
        obtain ⟨detail, heq⟩ := exact.raises _ (authenticate_of_undecodable hword hdecode)
        cases heq
    · intro cleartext hpresents hstart
      by_contra hgt
      have htwo : verify digest world.db now request cleartext = .error .multipleObjectsReturned :=
        verify_of_two hstart (Nat.lt_of_not_le hgt)
      have hraised :=
        (authenticate_of_presents hpresents).trans (congrArg (Except.map some) htwo)
      obtain ⟨detail, heq⟩ := exact.raises _ hraised
      cases heq
  · rintro ⟨hdecodes, hone⟩
    constructor
    · intro e herror
      exact raises_of_conditions hdecodes hone herror
    · intro key
      constructor
      · rintro ⟨db, hreturned⟩
        exact entitled_of_authenticate consistent hreturned
      · intro entitled
        exact authenticate_of_entitled consistent entitled hone

end Requests

/--
After any sequence of calls, a request gets nothing, a refusal or a key, and a key exactly when it
presents the cleartext last minted for it: if and only if the word behind the scheme is UTF-8 and
not two keys share its first twenty characters.
-/
theorem exact_iff_decodes_unambiguous (digest : Digest) (slugs : ℕ → String) (ops : List Op)
    (now : ℕ) (request : Request) :
    Exact digest (run (World.step digest) (World.start slugs) ops) now request ↔
      Decodes request ∧
        Unambiguous (run (World.step digest) (World.start slugs) ops).db request :=
  exact_iff_of_consistent (consistent_run digest slugs ops)

/-- Bytes as the characters of their numbers. -/
def plainDigest : Digest where
  sha512 bytes := String.ofList (bytes.map fun byte => Char.ofNat byte.toNat)
  injective := by
    intro first second heq
    refine List.map_injective_iff.mpr ?_ (String.ofList_injective heq)
    intro byte other hchar
    have hvalid : ∀ byte : UInt8, (Char.ofNat byte.toNat).toNat = byte.toNat := by
      intro byte
      have hsmall : byte.toNat.isValidChar := Or.inl (Nat.lt_trans byte.toNat_lt (by decide))
      rw [Char.ofNat, dif_pos hsmall]
      rfl
    have hnat := congrArg Char.toNat hchar
    rw [hvalid, hvalid] at hnat
    exact UInt8.toNat_inj.mp hnat

/-- One key was minted; a header whose word is the byte `ff` ends in the decoder's exception. -/
theorem not_exact_undecodable :
    ¬Exact plainDigest
      (run (World.step plainDigest) (World.start fun _ => "acme")
        [.create ⟨1, "Zapier", 1, 1, none⟩ "l5Pn0qzL3kQvT1uC8bXyR2aWdE7fGhJ9mKs4VtZxYoU"])
      0 ⟨encode "Api-Key " ++ [0xff], some 1, none, ""⟩ := by
  intro exact
  have hword : credential (encode "Api-Key " ++ [0xff]) = some [0xff] := by decide +kernel
  have hnone : decode [0xff] = none := by decide +kernel
  obtain ⟨detail, heq⟩ := exact.raises _ (authenticate_of_undecodable hword hnone)
  cases heq

end Kanzan.ApiKeys
