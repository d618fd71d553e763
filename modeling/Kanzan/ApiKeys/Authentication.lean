import Kanzan.Attachments.Paths
import Kanzan.Support.Results
import Kanzan.Support.Runs

/-!
# API keys

Minting, rotating and revoking, over the rows of all tenants: a cleartext leaves the services once
and is not stored, and the world beside the rows logs those handed out and the revocations.  Then
`APIKeyAuthentication.authenticate`: the header is cut into words, the key is looked up by the first
characters of what is presented, and the full hash decides.
-/

namespace Kanzan.ApiKeys

open Support

/-- SHA-512, of which the services only use that no two texts share a digest. -/
structure Digest where
  sha512 : List UInt8 → String
  injective : Function.Injective sha512

/-- `str.encode()`. -/
def encode (text : String) : List UInt8 := text.toByteArray.data.toList

/-- `bytes.decode()`, with nothing for what is not UTF-8. -/
def decode (bytes : List UInt8) : Option String := String.fromUTF8? ⟨bytes.toArray⟩

/-- `text[:20]`. -/
def lookupPart (cleartext : String) : String := String.ofList (cleartext.toList.take 20)

/-- The synthetic account that a key signs in. -/
structure ServiceUser where
  pk : ℕ
  isActive : Bool := true
  deriving DecidableEq

structure TenantMembership where
  user : ℕ
  tenant : ℕ
  role : ℕ
  isActive : Bool := true
  invitedBy : ℕ
  deriving DecidableEq

/-- A row of the keys, joined with the account that belongs to it alone. -/
structure APIKey where
  pk : ℕ
  tenant : ℕ
  name : String
  role : ℕ
  serviceUser : ServiceUser
  keyPrefix : String
  hashedKey : String
  createdBy : ℕ
  isActive : Bool := true
  expiresAt : Option ℕ
  lastUsedAt : Option ℕ := none
  lastUsedIp : Option String := none
  lastUsedUserAgent : String := ""
  requestCount : ℕ := 0
  deriving DecidableEq

structure Db where
  slugs : ℕ → String
  keys : List APIKey
  memberships : List TenantMembership

namespace Db

/-- `filter(pk=pk).update(…)`, or the save of one loaded row. -/
def update (db : Db) (pk : ℕ) (f : APIKey → APIKey) : Db :=
  { db with keys := db.keys.map fun key => if key.pk = pk then f key else key }

variable {db : Db} {pk : ℕ} {f : APIKey → APIKey}

theorem mem_update {key : APIKey} :
    key ∈ (db.update pk f).keys ↔
      ∃ old ∈ db.keys, (if old.pk = pk then f old else old) = key := List.mem_map

@[simp]
theorem length_update : (db.update pk f).keys.length = db.keys.length := List.length_map ..

end Db

/-! ## The service functions -/

/-- `_generate_cleartext`; the token is the text of `secrets.token_urlsafe(32)`. -/
def generateCleartext (slug token : String) : String :=
  "kz_live_" ++ String.ofList (slug.toList.take 6) ++ "_" ++ token

/-- `_hash_key`. -/
def hashKey (digest : Digest) (cleartext : String) : String := digest.sha512 (encode cleartext)

/-- What a new key is made of. -/
structure KeyRequest where
  tenant : ℕ
  name : String
  role : ℕ
  createdBy : ℕ
  expiresAt : Option ℕ

def newKey (digest : Digest) (pk : ℕ) (request : KeyRequest) (cleartext : String) : APIKey :=
  { pk := pk
    tenant := request.tenant
    name := request.name
    role := request.role
    serviceUser := { pk := pk }
    keyPrefix := lookupPart cleartext
    hashedKey := hashKey digest cleartext
    createdBy := request.createdBy
    expiresAt := request.expiresAt }

/--
`create_api_key`: the key and its cleartext, or nothing where the tenant has a key of the name and
the transaction is rolled back.
-/
def createApiKey (digest : Digest) (db : Db) (request : KeyRequest) (token : String) :
    Option (APIKey × String × Db) :=
  if db.keys.any fun key => key.tenant = request.tenant ∧ key.name = request.name then none
  else
    let cleartext := generateCleartext (db.slugs request.tenant) token
    let apikey := newKey digest db.keys.length request cleartext
    let membership : TenantMembership :=
      { user := apikey.serviceUser.pk
        tenant := request.tenant
        role := request.role
        invitedBy := request.createdBy }
    some (apikey, cleartext,
      { db with keys := db.keys ++ [apikey], memberships := db.memberships ++ [membership] })

/-- `regenerate_api_key`. -/
def regenerateApiKey (digest : Digest) (db : Db) (apikey : APIKey) (token : String) :
    String × Db :=
  let cleartext := generateCleartext (db.slugs apikey.tenant) token
  (cleartext, db.update apikey.pk fun key =>
    { key with keyPrefix := lookupPart cleartext, hashedKey := hashKey digest cleartext })

def APIKey.revoked (key : APIKey) : APIKey :=
  { key with isActive := false, serviceUser := { key.serviceUser with isActive := false } }

/-- `revoke_api_key`. -/
def revokeApiKey (db : Db) (apikey : APIKey) : Db :=
  { db.update apikey.pk APIKey.revoked with
    memberships := db.memberships.map fun membership =>
      if membership.user = apikey.serviceUser.pk ∧ membership.tenant = apikey.tenant then
        { membership with isActive := false }
      else membership }

/-- A minted cleartext starts with the word that `authenticate` looks for. -/
theorem startsWith_generateCleartext (slug token : String) :
    Attachments.startsWith "kz_live_" (generateCleartext slug token) = true := by
  rw [Attachments.startsWith, List.isPrefixOf_iff_prefix, generateCleartext, String.toList_append,
    String.toList_append, String.toList_append, List.append_assoc, List.append_assoc]
  exact List.prefix_append ..

/-! ## UTF-8 -/

theorem decode_eq_some {bytes : List UInt8} {text : String} :
    decode bytes = some text ↔ bytes = encode text := by
  have hbytes : ∀ array : ByteArray,
      array = ⟨bytes.toArray⟩ ↔ bytes = array.data.toList := by
    rintro ⟨data⟩
    rw [ByteArray.mk.injEq]
    constructor
    · rintro rfl
      rfl
    · rintro rfl
      exact Array.toArray_toList.symm
  rw [decode, encode, ← hbytes, String.fromUTF8?]
  by_cases hvalid : ByteArray.IsValidUTF8 ⟨bytes.toArray⟩
  · rw [dif_pos hvalid, Option.some.injEq, ← String.toByteArray_inj]
    exact eq_comm
  · rw [dif_neg hvalid]
    refine iff_of_false nofun fun heq => hvalid ?_
    exact heq ▸ text.isValidUTF8

theorem encode_injective : Function.Injective encode := by
  intro first second heq
  have hfirst := decode_eq_some.mpr heq
  rw [decode_eq_some.mpr rfl] at hfirst
  exact Option.some.inj hfirst

theorem hashKey_injective (digest : Digest) : Function.Injective (hashKey digest) :=
  digest.injective.comp encode_injective

/-! ## Authentication -/

open Attachments

/-- `split()`: the longest blocks without a separator. -/
def words {α : Type} (separates : α → Bool) : List α → List (List α)
  | [] => []
  | c :: rest =>
    if separates c then words separates rest
    else if rest.head?.all separates then [c] :: words separates rest
    else (words separates rest).modifyHead (c :: ·)

/-- The bytes that `bytes.split()` separates at. -/
def isSpace (byte : UInt8) : Bool := byte = 32 || 9 ≤ byte && byte ≤ 13

/-- `bytes.lower()` of one byte. -/
def lowerByte (byte : UInt8) : UInt8 := if 65 ≤ byte && byte ≤ 90 then byte + 32 else byte

/-- The `keyword` of the scheme, in small letters. -/
def keyword : List UInt8 := encode "api-key"

structure Request where
  authorization : List UInt8
  tenant : Option ℕ
  remoteAddr : Option String
  userAgent : String
  deriving DecidableEq

/-- What `authenticate` raises. -/
inductive Exception where
  | authenticationFailed (detail : String)
  | unicodeDecodeError
  | multipleObjectsReturned
  deriving DecidableEq

/-- `key.expires_at and key.expires_at < timezone.now()`. -/
def APIKey.expired (key : APIKey) (now : ℕ) : Bool := key.expiresAt.any (· < now)

/-- `request_tenant and request_tenant.pk != key.tenant_id`. -/
def Request.foreign (request : Request) (key : APIKey) : Bool := request.tenant.any (· ≠ key.tenant)

def APIKey.used (now : ℕ) (request : Request) (key : APIKey) : APIKey :=
  { key with
    lastUsedAt := some now
    lastUsedIp := request.remoteAddr.filter (· ≠ "")
    lastUsedUserAgent := String.ofList (request.userAgent.toList.take 255)
    requestCount := key.requestCount + 1 }

/-- `filter(prefix=cleartext[:20])`, over the keys of all tenants. -/
def Db.candidates (db : Db) (cleartext : String) : List APIKey :=
  db.keys.filter fun key => key.keyPrefix = lookupPart cleartext

def APIKey.refusal (digest : Digest) (now : ℕ) (request : Request) (cleartext : String)
    (key : APIKey) : Option String :=
  if !key.isActive || !key.serviceUser.isActive then some "API key revoked"
  else if key.expired now then some "API key expired"
  else if hashKey digest cleartext ≠ key.hashedKey then some "Invalid API key"
  else if request.foreign key then some "API key not valid for this tenant"
  else none

/-- The part of `authenticate` after the cleartext is read. -/
def verify (digest : Digest) (db : Db) (now : ℕ) (request : Request) (cleartext : String) :
    Except Exception (APIKey × Db) :=
  if !startsWith "kz_live_" cleartext then .error (.authenticationFailed "Invalid API key format")
  else
    match db.candidates cleartext with
    | [] => .error (.authenticationFailed "Invalid API key")
    | _ :: _ :: _ => .error .multipleObjectsReturned
    | [key] =>
      match key.refusal digest now request cleartext with
      | some detail => .error (.authenticationFailed detail)
      | none => .ok (key, db.update key.pk (APIKey.used now request))

/-- `APIKeyAuthentication.authenticate`: nothing, or the key with the rows after its use. -/
def authenticate (digest : Digest) (db : Db) (now : ℕ) (request : Request) :
    Except Exception (Option (APIKey × Db)) :=
  match words isSpace request.authorization with
  | [] => .ok none
  | scheme :: rest =>
    if scheme.map lowerByte ≠ keyword then .ok none
    else
      match rest with
      | [word] =>
        match decode word with
        | none => .error .unicodeDecodeError
        | some cleartext => (verify digest db now request cleartext).map some
      | _ => .error (.authenticationFailed "Invalid Authorization header format")

/-! ## What a header presents -/

def credential (header : List UInt8) : Option (List UInt8) :=
  match words isSpace header with
  | [scheme, word] => if scheme.map lowerByte = keyword then some word else none
  | _ => none

def Presents (header : List UInt8) (cleartext : String) : Prop :=
  credential header = some (encode cleartext)

variable {cleartext : String} {key : APIKey} {word : List UInt8} {db' : Db}

theorem credential_eq_some {header : List UInt8} :
    credential header = some word ↔
      ∃ scheme, words isSpace header = [scheme, word] ∧ scheme.map lowerByte = keyword := by
  rw [credential]
  constructor
  · intro hsome
    rcases hwords : words isSpace header with _ | ⟨scheme, _ | ⟨found, _ | ⟨third, others⟩⟩⟩
    · simp [hwords] at hsome
    · simp [hwords] at hsome
    · simp only [hwords, Option.ite_none_right_eq_some, Option.some.injEq] at hsome
      obtain ⟨hscheme, rfl⟩ := hsome
      exact ⟨scheme, rfl, hscheme⟩
    · simp [hwords] at hsome
  · rintro ⟨scheme, hwords, hscheme⟩
    simp only [hwords, if_pos hscheme]

section Cases

variable {digest : Digest} {db : Db} {now : ℕ} {request : Request}

variable (digest db now) in
/-- A header of another form is left to the other classes or refused. -/
theorem authenticate_of_credential_none (hnone : credential request.authorization = none) :
    authenticate digest db now request = .ok none ∨ ∃ detail,
      authenticate digest db now request = .error (.authenticationFailed detail) := by
  rw [credential] at hnone
  simp only [authenticate]
  cases hwords : words isSpace request.authorization with
  | nil => exact Or.inl rfl
  | cons scheme rest =>
    by_cases hscheme : scheme.map lowerByte = keyword
    · simp only [hscheme, ne_eq, not_true_eq_false, if_false]
      rcases rest with _ | ⟨word, _ | ⟨third, others⟩⟩
      · exact Or.inr ⟨_, rfl⟩
      · simp [hwords, hscheme] at hnone
      · exact Or.inr ⟨_, rfl⟩
    · simp only [hscheme, ne_eq, not_false_eq_true, if_true]
      exact Or.inl trivial

theorem authenticate_of_presents (hpresents : Presents request.authorization cleartext) :
    authenticate digest db now request = (verify digest db now request cleartext).map some := by
  obtain ⟨scheme, hwords, hscheme⟩ := credential_eq_some.mp hpresents
  rw [authenticate]
  simp only [hwords, hscheme, ne_eq, not_true_eq_false, if_false, decode_eq_some.mpr rfl]

theorem authenticate_of_undecodable (hword : credential request.authorization = some word)
    (hnone : decode word = none) :
    authenticate digest db now request = .error .unicodeDecodeError := by
  obtain ⟨scheme, hwords, hscheme⟩ := credential_eq_some.mp hword
  rw [authenticate]
  simp only [hwords, hscheme, ne_eq, not_true_eq_false, if_false, hnone]

theorem presents_of_decode (hword : credential request.authorization = some word)
    (hdecode : decode word = some cleartext) : Presents request.authorization cleartext := by
  rw [Presents, hword, decode_eq_some.mp hdecode]

/-- The checks that a key passes. -/
structure Passes (digest : Digest) (now : ℕ) (request : Request) (cleartext : String)
    (key : APIKey) : Prop where
  active : key.isActive = true
  user : key.serviceUser.isActive = true
  unexpired : key.expired now = false
  hash : hashKey digest cleartext = key.hashedKey
  tenant : request.foreign key = false

theorem refusal_eq_none :
    key.refusal digest now request cleartext = none ↔
      Passes digest now request cleartext key := by
  rw [APIKey.refusal]
  constructor
  · intro hnone
    cases hactive : key.isActive with
    | false => simp [hactive] at hnone
    | true =>
      cases huser : key.serviceUser.isActive with
      | false => simp [hactive, huser] at hnone
      | true =>
        simp only [hactive, huser, Bool.not_true, Bool.or_self, Bool.false_eq_true,
          if_false] at hnone
        split_ifs at hnone with hexpired hhash htenant
        rw [Bool.not_eq_true] at hexpired htenant
        exact ⟨hactive, huser, hexpired, not_not.mp hhash, htenant⟩
  · intro passes
    simp only [passes.active, passes.user, passes.unexpired, passes.hash, passes.tenant,
      Bool.not_true, Bool.or_self, Bool.false_eq_true, if_false, ne_eq, not_true_eq_false]

theorem verify_eq_ok :
    verify digest db now request cleartext = .ok (key, db') ↔
      startsWith "kz_live_" cleartext = true ∧ db.candidates cleartext = [key] ∧
      Passes digest now request cleartext key ∧
      db' = db.update key.pk (APIKey.used now request) := by
  rw [verify]
  cases hstart : startsWith "kz_live_" cleartext with
  | false => simp
  | true =>
    simp only [Bool.not_true, Bool.false_eq_true, if_false, true_and]
    rcases db.candidates cleartext with _ | ⟨found, _ | ⟨second, others⟩⟩
    · simp
    · cases hrefusal : found.refusal digest now request cleartext with
      | some detail =>
        refine iff_of_false (by simp [hrefusal]) ?_
        rintro ⟨hfound, passes, -⟩
        rw [← List.singleton_inj.mp hfound, ← refusal_eq_none, hrefusal] at passes
        cases passes
      | none =>
        have passes := refusal_eq_none.mp hrefusal
        simp only [hrefusal, Except.ok.injEq, Prod.mk.injEq, List.cons.injEq, and_true]
        constructor
        · rintro ⟨rfl, rfl⟩
          exact ⟨rfl, passes, rfl⟩
        · rintro ⟨rfl, -, rfl⟩
          exact ⟨rfl, rfl⟩
    · simp

theorem verify_of_authenticate
    (hreturned : authenticate digest db now request = .ok (some (key, db'))) :
    ∃ cleartext, Presents request.authorization cleartext ∧
      verify digest db now request cleartext = .ok (key, db') := by
  cases hword : credential request.authorization with
  | none =>
    rcases authenticate_of_credential_none digest db now hword with
      hnone | ⟨detail, herror⟩
    · rw [hnone] at hreturned
      cases hreturned
    · rw [herror] at hreturned
      cases hreturned
  | some word =>
    cases hdecode : decode word with
    | none =>
      rw [authenticate_of_undecodable hword hdecode] at hreturned
      cases hreturned
    | some cleartext =>
      have hpresents := presents_of_decode hword hdecode
      rw [authenticate_of_presents hpresents] at hreturned
      obtain ⟨found, hverify, heq⟩ := map_eq_ok.mp hreturned
      obtain rfl := Option.some.inj heq
      exact ⟨cleartext, hpresents, hverify⟩

theorem rows_of_authenticate
    (hreturned : authenticate digest db now request = .ok (some (key, db'))) :
    db' = db.update key.pk (APIKey.used now request) := by
  obtain ⟨cleartext, -, hverify⟩ := verify_of_authenticate hreturned
  exact (verify_eq_ok.mp hverify).2.2.2

/-- What `authenticate` raises without a second row found is what it means to raise. -/
theorem verify_eq_error {e : Exception} (herror : verify digest db now request cleartext = .error e)
    :
    (∃ detail, e = .authenticationFailed detail) ∨
      startsWith "kz_live_" cleartext = true ∧ 2 ≤ (db.candidates cleartext).length := by
  rw [verify] at herror
  cases hstart : startsWith "kz_live_" cleartext with
  | false =>
    rw [hstart] at herror
    exact Or.inl ⟨_, (Except.error.inj herror).symm⟩
  | true =>
    simp only [hstart, Bool.not_true, Bool.false_eq_true, if_false] at herror
    rcases hfound : db.candidates cleartext with _ | ⟨found, _ | ⟨second, others⟩⟩
    · rw [hfound] at herror
      exact Or.inl ⟨_, (Except.error.inj herror).symm⟩
    · simp only [hfound] at herror
      cases hrefusal : found.refusal digest now request cleartext with
      | some detail =>
        rw [hrefusal] at herror
        exact Or.inl ⟨_, (Except.error.inj herror).symm⟩
      | none =>
        rw [hrefusal] at herror
        cases herror
    · exact Or.inr ⟨rfl, by simp⟩

theorem verify_of_two (hstart : startsWith "kz_live_" cleartext = true)
    (htwo : 2 ≤ (db.candidates cleartext).length) :
    verify digest db now request cleartext = .error .multipleObjectsReturned := by
  rw [verify]
  simp only [hstart, Bool.not_true, Bool.false_eq_true, if_false]
  rcases hfound : db.candidates cleartext with _ | ⟨found, _ | ⟨second, others⟩⟩
  · simp [hfound] at htwo
  · simp [hfound] at htwo
  · rfl

end Cases

end Kanzan.ApiKeys
