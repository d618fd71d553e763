import Kanzan.Support.Lists
import Mathlib.Data.List.Infix

/-!
# Routing rules

The rules by which parked emails are routed.  What a rule asks of an email is a JSON object, of
which the engine knows four keys; values within a key are alternatives.
-/

namespace Kanzan.Inbox.Routing

open Support

/-! ## JSON -/

inductive Json where
  | null
  | bool (value : Bool)
  | int (value : ℤ)
  /-- A number with a fraction or an exponent, as it is printed. -/
  | float (text : String) (isZero : Bool)
  | string (value : String)
  | array (items : List Json)
  | object (fields : List (String × Json))

/-- `bool(value)`. -/
def Json.truthy : Json → Bool
  | .null => false
  | .bool value => value
  | .int value => value ≠ 0
  | .float _ isZero => !isZero
  | .string value => value ≠ ""
  | .array items => !items.isEmpty
  | .object fields => !fields.isEmpty

/-- What the engine uses of the language. -/
structure Python where
  lower : String → String
  lower_eq_empty : ∀ text, lower text = "" ↔ text = ""
  /-- `str` of an array or an object. -/
  repr : Json → String
  /-- `re.search` of a pattern when case is ignored; none is an invalid pattern. -/
  search : String → String → Option Bool

namespace Python

variable (python : Python)

/-- `str(value)`. -/
def str : Json → String
  | .null => "None"
  | .bool value => if value then "True" else "False"
  | .int value => toString value
  | .float text _ => text
  | .string value => value
  | value => python.repr value

/-- `_as_list`. -/
def asList : Json → List String
  | .null => []
  | .array items => items.map python.str
  | value => [python.str value]

end Python

/-! ## Matching -/

structure Email where
  senderEmail : String
  recipientEmail : String
  subject : String
  body : String

namespace Email

variable (python : Python) (email : Email)

def senderDomain : String :=
  if '@' ∈ email.senderEmail.toList then
    python.lower (String.ofList (cutAfterLast '@' email.senderEmail.toList))
  else ""

def recipientLocal : String :=
  if '@' ∈ email.recipientEmail.toList then
    python.lower (String.ofList (cutBefore '@' email.recipientEmail.toList))
  else ""

def haystack : String := python.lower (email.subject ++ "\n" ++ email.body)

def IsFrom (domain : String) : Prop :=
  email.senderDomain python = domain ∨
    '.' :: domain.toList <:+ (email.senderDomain python).toList

instance (domain : String) : Decidable (email.IsFrom python domain) :=
  inferInstanceAs (Decidable (_ ∨ _))

end Email

/-- `text.lstrip("@")`. -/
def lstripAt (text : String) : String := String.ofList (text.toList.dropWhile (· = '@'))

def passes (value : Option Json) (meets : Json → Bool) : Bool := value.all meets

/-- `_rule_matches`; a `subject_regex` that is no text raises. -/
def ruleMatches (python : Python) (rule : Json) (email : Email) : Except String Bool :=
  match rule with
  | .object fields =>
    if fields.isEmpty then .ok false
    else if !passes (fields.lookup "sender_domain") fun value =>
        ((python.asList value).map fun d => lstripAt (python.lower d)).any fun d =>
          d ≠ "" && email.IsFrom python d then .ok false
    else if !passes (fields.lookup "recipient_local") fun value =>
        ((python.asList value).map python.lower).contains (email.recipientLocal python) then
      .ok false
    else if !passes (fields.lookup "keyword") fun value =>
        (((python.asList value).filter (· ≠ "")).map python.lower).any fun k =>
          k.toList <:+: (email.haystack python).toList then .ok false
    else
      match fields.lookup "subject_regex" with
      | none => .ok true
      | some value =>
        if value.truthy then
          match value with
          | .string pattern => .ok ((python.search pattern email.subject).getD false)
          | _ => .error "first argument must be string or compiled pattern"
        else .ok true
  | _ => .ok false

/-! ## What a match says -/

/-- The clauses that the engine knows. -/
inductive Clause where
  | senderDomain
  | recipientLocal
  | keyword
  | subjectRegex

def Clause.key : Clause → String
  | .senderDomain => "sender_domain"
  | .recipientLocal => "recipient_local"
  | .keyword => "keyword"
  | .subjectRegex => "subject_regex"

namespace Clause

variable (python : Python) (email : Email)

def Effective : Clause → Json → Prop
  | .senderDomain, value => ∃ entry ∈ python.asList value,
      lstripAt (python.lower entry) ≠ "" ∧ email.IsFrom python (lstripAt (python.lower entry))
  | .recipientLocal, value => ∃ entry ∈ python.asList value,
      entry ≠ "" ∧ python.lower entry = email.recipientLocal python
  | .keyword, value => ∃ entry ∈ python.asList value,
      entry ≠ "" ∧ (python.lower entry).toList <:+: (email.haystack python).toList
  | .subjectRegex, value => ∃ pattern, pattern ≠ "" ∧ value = .string pattern ∧
      python.search pattern email.subject = some true

def Satisfied : Clause → Json → Prop
  | .recipientLocal, value => ∃ entry ∈ python.asList value,
      python.lower entry = email.recipientLocal python
  | .subjectRegex, value => value.truthy = false ∨ Effective python email .subjectRegex value
  | clause, value => Effective python email clause value

end Clause

/-- A rule may match an email: it asks something of it, and the email meets all that it asks. -/
structure Justified (python : Python) (fields : List (String × Json)) (email : Email) : Prop where
  effective : ∃ clause : Clause, ∃ value, fields.lookup clause.key = some value ∧
    clause.Effective python email value
  satisfied : ∀ (clause : Clause) (value : Json), fields.lookup clause.key = some value →
    clause.Satisfied python email value

def Json.fields : Json → List (String × Json)
  | .object fields => fields
  | _ => []

/-- A rule asks for a domain or a keyword, has a pattern, or asks for a recipient that is not the
empty one that it lists. -/
def HasEffect (python : Python) (fields : List (String × Json)) (email : Email) : Prop :=
  (fields.lookup "sender_domain").isSome ∨ (fields.lookup "keyword").isSome ∨
    (fields.lookup "subject_regex").any Json.truthy ∨
      ∃ value, fields.lookup "recipient_local" = some value ∧
        ¬ (email.recipientLocal python = "" ∧ "" ∈ python.asList value)

section Laws

variable {python : Python} {fields : List (String × Json)} {email : Email} {value : Json}

theorem passes_iff {entry : Option Json} {meets : Json → Bool} {Meets : Json → Prop}
    (hmeets : ∀ value, meets value = true ↔ Meets value) :
    passes entry meets = true ↔ ∀ value, entry = some value → Meets value := by
  cases entry with
  | none => simp [passes]
  | some value => simp [passes, hmeets]

theorem senderDomain_iff (value : Json) :
    (((python.asList value).map fun d => lstripAt (python.lower d)).any fun d =>
        d ≠ "" && email.IsFrom python d) = true ↔
      Clause.senderDomain.Satisfied python email value := by
  simp [Clause.Satisfied, Clause.Effective]

theorem recipientLocal_iff (value : Json) :
    ((python.asList value).map python.lower).contains (email.recipientLocal python) = true ↔
      Clause.recipientLocal.Satisfied python email value := by
  simp [Clause.Satisfied]

theorem keyword_iff (value : Json) :
    ((((python.asList value).filter (· ≠ "")).map python.lower).any fun k =>
        k.toList <:+: (email.haystack python).toList) = true ↔
      Clause.keyword.Satisfied python email value := by
  simp [Clause.Satisfied, Clause.Effective]

theorem subjectRegex_iff (value : Json) :
    (if value.truthy then
        match value with
        | .string pattern => .ok ((python.search pattern email.subject).getD false)
        | _ => .error "first argument must be string or compiled pattern"
      else .ok true : Except String Bool) = .ok true ↔
      Clause.subjectRegex.Satisfied python email value := by
  cases htruthy : value.truthy with
  | false => simp [Clause.Satisfied, htruthy]
  | true =>
    rw [if_pos rfl]
    cases value with
    | string pattern =>
      have hpattern : pattern ≠ "" := by simpa [Json.truthy] using htruthy
      cases hsearch : python.search pattern email.subject <;>
        simp [Clause.Satisfied, Clause.Effective, htruthy, hsearch, hpattern]
    | null => simp [Clause.Satisfied, Clause.Effective, htruthy]
    | bool => simp [Clause.Satisfied, Clause.Effective, htruthy]
    | int => simp [Clause.Satisfied, Clause.Effective, htruthy]
    | float => simp [Clause.Satisfied, Clause.Effective, htruthy]
    | array => simp [Clause.Satisfied, Clause.Effective, htruthy]
    | object => simp [Clause.Satisfied, Clause.Effective, htruthy]

theorem ruleMatches_eq_true :
    ruleMatches python (.object fields) email = .ok true ↔
      fields ≠ [] ∧ ∀ (clause : Clause) (value : Json),
        fields.lookup clause.key = some value → clause.Satisfied python email value := by
  have hclauses : (∀ (clause : Clause) (value : Json),
      fields.lookup clause.key = some value → clause.Satisfied python email value) ↔
        (∀ value, fields.lookup "sender_domain" = some value →
            Clause.senderDomain.Satisfied python email value) ∧
          (∀ value, fields.lookup "recipient_local" = some value →
            Clause.recipientLocal.Satisfied python email value) ∧
          (∀ value, fields.lookup "keyword" = some value →
            Clause.keyword.Satisfied python email value) ∧
          ∀ value, fields.lookup "subject_regex" = some value →
            Clause.subjectRegex.Satisfied python email value := by
    constructor
    · exact fun h => ⟨h .senderDomain, h .recipientLocal, h .keyword, h .subjectRegex⟩
    · rintro ⟨hsender, hrecipient, hkeyword, hsubject⟩ clause
      cases clause with
      | senderDomain => exact hsender
      | recipientLocal => exact hrecipient
      | keyword => exact hkeyword
      | subjectRegex => exact hsubject
  rw [hclauses, ← passes_iff senderDomain_iff, ← passes_iff recipientLocal_iff,
    ← passes_iff keyword_iff, ruleMatches]
  generalize passes (fields.lookup "sender_domain") _ = sender
  generalize passes (fields.lookup "recipient_local") _ = recipient
  generalize passes (fields.lookup "keyword") _ = keyword
  cases hfields : fields.isEmpty with
  | true => simp [List.isEmpty_iff.mp hfields]
  | false =>
    have hne : fields ≠ [] := by simpa using hfields
    cases sender with
    | false => simp
    | true =>
      cases recipient with
      | false => simp
      | true =>
        cases keyword with
        | false => simp
        | true =>
          cases hlookup : fields.lookup "subject_regex" with
          | none => simp [hne]
          | some value =>
            have hregex := @subjectRegex_iff python email value
            simpa [hne] using hregex

theorem Clause.Effective.satisfied {clause : Clause}
    (heffective : clause.Effective python email value) :
    clause.Satisfied python email value := by
  cases clause with
  | senderDomain => exact heffective
  | keyword => exact heffective
  | subjectRegex => exact .inr heffective
  | recipientLocal =>
    obtain ⟨entry, hentry, -, hmeets⟩ := heffective
    exact ⟨entry, hentry, hmeets⟩

theorem recipientLocal_effective_iff
    (hsatisfied : Clause.recipientLocal.Satisfied python email value) :
    Clause.recipientLocal.Effective python email value ↔
      ¬ (email.recipientLocal python = "" ∧ "" ∈ python.asList value) := by
  constructor
  · rintro ⟨entry, -, hne, hmeets⟩ ⟨hempty, -⟩
    exact hne ((python.lower_eq_empty entry).mp (hmeets.trans hempty))
  · intro hnot
    obtain ⟨entry, hentry, hmeets⟩ := hsatisfied
    refine ⟨entry, hentry, ?_, hmeets⟩
    rintro rfl
    exact hnot ⟨hmeets.symm.trans ((python.lower_eq_empty "").mpr rfl), hentry⟩

/-- What is met is met through a value exactly if the rule asks for something. -/
theorem effective_iff (hsatisfied : ∀ (clause : Clause) (value : Json),
    fields.lookup clause.key = some value → clause.Satisfied python email value) :
    (∃ clause : Clause, ∃ value, fields.lookup clause.key = some value ∧
      clause.Effective python email value) ↔ HasEffect python fields email := by
  constructor
  · rintro ⟨clause, value, hlookup, heffective⟩
    cases clause with
    | senderDomain => exact .inl (Option.isSome_iff_exists.mpr ⟨value, hlookup⟩)
    | keyword => exact .inr (.inl (Option.isSome_iff_exists.mpr ⟨value, hlookup⟩))
    | subjectRegex =>
      obtain ⟨pattern, hpattern, rfl, -⟩ := heffective
      refine .inr (.inr (.inl ?_))
      have hlookup : fields.lookup "subject_regex" = _ := hlookup
      simp [hlookup, Json.truthy, hpattern]
    | recipientLocal =>
      refine .inr (.inr (.inr ⟨value, hlookup, ?_⟩))
      exact (recipientLocal_effective_iff heffective.satisfied).mp heffective
  · rintro (hsender | hkeyword | hsubject | ⟨value, hlookup, hnot⟩)
    · obtain ⟨value, hlookup⟩ := Option.isSome_iff_exists.mp hsender
      exact ⟨.senderDomain, value, hlookup, hsatisfied .senderDomain value hlookup⟩
    · obtain ⟨value, hlookup⟩ := Option.isSome_iff_exists.mp hkeyword
      exact ⟨.keyword, value, hlookup, hsatisfied .keyword value hlookup⟩
    · cases hlookup : fields.lookup "subject_regex" with
      | none =>
        rw [hlookup] at hsubject
        cases hsubject
      | some value =>
        rw [hlookup, Option.any_some] at hsubject
        rcases hsatisfied .subjectRegex value hlookup with hfalsy | heffective
        · rw [hsubject] at hfalsy
          cases hfalsy
        · exact ⟨.subjectRegex, value, hlookup, heffective⟩
    · have hmet := hsatisfied .recipientLocal value hlookup
      exact ⟨.recipientLocal, value, hlookup, (recipientLocal_effective_iff hmet).mpr hnot⟩

theorem satisfied_of_not_hasEffect (hnot : ¬ HasEffect python fields email) (clause : Clause)
    (hlookup : fields.lookup clause.key = some value) : clause.Satisfied python email value := by
  unfold HasEffect at hnot
  push Not at hnot
  obtain ⟨hsender, hkeyword, hsubject, hrecipient⟩ := hnot
  cases clause with
  | senderDomain => exact absurd (Option.isSome_iff_exists.mpr ⟨value, hlookup⟩) hsender
  | keyword => exact absurd (Option.isSome_iff_exists.mpr ⟨value, hlookup⟩) hkeyword
  | subjectRegex =>
    left
    by_contra htruthy
    have hlookup : fields.lookup "subject_regex" = some value := hlookup
    rw [hlookup, Option.any_some] at hsubject
    exact hsubject (by simpa using htruthy)
  | recipientLocal =>
    obtain ⟨hempty, hentry⟩ := hrecipient value hlookup
    exact ⟨"", hentry, ((python.lower_eq_empty "").mpr rfl).trans hempty.symm⟩

end Laws

/--
A match is justified, whatever the rule and the email, if and only if the rule is no object with
fields, or asks for something.
-/
theorem ruleMatches_justified_iff (python : Python) (rule : Json) (email : Email) :
    (ruleMatches python rule email = .ok true → Justified python rule.fields email) ↔
      (rule.fields ≠ [] → HasEffect python rule.fields email) := by
  constructor
  · intro hjustified hne
    by_contra hnot
    have hsatisfied := fun clause value =>
      @satisfied_of_not_hasEffect python _ email value hnot clause
    cases rule with
    | object fields =>
      have justified := hjustified (ruleMatches_eq_true.mpr ⟨hne, hsatisfied⟩)
      exact hnot ((effective_iff hsatisfied).mp justified.effective)
    | null => exact hne rfl
    | bool => exact hne rfl
    | int => exact hne rfl
    | float => exact hne rfl
    | string => exact hne rfl
    | array => exact hne rfl
  · intro hasks hmatches
    cases rule with
    | object fields =>
      obtain ⟨hne, hsatisfied⟩ := ruleMatches_eq_true.mp hmatches
      exact ⟨(effective_iff hsatisfied).mpr (hasks hne), hsatisfied⟩
    | null => cases hmatches
    | bool => cases hmatches
    | int => cases hmatches
    | float => cases hmatches
    | string => cases hmatches
    | array => cases hmatches

/-- Everything is in lower case, and every pattern is found. -/
def plainPython : Python where
  lower := id
  lower_eq_empty _ := Iff.rfl
  repr _ := "[]"
  search _ _ := some true

/-- A rule with a misspelt key matches every email. -/
theorem not_ruleMatches_justified :
    ¬ ∀ (python : Python) (rule : Json) (email : Email),
      ruleMatches python rule email = .ok true → Justified python rule.fields email := by
  intro hall
  obtain ⟨clause, value, hlookup, -⟩ :=
    (hall plainPython (.object [("sender_domains", .array [.string "acme.com"])])
      { senderEmail := "ann@example.org", recipientEmail := "help@localhost", subject := "Hello"
        body := "" } rfl).effective
  cases clause <;> cases hlookup

end Kanzan.Inbox.Routing
