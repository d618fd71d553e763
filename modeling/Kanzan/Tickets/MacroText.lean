import Kanzan.Mail.Text
import Kanzan.Support.Lists
import Kanzan.Support.Substitution

/-!
# The text of a macro

`render_macro` replaces nine placeholders one after another over the whole text, so that a subject
or a name that carries a placeholder is expanded in its turn.
-/

namespace Kanzan.Tickets.MacroText

open Support

/-! ## The rows that a macro reads -/

abbrev Text := List Char

/-- `Contact` and `User`, as far as a macro speaks of them. -/
structure Person where
  firstName : Text
  lastName : Text
  email : Text

/-- `Contact.full_name` and `User.get_full_name`. -/
def Person.fullName (person : Person) : Text :=
  Mail.trim Mail.isSpace (person.firstName ++ ' ' :: person.lastName)

/-- `Queue`. -/
structure Queue where
  name : Text

/-- `Ticket`, with the rows that it refers to. -/
structure Ticket where
  number : ℕ
  subject : Text
  queue : Option Queue
  contact : Option Person

/-- `Macro`. -/
structure Macro where
  body : Text

/-! ## The rendering -/

def placeholder (name : Text) : Text := '\x7b' :: '\x7b' :: (name ++ ['\x7d', '\x7d'])

/-- The supported variables, in the order in which they are replaced. -/
def names : List Text :=
  ["ticket.number".toList, "ticket.subject".toList, "ticket.queue".toList, "contact.name".toList,
    "contact.first_name".toList, "contact.email".toList, "agent.name".toList,
    "agent.first_name".toList, "agent.email".toList]

def values (ticket : Ticket) (agent : Person) : List Text :=
  [ Nat.toDigits 10 ticket.number,
    ticket.subject,
    match ticket.queue with | some queue => queue.name | none => [],
    match ticket.contact with | some contact => contact.fullName | none => [],
    match ticket.contact with | some contact => contact.firstName | none => [],
    match ticket.contact with | some contact => contact.email | none => [],
    if agent.fullName = [] then agent.email else agent.fullName,
    if agent.firstName = [] then cutBefore '@' agent.email else agent.firstName,
    agent.email]

/-- The mapping `replacements`. -/
def replacements (ticket : Ticket) (agent : Person) : List (Text × Text) :=
  (names.map placeholder).zip (values ticket agent)

/-- `render_macro`. -/
def renderMacro (template : Macro) (ticket : Ticket) (agent : Person) : Text :=
  replaceInTurn (replacements ticket agent) template.body

/-! ## The substitution that it stands for -/

def substituted (template : Macro) (ticket : Ticket) (agent : Person) : Text :=
  substitute (replacements ticket agent) template.body

def ExpandsOwn (template : Macro) (ticket : Ticket) (agent : Person) : Prop :=
  ReplacesOwn (replacements ticket agent) template.body

/--
The texts of the variables, written into the body, form no placeholder of a variable that is
replaced later.
-/
def Harmless (template : Macro) (ticket : Ticket) (agent : Person) : Prop :=
  FormsNone (replacements ticket agent) template.body

/-! ## The placeholders stay apart -/

section Placeholders

variable {first second ending : Text}

theorem eq_of_placeholder_begins (hfirst : '\x7d' ∉ first) (hsecond : '\x7d' ∉ second)
    (hbegins : placeholder first <+: placeholder second) : first = second := by
  obtain ⟨rest, hrest⟩ := hbegins
  have htail : first ++ '\x7d' :: ('\x7d' :: rest) = second ++ '\x7d' :: ['\x7d'] := by
    simpa [placeholder] using hrest
  calc
    first = cutBefore '\x7d' (first ++ '\x7d' :: ('\x7d' :: rest)) := (cutBefore_append hfirst).symm
    _ = cutBefore '\x7d' (second ++ '\x7d' :: ['\x7d']) := by rw [htail]
    _ = second := cutBefore_append hsecond

theorem not_braced_of_suffix (hfirst : '\x7b' ∉ first)
    (hsuffix : ending <:+ first ++ ['\x7d', '\x7d']) : ¬ ['\x7b'] <+: ending := by
  rintro ⟨rest, rfl⟩
  have hmem : '\x7b' ∈ first ++ ['\x7d', '\x7d'] := hsuffix.subset (by simp)
  simp [hfirst] at hmem

theorem clear_placeholder (hfirst : '\x7b' ∉ first ∧ '\x7d' ∉ first)
    (hsecond : '\x7b' ∉ second ∧ '\x7d' ∉ second) :
    Clear (placeholder first) (placeholder second) := by
  intro ending hending hsuffix hmeets
  rcases List.suffix_cons_iff.mp hsuffix with rfl | hinner
  · have hsame : first = second := by
      cases hmeets with
      | inl hbegins => exact eq_of_placeholder_begins hfirst.2 hsecond.2 hbegins
      | inr hbegins => exact (eq_of_placeholder_begins hsecond.2 hfirst.2 hbegins).symm
    exact ⟨rfl, congrArg placeholder hsame⟩
  · exfalso
    have hbraces : ['\x7b', '\x7b'] <+: placeholder second := ⟨second ++ ['\x7d', '\x7d'], rfl⟩
    rcases List.suffix_cons_iff.mp hinner with rfl | hdeep
    · -- One brace alone is left of the two: a letter or a closing brace stands behind it.
      have hnext : ['\x7b'] <+: first ++ ['\x7d', '\x7d'] := by
        cases hmeets with
        | inl hbegins =>
          have hlong := List.prefix_of_prefix_length_le hbraces hbegins (by simp)
          exact (List.cons_prefix_cons.mp hlong).2
        | inr hbegins => exact (List.cons_prefix_cons.mp (hbraces.trans hbegins)).2
      exact not_braced_of_suffix hfirst.1 (List.suffix_refl _) hnext
    · refine not_braced_of_suffix hfirst.1 hdeep ?_
      have hbrace : ['\x7b'] <+: placeholder second := ⟨'\x7b' :: (second ++ ['\x7d', '\x7d']), rfl⟩
      cases hmeets with
      | inl hbegins =>
        exact List.prefix_of_prefix_length_le hbrace hbegins (List.length_pos_of_ne_nil hending)
      | inr hbegins => exact hbrace.trans hbegins

end Placeholders

theorem braceless_of_mem {name : Text} (hname : name ∈ names) :
    '\x7b' ∉ name ∧ '\x7d' ∉ name := by
  revert name
  decide +kernel

theorem replacements_fst (ticket : Ticket) (agent : Person) :
    (replacements ticket agent).map Prod.fst = names.map placeholder := rfl

theorem placeholder_injective : Function.Injective placeholder := by
  intro first second hsame
  simpa [placeholder] using hsame

theorem separable_replacements (ticket : Ticket) (agent : Person) :
    Separable (replacements ticket agent) := by
  have hfst :
      ∀ entry ∈ replacements ticket agent, ∃ name ∈ names, placeholder name = entry.1 := by
    intro entry hentry
    have hmem := List.mem_map_of_mem (f := Prod.fst) hentry
    rw [replacements_fst] at hmem
    exact List.mem_map.mp hmem
  constructor
  · intro entry hentry
    obtain ⟨name, -, hname⟩ := hfst entry hentry
    rw [← hname]
    exact List.cons_ne_nil _ _
  · intro first hfirst second hsecond
    obtain ⟨one, hone, hfirstName⟩ := hfst first hfirst
    obtain ⟨two, htwo, hsecondName⟩ := hfst second hsecond
    rw [← hfirstName, ← hsecondName]
    exact clear_placeholder (braceless_of_mem hone) (braceless_of_mem htwo)
  · rw [replacements_fst]
    exact List.Nodup.map placeholder_injective (by decide +kernel)

/-! ## When the two agree -/

/--
The rendered text is the simultaneous substitution, and nothing is expanded but the placeholders of
the body, just when the texts written in form no later placeholder.
-/
theorem renderMacro_substitutes_iff (template : Macro) (ticket : Ticket) (agent : Person) :
    (renderMacro template ticket agent = substituted template ticket agent ∧
      ExpandsOwn template ticket agent) ↔ Harmless template ticket agent := by
  exact replaceInTurn_eq_substitute_iff (separable_replacements ticket agent) template.body

/-- A customer's subject that carries a placeholder. -/
def craftedTicket : Ticket where
  number := 7
  subject := placeholder "agent.email".toList
  queue := none
  contact := none

/-- A macro that quotes the subject. -/
def quotingMacro : Macro := ⟨placeholder "ticket.subject".toList⟩

/-- The agent who answers. -/
def answeringAgent : Person := ⟨"Ada".toList, [], "a@b.c".toList⟩

/-- The agent's address is put where the subject's own text belongs. -/
theorem not_renderMacro_substitutes :
    ¬ ∀ template ticket agent,
      renderMacro template ticket agent = substituted template ticket agent := by
  intro hall
  have hrendered :
      renderMacro quotingMacro craftedTicket answeringAgent = "a@b.c".toList := by decide +kernel
  have hsubstituted :
      substituted quotingMacro craftedTicket answeringAgent =
        placeholder "agent.email".toList := by decide +kernel
  rw [hall, hsubstituted] at hrendered
  exact absurd hrendered (by decide +kernel)

end Kanzan.Tickets.MacroText
