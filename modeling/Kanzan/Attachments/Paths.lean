import Kanzan.Mail.Text

/-!
# Paths of stored files

What the standard library does with the paths that the media view takes apart: `posixpath`, and the
reading of a UUID.
-/

namespace Kanzan.Attachments

/-! ## Segments -/

/-- The texts between the slashes; the accumulator holds the segment that is being read. -/
def splitSlashes : List Char → List Char → List (List Char)
  | [], segment => [segment.reverse]
  | c :: rest, segment =>
    if c = '/' then segment.reverse :: splitSlashes rest [] else splitSlashes rest (c :: segment)

theorem splitSlashes_isPrefix {text segment first : List Char} {rest : List (List Char)}
    (hsplit : splitSlashes text segment = first :: rest) : first <+: segment.reverse ++ text := by
  induction text generalizing segment with
  | nil =>
    obtain ⟨rfl, -⟩ := List.cons.inj hsplit
    exact List.prefix_append _ _
  | cons c tail ih =>
    rw [splitSlashes] at hsplit
    split at hsplit
    · obtain ⟨rfl, -⟩ := List.cons.inj hsplit
      exact List.prefix_append _ _
    · have hprefix := ih hsplit
      rwa [List.reverse_cons, List.append_assoc, List.singleton_append] at hprefix

/-- `path.split("/")`. -/
def parts (path : String) : List String := (splitSlashes path.toList []).map String.ofList

/-- `text.startswith(word)`. -/
def startsWith (word text : String) : Bool := word.toList.isPrefixOf text.toList

theorem startsWith_of_parts {path first : String} {rest : List String}
    (hparts : parts path = first :: rest) : startsWith first path = true := by
  unfold parts at hparts
  cases hsplit : splitSlashes path.toList [] with
  | nil =>
    rw [hsplit] at hparts
    cases hparts
  | cons chars tail =>
    rw [hsplit, List.map_cons] at hparts
    obtain ⟨rfl, -⟩ := List.cons.inj hparts
    rw [startsWith, String.toList_ofList, List.isPrefixOf_iff_prefix]
    exact splitSlashes_isPrefix hsplit

theorem head_of_startsWith {word text : String} {c : Char} (hword : startsWith word text = true)
    (hhead : word.toList.head? = some c) : text.toList.head? = some c := by
  rw [startsWith, List.isPrefixOf_iff_prefix] at hword
  rw [← List.singleton_prefix_iff_head?_eq_some] at hhead ⊢
  exact hhead.trans hword

/-! ## `posixpath` -/

def keepSegment (rooted : Bool) (kept : List String) (segment : String) : List String :=
  if segment = "" ∨ segment = "." then kept
  else if segment ≠ ".." ∨ (rooted = false ∧ kept = []) ∨ kept.head? = some ".." then
    segment :: kept
  else kept.tail

/-- The slashes that a normalised path starts with: two stay two, and three are one. -/
def initialSlashes : List Char → ℕ
  | '/' :: '/' :: '/' :: _ => 1
  | '/' :: '/' :: _ => 2
  | '/' :: _ => 1
  | _ => 0

/-- `posixpath.normpath`. -/
def normpath (path : String) : String :=
  if path = "" then "."
  else
    let slashes := initialSlashes path.toList
    let kept := ((parts path).foldl (keepSegment (decide (0 < slashes))) []).reverse
    let joined := String.ofList (List.replicate slashes '/') ++ "/".intercalate kept
    if joined = "" then "." else joined

/-- `posixpath.join`, of two paths. -/
def joinPaths (base path : String) : String :=
  if startsWith "/" path then path
  else if base = "" ∨ base.toList.getLast? = some '/' then base ++ path
  else base ++ "/" ++ path

/-! ## UUIDs -/

/-- `text.replace(word, "")`; the counter is what is left of the occurrence that is being read. -/
def removeWord (word : List Char) : ℕ → List Char → List Char
  | _, [] => []
  | skip + 1, _ :: rest => removeWord word skip rest
  | 0, c :: rest =>
    if word.isPrefixOf (c :: rest) then removeWord word (word.length - 1) rest
    else c :: removeWord word 0 rest

def hexDigit (c : Char) : Option ℕ :=
  if 'a' ≤ c ∧ c ≤ 'f' then some (c.toNat - 'a'.toNat + 10)
  else if 'A' ≤ c ∧ c ≤ 'F' then some (c.toNat - 'A'.toNat + 10)
  else Mail.decimal c

def hexDigits : List Char → ℕ → Option ℕ
  | [], value => some value
  | '_' :: c :: rest, value => (hexDigit c).bind fun digit => hexDigits rest (16 * value + digit)
  | c :: rest, value => (hexDigit c).bind fun digit => hexDigits rest (16 * value + digit)

/-- A number without a sign: its digits, after the prefix of the base if it has one. -/
def hexNumber : List Char → Option ℕ
  | [] => none
  | '0' :: 'x' :: rest | '0' :: 'X' :: rest => if rest = [] then none else hexDigits rest 0
  | c :: rest => (hexDigit c).bind fun digit => hexDigits rest digit

/-- `int(text, 16)`, of a text without a minus. -/
def intBase16 (text : List Char) : Option ℕ :=
  match Mail.trim Mail.isSpace text with
  | '+' :: rest => hexNumber rest
  | rest => hexNumber rest

/-- `uuid.UUID(text)`, as a number; none where it raises. -/
def uuid (text : String) : Option ℕ :=
  let plain := removeWord "uuid:".toList 0 (removeWord "urn:".toList 0 text.toList)
  let hex := (Mail.trim (fun c => c == '{' || c == '}') plain).filter (· ≠ '-')
  if hex.length = 32 then intBase16 hex else none

example : normpath "tenants/logos/../../exports//./jobs.csv" = "exports/jobs.csv" := by
  decide +kernel

example : uuid "urn:uuid:00000000-0000-0000-0000-00000000002A" = some 42 := by decide +kernel

end Kanzan.Attachments
