import Mathlib.Data.List.Basic

/-!
# Header texts

The normalisation of message ids, and the ticket number in a subject.  Characters are told apart
as Python does.
-/

namespace Kanzan.Mail

/-! ## Characters -/

/-- `str.isspace`, for one character. -/
def isSpace (c : Char) : Bool :=
  let code := c.toNat
  (9 ≤ code && code ≤ 13) || (28 ≤ code && code ≤ 32) || code == 0x85 || code == 0xa0 ||
    code == 0x1680 || (0x2000 ≤ code && code ≤ 0x200a) || code == 0x2028 || code == 0x2029 ||
    code == 0x202f || code == 0x205f || code == 0x3000

/-- The zeros of the decimal digits of Unicode; each is followed by the other nine digits. -/
def decimalZeros : List ℕ :=
  [0x30, 0x660, 0x6f0, 0x7c0, 0x966, 0x9e6, 0xa66, 0xae6, 0xb66, 0xbe6, 0xc66, 0xce6, 0xd66, 0xde6,
    0xe50, 0xed0, 0xf20, 0x1040, 0x1090, 0x17e0, 0x1810, 0x1946, 0x19d0, 0x1a80, 0x1a90, 0x1b50,
    0x1bb0, 0x1c40, 0x1c50, 0xa620, 0xa8d0, 0xa900, 0xa9d0, 0xa9f0, 0xaa50, 0xabf0, 0xff10, 0x104a0,
    0x10d30, 0x11066, 0x110f0, 0x11136, 0x111d0, 0x112f0, 0x11450, 0x114d0, 0x11650, 0x116c0,
    0x11730, 0x118e0, 0x11950, 0x11c50, 0x11d50, 0x11da0, 0x11f50, 0x16a60, 0x16ac0, 0x16b50,
    0x1d7ce, 0x1d7d8, 0x1d7e2, 0x1d7ec, 0x1d7f6, 0x1e140, 0x1e2f0, 0x1e4f0, 0x1e950, 0x1fbf0]

def decimal (c : Char) : Option ℕ :=
  (decimalZeros.find? fun first => first ≤ c.toNat && c.toNat < first + 10).map fun first =>
    c.toNat - first

/-- Whether a character matches a small letter of the pattern when case is ignored. -/
def matchesLetter (letter c : Char) : Bool :=
  c == letter || c == letter.toUpper || (letter == 'i' && (c == 'İ' || c == 'ı')) ||
    (letter == 'k' && c.toNat == 0x212a)

/-! ## Strings -/

def trim (condition : Char → Bool) (chars : List Char) : List Char :=
  ((chars.dropWhile condition).reverse.dropWhile condition).reverse

/-- `str.strip()`. -/
def strip (text : String) : String := String.ofList (trim isSpace text.toList)

/-- `str.strip("<>")`. -/
def stripBrackets (text : String) : String :=
  String.ofList (trim (fun c => c == '<' || c == '>') text.toList)

/-- The words of a text; the accumulator holds the word that is being read. -/
def splitChars : List Char → List Char → List (List Char)
  | [], word => if word.isEmpty then [] else [word.reverse]
  | c :: rest, word =>
    if isSpace c then
      if word.isEmpty then splitChars rest [] else word.reverse :: splitChars rest []
    else splitChars rest (c :: word)

/-- `str.split()`. -/
def split (text : String) : List String := (splitChars text.toList []).map String.ofList

/-! ## Message ids -/

/-- `normalize_message_id`. -/
def normalizeMessageId (rawId : String) : String :=
  if rawId = "" then "" else strip (stripBrackets (strip rawId))

/-- `normalize_references`. -/
def normalizeReferences (rawReferences : String) : String :=
  if rawReferences = "" then "" else " ".intercalate ((split rawReferences).map normalizeMessageId)

/-! ## Ticket numbers -/

def afterLetters : List Char → List Char → Option (List Char)
  | [], text => some text
  | _, [] => none
  | letter :: letters, c :: text =>
    if matchesLetter letter c then afterLetters letters text else none

/-- `[#N]` or `[Ticket #N]` at the start of a text. -/
def ticketRef : List Char → Option ℕ
  | '[' :: text =>
    let text := ((afterLetters ['t', 'i', 'c', 'k', 'e', 't'] text).map fun rest =>
      rest.dropWhile isSpace).getD text
    match text with
    | '#' :: text =>
      let digits := text.takeWhile fun c => (decimal c).isSome
      match digits, text.dropWhile fun c => (decimal c).isSome with
      | _ :: _, ']' :: _ =>
        some (digits.foldl (fun number c => 10 * number + (decimal c).getD 0) 0)
      | _, _ => none
    | _ => none
  | _ => none

def searchTicketRef : List Char → Option ℕ
  | [] => none
  | c :: rest => (ticketRef (c :: rest)).or (searchTicketRef rest)

/-- `extract_ticket_number`. -/
def extractTicketNumber (subject : String) : Option ℕ := searchTicketRef subject.toList

example : extractTicketNumber "Re: [TICKET #42] printer" = some 42 := by decide

end Kanzan.Mail
