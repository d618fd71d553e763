import Kanzan.Mail.Text
import Mathlib.Data.List.DropRight

/-!
# Quoted replies

What `strip_quoted_reply` keeps of a body: the lines above the first delimiter that are not
quoted, without the white space at their end.
-/

namespace Kanzan.Mail

/-! ## Stripping a body -/

/-- A line that starts with `>`, but for white space. -/
def isQuoted (line : List Char) : Bool := (trim isSpace line).head? == some '>'

/-- A line that one of the patterns of `_QUOTE_DELIMITERS` matches, but for white space. -/
def isDelimiter (patterns : List (String → Bool)) (line : List Char) : Bool :=
  patterns.any fun pattern => pattern (String.ofList (trim isSpace line))

/-- The loop of `strip_quoted_reply`. -/
def unquotedLines (patterns : List (String → Bool)) : List (List Char) → List (List Char)
  | [] => []
  | line :: lines =>
    if isQuoted line then unquotedLines patterns lines
    else if isDelimiter patterns line then []
    else line :: unquotedLines patterns lines

/-- `"\n".join(lines).rstrip()`. -/
def joinStripped (lines : List (List Char)) : List Char :=
  (['\n'].intercalate lines).rdropWhile isSpace

/-- `strip_quoted_reply`. -/
def stripQuotedReply (patterns : List (String → Bool)) (bodyText : String) : String :=
  if bodyText = "" then ""
  else String.ofList (joinStripped (unquotedLines patterns (bodyText.toList.splitOn '\n')))

/-! ## The lines that are kept -/

section Lines

variable {patterns : List (String → Bool)} {lines : List (List Char)}

/-- No pattern matches a line that starts with `>`, nor the empty line. -/
structure Delimiting (patterns : List (String → Bool)) : Prop where
  quoted : ∀ line, isQuoted line = true → isDelimiter patterns line = false
  blank : isDelimiter patterns [] = false

theorem unquotedLines_eq (delimiting : Delimiting patterns) (lines : List (List Char)) :
    unquotedLines patterns lines =
      (lines.takeWhile fun line => !isDelimiter patterns line).filter fun line =>
        !isQuoted line := by
  induction lines with
  | nil => rfl
  | cons line lines ih =>
    rw [unquotedLines, ih]
    cases hquoted : isQuoted line with
    | true => simp [delimiting.quoted line hquoted, hquoted]
    | false =>
      cases hdelimits : isDelimiter patterns line with
      | true => simp [hdelimits]
      | false => simp [hdelimits, hquoted]

theorem plain_of_mem_unquotedLines {line : List Char} (hmem : line ∈ unquotedLines patterns lines) :
    isQuoted line = false ∧ isDelimiter patterns line = false := by
  induction lines with
  | nil => cases hmem
  | cons first lines ih =>
    rw [unquotedLines] at hmem
    split at hmem
    · exact ih hmem
    split at hmem
    · cases hmem
    rename_i hquoted hdelimits
    rcases List.mem_cons.mp hmem with rfl | hmem
    · exact ⟨by simpa using hquoted, by simpa using hdelimits⟩
    · exact ih hmem

theorem unquotedLines_sublist : (unquotedLines patterns lines).Sublist lines := by
  induction lines with
  | nil => exact .slnil
  | cons line lines ih =>
    rw [unquotedLines]
    split
    · exact ih.cons line
    split
    · exact List.nil_sublist _
    · exact ih.cons_cons line

theorem unquotedLines_eq_self
    (plain : ∀ line ∈ lines, isQuoted line = false ∧ isDelimiter patterns line = false) :
    unquotedLines patterns lines = lines := by
  induction lines with
  | nil => rfl
  | cons line lines ih =>
    obtain ⟨hquoted, hdelimits⟩ := plain line List.mem_cons_self
    rw [unquotedLines, if_neg (by simp [hquoted]), if_neg (by simp [hdelimits]),
      ih fun other hmem => plain other (List.mem_cons_of_mem line hmem)]

end Lines

/-! ## White space at the end of a text -/

section Ends

variable {text rest line : List Char}

theorem rdropWhile_append (hspace : ∀ c ∈ rest, isSpace c = true) :
    (line ++ rest).rdropWhile isSpace = line.rdropWhile isSpace := by
  induction rest using List.reverseRecOn with
  | nil => rw [List.append_nil]
  | append_singleton rest c ih =>
    rw [← List.append_assoc, List.rdropWhile_concat_pos _ _ _ (hspace c (by simp))]
    exact ih fun other hmem => hspace other (List.mem_append_left [c] hmem)

/-- White space at its end does not change what a line is when it is stripped. -/
theorem trim_append (hspace : ∀ c ∈ rest, isSpace c = true) :
    trim isSpace (line ++ rest) = trim isSpace line := by
  change ((line ++ rest).dropWhile isSpace).rdropWhile isSpace =
    (line.dropWhile isSpace).rdropWhile isSpace
  rw [List.dropWhile_append]
  split
  · rename_i hblank
    rw [List.isEmpty_iff.mp hblank, List.dropWhile_eq_nil_iff.mpr hspace]
  · exact rdropWhile_append hspace

theorem mem_of_mem_splitOn (hmem : line ∈ text.splitOn '\n') : '\n' ∉ line ∧ line ⊆ text := by
  induction text generalizing line with
  | nil =>
    obtain rfl := List.mem_singleton.mp hmem
    exact ⟨List.not_mem_nil, List.nil_subset _⟩
  | cons c text ih =>
    rw [List.splitOn_cons_eq_if_modifyHead] at hmem
    obtain ⟨first, lines, hlines⟩ := List.exists_cons_of_ne_nil (List.splitOn_ne_nil '\n' text)
    rw [hlines] at hmem ih
    split at hmem
    · rcases List.mem_cons.mp hmem with rfl | hmem
      · exact ⟨List.not_mem_nil, List.nil_subset _⟩
      · exact ⟨(ih hmem).1, List.subset_cons_of_subset c (ih hmem).2⟩
    · rename_i hbreak
      rcases List.mem_cons.mp hmem with rfl | hmem
      · obtain ⟨hnotMem, hsubset⟩ := ih List.mem_cons_self
        refine ⟨?_, List.cons_subset_cons c hsubset⟩
        rw [List.mem_cons, not_or]
        exact ⟨fun h => hbreak (beq_iff_eq.mpr h.symm), hnotMem⟩
      · obtain ⟨hnotMem, hsubset⟩ := ih (List.mem_cons_of_mem first hmem)
        exact ⟨hnotMem, List.subset_cons_of_subset c hsubset⟩

/-- The lines of a text begin those of a longer one, where its last line may go on. -/
theorem splitOn_append (text rest : List Char) :
    ∃ first last more others, text.splitOn '\n' = first ++ [last] ∧
      (text ++ rest).splitOn '\n' = first ++ (last ++ more) :: others ∧ more ⊆ rest := by
  induction text with
  | nil =>
    obtain ⟨more, others, hlines⟩ := List.exists_cons_of_ne_nil (List.splitOn_ne_nil '\n' rest)
    exact ⟨[], [], more, others, rfl, hlines,
      (mem_of_mem_splitOn (hlines ▸ List.mem_cons_self)).2⟩
  | cons c text ih =>
    obtain ⟨first, last, more, others, hshort, hlong, hmore⟩ := ih
    rw [List.cons_append, List.splitOn_cons_eq_if_modifyHead,
      List.splitOn_cons_eq_if_modifyHead, hshort, hlong]
    split
    · exact ⟨[] :: first, last, more, others, rfl, rfl, hmore⟩
    cases first with
    | nil => exact ⟨[], c :: last, more, others, rfl, rfl, hmore⟩
    | cons line first => exact ⟨(c :: line) :: first, last, more, others, rfl, rfl, hmore⟩

/-- The lines of a text without the white space at its end are lines of the text when stripped. -/
theorem trim_mem_of_mem_splitOn (hmem : line ∈ (text.rdropWhile isSpace).splitOn '\n') :
    ∃ other ∈ text.splitOn '\n', trim isSpace line = trim isSpace other := by
  obtain ⟨first, last, more, others, hshort, hlong, hmore⟩ :=
    splitOn_append (text.rdropWhile isSpace) (text.rtakeWhile isSpace)
  rw [List.rdropWhile_append_rtakeWhile] at hlong
  rw [hlong]
  rw [hshort] at hmem
  rcases List.mem_append.mp hmem with hmem | hmem
  · exact ⟨line, List.mem_append_left _ hmem, rfl⟩
  · obtain rfl := List.mem_singleton.mp hmem
    refine ⟨line ++ more, by simp, (trim_append fun c hc => ?_).symm⟩
    exact List.mem_rtakeWhile_imp (hmore hc)

end Ends

/-! ## Stripping twice -/

section Replies

variable {patterns : List (String → Bool)}

theorem plain_joinStripped (delimiting : Delimiting patterns) {lines : List (List Char)}
    (plain : ∀ line ∈ lines, isQuoted line = false ∧ isDelimiter patterns line = false)
    (hlines : ∀ line ∈ lines, '\n' ∉ line) :
    ∀ line ∈ (joinStripped lines).splitOn '\n',
      isQuoted line = false ∧ isDelimiter patterns line = false := by
  intro line hmem
  obtain ⟨other, hother, htrim⟩ := trim_mem_of_mem_splitOn hmem
  unfold isQuoted isDelimiter
  rw [htrim]
  by_cases hnil : lines = []
  · rw [hnil] at hother
    obtain rfl := List.mem_singleton.mp hother
    exact ⟨rfl, delimiting.blank⟩
  · rw [List.splitOn_intercalate '\n' hlines hnil] at hother
    exact plain other hother

theorem stripQuotedReply_eq (patterns : List (String → Bool)) (bodyText : String) :
    stripQuotedReply patterns bodyText = String.ofList
      (joinStripped (unquotedLines patterns (bodyText.toList.splitOn '\n'))) := by
  unfold stripQuotedReply
  split
  · rename_i hempty
    rw [hempty]
    change "" = String.ofList (joinStripped (unquotedLines patterns [[]]))
    unfold unquotedLines unquotedLines isQuoted
    split
    · rfl
    split <;> rfl
  · rfl

/--
What is left of a body are the lines above the first delimiter that are not quoted, in their
order; stripping it again changes nothing.
-/
theorem stripQuotedReply_keeps (patterns : List (String → Bool)) (delimiting : Delimiting patterns)
    (bodyText : String) :
    stripQuotedReply patterns (stripQuotedReply patterns bodyText) =
        stripQuotedReply patterns bodyText ∧
      stripQuotedReply patterns bodyText = String.ofList ((['\n'].intercalate
        (((bodyText.toList.splitOn '\n').takeWhile fun line => !isDelimiter patterns line).filter
          fun line => !isQuoted line)).rdropWhile isSpace) := by
  have hlines : ∀ line ∈ unquotedLines patterns (bodyText.toList.splitOn '\n'), '\n' ∉ line :=
    fun _ hmem => (mem_of_mem_splitOn (unquotedLines_sublist.subset hmem)).1
  have hplain := plain_joinStripped delimiting (fun _ => plain_of_mem_unquotedLines) hlines
  rw [stripQuotedReply_eq, stripQuotedReply_eq, String.toList_ofList]
  refine ⟨?_, by rw [unquotedLines_eq delimiting, joinStripped]⟩
  rw [unquotedLines_eq_self hplain, joinStripped, List.intercalate_splitOn, joinStripped,
    List.rdropWhile_idempotent]

theorem stripQuotedReply_keeps_thanks :
    stripQuotedReply [fun line => line == "_____"] "Thanks!\n> Printer?\n_____\nOld mail" =
      String.ofList ((['\n'].intercalate
        ((("Thanks!\n> Printer?\n_____\nOld mail".toList.splitOn '\n').takeWhile fun line =>
          !isDelimiter [fun line => line == "_____"] line).filter
            fun line => !isQuoted line)).rdropWhile isSpace) := by
  refine (stripQuotedReply_keeps [fun line => line == "_____"] ⟨fun line hquoted => ?_, rfl⟩ _).2
  unfold isQuoted at hquoted
  unfold isDelimiter
  by_contra hdelimits
  have hline : String.ofList (trim isSpace line) = "_____" := by simpa using hdelimits
  rw [← String.toList_ofList (l := trim isSpace line), hline] at hquoted
  cases hquoted

example : stripQuotedReply [fun line => line == "_____"]
    "Thanks!  \n> Printer?\n\n_____\nOld mail" = "Thanks!" := by decide

end Replies

end Kanzan.Mail
