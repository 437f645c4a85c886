import LogDrift.Proofs.Text.Case
import LogDrift.Proofs.Text.Pieces
import LogDrift.Text.Token

/-!
# What tokens are made of

A character that is no word character cuts a text into two whose tokens stand one after the other. A
token has as many characters as the run that it comes from, or more. They are word characters, so
that the token is found again in a text of tokens, unless the run has a capital I with a dot: its
lower case has a combining dot, which is no word character.
-/

namespace LogDrift.Text

variable {text token : String} {c d : Char}

/-- Whether a token of a text comes from a run with a capital I with a dot. -/
def Dotted (text : String) : Prop :=
  ∃ run ∈ tokenRuns text.toList, '\u0130' ∈ run

/-! ## Runs -/

theorem mem_tokens_iff :
    token ∈ tokens text ↔ ∃ run ∈ tokenRuns text.toList, String.ofList (lower run) = token :=
  List.mem_map

/-- A run has two characters or more, which are word characters. -/
theorem mem_tokenRuns {text run : List Char} (member : run ∈ tokenRuns text) :
    2 ≤ run.length ∧ ∀ c ∈ run, isWordChar c = true := by
  obtain ⟨piece, long⟩ := List.mem_filter.1 member
  refine ⟨of_decide_eq_true long, ?_⟩
  intro c part
  simpa using ((mem_pieces piece).2 c part).1

theorem tokenRuns_append_cons (other : isWordChar c = false) (left right : List Char) :
    tokenRuns (left ++ c :: right) = tokenRuns left ++ tokenRuns right := by
  have cut : pieces (fun c => !isWordChar c) (left ++ c :: right) =
      pieces (fun c => !isWordChar c) left ++ pieces (fun c => !isWordChar c) right :=
    pieces_append_cons (by simp [other]) left right
  simp [tokenRuns, cut]

/-- Runs that are put together with spaces between them are found again. -/
theorem tokenRuns_intercalate {runs : List (List Char)}
    (whole : ∀ run ∈ runs, 2 ≤ run.length ∧ ∀ c ∈ run, isWordChar c = true) :
    tokenRuns ([' '].intercalate runs) = runs := by
  have space : (!isWordChar ' ') = true := by decide
  rw [tokenRuns, pieces_intercalate space, List.filter_eq_self]
  · exact fun run member => decide_eq_true (whole run member).1
  · intro run member
    obtain ⟨long, word⟩ := whole run member
    refine ⟨List.ne_nil_of_length_pos (by omega), ?_⟩
    intro c part
    simp [word c part]

/-- A character that is no word character cuts a text. -/
theorem tokens_append (other : isWordChar c = false) (left right : String) :
    tokens (left ++ String.singleton c ++ right) = tokens left ++ tokens right := by
  simp [tokens, tokenRuns_append_cons other]

/-! ## Characters -/

theorem isWordChar_shiftCase (word : isWordChar c = true) :
    isWordChar (shiftCase lowerShifts c) = true := by
  rw [isWordChar, Bool.or_eq_true] at word
  rcases word with alphanumeric | underscore
  · rw [isWordChar, isAlphanumeric_shiftCase alphanumeric, Bool.true_or]
  · rw [beq_iff_eq.1 underscore]
    decide +kernel

/-- The lower case of word characters are word characters, if there is no capital I with a dot. -/
theorem isWordChar_of_mem_lower {run : List Char} (word : ∀ c ∈ run, isWordChar c = true)
    (undotted : '\u0130' ∉ run) : ∀ d ∈ lower run, isWordChar d = true := by
  intro d member
  obtain ⟨c, member, image | ⟨_, rfl⟩⟩ := exists_of_mem_lowerAfter member
  · have other : c ≠ '\u0130' := by
      rintro rfl
      exact undotted member
    rw [lowerChar, if_neg other] at image
    rw [List.mem_singleton.1 image]
    exact isWordChar_shiftCase (word c member)
  · decide +kernel

@[simp] theorem isWordChar_dot : isWordChar '\u0307' = false := by
  decide +kernel

/-- A token consists of word characters just if its run has no capital I with a dot. -/
theorem forall_isWordChar_lower_iff {run : List Char} (word : ∀ c ∈ run, isWordChar c = true) :
    (∀ d ∈ lower run, isWordChar d = true) ↔ '\u0130' ∉ run := by
  constructor
  · intro wordly dotted
    have dot := wordly _ (dot_mem_lower dotted)
    rw [isWordChar_dot] at dot
    cases dot
  · exact isWordChar_of_mem_lower word

/-! ## Tokens -/

theorem two_le_length_of_mem_tokens (member : token ∈ tokens text) : 2 ≤ token.length := by
  obtain ⟨run, found, rfl⟩ := mem_tokens_iff.1 member
  rw [String.length_ofList]
  exact Nat.le_trans (mem_tokenRuns found).1 (length_le_lower run)

/-- All tokens of a text consist of word characters just if none comes from a run with a capital I
with a dot. -/
theorem forall_isWordChar_iff (text : String) :
    (∀ token ∈ tokens text, ∀ c ∈ token.toList, isWordChar c = true) ↔ ¬ Dotted text := by
  simp only [tokens, List.forall_mem_map, String.toList_ofList, Dotted, not_exists, not_and]
  constructor
  · intro wordly run member
    exact (forall_isWordChar_lower_iff (mem_tokenRuns member).2).1 (wordly run member)
  · intro undotted run member
    exact (forall_isWordChar_lower_iff (mem_tokenRuns member).2).2 (undotted run member)

theorem toList_intercalate_tokens (text : String) :
    (" ".intercalate (tokens text)).toList =
      [' '].intercalate ((tokenRuns text.toList).map lower) := by
  rw [String.toList_intercalate, tokens, List.map_map]
  congr 1
  apply List.map_congr_left
  intro run _
  exact String.toList_ofList

/-- No capital I with a dot is left in a text of tokens. -/
theorem not_dotted_intercalate (text : String) : ¬ Dotted (" ".intercalate (tokens text)) := by
  rintro ⟨run, member, dotted⟩
  rw [toList_intercalate_tokens] at member
  have part := ((mem_pieces (List.mem_filter.1 member).1).2 _ dotted).2
  have space : ' ' ≠ '\u0130' := by decide
  refine forall_mem_intercalate (· ≠ '\u0130') space ?_ _ part rfl
  simp only [List.forall_mem_map]
  exact fun run _ d image => (lowered_of_mem_lower image).1

/-- Tokens are found again in the text that they make up, just if none comes from a run with a
capital I with a dot. -/
theorem tokens_intercalate_iff (text : String) :
    tokens (" ".intercalate (tokens text)) = tokens text ↔ ¬ Dotted text := by
  constructor
  · intro same
    rw [← forall_isWordChar_iff, ← same, forall_isWordChar_iff]
    exact not_dotted_intercalate text
  · intro undotted
    have whole : ∀ run ∈ (tokenRuns text.toList).map lower,
        2 ≤ run.length ∧ ∀ c ∈ run, isWordChar c = true := by
      rw [List.forall_mem_map]
      intro run member
      obtain ⟨long, word⟩ := mem_tokenRuns member
      refine ⟨Nat.le_trans long (length_le_lower run), ?_⟩
      exact isWordChar_of_mem_lower word fun dotted => undotted ⟨run, member, dotted⟩
    rw [tokens, toList_intercalate_tokens, tokenRuns_intercalate whole, List.map_map, tokens]
    apply List.map_congr_left
    intro run _
    exact congrArg String.ofList (lower_lower run)

/-- Tokens have two characters or more, and texts that any other character than a word character
separates have their tokens one after the other. Tokens consist of word characters, and are found
again in the text that they make up, just if none comes from a run with a capital I with a dot. -/
theorem tokens_stable (text : String) :
    (∀ token ∈ tokens text, 2 ≤ token.length) ∧
    ((∀ token ∈ tokens text, ∀ c ∈ token.toList, isWordChar c = true) ↔ ¬ Dotted text) ∧
    (tokens (" ".intercalate (tokens text)) = tokens text ↔ ¬ Dotted text) ∧
    ∀ (c : Char) (next : String), isWordChar c = false →
      tokens (text ++ String.singleton c ++ next) = tokens text ++ tokens next :=
  ⟨fun _ => two_le_length_of_mem_tokens, forall_isWordChar_iff text, tokens_intercalate_iff text,
    fun _ next other => tokens_append other text next⟩

/-- A middle dot separates tokens, of which each has a final sigma of its own. -/
theorem tokens_stable_sigmas :
    isWordChar '·' = false ∧
      tokens ("ΟΔΟΣ" ++ String.singleton '·' ++ "ΔΙΣΚΟΣ") = ["οδος", "δισκος"] := by
  have other : isWordChar '·' = false := by decide +kernel
  obtain ⟨_, _, _, cut⟩ := tokens_stable "ΟΔΟΣ"
  refine ⟨other, (cut '·' "ΔΙΣΚΟΣ" other).trans ?_⟩
  decide +kernel

/-- The token of a word that starts with a capital I with a dot has a character that is no word
character, and is not found again. -/
theorem tokens_dotted :
    tokens "\u0130stanbul" = ["i\u0307stanbul"] ∧ isWordChar '\u0307' = false ∧
      tokens (" ".intercalate (tokens "\u0130stanbul")) = ["stanbul"] := by
  decide +kernel

end LogDrift.Text
