import LogDrift.Text.Blank

/-!
# Pieces of a text

A separator cuts a text into two whose pieces stand one after the other. So it matters where there
are separators, but not how many stand together, and those at either end do not matter at all. What
is left of a text when the blanks at either end are cut off is what stands between blanks.
-/

namespace LogDrift.Text

variable {separates : Char → Bool} {separators : List Char} {c : Char}

theorem runsFrom_append_cons (cut : separates c = true) (current left right : List Char) :
    runsFrom separates current (left ++ c :: right) =
      runsFrom separates current left ++ pieces separates right := by
  induction left generalizing current with
  | nil =>
    simp only [List.nil_append, runsFrom, cut, if_true, pieces]
    split <;> rfl
  | cons first rest ih =>
    simp only [List.cons_append, runsFrom, ih]
    split
    · split <;> rfl
    · rfl

/-- A separator cuts a text. -/
theorem pieces_append_cons (cut : separates c = true) (left right : List Char) :
    pieces separates (left ++ c :: right) = pieces separates left ++ pieces separates right :=
  runsFrom_append_cons cut [] left right

theorem pieces_append_of_leading (cut : ∀ c ∈ separators, separates c = true)
    (text : List Char) : pieces separates (separators ++ text) = pieces separates text := by
  induction separators with
  | nil => rfl
  | cons first rest ih =>
    have single := pieces_append_cons (cut first (.head _)) [] (rest ++ text)
    exact single.trans (ih fun c member => cut c (.tail _ member))

theorem pieces_append_of_trailing (cut : ∀ c ∈ separators, separates c = true)
    (text : List Char) : pieces separates (text ++ separators) = pieces separates text := by
  cases separators with
  | nil => rw [List.append_nil]
  | cons first rest =>
    have blank := pieces_append_of_leading (fun c member => cut c (.tail _ member)) []
    rw [List.append_nil] at blank
    rw [pieces_append_cons (cut first (.head _)), blank]
    exact List.append_nil _

/-- Neighbouring separators cut a text like one. -/
theorem pieces_append_append (cut : ∀ c ∈ separators, separates c = true)
    (nonempty : separators ≠ []) (left right : List Char) :
    pieces separates (left ++ separators ++ right) =
      pieces separates left ++ pieces separates right := by
  cases separators with
  | nil => contradiction
  | cons first rest =>
    rw [List.append_assoc, List.cons_append, pieces_append_cons (cut first (.head _)),
      pieces_append_of_leading fun c member => cut c (.tail _ member)]

theorem mem_runsFrom {holds : Char → Prop} {current text piece : List Char}
    (held : ∀ c ∈ current, holds c) (uncut : ∀ c ∈ text, separates c = false → holds c)
    (member : piece ∈ runsFrom separates current text) : piece ≠ [] ∧ ∀ c ∈ piece, holds c := by
  fun_induction runsFrom separates current text with
  | case1 => cases member
  | case2 current present =>
    rw [List.mem_singleton.1 member]
    exact ⟨by simpa using present, held⟩
  | case3 current c rest cut empty ih =>
    exact ih (List.forall_mem_nil _) (List.forall_mem_cons.1 uncut).2 member
  | case4 current c rest cut present ih =>
    rcases List.mem_cons.1 member with rfl | later
    · exact ⟨by simpa using present, held⟩
    · exact ih (List.forall_mem_nil _) (List.forall_mem_cons.1 uncut).2 later
  | case5 current c rest other ih =>
    rw [List.forall_mem_cons] at uncut
    apply ih _ uncut.2 member
    intro d part
    rcases List.mem_append.1 part with early | last
    · exact held d early
    · rw [List.mem_singleton.1 last]
      exact uncut.1 (Bool.eq_false_iff.2 other)

/-- A piece is not empty, and its characters are characters of the text that do not separate. -/
theorem mem_pieces {text piece : List Char} (member : piece ∈ pieces separates text) :
    piece ≠ [] ∧ ∀ c ∈ piece, separates c = false ∧ c ∈ text :=
  mem_runsFrom (List.forall_mem_nil _) (fun _ part unseparated => ⟨unseparated, part⟩) member

/-- A text without separators is a piece. -/
theorem pieces_eq_singleton {text : List Char} (nonempty : text ≠ [])
    (unseparated : ∀ c ∈ text, separates c = false) : pieces separates text = [text] := by
  have grown (current : List Char) (present : current ++ text ≠ []) :
      runsFrom separates current text = [current ++ text] := by
    clear nonempty
    induction text generalizing current with
    | nil =>
      rw [List.append_nil] at present ⊢
      rw [runsFrom, if_neg (by simpa using present)]
    | cons c rest ih =>
      rw [List.forall_mem_cons] at unseparated
      rw [runsFrom.eq_2, unseparated.1, if_neg Bool.false_ne_true, ih unseparated.2 _ (by simp),
        List.append_assoc, List.singleton_append]
  exact grown [] nonempty

/-- Pieces that are put together with separators between them are the pieces of the text. -/
theorem pieces_intercalate (cut : separates c = true) {parts : List (List Char)}
    (whole : ∀ part ∈ parts, part ≠ [] ∧ ∀ c ∈ part, separates c = false) :
    pieces separates ([c].intercalate parts) = parts := by
  induction parts with
  | nil => rfl
  | cons part rest ih =>
    rw [List.forall_mem_cons] at whole
    have single := pieces_eq_singleton whole.1.1 whole.1.2
    cases rest with
    | nil => rwa [List.intercalate_singleton]
    | cons next others =>
      rw [List.intercalate_cons_cons, List.append_assoc, List.singleton_append,
        pieces_append_cons cut, single, ih whole.2]
      rfl

theorem forall_mem_intercalate (holds : Char → Prop) (held : holds c) {parts : List (List Char)}
    (each : ∀ part ∈ parts, ∀ d ∈ part, holds d) : ∀ d ∈ [c].intercalate parts, holds d := by
  induction parts with
  | nil => exact List.forall_mem_nil _
  | cons part rest ih =>
    rw [List.forall_mem_cons] at each
    cases rest with
    | nil =>
      rw [List.intercalate_singleton]
      exact each.1
    | cons next others =>
      rw [List.intercalate_cons_cons, List.forall_mem_append, List.forall_mem_append,
        List.forall_mem_singleton]
      exact ⟨⟨each.1, held⟩, ih each.2⟩

/-! ## Blanks -/

/-- Texts that differ in the blanks at either end and in the number and kind of the blanks that stand
together. -/
inductive Respaced : List Char → List Char → Prop where
  | leading {blanks text : List Char} : (∀ c ∈ blanks, isBlank c = true) →
      Respaced (blanks ++ text) text
  | trailing {blanks text : List Char} : (∀ c ∈ blanks, isBlank c = true) →
      Respaced (text ++ blanks) text
  | between {blanks blanks' left right : List Char} : blanks ≠ [] → blanks' ≠ [] →
      (∀ c ∈ blanks, isBlank c = true) → (∀ c ∈ blanks', isBlank c = true) →
      Respaced (left ++ blanks ++ right) (left ++ blanks' ++ right)
  | symm {text text' : List Char} : Respaced text text' → Respaced text' text
  | trans {text text' text'' : List Char} :
      Respaced text text' → Respaced text' text'' → Respaced text text''

/-- Such texts have the same words. -/
theorem Respaced.words_eq {text text' : List Char} (respaced : Respaced text text') :
    words text = words text' := by
  induction respaced with
  | leading blank => exact pieces_append_of_leading blank _
  | trailing blank => exact pieces_append_of_trailing blank _
  | between nonempty nonempty' blank blank' =>
    rw [words, words, pieces_append_append blank nonempty, pieces_append_append blank' nonempty']
  | symm _ ih => exact ih.symm
  | trans _ _ ih ih' => exact ih.trans ih'

/-! ## Trimmed texts -/

/-- Whether there are only blanks before and after `middle` in a text. -/
def Surrounded (middle text : List Char) : Prop :=
  ∃ before after, text = before ++ middle ++ after ∧
    (∀ c ∈ before, isBlank c = true) ∧ ∀ c ∈ after, isBlank c = true

/-- What is cut off a text are blanks. -/
theorem surrounded_trimmed (text : List Char) : Surrounded (trimmed text) text := by
  have blank (chars : List Char) : ∀ c ∈ chars.takeWhile isBlank, isBlank c = true := by
    intro c member
    exact List.all_eq_true.1 List.all_takeWhile c member
  generalize rest : text.dropWhile isBlank = tail
  have kept : trimmed text ++ (tail.reverse.takeWhile isBlank).reverse = tail := by
    rw [trimmed, rest, ← List.reverse_append, List.takeWhile_append_dropWhile, List.reverse_reverse]
  refine ⟨text.takeWhile isBlank, (tail.reverse.takeWhile isBlank).reverse, ?_, blank text, ?_⟩
  · rw [List.append_assoc, kept, ← rest, List.takeWhile_append_dropWhile]
  · exact fun c member => blank tail.reverse c (List.mem_reverse.1 member)

theorem dropWhile_append_of_blankless {chars blanks : List Char}
    (blankless : ∀ c ∈ chars, isBlank c = false) (blank : ∀ c ∈ blanks, isBlank c = true) :
    (chars ++ blanks).dropWhile isBlank = if chars = [] then [] else chars ++ blanks := by
  cases chars with
  | nil =>
    have cut : (blanks ++ []).dropWhile isBlank = [].dropWhile isBlank :=
      List.dropWhile_append_of_pos blank
    simpa using cut
  | cons c rest => exact List.dropWhile_cons_of_neg (by simp [blankless c List.mem_cons_self])

/-- All blanks around a text without blanks are cut off. -/
theorem Surrounded.trimmed_eq {middle text : List Char} (surrounded : Surrounded middle text)
    (blankless : ∀ c ∈ middle, isBlank c = false) : trimmed text = middle := by
  obtain ⟨before, after, rfl, blank, blank'⟩ := surrounded
  rw [trimmed, List.append_assoc, List.dropWhile_append_of_pos blank,
    dropWhile_append_of_blankless blankless blank']
  split
  · next empty =>
    rw [empty]
    rfl
  · next filled =>
    rw [List.reverse_append, List.dropWhile_append_of_pos fun c member =>
      blank' c (List.mem_reverse.1 member)]
    have kept : (middle.reverse ++ []).dropWhile isBlank =
        if middle.reverse = [] then [] else middle.reverse ++ [] :=
      dropWhile_append_of_blankless (fun c member => blankless c (List.mem_reverse.1 member))
        (List.forall_mem_nil _)
    rw [List.append_nil, if_neg (by simpa using filled)] at kept
    rw [kept, List.reverse_reverse]

end LogDrift.Text
