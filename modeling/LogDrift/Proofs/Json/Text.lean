import LogDrift.Proofs.Json.Numeral
import LogDrift.Proofs.Json.Quoted

/-!
# Cutting a written value into tokens

A value is written as a row of tokens. Cutting the text gives this row back, provided that its
numbers can be read: integers have to stay within 64 bits, and the text of a float has to denote
that float.
-/

namespace LogDrift

namespace Json

/-- Whether the text of a float is that of a number which denotes the float. -/
def Rereads (x : Float) : Prop :=
  ∃ numeral, Numeral.scan (writeFloat x) = .ok (numeral, []) ∧ numeral.value? = some (.float x)

/-- Whether a value is a float. -/
def isFloat (x : Float) : Option Json → Bool
  | some (float value) => value = x
  | _ => false

@[simp] theorem isFloat_iff {x : Float} {value? : Option Json} :
    isFloat x value? = true ↔ value? = some (.float x) := by
  rw [isFloat.eq_def]
  split
  · simp
  · next other => simpa using fun same => other x same

instance (x : Float) : Decidable (Rereads x) :=
  match scanned : Numeral.scan (writeFloat x) with
  | .ok (numeral, []) =>
    decidable_of_iff (isFloat x numeral.value? = true) <| by
      rw [isFloat_iff, Rereads, scanned]
      simp
  | .ok (numeral, c :: rest) => .isFalse <| by
    rw [Rereads, scanned]
    simp
  | .error fault => .isFalse <| by
    rw [Rereads, scanned]
    simp

mutual

/-- Whether all numbers of a value read back as themselves. -/
def Legible : Json → Prop
  | int value => Integer.Fits value
  | float value => Rereads value
  | arr elements => LegibleElements elements
  | obj members => LegibleMembers members
  | _ => True

/-- Whether all numbers of some elements read back as themselves. -/
def LegibleElements : List Json → Prop
  | [] => True
  | element :: rest => element.Legible ∧ LegibleElements rest

/-- Whether all numbers of some members read back as themselves. -/
def LegibleMembers : List (String × Json) → Prop
  | [] => True
  | (_, value) :: rest => value.Legible ∧ LegibleMembers rest

end

mutual

/-- Legibility is decided number by number. -/
def decideLegible : (value : Json) → Decidable value.Legible
  | null => .isTrue trivial
  | bool _ => .isTrue trivial
  | int value => inferInstanceAs (Decidable (Integer.Fits value))
  | float value => inferInstanceAs (Decidable (Rereads value))
  | str _ => .isTrue trivial
  | arr elements => decideElements elements
  | obj members => decideMembers members

/-- Legibility of elements is decided number by number. -/
def decideElements : (elements : List Json) → Decidable (LegibleElements elements)
  | [] => .isTrue trivial
  | element :: rest =>
    @instDecidableAnd _ _ (decideLegible element) (decideElements rest)

/-- Legibility of members is decided number by number. -/
def decideMembers : (members : List (String × Json)) → Decidable (LegibleMembers members)
  | [] => .isTrue trivial
  | (_, value) :: rest =>
    @instDecidableAnd _ _ (decideLegible value) (decideMembers rest)

end

instance (value : Json) : Decidable value.Legible :=
  decideLegible value

@[simp] theorem legibleElements_iff {elements : List Json} :
    LegibleElements elements ↔ ∀ element ∈ elements, element.Legible := by
  induction elements with
  | nil => simp [LegibleElements]
  | cons element rest ih => simp [LegibleElements, ih]

@[simp] theorem legibleMembers_iff {members : List (String × Json)} :
    LegibleMembers members ↔ ∀ member ∈ members, member.2.Legible := by
  induction members with
  | nil => simp [LegibleMembers]
  | cons member rest ih =>
    rcases member with ⟨name, value⟩
    simp [LegibleMembers, ih]

/-! ## Tokens -/

mutual

/-- The tokens that a value is written as. -/
def tokensOf : Json → List Token
  | null => [.plain .null]
  | bool value => [.plain (.bool value)]
  | int value => [.plain (.int value)]
  | float value => [.plain (.float value)]
  | str value => [.quoted (.ofText value) (.str value)]
  | arr elements => .openArray :: elementTokens elements ++ [.closeArray]
  | obj members => .openObject :: memberTokens members ++ [.closeObject]

/-- The tokens of elements, with commas between them. -/
def elementTokens : List Json → List Token
  | [] => []
  | [element] => element.tokensOf
  | element :: next :: rest => element.tokensOf ++ .comma :: elementTokens (next :: rest)

/-- The tokens of members, with commas between them. -/
def memberTokens : List (String × Json) → List Token
  | [] => []
  | [(name, value)] => .quoted (.ofText name) (.str name) :: .colon :: value.tokensOf
  | (name, value) :: next :: rest =>
    .quoted (.ofText name) (.str name) :: .colon :: value.tokensOf ++
      .comma :: memberTokens (next :: rest)

end

@[simp] theorem tokens_nil : tokens [] = [] := by
  rw [tokens]

theorem tokens_cons {c : Char} (visible : isSpace c = false) (rest : List Char) :
    tokens (c :: rest) = (scanToken c rest).1 :: tokens (scanToken c rest).2 := by
  rw [tokens, visible]
  rfl

/-- What may follow a value: the end, a comma or a closing bracket. -/
def Closes (rest : List Char) : Prop :=
  ∀ c ∈ rest.head?, c = ',' ∨ c = ']' ∨ c = '\x7d'

theorem closes_nil : Closes [] := by
  intro c member
  contradiction

theorem closes_cons {c : Char} (closing : c = ',' ∨ c = ']' ∨ c = '\x7d') (rest : List Char) :
    Closes (c :: rest) := by
  intro c' member
  cases member
  exact closing

theorem Closes.ends {rest : List Char} (closes : Closes rest) : Numeral.Ends rest := by
  intro c member
  rcases closes c member with rfl | rfl | rfl <;> decide

/-- What starts with a number is cut as a number. -/
theorem tokens_of_scan {text left : List Char} {numeral : Numeral}
    (scanned : Numeral.scan text = .ok (numeral, left)) :
    tokens text = (scanNumber text).1 :: tokens (scanNumber text).2 := by
  rcases Numeral.starts_of_scan scanned with ⟨c, rest, rfl, starts⟩
  -- none of the characters that start something else starts a number
  have other : ∀ d : Char, d ≠ '-' → Integer.digit? d = none → c ≠ d := by
    intro d minus digit same
    subst same
    rcases starts with starts | starts
    · exact minus starts
    · rw [digit] at starts
      contradiction
  have dispatch : scanToken c rest = scanNumber (c :: rest) := by
    unfold scanToken
    split
    case h_11 => exact if_pos starts
    all_goals exact (other _ (by decide) (by decide) rfl).elim
  have visible : isSpace c = false := by
    simp [isSpace, other ' ' (by decide) (by decide), other '\n' (by decide) (by decide),
      other '\t' (by decide) (by decide), other '\r' (by decide) (by decide)]
  rw [tokens_cons visible, dispatch]

/-- A number is cut off as a whole. -/
theorem tokens_number {text rest : List Char} {numeral : Numeral} {value : Json}
    (closes : Closes rest) (scanned : Numeral.scan text = .ok (numeral, []))
    (denotes : numeral.value? = some value) :
    tokens (text ++ rest) = .plain value.toNode :: tokens rest := by
  have continued := Numeral.scan_append closes.ends scanned
  rw [tokens_of_scan continued]
  simp only [scanNumber, continued, denotes]

@[simp] theorem tokens_quoted (text : String) (rest : List Char) :
    tokens (writeString text ++ rest) = .quoted (.ofText text) (.str text) :: tokens rest := by
  have scanned := scanQuoted_flatMap text rest
  have written : writeString text ++ rest =
      '"' :: (text.toList.flatMap escapeChar ++ '"' :: rest) := by
    simp [writeString]
  rw [written, tokens_cons (by decide), scanToken, scanned]

/-- A punctuation mark is a token of its own. -/
theorem tokens_mark {c : Char} {token : Token} (visible : isSpace c = false)
    (mark : ∀ rest, scanToken c rest = (token, rest)) (rest : List Char) :
    tokens (c :: rest) = token :: tokens rest := by
  rw [tokens_cons visible, mark]

@[simp] theorem tokens_comma (rest : List Char) : tokens (',' :: rest) = .comma :: tokens rest :=
  tokens_mark (by decide) (fun _ => rfl) rest

@[simp] theorem tokens_colon (rest : List Char) : tokens (':' :: rest) = .colon :: tokens rest :=
  tokens_mark (by decide) (fun _ => rfl) rest

@[simp] theorem scanWord_append (word : List Char) (value : Node) (rest : List Char) :
    scanWord word value (word ++ rest) = (.plain value, rest) := by
  induction word with
  | nil => rfl
  | cons c word ih =>
    rw [List.cons_append, scanWord, if_pos rfl]
    exact ih

/-- A word is a token of its own. -/
theorem tokens_word {c : Char} {word : List Char} {value : Node} (visible : isSpace c = false)
    (starts : ∀ text, scanToken c text = scanWord word value text) (rest : List Char) :
    tokens (c :: word ++ rest) = .plain value :: tokens rest := by
  rw [List.cons_append, tokens_cons visible, starts, scanWord_append]

mutual

/-- A written value is cut into its tokens. -/
theorem tokens_write : ∀ {value : Json} {rest : List Char}, value.Legible → Closes rest →
    tokens (value.write ++ rest) = value.tokensOf ++ tokens rest
  | .null, rest, _, _ => by
    rw [write, tokensOf]
    exact tokens_word (c := 'n') (by decide) (fun _ => rfl) rest
  | .bool true, rest, _, _ => by
    rw [write, tokensOf]
    exact tokens_word (c := 't') (by decide) (fun _ => rfl) rest
  | .bool false, rest, _, _ => by
    rw [write, tokensOf]
    exact tokens_word (c := 'f') (by decide) (fun _ => rfl) rest
  | .int value, rest, legible, closes => by
    rw [write, tokensOf]
    have fits : Integer.Fits value := legible
    exact tokens_number closes (Numeral.scan_writeInt value)
      (Numeral.value?_ofInt fits.1 (Int.le_trans fits.2 (by decide)))
  | .float value, rest, legible, closes => by
    rw [write, tokensOf]
    rcases legible with ⟨numeral, scanned, denotes⟩
    exact tokens_number closes scanned denotes
  | .str value, rest, _, _ => by
    rw [write, tokensOf]
    exact tokens_quoted value rest
  | .arr elements, rest, legible, closes => by
    rw [write, tokensOf]
    have inner := tokens_writeElements legible (closes_cons (c := ']') (by simp) rest)
    have opening : tokens ('[' :: (writeElements elements ++ ']' :: rest)) =
        .openArray :: tokens (writeElements elements ++ ']' :: rest) :=
      tokens_mark (by decide) (fun _ => rfl) _
    have closing : tokens (']' :: rest) = .closeArray :: tokens rest :=
      tokens_mark (by decide) (fun _ => rfl) rest
    rw [inner, closing] at opening
    simpa using opening
  | .obj members, rest, legible, closes => by
    rw [write, tokensOf]
    have inner := tokens_writeMembers legible (closes_cons (c := '\x7d') (by simp) rest)
    have opening : tokens ('\x7b' :: (writeMembers members ++ '\x7d' :: rest)) =
        .openObject :: tokens (writeMembers members ++ '\x7d' :: rest) :=
      tokens_mark (by decide) (fun _ => rfl) _
    have closing : tokens ('\x7d' :: rest) = .closeObject :: tokens rest :=
      tokens_mark (by decide) (fun _ => rfl) rest
    rw [inner, closing] at opening
    simpa using opening

/-- Written elements are cut into their tokens. -/
theorem tokens_writeElements : ∀ {elements : List Json} {rest : List Char},
    LegibleElements elements → Closes rest →
    tokens (writeElements elements ++ rest) = elementTokens elements ++ tokens rest
  | [], rest, _, _ => by
    rw [writeElements, elementTokens]
    rfl
  | [element], rest, legible, closes => by
    rw [writeElements, elementTokens]
    exact tokens_write legible.1 closes
  | element :: next :: others, rest, legible, closes => by
    rw [writeElements, elementTokens]
    have later := tokens_writeElements legible.2 closes
    have first := tokens_write legible.1
      (closes_cons (c := ',') (by simp) (writeElements (next :: others) ++ rest))
    rw [tokens_comma, later] at first
    simpa using first

/-- Written members are cut into their tokens. -/
theorem tokens_writeMembers : ∀ {members : List (String × Json)} {rest : List Char},
    LegibleMembers members → Closes rest →
    tokens (writeMembers members ++ rest) = memberTokens members ++ tokens rest
  | [], rest, _, _ => by
    rw [writeMembers, memberTokens]
    rfl
  | [(name, value)], rest, legible, closes => by
    rw [writeMembers, memberTokens]
    have named := tokens_quoted name (':' :: (value.write ++ rest))
    rw [tokens_colon, tokens_write legible.1 closes] at named
    simpa using named
  | (name, value) :: next :: others, rest, legible, closes => by
    rw [writeMembers, memberTokens]
    have later := tokens_writeMembers legible.2 closes
    have first := tokens_write legible.1
      (closes_cons (c := ',') (by simp) (writeMembers (next :: others) ++ rest))
    rw [tokens_comma, later] at first
    have named := tokens_quoted name
      (':' :: (value.write ++ ',' :: (writeMembers (next :: others) ++ rest)))
    rw [tokens_colon, first] at named
    simpa using named

end

end Json

end LogDrift
