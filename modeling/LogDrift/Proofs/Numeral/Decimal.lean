import LogDrift.Proofs.Numeral.Integer

/-!
# What texts are decimal numerals

The reader of floats takes the decimal numerals, and besides them the names of the infinities and of
the undefined number.
-/

namespace LogDrift.Decimal

/-! ## The grammar -/

/-- At least one digit and nothing else. -/
structure IsWhole (text : List Char) : Prop where
  digits : ∀ c ∈ text, c.isDigit = true
  present : text ≠ []

/-- A text of some kind, perhaps with a sign in front of it. -/
inductive Signed (kind : List Char → Prop) : (negative : Bool) → List Char → Prop
  | bare {text : List Char} (unsigned : kind text) : Signed kind false text
  | plus {text : List Char} (unsigned : kind text) : Signed kind false ('+' :: text)
  | minus {text : List Char} (unsigned : kind text) : Signed kind true ('-' :: text)

/-- Digits, of which there is one at least, with at most one point among or around them. -/
inductive IsMantissa : List Char → Prop
  | whole {digits : List Char} (whole : IsWhole digits) : IsMantissa digits
  | pointed {whole fraction : List Char} (digits : ∀ c ∈ whole ++ fraction, c.isDigit = true)
    (present : whole ++ fraction ≠ []) : IsMantissa (whole ++ '.' :: fraction)

/-- A power of ten that may be left out. -/
inductive IsExponent : List Char → Prop
  | none : IsExponent []
  | marked {mark : Char} {negative : Bool} {digits : List Char} (marks : mark = 'e' ∨ mark = 'E')
    (signed : Signed IsWhole negative digits) : IsExponent (mark :: digits)

/-- A decimal numeral without a sign. -/
inductive IsMagnitude : List Char → Prop
  | intro {mantissa exponent : List Char} (isMantissa : IsMantissa mantissa)
    (isExponent : IsExponent exponent) : IsMagnitude (mantissa ++ exponent)

/-- A decimal numeral. -/
def IsNumeral (text : List Char) : Prop :=
  ∃ negative, Signed IsMagnitude negative text

/-- A name of infinity, in any case of letters. -/
def NamesInfinity (text : List Char) : Prop :=
  text.map Char.toLower = "inf".toList ∨ text.map Char.toLower = "infinity".toList

/-- The name of the undefined number, in any case of letters. -/
def NamesUndefined (text : List Char) : Prop :=
  text.map Char.toLower = "nan".toList

/-! ## Signs -/

section Signed

variable {kind : List Char → Prop} {negative : Bool} {text : List Char}

/-- Whether no text of a kind starts with a sign. -/
def Unsigned (kind : List Char → Prop) : Prop :=
  ∀ rest, ¬ kind ('-' :: rest) ∧ ¬ kind ('+' :: rest)

theorem signed_minus_iff (unsigned : Unsigned kind) :
    Signed kind negative ('-' :: text) ↔ negative = true ∧ kind text := by
  constructor
  · intro signed
    cases signed with
    | bare bare => exact ((unsigned text).1 bare).elim
    | minus rest => exact ⟨rfl, rest⟩
  · rintro ⟨rfl, rest⟩
    exact .minus rest

theorem signed_plus_iff (unsigned : Unsigned kind) :
    Signed kind negative ('+' :: text) ↔ negative = false ∧ kind text := by
  constructor
  · intro signed
    cases signed with
    | bare bare => exact ((unsigned text).2 bare).elim
    | plus rest => exact ⟨rfl, rest⟩
  · rintro ⟨rfl, rest⟩
    exact .plus rest

theorem signed_iff_of_unsigned (noMinus : ∀ rest, text ≠ '-' :: rest)
    (noPlus : ∀ rest, text ≠ '+' :: rest) :
    Signed kind negative text ↔ negative = false ∧ kind text := by
  constructor
  · intro signed
    cases signed with
    | bare bare => exact ⟨rfl, bare⟩
    | plus => exact (noPlus _ rfl).elim
    | minus => exact (noMinus _ rfl).elim
  · rintro ⟨rfl, bare⟩
    exact .bare bare

theorem sign_cases (text : List Char) :
    (∃ rest, text = '-' :: rest) ∨ (∃ rest, text = '+' :: rest) ∨
      (∀ rest, text ≠ '-' :: rest) ∧ ∀ rest, text ≠ '+' :: rest := by
  by_cases minus : ∃ rest, text = '-' :: rest
  · exact .inl minus
  · by_cases plus : ∃ rest, text = '+' :: rest
    · exact .inr (.inl plus)
    · exact .inr (.inr ⟨not_exists.mp minus, not_exists.mp plus⟩)

/-- A text of two kinds is so behind one sign. -/
theorem Signed.exists_both {other : List Char → Prop} {negative' : Bool}
    (signed : Signed kind negative text) (unsigned : Unsigned kind) (unsigned' : Unsigned other)
    (signed' : Signed other negative' text) : ∃ rest, kind rest ∧ other rest := by
  rcases sign_cases text with ⟨rest, rfl⟩ | ⟨rest, rfl⟩ | ⟨noMinus, noPlus⟩
  · rw [signed_minus_iff unsigned] at signed
    rw [signed_minus_iff unsigned'] at signed'
    exact ⟨rest, signed.2, signed'.2⟩
  · rw [signed_plus_iff unsigned] at signed
    rw [signed_plus_iff unsigned'] at signed'
    exact ⟨rest, signed.2, signed'.2⟩
  · rw [signed_iff_of_unsigned noMinus noPlus] at signed signed'
    exact ⟨text, signed.2, signed'.2⟩

theorem unsigned_isWhole : Unsigned IsWhole :=
  fun _ => ⟨fun whole => Bool.noConfusion (whole.digits _ List.mem_cons_self),
    fun whole => Bool.noConfusion (whole.digits _ List.mem_cons_self)⟩

end Signed

/-! ## Digits -/

@[simp] theorem isSome_digit?_iff {c : Char} : (Integer.digit? c).isSome ↔ c.isDigit = true := by
  cases digit : c.isDigit with
  | true => simp [Integer.digit?_of_isDigit digit]
  | false => simp [Integer.digit?_eq_none digit]

theorem isDigit_of_mem_spanDigits {text : List Char} {c : Char} (member : c ∈ (spanDigits text).1) :
    c.isDigit = true :=
  isSome_digit?_iff.mp (List.all_eq_true.mp List.all_takeWhile c member)

@[simp] theorem spanDigits_append_self (text : List Char) :
    (spanDigits text).1 ++ (spanDigits text).2 = text :=
  List.takeWhile_append_dropWhile

/-- Digits are cut off in front of anything that does not start with one. -/
theorem spanDigits_of_digits {digits rest : List Char} (all : ∀ c ∈ digits, c.isDigit = true)
    (stops : ∀ c ∈ rest.head?, c.isDigit = false) :
    spanDigits (digits ++ rest) = (digits, rest) := by
  have self := spanDigits_eq_self fun c member => isSome_digit?_iff.mpr (all c member)
  rw [spanDigits_append digits fun c member => Integer.digit?_eq_none (stops c member), self]
  rfl

/-- A text is cut off as a whole just if it has digits only. -/
theorem isWhole_iff_spanDigits {text : List Char} :
    IsWhole text ↔ ¬ ((spanDigits text).1.isEmpty = true ∨ (spanDigits text).2 ≠ []) := by
  rw [not_or, List.isEmpty_iff, Decidable.not_not]
  constructor
  · intro whole
    have span : spanDigits (text ++ []) = (text, []) := spanDigits_of_digits whole.digits nofun
    rw [List.append_nil] at span
    rw [span]
    exact ⟨whole.present, rfl⟩
  · rintro ⟨present, complete⟩
    have parts := spanDigits_append_self text
    rw [complete, List.append_nil] at parts
    exact ⟨fun c member => isDigit_of_mem_spanDigits (parts.symm ▸ member), parts ▸ present⟩

/-! ## Reading -/

/-- An exponent is read after its mark as a number with a sign. -/
@[simp] theorem isSome_readExponent?_iff {text : List Char} :
    (readExponent? text).isSome ↔ IsExponent text := by
  cases text with
  | nil => exact iff_of_true rfl .none
  | cons mark rest =>
    have marked : IsExponent (mark :: rest) ↔
        (mark = 'e' ∨ mark = 'E') ∧ ∃ negative, Signed IsWhole negative rest := by
      constructor
      · rintro (_ | ⟨marks, signed⟩)
        exact ⟨marks, _, signed⟩
      · rintro ⟨marks, _, signed⟩
        exact .marked marks signed
    rw [marked]
    by_cases marks : mark = 'e' ∨ mark = 'E'
    · rcases sign_cases rest with ⟨digits, rfl⟩ | ⟨digits, rfl⟩ | ⟨noMinus, noPlus⟩
      · simp [readExponent?, marks, signed_minus_iff unsigned_isWhole, isWhole_iff_spanDigits]
      · simp [readExponent?, marks, signed_plus_iff unsigned_isWhole, isWhole_iff_spanDigits]
      · simp [readExponent?, marks, signed_iff_of_unsigned noMinus noPlus, isWhole_iff_spanDigits]
    · simp [readExponent?, marks]

/-- An exponent starts with its mark, so that neither digits nor a fraction go on with it. -/
theorem IsExponent.stops {text : List Char} (isExponent : IsExponent text) :
    ∀ c ∈ text.head?, c.isDigit = false ∧ c ≠ '.' := by
  cases isExponent with
  | none => nofun
  | marked marks signed =>
    rintro c ⟨⟩
    rcases marks with rfl | rfl <;> decide

/-- How a text is read whose first digits are followed by a point. -/
theorem isSome_readMagnitude?_of_point {text whole after : List Char}
    (cut : spanDigits text = (whole, '.' :: after)) :
    (readMagnitude? text).isSome ↔
      whole ++ (spanDigits after).1 ≠ [] ∧ IsExponent (spanDigits after).2 := by
  rw [← isSome_readExponent?_iff]
  by_cases empty : whole ++ (spanDigits after).1 = []
  · obtain ⟨rfl, bare⟩ := List.append_eq_nil_iff.mp empty
    simp [readMagnitude?, cut, bare]
  · have present : ¬ (whole = [] ∧ (spanDigits after).1 = []) := by
      rwa [List.append_eq_nil_iff] at empty
    simp [readMagnitude?, cut, present]

/-- How a text is read whose first digits are not followed by a point. -/
theorem isSome_readMagnitude?_of_no_point {text whole rest : List Char}
    (cut : spanDigits text = (whole, rest)) (noPoint : ∀ after, rest ≠ '.' :: after) :
    (readMagnitude? text).isSome ↔ whole ≠ [] ∧ IsExponent rest := by
  rw [← isSome_readExponent?_iff]
  by_cases empty : whole = []
  · simp [readMagnitude?, cut, empty]
  · simp [readMagnitude?, cut, empty]

@[simp] theorem isSome_readMagnitude?_iff {text : List Char} :
    (readMagnitude? text).isSome ↔ IsMagnitude text := by
  constructor
  · intro read
    have parts := spanDigits_append_self text
    have digits : ∀ c ∈ (spanDigits text).1, c.isDigit = true :=
      fun _ => isDigit_of_mem_spanDigits
    rcases cut : spanDigits text with ⟨whole, rest⟩
    rw [cut] at parts digits
    by_cases pointed : ∃ after, rest = '.' :: after
    · obtain ⟨after, rfl⟩ := pointed
      obtain ⟨present, isExponent⟩ := (isSome_readMagnitude?_of_point cut).mp read
      have split : text = (whole ++ '.' :: (spanDigits after).1) ++ (spanDigits after).2 := by
        rw [← parts, List.append_assoc, List.cons_append, spanDigits_append_self]
      rw [split]
      refine .intro (.pointed (fun c member => ?_) present) isExponent
      rcases List.mem_append.mp member with before | behind
      · exact digits c before
      · exact isDigit_of_mem_spanDigits behind
    · obtain ⟨present, isExponent⟩ :=
        (isSome_readMagnitude?_of_no_point cut (not_exists.mp pointed)).mp read
      rw [← parts]
      exact .intro (.whole ⟨digits, present⟩) isExponent
  · rintro ⟨⟨whole⟩ | ⟨digits, present⟩, isExponent⟩
    · next mantissa exponent =>
      have cut : spanDigits (mantissa ++ exponent) = (mantissa, exponent) :=
        spanDigits_of_digits whole.digits fun c first => (isExponent.stops c first).1
      have noPoint : ∀ after, exponent ≠ '.' :: after := by
        rintro after rfl
        exact (isExponent.stops '.' rfl).2 rfl
      exact (isSome_readMagnitude?_of_no_point cut noPoint).mpr ⟨whole.present, isExponent⟩
    · next exponent whole fraction =>
      have cut : spanDigits (whole ++ '.' :: fraction ++ exponent) =
          (whole, '.' :: (fraction ++ exponent)) := by
        rw [List.append_assoc, List.cons_append]
        exact spanDigits_of_digits (fun c member => digits c (List.mem_append_left _ member))
          (by rintro c ⟨⟩; decide)
      have span : spanDigits (fraction ++ exponent) = (fraction, exponent) :=
        spanDigits_of_digits (fun c member => digits c (List.mem_append_right _ member))
          fun c first => (isExponent.stops c first).1
      rw [isSome_readMagnitude?_of_point cut, span]
      exact ⟨present, isExponent⟩

/-! ## Numerals with a sign -/

theorem IsMagnitude.starts {c : Char} {rest : List Char} (isMagnitude : IsMagnitude (c :: rest)) :
    c.isDigit = true ∨ c = '.' := by
  generalize text : c :: rest = whole at isMagnitude
  rcases isMagnitude with ⟨⟨whole⟩ | ⟨digits, present⟩, -⟩
  · next mantissa exponent =>
    cases mantissa with
    | nil => exact (whole.present rfl).elim
    | cons first mantissa =>
      cases text
      exact .inl (whole.digits c List.mem_cons_self)
  · next exponent before fraction =>
    cases before with
    | nil =>
      cases text
      exact .inr rfl
    | cons first before =>
      cases text
      exact .inl (digits c List.mem_cons_self)

theorem unsigned_isMagnitude : Unsigned IsMagnitude :=
  fun _ => ⟨fun minus => absurd minus.starts (by decide),
    fun plus => absurd plus.starts (by decide)⟩

theorem unsigned_namesInfinity : Unsigned NamesInfinity := by
  intro rest
  simp [NamesInfinity]

theorem unsigned_namesUndefined : Unsigned NamesUndefined := by
  intro rest
  simp [NamesUndefined]

variable {text : List Char}

/-- A numeral starts with a digit or a point, and a name with a letter. -/
theorem IsMagnitude.not_named (isMagnitude : IsMagnitude text) :
    ¬ NamesInfinity text ∧ ¬ NamesUndefined text := by
  cases text with
  | nil => simp [NamesInfinity, NamesUndefined]
  | cons c rest =>
    have starts : c.toLower ≠ 'i' ∧ c.toLower ≠ 'n' := by
      rcases isMagnitude.starts with digit | rfl
      · rw [Char.isDigit, Bool.and_eq_true, decide_eq_true_iff, decide_eq_true_iff] at digit
        have small : ¬ (c.val ≥ 'A'.val ∧ c.val ≤ 'Z'.val) := by
          rintro ⟨letter, -⟩
          exact absurd (UInt32.le_trans letter digit.2) (by decide)
        have kept : c.toLower = c := dif_neg small
        rw [kept]
        constructor
        · rintro rfl
          exact absurd digit (by decide)
        · rintro rfl
          exact absurd digit (by decide)
      · decide
    simp [NamesInfinity, NamesUndefined, starts]

/-- A numeral with a sign is no name of infinity with a sign. -/
theorem IsNumeral.not_infinite (isNumeral : IsNumeral text) {negative : Bool} :
    ¬ Signed NamesInfinity negative text := by
  intro infinite
  obtain ⟨sign, numeral⟩ := isNumeral
  obtain ⟨rest, isMagnitude, infinity⟩ :=
    numeral.exists_both unsigned_isMagnitude unsigned_namesInfinity infinite
  exact isMagnitude.not_named.1 infinity

/-- An unsigned text is read if it is a name or a numeral. -/
@[simp] theorem isSome_readUnsigned?_iff :
    (readUnsigned? text).isSome ↔
      IsMagnitude text ∨ NamesInfinity text ∨ NamesUndefined text := by
  simp only [readUnsigned?]
  split
  · next infinity => exact iff_of_true rfl (.inr (.inl infinity))
  · next other =>
    split
    · next undefined => exact iff_of_true rfl (.inr (.inr undefined))
    · next known =>
      rw [isSome_readMagnitude?_iff]
      constructor
      · exact .inl
      · rintro (magnitude | infinity | undefined)
        · exact magnitude
        · exact (other infinity).elim
        · exact (known undefined).elim

/-- A text is read if it is a numeral or, perhaps with a sign, a name. -/
theorem isSome_read?_iff :
    (read? text).isSome ↔ IsNumeral text ∨ (∃ negative, Signed NamesInfinity negative text) ∨
      ∃ negative, Signed NamesUndefined negative text := by
  rcases sign_cases text with ⟨rest, rfl⟩ | ⟨rest, rfl⟩ | ⟨noMinus, noPlus⟩
  · simp [read?, IsNumeral, signed_minus_iff unsigned_isMagnitude, signed_minus_iff unsigned_namesInfinity, signed_minus_iff unsigned_namesUndefined]
  · simp [read?, IsNumeral, signed_plus_iff unsigned_isMagnitude, signed_plus_iff unsigned_namesInfinity, signed_plus_iff unsigned_namesUndefined]
  · simp [read?, IsNumeral, signed_iff_of_unsigned noMinus noPlus]

theorem readUnsigned?_of_infinity (infinity : NamesInfinity text) :
    readUnsigned? text = some (1 / 0) :=
  if_pos infinity

/-- The names of the infinities are read as the infinities. -/
theorem read?_of_infinity {negative : Bool} (infinite : Signed NamesInfinity negative text) :
    read? text = some (if negative then -(1 / 0) else 1 / 0) := by
  rcases sign_cases text with ⟨rest, rfl⟩ | ⟨rest, rfl⟩ | ⟨noMinus, noPlus⟩
  · obtain ⟨rfl, infinity⟩ := (signed_minus_iff unsigned_namesInfinity).mp infinite
    simp [read?, readUnsigned?_of_infinity infinity]
  · obtain ⟨rfl, infinity⟩ := (signed_plus_iff unsigned_namesInfinity).mp infinite
    exact readUnsigned?_of_infinity infinity
  · obtain ⟨rfl, infinity⟩ := (signed_iff_of_unsigned noMinus noPlus).mp infinite
    rw [read?.eq_3 _ noMinus noPlus]
    exact readUnsigned?_of_infinity infinity

/-- What is neither a numeral nor a name of infinity is read as no number, or not at all. -/
theorem readUnsigned?_of_other (noNumeral : ¬ IsMagnitude text) (finite : ¬ NamesInfinity text) :
    readUnsigned? text = none ∨ readUnsigned? text = some (0 / 0) := by
  have unread : readMagnitude? text = none := by
    rw [← Option.not_isSome_iff_eq_none, isSome_readMagnitude?_iff]
    exact noNumeral
  rw [NamesInfinity] at finite
  rw [readUnsigned?, if_neg finite, unread]
  split
  · exact .inr rfl
  · exact .inl rfl

theorem read?_of_other (noNumeral : ¬ IsNumeral text)
    (finite : ¬ ∃ negative, Signed NamesInfinity negative text) :
    read? text = none ∨ read? text = some (0 / 0) ∨ read? text = some (-(0 / 0)) := by
  rcases sign_cases text with ⟨rest, rfl⟩ | ⟨rest, rfl⟩ | ⟨noMinus, noPlus⟩
  · rcases readUnsigned?_of_other (fun bare => noNumeral ⟨true, .minus bare⟩)
      fun bare => finite ⟨true, .minus bare⟩ with read | read
    · exact .inl (by simp [read?, read])
    · exact .inr (.inr (by simp [read?, read]))
  · exact (readUnsigned?_of_other (fun bare => noNumeral ⟨false, .plus bare⟩)
      fun bare => finite ⟨false, .plus bare⟩).imp_right .inl
  · rw [read?.eq_3 _ noMinus noPlus]
    exact (readUnsigned?_of_other (fun bare => noNumeral ⟨false, .bare bare⟩)
      fun bare => finite ⟨false, .bare bare⟩).imp_right .inl

/-! ## Integers as numerals -/

/-- What spells an integer is a decimal numeral. -/
theorem isNumeral_of_spells {n : Int} (spells : Integer.Spells text n) : IsNumeral text := by
  have magnitude {digits : List Char} {n : Nat} (spells : Integer.SpellsNat digits n) :
      IsMagnitude digits := by
    have whole : IsMagnitude (digits ++ []) := .intro (.whole ⟨spells.digits, spells.present⟩) .none
    rwa [List.append_nil] at whole
  cases spells with
  | unsigned spells => exact ⟨false, .bare (magnitude spells)⟩
  | plus spells => exact ⟨false, .plus (magnitude spells)⟩
  | minus spells => exact ⟨true, .minus (magnitude spells)⟩

/-- The digits of a natural number are read as the double nearest to it. -/
@[simp] theorem readUnsigned?_toDigits (n : Nat) :
    readUnsigned? (Nat.toDigits 10 n) = some (nearestFloat n 0) := by
  have digits : ∀ c ∈ Nat.toDigits 10 n, c.isDigit = true :=
    fun c member => Nat.isDigit_of_mem_toDigits (by decide) (by decide) member
  have isMagnitude : IsMagnitude (Nat.toDigits 10 n ++ []) :=
    .intro (.whole ⟨digits, Nat.toDigits_ne_nil⟩) .none
  rw [List.append_nil] at isMagnitude
  have cut : spanDigits (Nat.toDigits 10 n) = (Nat.toDigits 10 n, []) :=
    spanDigits_eq_self fun _ => isSome_digit?_of_mem_toDigits
  obtain ⟨finite, defined⟩ := isMagnitude.not_named
  rw [NamesInfinity] at finite
  rw [NamesUndefined] at defined
  rw [readUnsigned?, if_neg finite, if_neg defined]
  simp [readMagnitude?, cut, readExponent?, Nat.toDigits_ne_nil]

/-- An integer is read as the double nearest to its magnitude, with its sign. -/
@[simp] theorem read?_writeInt (n : Int) :
    read? (Json.writeInt n) =
      some (if n < 0 then -nearestFloat n.natAbs 0 else nearestFloat n.natAbs 0) := by
  have magnitude := readUnsigned?_toDigits n.natAbs
  rw [Json.writeInt]
  split
  · simp [read?, magnitude]
  · have noSign : ∀ c ∈ (Nat.toDigits 10 n.natAbs).head?, c.isDigit = true := fun c first =>
      Nat.isDigit_of_mem_toDigits (by decide) (by decide) (List.mem_of_mem_head? first)
    have noMinus : ∀ rest, Nat.toDigits 10 n.natAbs ≠ '-' :: rest := by
      intro rest same
      rw [same] at noSign
      exact Bool.noConfusion (noSign '-' rfl)
    have noPlus : ∀ rest, Nat.toDigits 10 n.natAbs ≠ '+' :: rest := by
      intro rest same
      rw [same] at noSign
      exact Bool.noConfusion (noSign '+' rfl)
    rw [List.nil_append, read?.eq_3 _ noMinus noPlus, magnitude]

end LogDrift.Decimal
