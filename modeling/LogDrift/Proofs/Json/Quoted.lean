import LogDrift.Json.Printer
import LogDrift.Json.Reader

/-!
# Strings read back

Every character is escaped into characters from which one step of the reader yields it again, so
that a quoted string reads back as itself, whatever it holds.
-/

namespace LogDrift.Json

theorem hexDigit?_hexDigit : ∀ {n : Nat}, n < 16 → hexDigit? (hexDigit n) = some n := by
  decide

/-- A control character is denoted by its code point in four hexadecimal digits. -/
theorem hexValue?_control {c : Char} (control : c.toNat < 0x20) :
    hexValue? '0' '0' (hexDigit (c.toNat / 16)) (hexDigit (c.toNat % 16)) = some c.toNat := by
  have zero : hexDigit? '0' = some 0 := by decide
  have high : hexDigit? (hexDigit (c.toNat / 16)) = some (c.toNat / 16) :=
    hexDigit?_hexDigit (by omega)
  have low : hexDigit? (hexDigit (c.toNat % 16)) = some (c.toNat % 16) :=
    hexDigit?_hexDigit (by omega)
  simp only [hexValue?, zero, high, low, bind, Option.bind, pure, Option.some.injEq]
  omega

/-- One step of the reader takes in an escaped character. -/
theorem stringStep_escapeChar (strict : Bool) (c : Char) (rest : List Char) :
    stringStep strict (escapeChar c ++ rest) = .ok (.next [c] (escapeChar c) rest) := by
  by_cases quote : c = '"'
  · subst quote
    rfl
  by_cases backslash : c = '\\'
  · subst backslash
    rfl
  by_cases backspace : c = '\x08'
  · subst backspace
    rfl
  by_cases feed : c = '\x0c'
  · subst feed
    rfl
  by_cases newline : c = '\n'
  · subst newline
    rfl
  by_cases back : c = '\r'
  · subst back
    rfl
  by_cases tab : c = '\t'
  · subst tab
    rfl
  by_cases control : c.toNat < 0x20
  · have escaped : escapeChar c =
        ['\\', 'u', '0', '0', hexDigit (c.toNat / 16), hexDigit (c.toNat % 16)] := by
      simp [escapeChar, quote, backslash, backspace, feed, newline, back, tab, control]
    have low : ¬ (0xD800 ≤ c.toNat ∧ c.toNat ≤ 0xDFFF) := by omega
    simp only [escaped, List.cons_append, List.nil_append, stringStep, hexValue?_control control,
      unicodeStep, if_neg low, Char.ofNat_toNat]
  · have escaped : escapeChar c = [c] := by
      simp [escapeChar, quote, backslash, backspace, feed, newline, back, tab, control]
    rw [escaped, List.singleton_append]
    simp [stringStep, backslash, control]

/-- An escaped string reads back up to its closing quotation mark. -/
theorem scanString_flatMap (strict : Bool) (text rest : List Char) :
    scanString strict (text.flatMap escapeChar ++ '"' :: rest) =
      .ok (text, text.flatMap escapeChar, rest) := by
  induction text with
  | nil =>
    unfold scanString
    rfl
  | cons c text ih =>
    have step := stringStep_escapeChar strict c (text.flatMap escapeChar ++ '"' :: rest)
    rw [← List.append_assoc, ← List.flatMap_cons] at step
    unfold scanString
    split
    · next fault found =>
      rw [found] at step
      contradiction
    · next left found =>
      rw [found] at step
      cases step
    · next characters written left found =>
      rw [found] at step
      cases step
      rw [ih]
      rfl

/-- The name of a member as it is met in a text. -/
def Key.ofText (name : String) : Key :=
  ⟨name.toList.flatMap escapeChar, .ok name, none⟩

@[simp] theorem scanQuoted_flatMap (text : String) (rest : List Char) :
    scanQuoted (text.toList.flatMap escapeChar ++ '"' :: rest) =
      (.quoted (.ofText text) (.str text), rest) := by
  rw [scanQuoted, scanString_flatMap]
  simp [Key.ofText, String.ofList_toList]

/-- A digit stands for itself. -/
theorem escapeChar_of_isDigit {c : Char} (digit : c.isDigit = true) : escapeChar c = [c] := by
  have other : ∀ d : Char, d.isDigit = false → c ≠ d := by
    intro d no same
    subst same
    rw [no] at digit
    contradiction
  have printable : ¬ c.toNat < 0x20 := by
    rw [Char.isDigit, Bool.and_eq_true, decide_eq_true_iff] at digit
    have above : '0'.toNat ≤ c.toNat := UInt32.le_iff_toNat_le.1 digit.1
    have zero : '0'.toNat = 48 := rfl
    omega
  simp [escapeChar, printable, other '"' (by decide), other '\\' (by decide),
    other '\x08' (by decide), other '\x0c' (by decide), other '\n' (by decide),
    other '\r' (by decide), other '\t' (by decide)]

/-- The characters of an integer stand for themselves. -/
@[simp]
theorem flatMap_escapeChar_writeInt (n : Int) : (writeInt n).flatMap escapeChar = writeInt n := by
  have plain : ∀ c ∈ writeInt n, escapeChar c = [c] := by
    intro c member
    rw [writeInt, List.mem_append] at member
    rcases member with sign | digit
    · split at sign
      · cases List.mem_singleton.1 sign
        rfl
      · contradiction
    · exact escapeChar_of_isDigit (Nat.isDigit_of_mem_toDigits (by decide) (by decide) digit)
  generalize writeInt n = text at plain ⊢
  induction text with
  | nil => rfl
  | cons c rest ih =>
    rw [List.forall_mem_cons] at plain
    rw [List.flatMap_cons, plain.1, ih plain.2, List.singleton_append]

end LogDrift.Json
