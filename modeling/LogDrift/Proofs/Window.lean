import LogDrift.Proofs.Numeral.Integer
import LogDrift.Proofs.Text.Pieces
import LogDrift.Window

/-!
# Which texts are windows

A window is read from exactly those texts that consist of its two bounds and a comma. Reading gives
back a window that was written, and windows that have a minute are told apart by their minutes.
-/

namespace LogDrift.Window

/-- A bound as it may be written: an integer of 64 bits with or without blanks around it. -/
structure Bound (text : List Char) (n : Int) : Prop where
  spelt : ∃ middle, Text.Surrounded middle text ∧ Integer.Spells middle n
  fits : Integer.Fits n

/-- A window as it may be written: the first comma stands between its bounds, of which the first is
not the greater. -/
structure Writes (text : List Char) (window : Window) : Prop where
  bounds : ∃ before after, text = before ++ ',' :: after ∧ ',' ∉ before ∧
    Bound before window.start ∧ Bound after window.stop
  ordered : window.start ≤ window.stop

variable {text before after : List Char} {window other : Window}

/-! ## Parts of a text -/

theorem split?_append_comma (first : ',' ∉ before) (after : List Char) :
    split? (before ++ ',' :: after) = some (before, after) := by
  have passed : ∀ c ∈ before, decide (c ≠ ',') = true := by
    intro c member
    exact decide_eq_true fun comma => first (comma ▸ member)
  simp only [split?, List.dropWhile_append_of_pos passed, List.takeWhile_append_of_pos passed]
  simp

/-- A text with a comma is split at the first one. -/
@[simp] theorem split?_eq_some_iff :
    split? text = some (before, after) ↔ text = before ++ ',' :: after ∧ ',' ∉ before := by
  constructor
  · intro found
    have whole := List.takeWhile_append_dropWhile (p := (· ≠ ',')) (l := text)
    have passed := List.all_takeWhile (p := (· ≠ ',')) (l := text)
    have stopped := List.head?_dropWhile_not (· ≠ ',') text
    rw [split?] at found
    split at found
    · cases found
    · next c rest dropped =>
      cases found
      rw [dropped] at stopped whole
      have comma : c = ',' := by simpa using stopped
      rw [comma] at whole
      exact ⟨whole.symm, fun member => by simpa using List.all_eq_true.1 passed ',' member⟩
  · rintro ⟨rfl, first⟩
    exact split?_append_comma first after

/-- A bound is read from the texts in which it may be written. -/
@[simp] theorem readBound_eq_ok_iff {n : Int} : readBound text = .ok n ↔ Bound text n := by
  have read : readBound text = .ok n ↔ Integer.read64 (Text.trimmed text) = .ok n := by
    rw [readBound]
    cases Integer.read64 (Text.trimmed text) with
    | error fault => exact iff_of_false nofun nofun
    | ok value =>
      constructor
      · rintro ⟨⟩
        rfl
      · rintro ⟨⟩
        rfl
  rw [read, Integer.read64_eq_ok_iff]
  constructor
  · rintro ⟨spells, fits⟩
    exact ⟨⟨_, Text.surrounded_trimmed text, spells⟩, fits⟩
  · rintro ⟨⟨middle, surrounded, spells⟩, fits⟩
    rw [surrounded.trimmed_eq spells.blankless]
    exact ⟨spells, fits⟩

/-! ## Reading and writing -/

/-- A window is read from the texts in which it may be written. -/
@[simp] theorem ofText_eq_ok_iff : ofText text = .ok window ↔ Writes text window := by
  constructor
  · intro found
    rw [ofText] at found
    split at found
    · cases found
    · next start stop parts =>
      obtain ⟨whole, first⟩ := split?_eq_some_iff.1 parts
      obtain ⟨start, left, found⟩ := exists_of_bind_eq_ok found
      obtain ⟨stop, right, found⟩ := exists_of_bind_eq_ok found
      split at found
      · cases found
      · next ordered =>
        cases found
        exact ⟨⟨_, _, whole, first, readBound_eq_ok_iff.1 left, readBound_eq_ok_iff.1 right⟩,
          Int.not_lt.1 ordered⟩
  · rintro ⟨⟨before, after, rfl, first, left, right⟩, ordered⟩
    simp only [ofText, split?_append_comma first, readBound_eq_ok_iff.2 left,
      readBound_eq_ok_iff.2 right, bind, Except.bind, if_neg (Int.not_lt.2 ordered)]
    rfl

theorem bound_writeInt {n : Int} (fits : Integer.Fits n) : Bound (Json.writeInt n) n where
  spelt := ⟨_, ⟨[], [], by simp⟩, Integer.spells_writeInt n⟩
  fits := fits

/-- A text that spells an integer has no comma. -/
theorem comma_not_mem_of_spells {n : Int} (spells : Integer.Spells text n) : ',' ∉ text := by
  have digitsOnly {digits : List Char} {magnitude : Nat}
      (spells : Integer.SpellsNat digits magnitude) : ',' ∉ digits :=
    fun member => absurd (spells.digits ',' member) (by decide)
  cases spells with
  | unsigned spells => exact digitsOnly spells
  | plus spells => simpa using digitsOnly spells
  | minus spells => simpa using digitsOnly spells

/-- The text of a window is one of those in which it may be written. -/
theorem writes_toText (start : Integer.Fits window.start) (stop : Integer.Fits window.stop)
    (ordered : window.start ≤ window.stop) : Writes window.toText window where
  bounds := ⟨_, _, rfl, comma_not_mem_of_spells (Integer.spells_writeInt window.start),
    bound_writeInt start, bound_writeInt stop⟩
  ordered := ordered

/-! ## Minutes -/

@[simp] theorem contains_iff {minute : Int} :
    window.contains minute = true ↔ window.start ≤ minute ∧ minute ≤ window.stop := by
  simp [contains]

/-- A window that has a minute is known by its minutes: its bounds are among them. -/
theorem eq_of_contains (ordered : window.start ≤ window.stop) (ordered' : other.start ≤ other.stop)
    (start : window.contains window.start = other.contains window.start)
    (stop : window.contains window.stop = other.contains window.stop)
    (start' : window.contains other.start = other.contains other.start)
    (stop' : window.contains other.stop = other.contains other.stop) : window = other := by
  rw [Bool.eq_iff_iff, contains_iff, contains_iff] at start stop start' stop'
  have starts : window.start = other.start := by omega
  have stops : window.stop = other.stop := by omega
  cases window
  cases other
  rw [mk.injEq]
  exact ⟨starts, stops⟩

/-- Windows that are written are the same just if they have the same minutes of 64 bits. -/
theorem Writes.eq_iff {text' : List Char} (writes : Writes text window)
    (writes' : Writes text' other) :
    window = other ↔
      ∀ minute, Integer.Fits minute → window.contains minute = other.contains minute := by
  constructor
  · rintro rfl minute _
    rfl
  · intro same
    obtain ⟨⟨_, _, _, _, start, stop⟩, ordered⟩ := writes
    obtain ⟨⟨_, _, _, _, start', stop'⟩, ordered'⟩ := writes'
    exact eq_of_contains ordered ordered' (same _ start.fits) (same _ stop.fits)
      (same _ start'.fits) (same _ stop'.fits)

/-- Windows are read from the texts in which they may be written and from no others, and what was
written is read back. Windows that are read are told apart by their minutes. -/
theorem ofText_reads :
    (∀ text window, ofText text = .ok window ↔ Writes text window) ∧
    (∀ text, (∃ error, ofText text = .error error) ↔ ∀ window, ¬ Writes text window) ∧
    (∀ window : Window, Integer.Fits window.start → Integer.Fits window.stop →
      window.start ≤ window.stop → ofText window.toText = .ok window) ∧
    ∀ text text' window window', ofText text = .ok window → ofText text' = .ok window' →
      (window = window' ↔
        ∀ minute, Integer.Fits minute → window.contains minute = window'.contains minute) := by
  refine ⟨fun _ _ => ofText_eq_ok_iff, ?refused, ?written, ?minutes⟩
  case refused =>
    intro text
    simp only [← ofText_eq_ok_iff]
    cases ofText text <;> simp
  case written =>
    intro window start stop ordered
    exact ofText_eq_ok_iff.2 (writes_toText start stop ordered)
  case minutes =>
    intro text text' window window' found found'
    exact (ofText_eq_ok_iff.1 found).eq_iff (ofText_eq_ok_iff.1 found')

/-- The greatest window is read back, and two commas are too many. Windows that are written in
unlike ways and are not the same differ in a minute. -/
theorem ofText_reads_spaced :
    ofText (toText ⟨Integer.least, Integer.greatest⟩) = .ok ⟨Integer.least, Integer.greatest⟩ ∧
      (∀ window, ¬ Writes ['3', ',', '7', ','] window) ∧
      ¬ ∀ minute, Integer.Fits minute → contains ⟨-3, 7⟩ minute = contains ⟨-3, 8⟩ minute := by
  obtain ⟨_, refused, written, minutes⟩ := ofText_reads
  refine ⟨written _ (by decide) (by decide) (by decide), (refused _).1 ⟨_, rfl⟩, ?_⟩
  have spaced : ofText [' ', '-', '0', '3', ',', '\t', '+', '7', '\n'] = .ok ⟨-3, 7⟩ := rfl
  have plain : ofText ['-', '3', ',', '8'] = .ok ⟨-3, 8⟩ := rfl
  intro same
  cases (minutes _ _ _ _ spaced plain).2 same

end LogDrift.Window
