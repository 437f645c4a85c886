import LogDrift.Proofs.FirstUses
import LogDrift.Similarity.Gram

/-!
# Token differences

The difference of a text from a base lists the first uses of the tokens that only one of the two
has. Seen from the text, the base differs by the same tokens: what the one adds the other omits.
-/

namespace LogDrift.Gram

variable {S : Type} [Scalar S] {present tokens added omitted : List String}

/-! ## Lacking tokens -/

theorem firstUses_lacking (present tokens : List String) :
    FirstUses tokens (· ∉ present) (lacking present tokens) := by
  simpa [lacking] using firstUses_eraseDups tokens fun token => !present.contains token

@[simp] theorem mem_lacking_iff {token : String} :
    token ∈ lacking present tokens ↔ token ∈ tokens ∧ token ∉ present :=
  (firstUses_lacking present tokens).mem_iff token

theorem lacking_concat (present tokens : List String) (token : String) :
    lacking present (tokens ++ [token]) =
      if token ∉ present ∧ token ∉ lacking present tokens then lacking present tokens ++ [token]
      else lacking present tokens :=
  (firstUses_lacking present _).unique ((firstUses_lacking present tokens).concat token)

/-- Neither list of tokens lacks any of the other exactly when they have the same tokens. -/
theorem lacking_eq_nil_iff {left right : List String} :
    lacking left right = [] ∧ lacking right left = [] ↔
      ∀ token, token ∈ left ↔ token ∈ right := by
  simp only [List.eq_nil_iff_forall_not_mem, mem_lacking_iff]
  grind

/-! ## Marked tokens -/

/-- Lists a marked token, unless the other text has the token or it is listed already. -/
def note (mark : String) (present listed : List String) (token : String) : List String :=
  if token ∈ present ∨ mark ++ token ∈ listed then listed else listed ++ [mark ++ token]

/-- Noting every token lists those that are lacking, if none has the mark yet. -/
theorem foldl_note (mark : String) (present tokens listed : List String)
    (fresh : ∀ token, mark ++ token ∉ listed) :
    tokens.foldl (note mark present) listed =
      listed ++ (lacking present tokens).map (mark ++ ·) := by
  induction tokens using List.reverseRecOn with
  | nil => simp [lacking]
  | append_singleton earlier token ih =>
    have marked : mark ++ token ∈ listed ++ (lacking present earlier).map (mark ++ ·) ↔
        token ∈ lacking present earlier := by
      simp [fresh]
    rw [List.foldl_append, ih, List.foldl_cons, List.foldl_nil, note, lacking_concat]
    simp only [marked]
    split <;> grind

theorem plus_ne_minus (left right : String) : "+" ++ left ≠ "-" ++ right := by
  intro same
  have heads := congrArg String.toList same
  simp at heads

/-- Added tokens with a plus, followed by omitted ones with a minus. -/
def signed (added omitted : List String) : List String :=
  added.map ("+" ++ ·) ++ omitted.map ("-" ++ ·)

@[simp] theorem signed_eq_nil_iff : signed added omitted = [] ↔ added = [] ∧ omitted = [] := by
  simp [signed]

/-- The signs keep added and omitted tokens apart. -/
theorem nodup_signed (adds : added.Nodup) (omits : omitted.Nodup) :
    (signed added omitted).Nodup := by
  rw [signed, List.nodup_append]
  refine ⟨adds.map fun _ _ => (String.append_right_inj "+").1,
    omits.map fun _ _ => (String.append_right_inj "-").1, ?_⟩
  intro plus plusMem minus minusMem
  obtain ⟨left, _, rfl⟩ := List.mem_map.1 plusMem
  obtain ⟨right, _, rfl⟩ := List.mem_map.1 minusMem
  exact plus_ne_minus left right

/-! ## Differences -/

/-- A difference is collected in two passes over one list: the first over the text notes what it
adds, the second over the base what it omits. -/
theorem tokenDifference_eq_foldl (base text : String) :
    tokenDifference base text =
      (Text.tokens base).foldl (note "-" (Text.tokens text))
        ((Text.tokens text).foldl (note "+" (Text.tokens base)) []) := by
  have plus := foldl_note "+" (Text.tokens base) (Text.tokens text) [] (by simp)
  rw [plus, foldl_note, tokenDifference, List.nil_append]
  intro token minus
  obtain ⟨left, _, same⟩ := List.mem_map.1 minus
  exact plus_ne_minus left token same

/-- How a comparer tells a text from a base by the tokens that the text adds and omits. -/
structure Contrast (comparer : Comparer S) (base text : String) (added omitted : List String) :
    Prop where
  /-- The tokens that only the text has, in the order in which it first shows them. -/
  adds : FirstUses (Text.tokens text) (· ∉ Text.tokens base) added
  /-- The tokens that only the base has, in the order in which it first shows them. -/
  omits : FirstUses (Text.tokens base) (· ∉ Text.tokens text) omitted
  listed : comparer.difference base [text] = [signed added omitted]
  swapped : comparer.difference text [base] = [signed omitted added]
  collected : signed added omitted =
    (Text.tokens base).foldl (note "-" (Text.tokens text))
      ((Text.tokens text).foldl (note "+" (Text.tokens base)) [])
  nodup : (signed added omitted).Nodup
  empty_iff : signed added omitted = [] ↔
    ∀ token, token ∈ Text.tokens base ↔ token ∈ Text.tokens text
  /-- Wherever the text stands among candidates, the others do not change its difference. -/
  alone : ∀ (candidates : List String) (place : Nat), candidates[place]? = some text →
    (comparer.difference base candidates)[place]? = some (signed added omitted)
  answered : ∀ candidates, (comparer.difference base candidates).length = candidates.length

/-- Texts are told apart by the tokens that only one of them has. -/
theorem comparer_contrasts (size : Nat) (base text : String) :
    ∃ added omitted, Contrast (comparer size : Comparer S) base text added omitted := by
  have adds := firstUses_lacking (Text.tokens base) (Text.tokens text)
  have omits := firstUses_lacking (Text.tokens text) (Text.tokens base)
  refine ⟨_, _, adds, omits, rfl, rfl, ?collected, ?nodup, ?empty, ?alone, ?answered⟩
  case collected => exact tokenDifference_eq_foldl base text
  case nodup => exact nodup_signed adds.nodup omits.nodup
  case empty => rw [signed_eq_nil_iff, lacking_eq_nil_iff]
  case alone =>
    intro candidates place there
    simp [comparer, there, tokenDifference, signed]
  case answered => simp [comparer]

end LogDrift.Gram
