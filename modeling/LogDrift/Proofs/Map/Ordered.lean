import LogDrift.Map.Ordered
import Mathlib.Data.List.Forall2

/-!
# Changing ordered maps

What adding to an ordered map and sweeping over it do to the entries. A sweep that refuses nothing
visits every entry once, and what each step keeps the whole sweep keeps. A sweep that refuses an entry
has gone through those before it.
-/

namespace LogDrift.OrderedMap

variable {K V W σ ε : Type}

@[simp] theorem entries_empty : (empty : OrderedMap K V).entries = [] := rfl

@[simp] theorem values_empty : (empty : OrderedMap K V).values = [] := rfl

@[simp] theorem forall_mem_keys {map : OrderedMap K V} {passes : K → Prop} :
    (∀ key ∈ map.keys, passes key) ↔ ∀ entry ∈ map.entries, passes entry.1 :=
  List.forall_mem_map

/-- The value of a key is that of its entry. -/
theorem get?_eq_some_iff [BEq K] [LawfulBEq K] {map : OrderedMap K V} {key : K} {value : V} :
    map.get? key = some value ↔ (key, value) ∈ map.entries := by
  rw [get?, List.lookup_eq_some_iff]
  constructor
  · intro found
    rcases found with ⟨before, after, same, _⟩
    rw [same]
    exact List.mem_append_right before (.head after)
  · intro member
    rcases List.append_of_mem member with ⟨before, after, same⟩
    refine ⟨before, after, same, ?_⟩
    intro entry earlier
    have distinct := map.distinct
    rw [same, List.map_append, List.nodup_append] at distinct
    simp only [bne_iff_ne]
    intro equal
    exact distinct.2.2 entry.1 (List.mem_map_of_mem earlier) key (.head _) equal.symm

/-! ## Altering -/

variable [DecidableEq K]

/-- Entries after a key was altered: the key is either replaced where it stands or put last. -/
theorem updateEntries_cases (key : K) (update : Option V → V) (entries : List (K × V)) :
    (∃ before value after, entries = before ++ (key, value) :: after ∧
      updateEntries key update entries = before ++ (key, update (some value)) :: after) ∨
    (key ∉ entries.map Prod.fst ∧
      updateEntries key update entries = entries ++ [(key, update none)]) := by
  induction entries with
  | nil => exact .inr ⟨by simp, rfl⟩
  | cons head rest ih =>
    rcases head with ⟨other, value⟩
    unfold updateEntries
    by_cases same : other = key
    · subst same
      exact .inl ⟨[], value, rest, rfl, by rw [if_pos rfl]; rfl⟩
    · rw [if_neg same]
      rcases ih with ⟨before, found, after, equal, updated⟩ | ⟨absent, updated⟩
      · refine .inl ⟨(other, value) :: before, found, after, ?_, ?_⟩
        · rw [equal, List.cons_append]
        · rw [updated, List.cons_append]
      · refine .inr ⟨?_, by rw [updated, List.cons_append]⟩
        rw [List.map_cons, List.mem_cons, not_or]
        exact ⟨fun equal => same equal.symm, absent⟩

theorem updateEntries_append_of_not_mem {key : K} (update : Option V → V)
    {entries : List (K × V)} (absent : key ∉ entries.map Prod.fst) :
    updateEntries key update entries = entries ++ [(key, update none)] := by
  rcases updateEntries_cases key update entries with ⟨before, value, after, equal, _⟩ | ⟨_, updated⟩
  · rw [equal] at absent
    simp at absent
  · exact updated

/-- Altering a key changes its own value only. -/
theorem get?_alter [BEq K] [LawfulBEq K] (map : OrderedMap K V) (key : K) (update : Option V → V)
    (other : K) :
    (map.alter key update).get? other =
      if key = other then some (update (map.get? key)) else map.get? other := by
  show (updateEntries key update map.entries).lookup other =
    if key = other then some (update (map.entries.lookup key)) else map.entries.lookup other
  induction map.entries with
  | nil =>
    rw [updateEntries]
    grind
  | cons head rest ih =>
    rcases head with ⟨present, value⟩
    rw [updateEntries]
    grind

theorem entries_insert_of_not_mem {map : OrderedMap K V} {key : K} (value : V)
    (absent : key ∉ map.keys) : (map.insert key value).entries = map.entries ++ [(key, value)] :=
  updateEntries_append_of_not_mem (fun _ => value) absent

theorem entries_foldl_insert (entries : List (K × V)) (map : OrderedMap K V)
    (distinct : (map.keys ++ entries.map Prod.fst).Nodup) :
    (entries.foldl (fun map entry => map.insert entry.1 entry.2) map).entries =
      map.entries ++ entries := by
  induction entries generalizing map with
  | nil => simp
  | cons head rest ih =>
    have absent : head.1 ∉ map.keys := by
      intro member
      rw [List.nodup_append] at distinct
      exact distinct.2.2 head.1 member head.1 (by simp) rfl
    have inserted := entries_insert_of_not_mem head.2 absent
    rw [List.foldl_cons, ih, inserted, List.append_assoc, List.singleton_append]
    rw [keys, inserted, List.map_append, List.append_assoc]
    exact distinct

/-- A map is made of its own entries. -/
@[simp] theorem ofList_entries (map : OrderedMap K V) : ofList map.entries = map := by
  ext : 1
  rw [ofList, entries_foldl_insert]
  · rfl
  · exact map.distinct

/-- Inserting brings in no other entry. -/
theorem mem_entries_insert {map : OrderedMap K V} {key : K} {value : V} {entry : K × V}
    (member : entry ∈ (map.insert key value).entries) :
    entry ∈ map.entries ∨ entry = (key, value) := by
  have inserted : entry ∈ updateEntries key (fun _ => value) map.entries := member
  rcases updateEntries_cases key (fun _ => value) map.entries with
    ⟨before, found, after, equal, updated⟩ | ⟨_, updated⟩
  · rw [updated, List.mem_append, List.mem_cons] at inserted
    rw [equal, List.mem_append, List.mem_cons]
    rcases inserted with earlier | new | later
    · exact .inl (.inl earlier)
    · exact .inr new
    · exact .inl (.inr (.inr later))
  · rw [updated, List.mem_append, List.mem_singleton] at inserted
    exact inserted

/-- A map made of a list has no other entries. -/
theorem mem_of_mem_ofList {entries : List (K × V)} {entry : K × V}
    (member : entry ∈ (ofList entries).entries) : entry ∈ entries := by
  have inserted : ∀ (entries : List (K × V)) (map : OrderedMap K V),
      entry ∈ (entries.foldl (fun map entry => map.insert entry.1 entry.2) map).entries →
        entry ∈ map.entries ∨ entry ∈ entries := by
    intro entries
    induction entries with
    | nil => exact fun map member => .inl member
    | cons head rest ih =>
      intro map member
      rcases ih _ member with earlier | later
      · rcases mem_entries_insert earlier with earlier | rfl
        · exact .inl earlier
        · exact .inr List.mem_cons_self
      · exact .inr (List.mem_cons_of_mem _ later)
  rcases inserted entries empty member with absent | present
  · cases absent
  · exact present

/-! ## Sweeping -/

section Sweeping

omit [DecidableEq K]

variable {step : σ → K → V → Except ε (σ × V)} {state final : σ} {key : K} {value : V}
  {map result : OrderedMap K V}

theorem sweepEntries_of_error {refusal : ε} (refused : step state key value = .error refusal)
    (rest : List (K × V)) :
    sweepEntries step state ((key, value) :: rest) =
      ((state, some refusal), (key, value) :: rest) := by
  rw [sweepEntries, refused]

theorem sweepEntries_of_ok {next : σ} {image : V}
    (accepted : step state key value = .ok (next, image)) (rest : List (K × V)) :
    sweepEntries step state ((key, value) :: rest) =
      ((sweepEntries step next rest).1, (key, image) :: (sweepEntries step next rest).2) := by
  rw [sweepEntries, accepted]

/-- A sweep that refuses nothing accepts the first entry and goes on with the others. -/
theorem exists_of_sweepEntries_cons {head : K × V} {rest images : List (K × V)}
    (swept : sweepEntries step state (head :: rest) = ((final, none), images)) :
    ∃ next image others, step state head.1 head.2 = .ok (next, image) ∧
      sweepEntries step next rest = ((final, none), others) ∧ images = (head.1, image) :: others := by
  cases taken : step state head.1 head.2 with
  | error refusal =>
    rw [sweepEntries_of_error taken] at swept
    cases swept
  | ok pair =>
    rw [sweepEntries_of_ok taken] at swept
    obtain ⟨same, listed⟩ := Prod.mk.inj swept
    exact ⟨pair.1, pair.2, _, rfl, Prod.ext same rfl, listed.symm⟩

/-- A sweep over a map sweeps over its entries. -/
theorem sweepEntries_of_sweep {refusal : Option ε}
    (swept : map.sweep step state = (final, refusal, result)) :
    sweepEntries step state map.entries = ((final, refusal), result.entries) := by
  simp only [sweep, Prod.mk.injEq] at swept
  obtain ⟨same, refused, rfl⟩ := swept
  exact Prod.ext (Prod.ext same refused) rfl

theorem exists_sweep {refusal : Option ε} {images : List (K × V)}
    (swept : sweepEntries step state map.entries = ((final, refusal), images)) :
    ∃ result : OrderedMap K V, result.entries = images ∧
      map.sweep step state = (final, refusal, result) := by
  refine ⟨(map.sweep step state).2.2, ?_, ?_⟩
  · simp only [sweep, swept]
  · simp only [sweep, swept]

/-- What holds of nothing visited and what every step keeps holds after a sweep that refuses
nothing. -/
theorem sweep_induction {start : σ} (motive : σ → List (K × V) → List (K × V) → Prop)
    (nil : motive start [] [])
    (next : ∀ state before after key value state' value', motive state before after →
      step state key value = .ok (state', value') →
      motive state' (before ++ [(key, value)]) (after ++ [(key, value')]))
    (swept : map.sweep step start = (final, none, result)) :
    motive final map.entries result.entries := by
  have all : ∀ (entries : List (K × V)) state before after images,
      motive state before after → sweepEntries step state entries = ((final, none), images) →
      motive final (before ++ entries) (after ++ images) := by
    intro entries
    induction entries with
    | nil =>
      intro state before after images holds swept
      cases swept
      simpa using holds
    | cons head rest ih =>
      intro state before after images holds swept
      obtain ⟨state', image, others, accepted, later, rfl⟩ := exists_of_sweepEntries_cons swept
      simpa using ih state' _ _ _ (next _ _ _ _ _ _ _ holds accepted) later
  exact all map.entries start [] [] result.entries nil (sweepEntries_of_sweep swept)

/-- A sweep that has refused nothing yet goes on with the entries that follow. -/
theorem sweepEntries_append {left images : List (K × V)}
    (swept : sweepEntries step state left = ((final, none), images)) (right : List (K × V)) :
    sweepEntries step state (left ++ right) =
      ((sweepEntries step final right).1, images ++ (sweepEntries step final right).2) := by
  induction left generalizing state images with
  | nil =>
    cases swept
    rfl
  | cons head rest ih =>
    obtain ⟨next, image, others, accepted, later, rfl⟩ := exists_of_sweepEntries_cons swept
    rw [List.cons_append, sweepEntries_of_ok accepted, ih later, List.cons_append]

/-- A sweep either goes through, or it refuses an entry after those before it have gone through.
That entry and all later ones stay as they are. -/
theorem sweepEntries_cases (step : σ → K → V → Except ε (σ × V)) (state : σ)
    (entries : List (K × V)) :
    (∃ final images, sweepEntries step state entries = ((final, none), images)) ∨
    ∃ before key value after final images refusal, entries = before ++ (key, value) :: after ∧
      sweepEntries step state before = ((final, none), images) ∧
      step final key value = .error refusal ∧
      sweepEntries step state entries =
        ((final, some refusal), images ++ (key, value) :: after) := by
  induction entries generalizing state with
  | nil => exact .inl ⟨state, [], rfl⟩
  | cons head rest ih =>
    rcases head with ⟨key, value⟩
    cases taken : step state key value with
    | error refusal =>
      refine .inr ⟨[], key, value, rest, state, [], refusal, rfl, rfl, taken, ?_⟩
      exact sweepEntries_of_error taken rest
    | ok pair =>
      have first := fun rest => sweepEntries_of_ok taken rest
      rcases ih pair.1 with ⟨final, images, swept⟩ |
        ⟨before, other, present, after, final, images, refusal, rfl, early, refused, swept⟩
      · refine .inl ⟨final, (key, pair.2) :: images, ?_⟩
        rw [first, swept]
      · refine .inr ⟨(key, value) :: before, other, present, after, final, (key, pair.2) :: images,
          refusal, rfl, ?_, refused, ?_⟩
        · rw [first, early]
        · rw [first, swept, List.cons_append]

/-- Two sweeps go in step where each step of the one is followed by the other: when the one refuses
nothing, the other comes to a linked state, and to related entries. -/
theorem sweepEntries_followed {τ : Type} {step' : τ → K → V → Except ε (τ × V)}
    {linked : σ → τ → Prop} {before after : K × V → K × V → Prop}
    (follows : ∀ state state', linked state state' → ∀ entry entry', before entry entry' →
      ∀ next image, step state entry.1 entry.2 = .ok (next, image) →
      ∃ next' image', step' state' entry'.1 entry'.2 = .ok (next', image') ∧ linked next next' ∧
        after (entry.1, image) (entry'.1, image'))
    {entries entries' : List (K × V)} (related : List.Forall₂ before entries entries') {state' : τ}
    (start : linked state state') {images : List (K × V)}
    (swept : sweepEntries step state entries = ((final, none), images)) :
    ∃ final' images', sweepEntries step' state' entries' = ((final', none), images') ∧
      linked final final' ∧ List.Forall₂ after images images' := by
  induction related generalizing state state' images with
  | nil =>
    cases swept
    exact ⟨state', [], rfl, start, .nil⟩
  | @cons entry entry' rest rest' here _ ih =>
    obtain ⟨next, image, others, accepted, later, rfl⟩ := exists_of_sweepEntries_cons swept
    obtain ⟨next', image', accepted', joined, kept⟩ := follows _ _ start _ _ here _ _ accepted
    obtain ⟨final', images', later', link, alike⟩ := ih joined later
    refine ⟨final', (entry'.1, image') :: images', ?_, link, .cons kept alike⟩
    rw [sweepEntries_of_ok accepted', later']

/-- A sweep over a map either goes through, or it refuses an entry and leaves it and all later ones
as they are. -/
theorem sweep_cases (step : σ → K → V → Except ε (σ × V)) (start : σ) (map : OrderedMap K V) :
    (∃ final result, map.sweep step start = (final, none, result)) ∨
    ∃ (early : OrderedMap K V) (key : K) (value : V) (after : List (K × V)) (final : σ)
      (images : List (K × V)) (refusal : ε) (result : OrderedMap K V),
      map.entries = early.entries ++ (key, value) :: after ∧
      sweepEntries step start early.entries = ((final, none), images) ∧
      step final key value = .error refusal ∧
      map.sweep step start = (final, some refusal, result) ∧
      result.entries = images ++ (key, value) :: after := by
  rcases sweepEntries_cases step start map.entries with
    ⟨final, images, swept⟩ |
    ⟨before, key, value, after, final, images, refusal, split, early, refused, swept⟩
  · obtain ⟨result, _, accepted⟩ := exists_sweep swept
    exact .inl ⟨final, result, accepted⟩
  · obtain ⟨result, entries, failed⟩ := exists_sweep swept
    have distinct : (before.map Prod.fst).Nodup := by
      have all := map.distinct
      rw [split, List.map_append] at all
      exact (List.nodup_append.1 all).1
    exact .inr ⟨⟨before, distinct⟩, key, value, after, final, images, refusal, result, split, early,
      refused, failed, entries⟩

/-- A sweep whose steps accept every entry, in whatever state, refuses nothing. -/
theorem sweep_total
    (accepts : ∀ state, ∀ entry ∈ map.entries, ∃ image, step state entry.1 entry.2 = .ok image)
    (start : σ) : ∃ final result, map.sweep step start = (final, none, result) := by
  rcases sweep_cases step start map with
    swept | ⟨early, key, value, after, final, images, refusal, result, split, _, refused, _⟩
  · exact swept
  · obtain ⟨image, accepted⟩ := accepts final (key, value) (by simp [split])
    simp [refused] at accepted

/-- Sweeps that go in step from one state come to one state. -/
theorem sweep_related {step' : σ → K → V → Except ε (σ × V)} {start : σ}
    {map' : OrderedMap K V} {before after : K × V → K × V → Prop}
    (entries : List.Forall₂ before map.entries map'.entries)
    (follows : ∀ state entry entry', before entry entry' → ∀ state' value,
      step state entry.1 entry.2 = .ok (state', value) →
      ∃ value', step' state entry'.1 entry'.2 = .ok (state', value') ∧
        after (entry.1, value) (entry'.1, value'))
    (swept : map.sweep step start = (final, none, result)) :
    ∃ result', map'.sweep step' start = (final, none, result') ∧
      List.Forall₂ after result.entries result'.entries := by
  have inStep : ∀ state state', state = state' → ∀ entry entry', before entry entry' →
      ∀ next image, step state entry.1 entry.2 = .ok (next, image) →
      ∃ next' image', step' state' entry'.1 entry'.2 = .ok (next', image') ∧ next = next' ∧
        after (entry.1, image) (entry'.1, image') := by
    rintro state _ rfl entry entry' here next image accepted
    obtain ⟨value, accepted', kept⟩ := follows state entry entry' here next image accepted
    exact ⟨next, value, accepted', rfl, kept⟩
  obtain ⟨_, images', swept', rfl, related⟩ :=
    sweepEntries_followed inStep entries rfl (sweepEntries_of_sweep swept)
  obtain ⟨result', rfl, accepted⟩ := exists_sweep swept'
  exact ⟨result', accepted, related⟩

end Sweeping

end LogDrift.OrderedMap
