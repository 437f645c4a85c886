/-!
# Maps in order of first use

A finite map whose entries stand in the order in which their keys were first used. Giving a key a
new value keeps its place.
-/

namespace LogDrift

/-- A finite map from `K` to `V` that remembers the order of its keys. -/
structure OrderedMap (K V : Type) where
  entries : List (K × V)
  distinct : (entries.map Prod.fst).Nodup

namespace OrderedMap

variable {K V W σ ε : Type}

@[ext] theorem ext {left right : OrderedMap K V} (same : left.entries = right.entries) :
    left = right := by
  cases left
  cases right
  cases same
  rfl

/-- The map without entries. -/
def empty : OrderedMap K V := ⟨[], .nil⟩

instance : Inhabited (OrderedMap K V) := ⟨empty⟩

/-- The keys in order of first use. -/
def keys (map : OrderedMap K V) : List K :=
  map.entries.map Prod.fst

/-- The values in the order of their keys. -/
def values (map : OrderedMap K V) : List V :=
  map.entries.map Prod.snd

/-- The number of entries. -/
def size (map : OrderedMap K V) : Nat :=
  map.entries.length

/-- Whether there are no entries. -/
def isEmpty (map : OrderedMap K V) : Bool :=
  map.entries.isEmpty

/-- The value of a key. -/
def get? [BEq K] (map : OrderedMap K V) (key : K) : Option V :=
  map.entries.lookup key

/-- Replaces the value of `key` by `update` of it, at the end if the key is new. -/
def updateEntries [DecidableEq K] (key : K) (update : Option V → V) :
    List (K × V) → List (K × V)
  | [] => [(key, update none)]
  | (other, value) :: rest =>
    if other = key then (other, update (some value)) :: rest
    else (other, value) :: updateEntries key update rest

theorem keys_updateEntries [DecidableEq K] (key : K) (update : Option V → V)
    (entries : List (K × V)) :
    (updateEntries key update entries).map Prod.fst =
      if key ∈ entries.map Prod.fst then entries.map Prod.fst
      else entries.map Prod.fst ++ [key] := by
  induction entries with
  | nil => rfl
  | cons head rest ih =>
    rcases head with ⟨other, value⟩
    unfold updateEntries
    grind

/-- Replaces the value of a key, present or absent, by `update` of it. -/
def alter [DecidableEq K] (map : OrderedMap K V) (key : K) (update : Option V → V) :
    OrderedMap K V where
  entries := updateEntries key update map.entries
  distinct := by
    rw [keys_updateEntries]
    split
    · exact map.distinct
    · next absent =>
      rw [List.nodup_append]
      refine ⟨map.distinct, by simp, ?_⟩
      intro present member _ last
      rw [List.mem_singleton] at last
      intro same
      subst same
      exact absent (last ▸ member)

/-- Gives a key a value. -/
def insert [DecidableEq K] (map : OrderedMap K V) (key : K) (value : V) : OrderedMap K V :=
  map.alter key fun _ => value

/-- The map of a list of entries; of several with one key the last counts, at the place of the
first. -/
def ofList [DecidableEq K] (entries : List (K × V)) : OrderedMap K V :=
  entries.foldl (fun map entry => map.insert entry.1 entry.2) empty

/-- Visits entries in order with a running state and replaces each value, until `step` refuses one;
that entry and all later ones stay as they are. -/
def sweepEntries (step : σ → K → V → Except ε (σ × V)) :
    σ → List (K × V) → (σ × Option ε) × List (K × V)
  | state, [] => ((state, none), [])
  | state, (key, value) :: rest =>
    match step state key value with
    | .error refusal => ((state, some refusal), (key, value) :: rest)
    | .ok (state, value) =>
      let (outcome, rest) := sweepEntries step state rest
      (outcome, (key, value) :: rest)

theorem keys_sweepEntries (step : σ → K → V → Except ε (σ × V)) (state : σ)
    (entries : List (K × V)) :
    (sweepEntries step state entries).2.map Prod.fst = entries.map Prod.fst := by
  induction entries generalizing state with
  | nil => rfl
  | cons head rest ih =>
    rcases head with ⟨key, value⟩
    unfold sweepEntries
    split
    · rfl
    · simp [ih]

/-- Visits the entries in order with a running state and replaces each value, until `step` refuses
one. The result is the final state, the refusal if there was one, and the map. -/
def sweep (map : OrderedMap K V) (step : σ → K → V → Except ε (σ × V)) (state : σ) :
    σ × Option ε × OrderedMap K V :=
  let result := sweepEntries step state map.entries
  (result.1.1, result.1.2, ⟨result.2, by
    rw [keys_sweepEntries]
    exact map.distinct⟩)

end OrderedMap

end LogDrift
