/-!
# Sorted maps

A finite map as the list of its entries in ascending order of keys. Two maps with the same entries
are equal.
-/

namespace LogDrift

/-- A finite map from `K` to `V` whose entries ascend strictly by key. -/
structure SortedMap (K V : Type) [Ord K] where
  entries : List (K × V)
  sorted : entries.Pairwise fun a b => compare a.1 b.1 = .lt

namespace SortedMap

variable {K V W : Type} [Ord K]

@[ext] theorem ext {left right : SortedMap K V} (same : left.entries = right.entries) :
    left = right := by
  cases left
  cases right
  cases same
  rfl

/-- The map without entries. -/
def empty : SortedMap K V := ⟨[], .nil⟩

instance : Inhabited (SortedMap K V) := ⟨empty⟩

/-- The keys in ascending order. -/
def keys (map : SortedMap K V) : List K :=
  map.entries.map Prod.fst

/-- The values in ascending order of their keys. -/
def values (map : SortedMap K V) : List V :=
  map.entries.map Prod.snd

/-- The number of entries. -/
def size (map : SortedMap K V) : Nat :=
  map.entries.length

/-- Whether there are no entries. -/
def isEmpty (map : SortedMap K V) : Bool :=
  map.entries.isEmpty

/-- The value of a key. -/
def get? (map : SortedMap K V) (key : K) : Option V :=
  (map.entries.find? fun entry => compare entry.1 key == .eq).map Prod.snd

/-- Whether a key has a value. -/
def contains (map : SortedMap K V) (key : K) : Bool :=
  (map.get? key).isSome

/-- Replaces the value of `key` among ascending entries by `update` of it. -/
def updateEntries (key : K) (update : Option V → V) : List (K × V) → List (K × V)
  | [] => [(key, update none)]
  | (other, value) :: rest =>
    match compare key other with
    | .lt => (key, update none) :: (other, value) :: rest
    | .eq => (other, update (some value)) :: rest
    | .gt => (other, value) :: updateEntries key update rest

theorem lt_of_mem_updateEntries {bound key : K} {update : Option V → V}
    {entries : List (K × V)} (below : compare bound key = .lt)
    (all : ∀ entry ∈ entries, compare bound entry.1 = .lt) :
    ∀ entry ∈ updateEntries key update entries, compare bound entry.1 = .lt := by
  induction entries with
  | nil => simpa [updateEntries] using below
  | cons head rest ih =>
    rcases head with ⟨other, value⟩
    rw [List.forall_mem_cons] at all
    unfold updateEntries
    split
    · rw [List.forall_mem_cons, List.forall_mem_cons]
      exact ⟨below, all⟩
    · rw [List.forall_mem_cons]
      exact all
    · rw [List.forall_mem_cons]
      exact ⟨all.1, ih all.2⟩

theorem sorted_updateEntries [Std.TransOrd K] {key : K} {update : Option V → V}
    {entries : List (K × V)} (sorted : entries.Pairwise fun a b => compare a.1 b.1 = .lt) :
    (updateEntries key update entries).Pairwise fun a b => compare a.1 b.1 = .lt := by
  induction entries with
  | nil => simp [updateEntries]
  | cons head rest ih =>
    rcases head with ⟨other, value⟩
    rw [List.pairwise_cons] at sorted
    unfold updateEntries
    split
    · next before =>
      rw [List.pairwise_cons, List.pairwise_cons]
      refine ⟨?_, sorted⟩
      intro entry member
      rcases List.mem_cons.1 member with rfl | member
      · exact before
      · exact Std.TransCmp.lt_trans before (sorted.1 entry member)
    · rw [List.pairwise_cons]
      exact sorted
    · next after =>
      rw [List.pairwise_cons]
      refine ⟨lt_of_mem_updateEntries ?_ sorted.1, ih sorted.2⟩
      exact Std.OrientedCmp.gt_iff_lt.1 after

variable [Std.TransOrd K]

/-- Replaces the value of a key, present or absent, by `update` of it. -/
def alter (map : SortedMap K V) (key : K) (update : Option V → V) : SortedMap K V :=
  ⟨updateEntries key update map.entries, sorted_updateEntries map.sorted⟩

/-- Gives a key a value. -/
def insert (map : SortedMap K V) (key : K) (value : V) : SortedMap K V :=
  map.alter key fun _ => value

/-- The map of a list of entries; of several with one key the last counts. -/
def ofList (entries : List (K × V)) : SortedMap K V :=
  entries.foldl (fun map entry => map.insert entry.1 entry.2) empty

omit [Std.TransOrd K] in
/-- Keeps the keys and replaces every value. -/
def mapEntries (map : SortedMap K V) (image : K → V → W) : SortedMap K W where
  entries := map.entries.map fun entry => (entry.1, image entry.1 entry.2)
  sorted := by
    rw [List.pairwise_map]
    exact map.sorted

omit [Std.TransOrd K] in
/-- Keeps the keys and replaces every value. -/
def mapValues (map : SortedMap K V) (image : V → W) : SortedMap K W :=
  map.mapEntries fun _ value => image value

/-- Replaces every value among entries in order, until `image` refuses one. -/
def traverseEntries {ε : Type} (image : K → V → Except ε W) :
    List (K × V) → Except ε (List (K × W))
  | [] => .ok []
  | (key, value) :: rest =>
    match image key value with
    | .error refusal => .error refusal
    | .ok value =>
      match traverseEntries image rest with
      | .error refusal => .error refusal
      | .ok rest => .ok ((key, value) :: rest)

omit [Ord K] [Std.TransOrd K] in
theorem keys_traverseEntries {ε : Type} {image : K → V → Except ε W} {entries : List (K × V)}
    {images : List (K × W)} (traversed : traverseEntries image entries = .ok images) :
    images.map Prod.fst = entries.map Prod.fst := by
  induction entries generalizing images with
  | nil =>
    cases traversed
    rfl
  | cons head rest ih =>
    rcases head with ⟨key, value⟩
    unfold traverseEntries at traversed
    grind

omit [Std.TransOrd K] in
/-- Keeps the keys and replaces every value, unless `image` refuses one. -/
def traverse {ε : Type} (map : SortedMap K V) (image : K → V → Except ε W) :
    Except ε (SortedMap K W) :=
  match traversed : traverseEntries image map.entries with
  | .error refusal => .error refusal
  | .ok images => .ok ⟨images, by
    have sorted := map.sorted
    rw [← List.pairwise_map (f := Prod.fst) (R := fun a b => compare a b = .lt)] at sorted ⊢
    rw [keys_traverseEntries traversed]
    exact sorted⟩

/-- Visits entries in order with a running state and replaces each value. -/
def accumulateEntries {σ : Type} (step : σ → K → V → σ × W) : σ → List (K × V) → σ × List (K × W)
  | state, [] => (state, [])
  | state, (key, value) :: rest =>
    let (state, image) := step state key value
    let (state, images) := accumulateEntries step state rest
    (state, (key, image) :: images)

omit [Ord K] [Std.TransOrd K] in
theorem keys_accumulateEntries {σ : Type} (step : σ → K → V → σ × W) (state : σ)
    (entries : List (K × V)) :
    (accumulateEntries step state entries).2.map Prod.fst = entries.map Prod.fst := by
  induction entries generalizing state with
  | nil => rfl
  | cons head rest ih => simp [accumulateEntries, ih]

omit [Std.TransOrd K] in
/-- Visits the entries in ascending order with a running state and replaces each value. -/
def accumulate {σ : Type} (map : SortedMap K V) (step : σ → K → V → σ × W) (state : σ) :
    σ × SortedMap K W :=
  let result := accumulateEntries step state map.entries
  (result.1, ⟨result.2, by
    have sorted := map.sorted
    rw [← List.pairwise_map (f := Prod.fst) (R := fun a b => compare a b = .lt)] at sorted ⊢
    rw [keys_accumulateEntries]
    exact sorted⟩)

end SortedMap

end LogDrift
