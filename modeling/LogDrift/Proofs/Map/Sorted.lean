import LogDrift.Map.Sorted

/-!
# Looking things up in sorted maps

What each operation on a sorted map does to its look-ups. Two maps are equal when they have equal
entries, so that images under a view of the values can be compared by equality.
-/

namespace LogDrift.SortedMap

variable {K V W σ ε : Type} [Ord K]

/-! ## Look-ups -/

@[simp] theorem get?_empty (key : K) : (empty : SortedMap K V).get? key = none := rfl

@[simp] theorem entries_empty : (empty : SortedMap K V).entries = [] := rfl

@[simp] theorem values_empty : (empty : SortedMap K V).values = [] := rfl

@[simp] theorem forall_mem_keys {map : SortedMap K V} {passes : K → Prop} :
    (∀ key ∈ map.keys, passes key) ↔ ∀ entry ∈ map.entries, passes entry.1 :=
  List.forall_mem_map

@[simp] theorem forall_mem_values {map : SortedMap K V} {passes : V → Prop} :
    (∀ value ∈ map.values, passes value) ↔ ∀ entry ∈ map.entries, passes entry.2 :=
  List.forall_mem_map

/-- The look-up among bare entries. -/
def findValue (entries : List (K × V)) (key : K) : Option V :=
  (entries.find? fun entry => compare entry.1 key == .eq).map Prod.snd

theorem findValue_cons [Std.LawfulEqOrd K] [DecidableEq K] (other : K) (value : V)
    (rest : List (K × V)) (key : K) :
    findValue ((other, value) :: rest) key =
      if other = key then some value else findValue rest key := by
  unfold findValue
  by_cases same : other = key
  · subst same
    simp
  · have differ : (compare other key == .eq) = false := by
      simpa using same
    simp [differ, same]

/-- A key below all entries has no value. -/
theorem findValue_eq_none {entries : List (K × V)} {key : K} [Std.OrientedOrd K]
    (below : ∀ entry ∈ entries, compare key entry.1 = .lt) : findValue entries key = none := by
  unfold findValue
  rw [Option.map_eq_none_iff, List.find?_eq_none]
  intro entry member equal
  have before := below entry member
  rw [beq_iff_eq] at equal
  rw [Std.OrientedCmp.eq_comm] at equal
  rw [equal] at before
  contradiction

theorem findValue_updateEntries [Std.LawfulEqOrd K] [Std.TransOrd K] [DecidableEq K] (key other : K)
    (update : Option V → V) {entries : List (K × V)}
    (sorted : entries.Pairwise fun a b => compare a.1 b.1 = .lt) :
    findValue (updateEntries key update entries) other =
      if key = other then some (update (findValue entries key)) else findValue entries other := by
  induction entries with
  | nil => simp [updateEntries, findValue]
  | cons head rest ih =>
    rcases head with ⟨present, value⟩
    rw [List.pairwise_cons] at sorted
    unfold updateEntries
    split
    · next before =>
      have fresh : findValue ((present, value) :: rest) key = none := by
        apply findValue_eq_none
        intro entry member
        rcases List.mem_cons.1 member with rfl | member
        · exact before
        · exact Std.TransCmp.lt_trans before (sorted.1 entry member)
      rw [findValue_cons, fresh]
    · next equal =>
      rw [Std.compare_eq_iff_eq] at equal
      subst equal
      simp only [findValue_cons, if_true]
      split <;> rfl
    · next after =>
      have differ : present ≠ key := by
        intro same
        subst same
        simp at after
      rw [findValue_cons, ih sorted.2, findValue_cons, findValue_cons, if_neg differ]
      grind

theorem get?_eq_findValue (map : SortedMap K V) (key : K) :
    map.get? key = findValue map.entries key := rfl

@[simp] theorem get?_mapEntries (map : SortedMap K V) (image : K → V → W) (key : K)
    [Std.LawfulEqOrd K] [DecidableEq K] :
    (map.mapEntries image).get? key = (map.get? key).map (image key) := by
  rw [get?_eq_findValue, get?_eq_findValue]
  show findValue (map.entries.map fun entry => (entry.1, image entry.1 entry.2)) key = _
  induction map.entries with
  | nil => rfl
  | cons head rest ih =>
    rcases head with ⟨other, value⟩
    rw [List.map_cons, findValue_cons, findValue_cons, ih]
    split
    · next same => rw [same, Option.map_some]
    · rfl

@[simp] theorem get?_mapValues (map : SortedMap K V) (image : V → W) (key : K)
    [Std.LawfulEqOrd K] [DecidableEq K] :
    (map.mapValues image).get? key = (map.get? key).map image :=
  get?_mapEntries map (fun _ => image) key

theorem mem_entries_of_get? [Std.LawfulEqOrd K] {map : SortedMap K V} {key : K} {value : V}
    (found : map.get? key = some value) : (key, value) ∈ map.entries := by
  unfold get? at found
  rw [Option.map_eq_some_iff] at found
  rcases found with ⟨⟨other, _⟩, found, rfl⟩
  have equal := List.find?_some found
  rw [beq_iff_eq, Std.compare_eq_iff_eq] at equal
  subst equal
  exact List.mem_of_find?_eq_some found

theorem get?_of_mem_entries [Std.LawfulEqOrd K] [DecidableEq K] {map : SortedMap K V} {key : K}
    {value : V} (member : (key, value) ∈ map.entries) : map.get? key = some value := by
  rcases map with ⟨entries, sorted⟩
  show findValue entries key = some value
  induction entries with
  | nil => contradiction
  | cons head rest ih =>
    rcases head with ⟨other, present⟩
    rw [List.pairwise_cons] at sorted
    rw [findValue_cons]
    rcases List.mem_cons.1 member with equal | member
    · cases equal
      exact if_pos rfl
    · have differ : other ≠ key := by
        intro same
        subst same
        have before := sorted.1 _ member
        simp at before
      rw [if_neg differ]
      exact ih sorted.2 member

theorem mem_values_of_get? [Std.LawfulEqOrd K] {map : SortedMap K V} {key : K} {value : V}
    (found : map.get? key = some value) : value ∈ map.values :=
  List.mem_map_of_mem (f := Prod.snd) (mem_entries_of_get? found)

theorem mem_values_iff [Std.LawfulEqOrd K] [DecidableEq K] {map : SortedMap K V} {value : V} :
    value ∈ map.values ↔ ∃ key, map.get? key = some value := by
  constructor
  · intro member
    obtain ⟨entry, present, rfl⟩ := List.mem_map.1 member
    exact ⟨entry.1, get?_of_mem_entries present⟩
  · rintro ⟨key, found⟩
    exact mem_values_of_get? found

@[simp] theorem keys_mapValues (map : SortedMap K V) (image : V → W) :
    (map.mapValues image).keys = map.keys :=
  List.map_map

@[simp] theorem values_mapValues (map : SortedMap K V) (image : V → W) :
    (map.mapValues image).values = map.values.map image := by
  simp [values, mapValues, mapEntries]

/-- The keys are those that have values. -/
theorem mem_keys_iff [Std.LawfulEqOrd K] [DecidableEq K] {map : SortedMap K V} {key : K} :
    key ∈ map.keys ↔ (map.get? key).isSome := by
  rw [keys, List.mem_map, Option.isSome_iff_exists]
  constructor
  · intro found
    rcases found with ⟨⟨_, value⟩, member, rfl⟩
    exact ⟨value, get?_of_mem_entries member⟩
  · intro found
    rcases found with ⟨value, found⟩
    exact ⟨_, mem_entries_of_get? found, rfl⟩

theorem nodup_keys [Std.LawfulEqOrd K] (map : SortedMap K V) : map.keys.Nodup := by
  rw [keys, List.Nodup, List.pairwise_map]
  apply map.sorted.imp
  intro left right less same
  rw [same] at less
  simp at less

/-- Maps with the same look-ups are equal. -/
theorem ext_get? [Std.OrientedOrd K] [Std.LawfulEqOrd K] [DecidableEq K] {left right : SortedMap K V}
    (same : ∀ key, left.get? key = right.get? key) : left = right := by
  have nodup : ∀ map : SortedMap K V, map.entries.Nodup := fun map =>
    map.sorted.imp fun less same => by simp [same] at less
  have perm : left.entries.Perm right.entries := by
    rw [List.perm_ext_iff_of_nodup (nodup left) (nodup right)]
    rintro ⟨key, value⟩
    constructor
    · exact fun member => mem_entries_of_get? (same key ▸ get?_of_mem_entries member)
    · exact fun member => mem_entries_of_get? (same key ▸ get?_of_mem_entries member)
  refine ext (perm.eq_of_pairwise ?_ left.sorted right.sorted)
  intro before after _ _ less greater
  rw [Std.OrientedCmp.gt_iff_lt.2 greater] at less
  contradiction

/-- The first value of a map is that of its least key. -/
theorem exists_of_head?_values [Std.LawfulEqOrd K] [DecidableEq K] {map : SortedMap K V} {value : V}
    (head : map.values.head? = some value) : ∃ key, map.get? key = some value ∧
      ∀ other, (map.get? other).isSome → key = other ∨ compare key other = .lt := by
  obtain ⟨values, listed⟩ := List.head?_eq_some_iff.1 head
  obtain ⟨first, rest, entries, rfl, _⟩ := List.map_eq_cons_iff.1 listed
  have sorted := map.sorted
  rw [entries, List.pairwise_cons] at sorted
  refine ⟨first.1, get?_of_mem_entries (by simp [entries]), ?_⟩
  intro other present
  rw [← mem_keys_iff, keys, entries, List.map_cons, List.mem_cons, List.mem_map] at present
  rcases present with same | ⟨entry, member, same⟩
  · exact .inl same.symm
  · exact .inr (same ▸ sorted.1 entry member)

theorem get?_of_head?_values {map : SortedMap K V} (head : map.values.head? = none) (key : K) :
    map.get? key = none := by
  have bare : map.entries = [] := List.map_eq_nil_iff.1 (List.head?_eq_none_iff.1 head)
  simp [get?, bare]

variable [Std.TransOrd K]

@[simp] theorem get?_alter [Std.LawfulEqOrd K] [DecidableEq K] (map : SortedMap K V) (key : K)
    (update : Option V → V) (other : K) :
    (map.alter key update).get? other =
      if key = other then some (update (map.get? key)) else map.get? other :=
  findValue_updateEntries key other update map.sorted

@[simp] theorem get?_insert [Std.LawfulEqOrd K] [DecidableEq K] (map : SortedMap K V) (key : K)
    (value : V) (other : K) :
    (map.insert key value).get? other = if key = other then some value else map.get? other :=
  get?_alter map key (fun _ => value) other

theorem get?_foldl_insert [Std.LawfulEqOrd K] [DecidableEq K] (entries : List (K × V))
    (map : SortedMap K V) (key : K) :
    (entries.foldl (fun map entry => map.insert entry.1 entry.2) map).get? key =
      (findValue entries.reverse key).or (map.get? key) := by
  induction entries generalizing map with
  | nil => rfl
  | cons head rest ih =>
    rcases head with ⟨other, value⟩
    rw [List.foldl_cons, ih, get?_insert, List.reverse_cons]
    unfold findValue
    rw [List.find?_append]
    cases List.find? (fun entry => compare entry.1 key == .eq) rest.reverse with
    | some found => rfl
    | none =>
      by_cases same : other = key
      · simp [same]
      · simp [same]

/-- Of several values of one key the last counts. -/
theorem get?_ofList [Std.LawfulEqOrd K] [DecidableEq K] (entries : List (K × V)) (key : K) :
    (ofList entries).get? key = findValue entries.reverse key := by
  rw [ofList, get?_foldl_insert, get?_empty, Option.or_none]

/-- A map made of a list has exactly the keys of the list. -/
@[simp]
theorem isSome_get?_ofList [Std.LawfulEqOrd K] [DecidableEq K] (entries : List (K × V)) (key : K) :
    ((ofList entries).get? key).isSome ↔ key ∈ entries.map Prod.fst := by
  rw [get?_ofList, findValue, Option.isSome_map, List.find?_isSome]
  simp only [List.mem_reverse, beq_iff_eq, Std.compare_eq_iff_eq, List.mem_map]

/-- A map made of a list has no other entries. -/
theorem mem_of_get?_ofList [Std.LawfulEqOrd K] [DecidableEq K] {entries : List (K × V)} {key : K}
    {value : V} (found : (ofList entries).get? key = some value) : (key, value) ∈ entries := by
  rw [get?_ofList, findValue, Option.map_eq_some_iff] at found
  rcases found with ⟨⟨other, present⟩, found, rfl⟩
  have equal := List.find?_some found
  rw [beq_iff_eq, Std.compare_eq_iff_eq] at equal
  subst equal
  exact List.mem_reverse.1 (List.mem_of_find?_eq_some found)

theorem mem_of_mem_ofList [Std.LawfulEqOrd K] [DecidableEq K] {entries : List (K × V)}
    {entry : K × V} (member : entry ∈ (ofList entries).entries) : entry ∈ entries :=
  mem_of_get?_ofList (get?_of_mem_entries member)

omit [Ord K] [Std.TransOrd K] in
/-- A key that stands in a list of entries once has one value. -/
theorem value_unique {entries : List (K × V)} (distinct : (entries.map Prod.fst).Nodup) {key : K}
    {left right : V} (leftMem : (key, left) ∈ entries) (rightMem : (key, right) ∈ entries) :
    left = right := by
  induction entries with
  | nil => contradiction
  | cons head rest ih =>
    rw [List.map_cons, List.nodup_cons] at distinct
    have absent : ∀ value, (key, value) ∈ rest → head.1 ≠ key := fun value member same =>
      distinct.1 (same ▸ List.mem_map_of_mem (f := Prod.fst) member)
    rcases List.mem_cons.1 leftMem with leftHead | leftRest
    · rcases List.mem_cons.1 rightMem with rightHead | rightRest
      · have equal := leftHead.trans rightHead.symm
        cases equal
        rfl
      · exact (absent right rightRest (congrArg Prod.fst leftHead.symm)).elim
    · rcases List.mem_cons.1 rightMem with rightHead | rightRest
      · exact (absent left leftRest (congrArg Prod.fst rightHead.symm)).elim
      · exact ih distinct.2 leftRest rightRest

theorem get?_ofList_of_nodup [Std.LawfulEqOrd K] [DecidableEq K] {entries : List (K × V)} {key : K}
    {value : V} (distinct : (entries.map Prod.fst).Nodup) (member : (key, value) ∈ entries) :
    (ofList entries).get? key = some value := by
  have present : ((ofList entries).get? key).isSome := by
    rw [isSome_get?_ofList]
    exact List.mem_map_of_mem (f := Prod.fst) member
  rcases Option.isSome_iff_exists.1 present with ⟨found, lookup⟩
  rw [lookup]
  exact congrArg some (value_unique distinct (mem_of_get?_ofList lookup) member)

omit [Std.TransOrd K] in
/-- A key above all entries is put last. -/
theorem updateEntries_of_above [Std.OrientedOrd K] {key : K} (update : Option V → V)
    {entries : List (K × V)} (above : ∀ entry ∈ entries, compare entry.1 key = .lt) :
    updateEntries key update entries = entries ++ [(key, update none)] := by
  induction entries with
  | nil => rfl
  | cons head rest ih =>
    rcases head with ⟨other, value⟩
    rw [List.forall_mem_cons] at above
    have after : compare key other = .gt := Std.OrientedCmp.gt_iff_lt.2 above.1
    rw [updateEntries, after]
    simp only
    rw [ih above.2, List.cons_append]

theorem entries_foldl_insert_of_sorted (entries : List (K × V)) (map : SortedMap K V)
    (sorted : (map.entries ++ entries).Pairwise fun a b => compare a.1 b.1 = .lt) :
    (entries.foldl (fun map entry => map.insert entry.1 entry.2) map).entries =
      map.entries ++ entries := by
  induction entries generalizing map with
  | nil => simp
  | cons head rest ih =>
    have inserted : (map.insert head.1 head.2).entries = map.entries ++ [head] := by
      apply updateEntries_of_above
      intro entry member
      exact (List.pairwise_append.1 sorted).2.2 entry member head List.mem_cons_self
    rw [List.foldl_cons, ih, inserted, List.append_assoc, List.singleton_append]
    rw [inserted, List.append_assoc]
    exact sorted

/-- A map is made of its own entries. -/
@[simp] theorem ofList_entries (map : SortedMap K V) : ofList map.entries = map := by
  ext : 1
  rw [ofList, entries_foldl_insert_of_sorted]
  · rfl
  · exact map.sorted

/-- Giving a key the value that it has changes nothing. -/
theorem insert_of_get? [Std.LawfulEqOrd K] [DecidableEq K] {map : SortedMap K V} {key : K}
    {value : V} (found : map.get? key = some value) : map.insert key value = map := by
  rcases map with ⟨entries, sorted⟩
  ext : 1
  show updateEntries key (fun _ => value) entries = entries
  replace found : findValue entries key = some value := found
  induction entries with
  | nil => cases found
  | cons head rest ih =>
    rcases head with ⟨other, present⟩
    rw [List.pairwise_cons] at sorted
    unfold updateEntries
    split
    · next before =>
      have absent : findValue ((other, present) :: rest) key = none := by
        apply findValue_eq_none
        intro entry member
        rcases List.mem_cons.1 member with rfl | member
        · exact before
        · exact Std.TransCmp.lt_trans before (sorted.1 entry member)
      rw [absent] at found
      cases found
    · next equal =>
      rw [Std.compare_eq_iff_eq] at equal
      subst equal
      rw [findValue_cons, if_pos rfl] at found
      cases found
      rfl
    · next after =>
      have differ : other ≠ key := by
        intro same
        subst same
        simp at after
      rw [findValue_cons, if_neg differ] at found
      rw [ih sorted.2 found]

/-- A key under which no other one is renamed is found again under its new name. -/
theorem get?_ofList_rename {K' : Type} [Ord K'] [Std.TransOrd K'] [Std.LawfulEqOrd K]
    [Std.LawfulEqOrd K'] [DecidableEq K] [DecidableEq K'] {rename : K → K'}
    {entries : List (K × V)} {key : K}
    (apart : ∀ entry ∈ entries, rename entry.1 = rename key → entry.1 = key) :
    (ofList (entries.map fun entry => (rename entry.1, entry.2))).get? (rename key) =
      (ofList entries).get? key := by
  have same : ∀ {entries : List (K × V)},
      (∀ entry ∈ entries, rename entry.1 = rename key → entry.1 = key) →
      findValue (entries.map fun entry => (rename entry.1, entry.2)) (rename key) =
        findValue entries key := by
    intro entries apart
    induction entries with
    | nil => rfl
    | cons head rest ih =>
      rw [List.forall_mem_cons] at apart
      rw [List.map_cons, findValue_cons, findValue_cons, ih apart.2]
      by_cases equal : head.1 = key
      · simp [equal]
      · simp [equal, mt apart.1 equal]
  rw [get?_ofList, get?_ofList, ← List.map_reverse]
  apply same
  intro entry member
  exact apart entry (List.mem_reverse.1 member)

/-! ## Images -/

omit [Std.TransOrd K] in
@[simp] theorem mapValues_mapValues {U : Type} (map : SortedMap K V) (inner : V → W)
    (outer : W → U) :
    (map.mapValues inner).mapValues outer = map.mapValues fun value => outer (inner value) := by
  ext : 1
  simp [mapValues, mapEntries, Function.comp_def]

omit [Std.TransOrd K] in
@[simp] theorem mapValues_self (map : SortedMap K V) : map.mapValues (fun value => value) = map := by
  ext : 1
  simp [mapValues, mapEntries]

omit [Std.TransOrd K] in
theorem mapValues_of_isEmpty {map : SortedMap K V} (isEmpty : map.isEmpty = true) (image : V → V) :
    map.mapValues image = map := by
  ext : 1
  simp [mapValues, mapEntries, List.isEmpty_iff.1 isEmpty]

omit [Std.TransOrd K] in
/-- Images that agree on the entries of a map make the same map. -/
theorem mapEntries_congr {map : SortedMap K V} {image image' : K → V → W}
    (same : ∀ entry ∈ map.entries, image entry.1 entry.2 = image' entry.1 entry.2) :
    map.mapEntries image = map.mapEntries image' := by
  ext : 1
  apply List.map_congr_left
  intro entry member
  exact congrArg (Prod.mk entry.1) (same entry member)

omit [Std.TransOrd K] in
theorem mapValues_congr {map : SortedMap K V} {image image' : V → W}
    (same : ∀ entry ∈ map.entries, image entry.2 = image' entry.2) :
    map.mapValues image = map.mapValues image' :=
  mapEntries_congr same

/-- In a map made of some images of entries a key has the image of its value, if that is one. -/
theorem get?_ofList_filterMap [Std.LawfulEqOrd K] [DecidableEq K] (map : SortedMap K V)
    (image : K → V → Option W) (key : K) :
    (ofList (map.entries.filterMap fun entry =>
      (image entry.1 entry.2).map fun value => (entry.1, value))).get? key =
        (map.get? key).bind (image key) := by
  have listed : ∀ {value : W}, (key, value) ∈ (map.entries.filterMap fun entry =>
      (image entry.1 entry.2).map fun value => (entry.1, value)) ↔
        (map.get? key).bind (image key) = some value := by
    intro value
    rw [List.mem_filterMap, Option.bind_eq_some_iff]
    constructor
    · rintro ⟨⟨other, present⟩, member, made⟩
      obtain ⟨value, made, same⟩ := Option.map_eq_some_iff.1 made
      cases same
      exact ⟨present, get?_of_mem_entries member, made⟩
    · rintro ⟨present, found, made⟩
      exact ⟨(key, present), mem_entries_of_get? found, by simp [made]⟩
  cases looked : (ofList (map.entries.filterMap fun entry =>
      (image entry.1 entry.2).map fun value => (entry.1, value))).get? key with
  | some value => exact (listed.1 (mem_of_get?_ofList looked)).symm
  | none =>
    cases made : (map.get? key).bind (image key) with
    | none => rfl
    | some value =>
      have present := (isSome_get?_ofList _ key).2
        (List.mem_map_of_mem (f := Prod.fst) (listed.2 made))
      simp [looked] at present

omit [Std.TransOrd K] in
/-- A traversal that refuses nothing is a map. -/
theorem traverse_eq_ok {map : SortedMap K V} {image : K → V → Except ε W} {value : K → V → W}
    (accepts : ∀ entry ∈ map.entries, image entry.1 entry.2 = .ok (value entry.1 entry.2)) :
    map.traverse image = .ok (map.mapEntries value) := by
  have all : ∀ {entries : List (K × V)},
      (∀ entry ∈ entries, image entry.1 entry.2 = .ok (value entry.1 entry.2)) →
      traverseEntries image entries =
        .ok (entries.map fun entry => (entry.1, value entry.1 entry.2)) := by
    intro entries accepts
    induction entries with
    | nil => rfl
    | cons head rest ih =>
      rw [List.forall_mem_cons] at accepts
      rcases head with ⟨key, present⟩
      simp only [traverseEntries, accepts.1, ih accepts.2, List.map_cons]
  have total := all accepts
  unfold traverse
  split
  · next refusal found =>
    rw [total] at found
    contradiction
  · next images found =>
    rw [total] at found
    cases found
    rfl

omit [Std.TransOrd K] in
/-- A view that every step of an accumulation keeps is kept as a whole. -/
theorem mapValues_accumulate {U : Type} (map : SortedMap K V) (step : σ → K → V → σ × W)
    (state : σ) {view : V → U} {view' : W → U}
    (kept : ∀ state key value, view' (step state key value).2 = view value) :
    (map.accumulate step state).2.mapValues view' = map.mapValues view := by
  have same : ∀ (entries : List (K × V)) (state : σ),
      (accumulateEntries step state entries).2.map (fun entry => (entry.1, view' entry.2)) =
        entries.map fun entry => (entry.1, view entry.2) := by
    intro entries
    induction entries with
    | nil => exact fun _ => rfl
    | cons head rest ih =>
      intro state
      simp only [accumulateEntries, List.map_cons, kept, ih]
  ext : 1
  exact same map.entries state

/-! ## Values -/

/-- Altering a key replaces its value, if it has one, and keeps all others. -/
theorem perm_values_alter [Std.LawfulEqOrd K] [DecidableEq K] (map : SortedMap K V) (key : K)
    (update : Option V → V) :
    ∃ others, map.values.Perm ((map.get? key).toList ++ others) ∧
      (map.alter key update).values.Perm (update (map.get? key) :: others) := by
  rcases map with ⟨entries, sorted⟩
  show ∃ others, (entries.map Prod.snd).Perm ((findValue entries key).toList ++ others) ∧
    ((updateEntries key update entries).map Prod.snd).Perm
      (update (findValue entries key) :: others)
  induction entries with
  | nil => exact ⟨[], .refl _, .refl _⟩
  | cons head rest ih =>
    rcases head with ⟨other, value⟩
    rw [List.pairwise_cons] at sorted
    unfold updateEntries
    split
    · next before =>
      have absent : findValue ((other, value) :: rest) key = none := by
        apply findValue_eq_none
        intro entry member
        rcases List.mem_cons.1 member with rfl | member
        · exact before
        · exact Std.TransCmp.lt_trans before (sorted.1 entry member)
      rw [absent]
      exact ⟨value :: rest.map Prod.snd, .refl _, .refl _⟩
    · next equal =>
      rw [Std.compare_eq_iff_eq] at equal
      subst equal
      rw [findValue_cons, if_pos rfl]
      exact ⟨rest.map Prod.snd, .refl _, .refl _⟩
    · next after =>
      have differ : other ≠ key := by
        intro same
        subst same
        simp at after
      rcases ih sorted.2 with ⟨others, before, altered⟩
      rw [findValue_cons, if_neg differ]
      refine ⟨value :: others, ?_, ?_⟩
      · exact (before.cons value).trans List.perm_middle.symm
      · exact (altered.cons value).trans (.swap _ _ _)

end LogDrift.SortedMap
