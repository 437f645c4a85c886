import LogDrift.Document.Fields
import LogDrift.Proofs.Except
import LogDrift.Proofs.Json.Leaves
import LogDrift.Proofs.Json.Range
import LogDrift.Proofs.Map.Ordered
import LogDrift.Proofs.Map.Sorted

/-!
# What decoders yield

What holds of everything that a decoder can yield, given that the numbers of the text are in range.
There is one rule for each way in which decoders are put together; a record keeps what its blank
form satisfies and what no field breaks.
-/

namespace LogDrift

namespace Json

variable {α β : Type}

/-- Whether a property holds of all that a decoder yields. -/
def Yields (decode : Node → Decoded α) (holds : α → Prop) : Prop :=
  ∀ node value, node.InRange → decode node = .ok value → holds value

/-- Whether taking a member into a record keeps a property of the record. -/
def Keeps (read : Node → α → Decoded α) (holds : α → Prop) : Prop :=
  ∀ node record record', node.InRange → holds record → read node record = .ok record' →
    holds record'

@[simp] theorem mismatch_ne_ok {expected : String} {node : Node} {value : α} :
    mismatch expected node ≠ .ok value := by
  rw [mismatch]
  split <;> exact nofun

/-- Every decoded value comes from one of the elements. -/
theorem exists_of_mem_mapM {decode : β → Decoded α} {elements : List β} {values : List α}
    (found : elements.mapM decode = .ok values) {value : α} (member : value ∈ values) :
    ∃ element ∈ elements, decode element = .ok value := by
  induction elements generalizing values with
  | nil =>
    cases found
    cases member
  | cons element rest ih =>
    rw [List.mapM_cons] at found
    rcases exists_of_bind_eq_ok found with ⟨first, decoded, found⟩
    rcases exists_of_bind_eq_ok found with ⟨others, later, found⟩
    cases found
    rcases List.mem_cons.1 member with rfl | inside
    · exact ⟨element, List.mem_cons_self, decoded⟩
    · rcases ih later inside with ⟨other, present, same⟩
      exact ⟨other, List.mem_cons_of_mem _ present, same⟩

/-! ## Simple values -/

theorem yields_any (decode : Node → Decoded α) : Yields decode fun _ => True :=
  fun _ _ _ _ => trivial

theorem yields_integer (kind : String) (least greatest : Int) :
    Yields (Node.integer kind least greatest) fun n => least ≤ n ∧ n ≤ greatest := by
  intro node n _ found
  cases node with
  | int value =>
    rw [Node.integer] at found
    split at found
    · next within =>
      cases found
      exact within
    · cases found
  | _ => simp [Node.integer] at found

theorem yields_integer64 : Yields Node.integer64 Integer.Fits :=
  yields_integer "i64" Integer.least Integer.greatest

theorem yields_number : Yields Node.number fun x => x.isFinite = true := by
  intro node x inRange found
  cases node with
  | int value =>
    cases found
    exact Rounding.isFinite_ofInt inRange.1 inRange.2
  | float value =>
    cases found
    exact inRange
  | _ => simp [Node.number] at found

/-- A value that is a number was written as that number. -/
theorem inRange_of_anything {node : Node} {value : Json} (inRange : node.InRange)
    (found : node.anything = .ok value) :
    (∀ n, value = .int n → Integer.least ≤ n ∧ n ≤ Integer.greatestUnsigned) ∧
      ∀ x, value = .float x → x.isFinite = true := by
  rw [Node.anything] at found
  split at found
  · next written read =>
    cases found
    cases node with
    | int n =>
      cases read
      constructor
      · intro m same
        cases same
        exact inRange
      · exact nofun
    | float x =>
      cases read
      constructor
      · exact nofun
      · intro y same
        cases same
        exact inRange
    | arr elements ending =>
      rcases exists_of_bind_eq_ok read with ⟨values, _, read⟩
      cases ending with
      | some fault => cases read
      | none =>
        cases read
        exact ⟨nofun, nofun⟩
    | obj members ending =>
      rcases exists_of_bind_eq_ok read with ⟨values, _, read⟩
      cases ending with
      | some fault => cases read
      | none =>
        cases read
        exact ⟨nofun, nofun⟩
    | unusable fault skipped => cases read
    | broken fault => cases read
    | _ =>
      cases read
      exact ⟨nofun, nofun⟩
  · cases found

theorem Yields.nullable {decode : Node → Decoded α} {holds : α → Prop}
    (yields : Yields decode holds) :
    Yields (Node.nullable decode) fun value => ∀ present ∈ value, holds present := by
  intro node value inRange found present same
  subst same
  cases node with
  | null => cases found
  | _ =>
    rcases exists_of_map_eq_ok found with ⟨inner, decoded, same⟩
    cases same
    exact yields _ _ inRange decoded

theorem Yields.list {decode : Node → Decoded α} {holds : α → Prop}
    (yields : Yields decode holds) :
    Yields (Node.list decode) fun values => ∀ value ∈ values, holds value := by
  intro node values inRange found value member
  cases node with
  | arr elements ending =>
    rw [Node.inRange_arr] at inRange
    rcases exists_of_bind_eq_ok found with ⟨decoded, mapped, found⟩
    rcases exists_of_bind_eq_ok found with ⟨_, _, found⟩
    cases found
    rcases exists_of_mem_mapM mapped member with ⟨element, present, same⟩
    exact yields element value (inRange element present) same
  | _ => simp [Node.list] at found

/-! ## Members -/

theorem Yields.members {κ : Type} {name : Key → Decoded κ} {named : κ → Prop}
    {decode : Node → Decoded α} {holds : α → Prop}
    (names : ∀ key result, name key = .ok result → named result) (yields : Yields decode holds) :
    Yields (Node.members name fun _ => decode) fun entries =>
      ∀ entry ∈ entries, named entry.1 ∧ holds entry.2 := by
  intro node entries inRange found entry member
  cases node with
  | obj listed ending =>
    rw [Node.inRange_obj] at inRange
    rcases exists_of_bind_eq_ok found with ⟨decoded, mapped, found⟩
    rcases exists_of_bind_eq_ok found with ⟨_, _, found⟩
    cases found
    rcases exists_of_mem_mapM mapped member with ⟨⟨key, value⟩, present, same⟩
    rcases exists_of_bind_eq_ok same with ⟨result, keyed, same⟩
    rcases exists_of_bind_eq_ok same with ⟨content, taken, same⟩
    cases same
    exact ⟨names key result keyed, yields value content (inRange (key, value) present) taken⟩
  | _ => simp [Node.members] at found

theorem Key.notNumeric_ne_ok {source : Source} {n : Int} : notNumeric source ≠ .ok n := by
  cases source <;> exact nofun

/-- A label in a name fits into 64 bits. -/
theorem Key.fits_of_label {source : Source} {key : Key} {n : Int}
    (found : key.label source = .ok n) : Integer.Fits n := by
  have refused := @notNumeric_ne_ok source n
  simp only [Key.label] at found
  grind [Integer.Fits]

/-! ## Records -/

variable {T : Type} {fields : List (RecordField T)} {holds : T → Prop}

theorem Keeps.into {decode : Node → Decoded α} {put : α → T → T} {given : α → Prop}
    (yields : Yields decode given)
    (kept : ∀ value record, given value → holds record → holds (put value record)) :
    Keeps (Document.into decode put) holds := by
  intro node record record' inRange held found
  rcases exists_of_map_eq_ok found with ⟨value, decoded, rfl⟩
  exact kept value record (yields node value inRange decoded) held

theorem holds_of_readMember (kept : ∀ field ∈ fields, Keeps field.read holds)
    {state state' : T × List String} {member : Key × Node} (inRange : member.2.InRange)
    (held : holds state.1) (found : RecordField.readMember fields state member = .ok state') :
    holds state'.1 := by
  rcases state with ⟨record, seen⟩
  rcases exists_of_bind_eq_ok found with ⟨name, _, found⟩
  split at found
  · rcases exists_of_bind_eq_ok found with ⟨_, _, found⟩
    cases found
    exact held
  · next field accepted =>
    split at found
    · cases found
    · rcases exists_of_bind_eq_ok found with ⟨record', read, found⟩
      cases found
      exact kept field (List.mem_of_find?_eq_some accepted) _ _ _ inRange held read

theorem holds_of_readMembers (kept : ∀ field ∈ fields, Keeps field.read holds)
    {members : List (Key × Node)} {state state' : T × List String}
    (inRange : ∀ member ∈ members, member.2.InRange) (held : holds state.1)
    (found : members.foldlM (RecordField.readMember fields) state = .ok state') :
    holds state'.1 := by
  induction members generalizing state with
  | nil =>
    cases found
    exact held
  | cons member rest ih =>
    rw [List.forall_mem_cons] at inRange
    rw [List.foldlM_cons] at found
    rcases exists_of_bind_eq_ok found with ⟨next, read, found⟩
    exact ih inRange.2 (holds_of_readMember kept inRange.1 held read) found

theorem holds_of_readElements {title : String} {count given : Nat} {ending : Option Fault}
    (kept : ∀ field ∈ fields, Keeps field.read holds) {elements rest : List Node}
    {record record' : T} (inRange : ∀ element ∈ elements, element.InRange) (held : holds record)
    (found : RecordField.readElements title count ending given fields elements record =
      .ok (record', rest)) :
    holds record' := by
  induction fields generalizing given elements record with
  | nil =>
    cases found
    exact held
  | cons field fields ih =>
    rw [List.forall_mem_cons] at kept
    cases elements with
    | nil =>
      rcases exists_of_bind_eq_ok found with ⟨_, _, found⟩
      split at found
      · cases found
      · exact ih kept.2 inRange held found
    | cons element others =>
      rw [List.forall_mem_cons] at inRange
      rcases exists_of_bind_eq_ok found with ⟨next, read, found⟩
      exact ih kept.2 inRange.2 (kept.1 _ _ _ inRange.1 held read) found

/-- A record keeps what its blank form satisfies and what no field breaks. -/
theorem Yields.record {source : Source} {title : String} {blank : T} (start : holds blank)
    (kept : ∀ field ∈ fields, Keeps field.read holds) :
    Yields (Node.record source title fields blank) holds := by
  intro node record inRange found
  cases node with
  | obj members ending =>
    rw [Node.inRange_obj] at inRange
    rcases exists_of_bind_eq_ok found with ⟨⟨result, seen⟩, read, found⟩
    rcases exists_of_bind_eq_ok found with ⟨_, _, found⟩
    have held := holds_of_readMembers kept inRange start read
    split at found
    · cases found
    · cases found
      exact held
  | arr elements ending =>
    rw [Node.inRange_arr] at inRange
    rcases exists_of_bind_eq_ok found with ⟨⟨result, rest⟩, read, found⟩
    rcases exists_of_bind_eq_ok found with ⟨_, _, found⟩
    cases found
    exact holds_of_readElements kept inRange start read
  | _ => simp [Node.record] at found

end Json

namespace Document

open Json (Node Key Source Decoded Yields)

variable {α : Type} {decode : Node → Decoded α} {holds : α → Prop}

theorem yields_labelMap (source : Source) (yields : Yields decode holds) :
    Yields (labelMap source decode) fun map =>
      ∀ entry ∈ map.entries, Integer.Fits entry.1 ∧ holds entry.2 := by
  intro node map inRange found entry member
  rcases exists_of_map_eq_ok found with ⟨entries, decoded, rfl⟩
  have listed := Json.Yields.members (fun _ _ => Key.fits_of_label) yields _ _ inRange decoded
  exact listed entry (SortedMap.mem_of_mem_ofList member)

theorem yields_orderedLabelMap (source : Source) (yields : Yields decode holds) :
    Yields (orderedLabelMap source decode) fun map =>
      ∀ entry ∈ map.entries, Integer.Fits entry.1 ∧ holds entry.2 := by
  intro node map inRange found entry member
  rcases exists_of_map_eq_ok found with ⟨entries, decoded, rfl⟩
  have listed := Json.Yields.members (fun _ _ => Key.fits_of_label) yields _ _ inRange decoded
  exact listed entry (OrderedMap.mem_of_mem_ofList member)

theorem yields_nameMap (yields : Yields decode holds) :
    Yields (nameMap decode) fun map => ∀ entry ∈ map.entries, holds entry.2 := by
  intro node map inRange found entry member
  rcases exists_of_map_eq_ok found with ⟨entries, decoded, rfl⟩
  have every : ∀ key name, Key.string key = .ok name → True := fun _ _ _ => trivial
  have listed := Json.Yields.members every yields _ _ inRange decoded
  exact (listed entry (SortedMap.mem_of_mem_ofList member)).2

end Document

end LogDrift
