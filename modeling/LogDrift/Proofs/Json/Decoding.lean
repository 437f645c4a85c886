import LogDrift.Document.Fields
import LogDrift.Proofs.Json.Reading
import LogDrift.Proofs.Map.Ordered
import LogDrift.Proofs.Map.Sorted

/-!
# Decoding trees of values

The tree of a value has no faults, and its keys have the names that they were given. Lists, maps and
records that were encoded member by member are therefore decoded member by member.
-/

namespace LogDrift

namespace Json

/-- Whether keys have the names that they are given, and labels stand in them as they are
written. -/
structure Key.Faithful (key : String → Key) : Prop where
  name : ∀ name, (key name).name = .ok name
  skipFault : ∀ name, (key name).skipFault = none
  written : ∀ n, (key (String.ofList (writeInt n))).written = writeInt n

theorem Key.faithful_ofText : Key.Faithful Key.ofText where
  name _ := rfl
  skipFault _ := rfl
  written n := by
    rw [Key.ofText, String.toList_ofList]
    exact flatMap_escapeChar_writeInt n

theorem Key.faithful_ofName : Key.Faithful Key.ofName where
  name _ := rfl
  skipFault _ := rfl
  written _ := String.toList_ofList

variable {key : String → Key} {α β : Type}

theorem Key.string_eq_ok (faithful : Key.Faithful key) (name : String) :
    (key name).string = .ok name := by
  rw [Key.string, faithful.name]

/-- A label in a name is read as it was written. -/
theorem Key.label_eq_ok (faithful : Key.Faithful key) (source : Source) {n : Int}
    (fits : Integer.Fits n) : (key (String.ofList (writeInt n))).label source = .ok n := by
  have scanned := Numeral.scan_writeInt n
  have denotes := Numeral.value?_ofInt fits.1 (Int.le_trans fits.2 (by decide))
  have within : ¬ (n < Integer.least ∨ Integer.greatest < n) :=
    not_or.2 ⟨Int.not_lt.2 fits.1, Int.not_lt.2 fits.2⟩
  rcases Numeral.starts_of_scan scanned with ⟨c, rest, text, starts⟩
  have opening : (c == '-' || (Integer.digit? c).isSome) = true := by
    simpa using starts
  rw [Key.label, faithful.written, faithful.skipFault, scanned, text]
  simp [opening, denotes, within]

/-! ## Lists and maps -/

/-- What is encoded element by element is decoded element by element. -/
theorem mapM_eq_ok {decode : β → Decoded α} {encode : α → β} {values : List α}
    (decodes : ∀ value ∈ values, decode (encode value) = .ok value) :
    (values.map encode).mapM decode = .ok values := by
  induction values with
  | nil => rfl
  | cons value rest ih =>
    rw [List.forall_mem_cons] at decodes
    rw [List.map_cons, List.mapM_cons, decodes.1, ih decodes.2]
    rfl

theorem Node.list_eq_ok {decode : Node → Decoded α} {encode : α → Json} {values : List α}
    (decodes : ∀ value ∈ values, decode ((encode value).nodeWith key) = .ok value) :
    Node.list decode ((Json.arr (values.map encode)).nodeWith key) = .ok values := by
  have elements : (values.map fun value => (encode value).nodeWith key).mapM decode =
      .ok values := mapM_eq_ok decodes
  rw [nodeWith, elementNodesWith_eq_map, List.map_map]
  simp only [Node.list, Function.comp_def, elements]
  rfl

theorem Node.members_eq_ok {κ : Type} {name : Key → Decoded κ} {decode : κ → Node → Decoded α}
    (spell : κ → String) {encode : α → Json} {entries : List (κ × α)}
    (names : ∀ entry ∈ entries, name (key (spell entry.1)) = .ok entry.1)
    (decodes : ∀ entry ∈ entries,
      decode entry.1 ((encode entry.2).nodeWith key) = .ok entry.2) :
    Node.members name decode
      ((Json.obj (entries.map fun entry => (spell entry.1, encode entry.2))).nodeWith key) =
        .ok entries := by
  rw [nodeWith, memberNodesWith_eq_map, List.map_map, Node.members, mapM_eq_ok]
  · rfl
  · intro entry member
    simp only [Function.comp, names entry member, decodes entry member, bind, Except.bind]
    rfl

/-! ## Records -/

/-- Members that are decoded one after another into the fields of a record. All that is known of the
fields already met is that they lie between `met` and `perhaps`. -/
def Fills {T : Type} (key : String → Key) (fields : List (RecordField T))
    (members : List (String × Json)) (record : T) (met perhaps : List String) (result : T) :
    Prop :=
  ∀ seen, met ⊆ seen → seen ⊆ perhaps → ∃ seen',
    (memberNodesWith key members).foldlM (RecordField.readMember fields) (record, seen) =
      .ok (result, seen') ∧
    ∀ field ∈ fields, field.required = true → field.name ∈ seen'

namespace Fills

variable {T : Type} {fields : List (RecordField T)} {members : List (String × Json)}
  {record result : T} {met perhaps : List String} {name : String}

theorem nil (complete : ∀ field ∈ fields, field.required = true → field.name ∈ met)
    (same : record = result) : Fills key fields [] record met perhaps result := by
  intro seen lower _
  subst same
  exact ⟨seen, rfl, fun field member needed => lower (complete field member needed)⟩

/-- What a member holds is put into the field of its name. -/
theorem cons {value : Json} {decode : Node → Decoded α} {put : α → T → T} {content : α}
    {title : String} {aliases : List String} {needed : Bool} (faithful : Key.Faithful key)
    (found : fields.find? (·.accepts name) =
      some ⟨title, aliases, needed, Document.into decode put⟩)
    (fresh : title ∉ perhaps) (decodes : decode (value.nodeWith key) = .ok content)
    (later : Fills key fields members (put content record) (title :: met) (title :: perhaps)
      result) :
    Fills key fields ((name, value) :: members) record met perhaps result := by
  intro seen lower upper
  have unseen : seen.contains title = false := by
    simpa using fun member => fresh (upper member)
  have read : RecordField.readMember fields (record, seen) (key name, value.nodeWith key) =
      .ok (put content record, title :: seen) := by
    simp only [RecordField.readMember, Key.string_eq_ok faithful, found, unseen, Document.into,
      decodes, bind, Except.bind]
    rfl
  rcases later (title :: seen) (List.cons_subset_cons _ lower)
    (List.cons_subset_cons _ upper) with ⟨seen', folded, complete⟩
  refine ⟨seen', ?_, complete⟩
  rw [memberNodesWith, List.foldlM_cons, read]
  exact folded

/-- A member that is left out when its value is absent. -/
theorem optional {encode : α → Json} {decode : Node → Decoded α} {put : Option α → T → T}
    {value : Option α} (faithful : Key.Faithful key)
    (found : fields.find? (·.accepts name) =
      some ⟨name, [], false, Document.into (Node.nullable decode) put⟩)
    (fresh : name ∉ perhaps) (absent : put none record = record)
    (decodes : ∀ present ∈ value,
      Node.nullable decode ((encode present).nodeWith key) = .ok (some present))
    (later : Fills key fields members (put value record) met (name :: perhaps) result) :
    Fills key fields (Json.optional name encode value ++ members) record met perhaps result := by
  cases value with
  | none =>
    intro seen lower upper
    rw [absent] at later
    exact later seen lower (List.subset_cons_of_subset name upper)
  | some present =>
    apply cons faithful found fresh (decodes present rfl)
    intro seen lower upper
    exact later seen (fun other member => lower (List.mem_cons_of_mem _ member)) upper

/-- The last member when it is left out if its value is absent. -/
theorem optional_last {encode : α → Json} {decode : Node → Decoded α} {put : Option α → T → T}
    {value : Option α} (faithful : Key.Faithful key)
    (found : fields.find? (·.accepts name) =
      some ⟨name, [], false, Document.into (Node.nullable decode) put⟩)
    (fresh : name ∉ perhaps) (absent : put none record = record)
    (decodes : ∀ present ∈ value,
      Node.nullable decode ((encode present).nodeWith key) = .ok (some present))
    (later : Fills key fields [] (put value record) met (name :: perhaps) result) :
    Fills key fields (Json.optional name encode value) record met perhaps result := by
  have filled := optional faithful found fresh absent decodes later
  rw [List.append_nil] at filled
  exact filled

/-- A record whose fields are filled by its members is decoded. -/
theorem record_eq_ok (filled : Fills key fields members record [] [] result) (source : Source)
    (title : String) :
    Node.record source title fields record ((Json.obj members).nodeWith key) = .ok result := by
  rcases filled [] (List.Subset.refl _) (List.Subset.refl _) with ⟨seen, folded, complete⟩
  have missing : (fields.find? fun field => field.required && !seen.contains field.name) =
      none := by
    rw [List.find?_eq_none]
    intro field member
    cases needed : field.required with
    | false => simp
    | true => simpa using complete field member needed
  rw [nodeWith]
  simp only [Node.record, folded, bind, Except.bind, Node.ended, missing]
  rfl

end Fills

end Json

namespace Document

open Json (Key Node Source Decoded)

variable {key : String → Key} {α : Type}

theorem members_labelMembers (faithful : Key.Faithful key) (source : Source)
    {decode : Node → Decoded α} {encode : α → Json} {entries : List (Int × α)}
    (inRange : ∀ label ∈ entries.map Prod.fst, Integer.Fits label)
    (legible : (labelMembers encode entries).Legible)
    (decodes : ∀ entry ∈ entries, (encode entry.2).Legible →
      decode ((encode entry.2).nodeWith key) = .ok entry.2) :
    Node.members (Key.label source) (fun _ => decode)
      ((labelMembers encode entries).nodeWith key) = .ok entries := by
  apply Node.members_eq_ok fun n => String.ofList (Json.writeInt n)
  · intro entry member
    exact Key.label_eq_ok faithful source (inRange _ (List.mem_map_of_mem member))
  · intro entry member
    apply decodes entry member
    exact Json.legibleMembers_iff.1 legible _ (List.mem_map_of_mem member)

/-- A saved map from labels reads back. -/
theorem labelMap_labelMembers (faithful : Key.Faithful key) (source : Source)
    {decode : Node → Decoded α} {encode : α → Json} {map : SortedMap Int α}
    (inRange : ∀ label ∈ map.keys, Integer.Fits label)
    (legible : (labelMembers encode map.entries).Legible)
    (decodes : ∀ entry ∈ map.entries, (encode entry.2).Legible →
      decode ((encode entry.2).nodeWith key) = .ok entry.2) :
    labelMap source decode ((labelMembers encode map.entries).nodeWith key) = .ok map := by
  rw [labelMap, members_labelMembers faithful source inRange legible decodes]
  exact congrArg Except.ok map.ofList_entries

/-- A saved map from labels reads back, its order included. -/
theorem orderedLabelMap_labelMembers (faithful : Key.Faithful key) (source : Source)
    {decode : Node → Decoded α} {encode : α → Json} {map : OrderedMap Int α}
    (inRange : ∀ label ∈ map.keys, Integer.Fits label)
    (legible : (labelMembers encode map.entries).Legible)
    (decodes : ∀ entry ∈ map.entries, (encode entry.2).Legible →
      decode ((encode entry.2).nodeWith key) = .ok entry.2) :
    orderedLabelMap source decode ((labelMembers encode map.entries).nodeWith key) = .ok map := by
  rw [orderedLabelMap, members_labelMembers faithful source inRange legible decodes]
  exact congrArg Except.ok map.ofList_entries

/-- A saved map from names reads back. -/
theorem nameMap_nameMembers (faithful : Key.Faithful key) {decode : Node → Decoded α}
    {encode : α → Json} {map : SortedMap String α}
    (legible : (nameMembers encode map.entries).Legible)
    (decodes : ∀ entry ∈ map.entries, (encode entry.2).Legible →
      decode ((encode entry.2).nodeWith key) = .ok entry.2) :
    nameMap decode ((nameMembers encode map.entries).nodeWith key) = .ok map := by
  have members : Node.members Key.string (fun _ => decode)
      ((nameMembers encode map.entries).nodeWith key) = .ok map.entries := by
    apply Node.members_eq_ok id
    · intro entry _
      exact Key.string_eq_ok faithful entry.1
    · intro entry member
      apply decodes entry member
      exact Json.legibleMembers_iff.1 legible _ (List.mem_map_of_mem member)
  rw [nameMap, members]
  exact congrArg Except.ok map.ofList_entries

theorem nesting_labelMembers_le {encode : α → Json} {entries : List (Int × α)} {room : Nat}
    (small : ∀ entry ∈ entries, (encode entry.2).nesting ≤ room) :
    (labelMembers encode entries).nesting ≤ room + 1 := by
  rw [labelMembers, Json.nesting_obj_le]
  intro member listed
  rcases List.mem_map.1 listed with ⟨entry, present, rfl⟩
  exact small entry present

theorem nesting_nameMembers_le {encode : α → Json} {entries : List (String × α)} {room : Nat}
    (small : ∀ entry ∈ entries, (encode entry.2).nesting ≤ room) :
    (nameMembers encode entries).nesting ≤ room + 1 := by
  rw [nameMembers, Json.nesting_obj_le]
  intro member listed
  rcases List.mem_map.1 listed with ⟨entry, present, rfl⟩
  exact small entry present

end Document

end LogDrift
