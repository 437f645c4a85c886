import Mathlib.Data.List.Nodup
import LogDrift.Proofs.Except
import LogDrift.Proofs.Json.Decoding

/-!
# The order of members

A record is decoded from an object member by member, in the order in which they are written. When no
field is influenced by what another one puts into the record, the order does not matter: the record
is the same as if the fields looked up their members one after the other.
-/

namespace LogDrift

@[simp] theorem toOption_bind {ε α β : Type} (first : Except ε α) (next : α → Except ε β) :
    (first >>= next).toOption = first.toOption.bind fun value => (next value).toOption := by
  cases first <;> rfl

@[simp] theorem toOption_map {ε α β : Type} (first : Except ε α) (image : α → β) :
    (first.map image).toOption = first.toOption.map image := by
  cases first <;> rfl

namespace Json

variable {key : String → Key} {T : Type}

namespace RecordField

variable {field other : RecordField T} {fields before after : List (RecordField T)}

/-- Whether it does not matter which of two fields is read first. -/
def Independent (field other : RecordField T) : Prop :=
  ∀ node node' record, ((field.read node record).toOption.bind fun record =>
      (other.read node' record).toOption) =
    (other.read node' record).toOption.bind fun record => (field.read node record).toOption

/-- What a field makes of a record when it is given a value or nothing. -/
def take (key : String → Key) (field : RecordField T) (given : Option Json) (record : T) :
    Option T :=
  match given with
  | none => if field.required then none else some record
  | some value => (field.read (value.nodeWith key) record).toOption

/-- What fields make of a record one after the other, each of what is given under its name. -/
def takeAll (key : String → Key) (given : String → Option Json) :
    List (RecordField T) → T → Option T
  | [], record => some record
  | field :: rest, record =>
    (field.take key (given field.name) record).bind (takeAll key given rest)

@[simp] theorem take_none (field : RecordField T) :
    field.take key none = if field.required then fun _ => none else some := by
  funext record
  cases needed : field.required <;> simp [take, needed]

theorem Independent.take (independent : field.Independent other) (given given' : Option Json)
    (record : T) :
    (field.take key given record).bind (other.take key given') =
      (other.take key given' record).bind (field.take key given) := by
  cases given with
  | none => cases needed : field.required <;> simp [needed]
  | some value =>
    cases given' with
    | none => cases needed : other.required <;> simp [needed]
    | some value' => exact independent _ _ record

/-- A field that is independent of those before it may be read first. -/
theorem takeAll_middle {given : String → Option Json}
    (independent : ∀ other ∈ before, other.Independent field) (record : T) :
    takeAll key given (before ++ field :: after) record =
      (field.take key (given field.name) record).bind
        (takeAll key given (before ++ after)) := by
  induction before generalizing record with
  | nil => rfl
  | cons other rest ih =>
    rw [List.forall_mem_cons] at independent
    have later : takeAll key given (rest ++ field :: after) = fun record =>
        (field.take key (given field.name) record).bind (takeAll key given (rest ++ after)) :=
      funext (ih independent.2)
    rw [List.cons_append, takeAll, later, ← Option.bind_assoc, independent.1.take,
      Option.bind_assoc]
    rfl

theorem takeAll_congr {given given' : String → Option Json}
    (same : ∀ field ∈ fields, given field.name = given' field.name) (record : T) :
    takeAll key given fields record = takeAll key given' fields record := by
  induction fields generalizing record with
  | nil => rfl
  | cons field rest ih =>
    rw [List.forall_mem_cons] at same
    rw [takeAll, takeAll, same.1]
    congr 1
    funext record
    exact ih same.2 record

/-- The record that is left when members have been read, unless a field is missing. -/
def complete (fields : List (RecordField T)) (state : T × List String) : Option T :=
  match fields.find? fun field => field.required && !state.2.contains field.name with
  | some _ => none
  | none => some state.1

/-- The fields for which no member has been read. -/
def unmet (fields : List (RecordField T)) (seen : List String) : List (RecordField T) :=
  fields.filter fun field => !seen.contains field.name

theorem complete_eq_takeAll (fields : List (RecordField T)) (record : T) (seen : List String) :
    complete fields (record, seen) = takeAll key (fun _ => none) (unmet fields seen) record := by
  induction fields with
  | nil => rfl
  | cons field rest ih =>
    simp only [complete, unmet, List.find?_cons, List.filter_cons] at ih ⊢
    cases met : seen.contains field.name with
    | true =>
      simp only [Bool.not_true, Bool.and_false, Bool.false_eq_true, if_false]
      exact ih
    | false =>
      cases needed : field.required with
      | true => simp only [Bool.not_false, Bool.and_true, if_true, takeAll, take_none, needed,
          Option.bind_none]
      | false =>
        simp only [Bool.not_false, Bool.and_true, if_true, takeAll, take_none, needed,
          Bool.false_eq_true, if_false, Option.bind_some]
        exact ih

/-- The members of one name take one field at most. -/
theorem unmet_cons {name : String} {seen : List String} {field : RecordField T}
    (apart : (fields.map RecordField.name).Nodup) (same : field.name = name)
    (split : unmet fields seen = before ++ field :: after) :
    unmet fields (name :: seen) = before ++ after := by
  have narrowed : unmet fields (name :: seen) =
      (unmet fields seen).filter fun other => !(other.name == name) := by
    simp only [unmet, List.filter_filter, List.contains_cons, Bool.not_or]
  have distinct : ((before ++ field :: after).map RecordField.name).Nodup :=
    split ▸ apart.sublist (List.filter_sublist.map _)
  rw [List.map_append, List.map_cons, same, List.nodup_middle, List.nodup_cons,
    ← List.map_append] at distinct
  have others : ∀ other ∈ before ++ after, (!(other.name == name)) = true := by
    intro other member
    rw [Bool.not_eq_true', beq_eq_false_iff_ne]
    rintro rfl
    exact distinct.1 (List.mem_map_of_mem member)
  rw [List.forall_mem_append] at others
  rw [narrowed, split, List.filter_append, List.filter_cons_of_neg (by simp [same]),
    List.filter_eq_self.2 others.1, List.filter_eq_self.2 others.2]

end RecordField

open RecordField

/-- Fields that have one name each, and of which it does not matter which is read first. -/
structure Unordered (fields : List (RecordField T)) : Prop where
  plain : ∀ field ∈ fields, field.aliases = []
  apart : (fields.map RecordField.name).Nodup
  independent : fields.Pairwise Independent

namespace Unordered

variable {fields : List (RecordField T)} {members : List (String × Json)}

theorem accepts_iff (unordered : Unordered fields) {field : RecordField T} (listed : field ∈ fields)
    {name : String} : field.accepts name = true ↔ field.name = name := by
  simp [accepts, unordered.plain field listed]

/-- A member of a name that no field has is passed over. -/
theorem readMember_of_unknown (unordered : Unordered fields) (faithful : Key.Faithful key)
    {name : String} (unknown : ∀ field ∈ fields, field.name ≠ name) (value : Json) (record : T)
    (seen : List String) :
    readMember fields (record, seen) (key name, value.nodeWith key) = .ok (record, seen) := by
  have nowhere : fields.find? (·.accepts name) = none := by
    rw [List.find?_eq_none]
    intro field listed accepted
    exact unknown field listed ((unordered.accepts_iff listed).1 accepted)
  have skipped : (value.nodeWith key).skip = .ok () := by
    rw [Node.skip, skipFault?_nodeWith faithful.skipFault]
  simp only [readMember, Key.string_eq_ok faithful, nowhere, skipped, bind, Except.bind]
  rfl

/-- A member of the name of a field is read into that field. -/
theorem readMember_of_known (unordered : Unordered fields) (faithful : Key.Faithful key)
    {field : RecordField T} (listed : field ∈ fields) (value : Json) (record : T)
    {seen : List String} (fresh : field.name ∉ seen) :
    readMember fields (record, seen) (key field.name, value.nodeWith key) =
      (field.read (value.nodeWith key) record).map fun record => (record, field.name :: seen) := by
  have found : fields.find? (·.accepts field.name) = some field := by
    cases first : fields.find? (·.accepts field.name) with
    | none =>
      have refused := List.find?_eq_none.1 first field listed
      exact (refused ((unordered.accepts_iff listed).2 rfl)).elim
    | some other =>
      have listedToo := List.mem_of_find?_eq_some first
      have accepted := List.find?_some first
      rw [List.inj_on_of_nodup_map unordered.apart listedToo listed
        ((unordered.accepts_iff listedToo).1 accepted)]
  have unseen : seen.contains field.name = false := by simpa using fresh
  simp only [readMember, Key.string_eq_ok faithful, found, unseen, bind, Except.bind]
  cases field.read (value.nodeWith key) record <;> rfl

theorem lookup_cons_of_ne {name other : String} (apart : other ≠ name) (value : Json)
    (rest : List (String × Json)) : ((name, value) :: rest).lookup other = rest.lookup other := by
  rw [List.lookup_cons, beq_false_of_ne apart]

/-- The field of a member that has not been read may look it up first. -/
theorem takeAll_known (unordered : Unordered fields) {field : RecordField T}
    (listed : field ∈ fields) {seen : List String} (fresh : field.name ∉ seen) (value : Json)
    (rest : List (String × Json)) (record : T) :
    takeAll key (fun name => ((field.name, value) :: rest).lookup name) (unmet fields seen) record =
      (field.read (value.nodeWith key) record).toOption.bind
        (takeAll key (fun name => rest.lookup name) (unmet fields (field.name :: seen))) := by
  have waiting : field ∈ unmet fields seen := List.mem_filter.2 ⟨listed, by simpa using fresh⟩
  rcases List.append_of_mem waiting with ⟨before, after, split⟩
  have pairwise : (before ++ field :: after).Pairwise Independent :=
    split ▸ unordered.independent.sublist List.filter_sublist
  have independent : ∀ other ∈ before, other.Independent field := fun other member =>
    (List.pairwise_append.1 pairwise).2.2 other member field List.mem_cons_self
  have narrowed := unmet_cons unordered.apart rfl split
  have lookups : ∀ other ∈ before ++ after,
      ((field.name, value) :: rest).lookup other.name = rest.lookup other.name := by
    rw [← narrowed]
    intro other member
    have unread := (List.mem_filter.1 member).2
    simp only [List.contains_cons, Bool.not_or, Bool.and_eq_true, Bool.not_eq_true',
      beq_eq_false_iff_ne] at unread
    exact lookup_cons_of_ne unread.1 value rest
  rw [split, takeAll_middle independent, List.lookup_cons, beq_self_eq_true, narrowed, take]
  congr 1
  funext record
  exact takeAll_congr lookups record

/-- Members of different names are read as if the fields looked them up one after the other. -/
theorem toOption_readMembers (unordered : Unordered fields) (faithful : Key.Faithful key)
    (once : (members.map Prod.fst).Nodup) {seen : List String}
    (fresh : ∀ member ∈ members, member.1 ∉ seen) (record : T) :
    ((memberNodesWith key members).foldlM (readMember fields) (record, seen)).toOption.bind
        (complete fields) =
      takeAll key (fun name => members.lookup name) (unmet fields seen) record := by
  induction members generalizing record seen with
  | nil => exact complete_eq_takeAll fields record seen
  | cons member rest ih =>
    rcases member with ⟨name, value⟩
    rw [List.map_cons, List.nodup_cons] at once
    rw [List.forall_mem_cons] at fresh
    rw [memberNodesWith, List.foldlM_cons, toOption_bind]
    by_cases known : ∃ field ∈ fields, field.name = name
    · rcases known with ⟨field, listed, rfl⟩
      have freshRest : ∀ member ∈ rest, member.1 ∉ field.name :: seen := by
        intro member inside
        rw [List.mem_cons, not_or]
        refine ⟨?_, fresh.2 member inside⟩
        intro same
        exact once.1 (List.mem_map.2 ⟨member, inside, same⟩)
      rw [unordered.readMember_of_known faithful listed value record fresh.1, toOption_map,
        Option.bind_assoc, Option.bind_map, unordered.takeAll_known listed fresh.1]
      exact Option.bind_congr fun record _ => ih once.2 freshRest record
    · have unknown : ∀ field ∈ fields, field.name ≠ name := fun field listed same =>
        known ⟨field, listed, same⟩
      rw [unordered.readMember_of_unknown faithful unknown]
      show ((memberNodesWith key rest).foldlM (readMember fields) (record, seen)).toOption.bind
        (complete fields) = _
      rw [ih once.2 fresh.2]
      apply takeAll_congr
      intro field listed
      exact (lookup_cons_of_ne (unknown field (List.mem_of_mem_filter listed)) value rest).symm

/-- An object whose members have different names is decoded as if the fields looked up their members
one after the other. -/
theorem toOption_record (unordered : Unordered fields) (faithful : Key.Faithful key)
    (once : (members.map Prod.fst).Nodup) (source : Source) (title : String) (blank : T) :
    (Node.record source title fields blank ((Json.obj members).nodeWith key)).toOption =
      takeAll key (fun name => members.lookup name) fields blank := by
  have everything : unmet fields [] = fields := List.filter_eq_self.2 fun _ _ => rfl
  rw [← everything, ← unordered.toOption_readMembers faithful once (by simp), nodeWith,
    everything, Node.record, toOption_bind]
  congr 1
  funext state
  rcases state with ⟨record, seen⟩
  simp only [Node.ended, complete, bind, Except.bind]
  cases fields.find? fun field => field.required && !seen.contains field.name <;> rfl

end Unordered

end Json

end LogDrift
