import LogDrift.Document.Record
import LogDrift.Proofs.Document.Event
import LogDrift.Proofs.Document.Proper
import LogDrift.Proofs.Json.Members

/-!
# What records become

A record becomes an event that is decided by its parts alone: neither the names under which the
parts are written, nor their order, nor what else is written matters, and a part that is left out is
as good as null. The event is read back from its saved form.
-/

namespace LogDrift

open Json (Decoded Node Key Unordered)
open Json.RecordField (Independent take takeAll)
open Document

variable {key : String → Key} {T α β : Type}

/-! ## Fields -/

@[simp]
theorem toOption_into (decode : Node → Decoded α) (put : α → T → T) (node : Node) (record : T) :
    (into decode put node record).toOption = (decode node).toOption.map (put · record) :=
  toOption_map _ _

/-- Two fields that change different parts of a record are independent. -/
theorem independent_into {first : Node → Decoded α} {second : Node → Decoded β}
    {put : α → T → T} {put' : β → T → T} {name name' : String} {aliases aliases' : List String}
    {needed needed' : Bool}
    (commutes : ∀ value value' record, put' value' (put value record) =
      put value (put' value' record)) :
    Independent ⟨name, aliases, needed, into first put⟩
      ⟨name', aliases', needed', into second put'⟩ := by
  intro node node' record
  simp only [toOption_into, Option.bind_map, Function.comp_def]
  cases (first node).toOption <;> cases (second node').toOption <;> simp [commutes]

namespace Json

theorem anything_nodeWith (faithful : Key.Faithful key) (value : Json) :
    (value.nodeWith key).anything = .ok value.canonical := by
  rw [Node.anything, value_nodeWith faithful.name]

/-- What a value that may be null is read as. -/
def optional? (read : Json → Option α) : Json → Option (Option α)
  | null => some none
  | value => (read value).map some

theorem toOption_nullable {decode : Node → Decoded α} {read : Json → Option α}
    (reads : ∀ value : Json, (decode (value.nodeWith key)).toOption = read value) (value : Json) :
    (Node.nullable decode (value.nodeWith key)).toOption = value.optional? read := by
  cases value with
  | null => rfl
  | _ => exact (toOption_map _ _).trans (congrArg (Option.map some) (reads _))

@[simp] theorem toOption_string (value : Json) :
    (Node.string (value.nodeWith key)).toOption = value.text? := by
  cases value <;> rfl

end Json

/-- The time bucket that a value is. -/
def TimeBucket.ofJson? : Json → Option TimeBucket
  | .int value =>
    if value ≤ Integer.greatest then some (minute value) else some (instant (Float.ofInt value))
  | .float value => some (instant value)
  | .str text => some (label text)
  | _ => none

theorem TimeBucket.toOption_decode (faithful : Key.Faithful key) (value : Json) :
    (decode (value.nodeWith key)).toOption = ofJson? value := by
  rw [decode, Json.anything_nodeWith faithful]
  cases value with
  | int value =>
    show (if value ≤ Integer.greatest then Except.ok (minute value)
      else Except.ok (instant (Float.ofInt value))).toOption = _
    rw [ofJson?]
    split <;> rfl
  | _ => rfl

/-- A field that may be missing takes what is left out for null. -/
theorem take_nullable {name : String} {decode : Node → Decoded α} {put : Option α → T → T}
    {record : T} {read : Json → Option α}
    (reads : ∀ value : Json, (decode (value.nodeWith key)).toOption = read value)
    (absent : put none record = record) (given : Option Json) :
    take key (defaulted name (into (Node.nullable decode) put)) given record =
      ((given.getD .null).optional? read).map (put · record) := by
  cases given with
  | none => exact congrArg some absent.symm
  | some value =>
    rw [take, defaulted, toOption_into, Json.toOption_nullable reads, Option.getD_some]

theorem take_anything (faithful : Key.Faithful key) {name : String} {put : Json → T → T}
    {record : T} (absent : put .null record = record) (given : Option Json) :
    take key (defaulted name (into Node.anything put)) given record =
      some (put (given.getD .null).canonical record) := by
  cases given with
  | none => exact congrArg some absent.symm
  | some value =>
    rw [take, defaulted, toOption_into, Json.anything_nodeWith faithful]
    rfl

theorem take_required_anything (faithful : Key.Faithful key) (name : String) (put : Json → T → T)
    (given : Option Json) (record : T) :
    take key (required name (into Node.anything put)) given record =
      given.map fun value => put value.canonical record := by
  cases given with
  | none => rfl
  | some value =>
    rw [take, required, toOption_into, Json.anything_nodeWith faithful]
    rfl

theorem TimeBucket.le_of_optional? {value : Json} {n : Int}
    (timed : value.optional? ofJson? = some (some (minute n))) : n ≤ Integer.greatest := by
  cases value with
  | int m =>
    rw [Json.optional?, ofJson?] at timed
    · split at timed
      · next within =>
        cases timed
        exact within
      · cases timed
    · nofun
  | _ => cases timed

@[simp]
theorem Label.ofJson?_canonical (value : Json) : ofJson? value.canonical = ofJson? value := by
  cases value <;> rfl

@[simp] theorem Count.ofJson_canonical (value : Json) : ofJson value.canonical = ofJson value := by
  cases value <;> rfl

/-! ## Parts of records -/

namespace Record

/-- What a producer writes about one occurrence, with null for what is left out. -/
structure Parts where
  label : Json
  text : Json
  count : Json
  time : Json
  host : Json

namespace Parts

/-- The parts that stand under the names of a producer. -/
def ofMembers (names : Names) (members : List (String × Json)) : Parts where
  label := (members.lookup names.label).getD .null
  text := (members.lookup names.text).getD .null
  count := (members.lookup names.count).getD .null
  time := (members.lookup names.time).getD .null
  host := (members.lookup names.host).getD .null

/-- The event that parts make. There is none when the label denotes none or when another part is of
a wrong kind; the count may be of any kind. -/
def event? (parts : Parts) : Option (Event Float) := do
  let label ← Label.ofJson? parts.label
  let text ← parts.text.optional? Json.text?
  let time ← parts.time.optional? TimeBucket.ofJson?
  let host ← parts.host.optional? Json.text?
  return {
    label
    text := text.getD ""
    occurrences := [{
      count := Count.ofJson parts.count
      time
      host := host.getD unknownHost
      oldLabel := some label }] }

end Parts

/-- Whether the names of a producer are different. -/
def Names.Apart (names : Names) : Prop :=
  [names.label, names.text, names.count, names.time, names.host].Nodup

instance (names : Names) : Decidable names.Apart :=
  inferInstanceAs (Decidable (List.Nodup _))

/-- It does not matter in which order the fields of a record are read. -/
theorem unordered_fields {names : Names} (apart : names.Apart) : Unordered (fields names) where
  plain := by simp [fields, required, defaulted]
  apart := apart
  independent := by
    simp only [fields, required, defaulted, List.pairwise_cons, List.forall_mem_cons,
      List.not_mem_nil, false_implies, implies_true, and_true, List.Pairwise.nil]
    refine ⟨⟨?_, ?_, ?_, ?_⟩, ⟨?_, ?_, ?_⟩, ⟨?_, ?_⟩, ?_⟩
    all_goals exact independent_into fun _ _ _ => rfl

variable {names : Names} {members : List (String × Json)}

/-- The record that the fields make of what is given under their names. -/
theorem takeAll_fields (faithful : Key.Faithful key) (names : Names)
    (given : String → Option Json) :
    takeAll key given (fields names) {} = (do
      let label ← given names.label
      let text ← ((given names.text).getD .null).optional? Json.text?
      let time ← ((given names.time).getD .null).optional? TimeBucket.ofJson?
      let host ← ((given names.host).getD .null).optional? Json.text?
      return {
        label := label.canonical
        text
        count := ((given names.count).getD .null).canonical
        time
        host }) := by
  have texts := @Json.toOption_string key
  have times := TimeBucket.toOption_decode faithful
  rw [fields, takeAll, take_required_anything faithful, Option.bind_map]
  refine Option.bind_congr fun label _ => ?_
  rw [Function.comp_apply, takeAll, take_nullable texts (by rfl), Option.bind_map]
  refine Option.bind_congr fun text _ => ?_
  rw [Function.comp_apply, takeAll, take_anything faithful (by rfl), Option.bind_some, takeAll,
    take_nullable times (by rfl), Option.bind_map]
  refine Option.bind_congr fun time _ => ?_
  rw [Function.comp_apply, takeAll, take_nullable texts (by rfl), Option.bind_map]
  rfl

/-- The event of the record that the fields make is that of the parts. -/
theorem toEvent_takeAll (faithful : Key.Faithful key) (names : Names)
    (members : List (String × Json)) :
    ((takeAll key (fun name => members.lookup name) (fields names) {}).bind fun record =>
      record.toEvent.toOption) = (Parts.ofMembers names members).event? := by
  have made (record : Record) : record.toEvent.toOption =
      (Label.ofJson? record.label).bind fun label => some {
        label
        text := record.text.getD ""
        occurrences := [{
          count := Count.ofJson record.count
          time := record.time
          host := record.host.getD unknownHost
          oldLabel := some label }] } := by
    rw [toEvent]
    cases Label.ofJson? record.label <;> rfl
  rw [takeAll_fields faithful, Parts.event?, Parts.ofMembers]
  cases members.lookup names.label with
  | none => rfl
  | some label =>
    -- The label is made sense of last when a record is decoded, and first when its parts are.
    rw [Option.getD_some]
    cases Json.optional? Json.text? ((members.lookup names.text).getD .null) <;>
      cases Json.optional? TimeBucket.ofJson? ((members.lookup names.time).getD .null) <;>
      cases Json.optional? Json.text? ((members.lookup names.host).getD .null) <;>
      simp [made]

/-- The event of a record that is written as an object is that of its parts. -/
theorem toOption_ofObject (apart : names.Apart) (once : (members.map Prod.fst).Nodup) :
    (do (← Error.readValue (decode names) (.obj members)).toEvent).toOption =
      (Parts.ofMembers names members).event? := by
  have taken := (unordered_fields apart).toOption_record Json.Key.faithful_ofName once .value
    names.title {}
  rw [← toEvent_takeAll Json.Key.faithful_ofName, ← taken, toOption_bind, Error.readValue,
    Json.decodeValue, Json.toNode_eq_nodeWith, decode]
  cases Node.record .value names.title (fields names) {} ((Json.obj members).nodeWith .ofName)
  all_goals rfl

/-- The integers of the event that parts make are in range. -/
theorem Parts.regular_of_event? {parts : Parts} {event : Event Float}
    (found : parts.event? = some event) : event.Regular := by
  simp only [event?, Option.bind_eq_bind, Option.bind_eq_some_iff, Option.pure_def,
    Option.some.injEq] at found
  obtain ⟨label, denotes, text, _, time, timed, host, _, rfl⟩ := found
  have fits := Label.fits_of_ofJson? denotes
  have within : ∀ value, time = some (.minute value) → value ≤ Integer.greatest := by
    rintro value rfl
    exact TimeBucket.le_of_optional? timed
  refine ⟨fits, List.forall_mem_singleton.2 ⟨Count.fits_ofJson _, within, ?_⟩⟩
  intro other same
  cases same
  exact fits

end Record

namespace Event

open Record (Parts searchNames productionNames)

/-- An event that is read from its saved form is the same, whether the members of the saved form
are sorted or not. -/
theorem ofReport_saved {event : Event Float} (regular : event.Regular) :
    ofReport .saved event.toJson = .ok event ∧
      ofReport .saved event.toJson.canonical = .ok event := by
  have written := decode_toJson Json.Key.faithful_ofName .value regular
  have sorted := decode_canonical Json.Key.faithful_ofName .value regular
  simp only [ofReport, Error.readValue, Json.decodeValue, Json.toNode_eq_nodeWith, written, sorted]
  exact ⟨rfl, rfl⟩

/-- Records of the same parts become the same event in both shapes, or none in either. The event is
read back from its saved form. -/
theorem ofReport_agree {search production : List (String × Json)} {parts : Parts}
    (searchOnce : (search.map Prod.fst).Nodup) (productionOnce : (production.map Prod.fst).Nodup)
    (inSearch : Parts.ofMembers searchNames search = parts)
    (inProduction : Parts.ofMembers productionNames production = parts) :
    (ofReport .search (.obj search)).toOption = parts.event? ∧
      (ofReport .production (.obj production)).toOption = parts.event? ∧
      ∀ event, parts.event? = some event →
        ofReport .saved event.toJson = .ok event ∧
          ofReport .saved event.toJson.canonical = .ok event := by
  refine ⟨?search, ?production, ?saved⟩
  case search =>
    rw [← inSearch]
    exact Record.toOption_ofObject (by decide) searchOnce
  case production =>
    rw [← inProduction]
    exact Record.toOption_ofObject (by decide) productionOnce
  case saved =>
    intro event found
    exact ofReport_saved (Parts.regular_of_event? found)

/-- A record with a label and a count in texts, and without a host. -/
theorem ofReport_agree_texts :
    let event : Event Float := {
      label := 4
      text := "disk full"
      occurrences := [{ count := 12, time := some (.minute 7), oldLabel := some 4 }] }
    let search := [("_raw", .str "disk full"), ("_time", .int 7), ("cluster_count", .str "12"),
      ("cluster_label", .str " +4 ")]
    let production := [("clusterLabel", .str " +4 "), ("count", .str "12"), ("host", .null),
      ("level", .str "warn"), ("logMessage", .str "disk full"), ("timeStamp", .int 7)]
    (ofReport .search (.obj search)).toOption = some event ∧
      (ofReport .production (.obj production)).toOption = some event ∧
      ofReport .saved event.toJson = .ok event ∧
      ofReport .saved event.toJson.canonical = .ok event := by
  intro event search production
  obtain ⟨inSearch, inProduction, saved⟩ :=
    @ofReport_agree search production _ (by decide) (by decide) rfl rfl
  exact ⟨inSearch, inProduction, saved event rfl⟩

end Event

end LogDrift
