import LogDrift.CommandLine.Grammar
import LogDrift.Proofs.Except

/-!
# What reading words keeps

A property of what has been given holds to the end of a level if every parameter keeps it whose name
is among the words. The words after a subcommand are words of the command line.
-/

namespace LogDrift.CommandLine

variable {T U α : Type}

namespace Parameter

/-- Whether taking in a value keeps a property. -/
def Keeps (holds : T → Prop) (parameter : Parameter T) : Prop :=
  ∀ value given given', holds given → parameter.accept value given = .ok given' → holds given'

variable {holds : T → Prop}

theorem keeps_single {name : String} {read : String → Except Refusal α} {get : T → Option α}
    {put : α → T → T} (kept : ∀ value given, holds given → holds (put value given)) :
    (single name read get put).Keeps holds := by
  intro value given given' held accepted
  simp only [single] at accepted
  split at accepted
  · cases accepted
  · obtain ⟨value, _, rfl⟩ := exists_of_map_eq_ok accepted
    exact kept value given held

theorem keeps_list {name : String} {append : List String → T → T}
    (kept : ∀ elements given, holds given → holds (append elements given)) :
    (list name append).Keeps holds := by
  intro value given given' held accepted
  cases accepted
  exact kept _ given held

/-- A parameter for the first part of a pair keeps what holds of the second. -/
theorem keeps_onFirst (holds : U → Prop) (parameter : Parameter T) :
    (parameter.onFirst (U := U)).Keeps fun given => holds given.2 := by
  intro value given given' held accepted
  obtain ⟨first, _, rfl⟩ := exists_of_map_eq_ok accepted
  exact held

theorem keeps_onSecond (holds : U → Prop) {parameter : Parameter U} (kept : parameter.Keeps holds) :
    (parameter.onSecond (T := T)).Keeps fun given => holds given.2 := by
  intro value given given' held accepted
  obtain ⟨second, taken, rfl⟩ := exists_of_map_eq_ok accepted
  exact kept value given.2 second held taken

end Parameter

namespace Reading

variable {holds : T → Prop} {reading reading' : Reading T}

/-- Whether a property holds, and stays when the pending value is taken in. -/
structure Maintains (holds : T → Prop) (reading : Reading T) : Prop where
  given : holds reading.given
  pending : ∀ parameter value, reading.pending = some (parameter, value) → parameter.Keeps holds

theorem Maintains.settle (maintains : reading.Maintains holds) {given : T}
    (settled : reading.settle = .ok given) : holds given := by
  rw [Reading.settle] at settled
  split at settled
  · cases settled
    exact maintains.given
  · cases settled
  · next parameter value waits => exact maintains.pending _ _ waits _ _ _ maintains.given settled

theorem Maintains.start (maintains : reading.Maintains holds) {parameter : Parameter T}
    (kept : parameter.Keeps holds) {value : Option String}
    (started : reading.start parameter value = .ok reading') : reading'.Maintains holds := by
  obtain ⟨given, settled, started⟩ := exists_of_bind_eq_ok started
  have held := maintains.settle settled
  cases value with
  | none =>
    cases started
    exact ⟨held, fun _ _ waits => by cases waits; exact kept⟩
  | some value =>
    obtain ⟨given', accepted, started⟩ := exists_of_bind_eq_ok started
    cases started
    exact ⟨kept _ _ _ held accepted, nofun⟩

theorem leave_ne_ok {topic : Refusal} {value : α} : reading.leave topic ≠ .ok value := by
  intro left
  obtain ⟨_, _, refused⟩ := exists_of_bind_eq_ok left
  cases refused

end Reading

namespace Level

variable {level : Level T} {holds : T → Prop} {reading reading' : Reading T}

theorem surplus_ne_ok {word : String} {value : α} : level.surplus reading word ≠ .ok value := by
  rw [surplus]
  split <;> exact nofun

theorem maintains_takeNamed {name : String} {value : Option String}
    (kept : ∀ parameter ∈ level.parameters, parameter.name = name → parameter.Keeps holds)
    (maintains : reading.Maintains holds)
    (taken : level.takeNamed reading name value = .ok reading') : reading'.Maintains holds := by
  cases found : level.parameters.find? (·.name == name) with
  | some parameter =>
    simp only [takeNamed, found] at taken
    have named : parameter.name = name := by simpa using List.find?_some found
    exact maintains.start (kept parameter (List.mem_of_find?_eq_some found) named) taken
  | none =>
    cases topic : level.topicOfName? name with
    | none =>
      simp only [takeNamed, found, topic] at taken
      cases taken
    | some topic' =>
      simp only [takeNamed, found, topic] at taken
      split at taken
      · cases taken
      · exact (Reading.leave_ne_ok taken).elim

theorem takeLetters_ne_ok {letters : List Char} :
    level.takeLetters reading letters ≠ .ok reading' := by
  rw [takeLetters]
  split
  · exact Reading.leave_ne_ok
  · exact nofun

/-- Taking a word keeps a property if the parameter that the word names does. -/
theorem maintains_take {word : String}
    (kept : ∀ name value, Word.ofText word = .named name value →
      ∀ parameter ∈ level.parameters, parameter.name = name → parameter.Keeps holds)
    (maintains : reading.Maintains holds) (taken : level.take reading word = .ok reading') :
    reading'.Maintains holds := by
  have asValue : ∀ parameter, reading.waiting? = some parameter →
      ({ reading with pending := some (parameter, some word) } : Reading T).Maintains holds := by
    intro parameter waits
    refine ⟨maintains.given, fun _ _ pending => ?_⟩
    cases pending
    rw [Reading.waiting?] at waits
    split at waits
    · next pending =>
      cases waits
      exact maintains.pending _ _ pending
    · cases waits
  by_cases closed : reading.isClosed = true
  · rw [take, if_pos closed] at taken
    exact (surplus_ne_ok taken).elim
  · rw [take, if_neg closed] at taken
    cases form : Word.ofText word with
    | closing =>
      simp only [form] at taken
      cases taken
      exact ⟨maintains.given, maintains.pending⟩
    | named name value =>
      simp only [form] at taken
      exact maintains_takeNamed (kept name value form) maintains taken
    | letters letters =>
      cases waits : reading.waiting? with
      | none =>
        simp only [form, waits] at taken
        exact (takeLetters_ne_ok taken).elim
      | some parameter =>
        simp only [form, waits] at taken
        split at taken
        · cases taken
          exact asValue parameter waits
        · exact (takeLetters_ne_ok taken).elim
    | plain =>
      cases waits : reading.waiting? with
      | none =>
        simp only [form, waits] at taken
        exact (surplus_ne_ok taken).elim
      | some parameter =>
        simp only [form, waits] at taken
        cases taken
        exact asValue parameter waits

/-- Reading words keeps a property if the parameters that they name do. -/
theorem maintains_read {words : List String} {found : Option (String × List String)}
    (kept : ∀ word ∈ words, ∀ name value, Word.ofText word = .named name value →
      ∀ parameter ∈ level.parameters, parameter.name = name → parameter.Keeps holds)
    (maintains : reading.Maintains holds) (read : level.read reading words = .ok (reading', found)) :
    reading'.Maintains holds := by
  induction words generalizing reading with
  | nil =>
    cases read
    exact maintains
  | cons word rest ih =>
    rw [Level.read] at read
    split at read
    · cases read
      exact maintains
    · obtain ⟨between, taken, read⟩ := exists_of_bind_eq_ok read
      exact ih (fun other listed => kept other (.tail _ listed))
        (maintains_take (kept word (.head _)) maintains taken) read

theorem holds_readAll (holds : T → Prop) {blank given : T} {words : List String}
    (kept : ∀ word ∈ words, ∀ name value, Word.ofText word = .named name value →
      ∀ parameter ∈ level.parameters, parameter.name = name → parameter.Keeps holds)
    (start : holds blank) (read : level.readAll blank words = .ok given) : holds given := by
  obtain ⟨⟨reading, found⟩, read, settled⟩ := exists_of_bind_eq_ok read
  exact (maintains_read kept ⟨start, by simp⟩ read).settle settled

/-- The words after a subcommand are among those that are read. -/
theorem subset_of_read {words rest : List String} {name : String}
    (read : level.read reading words = .ok (reading', some (name, rest))) : rest ⊆ words := by
  induction words generalizing reading with
  | nil => cases read
  | cons word others ih =>
    rw [Level.read] at read
    split at read
    · cases read
      exact List.subset_cons_self _ _
    · obtain ⟨between, _, read⟩ := exists_of_bind_eq_ok read
      exact List.Subset.trans (ih read) (List.subset_cons_self word others)

end Level

end LogDrift.CommandLine
