import LogDrift.Proofs.Json.Text

/-!
# Reading written values

The tokens of a value lead the reader back to the tree of that value, wherever the value stands, as
long as it is not nested too deeply to be used.
-/

namespace LogDrift.Json

/-! ## Trees of values -/

mutual

/-- The tree of a value, with the keys that names are given. -/
def nodeWith (key : String → Key) : Json → Node
  | null => .null
  | bool value => .bool value
  | int value => .int value
  | float value => .float value
  | str value => .str value
  | arr elements => .arr (elementNodesWith key elements) none
  | obj members => .obj (memberNodesWith key members) none

/-- The trees of some elements. -/
def elementNodesWith (key : String → Key) : List Json → List Node
  | [] => []
  | element :: rest => element.nodeWith key :: elementNodesWith key rest

/-- The keys and trees of some members. -/
def memberNodesWith (key : String → Key) : List (String × Json) → List (Key × Node)
  | [] => []
  | (name, value) :: rest => (key name, value.nodeWith key) :: memberNodesWith key rest

end

@[simp] theorem elementNodesWith_eq_map (key : String → Key) (elements : List Json) :
    elementNodesWith key elements = elements.map (nodeWith key) := by
  induction elements with
  | nil => rfl
  | cons element rest ih => rw [elementNodesWith, ih, List.map_cons]

@[simp] theorem memberNodesWith_eq_map (key : String → Key) (members : List (String × Json)) :
    memberNodesWith key members =
      members.map fun member => (key member.1, member.2.nodeWith key) := by
  induction members with
  | nil => rfl
  | cons member rest ih =>
    rcases member with ⟨name, value⟩
    rw [memberNodesWith, ih, List.map_cons]

mutual

/-- How many containers enclose the innermost parts of a value, itself included. -/
def nesting : Json → Nat
  | arr elements => nestingOfElements elements + 1
  | obj members => nestingOfMembers members + 1
  | _ => 0

/-- The greatest nesting among some elements. -/
def nestingOfElements : List Json → Nat
  | [] => 0
  | element :: rest => max element.nesting (nestingOfElements rest)

/-- The greatest nesting among some members. -/
def nestingOfMembers : List (String × Json) → Nat
  | [] => 0
  | (_, value) :: rest => max value.nesting (nestingOfMembers rest)

end

theorem nestingOfElements_le {elements : List Json} {room : Nat} :
    nestingOfElements elements ≤ room ↔ ∀ element ∈ elements, element.nesting ≤ room := by
  induction elements with
  | nil => simp [nestingOfElements]
  | cons element rest ih => rw [nestingOfElements, Nat.max_le, ih, List.forall_mem_cons]

theorem nestingOfMembers_le {members : List (String × Json)} {room : Nat} :
    nestingOfMembers members ≤ room ↔ ∀ member ∈ members, member.2.nesting ≤ room := by
  induction members with
  | nil => simp [nestingOfMembers]
  | cons member rest ih =>
    rcases member with ⟨name, value⟩
    rw [nestingOfMembers, Nat.max_le, ih, List.forall_mem_cons]

@[simp] theorem nesting_arr_le {elements : List Json} {room : Nat} :
    (arr elements).nesting ≤ room + 1 ↔ ∀ element ∈ elements, element.nesting ≤ room := by
  rw [nesting, Nat.add_le_add_iff_right, nestingOfElements_le]

@[simp] theorem nesting_obj_le {members : List (String × Json)} {room : Nat} :
    (obj members).nesting ≤ room + 1 ↔ ∀ member ∈ members, member.2.nesting ≤ room := by
  rw [nesting, Nat.add_le_add_iff_right, nestingOfMembers_le]

theorem nesting_optional_le {α : Type} {name : String} {encode : α → Json} {value : Option α}
    {room : Nat} (small : ∀ present ∈ value, (encode present).nesting ≤ room) :
    ∀ member ∈ optional name encode value, member.2.nesting ≤ room := by
  cases value with
  | none => exact fun _ member => nomatch member
  | some present =>
    intro member listed
    cases List.mem_singleton.1 listed
    exact small present rfl

theorem nesting_ofOption_le {α : Type} {encode : α → Json} {value : Option α} {room : Nat}
    (small : ∀ present ∈ value, (encode present).nesting ≤ room) :
    (ofOption encode value).nesting ≤ room := by
  cases value with
  | none => exact Nat.zero_le room
  | some present => exact small present rfl

theorem nesting_strings_le (values : List String) : (strings values).nesting ≤ 1 := by
  rw [strings, nesting_arr_le]
  intro element member
  rcases List.mem_map.1 member with ⟨value, _, rfl⟩
  exact Nat.zero_le 0

/-! ## Steps of the reader -/

/-- How reading goes on when a value is complete. -/
def resume (root : Option Node) (stack : List Frame) (value : Node) (rest : List Token) :
    Document :=
  match stack with
  | [] => read .separator (some value) [] rest
  | frame :: outer => read .separator root (frame.add value :: outer) rest

/-- What is expected where a value may start. -/
def Expectation.TakesValue (expected : Expectation) : Prop :=
  expected = .value ∨ expected = .elementOrEnd

/-- What is expected where a name may start. -/
def Expectation.TakesKey (expected : Expectation) : Prop :=
  expected = .key ∨ expected = .keyOrEnd

variable {expected : Expectation} {root : Option Node} {stack outer : List Frame}
  {rest : List Token}

theorem read_plain (takes : expected.TakesValue) (value : Node) :
    read expected root stack (.plain value :: rest) = resume root stack value rest := by
  rcases takes with rfl | rfl <;> cases stack <;> rfl

theorem read_quoted (takes : expected.TakesValue) (key : Key) (value : Node) :
    read expected root stack (.quoted key value :: rest) = resume root stack value rest := by
  rcases takes with rfl | rfl <;> cases stack <;> rfl

theorem read_openArray (takes : expected.TakesValue) :
    read expected root stack (.openArray :: rest) =
      read .elementOrEnd root (.array [] :: stack) rest := by
  rcases takes with rfl | rfl <;> rfl

theorem read_openObject (takes : expected.TakesValue) :
    read expected root stack (.openObject :: rest) =
      read .keyOrEnd root (.object [] none :: stack) rest := by
  rcases takes with rfl | rfl <;> rfl

theorem read_name (takes : expected.TakesKey) (members : List (Key × Node)) (open? : Option Key)
    (key : Key) (value : Node) :
    read expected root (.object members open? :: outer) (.quoted key value :: .colon :: rest) =
      read .value root (.object members (some key) :: outer) rest := by
  rcases takes with rfl | rfl <;> rfl

theorem read_closeArray (elements : List Node) :
    read .separator root (.array elements :: outer) (.closeArray :: rest) =
      resume root outer (atDepth outer.length (.arr elements.reverse none)) rest := by
  cases outer <;> rfl

theorem read_closeObject (members : List (Key × Node)) :
    read .separator root (.object members none :: outer) (.closeObject :: rest) =
      resume root outer (atDepth outer.length (.obj members.reverse none)) rest := by
  cases outer <;> rfl

/-- A container within the limit is usable. -/
theorem atDepth_of_lt {depth : Nat} (within : depth < depthLimit) (container : Node) :
    atDepth depth container = container :=
  if_pos within

mutual

/-- The tokens of a value are read as its tree. -/
theorem read_tokensOf : ∀ (value : Json) {expected : Expectation} (root : Option Node)
    (stack : List Frame) (rest : List Token), expected.TakesValue →
    stack.length + value.nesting ≤ depthLimit →
    read expected root stack (value.tokensOf ++ rest) =
      resume root stack (value.nodeWith .ofText) rest
  | .null, _, _, _, _, takes, _ => read_plain takes _
  | .bool _, _, _, _, _, takes, _ => read_plain takes _
  | .int _, _, _, _, _, takes, _ => read_plain takes _
  | .float _, _, _, _, _, takes, _ => read_plain takes _
  | .str _, _, _, _, _, takes, _ => read_quoted takes _ _
  | .arr [], _, _, stack, rest, takes, room => by
    have within : stack.length < depthLimit := Nat.lt_of_lt_of_le (Nat.lt_succ_self _) room
    refine (read_openArray takes).trans ?_
    refine Eq.trans ?_ (congrArg (resume _ stack · rest) (atDepth_of_lt within _))
    cases stack <;> rfl
  | .arr (element :: others), _, root, stack, rest, takes, room => by
    have inner := read_elementTokens (element :: others) root [] stack rest
      (List.cons_ne_nil _ _) (.inr rfl) (by simp only [nesting] at room; omega)
    have opened := (read_openArray takes).trans inner
    simpa [tokensOf, nodeWith] using opened
  | .obj [], _, _, stack, rest, takes, room => by
    have within : stack.length < depthLimit := Nat.lt_of_lt_of_le (Nat.lt_succ_self _) room
    refine (read_openObject takes).trans ?_
    refine Eq.trans ?_ (congrArg (resume _ stack · rest) (atDepth_of_lt within _))
    cases stack <;> rfl
  | .obj (member :: others), _, root, stack, rest, takes, room => by
    have inner := read_memberTokens (member :: others) root [] stack rest
      (List.cons_ne_nil _ _) (.inr rfl) (by simp only [nesting] at room; omega)
    have opened := (read_openObject takes).trans inner
    simpa [tokensOf, nodeWith] using opened

/-- The tokens of elements are read into the array that is open. -/
theorem read_elementTokens : ∀ (elements : List Json) {expected : Expectation}
    (root : Option Node) (done : List Node) (outer : List Frame) (rest : List Token),
    elements ≠ [] → expected.TakesValue →
    outer.length + 1 + nestingOfElements elements ≤ depthLimit →
    read expected root (.array done :: outer) (elementTokens elements ++ .closeArray :: rest) =
      resume root outer (.arr (done.reverse ++ elementNodesWith .ofText elements) none) rest
  | [], _, _, _, _, _, present, _, _ => (present rfl).elim
  | [element], _, root, done, outer, rest, _, takes, room => by
    have within : outer.length < depthLimit := by omega
    have first := read_tokensOf element root (.array done :: outer) (.closeArray :: rest) takes (by
      simp only [nestingOfElements] at room
      simp only [List.length_cons]
      omega)
    rw [elementTokens, first, resume, Frame.add, read_closeArray, atDepth_of_lt within]
    simp [elementNodesWith]
  | element :: next :: others, _, root, done, outer, rest, _, takes, room => by
    have first := read_tokensOf element root (.array done :: outer)
      (.comma :: (elementTokens (next :: others) ++ .closeArray :: rest)) takes (by
        simp only [nestingOfElements] at room
        simp only [List.length_cons]
        omega)
    have later := read_elementTokens (next :: others) root (element.nodeWith .ofText :: done) outer
      rest (List.cons_ne_nil _ _) (.inl rfl : Expectation.TakesValue .value) (by
        simp only [nestingOfElements] at room ⊢
        omega)
    have separated := first.trans later
    simpa [elementTokens, elementNodesWith] using separated

/-- The tokens of members are read into the object that is open. -/
theorem read_memberTokens : ∀ (members : List (String × Json)) {expected : Expectation}
    (root : Option Node) (done : List (Key × Node)) (outer : List Frame) (rest : List Token),
    members ≠ [] → expected.TakesKey →
    outer.length + 1 + nestingOfMembers members ≤ depthLimit →
    read expected root (.object done none :: outer)
        (memberTokens members ++ .closeObject :: rest) =
      resume root outer (.obj (done.reverse ++ memberNodesWith .ofText members) none) rest
  | [], _, _, _, _, _, present, _, _ => (present rfl).elim
  | [(name, value)], _, root, done, outer, rest, _, takes, room => by
    have within : outer.length < depthLimit := by omega
    have first := read_tokensOf value root (.object done (some (.ofText name)) :: outer)
      (.closeObject :: rest) (.inl rfl) (by
        simp only [nestingOfMembers] at room
        simp only [List.length_cons]
        omega)
    have named := (read_name takes done none (.ofText name) (.str name)).trans first
    rw [resume, Frame.add, read_closeObject, atDepth_of_lt within] at named
    simpa [memberTokens, memberNodesWith] using named
  | (name, value) :: next :: others, _, root, done, outer, rest, _, takes, room => by
    have first := read_tokensOf value root (.object done (some (.ofText name)) :: outer)
      (.comma :: (memberTokens (next :: others) ++ .closeObject :: rest)) (.inl rfl) (by
        simp only [nestingOfMembers] at room
        simp only [List.length_cons]
        omega)
    have later := read_memberTokens (next :: others) root
      ((.ofText name, value.nodeWith .ofText) :: done) outer rest (List.cons_ne_nil _ _)
      (.inl rfl : Expectation.TakesKey .key) (by
        simp only [nestingOfMembers] at room ⊢
        omega)
    have named := (read_name takes done none (.ofText name) (.str name)).trans
      (first.trans later)
    simpa [memberTokens, memberNodesWith] using named

end

/-- A written value is read as its tree. -/
theorem readDocument_render {value : Json} (legible : value.Legible)
    (room : value.nesting ≤ depthLimit) :
    readDocument value.render = ⟨value.nodeWith .ofText, none⟩ := by
  have cut := tokens_write legible closes_nil
  have reading := read_tokensOf value none [] [] (.inl rfl) (by simpa using room)
  rw [List.append_nil, tokens_nil] at cut
  rw [readDocument, render, String.toList_ofList, cut, reading]
  rfl

section Trees

variable {key : String → Key}

mutual

/-- The tree of a value can be used as a whole. -/
theorem value_nodeWith (named : ∀ name, (key name).name = .ok name) :
    (value : Json) → (value.nodeWith key).value = .ok value
  | .null => rfl
  | .bool _ => rfl
  | .int _ => rfl
  | .float _ => rfl
  | .str _ => rfl
  | .arr elements => by rw [nodeWith, Node.value, elementValues_nodesWith named elements]; rfl
  | .obj members => by rw [nodeWith, Node.value, memberValues_nodesWith named members]; rfl

theorem elementValues_nodesWith (named : ∀ name, (key name).name = .ok name) :
    (elements : List Json) → Node.elementValues (elementNodesWith key elements) = .ok elements
  | [] => rfl
  | element :: rest => by
    rw [elementNodesWith, Node.elementValues, value_nodeWith named element,
      elementValues_nodesWith named rest]
    rfl

theorem memberValues_nodesWith (named : ∀ name, (key name).name = .ok name) :
    (members : List (String × Json)) →
      Node.memberValues (memberNodesWith key members) = .ok members
  | [] => rfl
  | (name, value) :: rest => by
    rw [memberNodesWith, Node.memberValues, named, value_nodeWith named value,
      memberValues_nodesWith named rest]
    rfl

end

mutual

/-- The tree of a value can be passed over. -/
theorem skipFault?_nodeWith (skipped : ∀ name, (key name).skipFault = none) :
    (value : Json) → (value.nodeWith key).skipFault? = none
  | .null => rfl
  | .bool _ => rfl
  | .int _ => rfl
  | .float _ => rfl
  | .str _ => rfl
  | .arr elements => by
    rw [nodeWith, Node.skipFault?, skipElements?_nodesWith skipped elements]
    rfl
  | .obj members => by
    rw [nodeWith, Node.skipFault?, skipMembers?_nodesWith skipped members]
    rfl

theorem skipElements?_nodesWith (skipped : ∀ name, (key name).skipFault = none) :
    (elements : List Json) → Node.skipElements? (elementNodesWith key elements) = none
  | [] => rfl
  | element :: rest => by
    rw [elementNodesWith, Node.skipElements?, skipFault?_nodeWith skipped element,
      skipElements?_nodesWith skipped rest]
    rfl

theorem skipMembers?_nodesWith (skipped : ∀ name, (key name).skipFault = none) :
    (members : List (String × Json)) → Node.skipMembers? (memberNodesWith key members) = none
  | [] => rfl
  | (name, value) :: rest => by
    rw [memberNodesWith, Node.skipMembers?, skipped, skipFault?_nodeWith skipped value,
      skipMembers?_nodesWith skipped rest]
    rfl

end

end Trees

mutual

/-- A value that is already read is a tree whose keys are the names themselves. -/
theorem toNode_eq_nodeWith : (value : Json) → value.toNode = value.nodeWith .ofName
  | .null => rfl
  | .bool _ => rfl
  | .int _ => rfl
  | .float _ => rfl
  | .str _ => rfl
  | .arr elements => by rw [toNode, nodeWith, elementNodes_eq_nodesWith elements]
  | .obj members => by rw [toNode, nodeWith, memberNodes_eq_nodesWith members]

theorem elementNodes_eq_nodesWith : (elements : List Json) →
    elementNodes elements = elementNodesWith .ofName elements
  | [] => rfl
  | element :: rest => by
    rw [elementNodes, elementNodesWith, toNode_eq_nodeWith element, elementNodes_eq_nodesWith rest]

theorem memberNodes_eq_nodesWith : (members : List (String × Json)) →
    memberNodes members = memberNodesWith .ofName members
  | [] => rfl
  | (_, value) :: rest => by
    rw [memberNodes, memberNodesWith, toNode_eq_nodeWith value, memberNodes_eq_nodesWith rest]

end

/-- A written value is parsed, with the members of its objects sorted. -/
theorem parse_render {value : Json} (legible : value.Legible)
    (room : value.nesting ≤ depthLimit) : parse value.render = .ok value.canonical := by
  have usable : (value.nodeWith .ofText).value = .ok value := value_nodeWith (fun _ => rfl) value
  simp only [parse, readDocument_render legible room, usable]

/-- A number alone is parsed as its value, if it has one. -/
theorem parse_number {text : List Char} {numeral : Numeral}
    (scanned : Numeral.scan text = .ok (numeral, [])) :
    parse (String.ofList text) =
      match numeral.value? with
      | some value => .ok value
      | none => .error .syntaxError := by
  have cut : tokens text = [(scanNumber text).1] := by
    have rest : (scanNumber text).2 = [] := by
      simp only [scanNumber, scanned]
      split <;> rfl
    rw [tokens_of_scan scanned, rest, tokens_nil]
  rw [parse, readDocument, String.toList_ofList, cut]
  simp only [scanNumber, scanned, Numeral.value?]
  cases numeral.int? with
  | some value => rfl
  | none =>
    cases numeral.float? with
    | some value => rfl
    | none => rfl

end LogDrift.Json
