import LogDrift.Proofs.Json.Reading
import LogDrift.Proofs.Numeral.Finite

/-!
# Numbers that are read

Every number in the tree of a text is an integer between the bounds of the reader or a finite float,
whatever the text holds and wherever its faults are.
-/

namespace LogDrift.Json

mutual

/-- Whether all numbers that can be used in a tree are in the range of the reader. -/
def Node.InRange : Node → Prop
  | .int value => Integer.least ≤ value ∧ value ≤ Integer.greatestUnsigned
  | .float value => value.isFinite = true
  | .arr elements _ => elementsInRange elements
  | .obj members _ => membersInRange members
  | _ => True

/-- Whether the numbers of all elements are in range. -/
def elementsInRange : List Node → Prop
  | [] => True
  | element :: rest => element.InRange ∧ elementsInRange rest

/-- Whether the numbers of all members are in range. -/
def membersInRange : List (Key × Node) → Prop
  | [] => True
  | (_, value) :: rest => value.InRange ∧ membersInRange rest

end

@[simp] theorem elementsInRange_iff {elements : List Node} :
    elementsInRange elements ↔ ∀ element ∈ elements, element.InRange := by
  induction elements with
  | nil => simp [elementsInRange]
  | cons element rest ih => rw [elementsInRange, ih, List.forall_mem_cons]

@[simp] theorem membersInRange_iff {members : List (Key × Node)} :
    membersInRange members ↔ ∀ member ∈ members, member.2.InRange := by
  induction members with
  | nil => simp [membersInRange]
  | cons member rest ih =>
    rcases member with ⟨key, value⟩
    rw [membersInRange, ih, List.forall_mem_cons]

@[simp] theorem Node.inRange_arr {elements : List Node} {ending : Option Fault} :
    (Node.arr elements ending).InRange ↔ ∀ element ∈ elements, element.InRange := by
  rw [InRange, elementsInRange_iff]

@[simp] theorem Node.inRange_obj {members : List (Key × Node)} {ending : Option Fault} :
    (Node.obj members ending).InRange ↔ ∀ member ∈ members, member.2.InRange := by
  rw [InRange, membersInRange_iff]

/-! ## Tokens -/

/-- Whether the numbers that a token stands for are in range. -/
def Token.InRange : Token → Prop
  | .quoted _ value => value.InRange
  | .plain value => value.InRange
  | _ => True

theorem inRange_scanQuoted (text : List Char) : (scanQuoted text).1.InRange := by
  simp only [scanQuoted]
  split
  · trivial
  · split <;> trivial

theorem inRange_scanWord {word : List Char} {value : Node} (inRange : value.InRange)
    (text : List Char) : (scanWord word value text).1.InRange := by
  induction word generalizing text with
  | nil =>
    rw [scanWord]
    exact inRange
  | cons expected word ih =>
    cases text with
    | nil =>
      rw [scanWord]
      trivial
    | cons c rest =>
      rw [scanWord]
      split
      · exact ih rest
      · trivial

theorem Numeral.inRange_toNode_value? {numeral : Numeral} {value : Json}
    (found : numeral.value? = some value) : value.toNode.InRange := by
  rw [value?] at found
  cases integer : numeral.int? with
  | some n =>
    rw [integer] at found
    cases found
    exact int?_range integer
  | none =>
    simp only [integer, Option.map_eq_some_iff] at found
    rcases found with ⟨x, denotes, rfl⟩
    exact isFinite_float? denotes

theorem inRange_scanNumber (text : List Char) : (scanNumber text).1.InRange := by
  simp only [scanNumber]
  split
  · trivial
  · trivial
  · split
    · next value denotes => exact Numeral.inRange_toNode_value? denotes
    · trivial

theorem inRange_scanToken (c : Char) (rest : List Char) : (scanToken c rest).1.InRange := by
  fun_cases scanToken c rest
  case case7 => exact inRange_scanQuoted rest
  case case8 => exact inRange_scanWord (by trivial) rest
  case case9 => exact inRange_scanWord (by trivial) rest
  case case10 => exact inRange_scanWord (by trivial) rest
  case case11 => exact inRange_scanNumber _
  all_goals trivial

theorem inRange_of_mem_tokens {text : List Char} {token : Token} (member : token ∈ tokens text) :
    token.InRange := by
  fun_induction tokens text with
  | case1 => cases member
  | case2 c rest space ih => exact ih member
  | case3 c rest other ih =>
    rcases List.mem_cons.1 member with rfl | later
    · exact inRange_scanToken c rest
    · exact ih later

/-! ## Containers -/

/-- Whether the numbers of an open container are in range. -/
def Frame.InRange : Frame → Prop
  | array elements => ∀ element ∈ elements, element.InRange
  | object members _ => ∀ member ∈ members, member.2.InRange

theorem Frame.InRange.add {frame : Frame} {value : Node} (inRange : frame.InRange)
    (valueInRange : value.InRange) : (frame.add value).InRange := by
  rcases frame with elements | ⟨members, _ | key⟩
  case array => exact List.forall_mem_cons.2 ⟨valueInRange, inRange⟩
  case object.none => exact inRange
  case object.some => exact List.forall_mem_cons.2 ⟨valueInRange, inRange⟩

theorem Frame.InRange.close {frame : Frame} {latest : Option Node} (inRange : frame.InRange)
    (latestInRange : ∀ value ∈ latest, value.InRange) (ending : Option Fault) :
    (frame.close latest ending).InRange := by
  cases frame with
  | array elements =>
    rw [Frame.close, Node.inRange_arr]
    intro element member
    rcases List.mem_append.1 (List.mem_reverse.1 member) with last | earlier
    · exact latestInRange element (Option.mem_toList.1 last)
    · exact inRange element earlier
  | object members key =>
    show (Node.obj _ ending).InRange
    rw [Node.inRange_obj]
    intro entry member
    rcases List.mem_append.1 (List.mem_reverse.1 member) with last | earlier
    · split at last
      · cases List.mem_singleton.1 last
        exact latestInRange _ rfl
      · cases last
    · exact inRange entry earlier

theorem inRange_atDepth {container : Node} (inRange : container.InRange) (depth : Nat) :
    (atDepth depth container).InRange := by
  rw [atDepth]
  split
  · exact inRange
  · trivial

theorem inRange_abandon {innermost : Node} {stack : List Frame} (inRange : innermost.InRange)
    (framesInRange : ∀ frame ∈ stack, frame.InRange) : (abandon innermost stack).InRange := by
  induction stack generalizing innermost with
  | nil => exact inRange
  | cons frame outer ih =>
    rw [List.forall_mem_cons] at framesInRange
    have latest : ∀ value ∈ some innermost, value.InRange := by
      intro value same
      cases same
      exact inRange
    exact ih (inRange_atDepth (framesInRange.1.close latest none) _) framesInRange.2

theorem inRange_endWith {stack : List Frame} (fault : Fault)
    (framesInRange : ∀ frame ∈ stack, frame.InRange) : (endWith fault stack).InRange := by
  cases stack with
  | nil => trivial
  | cons frame outer =>
    rw [List.forall_mem_cons] at framesInRange
    have closed : (frame.close none (some fault)).InRange :=
      framesInRange.1.close (by simp) (some fault)
    exact inRange_abandon (inRange_atDepth closed _) framesInRange.2

/-! ## Documents -/

variable {expected : Expectation} {root : Option Node} {stack : List Frame}

theorem inRange_atEnd (rootInRange : ∀ value ∈ root, value.InRange)
    (framesInRange : ∀ frame ∈ stack, frame.InRange) :
    (atEnd expected root stack).root.InRange := by
  unfold atEnd
  split
  · exact rootInRange _ rfl
  · exact inRange_abandon trivial framesInRange
  · exact inRange_abandon trivial framesInRange
  · exact inRange_endWith _ framesInRange

theorem inRange_atMisplaced (rootInRange : ∀ value ∈ root, value.InRange)
    (framesInRange : ∀ frame ∈ stack, frame.InRange) :
    (atMisplaced expected root stack).root.InRange := by
  unfold atMisplaced
  split
  · exact rootInRange _ rfl
  · exact inRange_abandon trivial framesInRange
  · exact inRange_abandon trivial framesInRange
  · exact inRange_abandon trivial framesInRange
  · exact inRange_endWith _ framesInRange

/-- What reading one token comes to, with `rest` still to be read: a value is placed, a container is
opened or closed, something else changes about what is expected, or the token is misplaced. -/
inductive Step (root : Option Node) (rest : List Token) : Token → List Frame → Document → Prop
  | plain {value : Node} {stack : List Frame} :
    Step root rest (.plain value) stack (resume root stack value rest)
  | quoted {key : Key} {value : Node} {stack : List Frame} :
    Step root rest (.quoted key value) stack (resume root stack value rest)
  | openedArray {token : Token} {stack : List Frame} {expected : Expectation} :
    Step root rest token stack (read expected root (.array [] :: stack) rest)
  | openedObject {token : Token} {stack : List Frame} {expected : Expectation} :
    Step root rest token stack (read expected root (.object [] none :: stack) rest)
  | closed {token : Token} {frame : Frame} {outer : List Frame} :
    Step root rest token (frame :: outer)
      (resume root outer (atDepth outer.length (frame.close none none)) rest)
  | named {token : Token} {members : List (Key × Node)} {before after : Option Key}
    {outer : List Frame} {expected : Expectation} :
    Step root rest token (.object members before :: outer)
      (read expected root (.object members after :: outer) rest)
  | passed {token : Token} {stack : List Frame} {expected : Expectation} :
    Step root rest token stack (read expected root stack rest)
  | misplaced {token : Token} {stack : List Frame} {expected : Expectation} :
    Step root rest token stack (atMisplaced expected root stack)

theorem step_read (expected : Expectation) (root : Option Node) (stack : List Frame)
    (token : Token) (rest : List Token) :
    Step root rest token stack (read expected root stack (token :: rest)) := by
  rw [read.eq_def]
  simp only
  split
  case h_1 | h_2 => exact .plain
  case h_3 | h_4 => exact .quoted
  case h_5 | h_6 => exact .openedArray
  case h_7 | h_8 => exact .openedObject
  case h_9 | h_10 | h_12 | h_14 => exact .closed
  case h_11 | h_13 | h_17 => exact .passed
  case h_15 | h_16 => exact .named
  case h_18 => exact .misplaced

/-- Reading keeps all numbers in range, whatever is expected next. -/
theorem inRange_read {text : List Token} (tokensInRange : ∀ token ∈ text, token.InRange)
    (rootInRange : ∀ value ∈ root, value.InRange)
    (framesInRange : ∀ frame ∈ stack, frame.InRange) :
    (read expected root stack text).root.InRange := by
  induction text generalizing expected root stack with
  | nil =>
    rw [read]
    exact inRange_atEnd rootInRange framesInRange
  | cons token rest ih =>
    rw [List.forall_mem_cons] at tokensInRange
    rcases tokensInRange with ⟨tokenInRange, restInRange⟩
    have resumed : ∀ {outer : List Frame} {value : Node}, value.InRange →
        (∀ frame ∈ outer, frame.InRange) → (resume root outer value rest).root.InRange := by
      intro outer value valueInRange outerInRange
      cases outer with
      | nil => exact ih restInRange (by simpa using valueInRange) outerInRange
      | cons frame outer =>
        rw [List.forall_mem_cons] at outerInRange
        apply ih restInRange rootInRange
        exact List.forall_mem_cons.2 ⟨outerInRange.1.add valueInRange, outerInRange.2⟩
    have step := step_read expected root stack token rest
    generalize read expected root stack (token :: rest) = document at step ⊢
    cases step with
    | plain => exact resumed tokenInRange framesInRange
    | quoted => exact resumed tokenInRange framesInRange
    | openedArray =>
      apply ih restInRange rootInRange
      exact List.forall_mem_cons.2 ⟨List.forall_mem_nil _, framesInRange⟩
    | openedObject =>
      apply ih restInRange rootInRange
      exact List.forall_mem_cons.2 ⟨List.forall_mem_nil _, framesInRange⟩
    | closed =>
      rw [List.forall_mem_cons] at framesInRange
      refine resumed (inRange_atDepth (framesInRange.1.close ?_ none) _) framesInRange.2
      simp
    | named =>
      rw [List.forall_mem_cons] at framesInRange
      apply ih restInRange rootInRange
      exact List.forall_mem_cons.2 framesInRange
    | passed => exact ih restInRange rootInRange framesInRange
    | misplaced => exact inRange_atMisplaced rootInRange framesInRange

theorem inRange_readDocument (text : String) : (readDocument text).root.InRange := by
  apply inRange_read
  · exact fun token member => inRange_of_mem_tokens member
  · exact fun _ absent => nomatch absent
  · exact List.forall_mem_nil _

end LogDrift.Json
