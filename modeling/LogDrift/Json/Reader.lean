import LogDrift.Json.Token

/-!
# Reading JSON text

A text is cut into tokens, and a machine with a stack of the open containers turns the tokens into a
tree. What is nested too deeply stays readable for whoever passes over it, but cannot be used.
-/

namespace LogDrift.Json

theorem spanDigits_length (text : List Char) :
    (Decimal.spanDigits text).2.length ≤ text.length := by
  unfold Decimal.spanDigits
  exact (List.dropWhile_suffix _).length_le

theorem scanWord_length (word : List Char) (value : Node) (text : List Char) :
    (scanWord word value text).2.length ≤ text.length := by
  fun_induction scanWord word value text <;> grind

theorem scanQuoted_length (text : List Char) : (scanQuoted text).2.length ≤ text.length := by
  unfold scanQuoted
  grind [→ scanString_length]

theorem Numeral.scanWhole_length {text digits rest : List Char}
    (found : scanWhole text = .ok (digits, rest)) : rest.length < text.length := by
  have spans : (Decimal.spanDigits text).1 ++ (Decimal.spanDigits text).2 = text := by
    simp [Decimal.spanDigits, List.takeWhile_append_dropWhile]
  have total := congrArg List.length spans
  unfold scanWhole missing at found
  have positive := @List.length_pos_iff Char (Decimal.spanDigits text).1
  grind

theorem Numeral.scanFraction_length {text digits rest : List Char}
    (found : scanFraction text = .ok (digits, rest)) : rest.length ≤ text.length := by
  unfold scanFraction missing at found
  grind [spanDigits_length]

theorem Numeral.scanExponent_length {text rest : List Char} {exponent : Option (Bool × List Char)}
    (found : scanExponent text = .ok (exponent, rest)) : rest.length ≤ text.length := by
  unfold scanExponent missing at found
  grind [spanDigits_length]

theorem Numeral.scan_length {text rest : List Char} {numeral : Numeral}
    (found : scan text = .ok (numeral, rest)) : rest.length < text.length := by
  simp only [scan, bind, Except.bind, pure, Except.pure] at found
  grind [→ scanWhole_length, → scanFraction_length, → scanExponent_length]

theorem scanNumber_length (c : Char) (rest : List Char) :
    (scanNumber (c :: rest)).2.length ≤ rest.length := by
  unfold scanNumber
  split
  · simp
  · simp
  · next found =>
    have := Numeral.scan_length found
    grind

theorem scanToken_length (c : Char) (rest : List Char) :
    (scanToken c rest).2.length ≤ rest.length := by
  unfold scanToken
  grind [scanQuoted_length, scanWord_length, scanNumber_length]

/-- The tokens of a text. -/
def tokens : List Char → List Token
  | [] => []
  | c :: rest =>
    if isSpace c then tokens rest
    else (scanToken c rest).1 :: tokens (scanToken c rest).2
termination_by text => text.length
decreasing_by
  · simp
  · have := scanToken_length c rest
    simp only [List.length_cons]
    omega

/-- How deep containers may be nested for their values to be usable. -/
def depthLimit : Nat := 127

/-- A container that is being read, its latest content first. -/
inductive Frame
  | array (elements : List Node)
  | object (members : List (Key × Node)) (key : Option Key)

/-- What has to come next. -/
inductive Expectation
  | value
  | elementOrEnd
  | separator
  | keyOrEnd
  | key
  | colon
  deriving DecidableEq

/-- A container that `depth` containers enclose. -/
def atDepth (depth : Nat) (container : Node) : Node :=
  if depth < depthLimit then container else .unusable .syntaxError container

/-- A container as far as it is read, with `latest` inside it. -/
def Frame.close (latest : Option Node) (ending : Option Fault) : Frame → Node
  | array elements => .arr (latest.toList ++ elements).reverse ending
  | object members key =>
    let last := match key, latest with
      | some key, some value => [(key, value)]
      | _, _ => []
    .obj (last ++ members).reverse ending

/-- The tree when nothing more can be read: `innermost` is the last thing in the innermost open
container, and every container around it stays unfinished. -/
def abandon (innermost : Node) : List Frame → Node
  | [] => innermost
  | frame :: outer => abandon (atDepth outer.length (frame.close (some innermost) none)) outer

/-- The tree when the innermost container ends with a fault. -/
def endWith (fault : Fault) : List Frame → Node
  | [] => .broken fault
  | frame :: outer => abandon (atDepth outer.length (frame.close none (some fault))) outer

/-- A text as a tree, and the fault that follows a complete value. -/
structure Document where
  root : Node
  trailing : Option Fault

/-- A value inside the innermost container. -/
def Frame.add (value : Node) : Frame → Frame
  | array elements => .array (value :: elements)
  | object members (some key) => .object ((key, value) :: members) none
  | object members none => .object members none

/-- The document when the text ends. -/
def atEnd (expected : Expectation) (root : Option Node) (stack : List Frame) : Document :=
  match expected, root, stack with
  | .separator, some root, [] => ⟨root, none⟩
  | .value, _, stack => ⟨abandon (.broken .eof) stack, none⟩
  | .colon, _, stack => ⟨abandon (.broken .eof) stack, none⟩
  | _, _, stack => ⟨endWith .eof stack, none⟩

/-- The document when a token stands where it may not. -/
def atMisplaced (expected : Expectation) (root : Option Node) (stack : List Frame) : Document :=
  match expected, root, stack with
  | .separator, some root, [] => ⟨root, some .syntaxError⟩
  | .value, _, stack => ⟨abandon (.broken .syntaxError) stack, none⟩
  | .colon, _, stack => ⟨abandon (.broken .syntaxError) stack, none⟩
  | .elementOrEnd, _, stack => ⟨abandon (.broken .syntaxError) stack, none⟩
  | _, _, stack => ⟨endWith .syntaxError stack, none⟩

/-- Reads tokens. `root` is the finished outermost value, once there is one. -/
def read : Expectation → Option Node → List Frame → List Token → Document
  | expected, root, stack, [] => atEnd expected root stack
  | expected, root, stack, token :: rest =>
    let place (value : Node) : Document :=
      match stack with
      | [] => read .separator (some value) [] rest
      | frame :: outer => read .separator root (frame.add value :: outer) rest
    let finish (container : Node) (outer : List Frame) : Document :=
      match outer with
      | [] => read .separator (some container) [] rest
      | frame :: outer => read .separator root (frame.add container :: outer) rest
    match expected, token, stack with
    | .value, .plain value, _ | .elementOrEnd, .plain value, _ => place value
    | .value, .quoted _ value, _ | .elementOrEnd, .quoted _ value, _ => place value
    | .value, .openArray, _ | .elementOrEnd, .openArray, _ =>
      read .elementOrEnd root (.array [] :: stack) rest
    | .value, .openObject, _ | .elementOrEnd, .openObject, _ =>
      read .keyOrEnd root (.object [] none :: stack) rest
    | .elementOrEnd, .closeArray, frame :: outer =>
      finish (atDepth outer.length (frame.close none none)) outer
    | .separator, .closeArray, .array elements :: outer =>
      finish (atDepth outer.length ((Frame.array elements).close none none)) outer
    | .separator, .comma, .array elements :: outer =>
      read .value root (.array elements :: outer) rest
    | .separator, .closeObject, .object members key :: outer =>
      finish (atDepth outer.length ((Frame.object members key).close none none)) outer
    | .separator, .comma, .object members key :: outer =>
      read .key root (.object members key :: outer) rest
    | .keyOrEnd, .closeObject, frame :: outer =>
      finish (atDepth outer.length (frame.close none none)) outer
    | .keyOrEnd, .quoted key _, .object members _ :: outer =>
      read .colon root (.object members (some key) :: outer) rest
    | .key, .quoted key _, .object members _ :: outer =>
      read .colon root (.object members (some key) :: outer) rest
    | .colon, .colon, stack => read .value root stack rest
    | expected, _, stack => atMisplaced expected root stack

/-- The tree of a text. -/
def readDocument (text : String) : Document :=
  read .value none [] (tokens text.toList)

/-- The value of a text, with the members of objects sorted. -/
def parse (text : String) : Except Fault Json :=
  let document := readDocument text
  match document.root.value, document.trailing with
  | .error fault, _ => .error fault
  | .ok _, some fault => .error fault
  | .ok value, none => .ok value.canonical

end LogDrift.Json
