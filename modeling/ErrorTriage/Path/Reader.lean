import ErrorTriage.Path.Step
import ErrorTriage.Text.Letter
import ErrorTriage.Text.Blank

/-!
# Path.Reader — reading the steps of a path

A path is an optional name and then steps: a point and a name, or an index in brackets or
parentheses.  Blanks are allowed around the path and inside the brackets, nowhere else.

A fault is found at a place, which is kept as the rest of the text from there on; its byte position
is what the text is longer than that rest.
-/

namespace ErrorTriage

/-- Why a text is not a path. -/
inductive PathFault where
  /-- No name where one has to start. -/
  | expectedName
  /-- Something after the blanks that end a path. -/
  | afterBlank (found : Char)
  /-- A character that starts no step. -/
  | unexpected (found : Char)
  /-- A textual index without its closing quote. -/
  | unterminated
  /-- A sign without digits, or a number beyond 64 bits. -/
  | invalidInteger (digits : String)
  /-- A character that starts no index. -/
  | unexpectedInIndex (found : Char)
  /-- The text ends where an index has to start. -/
  | missingIndex
  /-- An index that is not followed by its closing character. -/
  | expectedClose (close : Char) (found : Option Char)
deriving DecidableEq, Repr

def PathFault.reason : PathFault → String
  | .expectedName => "Expected a member name"
  | .afterBlank found => "Unexpected '" ++ found.toString ++ "' after whitespace"
  | .unexpected found => "Unexpected character '" ++ found.toString ++ "'"
  | .unterminated => "Unterminated string index"
  | .invalidInteger digits => "Invalid integer index '" ++ digits ++ "'"
  | .unexpectedInIndex found => "Unexpected '" ++ found.toString ++ "' in index"
  | .missingIndex => "Missing index"
  | .expectedClose close none => "Expected '" ++ close.toString ++ "'"
  | .expectedClose close (some found) =>
    "Expected '" ++ close.toString ++ "', found '" ++ found.toString ++ "'"

namespace Path

/-- A fault and the rest of the text at the place where it was found. -/
structure Stop where
  rest : List Char
  fault : PathFault
deriving DecidableEq, Repr

/-- A name starts with a letter or an underscore. -/
def isNameStart (c : Char) : Bool :=
  Text.isAlphabetic c || c == '_'

/-- A name goes on with letters, numbers and underscores. -/
def isNamePart (c : Char) : Bool :=
  Text.isAlphanumeric c || c == '_'

theorem isNamePart_of_isNameStart {c : Char} (h : isNameStart c = true) :
    isNamePart c = true := by
  rcases Bool.or_eq_true _ _ ▸ h with h | h
  · simp [isNamePart, Text.isAlphanumeric_of_isAlphabetic h]
  · simp [isNamePart, h]

def takeName (cs : List Char) : Except Stop (String × List Char) :=
  match cs with
  | c :: _ =>
    if isNameStart c then
      .ok (String.ofList (cs.takeWhile isNamePart), cs.dropWhile isNamePart)
    else .error ⟨cs, .expectedName⟩
  | [] => .error ⟨[], .expectedName⟩

/-- The sign and digits at the front. -/
def integerToken : List Char → List Char × List Char
  | c :: rest =>
    if c = '-' ∨ c = '+' then (c :: rest.takeWhile Char.isDigit, rest.dropWhile Char.isDigit)
    else ((c :: rest).takeWhile Char.isDigit, (c :: rest).dropWhile Char.isDigit)
  | [] => ([], [])

/-- Takes an index without the blanks around it and the closing character. -/
def takeBareIndex (cs : List Char) : Except Stop (Index × List Char) :=
  match cs with
  | [] => .error ⟨[], .missingIndex⟩
  | c :: rest =>
    if c = '\'' ∨ c = '"' then
      match rest.dropWhile (· ≠ c) with
      | [] => .error ⟨cs, .unterminated⟩
      | _ :: tail => .ok (.str (String.ofList (rest.takeWhile (· ≠ c))), tail)
    else if c.isDigit ∨ c = '-' ∨ c = '+' then
      let token := integerToken cs
      match Integer.read64 token.1 with
      | .ok n => .ok (.int n, token.2)
      | .error _ => .error ⟨cs, .invalidInteger (String.ofList token.1)⟩
    else .error ⟨cs, .unexpectedInIndex c⟩

/-- Takes an index with the blanks around it and the closing character. -/
def takeIndex (close : Char) (cs : List Char) : Except Stop (Index × List Char) :=
  match takeBareIndex (Text.trimFront cs) with
  | .error stop => .error stop
  | .ok (index, rest) =>
    match Text.trimFront rest with
    | [] => .error ⟨[], .expectedClose close none⟩
    | c :: tail =>
      if c = close then .ok (index, tail) else .error ⟨c :: tail, .expectedClose close (some c)⟩

/-! ## Every part takes at least one character -/

theorem length_dropWhile_le {p : Char → Bool} (cs : List Char) :
    (cs.dropWhile p).length ≤ cs.length :=
  (List.dropWhile_sublist p).length_le

/-- A name that is read takes something off the text. -/
theorem length_takeName {cs : List Char} {name : String} {rest : List Char}
    (h : takeName cs = .ok (name, rest)) : rest.length < cs.length := by
  cases cs with
  | nil => simp [takeName] at h
  | cons c tail =>
    simp only [takeName] at h
    split at h
    · next hc =>
      simp only [Except.ok.injEq, Prod.mk.injEq] at h
      rw [← h.2, List.dropWhile_cons, if_pos (isNamePart_of_isNameStart hc)]
      exact Nat.lt_succ_of_le (length_dropWhile_le tail)
    · simp at h

theorem length_integerToken (cs : List Char) : (integerToken cs).2.length ≤ cs.length := by
  cases cs with
  | nil => simp [integerToken]
  | cons c rest =>
    simp only [integerToken]
    split
    · exact Nat.le_succ_of_le (length_dropWhile_le rest)
    · exact length_dropWhile_le (c :: rest)

theorem length_takeBareIndex {cs : List Char} {index : Index} {rest : List Char}
    (h : takeBareIndex cs = .ok (index, rest)) : rest.length ≤ cs.length := by
  cases cs with
  | nil => simp [takeBareIndex] at h
  | cons c tail =>
    simp only [takeBareIndex] at h
    split at h
    · split at h
      · simp at h
      · next heq =>
        simp only [Except.ok.injEq, Prod.mk.injEq] at h
        have := length_dropWhile_le (p := (· ≠ c)) tail
        rw [heq] at this
        rw [← h.2]
        simp only [List.length_cons] at this ⊢
        omega
    · split at h
      · split at h
        · simp only [Except.ok.injEq, Prod.mk.injEq] at h
          rw [← h.2]
          exact length_integerToken _
        · simp at h
      · simp at h

/-- An index that is read takes at least its closing character off the text. -/
theorem length_takeIndex {close : Char} {cs : List Char} {index : Index} {rest : List Char}
    (h : takeIndex close cs = .ok (index, rest)) : rest.length < cs.length := by
  simp only [takeIndex] at h
  split at h
  · simp at h
  · next index' rest' hbare =>
    split at h
    · simp at h
    · next c tail htrim =>
      split at h
      · simp only [Except.ok.injEq, Prod.mk.injEq] at h
        have h1 := length_takeBareIndex hbare
        have h2 : (Text.trimFront cs).length ≤ cs.length := length_dropWhile_le cs
        have h3 : (Text.trimFront rest').length ≤ rest'.length := length_dropWhile_le rest'
        rw [htrim] at h3
        rw [← h.2]
        simp only [List.length_cons] at h3
        omega
      · simp at h

/-! ## Paths -/

/-- Takes steps until the text is used up. -/
def takeSteps (cs : List Char) : Except Stop (List Step) :=
  match cs with
  | [] => .ok []
  | c :: rest =>
    if c = '.' then
      match _h : takeName rest with
      | .error stop => .error stop
      | .ok (name, tail) => (takeSteps tail).map (.member name :: ·)
    else if c = '[' ∨ c = '(' then
      match _h : takeIndex (if c = '[' then ']' else ')') rest with
      | .error stop => .error stop
      | .ok (index, tail) => (takeSteps tail).map (.index index :: ·)
    else if Text.isBlank c then
      match Text.trimFront rest with
      | [] => .ok []
      | d :: tail => .error ⟨d :: tail, .afterBlank d⟩
    else .error ⟨c :: rest, .unexpected c⟩
termination_by cs.length
decreasing_by
  · exact Nat.lt_succ_of_lt (length_takeName _h)
  · exact Nat.lt_succ_of_lt (length_takeIndex _h)

def takePath (cs : List Char) : Except Stop (List Step) :=
  match Text.trimFront cs with
  | [] => .ok []
  | c :: rest =>
    if isNameStart c then
      match takeName (c :: rest) with
      | .error stop => .error stop
      | .ok (name, tail) => (takeSteps tail).map (.member name :: ·)
    else takeSteps (c :: rest)

def byteLength : List Char → Nat
  | [] => 0
  | c :: rest => c.utf8Size + byteLength rest

end Path

/-- A text that is not a path, with the place and the cause. -/
structure PathSyntaxError where
  expression : String
  position : Nat
  fault : PathFault
deriving DecidableEq, Repr

def PathSyntaxError.message (e : PathSyntaxError) : String :=
  "Invalid path expression '" ++ e.expression ++ "' at position " ++ toString e.position ++ ": "
    ++ e.fault.reason

def Path.readSteps (text : String) : Except PathSyntaxError (List Step) :=
  match Path.takePath text.toList with
  | .ok steps => .ok steps
  | .error stop =>
    .error ⟨text, Path.byteLength text.toList - Path.byteLength stop.rest, stop.fault⟩

end ErrorTriage
