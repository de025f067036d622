import Roster.Json.Quoted

namespace Roster.Json.Reader

def element (first : Bool) : Reader Bool := do
  match ← next with
  | none => failNext .endInList
  | some 0x5D => pure false
  | some b =>
    if first then pure true
    else if b = 0x2C then
      advance
      match ← next with
      | none => failNext .endInValue
      | some 0x5D => failNext .trailingComma
      | some _ => pure true
    else failNext .expectedCommaOrBracket

def member (first : Bool) : Reader Bool := do
  match ← next with
  | none => failNext .endInObject
  | some 0x7D => pure false
  | some b =>
    if first then
      if b = 0x22 then pure true else failNext .keyNotString
    else if b = 0x2C then
      advance
      match ← next with
      | none => failNext .endInValue
      | some 0x7D => failNext .trailingComma
      | some 0x22 => pure true
      | some _ => failNext .keyNotString
    else failNext .expectedCommaOrBrace

def colon : Reader Unit := do
  match ← next with
  | none => failNext .endInObject
  | some 0x3A => advance
  | some _ => failNext .expectedColon

def key : Reader String := do
  advance
  quoted

def closeArray : Reader Unit := do
  match ← next with
  | none => failNext .endInList
  | some 0x5D => advance
  | some 0x2C =>
    advance
    match ← next with
    | some 0x5D => failNext .trailingComma
    | _ => failNext .trailingCharacters
  | some _ => failNext .trailingCharacters

def closeObject : Reader Unit := do
  match ← next with
  | none => failNext .endInObject
  | some 0x7D => advance
  | some 0x2C => failNext .trailingComma
  | some _ => failNext .trailingCharacters

def leaveArray (input : List UInt8) : List UInt8 :=
  match input.dropWhile isSpace with
  | 0x5D :: rest => rest
  | 0x2C :: rest => rest.dropWhile isSpace
  | rest => rest

def leaveObject (input : List UInt8) : List UInt8 :=
  match input.dropWhile isSpace with
  | 0x7D :: rest => rest
  | rest => rest

/-- Runs `body` between brackets, the first of which comes next. A failure without a place gets the one where the
container is left. -/
def bracketed (body : Reader α) (close : Reader Unit) (leave : List UInt8 → List UInt8) :
    Reader α := fun input =>
  match body (input.drop 1) with
  | .ok (a, rest) => (do close; pure a : Reader α) rest
  | .error (.pending cause rest) => .error (.placed (.mismatch cause) (leave rest).length)
  | .error stop => .error stop

/-- The elements up to the closing bracket. There is a step for each byte from the opening bracket on. -/
def elements (item : Reader α) :
    (steps : List UInt8) → (first : Bool) → (gathered : List α) → Reader (List α)
  | [], _, _ => failHere .endInList
  | _ :: steps, first, gathered => fun input =>
    match element first input with
    | .error stop => .error stop
    | .ok (false, rest) => .ok (gathered.reverse, rest)
    | .ok (true, rest) =>
      match item rest with
      | .error stop => .error stop
      | .ok (a, rest) => elements item steps false (a :: gathered) rest

def members (item : String → β → Reader β) :
    (steps : List UInt8) → (first : Bool) → (gathered : β) → Reader β
  | [], _, _ => failHere .endInObject
  | _ :: steps, first, gathered => fun input =>
    match member first input with
    | .error stop => .error stop
    | .ok (false, rest) => .ok (gathered, rest)
    | .ok (true, rest) =>
      match (do let k ← key; item k gathered : Reader β) rest with
      | .error stop => .error stop
      | .ok (gathered, rest) => members item steps false gathered rest

def arrayOf (item : Reader α) : Reader (List α) := fun input =>
  bracketed (elements item input true []) closeArray leaveArray input

def objectOf (item : String → β → Reader β) (init : β) : Reader β := fun input =>
  bracketed (members item input true init) closeObject leaveObject input

end Roster.Json.Reader
