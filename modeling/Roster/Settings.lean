import Roster.Text.Blank

/-! A file of settings.  A line `KEY=value` makes one.  A value ends at a blank, unless it is quoted, and it may refer to
what has been set before. -/

namespace Roster.Settings

inductive Scan
  | margin
  | plain
  | blank
  | escape
  | quoted (mark : Char)
  | quotedEscape (mark : Char)
  | comment
  deriving DecidableEq, Repr

namespace Scan

def bare (c : Char) : Scan :=
  if c = '\\' then .escape
  else if c = '"' ∨ c = '\'' then .quoted c
  else .plain

/-- A comment starts at the margin or right after a blank. A blank that follows a blank is plain. -/
def next : Scan → Char → Scan
  | .margin, c => if c = '#' then .comment else if Text.isBlank c then .margin else bare c
  | .plain, c => if Text.isBlank c ∧ c ≠ '\n' ∧ c ≠ '\r' then .blank else bare c
  | .blank, c => if c = '#' then .comment else bare c
  | .escape, _ => .plain
  | .quoted mark, c =>
    if c = '\\' then .quotedEscape mark else if c = mark then .plain else .quoted mark
  | .quotedEscape mark, _ => .quoted mark
  | .comment, _ => .comment

def closed : Scan → Bool
  | .margin | .plain | .comment => true
  | _ => false

end Scan

/-- The lines without their comments; `line` holds what has been read of the first, backwards. A line that is open when
the file ends does not count. -/
def lines : (scan : Scan) → (line : List Char) → List Char → List (List Char)
  | scan, line, [] => if scan.closed then [line.reverse] else []
  | scan, line, c :: cs =>
    let scan := scan.next c
    if c = '\n' ∧ scan.closed then line.reverse :: lines .margin [] cs
    else lines scan (if scan = .comment then line else c :: line) cs

inductive Part
  | char (c : Char)
  | reference (name : String)
  deriving DecidableEq, Repr

/-- What a value is in the middle of; `double` says whether that is between double quotes. A name is kept backwards. -/
inductive Within
  | text (double : Bool)
  | single
  | escape (double : Bool)
  | name (double : Bool) (name : List Char)
  | braces (double : Bool) (name : List Char)
  | ending
  deriving DecidableEq, Repr

def Part.ofName (name : List Char) : Part := .reference (.ofList name.reverse)

def isNameChar (c : Char) : Bool := c.isAlphanum || 0x80 ≤ c.toNat

def shielded? (c : Char) : Option Char :=
  if c = 'n' then some '\n'
  else if c ∈ ['\\', '\'', '"', '$', ' '] then some c
  else none

def value? : Within → List Char → Option (List Part)
  | .text false, [] | .escape false, [] | .ending, [] => some []
  | .name false name, [] => some [.ofName name]
  | _, [] => none
  | .ending, c :: cs =>
    if c = ' ' ∨ c = '\t' then value? .ending cs else if c = '#' then some [] else none
  | .escape double, c :: cs => do
    let shielded ← shielded? c
    return .char shielded :: (← value? (.text double) cs)
  | .single, c :: cs =>
    if c = '\'' then value? (.text false) cs
    else (value? .single cs).map (.char c :: ·)
  | .name double name, c :: cs =>
    if isNameChar c then value? (.name double (c :: name)) cs
    else if c = '\x7b' ∧ name = [] then value? (.braces double []) cs
    else if c = '$' then (value? (.name double []) cs).map (.ofName name :: ·)
    else (value? (.text double) cs).map fun parts => .ofName name :: .char c :: parts
  | .braces double name, c :: cs =>
    if c = '\x7d' then (value? (.text double) cs).map (.ofName name :: ·)
    else value? (.braces double (c :: name)) cs
  | .text double, c :: cs =>
    if c = '$' then value? (.name double []) cs
    else if c = '\\' then value? (.escape double) cs
    else if c = '"' then value? (.text !double) cs
    else if !double ∧ c = '\'' then value? .single cs
    else if !double ∧ (c = ' ' ∨ c = '\t') then value? .ending cs
    else (value? (.text double) cs).map (.char c :: ·)

def isKeyStart (c : Char) : Bool := c.isAlpha || c = '_'
def isKeyChar (c : Char) : Bool := c.isAlphanum || c = '_' || c = '.'

def trimStart (cs : List Char) : List Char := cs.dropWhile Text.isBlank

def key? (cs : List Char) : Option (String × List Char) :=
  if cs.head?.any isKeyStart then
    some (.ofList (cs.takeWhile isKeyChar), trimStart (cs.dropWhile isKeyChar))
  else none

def assignment? (line : List Char) : Option (String × List Char) := do
  match ← key? line with
  | (key, '=' :: value) => some (key, value)
  | ("export", rest) =>
    match ← key? rest with
    | (key, '=' :: value) => some (key, value)
    | _ => none
  | _ => none

structure Setting where
  key : String
  value : List Part
  deriving DecidableEq, Repr

def setting? (line : List Char) : Option Setting := do
  let (key, value) ← assignment? line
  match trimStart value with
  | [] | '#' :: _ => some ⟨key, []⟩
  | value => return ⟨key, ← value? (.text false) value⟩

/-- The settings on lines that may be blank. Nothing counts from the first other line on. -/
def ofLines : List (List Char) → List Setting
  | [] => []
  | line :: lines =>
    let line := (Text.trim (.ofList line)).toList
    if line = [] then ofLines lines
    else match setting? line with
      | some setting => setting :: ofLines lines
      | none => []

def ofText (text : String) : List Setting :=
  match text.toList with
  | '\uFEFF' :: cs | cs => ofLines (lines .margin [] cs)

def references (settings : List Setting) : List String :=
  settings.flatMap fun setting => setting.value.filterMap fun
    | .char _ => none
    | .reference name => some name

def Part.text (lookup : String → Option String) : Part → String
  | .char c => .singleton c
  | .reference name => (lookup name).getD ""

/-- Looks a name up in the environment, and then among the settings, where the first of a name counts. -/
def lookup (environment : String → Option String) (values : List (String × String)) (name : String) :
    Option String :=
  (environment name).or (values.lookup name)

def values (environment : String → Option String) (known : List (String × String)) :
    List Setting → List (String × String)
  | [] => known
  | setting :: settings =>
    let value := String.join (setting.value.map (Part.text (lookup environment known)))
    values environment (known ++ [(setting.key, value)]) settings

end Roster.Settings
