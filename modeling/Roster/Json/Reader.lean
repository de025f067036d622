import Roster.Json.Mismatch
import Roster.Text.Utf8

/-! Readers of JSON texts.  A reader takes the bytes that are left and gives back what it read and the bytes after it.
A failure knows where it happened by the number of bytes that were left there. -/

namespace Roster.Json

inductive Problem
  | endInValue
  | endInList
  | endInObject
  | endInString
  | expectedValue
  | expectedWord
  | expectedColon
  | expectedCommaOrBracket
  | expectedCommaOrBrace
  | trailingComma
  | trailingCharacters
  | keyNotString
  | invalidNumber
  | numberOutOfRange
  | controlCharacter
  | invalidEscape
  | invalidCodePoint
  | loneSurrogate
  | endOfHexEscape
  | recursionLimit
  | mismatch (cause : Mismatch)
  deriving DecidableEq, Repr

def Problem.message : Problem → String
  | .endInValue => "EOF while parsing a value"
  | .endInList => "EOF while parsing a list"
  | .endInObject => "EOF while parsing an object"
  | .endInString => "EOF while parsing a string"
  | .expectedValue => "expected value"
  | .expectedWord => "expected ident"
  | .expectedColon => "expected `:`"
  | .expectedCommaOrBracket => "expected `,` or `]`"
  | .expectedCommaOrBrace => "expected `,` or `\x7d`"
  | .trailingComma => "trailing comma"
  | .trailingCharacters => "trailing characters"
  | .keyNotString => "key must be a string"
  | .invalidNumber => "invalid number"
  | .numberOutOfRange => "number out of range"
  | .controlCharacter => "control character (\\u0000-\\u001F) found while parsing a string"
  | .invalidEscape => "invalid escape"
  | .invalidCodePoint => "invalid unicode code point"
  | .loneSurrogate => "lone leading surrogate in hex escape"
  | .endOfHexEscape => "unexpected end of hex escape"
  | .recursionLimit => "recursion limit exceeded"
  | .mismatch cause => cause.message

/-- A problem that a record finds while it is being read has no place until the record has been left. -/
inductive Stop
  | placed (problem : Problem) (left : Nat)
  | pending (cause : Mismatch) (rest : List UInt8)
  deriving DecidableEq, Repr

abbrev Reader (α : Type) := StateT (List UInt8) (Except Stop) α

namespace Reader

def failHere (p : Problem) : Reader α := fun input => .error (.placed p input.length)

def failNext (p : Problem) : Reader α := fun input => .error (.placed p (input.length - 1))

def isSpace (b : UInt8) : Bool := b = 0x20 || b = 0x09 || b = 0x0A || b = 0x0D

def next : Reader (Option UInt8) := fun input =>
  let rest := input.dropWhile isSpace
  .ok (rest.head?, rest)

def peek : Reader (Option UInt8) := fun input => .ok (input.head?, input)

def advance : Reader Unit := fun input => .ok ((), input.drop 1)

def word : List UInt8 → Reader Unit
  | [] => pure ()
  | b :: bs => fun input =>
    match input with
    | [] => .error (.placed .endInValue 0)
    | c :: rest => if c = b then word bs rest else .error (.placed .expectedWord rest.length)

def wordNull : Reader Unit := word [0x75, 0x6C, 0x6C]
def wordTrue : Reader Unit := word [0x72, 0x75, 0x65]
def wordFalse : Reader Unit := word [0x61, 0x6C, 0x73, 0x65]

end Reader

end Roster.Json
