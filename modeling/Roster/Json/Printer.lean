import Roster.Json.Basic
import Roster.Number.Shortest

namespace Roster

def decimalDigits (n : Nat) : List Char :=
  if n < 10 then [Nat.digitChar n] else decimalDigits (n / 10) ++ [Nat.digitChar (n % 10)]

def integerText (z : Int) : List Char :=
  if z < 0 then '-' :: decimalDigits z.natAbs else decimalDigits z.natAbs

/-- A number is written positionally from `1e-5` up to below `1e16`, always with a fraction, and with a signed exponent
outside that range. -/
def Binary64.text (x : Binary64) : List Char :=
  let d := x.shortest
  let digits := decimalDigits d.digits
  let point := digits.length + d.exponent
  let sign := if x.negative then ['-'] else []
  sign ++
    if d.digits = 0 then ['0', '.', '0']
    else if -4 ≤ point ∧ point ≤ 16 then
      if 0 ≤ d.exponent then digits ++ List.replicate d.exponent.toNat '0' ++ ['.', '0']
      else if 0 < point then digits.take point.toNat ++ '.' :: digits.drop point.toNat
      else '0' :: '.' :: (List.replicate (-point).toNat '0' ++ digits)
    else
      let fraction := if digits.length = 1 then [] else '.' :: digits.drop 1
      digits.take 1 ++ fraction ++ 'e' :: (if 0 < point then '+' else '-') ::
        decimalDigits (point - 1).natAbs

namespace Json

def Number.text : Number → List Char
  | .integer z => integerText z
  | .binary x => x.text

def escapeChar (c : Char) : List Char :=
  if c = '"' then ['\\', '"']
  else if c = '\\' then ['\\', '\\']
  else if c = '\x08' then ['\\', 'b']
  else if c = '\t' then ['\\', 't']
  else if c = '\n' then ['\\', 'n']
  else if c = '\x0c' then ['\\', 'f']
  else if c = '\r' then ['\\', 'r']
  else if c.toNat < 0x20 then
    ['\\', 'u', '0', '0', Nat.digitChar (c.toNat / 16), Nat.digitChar (c.toNat % 16)]
  else [c]

def quote (s : String) : List Char :=
  '"' :: (s.toList.flatMap escapeChar ++ ['"'])

mutual
def text : Json → List Char
  | .null => ['n', 'u', 'l', 'l']
  | .bool true => ['t', 'r', 'u', 'e']
  | .bool false => ['f', 'a', 'l', 's', 'e']
  | .number x => x.text
  | .string s => quote s
  | .array items => '[' :: (textItems items ++ [']'])
  | .object members => '\x7b' :: (textMembers members ++ ['\x7d'])

def textItems : List Json → List Char
  | [] => []
  | [v] => text v
  | v :: rest => text v ++ ',' :: textItems rest

def textMembers : List (String × Json) → List Char
  | [] => []
  | [(k, v)] => quote k ++ ':' :: text v
  | (k, v) :: rest => quote k ++ ':' :: (text v ++ ',' :: textMembers rest)
end

def compact (v : Json) : String := .ofList v.text

def newline (level : Nat) : List Char := '\n' :: List.replicate (2 * level) ' '

mutual
def lines (level : Nat) : Json → List Char
  | .array [] => ['[', ']']
  | .array items => '[' :: (lineItems (level + 1) items ++ newline level ++ [']'])
  | .object [] => ['\x7b', '\x7d']
  | .object members => '\x7b' :: (lineMembers (level + 1) members ++ newline level ++ ['\x7d'])
  | .null => text .null
  | .bool b => text (.bool b)
  | .number x => x.text
  | .string s => quote s

def lineItems (level : Nat) : List Json → List Char
  | [] => []
  | [v] => newline level ++ lines level v
  | v :: rest => newline level ++ lines level v ++ ',' :: lineItems level rest

def lineMembers (level : Nat) : List (String × Json) → List Char
  | [] => []
  | [(k, v)] => newline level ++ quote k ++ ':' :: ' ' :: lines level v
  | (k, v) :: rest =>
    newline level ++ quote k ++ ':' :: ' ' :: (lines level v ++ ',' :: lineMembers level rest)
end

def pretty (v : Json) : String := .ofList (lines 0 v)

end Json

end Roster
