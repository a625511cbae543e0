import AuthsProof.Lib.Radix
import AuthsProof.Lib.Scan
import AuthsProof.Lib.Utf8
import AuthsProof.Oidc.Identity

/-! The JSON of token headers and payloads: one flat object of strings, unsigned integers and arrays of
one string, and the parser that accepts exactly these. -/

namespace AuthsProof.Oidc

open Scan

inductive JsonValue where
  | string (text : String)
  | integer (value : UInt64)
  | oneStringArray (text : String)
  deriving DecidableEq

/-! ## The parser -/

abbrev Parser (α : Type) := Scanner ClaimError α

def isWhitespace (b : UInt8) : Bool := b == 0x20 || b == 0x0A || b == 0x0D || b == 0x09

def isDigit (b : UInt8) : Bool := 0x30 ≤ b && b ≤ 0x39

def ws (fuel : Nat) : Parser Unit := skipWhile isWhitespace fuel

def byte (expected : UInt8) : Parser Unit := do
  check ((← peek) = some expected) .syntaxError
  advance 1

/-- The number that `u64` parsing makes of a text. -/
def parseU64 (text : String) : Option UInt64 := (Radix.read 10 (2 ^ 64) text.toList).map UInt64.ofNat

def integer (fuel : Nat) : Parser UInt64 := do
  let start ← cursor
  skipWhile isDigit fuel
  let bytes ← orRefuse .syntaxError (← slice start (← cursor))
  if 1 < bytes.length then
    check ((← index bytes 0) ≠ 0x30) .syntaxError
  let text ← orRefuse .syntaxError (String.fromUTF8? ⟨⟨bytes⟩⟩)
  orRefuse .invalidValue (parseU64 text)

def hex (b : UInt8) : Option UInt8 :=
  if 0x30 ≤ b ∧ b ≤ 0x39 then some (b - 0x30)
  else if 0x61 ≤ b ∧ b ≤ 0x66 then some (b - 0x61 + 10)
  else if 0x41 ≤ b ∧ b ≤ 0x46 then some (b - 0x41 + 10)
  else none

def checkedMul (value factor : UInt16) : Option UInt16 :=
  if value.toNat * factor.toNat < 2 ^ 16 then some (value * factor) else none

def hexValue (bytes : List UInt8) : Option UInt16 :=
  bytes.foldlM (fun value b => do
    let scaled ← checkedMul value 16
    let digit ← hex b
    pure (scaled + digit.toUInt16)) 0

def hex4 : Parser UInt16 := do
  let start ← cursor
  let bytes ← orRefuse .syntaxError (← slice start (start + 4))
  advance 4
  orRefuse .syntaxError (hexValue bytes)

def isHighSurrogate (unit : UInt16) : Prop := 0xD800 ≤ unit ∧ unit ≤ 0xDBFF

def isLowSurrogate (unit : UInt16) : Prop := 0xDC00 ≤ unit ∧ unit ≤ 0xDFFF

instance (unit : UInt16) : Decidable (isHighSurrogate unit) := inferInstanceAs (Decidable (_ ∧ _))

instance (unit : UInt16) : Decidable (isLowSurrogate unit) := inferInstanceAs (Decidable (_ ∧ _))

/-- The scalar of a pair of surrogates. -/
def pairScalar (first second : UInt16) : Nat :=
  0x10000 + (first.toNat - 0xD800) <<< 10 + (second.toNat - 0xDC00)

def fromU32 (scalar : Nat) : Option Char :=
  if scalar.isValidChar then some (Char.ofNat scalar) else none

def unicodeScalar : Parser Nat := do
  let first ← hex4
  if isHighSurrogate first then
    let start ← cursor
    check ((← slice start (start + 2)) = some [0x5C, 0x75]) .syntaxError
    advance 2
    let second ← hex4
    check (isLowSurrogate second) .syntaxError
    pure (pairScalar first second)
  else if isLowSurrogate first then
    refuse .syntaxError
  else
    pure first.toNat

/-- The escapes of one letter. -/
def letterEscape (b : UInt8) : Option Char :=
  match b.toNat with
  | 0x22 => some '"'
  | 0x5C => some '\\'
  | 0x2F => some '/'
  | 0x62 => some (Char.ofNat 0x08)
  | 0x66 => some (Char.ofNat 0x0C)
  | 0x6E => some '\n'
  | 0x72 => some '\r'
  | 0x74 => some '\t'
  | _ => none

def escape (output : String) : Parser String := do
  let letter ← orRefuse .syntaxError (← peek)
  advance 1
  if letter = 0x75 then
    let scalar ← unicodeScalar
    let c ← orRefuse .syntaxError (fromU32 scalar)
    pure (output.push c)
  else
    let c ← orRefuse .syntaxError (letterEscape letter)
    pure (output.push c)

def multiByte (output : String) : Parser String := do
  let start := (← cursor) - 1
  let remaining ← suffix start
  let text ← orRefuse .syntaxError (String.fromUTF8? ⟨⟨remaining⟩⟩)
  let character ← orRefuse .syntaxError text.toList.head?
  setCursor (start + character.utf8Size)
  pure (output.push character)

def stringRound (output : String) : Parser (String ⊕ String) := do
  let b ← orRefuse .syntaxError (← peek)
  advance 1
  if b = 0x22 then
    pure (.inr output)
  else if b = 0x5C then
    let next ← escape output
    pure (.inl next)
  else if b ≤ 0x1F then
    refuse .syntaxError
  else if b ≤ 0x7F then
    pure (.inl (output.push (Char.ofNat b.toNat)))
  else
    let next ← multiByte output
    pure (.inl next)

def string (fuel : Nat) : Parser String := do
  byte 0x22
  loop stringRound fuel ""

def oneStringArray (fuel : Nat) : Parser String := do
  byte 0x5B
  ws fuel
  let value ← string fuel
  ws fuel
  byte 0x5D
  pure value

def value (fuel : Nat) : Parser JsonValue := do
  let b ← orRefuse .syntaxError (← peek)
  if b = 0x22 then
    let text ← string fuel
    pure (.string text)
  else if isDigit b then
    let number ← integer fuel
    pure (.integer number)
  else if b = 0x5B then
    let text ← oneStringArray fuel
    pure (.oneStringArray text)
  else
    refuse .unsupportedType

abbrev Members := List (String × JsonValue)

def member (fuel : Nat) (members : Members) : Parser Members := do
  ws fuel
  let name ← string fuel
  check (¬members.any (·.1 == name)) .duplicateMember
  ws fuel
  byte 0x3A
  ws fuel
  let found ← value fuel
  pure (members ++ [(name, found)])

/-- What follows a member: a comma, or the end of the object. -/
def separator : Parser Bool := do
  match ← peek with
  | some 0x2C => do
    advance 1
    pure true
  | some 0x7D => do
    advance 1
    pure false
  | _ => refuse .syntaxError

def memberRound (fuel : Nat) (members : Members) : Parser (Members ⊕ Members) := do
  let members ← member fuel members
  ws fuel
  let more ← separator
  pure (if more then .inl members else .inr members)

def memberList (fuel : Nat) : Parser Members := do
  if (← peek) = some 0x7D then
    advance 1
    pure []
  else
    loop (memberRound fuel) fuel []

def document (fuel : Nat) : Parser Members := do
  ws fuel
  byte 0x7B
  ws fuel
  let members ← memberList fuel
  ws fuel
  check ((← cursor) = (← inputLength)) .syntaxError
  pure members

/-- The members of a flat object; no loop of the parser goes round more often than there are bytes. -/
def flatObject (input : Bytes) : Except (Stop ClaimError) Members :=
  (document (input.length + 1) input 0).map Prod.fst

end AuthsProof.Oidc
