import Mathlib.Algebra.Group.Nat.Defs
import Mathlib.Data.List.Basic

/-! Text as a list of characters: leading parts, splits at a character, and bounded checked text. -/

namespace Text

def stripPrefix (lead text : List Char) : Option (List Char) :=
  if lead.isPrefixOf text then some (text.drop lead.length) else none

theorem stripPrefix_eq_some {lead text rest : List Char} :
    stripPrefix lead text = some rest ↔ text = lead ++ rest := by
  unfold stripPrefix
  constructor
  · intro h
    split at h
    · next hlead =>
      obtain ⟨tail, rfl⟩ := List.isPrefixOf_iff_prefix.mp hlead
      rw [List.drop_left] at h
      rw [Option.some.inj h]
    · cases h
  · intro h
    subst h
    rw [if_pos (List.isPrefixOf_iff_prefix.mpr (List.prefix_append lead rest)), List.drop_left]

/-- The text before and after the first `c`. -/
def splitOnce (c : Char) : List Char → Option (List Char × List Char)
  | [] => none
  | head :: tail =>
    if head = c then some ([], tail)
    else (splitOnce c tail).map fun (before, after) => (head :: before, after)

theorem splitOnce_eq_some {c : Char} {text before after : List Char}
    (h : splitOnce c text = some (before, after)) : text = before ++ c :: after := by
  induction text generalizing before with
  | nil => cases h
  | cons head tail ih =>
    unfold splitOnce at h
    split at h
    · next hhead =>
      cases h
      rw [hhead, List.nil_append]
    · obtain ⟨⟨rest, last⟩, hsplit, hparts⟩ := Option.map_eq_some_iff.mp h
      cases hparts
      rw [ih hsplit, List.cons_append]

theorem splitOnce_append {c : Char} {before : List Char} (h : c ∉ before) (after : List Char) :
    splitOnce c (before ++ c :: after) = some (before, after) := by
  induction before with
  | nil => exact if_pos rfl
  | cons head tail ih =>
    obtain ⟨hhead, htail⟩ := List.ne_and_not_mem_of_not_mem_cons h
    rw [List.cons_append, splitOnce, if_neg hhead.symm, ih htail]
    rfl

theorem notMem_of_splitOnce {c : Char} {text before after : List Char}
    (h : splitOnce c text = some (before, after)) : c ∉ before := by
  induction text generalizing before with
  | nil => cases h
  | cons head tail ih =>
    unfold splitOnce at h
    split at h
    · cases h
      exact List.not_mem_nil
    · next hhead =>
      obtain ⟨⟨rest, last⟩, hsplit, hparts⟩ := Option.map_eq_some_iff.mp h
      cases hparts
      exact List.not_mem_cons_of_ne_of_not_mem (Ne.symm hhead) (ih hsplit)

/-- The text before and after the last `c`. -/
def rsplitOnce (c : Char) (text : List Char) : Option (List Char × List Char) :=
  (splitOnce c text.reverse).map fun (after, before) => (before.reverse, after.reverse)

/-- The text before the first `marker`, and the text from there on. -/
def splitAtMarker (marker : List Char) : List Char → Option (List Char × List Char)
  | [] => if marker.isEmpty then some ([], []) else none
  | head :: tail =>
    if marker.isPrefixOf (head :: tail) then some ([], head :: tail)
    else (splitAtMarker marker tail).map fun (before, after) => (head :: before, after)

def containsText (part text : List Char) : Bool := (splitAtMarker part text).isSome

/-- The parts of a text between the occurrences of `c`. -/
def splitAll (c : Char) : List Char → List (List Char)
  | [] => [[]]
  | head :: tail =>
    if head = c then [] :: splitAll c tail
    else match splitAll c tail with
      | [] => [[head]]
      | first :: rest => (head :: first) :: rest

def isAsciiControl (c : Char) : Bool := c.toNat < 32 || c.toNat == 127

def isAsciiUpper (c : Char) : Bool := 'A' ≤ c && c ≤ 'Z'

def isAsciiLower (c : Char) : Bool := 'a' ≤ c && c ≤ 'z'

def isAsciiDigit (c : Char) : Bool := '0' ≤ c && c ≤ '9'

def isAsciiAlphanumeric (c : Char) : Bool := isAsciiUpper c || isAsciiLower c || isAsciiDigit c

def toAsciiLower (text : String) : String := String.ofList (text.toList.map Char.toLower)

theorem toAsciiLower_ne {text : String} (h : text ≠ "") : toAsciiLower text ≠ "" := by
  intro hempty
  have hlist := congrArg String.toList hempty
  simp only [toAsciiLower, String.toList_ofList] at hlist
  have hnil : text.toList = [] := by simpa using hlist
  exact h (String.toList_inj.mp hnil)

/-- A decimal number without leading zero that fits 64 bits. -/
def parsePositive (text : String) : Option Nat :=
  if text.toList.isEmpty || text.toList.head? == some '0' || !text.toList.all isAsciiDigit then none
  else
    let value := text.toList.foldl (fun n c => 10 * n + (c.toNat - 48)) 0
    if value = 0 || 2 ^ 64 ≤ value then none else some value

/-- A non-empty text of at most `maximum` bytes that passes its own check. -/
structure Checked (maximum : Nat) (valid : String → Bool) where
  str : String
  checked : (!str.isEmpty && str.utf8ByteSize ≤ maximum && valid str) = true
  deriving DecidableEq

namespace Checked

variable {maximum : Nat} {valid : String → Bool}

theorem str_injective : Function.Injective (@str maximum valid) := by
  rintro ⟨a, ha⟩ ⟨b, hb⟩ (rfl : a = b)
  rfl

def parse (value : String) : Option (Checked maximum valid) :=
  if h : (!value.isEmpty && value.utf8ByteSize ≤ maximum && valid value) = true then
    some ⟨value, h⟩
  else none

theorem str_of_parse {value : String} {text : Checked maximum valid}
    (h : parse value = some text) : text.str = value := by
  unfold parse at h
  split at h
  · cases h
    rfl
  · cases h

theorem parse_eq_some {value : String} {text : Checked maximum valid} :
    parse value = some text ↔ text.str = value := by
  constructor
  · exact str_of_parse
  · intro h
    subst h
    exact dif_pos text.checked

/-- The values that are the text of something checked. -/
theorem exists_str_eq {value : String} : (∃ text : Checked maximum valid, text.str = value) ↔
    value ≠ "" ∧ value.utf8ByteSize ≤ maximum ∧ valid value = true := by
  have hchecked : (!value.isEmpty && value.utf8ByteSize ≤ maximum && valid value) = true ↔
      value ≠ "" ∧ value.utf8ByteSize ≤ maximum ∧ valid value = true := by
    simp [and_assoc]
  rw [← hchecked]
  constructor
  · rintro ⟨text, rfl⟩
    exact text.checked
  · exact fun h => ⟨⟨value, h⟩, rfl⟩

end Checked

end Text
