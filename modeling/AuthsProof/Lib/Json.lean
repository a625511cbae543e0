import Mathlib.Data.List.Basic
import Mathlib.Tactic.NormNum

/-! Strings as the canonical JSON serialisation writes them: where a string ends can be told from what
is written, and a string without control characters at most doubles. -/

namespace Json

/-- The digit of a value below sixteen, in lower case. -/
def hexDigit (n : Nat) : Char := if n < 10 then Char.ofNat (48 + n) else Char.ofNat (87 + n)

theorem hexDigit_inj {m n : Nat} (hm : m < 16) (hn : n < 16) (h : hexDigit m = hexDigit n) : m = n := by
  have hall : ∀ m < 16, ∀ n < 16, hexDigit m = hexDigit n → m = n := by decide
  exact hall m hm n hn h

/-- The letter of the two-character escape of a character that has one. -/
def shortEscape (c : Char) : Option Char :=
  match c.toNat with
  | 0x08 => some 'b'
  | 0x09 => some 't'
  | 0x0A => some 'n'
  | 0x0C => some 'f'
  | 0x0D => some 'r'
  | 0x22 => some '"'
  | 0x5C => some '\\'
  | _ => none

def shortUnescape (letter : Char) : Nat :=
  match letter with
  | 'b' => 0x08
  | 't' => 0x09
  | 'n' => 0x0A
  | 'f' => 0x0C
  | 'r' => 0x0D
  | '"' => 0x22
  | _ => 0x5C

theorem shortEscape_eq_some {c letter : Char} (h : shortEscape c = some letter) :
    c.toNat = shortUnescape letter ∧ letter ≠ 'u' := by
  unfold shortEscape at h
  split at h
  all_goals
    first
    | cases h
      exact ⟨by assumption, by decide⟩
    | cases h

def escape (c : Char) : List Char :=
  match shortEscape c with
  | some letter => ['\\', letter]
  | none =>
    if c.toNat < 0x20 then ['\\', 'u', '0', '0', hexDigit (c.toNat / 16), hexDigit (c.toNat % 16)]
    else [c]

def quote (text : List Char) : List Char := '"' :: (text.flatMap escape ++ ['"'])

/-- What a character is written as: an escape, or the character where it starts none. -/
theorem escape_cases (c : Char) :
    (∃ letter, shortEscape c = some letter ∧ escape c = ['\\', letter]) ∨
    (c.toNat < 0x20 ∧ escape c =
      ['\\', 'u', '0', '0', hexDigit (c.toNat / 16), hexDigit (c.toNat % 16)]) ∨
    (0x20 ≤ c.toNat ∧ c ≠ '\\' ∧ c ≠ '"' ∧ escape c = [c]) := by
  unfold escape
  cases hshort : shortEscape c with
  | some letter => exact .inl ⟨letter, rfl, rfl⟩
  | none =>
    by_cases hcontrol : c.toNat < 0x20
    · exact .inr (.inl ⟨hcontrol, by simp [hcontrol]⟩)
    · have hslash : c ≠ '\\' := by
        intro h
        rw [h] at hshort
        cases hshort
      have hquote : c ≠ '"' := by
        intro h
        rw [h] at hshort
        cases hshort
      exact .inr (.inr ⟨by omega, hslash, hquote, by simp [hcontrol]⟩)

/-- Where the escape of a character ends can be told from what is written. -/
theorem escape_append_inj {c d : Char} {xs ys : List Char} (h : escape c ++ xs = escape d ++ ys) :
    c = d ∧ xs = ys := by
  rcases escape_cases c with ⟨l, hl, hc⟩ | ⟨hlow, hc⟩ | ⟨hhigh, hslash, hquote, hc⟩
  · rcases escape_cases d with ⟨m, hm, hd⟩ | ⟨hlow', hd⟩ | ⟨hhigh', hslash', hquote', hd⟩
    · rw [hc, hd] at h
      obtain ⟨rfl, hrest⟩ : l = m ∧ xs = ys := by simpa using h
      have hsame : c.toNat = d.toNat :=
        (shortEscape_eq_some hl).1.trans (shortEscape_eq_some hm).1.symm
      exact ⟨Char.toNat_inj.mp hsame, hrest⟩
    · rw [hc, hd] at h
      obtain ⟨hletter, -⟩ : l = 'u' ∧ _ := by simpa using h
      exact absurd hletter (shortEscape_eq_some hl).2
    · rw [hc, hd] at h
      obtain ⟨hletter, -⟩ : '\\' = d ∧ _ := by simpa using h
      exact absurd hletter.symm hslash'
  · rcases escape_cases d with ⟨m, hm, hd⟩ | ⟨hlow', hd⟩ | ⟨hhigh', hslash', hquote', hd⟩
    · rw [hc, hd] at h
      obtain ⟨hletter, -⟩ : 'u' = m ∧ _ := by simpa using h
      exact absurd hletter.symm (shortEscape_eq_some hm).2
    · rw [hc, hd] at h
      simp only [List.cons_append, List.nil_append, List.cons.injEq, true_and] at h
      obtain ⟨hupper, hlower, hrest⟩ := h
      have hquotient := hexDigit_inj (by omega) (by omega) hupper
      have hremainder := hexDigit_inj (by omega) (by omega) hlower
      have hsame : c.toNat = d.toNat := by omega
      exact ⟨Char.toNat_inj.mp hsame, hrest⟩
    · rw [hc, hd] at h
      obtain ⟨hletter, -⟩ : '\\' = d ∧ _ := by simpa using h
      exact absurd hletter.symm hslash'
  · rcases escape_cases d with ⟨m, hm, hd⟩ | ⟨hlow', hd⟩ | ⟨hhigh', hslash', hquote', hd⟩
    · rw [hc, hd] at h
      obtain ⟨hletter, -⟩ : c = '\\' ∧ _ := by simpa using h
      exact absurd hletter hslash
    · rw [hc, hd] at h
      obtain ⟨hletter, -⟩ : c = '\\' ∧ _ := by simpa using h
      exact absurd hletter hslash
    · rw [hc, hd] at h
      simpa using h

theorem escape_ne_quote (c : Char) (xs ys : List Char) : escape c ++ xs ≠ '"' :: ys := by
  intro h
  rcases escape_cases c with ⟨l, hl, hc⟩ | ⟨hlow, hc⟩ | ⟨hhigh, hslash, hquote, hc⟩
  · rw [hc] at h
    simp at h
  · rw [hc] at h
    simp at h
  · rw [hc] at h
    have hsame : c = '"' ∧ xs = ys := by simpa using h
    exact hquote hsame.1

theorem flatMap_escape_inj {text other xs ys : List Char}
    (h : text.flatMap escape ++ '"' :: xs = other.flatMap escape ++ '"' :: ys) :
    text = other ∧ xs = ys := by
  induction text generalizing other with
  | nil =>
    cases other with
    | nil => simpa using h
    | cons d other =>
      rw [List.flatMap_cons, List.append_assoc] at h
      exact absurd h.symm (escape_ne_quote d _ _)
  | cons c text ih =>
    cases other with
    | nil =>
      rw [List.flatMap_cons, List.append_assoc] at h
      exact absurd h (escape_ne_quote c _ _)
    | cons d other =>
      rw [List.flatMap_cons, List.flatMap_cons, List.append_assoc, List.append_assoc] at h
      obtain ⟨rfl, htail⟩ := escape_append_inj h
      obtain ⟨rfl, hrest⟩ := ih htail
      exact ⟨rfl, hrest⟩

/-- A quoted string says where it ends. -/
theorem quote_append_inj {text other xs ys : List Char} (h : quote text ++ xs = quote other ++ ys) :
    text = other ∧ xs = ys := by
  have hinner : text.flatMap escape ++ '"' :: xs = other.flatMap escape ++ '"' :: ys := by
    simpa [quote] using h
  exact flatMap_escape_inj hinner

/-- The bytes of a text. -/
def size (text : List Char) : Nat := (text.map Char.utf8Size).sum

@[simp] theorem size_nil : size [] = 0 := rfl

@[simp] theorem size_cons (c : Char) (text : List Char) : size (c :: text) = c.utf8Size + size text :=
  rfl

@[simp] theorem size_append (text other : List Char) :
    size (text ++ other) = size text + size other := by
  simp [size]

theorem utf8ByteSize_ofList (text : List Char) : (String.ofList text).utf8ByteSize = size text := by
  rw [← String.size_toByteArray, String.toByteArray_ofList, List.utf8Encode, List.size_toByteArray,
    List.length_flatMap]
  simp only [String.length_utf8EncodeChar]
  rfl

theorem size_toList (s : String) : size s.toList = s.utf8ByteSize := by
  rw [← utf8ByteSize_ofList, String.ofList_toList]

theorem size_escape_le {c : Char} (h : 0x20 ≤ c.toNat) : size (escape c) ≤ 2 * c.utf8Size := by
  have hpos := c.utf8Size_pos
  rcases escape_cases c with ⟨l, hl, hc⟩ | ⟨hlow, hc⟩ | ⟨hhigh, hslash, hquote, hc⟩
  · have hletter : l.utf8Size = 1 := by
      unfold shortEscape at hl
      split at hl
      all_goals
        first
        | cases hl
          decide
        | cases hl
    have hslash : ('\\' : Char).utf8Size = 1 := by decide
    rw [hc]
    simp only [size_cons, size_nil, hletter, hslash]
    omega
  · omega
  · rw [hc]
    simp only [size_cons, size_nil]
    omega

/-- Text without control characters takes at most twice its bytes, and its quotes. -/
theorem size_quote_le {text : List Char} (h : ∀ c ∈ text, 0x20 ≤ c.toNat) :
    size (quote text) ≤ 2 * size text + 2 := by
  have hmark : ('"' : Char).utf8Size = 1 := by decide
  have hinner : size (text.flatMap escape) ≤ 2 * size text := by
    induction text with
    | nil => simp
    | cons c text ih =>
      have hhead := size_escape_le (h c List.mem_cons_self)
      have htail := ih fun d hd => h d (List.mem_cons_of_mem c hd)
      rw [List.flatMap_cons, size_append, size_cons]
      omega
  simp only [quote, size_cons, size_append, size_nil, hmark]
  omega

end Json
