import AuthsProof.Identifier
import AuthsProof.Lib.Radix
import AuthsProof.Lib.Text

/-! The names of the keys of a KERI key state. The writer gives a key one name; the reader also takes
names with a plus sign or with upper-case digits. -/

namespace AuthsProof.Keri

open Text Radix

inductive KeriError where
  | invalidVerificationMethod
  deriving DecidableEq

def keyMarker : List Char := ['#', 'k', 'e', 'y', '-']

/-- The identifier of one key, its sequence in lower-case hexadecimal and its index in decimal. -/
def verificationMethod (principal : PrincipalId) (establishmentSequence : Fin (2 ^ 128))
    (keyIndex : Fin (2 ^ 64)) : Except ModelError VerificationMethod :=
  VerificationMethod.parse (String.ofList (principal.str.toList ++ (keyMarker ++
    (Nat.toDigits 16 establishmentSequence ++ '-' :: Nat.toDigits 10 keyIndex))))

/-- An unsigned integer of the type with `limit` values. -/
def fromStrRadix (base limit : Nat) (text : List Char) : Option (Fin limit) :=
  (read base limit text).bind fun n => if h : n < limit then some ⟨n, h⟩ else none

def parseNumbers (sequence index : List Char) : Except KeriError (Fin (2 ^ 128) × Fin (2 ^ 64)) :=
  if sequence.isEmpty || index.isEmpty || (1 < sequence.length && sequence.head? = some '0') ||
      (1 < index.length && index.head? = some '0') then .error .invalidVerificationMethod
  else
    match fromStrRadix 16 (2 ^ 128) sequence, fromStrRadix 10 (2 ^ 64) index with
    | some sequence, some index => .ok (sequence, index)
    | _, _ => .error .invalidVerificationMethod

def parseVerificationMethod (principal : PrincipalId) (method : VerificationMethod) :
    Except KeriError (Fin (2 ^ 128) × Fin (2 ^ 64)) :=
  match (stripPrefix principal.str.toList method.str.toList).bind (stripPrefix keyMarker) with
  | none => .error .invalidVerificationMethod
  | some suffix =>
    match splitOnce '-' suffix with
    | none => .error .invalidVerificationMethod
    | some (sequence, index) => parseNumbers sequence index

/-- The key of a state established at `sequence` that a method names, with its index. -/
def namedKey {K : Type} (principal : PrincipalId) (method : VerificationMethod)
    (sequence : Fin (2 ^ 128)) (keys : List K) : Option (Fin (2 ^ 64) × K) :=
  match parseVerificationMethod principal method with
  | .error _ => none
  | .ok (methodSequence, keyIndex) =>
    if methodSequence = sequence then keys[keyIndex.val]?.map fun key => (keyIndex, key) else none

theorem fromStrRadix_eq_some {base limit : Nat} {text : List Char} {n : Fin limit} :
    fromStrRadix base limit text = some n ↔ read base limit text = some n.val := by
  rw [fromStrRadix, Option.bind_eq_some_iff]
  constructor
  · rintro ⟨value, hread, hvalue⟩
    split_ifs at hvalue
    obtain rfl := Option.some.inj hvalue
    exact hread
  · intro hread
    exact ⟨n.val, hread, dif_pos n.isLt⟩

theorem parseNumbers_eq_ok {sequence index : List Char} {s : Fin (2 ^ 128)} {k : Fin (2 ^ 64)} :
    parseNumbers sequence index = .ok (s, k) ↔ (Short sequence ∧ read 16 (2 ^ 128) sequence = some s.val) ∧
      Short index ∧ read 10 (2 ^ 64) index = some k.val := by
  have hshort (text : List Char) : Short text ↔
      ¬(text.isEmpty = true ∨ 1 < text.length ∧ text.head? = some '0') := by
    cases text with
    | nil => simp [Short]
    | cons c cs =>
      cases cs with
      | nil => simp [Short]
      | cons next cs => simp [Short]
  rw [parseNumbers, hshort, hshort, ← fromStrRadix_eq_some, ← fromStrRadix_eq_some]
  split_ifs with hrefused
  · simp only [Bool.or_eq_true, Bool.and_eq_true, decide_eq_true_eq] at hrefused
    refine ⟨nofun, ?_⟩
    rintro ⟨⟨hsequence, -⟩, hindex, -⟩
    rcases hrefused with ((h | h) | h) | h
    · exact absurd (Or.inl h) hsequence
    · exact absurd (Or.inl h) hindex
    · exact absurd (Or.inr h) hsequence
    · exact absurd (Or.inr h) hindex
  · simp only [Bool.or_eq_true, Bool.and_eq_true, decide_eq_true_eq, not_or] at hrefused
    obtain ⟨⟨⟨h1, h2⟩, h3⟩, h4⟩ := hrefused
    have hsequence := not_or.mpr ⟨h1, h3⟩
    have hindex := not_or.mpr ⟨h2, h4⟩
    cases hs : fromStrRadix 16 (2 ^ 128) sequence with
    | none => exact ⟨nofun, fun h => nomatch h.1.2⟩
    | some sequence =>
      cases hk : fromStrRadix 10 (2 ^ 64) index with
      | none => exact ⟨nofun, fun h => nomatch h.2.2⟩
      | some index =>
        constructor
        · intro h
          obtain ⟨rfl, rfl⟩ := Prod.mk.inj (Except.ok.inj h)
          exact ⟨⟨hsequence, rfl⟩, hindex, rfl⟩
        · rintro ⟨⟨-, hs⟩, -, hk⟩
          rw [Option.some.inj hs, Option.some.inj hk]

/-- A method is read as two numbers exactly where it is the principal, the marker and two numerals
without a leading zero. -/
theorem parseVerificationMethod_eq_ok {principal : PrincipalId} {method : VerificationMethod}
    {s : Fin (2 ^ 128)} {k : Fin (2 ^ 64)} :
    parseVerificationMethod principal method = .ok (s, k) ↔ ∃ sequence index,
      method.str.toList = principal.str.toList ++ (keyMarker ++ (sequence ++ '-' :: index)) ∧
      (Short sequence ∧ read 16 (2 ^ 128) sequence = some s.val) ∧
      Short index ∧ read 10 (2 ^ 64) index = some k.val := by
  constructor
  · intro h
    unfold parseVerificationMethod at h
    split at h
    · cases h
    · rename_i suffix hsuffix
      obtain ⟨rest, hrest, hmarker⟩ := Option.bind_eq_some_iff.mp hsuffix
      split at h
      · cases h
      · rename_i sequence index hsplit
        refine ⟨sequence, index, ?_, parseNumbers_eq_ok.mp h⟩
        rw [stripPrefix_eq_some.mp hrest, stripPrefix_eq_some.mp hmarker, splitOnce_eq_some hsplit]
  · rintro ⟨sequence, index, hmethod, hnumbers⟩
    have hdash : '-' ∉ sequence := fun hmem => by
      rcases read_digits hnumbers.1.2 hmem with h | h
      · exact absurd h (by decide)
      · exact absurd h (by decide)
    have hsuffix : (stripPrefix principal.str.toList method.str.toList).bind (stripPrefix keyMarker) =
        some (sequence ++ '-' :: index) := by
      rw [stripPrefix_eq_some.mpr hmethod, Option.bind_some]
      exact stripPrefix_eq_some.mpr rfl
    rw [parseVerificationMethod, hsuffix]
    dsimp only
    rw [splitOnce_append hdash]
    exact parseNumbers_eq_ok.mpr hnumbers

theorem verificationMethod_eq_ok {principal : PrincipalId} {method : VerificationMethod}
    {s : Fin (2 ^ 128)} {k : Fin (2 ^ 64)} :
    verificationMethod principal s k = .ok method ↔ method.str.toList = principal.str.toList ++
      (keyMarker ++ (Nat.toDigits 16 s ++ '-' :: Nat.toDigits 10 k)) := by
  rw [verificationMethod, VerificationMethod.parse, parseBounded]
  constructor
  · intro h
    split_ifs at h
    rw [← Except.ok.inj h, String.toList_ofList]
  · intro h
    rw [← h, String.ofList_toList]
    exact dif_pos method.bounded

/-- Every key is read back from the name it is given. -/
theorem parseVerificationMethod_verificationMethod {principal : PrincipalId}
    {method : VerificationMethod} {s : Fin (2 ^ 128)} {k : Fin (2 ^ 64)}
    (h : verificationMethod principal s k = .ok method) :
    parseVerificationMethod principal method = .ok (s, k) := by
  have hread {base limit n : Nat} (hone : 1 < base) (hbase : base ≤ 16) (hlt : n < limit) :
      Short (Nat.toDigits base n) ∧ read base limit (Nat.toDigits base n) = some n := by
    rw [read_of_plain (plain_toDigits hone hbase n) Nat.toDigits_ne_nil]
    exact ⟨short_toDigits hone hbase n, accumulate_toDigits hone hbase hlt⟩
  exact parseVerificationMethod_eq_ok.mpr ⟨_, _, verificationMethod_eq_ok.mp h,
    hread (by decide) (by decide) s.isLt, hread (by decide) (by decide) k.isLt⟩

/-- The method is the principal, the marker and two numbers without a leading zero, one of them with
a plus sign or with an upper-case digit. -/
def Aliased (principal : PrincipalId) (method : VerificationMethod) : Prop :=
  ∃ sequence index,
    method.str.toList = principal.str.toList ++ (keyMarker ++ (sequence ++ '-' :: index)) ∧
    (Short sequence ∧ (read 16 (2 ^ 128) sequence).isSome = true) ∧
    (Short index ∧ (read 10 (2 ^ 64) index).isSome = true) ∧
    ('+' ∈ sequence ∨ '+' ∈ index ∨ ∃ c ∈ sequence, isUpper c)

/-- A numeral without a plus sign and upper-case digits is that of the number it is read as. -/
theorem toDigits_of_read {base limit n : Nat} {text : List Char} (hone : 1 < base) (hbase : base ≤ 16)
    (hshort : Short text) (h : read base limit text = some n) (hplus : '+' ∉ text)
    (hupper : ∀ c ∈ text, (digit base c).isSome = true → ¬isUpper c) :
    Nat.toDigits base n = text := by
  have hplain : Plain base text := by
    intro c hc
    have hdigit := (read_digits h hc).resolve_left fun hsign => hplus (hsign ▸ hc)
    exact ⟨hdigit, hupper c hc hdigit⟩
  rw [read_of_plain hplain hshort.1] at h
  exact toDigits_of_accumulate hone hbase hplain hshort h

theorem verificationMethod_of_unaliased {principal : PrincipalId} {method : VerificationMethod}
    (halias : ¬Aliased principal method) {s : Fin (2 ^ 128)} {k : Fin (2 ^ 64)}
    (h : parseVerificationMethod principal method = .ok (s, k)) :
    verificationMethod principal s k = .ok method := by
  obtain ⟨sequence, index, hmethod, ⟨hshort, hread⟩, hshort', hread'⟩ :=
    parseVerificationMethod_eq_ok.mp h
  have hclean : ¬('+' ∈ sequence ∨ '+' ∈ index ∨ ∃ c ∈ sequence, isUpper c) := fun hdirty =>
    halias ⟨sequence, index, hmethod, ⟨hshort, hread ▸ rfl⟩, ⟨hshort', hread' ▸ rfl⟩, hdirty⟩
  simp only [not_or, not_exists, not_and] at hclean
  obtain ⟨hplus, hplus', hupper⟩ := hclean
  rw [verificationMethod_eq_ok, hmethod,
    toDigits_of_read (by decide) (by decide) hshort hread hplus fun c hc _ => hupper c hc,
    toDigits_of_read (by decide) (by decide) hshort' hread' hplus' fun c _ =>
      not_isUpper_of_digit (by decide)]

/-- An aliased method is read as a key that has another name. -/
theorem exists_of_aliased {principal : PrincipalId} {method : VerificationMethod}
    (halias : Aliased principal method) : ∃ s k,
      parseVerificationMethod principal method = .ok (s, k) ∧
        verificationMethod principal s k ≠ .ok method := by
  obtain ⟨sequence, index, hmethod, ⟨hshort, hread⟩, ⟨hshort', hread'⟩, hdirty⟩ := halias
  obtain ⟨s, hs⟩ := Option.isSome_iff_exists.mp hread
  obtain ⟨k, hk⟩ := Option.isSome_iff_exists.mp hread'
  refine ⟨⟨s, read_lt (by decide) hs⟩, ⟨k, read_lt (by decide) hk⟩,
    parseVerificationMethod_eq_ok.mpr ⟨sequence, index, hmethod, ⟨hshort, hs⟩, hshort', hk⟩, ?_⟩
  intro hname
  have hsame := hmethod.symm.trans (verificationMethod_eq_ok.mp hname)
  have hsuffix := List.append_cancel_left (List.append_cancel_left hsame)
  have hdash {text : List Char} (h : ∀ c ∈ text, c = '+' ∨ (digit 16 c).isSome = true) :
      '-' ∉ text := fun hmem => by
    rcases h '-' hmem with h | h
    · exact absurd h (by decide)
    · exact absurd h (by decide)
  have hplain := plain_toDigits (by decide) (by decide : (16 : Nat) ≤ 16) s
  have hplain' := plain_toDigits (by decide) (by decide : (10 : Nat) ≤ 16) k
  have hsplit := splitOnce_append (hdash fun c hc => read_digits hs hc) index
  rw [hsuffix, splitOnce_append (hdash fun c hc => Or.inr (hplain c hc).1)] at hsplit
  obtain ⟨hsequence, hindex⟩ := Prod.mk.inj (Option.some.inj hsplit)
  rw [← hsequence, ← hindex] at hdirty
  have hsign {base : Nat} : (digit base '+').isSome = true → False := by
    simp [digit, isUpper]
  rcases hdirty with h | h | ⟨c, hc, h⟩
  · exact hsign (hplain _ h).1
  · exact hsign (hplain' _ h).1
  · exact (hplain c hc).2 h

/-- The reader is the writer's inverse on a method exactly where the method is no alias; there the
method names a key of a state exactly where it is the name the writer gives that key. -/
theorem parseVerificationMethod_exact_iff (principal : PrincipalId) (method : VerificationMethod) :
    ((∀ s k, parseVerificationMethod principal method = .ok (s, k) ↔
        verificationMethod principal s k = .ok method) ∧
      ∀ (K : Type) (sequence : Fin (2 ^ 128)) (keys : List K) (index : Fin (2 ^ 64)) (key : K),
        namedKey principal method sequence keys = some (index, key) ↔
          keys[index.val]? = some key ∧ verificationMethod principal sequence index = .ok method) ↔
      ¬Aliased principal method := by
  constructor
  · rintro ⟨hexact, -⟩ halias
    obtain ⟨s, k, hparse, hname⟩ := exists_of_aliased halias
    exact hname ((hexact s k).mp hparse)
  · intro halias
    have hexact (s : Fin (2 ^ 128)) (k : Fin (2 ^ 64)) :
        parseVerificationMethod principal method = .ok (s, k) ↔
          verificationMethod principal s k = .ok method :=
      ⟨verificationMethod_of_unaliased halias, parseVerificationMethod_verificationMethod⟩
    refine ⟨hexact, fun K sequence keys index key => ?_⟩
    rw [← hexact, namedKey]
    cases hparse : parseVerificationMethod principal method with
    | error error => exact ⟨nofun, fun h => nomatch h.2⟩
    | ok numbers =>
      obtain ⟨s, k⟩ := numbers
      dsimp only
      constructor
      · intro h
        split_ifs at h with hsequence
        obtain ⟨found, hfound, hpair⟩ := Option.map_eq_some_iff.mp h
        obtain ⟨rfl, rfl⟩ := Prod.mk.inj hpair
        exact ⟨hfound, by rw [hsequence]⟩
      · rintro ⟨hkey, hpair⟩
        obtain ⟨rfl, rfl⟩ := Prod.mk.inj (Except.ok.inj hpair)
        rw [if_pos rfl, hkey]
        rfl

section Sample

def samplePrincipal : PrincipalId := ⟨"did:keri:E", by decide, by decide⟩

/-- The tenth sequence of the sample principal in lower and in upper case, and with a plus sign. -/
def sampleMethods : VerificationMethod × VerificationMethod × VerificationMethod :=
  (⟨"did:keri:E#key-a-0", by decide⟩, ⟨"did:keri:E#key-A-0", by decide⟩,
    ⟨"did:keri:E#key-a-+0", by decide⟩)

/-- One key has three names. -/
theorem parseVerificationMethod_aliases :
    verificationMethod samplePrincipal 10 0 = .ok sampleMethods.1 ∧
      parseVerificationMethod samplePrincipal sampleMethods.1 = .ok (10, 0) ∧
      parseVerificationMethod samplePrincipal sampleMethods.2.1 = .ok (10, 0) ∧
      parseVerificationMethod samplePrincipal sampleMethods.2.2 = .ok (10, 0) ∧
      sampleMethods.2.1 ≠ sampleMethods.1 ∧ sampleMethods.2.2 ≠ sampleMethods.1 := by
  refine ⟨rfl, rfl, rfl, rfl, ?_, ?_⟩ <;> decide

end Sample

end AuthsProof.Keri
