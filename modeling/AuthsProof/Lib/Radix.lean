import Mathlib.Data.List.Basic

/-! Numerals in a base of at most sixteen, as an accumulator reads them that refuses whatever reaches
its limit. Without a sign, upper-case digits and leading zeros a number has one numeral. -/

namespace Radix

variable {base limit : Nat}

def isUpper (c : Char) : Prop := 65 ≤ c.toNat ∧ c.toNat ≤ 90

instance (c : Char) : Decidable (isUpper c) := inferInstanceAs (Decidable (_ ∧ _))

/-- The value of a digit, a letter of either case from ten on. -/
def digit (base : Nat) (c : Char) : Option Nat :=
  let value :=
    if 48 ≤ c.toNat ∧ c.toNat ≤ 57 then some (c.toNat - 48)
    else if 97 ≤ c.toNat ∧ c.toNat ≤ 122 then some (c.toNat - 87)
    else if isUpper c then some (c.toNat - 55)
    else none
  value.filter (· < base)

def accumulate (base limit : Nat) : Nat → List Char → Option Nat
  | value, [] => some value
  | value, c :: cs =>
    match digit base c with
    | none => none
    | some d =>
      if value * base + d < limit then accumulate base limit (value * base + d) cs else none

@[simp] theorem accumulate_nil (value : Nat) : accumulate base limit value [] = some value := rfl

theorem accumulate_cons (value : Nat) (c : Char) (cs : List Char) :
    accumulate base limit value (c :: cs) =
      match digit base c with
      | none => none
      | some d =>
        if value * base + d < limit then accumulate base limit (value * base + d) cs else none := rfl

/-- A number with an optional plus sign. -/
def read (base limit : Nat) : List Char → Option Nat
  | [] => none
  | [c] => accumulate base limit 0 [c]
  | c :: cs => if c = '+' then accumulate base limit 0 cs else accumulate base limit 0 (c :: cs)

/-- Only digits, none of them an upper-case letter. -/
def Plain (base : Nat) (cs : List Char) : Prop :=
  ∀ c ∈ cs, (digit base c).isSome = true ∧ ¬isUpper c

/-- No leading zero, except of zero itself. -/
def Short (cs : List Char) : Prop := cs ≠ [] ∧ (cs.head? = some '0' → cs.length = 1)

theorem digit_lt {c : Char} {d : Nat} (h : digit base c = some d) : d < base := by
  obtain ⟨-, hd⟩ := Option.filter_eq_some_iff.mp h
  exact of_decide_eq_true hd

/-- There are no letters among the digits of a base of at most ten. -/
theorem not_isUpper_of_digit {c : Char} (hbase : base ≤ 10) (h : (digit base c).isSome = true) :
    ¬isUpper c := by
  intro hc
  obtain ⟨d, hd⟩ := Option.isSome_iff_exists.mp h
  obtain ⟨hsome, hlt⟩ := Option.filter_eq_some_iff.mp hd
  have hd := of_decide_eq_true hlt
  have hc' : 65 ≤ c.toNat ∧ c.toNat ≤ 90 := hc
  rw [if_neg (by omega), if_neg (by omega), if_pos hc] at hsome
  have hvalue := Option.some.inj hsome
  omega

theorem digit_digitChar {d : Nat} (hbase : base ≤ 16) (h : d < base) :
    digit base d.digitChar = some d ∧ ¬isUpper d.digitChar := by
  have hvalue : ∀ d < 16, digit 16 d.digitChar = some d ∧ ¬isUpper d.digitChar := by decide
  obtain ⟨hdigit, hupper⟩ := hvalue d (Nat.lt_of_lt_of_le h hbase)
  obtain ⟨hsome, -⟩ := Option.filter_eq_some_iff.mp hdigit
  exact ⟨Option.filter_eq_some_iff.mpr ⟨hsome, decide_eq_true h⟩, hupper⟩

/-- A digit that is no upper-case letter is the one the number is written with. -/
theorem digitChar_of_digit {c : Char} {d : Nat} (hbase : base ≤ 16) (h : digit base c = some d)
    (hupper : ¬isUpper c) : d.digitChar = c := by
  have hcode : ∀ d < 16, d.digitChar.toNat = if d < 10 then 48 + d else 87 + d := by decide
  obtain ⟨hsome, hlt⟩ := Option.filter_eq_some_iff.mp h
  have hd : d < 16 := Nat.lt_of_lt_of_le (of_decide_eq_true hlt) hbase
  refine Char.toNat_inj.mp ((hcode d hd).trans ?_)
  split_ifs at hsome with hnumber hletter
  · obtain rfl := Option.some.inj hsome
    rw [if_pos (by omega)]
    omega
  · obtain rfl := Option.some.inj hsome
    rw [if_neg (by omega)]
    omega

theorem accumulate_append (value : Nat) (xs ys : List Char) :
    accumulate base limit value (xs ++ ys) =
      (accumulate base limit value xs).bind fun value => accumulate base limit value ys := by
  induction xs generalizing value with
  | nil => rfl
  | cons x xs ih =>
    rw [List.cons_append, accumulate_cons, accumulate_cons]
    cases digit base x with
    | none => rfl
    | some d =>
      dsimp only
      split_ifs
      · exact ih _
      · rfl

theorem accumulate_lt {cs : List Char} {value n : Nat} (hvalue : value < limit)
    (h : accumulate base limit value cs = some n) : n < limit := by
  induction cs generalizing value with
  | nil => exact Option.some.inj h ▸ hvalue
  | cons c cs ih =>
    rw [accumulate_cons] at h
    cases hdigit : digit base c with
    | none =>
      rw [hdigit] at h
      cases h
    | some d =>
      rw [hdigit] at h
      dsimp only at h
      split_ifs at h with hlt
      exact ih hlt h

theorem accumulate_digits {cs : List Char} {value n : Nat} (h : accumulate base limit value cs = some n)
    {c : Char} (hc : c ∈ cs) : (digit base c).isSome = true := by
  induction cs generalizing value with
  | nil => cases hc
  | cons x cs ih =>
    rw [accumulate_cons] at h
    cases hdigit : digit base x with
    | none =>
      rw [hdigit] at h
      cases h
    | some d =>
      rw [hdigit] at h
      dsimp only at h
      split_ifs at h
      rcases List.mem_cons.mp hc with rfl | hrest
      · rw [hdigit]
        rfl
      · exact ih h hrest

/-- Reading on from a positive value writes its numeral on. -/
theorem toDigits_append {cs : List Char} {value n : Nat} (hone : 1 < base) (hbase : base ≤ 16)
    (hplain : Plain base cs) (hpositive : 0 < value) (h : accumulate base limit value cs = some n) :
    Nat.toDigits base value ++ cs = Nat.toDigits base n := by
  induction cs generalizing value with
  | nil =>
    obtain rfl := Option.some.inj h
    exact List.append_nil _
  | cons c cs ih =>
    obtain ⟨⟨hsome, hupper⟩, hrest⟩ := List.forall_mem_cons.mp hplain
    obtain ⟨d, hdigit⟩ := Option.isSome_iff_exists.mp hsome
    rw [accumulate_cons, hdigit] at h
    dsimp only at h
    split_ifs at h
    have hnext := ih hrest (Nat.add_pos_left (Nat.mul_pos hpositive (by omega)) d) h
    have hd := digit_lt hdigit
    have hwritten : Nat.toDigits base value ++ [c] = Nat.toDigits base (value * base + d) := by
      rw [← digitChar_of_digit hbase hdigit hupper, ← Nat.toDigits_of_lt_base hd, Nat.mul_comm]
      exact Nat.toDigits_append_toDigits hone hpositive hd
    calc Nat.toDigits base value ++ c :: cs
        = (Nat.toDigits base value ++ [c]) ++ cs := by rw [List.append_assoc, List.singleton_append]
      _ = Nat.toDigits base (value * base + d) ++ cs := by rw [hwritten]
      _ = Nat.toDigits base n := hnext

/-- What is read from a plain and short numeral is the number it is the numeral of. -/
theorem toDigits_of_accumulate {cs : List Char} {n : Nat} (hone : 1 < base) (hbase : base ≤ 16)
    (hplain : Plain base cs) (hshort : Short cs) (h : accumulate base limit 0 cs = some n) :
    Nat.toDigits base n = cs := by
  cases cs with
  | nil => exact absurd rfl hshort.1
  | cons c cs =>
    obtain ⟨⟨hsome, hupper⟩, hrest⟩ := List.forall_mem_cons.mp hplain
    obtain ⟨d, hdigit⟩ := Option.isSome_iff_exists.mp hsome
    have hchar := digitChar_of_digit hbase hdigit hupper
    have hd := digit_lt hdigit
    rw [accumulate_cons, hdigit] at h
    simp only [Nat.zero_mul, Nat.zero_add] at h
    split_ifs at h
    rcases Nat.eq_zero_or_pos d with rfl | hpositive
    · have hzero : c = '0' := hchar.symm
      have hlength := hshort.2 (by rw [hzero]; rfl)
      obtain rfl : cs = [] := List.length_eq_zero_iff.mp (Nat.succ.inj hlength)
      obtain rfl := Option.some.inj h
      rw [Nat.toDigits_zero, hzero]
    · have hnext := toDigits_append hone hbase hrest hpositive h
      rw [Nat.toDigits_of_lt_base hd, hchar] at hnext
      exact hnext.symm

theorem accumulate_toDigits {n : Nat} (hone : 1 < base) (hbase : base ≤ 16) (h : n < limit) :
    accumulate base limit 0 (Nat.toDigits base n) = some n := by
  have hlast {value d : Nat} (hd : d < base) (hlt : value * base + d < limit) :
      accumulate base limit value [d.digitChar] = some (value * base + d) := by
    rw [accumulate_cons, (digit_digitChar hbase hd).1]
    exact if_pos hlt
  induction n using Nat.strongRecOn with
  | _ n ih =>
    by_cases hn : n < base
    · rw [Nat.toDigits_of_lt_base hn, hlast hn (by omega), Nat.zero_mul, Nat.zero_add]
    · have hless : n / base < n := Nat.div_lt_self (by omega) hone
      have hparts : n / base * base + n % base = n := Nat.div_add_mod' n base
      rw [Nat.toDigits_of_base_le hone (by omega), accumulate_append, ih _ hless (by omega),
        Option.bind_some, hlast (Nat.mod_lt n (by omega)) (by omega), hparts]

theorem plain_toDigits (hone : 1 < base) (hbase : base ≤ 16) (n : Nat) :
    Plain base (Nat.toDigits base n) := by
  induction n using Nat.strongRecOn with
  | _ n ih =>
    have hdigit {d : Nat} (hd : d < base) : Plain base [d.digitChar] := by
      intro c hc
      obtain rfl := List.mem_singleton.mp hc
      obtain ⟨hvalue, hupper⟩ := digit_digitChar hbase hd
      exact ⟨hvalue ▸ rfl, hupper⟩
    by_cases hn : n < base
    · rw [Nat.toDigits_of_lt_base hn]
      exact hdigit hn
    · rw [Nat.toDigits_of_base_le hone (by omega)]
      intro c hc
      rcases List.mem_append.mp hc with hfirst | hlast
      · exact ih _ (Nat.div_lt_self (by omega) hone) c hfirst
      · exact hdigit (Nat.mod_lt n (by omega)) c hlast

theorem short_toDigits (hone : 1 < base) (hbase : base ≤ 16) (n : Nat) :
    Short (Nat.toDigits base n) := by
  refine ⟨Nat.toDigits_ne_nil, ?_⟩
  induction n using Nat.strongRecOn with
  | _ n ih =>
    by_cases hn : n < base
    · rw [Nat.toDigits_of_lt_base hn]
      exact fun _ => rfl
    · have hpositive : 0 < n / base := Nat.div_pos (by omega) (by omega)
      rw [Nat.toDigits_of_base_le hone (by omega),
        List.head?_append_of_ne_nil _ Nat.toDigits_ne_nil]
      intro hhead
      have hlength := ih _ (Nat.div_lt_self (by omega) hone) hhead
      -- a numeral of one zero is that of zero
      have hzero : Nat.toDigits base (n / base) = ['0'] := by
        obtain ⟨c, hc⟩ := List.length_eq_one_iff.mp hlength
        rw [hc] at hhead ⊢
        rw [Option.some.inj hhead]
      have hread := @accumulate_toDigits base (n + 1) _ hone hbase
        (Nat.lt_succ_of_le (Nat.div_le_self n base))
      have hwant := @accumulate_toDigits base (n + 1) _ hone hbase (Nat.succ_pos n)
      rw [hzero] at hread
      rw [Nat.toDigits_zero] at hwant
      have hnone := Option.some.inj (hwant.symm.trans hread)
      omega

/-- A plain and short numeral is read as the number it is the numeral of, below the limit. -/
theorem accumulate_iff {cs : List Char} {n : Nat} (hone : 1 < base) (hbase : base ≤ 16)
    (hlimit : 0 < limit) (hplain : Plain base cs) (hshort : Short cs) :
    accumulate base limit 0 cs = some n ↔ n < limit ∧ Nat.toDigits base n = cs := by
  constructor
  · intro h
    exact ⟨accumulate_lt hlimit h, toDigits_of_accumulate hone hbase hplain hshort h⟩
  · rintro ⟨hlt, rfl⟩
    exact accumulate_toDigits hone hbase hlt

theorem read_of_plain {cs : List Char} (hplain : Plain base cs) (hne : cs ≠ []) :
    read base limit cs = accumulate base limit 0 cs := by
  cases cs with
  | nil => exact absurd rfl hne
  | cons c rest =>
    cases rest with
    | nil => rfl
    | cons next rest =>
      refine if_neg ?_
      rintro rfl
      obtain ⟨d, hdigit⟩ := Option.isSome_iff_exists.mp (hplain '+' List.mem_cons_self).1
      simp [digit, isUpper] at hdigit

theorem read_lt {cs : List Char} {n : Nat} (hlimit : 0 < limit) (h : read base limit cs = some n) :
    n < limit := by
  unfold read at h
  split at h
  · cases h
  · exact accumulate_lt hlimit h
  · split_ifs at h <;> exact accumulate_lt hlimit h

/-- What is read is made of digits, but for a plus sign. -/
theorem read_digits {cs : List Char} {n : Nat} (h : read base limit cs = some n) {c : Char}
    (hc : c ∈ cs) : c = '+' ∨ (digit base c).isSome = true := by
  unfold read at h
  split at h
  · cases h
  · exact Or.inr (accumulate_digits h hc)
  · split_ifs at h with hsign
    · rcases List.mem_cons.mp hc with rfl | hrest
      · exact Or.inl hsign
      · exact Or.inr (accumulate_digits h hrest)
    · exact Or.inr (accumulate_digits h hc)

end Radix
