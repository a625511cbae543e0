import AuthsProof.Lib.Cbor
import AuthsProof.Lib.Wire
import Mathlib.Data.List.Induction

/-! Readers that accept exactly the encodings of what they return: a cursor over bytes, its big-endian
numbers and its text. -/

namespace Wire

open Rfc8949

variable {ε α β : Type}

/-- The reader returns `a` and leaves `rest` exactly on an encoding of `a` followed by `rest`. -/
def Takes (r : Reader ε α) (E : α → List UInt8 → Prop) : Prop :=
  ∀ input a rest, r.run input = .ok (a, rest) ↔ ∃ bs, E a bs ∧ input = bs ++ rest

theorem Takes.pure (a : α) : Takes (Pure.pure a : Reader ε α) fun b bs => b = a ∧ bs = [] := by
  intro input b rest
  show Except.ok (a, input) = .ok (b, rest) ↔ _
  constructor
  · intro h
    obtain ⟨rfl, rfl⟩ := Prod.mk.inj (Except.ok.inj h)
    exact ⟨[], ⟨rfl, rfl⟩, rfl⟩
  · intro ⟨bs, ⟨hb, hbs⟩, hinput⟩
    rw [hb, hinput, hbs]
    rfl

theorem Takes.bind {r : Reader ε α} {f : α → Reader ε β} {E : α → List UInt8 → Prop}
    {F : α → β → List UInt8 → Prop} (hr : Takes r E) (hf : ∀ a, Takes (f a) (F a)) :
    Takes (r >>= f) fun b bs => ∃ a xs ys, E a xs ∧ F a b ys ∧ bs = xs ++ ys := by
  intro input b rest
  rw [StateT.run_bind]
  constructor
  · intro h
    obtain ⟨⟨a, middle⟩, hread, hrest⟩ := exists_of_bind_ok h
    obtain ⟨xs, hxs, hinput⟩ := (hr _ _ _).mp hread
    obtain ⟨ys, hys, hmiddle⟩ := (hf a middle _ _).mp hrest
    refine ⟨xs ++ ys, ⟨a, xs, ys, hxs, hys, rfl⟩, ?_⟩
    rw [hinput, hmiddle, List.append_assoc]
  · intro ⟨bs, ⟨a, xs, ys, hxs, hys, hbs⟩, hinput⟩
    have hread : r.run input = .ok (a, ys ++ rest) :=
      (hr _ _ _).mpr ⟨xs, hxs, by rw [hinput, hbs, List.append_assoc]⟩
    rw [hread]
    exact (hf a _ _ _).mpr ⟨ys, hys, rfl⟩

theorem Takes.congr {r : Reader ε α} {E F : α → List UInt8 → Prop} (h : Takes r E)
    (hEF : ∀ a bs, F a bs ↔ E a bs) : Takes r F := by
  intro input a rest
  simp only [h input a rest, hEF]

/-- A step that reads nothing. -/
theorem Takes.lift (x : Except ε α) : Takes (fromExcept x) fun a bs => x = .ok a ∧ bs = [] := by
  intro input a rest
  cases x with
  | error e =>
    show Except.error e = .ok (a, rest) ↔ _
    simp
  | ok b =>
    refine (Takes.pure b input a rest).trans ?_
    simp [eq_comm]

/-- Takes `count` bytes off the front. -/
def takeBytes (e : ε) (count : Nat) : Reader ε (List UInt8) := fun remaining =>
  if remaining.length < count then .error e
  else .ok (remaining.take count, remaining.drop count)

theorem takes_takeBytes (e : ε) (count : Nat) :
    Takes (takeBytes e count) fun a bs => a = bs ∧ bs.length = count := by
  intro input a rest
  show (if input.length < count then .error e
    else Except.ok (input.take count, input.drop count)) = .ok (a, rest) ↔ _
  constructor
  · intro h
    split at h
    · cases h
    · next hlength =>
      obtain ⟨rfl, rfl⟩ := Prod.mk.inj (Except.ok.inj h)
      refine ⟨input.take count, ⟨rfl, ?_⟩, (List.take_append_drop count input).symm⟩
      rw [List.length_take]
      omega
  · intro ⟨bs, ⟨hbs, hlength⟩, hinput⟩
    rw [hinput, ← hlength, if_neg (by simp)]
    simp [hbs]

/-- A big-endian number of `width` bytes. -/
def takeNat (e : ε) (width : Nat) : Reader ε Nat := do
  let bytes ← takeBytes e width
  Pure.pure (fromBigEndian bytes)

theorem fromBigEndian_lt (bs : List UInt8) : fromBigEndian bs < 256 ^ bs.length := by
  induction bs using List.reverseRecOn with
  | nil => simp [fromBigEndian]
  | append_singleton bs b ih =>
    unfold fromBigEndian at ih ⊢
    have hb := b.toNat_lt
    rw [List.foldl_append, List.length_append, List.length_singleton, pow_succ]
    simp only [List.foldl_cons, List.foldl_nil]
    omega

theorem bigEndian_fromBigEndian (bs : List UInt8) : bigEndian bs.length (fromBigEndian bs) = bs := by
  induction bs using List.reverseRecOn with
  | nil => rfl
  | append_singleton bs b ih =>
    have hsplit : fromBigEndian (bs ++ [b]) = fromBigEndian bs * 256 + b.toNat := by
      simp [fromBigEndian, List.foldl_append]
    have hb := b.toNat_lt
    rw [List.length_append, List.length_singleton, bigEndian, hsplit]
    have hdiv : (fromBigEndian bs * 256 + b.toNat) / 256 = fromBigEndian bs := by omega
    have hlow : UInt8.ofNat (fromBigEndian bs * 256 + b.toNat) = b := by
      apply UInt8.toNat_inj.mp
      rw [UInt8.toNat_ofNat']
      omega
    rw [hdiv, hlow, ih]

theorem takes_takeNat (e : ε) (width : Nat) :
    Takes (takeNat e width) fun n bs => n < 256 ^ width ∧ bs = bigEndian width n := by
  refine ((takes_takeBytes e width).bind fun bytes => Takes.pure _).congr fun n bs => ?_
  constructor
  · intro ⟨hn, hbs⟩
    refine ⟨bs, bs, [], ⟨rfl, ?_⟩, ⟨?_, rfl⟩, (List.append_nil bs).symm⟩
    · rw [hbs, bigEndian_length]
    · rw [hbs, fromBigEndian_bigEndian hn]
  · intro ⟨a, xs, ys, ⟨ha, hlength⟩, ⟨hn, hys⟩, hbs⟩
    rw [hys, List.append_nil] at hbs
    rw [hbs, hn, ha, ← hlength]
    exact ⟨fromBigEndian_lt xs, (bigEndian_fromBigEndian xs).symm⟩

/-- A count of `width` bytes and as many bytes as it says. -/
def takeCounted (e : ε) (width : Nat) : Reader ε (List UInt8) := do
  let count ← takeNat e width
  takeBytes e count

theorem takes_takeCounted (e : ε) (width : Nat) :
    Takes (takeCounted e width) fun a bs =>
      a.length < 256 ^ width ∧ bs = bigEndian width a.length ++ a := by
  refine ((takes_takeNat e width).bind fun count => takes_takeBytes e count).congr fun a bs => ?_
  constructor
  · intro ⟨hlength, hbs⟩
    exact ⟨a.length, _, a, ⟨hlength, rfl⟩, ⟨rfl, rfl⟩, hbs⟩
  · intro ⟨count, xs, ys, ⟨hcount, hxs⟩, ⟨ha, hlength⟩, hbs⟩
    rw [hbs, hxs, ha, hlength]
    exact ⟨hcount, rfl⟩

/-- A step that reads nothing, followed by the rest. -/
theorem Takes.step {x : Except ε α} {f : α → Reader ε β} {F : α → β → List UInt8 → Prop}
    (hf : ∀ a, Takes (f a) (F a)) :
    Takes (fromExcept x >>= f) fun b bs => ∃ a, x = .ok a ∧ F a b bs := by
  refine ((Takes.lift x).bind hf).congr fun b bs => ?_
  constructor
  · intro ⟨a, hx, hF⟩
    exact ⟨a, [], bs, ⟨hx, rfl⟩, hF, rfl⟩
  · intro ⟨a, xs, ys, ⟨hx, hxs⟩, hF, hbs⟩
    rw [hbs, hxs]
    exact ⟨a, hx, hF⟩

theorem Takes.ensure {p : Prop} [Decidable p] {e : ε} {r : Reader ε β} {F : β → List UInt8 → Prop}
    (hr : Takes r F) : Takes (Wire.ensure p e >>= fun _ => r) fun b bs => p ∧ F b bs := by
  refine (Takes.step fun _ => hr).congr fun b bs => ?_
  by_cases hp : p <;> simp [hp]

theorem fromUTF8?_eq_some {bs : List UInt8} {s : String} :
    String.fromUTF8? ⟨⟨bs⟩⟩ = some s ↔ bs = s.toUTF8.data.toList := by
  constructor
  · intro h
    unfold String.fromUTF8? at h
    split at h
    · rw [← Option.some.inj h]
      rfl
    · cases h
  · intro h
    subst h
    show String.fromUTF8? s.toUTF8 = some s
    simp [String.fromUTF8?, String.fromUTF8, String.toUTF8, s.isValidUTF8]

end Wire
