import Mathlib.Data.List.Basic
import Mathlib.Tactic.Tauto

/-! Readers of a byte stream and two judgments about them: what a reader makes of an encoding
followed by anything else, and exactly when it accepts one. -/

namespace Wire

abbrev Reader (ε α : Type) := StateT (List UInt8) (Except ε) α

section Judgments

variable {ε α β : Type}

/-- On every input that starts with `bs` the reader takes `bs` away and returns `a`. -/
def Reads (r : Reader ε α) (bs : List UInt8) (a : α) : Prop :=
  ∀ rest, r.run (bs ++ rest) = .ok (a, rest)

def Rejects (r : Reader ε α) (bs : List UInt8) : Prop :=
  ∀ rest, ∃ e, r.run (bs ++ rest) = .error e

/-- The reader returns `a` where `p` holds and fails where it does not. -/
structure ReadsIf (p : Prop) (r : Reader ε α) (bs : List UInt8) (a : α) : Prop where
  reads : p → Reads r bs a
  rejects : ¬p → Rejects r bs

theorem Reads.pure (a : α) : Reads (Pure.pure a : Reader ε α) [] a := fun _ => rfl

theorem Reads.bind {r : Reader ε α} {f : α → Reader ε β} {bs cs : List UInt8} {a : α} {b : β}
    (hr : Reads r bs a) (hf : Reads (f a) cs b) : Reads (r >>= f) (bs ++ cs) b := by
  intro rest
  rw [List.append_assoc, StateT.run_bind, hr]
  exact hf rest

/-- What one reader reads off the same input is the same, and so is what it leaves. -/
theorem Reads.split {r : Reader ε α} {bs cs xs ys : List UInt8} {a b : α} (ha : Reads r bs a)
    (hb : Reads r cs b) (h : bs ++ xs = cs ++ ys) : a = b ∧ xs = ys := by
  have hrun := ha xs
  rw [h, hb ys] at hrun
  obtain ⟨hvalue, hrest⟩ := Prod.mk.inj (Except.ok.inj hrun)
  exact ⟨hvalue.symm, hrest.symm⟩

theorem Reads.inj {r : Reader ε α} {bs : List UInt8} {a b : α} (ha : Reads r bs a)
    (hb : Reads r bs b) : a = b :=
  (ha.split hb (rfl : bs ++ [] = bs ++ [])).1

/-- An encoding of the values in `p` that ends by itself, whatever follows it. -/
def SelfDelimiting (p : α → Prop) (encode : α → List UInt8) : Prop :=
  ∀ a b xs ys, p a → p b → encode a ++ xs = encode b ++ ys → a = b ∧ xs = ys

theorem selfDelimiting_of_reads {p : α → Prop} {encode : α → List UInt8} {r : Reader ε α}
    (h : ∀ a, p a → Reads r (encode a) a) : SelfDelimiting p encode :=
  fun a b _ _ ha hb heq => (h a ha).split (h b hb) heq

theorem Rejects.bind {r : Reader ε α} {bs : List UInt8} (hr : Rejects r bs)
    (f : α → Reader ε β) (cs : List UInt8) : Rejects (r >>= f) (bs ++ cs) := by
  intro rest
  obtain ⟨e, he⟩ := hr (cs ++ rest)
  refine ⟨e, ?_⟩
  rw [List.append_assoc, StateT.run_bind, he]
  rfl

theorem Reads.bind_rejects {r : Reader ε α} {f : α → Reader ε β} {bs cs : List UInt8} {a : α}
    (hr : Reads r bs a) (hf : Rejects (f a) cs) : Rejects (r >>= f) (bs ++ cs) := by
  intro rest
  obtain ⟨e, he⟩ := hf rest
  refine ⟨e, ?_⟩
  rw [List.append_assoc, StateT.run_bind, hr]
  exact he

theorem Reads.readsIf {r : Reader ε α} {bs : List UInt8} {a : α} (h : Reads r bs a) :
    ReadsIf True r bs a where
  reads _ := h
  rejects h := absurd trivial h

theorem ReadsIf.always {r : Reader ε α} {bs : List UInt8} {a : α} (h : ReadsIf True r bs a) :
    Reads r bs a := h.reads trivial

theorem ReadsIf.congr {p q : Prop} {r : Reader ε α} {bs : List UInt8} {a : α}
    (h : ReadsIf p r bs a) (hpq : q ↔ p) : ReadsIf q r bs a where
  reads hq := h.reads (hpq.mp hq)
  rejects hq := h.rejects (hpq.not.mp hq)

theorem ReadsIf.bind {p q : Prop} {r : Reader ε α} {f : α → Reader ε β} {bs cs : List UInt8} {a : α}
    {b : β} (hr : ReadsIf p r bs a) (hf : ReadsIf q (f a) cs b) :
    ReadsIf (p ∧ q) (r >>= f) (bs ++ cs) b where
  reads h := (hr.reads h.1).bind (hf.reads h.2)
  rejects h := by
    by_cases hp : p
    · exact (hr.reads hp).bind_rejects (hf.rejects fun hq => h ⟨hp, hq⟩)
    · exact (hr.rejects hp).bind f cs

/-- A field that is always read, followed by the rest of the object. -/
theorem Reads.seq {q : Prop} {r : Reader ε α} {f : α → Reader ε β} {bs : List UInt8}
    {css : List (List UInt8)} {a : α} {b : β} (hr : Reads r bs a)
    (hf : ReadsIf q (f a) css.flatten b) : ReadsIf q (r >>= f) (bs :: css).flatten b := by
  rw [List.flatten_cons]
  exact (hr.readsIf.bind hf).congr (by simp)

/-- A field that is read where `p` holds, followed by the rest of the object. -/
theorem ReadsIf.seq {p q : Prop} {r : Reader ε α} {f : α → Reader ε β} {bs : List UInt8}
    {css : List (List UInt8)} {a : α} {b : β} (hr : ReadsIf p r bs a)
    (hf : ReadsIf q (f a) css.flatten b) : ReadsIf (p ∧ q) (r >>= f) (bs :: css).flatten b := by
  rw [List.flatten_cons]
  exact hr.bind hf

theorem ReadsIf.pure (a : α) : ReadsIf True (Pure.pure a : Reader ε α) [] a :=
  (Reads.pure a).readsIf

/-- A step that reads nothing: a check or a fallible constructor. -/
theorem ReadsIf.step {p q : Prop} {r : Reader ε α} {f : α → Reader ε β} {bs : List UInt8} {a : α}
    {b : β} (hr : ReadsIf p r [] a) (hf : ReadsIf q (f a) bs b) : ReadsIf (p ∧ q) (r >>= f) bs b :=
  hr.bind hf

theorem Reads.step {q : Prop} {r : Reader ε α} {f : α → Reader ε β} {bs : List UInt8} {a : α}
    {b : β} (hr : Reads r [] a) (hf : ReadsIf q (f a) bs b) : ReadsIf q (r >>= f) bs b :=
  (hr.readsIf.bind hf).congr (by simp)

/-- A read followed by a step that takes nothing from the input. -/
theorem Reads.then {r : Reader ε α} {f : α → Reader ε β} {bs : List UInt8} {a : α} {b : β}
    (hr : Reads r bs a) (hf : Reads (f a) [] b) : Reads (r >>= f) bs b := by
  simpa using hr.bind hf

theorem Reads.thenIf {p : Prop} {r : Reader ε α} {f : α → Reader ε β} {bs : List UInt8} {a : α}
    {b : β} (hr : Reads r bs a) (hf : ReadsIf p (f a) [] b) : ReadsIf p (r >>= f) bs b := by
  have h := hr.readsIf.bind hf
  rw [List.append_nil] at h
  exact h.congr (by simp)

theorem ReadsIf.then {p q : Prop} {r : Reader ε α} {f : α → Reader ε β} {bs : List UInt8} {a : α}
    {b : β} (hr : ReadsIf p r bs a) (hf : ReadsIf q (f a) [] b) : ReadsIf (p ∧ q) (r >>= f) bs b := by
  have h := hr.bind hf
  rwa [List.append_nil] at h

def fromExcept (x : Except ε α) : Reader ε α := fun s =>
  match x with
  | .ok a => .ok (a, s)
  | .error e => .error e

theorem exists_of_bind_ok {x : Except ε α} {f : α → Except ε β} {b : β} (h : (x >>= f) = .ok b) :
    ∃ a, x = .ok a ∧ f a = .ok b := by
  cases x with
  | error e => cases h
  | ok a => exact ⟨a, rfl, h⟩

theorem Reads.lift {x : Except ε α} {a : α} (h : x = .ok a) : Reads (fromExcept x) [] a := by
  intro rest
  subst h
  rfl

theorem ReadsIf.lift {p : Prop} {x : Except ε α} {a : α} (hok : p → x = .ok a)
    (herror : ¬p → ∃ e, x = .error e) : ReadsIf p (fromExcept x) [] a where
  reads hp := Reads.lift (hok hp)
  rejects hp := by
    intro rest
    obtain ⟨e, he⟩ := herror hp
    refine ⟨e, ?_⟩
    subst he
    rfl

def ensure (p : Prop) [Decidable p] (e : ε) : Reader ε Unit :=
  fromExcept (if p then .ok () else .error e)

theorem ReadsIf.ensure (p : Prop) [Decidable p] (e : ε) : ReadsIf p (ensure p e) [] () :=
  ReadsIf.lift (fun hp => if_pos hp) (fun hp => ⟨e, if_neg hp⟩)

theorem Reads.ensure {p : Prop} [Decidable p] (e : ε) (hp : p) : Reads (ensure p e) [] () :=
  (ReadsIf.ensure p e).reads hp

def readMany (r : Reader ε α) : Nat → Reader ε (List α)
  | 0 => pure []
  | n + 1 => do
    let x ← r
    let xs ← readMany r n
    pure (x :: xs)

/-- A reader of one item reads a whole list of them, where every item is accepted. -/
theorem ReadsIf.many {r : Reader ε α} {encode : α → List UInt8} {fits : α → Prop} {xs : List α}
    (h : ∀ x ∈ xs, ReadsIf (fits x) r (encode x) x) :
    ReadsIf (∀ x ∈ xs, fits x) (readMany r xs.length) (xs.flatMap encode) xs := by
  induction xs with
  | nil => exact (ReadsIf.pure []).congr (by simp)
  | cons x xs ih =>
    have htail := ih fun y hy => h y (List.mem_cons_of_mem x hy)
    have hhead := h x List.mem_cons_self
    have hrest : ReadsIf ((∀ y ∈ xs, fits y) ∧ True)
        (readMany r xs.length >>= fun ys => Pure.pure (x :: ys)) (xs.flatMap encode ++ []) (x :: xs) :=
      htail.bind (ReadsIf.pure (x :: xs))
    rw [List.append_nil] at hrest
    exact (hhead.bind hrest).congr (by simp)

theorem Reads.many {r : Reader ε α} {encode : α → List UInt8} {xs : List α}
    (h : ∀ x ∈ xs, Reads r (encode x) x) :
    Reads (readMany r xs.length) (xs.flatMap encode) xs :=
  (ReadsIf.many fun x hx => (h x hx).readsIf).reads fun _ _ => trivial

/-- Whatever the reader returns satisfies `P`. -/
def Yields (r : Reader ε α) (P : α → Prop) : Prop :=
  ∀ input a rest, r.run input = .ok (a, rest) → P a

theorem Yields.pure {P : α → Prop} {a : α} (h : P a) : Yields (Pure.pure a : Reader ε α) P := by
  intro input b rest hrun
  obtain ⟨rfl, -⟩ := Prod.mk.inj (Except.ok.inj hrun)
  exact h

theorem Yields.bind {P : α → Prop} {Q : β → Prop} {r : Reader ε α} {f : α → Reader ε β}
    (hr : Yields r P) (hf : ∀ a, P a → Yields (f a) Q) : Yields (r >>= f) Q := by
  intro input b rest hrun
  rw [StateT.run_bind] at hrun
  obtain ⟨⟨a, middle⟩, hread, hrest⟩ := exists_of_bind_ok hrun
  exact hf a (hr _ _ _ hread) _ _ _ hrest

/-- A step whose value does not matter. -/
theorem Yields.skip {Q : β → Prop} {r : Reader ε α} {f : α → Reader ε β}
    (hf : ∀ a, Yields (f a) Q) : Yields (r >>= f) Q :=
  Yields.bind (P := fun _ => True) (fun _ _ _ _ => trivial) fun a _ => hf a

theorem Yields.fromExcept {P : α → Prop} {x : Except ε α} (h : ∀ a, x = .ok a → P a) :
    Yields (fromExcept x) P := by
  intro input a rest hrun
  cases x with
  | error e => cases hrun
  | ok b =>
    obtain ⟨rfl, -⟩ := Prod.mk.inj (Except.ok.inj hrun)
    exact h b rfl

theorem Yields.many {P : α → Prop} {r : Reader ε α} (hr : Yields r P) :
    ∀ n, Yields (readMany r n) fun xs => xs.length = n ∧ ∀ x ∈ xs, P x
  | 0 => Yields.pure (by simp)
  | n + 1 => hr.bind fun x hx => (hr.many n).bind fun xs hxs =>
      Yields.pure ⟨by rw [List.length_cons, hxs.1], List.forall_mem_cons.mpr ⟨hx, hxs.2⟩⟩

/-- Runs a reader and hands the number of bytes it took to a check. -/
def consumed (r : Reader ε α) (check : Nat → α → Except ε β) : Reader ε β := fun s =>
  match r.run s with
  | .ok (a, rest) => (fromExcept (check (s.length - rest.length) a)).run rest
  | .error e => .error e

theorem ReadsIf.consumed {p q : Prop} {r : Reader ε α} {check : Nat → α → Except ε β}
    {bs : List UInt8} {a : α} {b : β} (hr : ReadsIf p r bs a)
    (hcheck : ReadsIf q (fromExcept (check bs.length a)) [] b) :
    ReadsIf (p ∧ q) (consumed r check) bs b := by
  have hrun : ∀ rest, r.run (bs ++ rest) = .ok (a, rest) → (Wire.consumed r check).run (bs ++ rest) =
      (fromExcept (check bs.length a)).run rest := by
    intro rest hread
    show (match r.run (bs ++ rest) with
      | .ok (a, rest') => (fromExcept (check ((bs ++ rest).length - rest'.length) a)).run rest'
      | .error e => .error e) = _
    rw [hread, List.length_append]
    simp
  constructor
  · intro h rest
    rw [hrun rest (hr.reads h.1 rest)]
    exact hcheck.reads h.2 rest
  · intro h rest
    by_cases hp : p
    · rw [hrun rest (hr.reads hp rest)]
      exact hcheck.rejects (fun hq => h ⟨hp, hq⟩) rest
    · obtain ⟨e, he⟩ := hr.rejects hp rest
      refine ⟨e, ?_⟩
      show (match r.run (bs ++ rest) with
        | .ok (a, rest') => (fromExcept (check ((bs ++ rest).length - rest'.length) a)).run rest'
        | .error e => .error e) = _
      rw [he]

end Judgments

end Wire
