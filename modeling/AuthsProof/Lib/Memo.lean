import Mathlib.Data.List.Basic
import Mathlib.Algebra.BigOperators.Group.List.Basic
import Mathlib.Order.Basic

/-! Paying for memoised answers. The items of a list are marked by position: `known` marks the answers
that are already there, `asked` those that a computation needs, and only what is asked and not known
is due. -/

namespace Memo

/-- Marks on the positions of a list. -/
abbrev Marks := Nat → Bool

namespace Marks

def none : Marks := fun _ => false

/-- The marks of the tail. -/
def tail (marks : Marks) : Marks := fun i => marks (i + 1)

/-- A mark for the head and marks for the tail. -/
def cons (head : Bool) (marks : Marks) : Marks
  | 0 => head
  | i + 1 => marks i

def join (a b : Marks) : Marks := fun i => a i || b i

/-- Everything `a` marks is marked by `b`. -/
def Within (a b : Marks) : Prop := ∀ i, a i = true → b i = true

@[simp] theorem cons_zero (head : Bool) (marks : Marks) : cons head marks 0 = head := rfl

@[simp] theorem tail_cons (head : Bool) (marks : Marks) : (cons head marks).tail = marks := rfl

@[simp] theorem tail_none : none.tail = none := rfl

@[simp] theorem tail_join (a b : Marks) : (a.join b).tail = a.tail.join b.tail := rfl

@[simp] theorem join_zero (a b : Marks) : a.join b 0 = (a 0 || b 0) := rfl

@[simp] theorem join_none (a : Marks) : a.join none = a := funext fun i => Bool.or_false (a i)

theorem none_within (a : Marks) : none.Within a := fun _ h => nomatch h

theorem Within.trans {a b c : Marks} (hab : a.Within b) (hbc : b.Within c) : a.Within c :=
  fun i h => hbc i (hab i h)

theorem Within.join {a b c : Marks} (hac : a.Within c) (hbc : b.Within c) : (a.join b).Within c :=
  fun i h => (Bool.or_eq_true _ _ ▸ h).elim (hac i) (hbc i)

theorem within_join_left (a b : Marks) : a.Within (a.join b) := fun i h => by simp [Marks.join, h]

theorem within_join_right (a b : Marks) : b.Within (a.join b) := fun i h => by simp [Marks.join, h]

theorem Within.cons {a b : Bool} {as bs : Marks} (hhead : a = true → b = true)
    (htail : as.Within bs) : (cons a as).Within (Marks.cons b bs)
  | 0, h => hhead h
  | i + 1, h => htail i h

end Marks

variable {α : Type*} (price : α → Nat)

/-- What the asked and not yet known answers cost. -/
def due (known asked : Marks) : List α → Nat
  | [] => 0
  | x :: xs => (bif asked 0 && !known 0 then price x else 0) + due known.tail asked.tail xs

@[simp] theorem due_none (known : Marks) (xs : List α) : due price known .none xs = 0 := by
  induction xs generalizing known with
  | nil => rfl
  | cons x xs ih =>
    rw [due, Marks.tail_none, ih]
    rfl

/-- Paying for two computations one after the other is paying for both at once. -/
theorem due_join (known asked others : Marks) (xs : List α) :
    due price known asked xs + due price (known.join asked) others xs =
      due price known (asked.join others) xs := by
  induction xs generalizing known asked others with
  | nil => rfl
  | cons x xs ih =>
    have htail := ih known.tail asked.tail others.tail
    simp only [due, Marks.tail_join, Marks.join_zero]
    cases known 0 <;> cases asked 0 <;> cases others 0 <;>
      simp only [Bool.or_false, Bool.or_true, Bool.and_false, Bool.and_true, Bool.not_false,
        Bool.not_true, cond_true, cond_false] <;>
      omega

theorem due_le {asked others : Marks} (h : asked.Within others) (known : Marks) (xs : List α) :
    due price known asked xs ≤ due price known others xs := by
  induction xs generalizing known asked others with
  | nil => exact Nat.le_refl 0
  | cons x xs ih =>
    have htail : due price known.tail asked.tail xs ≤ due price known.tail others.tail xs :=
      ih (fun i hi => h (i + 1) hi) known.tail
    have hhead := h 0
    simp only [due]
    cases hasked : asked 0 with
    | false =>
      rw [Bool.false_and, cond_false]
      omega
    | true =>
      rw [hhead hasked]
      omega

end Memo
