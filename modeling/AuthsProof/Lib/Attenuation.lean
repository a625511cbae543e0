import Mathlib.Data.Set.Lattice
import Mathlib.Data.List.Chain

/-! Runs of a partial step function and the rules by which what one step narrows, a whole run
narrows. -/

namespace Attenuation

variable {S E G A : Type*} {step : S → G → Except E S}

/-- Applies the edges in order and stops at the first refusal. -/
def run (step : S → G → Except E S) : S → List G → Except E S
  | s, [] => .ok s
  | s, g :: gs =>
    match step s g with
    | .ok t => run step t gs
    | .error e => .error e

theorem run_cons_ok {s u : S} {g : G} {gs : List G} (h : run step s (g :: gs) = .ok u) :
    ∃ t, step s g = .ok t ∧ run step t gs = .ok u := by
  rw [run] at h
  cases hstep : step s g with
  | error e => simp [hstep] at h
  | ok t => exact ⟨t, rfl, by simpa [hstep] using h⟩

/-- The last edge of a run. -/
theorem run_concat_ok {s u : S} {g : G} {gs : List G} (h : run step s (gs ++ [g]) = .ok u) :
    ∃ t, run step s gs = .ok t ∧ step t g = .ok u := by
  induction gs generalizing s with
  | nil =>
    obtain ⟨t, ht, hrun⟩ := run_cons_ok h
    obtain rfl := Except.ok.inj hrun
    exact ⟨s, rfl, ht⟩
  | cons first gs ih =>
    obtain ⟨t, ht, hrun⟩ := run_cons_ok h
    obtain ⟨v, hv, hlast⟩ := ih hrun
    refine ⟨v, ?_, hlast⟩
    rw [run, ht]
    exact hv

/-- A property of the state that every step keeps, and that lets every accepted edge have `Q`, holds
at the end of a run all of whose edges have `Q`. -/
theorem run_invariant (step : S → G → Except E S) {P : S → Prop} {Q : G → Prop}
    (hstep : ∀ s g t, step s g = .ok t → P s → P t ∧ Q g) {s t : S} {gs : List G}
    (h : run step s gs = .ok t) (hs : P s) : P t ∧ ∀ g ∈ gs, Q g := by
  induction gs generalizing s with
  | nil =>
    obtain rfl := Except.ok.inj h
    exact ⟨hs, by simp⟩
  | cons g gs ih =>
    obtain ⟨u, hu, hrun⟩ := run_cons_ok h
    obtain ⟨hPu, hQ⟩ := hstep s g u hu hs
    obtain ⟨hPt, hQs⟩ := ih hrun hPu
    exact ⟨hPt, by simpa using ⟨hQ, hQs⟩⟩

/-- When every step admits no more than its source and no more than its own scope, the end of a run
admits nothing outside the start or outside any scope along the way. -/
theorem run_admits (step : S → G → Except E S) (admits : S → Set A) (scope : G → Set A)
    (hstep : ∀ s g t, step s g = .ok t → admits t ⊆ admits s ∩ scope g) {s t : S} {gs : List G}
    (h : run step s gs = .ok t) : admits t ⊆ admits s ∧ ∀ g ∈ gs, admits t ⊆ scope g := by
  induction gs generalizing s with
  | nil =>
    obtain rfl := Except.ok.inj h
    exact ⟨subset_rfl, by simp⟩
  | cons g gs ih =>
    obtain ⟨u, hu, hrun⟩ := run_cons_ok h
    obtain ⟨hadmits, hscopes⟩ := ih hrun
    have hfirst := hadmits.trans (hstep s g u hu)
    refine ⟨hfirst.trans Set.inter_subset_left, fun g' hg' => ?_⟩
    rcases List.mem_cons.mp hg' with rfl | hg'
    · exact hfirst.trans Set.inter_subset_right
    · exact hscopes g' hg'

/-- Every edge is related to what the edge before it, or the start, leaves behind. -/
def Linked {B : Type*} (R : B → G → Prop) (out : G → B) : B → List G → Prop
  | _, [] => True
  | b, g :: gs => R b g ∧ Linked R out (out g) gs

theorem Linked.getElem {B : Type*} {R : B → G → Prop} {out : G → B} {b : B} {gs : List G}
    (h : Linked R out b gs) :
    (∀ g, gs[0]? = some g → R b g) ∧
      ∀ i g g', gs[i]? = some g → gs[i + 1]? = some g' → R (out g) g' := by
  induction gs generalizing b with
  | nil => simp
  | cons g gs ih =>
    obtain ⟨hfirst, hrest⟩ := ih h.2
    refine ⟨by simpa using h.1, fun i g' g'' hi hi' => ?_⟩
    cases i with
    | zero =>
      simp only [List.getElem?_cons_zero, Option.some.injEq, Nat.zero_add, List.getElem?_cons_succ]
        at hi hi'
      exact hi ▸ hfirst g'' hi'
    | succ i =>
      simp only [List.getElem?_cons_succ] at hi hi'
      exact hrest i g' g'' hi hi'

/-- A relation that composes through what an edge leaves behind holds between any two edges of a linked
list, and between the start and each of them. -/
theorem Linked.pairwise {B : Type*} {R : B → G → Prop} {out : G → B} {b : B} {gs : List G}
    (htrans : ∀ b g g', R b g → R (out g) g' → R b g') (h : Linked R out b gs) :
    (∀ g ∈ gs, R b g) ∧ gs.Pairwise fun g g' => R (out g) g' := by
  induction gs generalizing b with
  | nil => simp
  | cons g gs ih =>
    obtain ⟨hfirst, hrest⟩ := ih h.2
    refine ⟨fun g' hg' => ?_, List.Pairwise.cons hfirst hrest⟩
    rcases List.mem_cons.mp hg' with rfl | hg'
    · exact h.1
    · exact htrans b g g' h.1 (hfirst g' hg')

/-- What a step checks against the state's memory of the last edge links the edges of a run. -/
theorem run_linked (step : S → G → Except E S) {B : Type*} {R : B → G → Prop} {out : G → B} (last : S → B)
    (hstep : ∀ s g t, step s g = .ok t → R (last s) g ∧ last t = out g) {s t : S} {gs : List G}
    (h : run step s gs = .ok t) : Linked R out (last s) gs := by
  induction gs generalizing s with
  | nil => exact trivial
  | cons g gs ih =>
    obtain ⟨u, hu, hrun⟩ := run_cons_ok h
    obtain ⟨hrel, hlast⟩ := hstep s g u hu
    exact ⟨hrel, hlast ▸ ih hrun⟩

theorem run_last (step : S → G → Except E S) {B : Type*} {out : G → B} (last : S → B)
    (hstep : ∀ s g t, step s g = .ok t → last t = out g) {s t : S} {gs : List G}
    (h : run step s gs = .ok t) : last t = (gs.map out).getLastD (last s) := by
  induction gs generalizing s with
  | nil =>
    obtain rfl := Except.ok.inj h
    rfl
  | cons g gs ih =>
    obtain ⟨u, hu, hrun⟩ := run_cons_ok h
    rw [ih hrun, hstep s g u hu, List.map_cons, List.getLastD_cons]

/-- A measure every step lowers bounds the length of a run. -/
theorem run_length (step : S → G → Except E S) (measure : S → Nat) (hstep : ∀ s g t, step s g = .ok t → measure t < measure s)
    {s t : S} {gs : List G} (h : run step s gs = .ok t) : measure t + gs.length ≤ measure s := by
  induction gs generalizing s with
  | nil =>
    obtain rfl := Except.ok.inj h
    simp
  | cons g gs ih =>
    obtain ⟨u, hu, hrun⟩ := run_cons_ok h
    have hlt := hstep s g u hu
    have hle := ih hrun
    rw [List.length_cons]
    omega

section Covering

variable {α : Type*} {covers : α → α → Prop} {xs ys zs : List α}

/-- Every item of the parent is covered by some item of the child; the child may have more. -/
def Retains (covers : α → α → Prop) (child parent : List α) : Prop :=
  ∀ p ∈ parent, ∃ c ∈ child, covers c p

theorem Retains.refl (h : ∀ x ∈ xs, covers x x) : Retains covers xs xs :=
  fun x hx => ⟨x, hx, h x hx⟩

theorem Retains.trans (htrans : ∀ x y z, covers x y → covers y z → covers x z)
    (hxy : Retains covers xs ys) (hyz : Retains covers ys zs) : Retains covers xs zs := by
  intro z hz
  obtain ⟨y, hy, hcovers⟩ := hyz z hz
  obtain ⟨x, hx, hover⟩ := hxy y hy
  exact ⟨x, hx, htrans x y z hover hcovers⟩

/-- What every covering carries over, a retained list carries over. -/
theorem Retains.forall {P : α → Prop} (hcovers : ∀ c p, covers c p → P c → P p)
    (h : Retains covers xs ys) (hxs : ∀ x ∈ xs, P x) : ∀ y ∈ ys, P y := by
  intro y hy
  obtain ⟨x, hx, hover⟩ := h y hy
  exact hcovers x y hover (hxs x hx)

end Covering

end Attenuation
