import AuthsProof.Lib.Sorting
import Mathlib.Data.List.Count
import Mathlib.Data.List.Perm.Basic

/-! Lists whose members can be put in an order without equal neighbours. -/

namespace Arrange

variable {α γ : Type*} [DecidableEq γ] {value : α → γ}

/-- How often a value occurs. -/
def occurs (value : α → γ) (xs : List α) (c : γ) : Nat := xs.countP fun x => value x = c

theorem occurs_cons_self (x : α) (xs : List α) :
    occurs value (x :: xs) (value x) = occurs value xs (value x) + 1 :=
  List.countP_cons_of_pos (decide_eq_true rfl)

theorem occurs_cons_ne {x : α} (xs : List α) {c : γ} (h : value x ≠ c) :
    occurs value (x :: xs) c = occurs value xs c :=
  List.countP_cons_of_neg (by simpa using h)

theorem occurs_perm {xs ys : List α} (h : xs.Perm ys) (c : γ) :
    occurs value xs c = occurs value ys c :=
  h.countP_eq _

theorem occurs_le_length (xs : List α) (c : γ) : occurs value xs c ≤ xs.length :=
  List.countP_le_length

/-- Two values together occur no more often than there are members. -/
theorem occurs_add_le (xs : List α) {c d : γ} (h : c ≠ d) :
    occurs value xs c + occurs value xs d ≤ xs.length := by
  induction xs with
  | nil => simp [occurs]
  | cons x xs ih =>
    rw [List.length_cons]
    by_cases hc : value x = c
    · have hd : value x ≠ d := hc.trans_ne h
      rw [occurs_cons_ne xs hd, ← hc, occurs_cons_self]
      rw [← hc] at ih
      omega
    · rw [occurs_cons_ne xs hc]
      by_cases hd : value x = d
      · rw [← hd, occurs_cons_self]
        rw [← hd] at ih
        omega
      · rw [occurs_cons_ne xs hd]
        omega

/-- Between equal neighbours kept apart, no value fills more than every other place. -/
theorem occurs_of_chain {x : α} {xs : List α}
    (h : (x :: xs).IsChain fun a b => value a ≠ value b) (c : γ) :
    2 * occurs value (x :: xs) c ≤ (x :: xs).length + 1 ∧
      (value x ≠ c → 2 * occurs value (x :: xs) c ≤ (x :: xs).length) := by
  induction xs generalizing x with
  | nil =>
    have hlength := @occurs_le_length _ _ _ value [x] c
    rw [List.length_singleton] at hlength ⊢
    refine ⟨by omega, fun hne => ?_⟩
    rw [occurs_cons_ne [] hne]
    exact Nat.zero_le _
  | cons y xs ih =>
    obtain ⟨hxy, hrest⟩ := List.isChain_cons_cons.mp h
    obtain ⟨hall, hother⟩ := ih hrest
    rw [List.length_cons]
    by_cases hx : value x = c
    · have hy := hother fun hy => hxy (hx.trans hy.symm)
      rw [← hx] at hy ⊢
      rw [occurs_cons_self]
      exact ⟨by omega, fun hne => absurd rfl hne⟩
    · rw [occurs_cons_ne _ hx]
      exact ⟨by omega, fun _ => by omega⟩

theorem occurs_le_of_chain {xs : List α} (h : xs.IsChain fun a b => value a ≠ value b) (c : γ) :
    2 * occurs value xs c ≤ xs.length + 1 := by
  cases xs with
  | nil => exact Nat.zero_le _
  | cons x xs => exact (occurs_of_chain h c).1

/-- A list no value of which fills more than every other place can be arranged, also behind a last
member whose value fills at most half of it. -/
theorem exists_chain {last : Option γ} {xs : List α}
    (hxs : ∀ c, 2 * occurs value xs c ≤ xs.length + 1)
    (hlast : ∀ c, last = some c → 2 * occurs value xs c ≤ xs.length) :
    ∃ ys : List α, ys.Perm xs ∧ ys.IsChain (fun a b => value a ≠ value b) ∧
      ∀ y, ys.head? = some y → last ≠ some (value y) := by
  induction hn : xs.length generalizing last xs with
  | zero =>
    have hempty : xs = [] := List.length_eq_zero_iff.mp hn
    exact ⟨[], hempty ▸ .nil, .nil, fun y hy => nomatch hy⟩
  | succ n ih =>
    -- The next member: one of a value that fills every other place, or any that differs from the last.
    have hnext : ∃ x ∈ xs, last ≠ some (value x) ∧ 2 * occurs value xs (value x) ≤ n + 2 ∧
        ∀ c, c ≠ value x → 2 * occurs value xs c ≤ n + 1 := by
      by_cases htight : ∃ x ∈ xs, 2 * occurs value xs (value x) = n + 2
      · obtain ⟨x, hx, hfull⟩ := htight
        refine ⟨x, hx, fun hsame => ?_, hfull.le, fun c hc => ?_⟩
        · have hhalf := hlast (value x) hsame
          omega
        · have htwo := @occurs_add_le _ _ _ value xs _ _ hc
          omega
      · have hloose : ∀ c, 2 * occurs value xs c ≤ n + 1 := by
          intro c
          by_contra hmany
          have hbound := hxs c
          obtain ⟨x, hx, hvalue⟩ := List.countP_pos_iff.mp (show 0 < occurs value xs c by omega)
          refine htight ⟨x, hx, ?_⟩
          rw [of_decide_eq_true hvalue]
          omega
        by_cases hdiffers : ∃ x ∈ xs, last ≠ some (value x)
        · obtain ⟨x, hx, hne⟩ := hdiffers
          exact ⟨x, hx, hne, (hloose _).trans (by omega), fun c _ => hloose c⟩
        · push Not at hdiffers
          obtain ⟨first, hfirst⟩ := List.exists_mem_of_length_pos (show 0 < xs.length by omega)
          have hall : occurs value xs (value first) = xs.length := by
            refine List.countP_eq_length.mpr fun x hx => decide_eq_true ?_
            exact Option.some.inj ((hdiffers x hx).symm.trans (hdiffers first hfirst))
          have hbound := hloose (value first)
          omega
    obtain ⟨x, hx, hdiffers, hown, hothers⟩ := hnext
    obtain ⟨before, after, rfl⟩ := List.append_of_mem hx
    have hperm : (before ++ x :: after).Perm (x :: (before ++ after)) := List.perm_middle
    have hlength : (before ++ after).length = n := by
      have hcount := hperm.length_eq
      rw [List.length_cons] at hcount
      omega
    have hcounts : ∀ c, occurs value (before ++ x :: after) c = occurs value (x :: (before ++ after)) c :=
      occurs_perm hperm
    have hself : 2 * occurs value (before ++ after) (value x) ≤ n := by
      rw [hcounts, occurs_cons_self] at hown
      omega
    have hrest : ∀ c, 2 * occurs value (before ++ after) c ≤ (before ++ after).length + 1 := by
      intro c
      by_cases hc : c = value x
      · rw [hc]
        omega
      · have hother := hothers c hc
        rw [hcounts, occurs_cons_ne _ (Ne.symm hc)] at hother
        omega
    obtain ⟨ys, hys, hchain, hhead⟩ := @ih (some (value x)) (before ++ after) hrest
      (fun c hc => by rw [← Option.some.inj hc, hlength]; exact hself) hlength
    refine ⟨x :: ys, (hys.cons x).trans hperm.symm, ?_, fun y hy => ?_⟩
    · exact List.isChain_cons.mpr ⟨fun y hy heq => hhead y hy (congrArg some heq), hchain⟩
    · obtain rfl := Option.some.inj hy
      exact hdiffers

/-- A list can be arranged exactly when no value fills more than every other place. -/
theorem exists_perm_chain_iff {xs : List α} :
    (∃ ys : List α, ys.Perm xs ∧ ys.IsChain fun a b => value a ≠ value b) ↔
      ∀ c, 2 * occurs value xs c ≤ xs.length + 1 := by
  constructor
  · rintro ⟨ys, hperm, hchain⟩ c
    rw [← occurs_perm hperm, ← hperm.length_eq]
    exact occurs_le_of_chain hchain c
  · intro h
    obtain ⟨ys, hperm, hchain, -⟩ := @exists_chain _ _ _ value none xs h (fun c hc => nomatch hc)
    exact ⟨ys, hperm, hchain⟩

omit [DecidableEq γ] in
/-- Members with equal values are neighbours only within their own group. -/
theorem chain_of_filter {β : Type*} [DecidableEq β] {key : α → β}
    (hkey : ∀ a b, value a = value b → key a = key b) {xs : List α}
    (h : ∀ v, (xs.filter fun x => key x = v).IsChain fun a b => value a ≠ value b) :
    xs.IsChain fun a b => value a ≠ value b := by
  induction xs with
  | nil => exact .nil
  | cons a rest ih =>
    have hrest : rest.IsChain fun a b => value a ≠ value b := by
      refine ih fun v => ?_
      have hv := h v
      by_cases ha : key a = v
      · rw [List.filter_cons_of_pos (by simpa using ha)] at hv
        exact hv.tail
      · rwa [List.filter_cons_of_neg (by simpa using ha)] at hv
    refine List.isChain_cons.mpr ⟨fun b hb hab => ?_, hrest⟩
    have hgroup := h (key a)
    cases rest with
    | nil => cases hb
    | cons c rest =>
      obtain rfl := Option.some.inj hb
      rw [List.filter_cons_of_pos (by simp),
        List.filter_cons_of_pos (by simpa using (hkey a c hab).symm)] at hgroup
      exact (List.isChain_cons_cons.mp hgroup).1 hab

/-- Members of different groups can be rearranged each within its own group. -/
theorem exists_perm_filter {β : Type*} [DecidableEq β] (key : α → β) {xs : List α}
    (arranged : β → List α) (h : ∀ v, (arranged v).Perm (xs.filter fun x => key x = v)) :
    ∃ ys : List α, ys.Perm xs ∧ ∀ v, ys.filter (fun x => key x = v) = arranged v := by
  induction hn : xs.length using Nat.strong_induction_on generalizing xs arranged with
  | _ n ih =>
    cases xs with
    | nil => exact ⟨[], .nil, fun v => ((h v).eq_nil).symm⟩
    | cons x rest =>
      have hsplit := List.filter_append_perm (fun a => decide (key a = key x)) (x :: rest)
      generalize hothers : (x :: rest).filter (fun a => !decide (key a = key x)) = others at hsplit
      have hfewer : others.length < n := by
        rw [← hn, ← hothers, List.filter_cons_of_neg (by simp), List.length_cons]
        exact Nat.lt_succ_of_le (List.length_filter_le _ _)
      have hkept : ∀ v, others.filter (fun a => key a = v) =
          if v = key x then [] else (x :: rest).filter fun a => key a = v := by
        intro v
        rw [← hothers, List.filter_filter]
        by_cases hv : v = key x
        · rw [if_pos hv, List.filter_eq_nil_iff]
          intro a _
          simp [hv]
        · rw [if_neg hv]
          refine List.filter_congr fun a _ => ?_
          by_cases ha : key a = v <;> simp [ha, hv]
      obtain ⟨ys, hperm, hfilter⟩ := @ih others.length hfewer others
        (fun v => if v = key x then [] else arranged v) (fun v => by
          rw [hkept]
          by_cases hv : v = key x
          · rw [if_pos hv, if_pos hv]
          · rw [if_neg hv, if_neg hv]
            exact h v) rfl
      have hown : ∀ a ∈ arranged (key x), key a = key x := fun a ha => by
        simpa using List.of_mem_filter ((h (key x)).mem_iff.mp ha)
      refine ⟨arranged (key x) ++ ys, ((h (key x)).append hperm).trans hsplit, fun v => ?_⟩
      rw [List.filter_append, hfilter]
      by_cases hv : v = key x
      · rw [if_pos hv, List.append_nil, hv, List.filter_eq_self]
        exact fun a ha => decide_eq_true (hown a ha)
      · rw [if_neg hv, List.filter_eq_nil_iff.mpr, List.nil_append]
        intro a ha
        simpa [hown a ha] using Ne.symm hv

/-- A value occurs as often within its own group as in the whole list. -/
theorem occurs_filter {β : Type*} [DecidableEq β] {key : α → β}
    (hkey : ∀ a b, value a = value b → key a = key b) (x : α) (xs : List α) :
    occurs value (xs.filter fun a => key a = key x) (value x) = occurs value xs (value x) := by
  rw [occurs, occurs, List.countP_filter]
  refine List.countP_congr fun a _ => ?_
  simp only [Bool.and_eq_true, decide_eq_true_eq]
  exact ⟨fun h => h.1, fun h => ⟨h, hkey a x h⟩⟩

/-- A list can be rearranged so that no group has equal neighbours exactly when none of its members
fills more than every other place of its group. -/
theorem exists_perm_groups_iff {β : Type*} [DecidableEq β] {key : α → β}
    (hkey : ∀ a b, value a = value b → key a = key b) {xs : List α} :
    (∃ ys : List α, ys.Perm xs ∧
        ∀ v, (ys.filter fun a => key a = v).IsChain fun a b => value a ≠ value b) ↔
      ∀ x ∈ xs, 2 * occurs value xs (value x) ≤ (xs.filter fun a => key a = key x).length + 1 := by
  constructor
  · rintro ⟨ys, hperm, hchain⟩ x -
    have hgroup := occurs_le_of_chain (hchain (key x)) (value x)
    rwa [occurs_filter hkey, occurs_perm hperm, (hperm.filter _).length_eq] at hgroup
  · intro h
    have harranged : ∀ v, ∃ group : List α, group.Perm (xs.filter fun a => key a = v) ∧
        group.IsChain fun a b => value a ≠ value b := by
      intro v
      refine exists_perm_chain_iff.mpr fun c => ?_
      by_contra hmany
      obtain ⟨x, hx, hvalue⟩ := List.countP_pos_iff.mp
        (show 0 < occurs value (xs.filter fun a => key a = v) c by omega)
      obtain ⟨hmem, hown⟩ := List.mem_filter.mp hx
      obtain rfl := of_decide_eq_true hown
      obtain rfl := of_decide_eq_true hvalue
      exact hmany (occurs_filter hkey x xs ▸ h x hmem)
    choose arranged hperm hchain using harranged
    obtain ⟨ys, hys, hfilter⟩ := exists_perm_filter key arranged hperm
    exact ⟨ys, hys, fun v => hfilter v ▸ hchain v⟩

end Arrange
