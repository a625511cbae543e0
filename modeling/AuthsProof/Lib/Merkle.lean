import Mathlib.Algebra.Group.Nat.Defs
import Mathlib.Data.List.TakeDrop
import Mathlib.Data.Nat.Log

/-! Hash trees split at the largest power of two, and the same trees built level by level. -/

namespace Merkle

variable {H : Type} (node : H → H → H)

/-- The largest power of two below `n`, for `n` above one. -/
def split (n : Nat) : Nat := 2 ^ Nat.log 2 (n - 1)

theorem split_pos (n : Nat) : 0 < split n := Nat.two_pow_pos _

theorem split_lt {n : Nat} (h : 2 ≤ n) : split n < n := by
  have hle : split n ≤ n - 1 := Nat.pow_log_le_self 2 (by omega)
  omega

theorem le_two_mul_split {n : Nat} (h : 2 ≤ n) : n ≤ 2 * split n := by
  have hlt : n - 1 < 2 ^ (Nat.log 2 (n - 1) + 1) := Nat.lt_pow_succ_log_self (by omega) _
  rw [Nat.pow_succ] at hlt
  unfold split
  omega

/-- Halving a tree halves its split. -/
theorem split_eq_two_mul {n : Nat} (h : 3 ≤ n) : split n = 2 * split ((n + 1) / 2) := by
  have hhalf : (n + 1) / 2 - 1 = (n - 1) / 2 := by omega
  have hlog : Nat.log 2 (n - 1) = Nat.log 2 ((n - 1) / 2) + 1 :=
    Nat.log_of_one_lt_of_le (by omega) (by omega)
  rw [split, split, hhalf, hlog, Nat.pow_succ, Nat.mul_comm]

/-- The root of a tree, `empty` where there are no leaves. -/
def root (empty : H) (leaves : List H) : H :=
  match leaves with
  | [] => empty
  | [leaf] => leaf
  | first :: second :: rest =>
    let leaves := first :: second :: rest
    node (root empty (leaves.take (split leaves.length)))
      (root empty (leaves.drop (split leaves.length)))
termination_by leaves.length
decreasing_by
  all_goals
    have hlt := split_lt (n := (first :: second :: rest).length) (by simp)
    have hpos := split_pos (first :: second :: rest).length
    simp only [List.length_take, List.length_drop]
    omega

/-- The siblings from the leaf up to the root. -/
def path (empty : H) (index : Nat) (leaves : List H) : List H :=
  match leaves with
  | [] | [_] => []
  | first :: second :: rest =>
    let leaves := first :: second :: rest
    let left := leaves.take (split leaves.length)
    let right := leaves.drop (split leaves.length)
    if index < split leaves.length then path empty index left ++ [root node empty right]
    else path empty (index - split leaves.length) right ++ [root node empty left]
termination_by leaves.length
decreasing_by
  all_goals
    have hlt := split_lt (n := (first :: second :: rest).length) (by simp)
    have hpos := split_pos (first :: second :: rest).length
    simp only [List.length_take, List.length_drop]
    omega

variable (empty : H)

theorem root_split {leaves : List H} (h : 2 ≤ leaves.length) : root node empty leaves =
    node (root node empty (leaves.take (split leaves.length)))
      (root node empty (leaves.drop (split leaves.length))) := by
  match leaves, h with
  | first :: second :: rest, _ => rw [root]

theorem path_split {leaves : List H} (h : 2 ≤ leaves.length) (index : Nat) :
    path node empty index leaves =
      if index < split leaves.length then
        path node empty index (leaves.take (split leaves.length)) ++
          [root node empty (leaves.drop (split leaves.length))]
      else path node empty (index - split leaves.length) (leaves.drop (split leaves.length)) ++
        [root node empty (leaves.take (split leaves.length))] := by
  match leaves, h with
  | first :: second :: rest, _ => rw [path]

/-! ## Level by level -/

/-- One level up: neighbours are joined, and a last one alone is kept. -/
def pairUp : List H → List H
  | [] => []
  | [leaf] => [leaf]
  | left :: right :: rest => node left right :: pairUp rest

/-- The neighbour of a place, where it has one. -/
def sibling (index : Nat) (leaves : List H) : List H :=
  if index % 2 = 1 then leaves[index - 1]?.toList else leaves[index + 1]?.toList

theorem length_pairUp (leaves : List H) : (pairUp node leaves).length = (leaves.length + 1) / 2 := by
  induction leaves using pairUp.induct with
  | case1 => simp [pairUp]
  | case2 leaf => simp [pairUp]
  | case3 left right rest ih =>
    rw [pairUp, List.length_cons, ih]
    simp only [List.length_cons]
    omega

/-- Levels of an even front part are built apart. -/
theorem pairUp_append {front back : List H} (h : front.length % 2 = 0) :
    pairUp node (front ++ back) = pairUp node front ++ pairUp node back := by
  induction front using pairUp.induct with
  | case1 => rfl
  | case2 leaf => simp at h
  | case3 left right rest ih =>
    have hrest : rest.length % 2 = 0 := by
      simp only [List.length_cons] at h
      omega
    simp only [List.cons_append, pairUp, ih hrest]

theorem getElem?_pairUp {leaves : List H} {index : Nat} {left right : H}
    (hleft : leaves[2 * index]? = some left) (hright : leaves[2 * index + 1]? = some right) :
    (pairUp node leaves)[index]? = some (node left right) := by
  induction leaves using pairUp.induct generalizing index with
  | case1 => simp at hleft
  | case2 leaf =>
    obtain ⟨hlt, -⟩ := List.getElem?_eq_some_iff.mp hright
    simp at hlt
  | case3 first second rest ih =>
    cases index with
    | zero =>
      obtain rfl : first = left := by simpa using hleft
      obtain rfl : second = right := by simpa using hright
      rfl
    | succ index =>
      rw [show 2 * (index + 1) = 2 * index + 1 + 1 by omega, List.getElem?_cons_succ,
        List.getElem?_cons_succ] at hleft
      rw [show 2 * (index + 1) + 1 = 2 * index + 1 + 1 + 1 by omega, List.getElem?_cons_succ,
        List.getElem?_cons_succ] at hright
      exact ih hleft hright

theorem getElem?_pairUp_last {leaves : List H} {index : Nat} {leaf : H}
    (hleaf : leaves[2 * index]? = some leaf) (hlast : leaves.length = 2 * index + 1) :
    (pairUp node leaves)[index]? = some leaf := by
  induction leaves using pairUp.induct generalizing index with
  | case1 => simp at hlast
  | case2 first =>
    obtain rfl : index = 0 := by
      simp only [List.length_singleton] at hlast
      omega
    exact hleaf
  | case3 first second rest ih =>
    cases index with
    | zero => simp at hlast
    | succ index =>
      rw [show 2 * (index + 1) = 2 * index + 1 + 1 by omega, List.getElem?_cons_succ,
        List.getElem?_cons_succ] at hleaf
      simp only [List.length_cons] at hlast
      exact ih hleaf (by omega)

/-- The next level splits where the level below it does. -/
theorem pairUp_split {leaves : List H} (h : 3 ≤ leaves.length) :
    (pairUp node leaves).take (split (pairUp node leaves).length) =
        pairUp node (leaves.take (split leaves.length)) ∧
      (pairUp node leaves).drop (split (pairUp node leaves).length) =
        pairUp node (leaves.drop (split leaves.length)) := by
  have hsplit := split_eq_two_mul h
  have hlt := split_lt (n := leaves.length) (by omega)
  have htake : (leaves.take (split leaves.length)).length = split leaves.length := by
    rw [List.length_take]
    omega
  have happend : pairUp node (leaves.take (split leaves.length) ++ leaves.drop (split leaves.length)) =
      pairUp node (leaves.take (split leaves.length)) ++
        pairUp node (leaves.drop (split leaves.length)) := pairUp_append node (by rw [htake]; omega)
  rw [List.take_append_drop] at happend
  have hlength : (pairUp node (leaves.take (split leaves.length))).length =
      split (pairUp node leaves).length := by
    rw [length_pairUp, length_pairUp, htake]
    omega
  rw [happend] at hlength ⊢
  exact ⟨List.take_left' hlength, List.drop_left' hlength⟩

theorem split_two : split 2 = 1 := by
  rw [split]
  simp

theorem root_pair (left right : H) : root node empty [left, right] = node left right := by
  rw [root]
  show node (root node empty (List.take (split 2) [left, right]))
    (root node empty (List.drop (split 2) [left, right])) = _
  rw [split_two]
  show node (root node empty [left]) (root node empty [right]) = _
  rw [root, root]

theorem path_pair_left (left right : H) : path node empty 0 [left, right] = [right] := by
  rw [path]
  show (if 0 < split 2 then path node empty 0 (List.take (split 2) [left, right]) ++
    [root node empty (List.drop (split 2) [left, right])] else _) = _
  rw [split_two, if_pos Nat.zero_lt_one]
  show path node empty 0 [left] ++ [root node empty [right]] = _
  rw [path, root]
  rfl

theorem path_pair_right (left right : H) : path node empty 1 [left, right] = [left] := by
  rw [path]
  show (if 1 < split 2 then _ else path node empty (1 - split 2) (List.drop (split 2) [left, right]) ++
    [root node empty (List.take (split 2) [left, right])]) = _
  rw [split_two, if_neg (Nat.lt_irrefl 1)]
  show path node empty 0 [right] ++ [root node empty [left]] = _
  rw [path, root]
  rfl

/-- A tree has the root of its next level. -/
theorem root_pairUp (leaves : List H) : root node empty (pairUp node leaves) =
    root node empty leaves := by
  induction hn : leaves.length using Nat.strong_induction_on generalizing leaves with
  | _ n ih =>
    match leaves, hn with
    | [], _ => rfl
    | [leaf], _ => rfl
    | [left, right], _ =>
      rw [root_pair, pairUp, pairUp, root]
    | first :: second :: third :: rest, hn =>
      generalize hleaves : first :: second :: third :: rest = leaves at hn ⊢
      have hthree : 3 ≤ leaves.length := by
        rw [← hleaves]
        simp
      have hlt := split_lt (n := leaves.length) (by omega)
      have hpos := split_pos leaves.length
      obtain ⟨htake, hdrop⟩ := pairUp_split node hthree
      have htwo : 2 ≤ (pairUp node leaves).length := by
        rw [length_pairUp]
        omega
      rw [root_split node empty htwo, root_split node empty (show 2 ≤ leaves.length by omega), htake,
        hdrop, ih _ (by rw [List.length_take]; omega) _ rfl,
        ih _ (by rw [List.length_drop]; omega) _ rfl]

theorem sibling_take {leaves : List H} {index cut : Nat} (hcut : cut % 2 = 0)
    (hindex : index < cut) : sibling index (leaves.take cut) = sibling index leaves := by
  unfold sibling
  split
  · rw [List.getElem?_take, if_pos (by omega)]
  · rw [List.getElem?_take, if_pos (by omega)]

theorem sibling_drop {leaves : List H} {index cut : Nat} (hcut : cut % 2 = 0)
    (hindex : cut ≤ index) : sibling (index - cut) (leaves.drop cut) = sibling index leaves := by
  unfold sibling
  by_cases hodd : index % 2 = 1
  · rw [if_pos hodd, if_pos (by omega), List.getElem?_drop, show cut + (index - cut - 1) = index - 1
      by omega]
  · rw [if_neg hodd, if_neg (by omega), List.getElem?_drop, show cut + (index - cut + 1) = index + 1
      by omega]

/-- A path is a leaf's sibling and then the path one level up. -/
theorem path_pairUp {leaves : List H} (h : 2 ≤ leaves.length) {index : Nat}
    (hindex : index < leaves.length) : path node empty index leaves =
      sibling index leaves ++ path node empty (index / 2) (pairUp node leaves) := by
  induction hn : leaves.length using Nat.strong_induction_on generalizing leaves index with
  | _ n ih =>
    by_cases htwo : leaves.length = 2
    · match leaves, htwo, index, hindex with
      | [left, right], _, 0, _ =>
        rw [path_pair_left, pairUp, pairUp, path]
        rfl
      | [left, right], _, 1, _ =>
        rw [path_pair_right, pairUp, pairUp, path]
        rfl
    · have hthree : 3 ≤ leaves.length := by omega
      have hlt := split_lt h
      have hpos := split_pos leaves.length
      have hsplit := split_eq_two_mul hthree
      have hhalf : split (pairUp node leaves).length = split leaves.length / 2 := by
        rw [length_pairUp, hsplit]
        omega
      obtain ⟨htake, hdrop⟩ := pairUp_split node hthree
      have htwo' : 2 ≤ (pairUp node leaves).length := by
        rw [length_pairUp]
        omega
      rw [path_split node empty h, path_split node empty htwo', htake, hdrop, root_pairUp,
        root_pairUp, hhalf]
      by_cases hside : index < split leaves.length
      · have hfront : 2 ≤ (leaves.take (split leaves.length)).length := by
          rw [List.length_take]
          omega
        rw [if_pos hside, if_pos (by omega),
          ih _ (by rw [List.length_take]; omega) hfront (by rw [List.length_take]; omega) rfl,
          sibling_take (by omega) hside, List.append_assoc]
      · rw [if_neg hside, if_neg (by omega)]
        by_cases hone : (leaves.drop (split leaves.length)).length = 1
        · -- The right part is one leaf, alone on its level.
          obtain ⟨leaf, hleaf⟩ := List.length_eq_one_iff.mp hone
          rw [List.length_drop] at hone
          have hnone : sibling index leaves = [] := by
            unfold sibling
            rw [if_neg (by omega), List.getElem?_eq_none (by omega)]
            rfl
          rw [hleaf, hnone]
          simp [path, pairUp]
        · have hback : 2 ≤ (leaves.drop (split leaves.length)).length := by
            rw [List.length_drop] at hone ⊢
            omega
          rw [ih _ (by rw [List.length_drop]; omega) hback (by rw [List.length_drop]; omega) rfl,
            sibling_drop (by omega) (by omega), List.append_assoc,
            show (index - split leaves.length) / 2 = index / 2 - split leaves.length / 2 by omega]

end Merkle
