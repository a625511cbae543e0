import Mathlib.Data.List.Chain
import Mathlib.Data.List.Sort
import Mathlib.Data.Prod.Lex
import Mathlib.Data.List.Lex
import Mathlib.Data.String.Basic
import Mathlib.Order.Lattice

/-! Stable sorting by a key, adjacent-duplicate checks and the strictly sorted lists they leave
behind. -/

namespace Sorting

instance instLinearOrderUInt8 : LinearOrder UInt8 where
  le_refl _ := UInt8.le_refl _
  le_trans _ _ _ := UInt8.le_trans
  lt_iff_le_not_ge _ _ := by simp only [UInt8.lt_iff_toNat_lt, UInt8.le_iff_toNat_le]; omega
  le_antisymm _ _ := UInt8.le_antisymm
  le_total := UInt8.le_total
  toDecidableLE := inferInstance
  toDecidableEq := inferInstance

instance instLinearOrderUInt16 : LinearOrder UInt16 where
  le_refl _ := UInt16.le_refl _
  le_trans _ _ _ := UInt16.le_trans
  lt_iff_le_not_ge _ _ := by simp only [UInt16.lt_iff_toNat_lt, UInt16.le_iff_toNat_le]; omega
  le_antisymm _ _ := UInt16.le_antisymm
  le_total := UInt16.le_total
  toDecidableLE := inferInstance
  toDecidableEq := inferInstance

instance instLinearOrderUInt32 : LinearOrder UInt32 where
  le_refl _ := UInt32.le_refl _
  le_trans _ _ _ := UInt32.le_trans
  lt_iff_le_not_ge _ _ := by simp only [UInt32.lt_iff_toNat_lt, UInt32.le_iff_toNat_le]; omega
  le_antisymm _ _ := UInt32.le_antisymm
  le_total := UInt32.le_total
  toDecidableLE := inferInstance
  toDecidableEq := inferInstance

instance instLinearOrderUInt64 : LinearOrder UInt64 where
  le_refl _ := UInt64.le_refl _
  le_trans _ _ _ := UInt64.le_trans
  lt_iff_le_not_ge _ _ := by simp only [UInt64.lt_iff_toNat_lt, UInt64.le_iff_toNat_le]; omega
  le_antisymm _ _ := UInt64.le_antisymm
  le_total := UInt64.le_total
  toDecidableLE := inferInstance
  toDecidableEq := inferInstance

variable {α β : Type*} [LinearOrder β]

/-- The linear order a type takes from an injective key. -/
@[reducible] def orderByKey [DecidableEq α] (key : α → β) (h : Function.Injective key) :
    LinearOrder α where
  le a b := key a ≤ key b
  lt a b := key a < key b
  le_refl a := le_refl (key a)
  le_trans _ _ _ := le_trans
  lt_iff_le_not_ge _ _ := lt_iff_le_not_ge
  le_antisymm _ _ hab hba := h (le_antisymm hab hba)
  le_total a b := le_total (key a) (key b)
  toDecidableLE a b := inferInstanceAs (Decidable (key a ≤ key b))
  toDecidableLT a b := inferInstanceAs (Decidable (key a < key b))
  toDecidableEq := inferInstance

def sortByKey (key : α → β) (xs : List α) : List α :=
  xs.insertionSort (fun a b => key a ≤ key b)

def adjacentDistinct [DecidableEq α] : List α → Bool
  | a :: b :: rest => a ≠ b && adjacentDistinct (b :: rest)
  | _ => true

theorem sortByKey_perm (key : α → β) (xs : List α) : (sortByKey key xs).Perm xs :=
  List.perm_insertionSort _ _

@[simp] theorem mem_sortByKey {key : α → β} {xs : List α} {x : α} :
    x ∈ sortByKey key xs ↔ x ∈ xs :=
  List.mem_insertionSort _

@[simp] theorem length_sortByKey (key : α → β) (xs : List α) :
    (sortByKey key xs).length = xs.length :=
  List.length_insertionSort _ _

theorem sortByKey_pairwise (key : α → β) (xs : List α) :
    (sortByKey key xs).Pairwise (fun a b => key a ≤ key b) := by
  have : Std.Total (fun a b : α => key a ≤ key b) := ⟨fun a b => le_total (key a) (key b)⟩
  have : IsTrans α (fun a b : α => key a ≤ key b) := ⟨fun _ _ _ => le_trans⟩
  exact List.pairwise_insertionSort _ xs

theorem sortByKey_of_pairwise {key : α → β} {xs : List α}
    (h : xs.Pairwise (fun a b => key a ≤ key b)) : sortByKey key xs = xs :=
  h.insertionSort_eq

theorem sortByKey_sortByKey (key : α → β) (xs : List α) :
    sortByKey key (sortByKey key xs) = sortByKey key xs :=
  sortByKey_of_pairwise (sortByKey_pairwise key xs)

/-- Sorting by a key that separates the members forgets the order they were given in. -/
theorem sortByKey_eq_of_perm {key : α → β} {xs ys : List α} (h : xs.Perm ys)
    (hinj : ∀ a ∈ xs, ∀ b ∈ xs, key a = key b → a = b) : sortByKey key xs = sortByKey key ys := by
  refine List.Perm.eq_of_pairwise ?_ (sortByKey_pairwise key xs) (sortByKey_pairwise key ys)
    ((sortByKey_perm key xs).trans (h.trans (sortByKey_perm key ys).symm))
  intro a b ha hb hab hba
  exact hinj a (mem_sortByKey.mp ha) b (h.mem_iff.mpr (mem_sortByKey.mp hb)) (le_antisymm hab hba)

/-- Sorting is stable: it keeps the order of the members with any one key. -/
theorem filter_key_sortByKey (key : α → β) (xs : List α) (v : β) :
    (sortByKey key xs).filter (fun x => key x = v) = xs.filter (fun x => key x = v) := by
  have hsorted : (xs.filter fun x => key x = v).Pairwise (fun a b => key a ≤ key b) := by
    refine List.pairwise_iff_forall_sublist.mpr fun {a b} hab => ?_
    have ha := List.of_mem_filter (hab.subset (List.mem_cons_self (a := a) (l := [b])))
    have hb := List.of_mem_filter (hab.subset (List.mem_cons_of_mem a (List.mem_singleton_self b)))
    simp only [decide_eq_true_eq] at ha hb
    rw [ha, hb]
  have hsub := (List.sublist_insertionSort hsorted List.filter_sublist).filter (fun x => key x = v)
  have hlen : ((sortByKey key xs).filter fun x => key x = v).length =
      (xs.filter fun x => key x = v).length := ((sortByKey_perm key xs).filter _).length_eq
  rw [List.filter_filter] at hsub
  simp only [Bool.and_self] at hsub
  exact (hsub.eq_of_length hlen.symm).symm

/-- A sorted list is determined by the order of its members within each key. -/
theorem eq_of_filter_key {key : α → β} {xs ys : List α}
    (hxs : xs.Pairwise fun a b => key a ≤ key b) (hys : ys.Pairwise fun a b => key a ≤ key b)
    (h : ∀ v, xs.filter (fun x => key x = v) = ys.filter (fun x => key x = v)) : xs = ys := by
  induction xs generalizing ys with
  | nil =>
    cases ys with
    | nil => rfl
    | cons b ys => simpa using h (key b)
  | cons a xs ih =>
    cases ys with
    | nil => simpa using h (key a)
    | cons b ys =>
      have hab : key a = key b := by
        have hb : b ∈ (a :: xs).filter fun x => key x = key b := by
          rw [h]
          simp
        have ha : a ∈ (b :: ys).filter fun x => key x = key a := by
          rw [← h]
          simp
        refine le_antisymm ?_ ?_
        · rcases List.mem_cons.mp (List.mem_of_mem_filter hb) with rfl | hb
          · exact le_rfl
          · exact (List.pairwise_cons.mp hxs).1 b hb
        · rcases List.mem_cons.mp (List.mem_of_mem_filter ha) with rfl | ha
          · exact le_rfl
          · exact (List.pairwise_cons.mp hys).1 a ha
      have hhead := h (key a)
      rw [List.filter_cons_of_pos (by simp), List.filter_cons_of_pos (by simp [hab])] at hhead
      obtain ⟨rfl, -⟩ := List.cons.inj hhead
      have htail : xs = ys := by
        refine ih (List.pairwise_cons.mp hxs).2 (List.pairwise_cons.mp hys).2 fun v => ?_
        have hv := h v
        by_cases hav : key a = v
        · simpa [hav] using hv
        · simpa [hav] using hv
      rw [htail]

theorem filter_sortByKey (key : α → β) (xs : List α) (p : α → Bool) :
    (sortByKey key xs).filter p = sortByKey key (xs.filter p) := by
  refine eq_of_filter_key ((sortByKey_pairwise key xs).filter p) (sortByKey_pairwise key _) fun v => ?_
  rw [filter_key_sortByKey, List.filter_filter, List.filter_filter]
  simp only [Bool.and_comm]
  rw [← List.filter_filter, filter_key_sortByKey, List.filter_filter]

/-- Sorting by another key and back changes nothing exactly where ties are in the other order. -/
theorem sortByKey_sortByKey_of_tied {γ : Type*} [LinearOrder γ] {key : α → β} {other : α → γ}
    {xs : List α} (hsorted : xs.Pairwise fun a b => key a ≤ key b)
    (htied : xs.Pairwise fun a b => key a = key b → other a ≤ other b) :
    sortByKey key (sortByKey other xs) = xs := by
  refine eq_of_filter_key (sortByKey_pairwise key _) hsorted fun v => ?_
  rw [filter_key_sortByKey, filter_sortByKey]
  refine sortByKey_of_pairwise ?_
  refine (htied.filter _).imp_of_mem fun ha hb hab => hab ?_
  have ha' := List.of_mem_filter ha
  have hb' := List.of_mem_filter hb
  simp only [decide_eq_true_eq] at ha' hb'
  rw [ha', hb']

/-- After sorting by another key first, ties are in the order of that key. -/
theorem sortByKey_sortByKey_tied {γ : Type*} [LinearOrder γ] (key : α → β) (other : α → γ)
    (xs : List α) :
    (sortByKey key (sortByKey other xs)).Pairwise fun a b => key a = key b → other a ≤ other b := by
  refine List.pairwise_iff_forall_sublist.mpr fun {a b} hab heq => ?_
  have hfilter := hab.filter fun x => key x = key b
  rw [filter_key_sortByKey, List.filter_cons_of_pos (by simpa using heq),
    List.filter_cons_of_pos (by simp), List.filter_nil] at hfilter
  have hpair := (sortByKey_pairwise other xs).sublist (hfilter.trans List.filter_sublist)
  simpa using hpair

theorem adjacentDistinct_iff [DecidableEq α] {xs : List α} :
    adjacentDistinct xs = true ↔ xs.IsChain (· ≠ ·) := by
  induction xs with
  | nil => simp [adjacentDistinct]
  | cons a rest ih =>
    cases rest with
    | nil => simp [adjacentDistinct]
    | cons b rest => simp [adjacentDistinct, ih]

/-- A list sorted by key whose adjacent keys differ is strictly increasing in its key. -/
theorem pairwise_lt_of_adjacentDistinct {key : α → β} {xs : List α}
    (hsort : xs.Pairwise (fun a b => key a ≤ key b))
    (hdistinct : adjacentDistinct (xs.map key) = true) :
    xs.Pairwise (fun a b => key a < key b) := by
  induction xs with
  | nil => exact List.Pairwise.nil
  | cons a rest ih =>
    obtain ⟨hhead, htail⟩ := List.pairwise_cons.mp hsort
    cases rest with
    | nil => simp
    | cons c rest =>
      simp only [List.map_cons, adjacentDistinct, Bool.and_eq_true, decide_eq_true_eq] at hdistinct
      have hac : key a < key c := lt_of_le_of_ne (hhead c (by simp)) hdistinct.1
      have hrest := ih htail (by simpa using hdistinct.2)
      refine List.pairwise_cons.mpr ⟨fun b hb => ?_, hrest⟩
      rcases List.mem_cons.mp hb with rfl | hb
      · exact hac
      · exact hac.trans ((List.pairwise_cons.mp hrest).1 b hb)

theorem adjacentDistinct_of_pairwise_lt {key : α → β} {xs : List α}
    (h : xs.Pairwise (fun a b => key a < key b)) : adjacentDistinct (xs.map key) = true :=
  adjacentDistinct_iff.mpr ((List.pairwise_map.mpr (h.imp fun hlt => hlt.ne)).isChain)

/-- A search with at most one answer finds it in any order. -/
theorem find?_eq_of_perm {p : α → Bool} {xs ys : List α} (h : xs.Perm ys)
    (hunique : ∀ a ∈ xs, ∀ b ∈ xs, p a = true → p b = true → a = b) : xs.find? p = ys.find? p := by
  cases hx : xs.find? p with
  | none =>
    refine (List.find?_eq_none.mpr fun y hy => ?_).symm
    exact List.find?_eq_none.mp hx y (h.mem_iff.mpr hy)
  | some a =>
    have ha := List.mem_of_find?_eq_some hx
    have hpa := List.find?_some hx
    cases hy : ys.find? p with
    | none => exact absurd hpa (List.find?_eq_none.mp hy a (h.mem_iff.mp ha))
    | some b =>
      have hb := h.mem_iff.mpr (List.mem_of_find?_eq_some hy)
      rw [hunique a ha b hb hpa (List.find?_some hy)]

/-- Dropping whole key classes of a sorted list makes no equal neighbours. -/
theorem adjacentDistinct_filter {γ : Type*} [DecidableEq γ] {key : α → β} {value : α → γ}
    {p : α → Bool} {xs : List α} (hsort : xs.Pairwise (fun a b => key a ≤ key b))
    (hclass : ∀ a b, key a = key b → p a = p b) (hvalue : ∀ a b, value a = value b → key a = key b)
    (hdistinct : adjacentDistinct (xs.map value) = true) :
    adjacentDistinct ((xs.filter p).map value) = true := by
  rw [adjacentDistinct_iff, List.isChain_map] at hdistinct ⊢
  induction xs with
  | nil => exact List.IsChain.nil
  | cons a rest ih =>
    obtain ⟨hhead, htail⟩ := List.pairwise_cons.mp hsort
    have hrest := ih htail hdistinct.tail
    by_cases hpa : p a = true
    · rw [List.filter_cons_of_pos hpa, List.isChain_cons]
      refine ⟨fun b hb hab => ?_, hrest⟩
      -- a kept neighbour equal to `a` has its key, and so has everything between them
      cases rest with
      | nil => simp at hb
      | cons c rest =>
        have hmem := List.mem_of_mem_filter (List.mem_of_mem_head? hb)
        have hcb : key c ≤ key b := by
          rcases List.mem_cons.mp hmem with rfl | hmem
          · exact le_rfl
          · exact (List.pairwise_cons.mp htail).1 b hmem
        have hac : key a = key c :=
          le_antisymm (hhead c List.mem_cons_self) (hcb.trans (hvalue a b hab).ge)
        rw [List.filter_cons_of_pos ((hclass a c hac).symm.trans hpa)] at hb
        obtain rfl : c = b := by simpa using hb
        exact (List.isChain_cons_cons.mp hdistinct).1 hab
    · rw [List.filter_cons_of_neg hpa]
      exact hrest

/-- Keeps the first element of every run of elements with one key. -/
def dedupByKey {κ : Type*} [DecidableEq κ] (key : α → κ) : List α → List α
  | [] => []
  | a :: rest =>
    match dedupByKey key rest with
    | [] => [a]
    | b :: kept => if key a = key b then a :: kept else a :: b :: kept

theorem dedupByKey_sublist {κ : Type*} [DecidableEq κ] (key : α → κ) (xs : List α) :
    (dedupByKey key xs).Sublist xs := by
  induction xs with
  | nil => exact List.Sublist.refl _
  | cons a rest ih =>
    rw [dedupByKey]
    split
    · exact (List.nil_sublist rest).cons_cons a
    · rename_i b kept hcons
      rw [hcons] at ih
      split_ifs
      · exact ((List.sublist_cons_self b kept).trans ih).cons_cons a
      · exact ih.cons_cons a

/-- No key is lost. -/
theorem exists_mem_dedupByKey {κ : Type*} [DecidableEq κ] (key : α → κ) {xs : List α} {x : α}
    (h : x ∈ xs) : ∃ y ∈ dedupByKey key xs, key y = key x := by
  induction xs with
  | nil => cases h
  | cons a rest ih =>
    have hhead : a ∈ dedupByKey key (a :: rest) := by
      rw [dedupByKey]
      split
      · exact List.mem_cons_self
      · split_ifs
        · exact List.mem_cons_self
        · exact List.mem_cons_self
    rcases List.mem_cons.mp h with rfl | hrest
    · exact ⟨_, hhead, rfl⟩
    · obtain ⟨y, hy, hkey⟩ := ih hrest
      by_cases hsame : key a = key y
      · exact ⟨a, hhead, hsame.trans hkey⟩
      · refine ⟨y, ?_, hkey⟩
        rw [dedupByKey]
        split
        · rename_i hnil
          rw [hnil] at hy
          cases hy
        · rename_i b kept hcons
          rw [hcons] at hy
          split_ifs with hab
          · rcases List.mem_cons.mp hy with rfl | hkept
            · exact absurd hab hsame
            · exact List.mem_cons_of_mem a hkept
          · exact List.mem_cons_of_mem a hy

theorem dedupByKey_head {κ : Type*} [DecidableEq κ] (key : α → κ) (a : α) (rest : List α) :
    ∃ kept, dedupByKey key (a :: rest) = a :: kept := by
  rw [dedupByKey]
  split
  · exact ⟨[], rfl⟩
  · split_ifs
    · exact ⟨_, rfl⟩
    · exact ⟨_, rfl⟩

theorem mem_dedupByKey_id [DecidableEq α] {xs : List α} {x : α} :
    x ∈ dedupByKey id xs ↔ x ∈ xs := by
  refine ⟨fun h => (dedupByKey_sublist id xs).subset h, fun h => ?_⟩
  obtain ⟨y, hy, heq⟩ := exists_mem_dedupByKey id h
  obtain rfl : y = x := heq
  exact hy

/-- Dropping adjacent repetitions leaves no repetition exactly when nothing else stands between two
copies of a member. -/
theorem nodup_dedupByKey_id [DecidableEq α] {xs : List α} :
    (dedupByKey id xs).Nodup ↔ ∀ x z, [x, z, x].Sublist xs → z = x := by
  induction xs with
  | nil => exact ⟨fun _ x z h => (nomatch h), fun _ => List.nodup_nil⟩
  | cons a rest ih =>
    have htail : (∀ x z, [x, z, x].Sublist (a :: rest) → z = x) →
        ∀ x z, [x, z, x].Sublist rest → z = x := fun h x z hsub => h x z (hsub.cons a)
    cases rest with
    | nil => exact ⟨fun _ x z h => absurd h.length_le (by simp), fun _ => List.nodup_singleton a⟩
    | cons c rest =>
      obtain ⟨kept, hkept⟩ := dedupByKey_head id c rest
      by_cases hac : a = c
      · subst hac
        have hsame : dedupByKey id (a :: a :: rest) = dedupByKey id (a :: rest) := by
          rw [dedupByKey, hkept]
          exact if_pos rfl
        rw [hsame, ih]
        refine ⟨fun h x z hsub => ?_, htail⟩
        rcases List.sublist_cons_iff.mp hsub with hsub | ⟨xs, hxs, hrest⟩
        · exact h x z hsub
        · obtain ⟨rfl, rfl⟩ := List.cons.inj hxs
          rcases List.sublist_cons_iff.mp hrest with hrest | ⟨ys, hys, -⟩
          · exact h x z (hrest.cons_cons x)
          · exact (List.cons.inj hys).1
      · have hnew : dedupByKey id (a :: c :: rest) = a :: dedupByKey id (c :: rest) := by
          rw [dedupByKey, hkept]
          exact if_neg hac
        rw [hnew, List.nodup_cons, mem_dedupByKey_id, ih]
        constructor
        · rintro ⟨ha, h⟩ x z hsub
          rcases List.sublist_cons_iff.mp hsub with hsub | ⟨xs, hxs, hrest⟩
          · exact h x z hsub
          · obtain ⟨rfl, rfl⟩ := List.cons.inj hxs
            exact absurd (hrest.subset (by simp)) ha
        · intro h
          refine ⟨fun ha => hac ?_, htail h⟩
          have hlater : a ∈ rest := (List.mem_cons.mp ha).resolve_left hac
          exact (h a c (((List.singleton_sublist.mpr hlater).cons_cons c).cons_cons a)).symm

/-- Sorting by a key and dropping adjacent repetitions leaves no repetition exactly when, among the
members of one key, nothing else stands between two copies of one. -/
theorem nodup_dedupByKey_sortByKey [DecidableEq α] {key : α → β} {xs : List α} :
    (dedupByKey id (sortByKey key xs)).Nodup ↔
      ∀ x z, key z = key x → [x, z, x].Sublist xs → z = x := by
  have hgroup : ∀ x z, key z = key x →
      ([x, z, x].Sublist (sortByKey key xs) ↔ [x, z, x].Sublist xs) := by
    intro x z hkey
    have hown : [x, z, x].filter (fun a => key a = key x) = [x, z, x] := by simp [hkey]
    constructor
    · intro hsub
      have hfilter := hsub.filter fun a => key a = key x
      rw [hown, filter_key_sortByKey] at hfilter
      exact hfilter.trans List.filter_sublist
    · intro hsub
      have hfilter := hsub.filter fun a => key a = key x
      rw [hown, ← filter_key_sortByKey] at hfilter
      exact hfilter.trans List.filter_sublist
  rw [nodup_dedupByKey_id]
  constructor
  · intro h x z hkey hsub
    exact h x z ((hgroup x z hkey).mpr hsub)
  · intro h x z hsub
    have hsorted := (sortByKey_pairwise key xs).sublist hsub
    obtain ⟨hxz, hzx⟩ : key x ≤ key z ∧ key z ≤ key x := by
      simp only [List.pairwise_cons, List.mem_cons, List.not_mem_nil, or_false, forall_eq_or_imp,
        forall_eq] at hsorted
      exact ⟨hsorted.1.1, hsorted.2.1⟩
    have hkey := le_antisymm hzx hxz
    exact h x z hkey ((hgroup x z hkey).mp hsub)

/-- What is left of a sorted list is strictly sorted. -/
theorem dedupByKey_pairwise {key : α → β} {xs : List α} (h : xs.Pairwise fun a b => key a ≤ key b) :
    (dedupByKey key xs).Pairwise fun a b => key a < key b := by
  induction xs with
  | nil => exact List.Pairwise.nil
  | cons a rest ih =>
    obtain ⟨hhead, htail⟩ := List.pairwise_cons.mp h
    have hkept := ih htail
    rw [dedupByKey]
    split
    · simp
    · rename_i b kept hcons
      have hab : key a ≤ key b :=
        hhead b ((dedupByKey_sublist key rest).subset (by simp [hcons]))
      rw [hcons] at hkept
      obtain ⟨hbkept, hkept'⟩ := List.pairwise_cons.mp hkept
      split_ifs with heq
      · exact List.pairwise_cons.mpr ⟨fun c hc => heq ▸ hbkept c hc, hkept'⟩
      · refine List.pairwise_cons.mpr ⟨fun c hc => ?_, hkept⟩
        have hlt : key a < key b := lt_of_le_of_ne hab heq
        rcases List.mem_cons.mp hc with rfl | hc
        · exact hlt
        · exact hlt.trans (hbkept c hc)

/-- Strictly sorted lists with the same members are equal. -/
theorem eq_of_pairwise_key_lt {key : α → β} {xs ys : List α}
    (hxs : xs.Pairwise fun a b => key a < key b) (hys : ys.Pairwise fun a b => key a < key b)
    (hmem : ∀ x, x ∈ xs ↔ x ∈ ys) : xs = ys := by
  have hnodup (zs : List α) (h : zs.Pairwise fun a b => key a < key b) : zs.Nodup :=
    h.imp fun hlt heq => hlt.ne (congrArg key heq)
  have hperm : xs.Perm ys := (List.perm_ext_iff_of_nodup (hnodup xs hxs) (hnodup ys hys)).mpr hmem
  exact hperm.eq_of_pairwise (fun _ _ _ _ hab hba => absurd (hab.trans hba) (lt_irrefl _)) hxs hys

section Dedup

variable {γ : Type*} [LinearOrder γ]

/-- Drops every element that equals its successor. -/
def dedupAdjacent : List γ → List γ
  | [] => []
  | a :: rest =>
    match dedupAdjacent rest with
    | [] => [a]
    | b :: kept => if a = b then b :: kept else a :: b :: kept

@[simp] theorem mem_dedupAdjacent {xs : List γ} {x : γ} : x ∈ dedupAdjacent xs ↔ x ∈ xs := by
  induction xs with
  | nil => rfl
  | cons a rest ih =>
    rw [dedupAdjacent, List.mem_cons, ← ih]
    split
    · rename_i hnil
      simp [hnil]
    · rename_i b kept hcons
      rw [hcons]
      split_ifs with hab
      · subst hab
        simp
      · simp

theorem dedupAdjacent_length_le (xs : List γ) : (dedupAdjacent xs).length ≤ xs.length := by
  induction xs with
  | nil => rfl
  | cons a rest ih =>
    rw [dedupAdjacent]
    split
    · simp
    · rename_i b kept hcons
      rw [hcons] at ih
      split_ifs <;> simp at ih ⊢ <;> omega

theorem dedupAdjacent_pairwise {xs : List γ} (h : xs.Pairwise (· ≤ ·)) :
    (dedupAdjacent xs).Pairwise (· < ·) := by
  induction xs with
  | nil => exact List.Pairwise.nil
  | cons a rest ih =>
    obtain ⟨hhead, htail⟩ := List.pairwise_cons.mp h
    have hkept := ih htail
    rw [dedupAdjacent]
    split
    · simp
    · rename_i b kept hcons
      have hab : a ≤ b := hhead b (mem_dedupAdjacent.mp (by simp [hcons]))
      rw [hcons] at hkept
      split_ifs with heq
      · exact hkept
      · refine List.pairwise_cons.mpr ⟨fun c hc => ?_, hkept⟩
        have hlt : a < b := lt_of_le_of_ne hab heq
        rcases List.mem_cons.mp hc with rfl | hc
        · exact hlt
        · exact hlt.trans ((List.pairwise_cons.mp hkept).1 c hc)

theorem dedupAdjacent_of_pairwise {xs : List γ} (h : xs.Pairwise (· < ·)) :
    dedupAdjacent xs = xs := by
  induction xs with
  | nil => rfl
  | cons a rest ih =>
    obtain ⟨hhead, htail⟩ := List.pairwise_cons.mp h
    rw [dedupAdjacent, ih htail]
    cases rest with
    | nil => rfl
    | cons b rest => simp [(hhead b (by simp)).ne]

/-- Sorting followed by the removal of adjacent duplicates. -/
def sortDedup (xs : List γ) : List γ := dedupAdjacent (sortByKey id xs)

@[simp] theorem mem_sortDedup {xs : List γ} {x : γ} : x ∈ sortDedup xs ↔ x ∈ xs := by
  simp [sortDedup]

theorem sortDedup_pairwise (xs : List γ) : (sortDedup xs).Pairwise (· < ·) :=
  dedupAdjacent_pairwise (sortByKey_pairwise id xs)

theorem sortDedup_length_le (xs : List γ) : (sortDedup xs).length ≤ xs.length :=
  (dedupAdjacent_length_le _).trans (length_sortByKey id xs).le

theorem sortDedup_of_pairwise {xs : List γ} (h : xs.Pairwise (· < ·)) : sortDedup xs = xs := by
  rw [sortDedup, @sortByKey_of_pairwise γ γ _ id xs (h.imp fun hlt => hlt.le),
    dedupAdjacent_of_pairwise h]

end Dedup

/-- The first member with the least key. -/
def minByKey (key : α → β) : List α → Option α
  | [] => none
  | a :: rest =>
    match minByKey key rest with
    | none => some a
    | some b => if key b < key a then some b else some a

@[simp] theorem minByKey_eq_none_iff {key : α → β} {xs : List α} :
    minByKey key xs = none ↔ xs = [] := by
  cases xs with
  | nil => simp [minByKey]
  | cons a rest =>
    simp only [minByKey, reduceCtorEq, iff_false]
    split
    · simp
    · split_ifs <;> simp

theorem minByKey_spec {key : α → β} {xs : List α} {m : α} (h : minByKey key xs = some m) :
    m ∈ xs ∧ ∀ x ∈ xs, key m ≤ key x := by
  induction xs generalizing m with
  | nil => simp [minByKey] at h
  | cons a rest ih =>
    rw [minByKey] at h
    split at h
    · rename_i hnone
      obtain rfl := minByKey_eq_none_iff.mp hnone
      obtain rfl := Option.some.inj h
      simp
    · rename_i b hsome
      obtain ⟨hmem, hle⟩ := ih hsome
      split_ifs at h with hlt <;> obtain rfl := Option.some.inj h
      · exact ⟨by simp [hmem], by simpa using ⟨hlt.le, hle⟩⟩
      · refine ⟨by simp, fun x hx => ?_⟩
        rcases List.mem_cons.mp hx with rfl | hx
        · exact le_rfl
        · exact (not_lt.mp hlt).trans (hle x hx)

theorem minByKey_perm {key : α → β} (hkey : Function.Injective key) {xs ys : List α}
    (h : xs.Perm ys) : minByKey key xs = minByKey key ys := by
  cases hx : minByKey key xs with
  | none =>
    obtain rfl := minByKey_eq_none_iff.mp hx
    rw [h.nil_eq.symm]
    rfl
  | some m =>
    cases hy : minByKey key ys with
    | none =>
      obtain rfl := minByKey_eq_none_iff.mp hy
      rw [h.symm.nil_eq.symm] at hx
      simp [minByKey] at hx
    | some n =>
      obtain ⟨hm, hmle⟩ := minByKey_spec hx
      obtain ⟨hn, hnle⟩ := minByKey_spec hy
      have hle := hmle n (h.mem_iff.mpr hn)
      have hge := hnle m (h.mem_iff.mp hm)
      rw [hkey (le_antisymm hle hge)]

end Sorting
