import AuthsProof.Lib.Sorting

/-! A map kept as a list strictly sorted by key, as a B-tree map iterates it. -/

open Sorting

structure SortedMap (κ ν : Type*) [LinearOrder κ] where
  entries : List (κ × ν)
  sorted : entries.Pairwise fun a b => a.1 < b.1

namespace SortedMap

variable {κ ν : Type*} [LinearOrder κ]

def empty : SortedMap κ ν := ⟨[], .nil⟩

def get (m : SortedMap κ ν) (k : κ) : Option ν := (m.entries.find? (·.1 = k)).map Prod.snd

/-- The entries under every key but `k`. -/
def others (m : SortedMap κ ν) (k : κ) : List (κ × ν) := m.entries.filter (·.1 ≠ k)

theorem nodup_keys (m : SortedMap κ ν) : m.entries.Pairwise fun a b => a.1 ≠ b.1 :=
  m.sorted.imp fun h => h.ne

theorem sorted_cons_others (m : SortedMap κ ν) (k : κ) (v : ν) :
    (sortByKey Prod.fst ((k, v) :: m.others k)).Pairwise fun a b => a.1 < b.1 := by
  have hdistinct : ((k, v) :: m.others k).Pairwise fun a b => a.1 ≠ b.1 := by
    refine List.pairwise_cons.mpr ⟨fun b hb => ?_, m.nodup_keys.sublist List.filter_sublist⟩
    have hne : b.1 ≠ k := by simpa using (List.mem_filter.mp hb).2
    exact hne.symm
  have hsorted := (sortByKey_perm Prod.fst ((k, v) :: m.others k)).pairwise_iff
    (fun h => h.symm) |>.mpr hdistinct
  exact ((sortByKey_pairwise Prod.fst _).and hsorted).imp fun h => lt_of_le_of_ne h.1 h.2

def insert (m : SortedMap κ ν) (k : κ) (v : ν) : SortedMap κ ν :=
  ⟨sortByKey Prod.fst ((k, v) :: m.others k), m.sorted_cons_others k v⟩

theorem entries_insert_perm (m : SortedMap κ ν) (k : κ) (v : ν) :
    (m.insert k v).entries.Perm ((k, v) :: m.others k) :=
  sortByKey_perm Prod.fst _

theorem mem_entries_of_get {m : SortedMap κ ν} {k : κ} {v : ν} (h : m.get k = some v) :
    (k, v) ∈ m.entries := by
  obtain ⟨⟨k', v'⟩, hfind, hv⟩ := Option.map_eq_some_iff.mp h
  have hk := List.find?_some hfind
  have hmem := List.mem_of_find?_eq_some hfind
  simp only [decide_eq_true_eq] at hk hv
  subst hk hv
  exact hmem

theorem eq_of_mem_entries {m : SortedMap κ ν} {k : κ} {v w : ν} (hv : (k, v) ∈ m.entries)
    (hw : (k, w) ∈ m.entries) : v = w := by
  have hkeys : (m.entries.map Prod.fst).Nodup := List.pairwise_map.mpr m.nodup_keys
  exact congrArg Prod.snd (List.inj_on_of_nodup_map hkeys hv hw rfl)

theorem get_eq_some {m : SortedMap κ ν} {k : κ} {v : ν} :
    m.get k = some v ↔ (k, v) ∈ m.entries := by
  refine ⟨mem_entries_of_get, fun h => ?_⟩
  cases hget : m.get k with
  | none =>
    have hnone := List.find?_eq_none.mp (Option.map_eq_none_iff.mp hget) _ h
    simp at hnone
  | some w => rw [eq_of_mem_entries h (mem_entries_of_get hget)]

theorem get_eq_none {m : SortedMap κ ν} {k : κ} : m.get k = none ↔ ∀ e ∈ m.entries, e.1 ≠ k := by
  rw [get, Option.map_eq_none_iff, List.find?_eq_none]
  simp

@[simp] theorem get_empty (k : κ) : (empty : SortedMap κ ν).get k = none := rfl

@[simp] theorem get_insert_self (m : SortedMap κ ν) (k : κ) (v : ν) :
    (m.insert k v).get k = some v :=
  get_eq_some.mpr ((m.entries_insert_perm k v).mem_iff.mpr List.mem_cons_self)

theorem get_insert_of_ne (m : SortedMap κ ν) {k j : κ} (v : ν) (h : j ≠ k) :
    (m.insert k v).get j = m.get j := by
  refine Option.ext fun w => ?_
  rw [get_eq_some, get_eq_some, (m.entries_insert_perm k v).mem_iff, List.mem_cons, others,
    List.mem_filter]
  simp [h]

/-- A key takes its own entry out of the map. -/
theorem entries_perm_of_get {m : SortedMap κ ν} {k : κ} {v : ν} (h : m.get k = some v) :
    m.entries.Perm ((k, v) :: m.others k) := by
  have hself : m.entries.filter (·.1 = k) = [(k, v)] := by
    obtain ⟨a, b, hab⟩ := List.append_of_mem (mem_entries_of_get h)
    have hnodup := m.nodup_keys
    rw [hab, List.pairwise_append] at hnodup
    obtain ⟨-, hright, hleft⟩ := hnodup
    have ha : a.filter (·.1 = k) = [] :=
      List.filter_eq_nil_iff.mpr fun e he => by simpa using hleft e he _ List.mem_cons_self
    have hb : b.filter (·.1 = k) = [] :=
      List.filter_eq_nil_iff.mpr fun e he => by
        simpa using ((List.pairwise_cons.mp hright).1 e he).symm
    rw [hab, List.filter_append, List.filter_cons_of_pos (by simp), ha, hb, List.nil_append]
  have hsplit := (List.filter_append_perm (fun e : κ × ν => decide (e.1 = k)) m.entries).symm
  rw [hself] at hsplit
  refine hsplit.trans (.of_eq ?_)
  simp [others]

theorem others_of_get_eq_none {m : SortedMap κ ν} {k : κ} (h : m.get k = none) :
    m.others k = m.entries :=
  List.filter_eq_self.mpr fun e he => by simpa using get_eq_none.mp h e he

theorem entries_insert_perm_of_get_eq_none {m : SortedMap κ ν} {k : κ} (h : m.get k = none) (v : ν) :
    (m.insert k v).entries.Perm ((k, v) :: m.entries) := by
  have hperm := m.entries_insert_perm k v
  rwa [others_of_get_eq_none h] at hperm

theorem eq_of_entries_perm {m m' : SortedMap κ ν} (h : m.entries.Perm m'.entries) : m = m' := by
  have hentries : m.entries = m'.entries :=
    eq_of_pairwise_key_lt m.sorted m'.sorted fun e => h.mem_iff
  cases m
  cases m'
  cases hentries
  rfl

/-- A map built from a list of entries holds exactly these, under different keys. -/
theorem get_eq_none_of_perm {m : SortedMap κ ν} {xs ys : List (κ × ν)} {k : κ} {v : ν}
    (h : m.entries.Perm (xs ++ (k, v) :: ys)) : ∀ e ∈ xs, e.1 ≠ k := by
  have hnodup := (h.pairwise_iff fun hne => hne.symm).mp m.nodup_keys
  rw [List.pairwise_append] at hnodup
  exact fun e he => hnodup.2.2 e he _ List.mem_cons_self

end SortedMap
