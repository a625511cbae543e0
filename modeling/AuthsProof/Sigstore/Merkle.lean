import AuthsProof.Injectivity
import AuthsProof.Lib.Merkle
import AuthsProof.Lib.Run
import AuthsProof.Lib.Sha2

/-! Inclusion in a transparency log: the iterative folder and the recursive tree it checks. -/

namespace AuthsProof.Sigstore

inductive MerkleError where
  | invalidTree
  deriving DecidableEq

/-- The levels on which the last node of the tree has no sibling. -/
def skipLevels (position last : Nat) : Nat × Nat :=
  if position % 2 = 0 ∧ position ≠ 0 then skipLevels (position / 2) (last / 2)
  else (position, last)
termination_by position
decreasing_by omega

def pathLengthFrom (position last length : Nat) : Except MerkleError Nat :=
  if last = 0 then .ok length
  else if position % 2 = 1 ∨ position < last then
    if length + 1 < 2 ^ 64 then pathLengthFrom (position / 2) (last / 2) (length + 1)
    else .error .invalidTree
  else pathLengthFrom (position / 2) (last / 2) length
termination_by last
decreasing_by all_goals omega

/-- The required length of an inclusion path for one place of a tree. -/
def pathLength (index treeSize : Nat) : Except MerkleError Nat :=
  if treeSize = 0 || treeSize ≤ index then .error .invalidTree
  else pathLengthFrom index (treeSize - 1) 0

section Hashing

variable [Sha256]

def leafHash (body : Bytes) : Digest := Sha256.digest (0 :: body)

def branchMessage (left right : Digest) : Bytes := 1 :: (left.bytes ++ right.bytes)

def branch (left right : Digest) : Digest := Sha256.digest (branchMessage left right)

def foldFrom (position last : Nat) (node : Digest) : List Digest → Nat × Digest
  | [] => (last, node)
  | sibling :: hashes =>
    if position % 2 = 1 ∨ position = last then
      let (position, last) := skipLevels position last
      foldFrom (position / 2) (last / 2) (branch sibling node) hashes
    else foldFrom (position / 2) (last / 2) (branch node sibling) hashes

/-- Reconstructs a root from one inclusion path. -/
def fold (index treeSize : Nat) (leaf : Digest) (hashes : List Digest) :
    Except MerkleError Digest :=
  if treeSize = 0 || treeSize ≤ index then .error .invalidTree
  else do
    let length ← pathLength index treeSize
    if hashes.length ≠ length then throw .invalidTree
    else
      let (last, node) := foldFrom index (treeSize - 1) leaf hashes
      if last ≠ 0 then throw .invalidTree else pure node

/-- The messages a fold hashes. -/
def foldMessagesFrom (position last : Nat) (node : Digest) : List Digest → List Bytes
  | [] => []
  | sibling :: hashes =>
    if position % 2 = 1 ∨ position = last then
      let (position, last) := skipLevels position last
      branchMessage sibling node ::
        foldMessagesFrom (position / 2) (last / 2) (branch sibling node) hashes
    else branchMessage node sibling ::
      foldMessagesFrom (position / 2) (last / 2) (branch node sibling) hashes

def foldMessages (index treeSize : Nat) (leaf : Digest) (hashes : List Digest) : List Bytes :=
  foldMessagesFrom index (treeSize - 1) leaf hashes

/-- The root of a list of entries, split at the largest power of two. -/
def treeHash (entries : List Bytes) : Digest :=
  Merkle.root branch (Sha256.digest []) (entries.map leafHash)

/-- The siblings of an entry, from its own up to the root's children. -/
def auditPath (index : Nat) (entries : List Bytes) : List Digest :=
  Merkle.path branch (Sha256.digest []) index (entries.map leafHash)

end Hashing

/-! ## Completeness -/

section Complete

open Merkle

variable {H : Type} (node : H → H → H) (empty : H)

theorem length_sibling {index : Nat} {leaves : List H} (h : index < leaves.length) :
    (sibling index leaves).length =
      if index % 2 = 1 ∨ index < leaves.length - 1 then 1 else 0 := by
  unfold sibling
  by_cases hodd : index % 2 = 1
  · have hlt : index - 1 < leaves.length := by omega
    simp [hodd, hlt]
  · by_cases hlast : index < leaves.length - 1
    · have hlt : index + 1 < leaves.length := by omega
      simp [hodd, hlast, hlt]
    · have hlt : ¬index + 1 < leaves.length := by omega
      simp [hodd, hlast, hlt]

/-- The counted length is that of the path. -/
theorem pathLengthFrom_path {leaves : List H} {index : Nat} (hindex : index < leaves.length)
    {length : Nat} (hlength : length + (leaves.length - 1) < 2 ^ 64) :
    pathLengthFrom index (leaves.length - 1) length =
      .ok (length + (path node empty index leaves).length) := by
  induction hn : leaves.length using Nat.strong_induction_on generalizing leaves index length with
  | _ n ih =>
    subst hn
    rw [pathLengthFrom]
    by_cases hone : leaves.length - 1 = 0
    · obtain ⟨leaf, rfl⟩ := List.length_eq_one_iff.mp (show leaves.length = 1 by omega)
      simp [path]
    · have hup := length_pairUp node leaves
      have hhalf : (leaves.length - 1) / 2 = (pairUp node leaves).length - 1 := by omega
      have hsibling := length_sibling hindex
      rw [if_neg hone, path_pairUp node empty (by omega) hindex, List.length_append, hhalf]
      by_cases hcounts : index % 2 = 1 ∨ index < leaves.length - 1
      · rw [if_pos hcounts] at hsibling ⊢
        rw [if_pos (by omega), ih _ (by omega) (by omega) (by omega) rfl, hsibling, Nat.add_assoc]
      · rw [if_neg hcounts] at hsibling ⊢
        rw [ih _ (by omega) (by omega) (by omega) rfl, hsibling, Nat.zero_add]

theorem path_ne_nil {leaves : List H} (h : 2 ≤ leaves.length) (index : Nat) :
    path node empty index leaves ≠ [] := by
  rw [path_split node empty h]
  split <;> simp

variable [Sha256]

/-- On the right edge a fold waits for the level at which the last node has a sibling. -/
theorem foldFrom_last {place : Nat} (hplace : 1 ≤ place) (leaf : Digest) {hashes : List Digest}
    (hne : hashes ≠ []) :
    foldFrom (2 * place) (2 * place) leaf hashes = foldFrom place place leaf hashes := by
  cases hashes with
  | nil => exact absurd rfl hne
  | cons first hashes =>
    have hskip : skipLevels (2 * place) (2 * place) = skipLevels place place := by
      rw [skipLevels, if_pos (by omega), show 2 * place / 2 = place by omega]
    simp only [foldFrom, or_true, if_true, hskip]

/-- Folding a leaf with its path gives the root. -/
theorem foldFrom_path (empty : Digest) {leaves : List Digest} {index : Nat} {leaf : Digest}
    (hleaf : leaves[index]? = some leaf) :
    foldFrom index (leaves.length - 1) leaf (path branch empty index leaves) =
      (0, root branch empty leaves) := by
  induction hn : leaves.length using Nat.strong_induction_on generalizing leaves index leaf with
  | _ n ih =>
    subst hn
    obtain ⟨hindex, -⟩ := List.getElem?_eq_some_iff.mp hleaf
    by_cases hone : leaves.length = 1
    · obtain ⟨only, rfl⟩ := List.length_eq_one_iff.mp hone
      obtain rfl : index = 0 := by simpa using hindex
      obtain rfl : only = leaf := by simpa using hleaf
      simp [path, root, foldFrom]
    · have hup := length_pairUp branch leaves
      have hhalf : (leaves.length - 1) / 2 = (pairUp branch leaves).length - 1 := by omega
      rw [path_pairUp branch empty (by omega) hindex, ← root_pairUp]
      by_cases hodd : index % 2 = 1
      · have hleft : leaves[index - 1]? = some (leaves[index - 1]) :=
          List.getElem?_eq_getElem (by omega)
        have hpair : (pairUp branch leaves)[index / 2]? = _ := getElem?_pairUp branch
          (by rw [show 2 * (index / 2) = index - 1 by omega]; exact hleft)
          (by rw [show 2 * (index / 2) + 1 = index by omega]; exact hleaf)
        have hskip : skipLevels index (leaves.length - 1) = (index, leaves.length - 1) := by
          rw [skipLevels, if_neg (by omega)]
        rw [sibling, if_pos hodd, hleft]
        simp only [Option.toList_some, List.singleton_append, foldFrom, hodd, true_or, if_true,
          hskip, hhalf]
        exact ih _ (by omega) hpair rfl
      · by_cases hlast : index = leaves.length - 1
        · have halone : sibling index leaves = [] := by
            rw [sibling, if_neg hodd, List.getElem?_eq_none (by omega)]
            rfl
          have hkept : (pairUp branch leaves)[index / 2]? = _ := getElem?_pairUp_last branch
            (by rw [show 2 * (index / 2) = index by omega]; exact hleaf) (by omega)
          have hrest := ih _ (by omega) hkept rfl
          rw [show (pairUp branch leaves).length - 1 = index / 2 by omega] at hrest
          rw [halone, List.nil_append, ← hlast, ← hrest]
          have hpath := path_ne_nil branch empty
            (show 2 ≤ (pairUp branch leaves).length by omega) (index / 2)
          have hdouble := foldFrom_last (show 1 ≤ index / 2 by omega) leaf hpath
          rwa [show 2 * (index / 2) = index by omega] at hdouble
        · have hright : leaves[index + 1]? = some (leaves[index + 1]) :=
            List.getElem?_eq_getElem (by omega)
          have hpair : (pairUp branch leaves)[index / 2]? = _ := getElem?_pairUp branch
            (by rw [show 2 * (index / 2) = index by omega]; exact hleaf)
            (by rw [show 2 * (index / 2) + 1 = index + 1 by omega]; exact hright)
          rw [sibling, if_neg hodd, hright]
          simp only [Option.toList_some, List.singleton_append, foldFrom, hodd, hlast, or_self,
            if_false, hhalf]
          exact ih _ (by omega) hpair rfl

end Complete

/-! ## Soundness -/

section Sound

variable [Sha256]

omit [Sha256] in
theorem branchMessage_injective {left right left' right' : Digest}
    (h : branchMessage left right = branchMessage left' right') : left = left' ∧ right = right' := by
  have hbytes : left.bytes ++ right.bytes = left'.bytes ++ right'.bytes := by
    simpa [branchMessage] using h
  obtain ⟨hleft, hright⟩ :=
    append_cancel_of_length hbytes (by rw [left.length_eq, left'.length_eq])
  exact ⟨Digest.bytes_injective hleft, Digest.bytes_injective hright⟩

/-- Two folds of equally many hashes at one place agree on the root only where they agree throughout.
The last join is peeled first: the message above determines the nodes below it. -/
theorem foldFrom_injective {hashes hashes' : List Digest} {position last : Nat}
    {node node' : Digest} (hlength : hashes.length = hashes'.length)
    (hcollision : CollisionFree (foldMessagesFrom position last node hashes ++
      foldMessagesFrom position last node' hashes'))
    (h : (foldFrom position last node hashes).2 = (foldFrom position last node' hashes').2) :
    node = node' ∧ hashes = hashes' := by
  induction hashes generalizing hashes' position last node node' with
  | nil =>
    obtain rfl : hashes' = [] := List.eq_nil_of_length_eq_zero hlength.symm
    exact ⟨h, rfl⟩
  | cons sibling hashes ih =>
    obtain ⟨sibling', hashes', rfl⟩ : ∃ sibling' rest, hashes' = sibling' :: rest :=
      List.exists_cons_of_length_eq_add_one (n := hashes.length) hlength.symm
    have hrest : hashes.length = hashes'.length := by simpa using hlength
    by_cases hside : position % 2 = 1 ∨ position = last
    · simp only [foldFrom, foldMessagesFrom, hside, if_true] at h hcollision
      have hupper : CollisionFree
          (foldMessagesFrom ((skipLevels position last).1 / 2) ((skipLevels position last).2 / 2)
            (branch sibling node) hashes ++
          foldMessagesFrom ((skipLevels position last).1 / 2) ((skipLevels position last).2 / 2)
            (branch sibling' node') hashes') := by
        intro x hx y hy
        refine hcollision x ?_ y ?_ <;> grind
      obtain ⟨hbranch, hhashes⟩ := ih hrest hupper h
      have hmessage := hcollision (branchMessage sibling node) (by simp)
        (branchMessage sibling' node') (by simp) hbranch
      obtain ⟨hsibling, hnode⟩ := branchMessage_injective hmessage
      exact ⟨hnode, by rw [hsibling, hhashes]⟩
    · simp only [foldFrom, foldMessagesFrom, hside, if_false] at h hcollision
      have hupper : CollisionFree
          (foldMessagesFrom (position / 2) (last / 2) (branch node sibling) hashes ++
          foldMessagesFrom (position / 2) (last / 2) (branch node' sibling') hashes') := by
        intro x hx y hy
        refine hcollision x ?_ y ?_ <;> grind
      obtain ⟨hbranch, hhashes⟩ := ih hrest hupper h
      have hmessage := hcollision (branchMessage node sibling) (by simp)
        (branchMessage node' sibling') (by simp) hbranch
      obtain ⟨hnode, hsibling⟩ := branchMessage_injective hmessage
      exact ⟨hnode, by rw [hsibling, hhashes]⟩

/-- A fold succeeds only inside the tree and with as many hashes as its place asks for. -/
theorem fold_ok {index treeSize : Nat} {leaf root : Digest} {hashes : List Digest}
    (h : fold index treeSize leaf hashes = .ok root) :
    index < treeSize ∧ pathLength index treeSize = .ok hashes.length ∧
      (foldFrom index (treeSize - 1) leaf hashes).2 = root := by
  unfold fold at h
  by_cases houtside : (treeSize = 0 || treeSize ≤ index) = true
  · rw [if_pos houtside] at h
    cases h
  · rw [if_neg houtside] at h
    have hinside : index < treeSize := by
      simp only [Bool.or_eq_true, decide_eq_true_eq] at houtside
      omega
    cases hpath : pathLength index treeSize with
    | error error =>
      rw [hpath] at h
      cases h
    | ok length =>
      simp only [hpath, bind, Except.bind] at h
      split at h
      · cases h
      · rename_i hcount
        split at h
        · cases h
        · exact ⟨hinside, by rw [not_not.mp hcount], Except.ok.inj h⟩

theorem fold_eq_ok {index treeSize : Nat} {leaf : Digest} {hashes : List Digest}
    (hindex : index < treeSize) (hlength : pathLength index treeSize = .ok hashes.length)
    (hlast : (foldFrom index (treeSize - 1) leaf hashes).1 = 0) :
    fold index treeSize leaf hashes = .ok (foldFrom index (treeSize - 1) leaf hashes).2 := by
  have hinside : ¬(treeSize = 0 || treeSize ≤ index) = true := by
    simp only [Bool.or_eq_true, decide_eq_true_eq]
    omega
  simp only [fold, hinside, hlength, bind, Except.bind]
  simp [hlast, pure, Except.pure]

theorem pathLength_auditPath {entries : List Bytes} (hsize : entries.length < 2 ^ 64) {index : Nat}
    (hindex : index < entries.length) :
    pathLength index entries.length = .ok (auditPath index entries).length := by
  have hinside : ¬(entries.length = 0 || entries.length ≤ index) = true := by
    simp only [Bool.or_eq_true, decide_eq_true_eq]
    omega
  have hleaves : index < (entries.map leafHash).length := by simpa using hindex
  have hlength : 0 + ((entries.map leafHash).length - 1) < 2 ^ 64 := by
    rw [List.length_map]
    omega
  have hpath := pathLengthFrom_path branch (Sha256.digest []) hleaves hlength
  rw [List.length_map, Nat.zero_add] at hpath
  rw [pathLength, if_neg hinside]
  exact hpath

theorem fold_auditPath {entries : List Bytes} (hsize : entries.length < 2 ^ 64) {index : Nat}
    {entry : Bytes} (hentry : entries[index]? = some entry) :
    fold index entries.length (leafHash entry) (auditPath index entries) =
      .ok (treeHash entries) := by
  obtain ⟨hindex, -⟩ := List.getElem?_eq_some_iff.mp hentry
  have hleaf : (entries.map leafHash)[index]? = some (leafHash entry) := by
    rw [List.getElem?_map, hentry]
    rfl
  have hfold := foldFrom_path (Sha256.digest []) hleaf
  rw [List.length_map] at hfold
  rw [fold_eq_ok hindex (pathLength_auditPath hsize hindex) (by rw [auditPath, hfold]), auditPath,
    hfold, treeHash]

/-- Inclusion checking accepts exactly the audit path of the recursive tree, and no other count of
hashes. -/
theorem inclusion_exact {entries : List Bytes} (hsize : entries.length < 2 ^ 64) :
    (∀ index entry, entries[index]? = some entry →
      pathLength index entries.length = .ok (auditPath index entries).length ∧
        fold index entries.length (leafHash entry) (auditPath index entries) =
          .ok (treeHash entries)) ∧
    (∀ index leaf hashes, fold index entries.length leaf hashes = .ok (treeHash entries) →
      ∃ entry, entries[index]? = some entry ∧
        (CollisionFree (foldMessages index entries.length leaf hashes ++
          foldMessages index entries.length (leafHash entry) (auditPath index entries)) →
        leaf = leafHash entry ∧ hashes = auditPath index entries)) ∧
    ∀ index treeSize leaf hashes, pathLength index treeSize ≠ .ok hashes.length →
      ∃ error, fold index treeSize leaf hashes = .error error := by
  refine ⟨fun index entry hentry => ?_, fun index leaf hashes hfold => ?_,
    fun index treeSize leaf hashes hlength => ?_⟩
  · obtain ⟨hindex, -⟩ := List.getElem?_eq_some_iff.mp hentry
    exact ⟨pathLength_auditPath hsize hindex, fold_auditPath hsize hentry⟩
  · obtain ⟨hindex, hlength, hroot⟩ := fold_ok hfold
    have hentry : entries[index]? = some entries[index] := List.getElem?_eq_getElem hindex
    refine ⟨entries[index], hentry, fun hcollision => ?_⟩
    obtain ⟨-, -, hpath⟩ := fold_ok (fold_auditPath hsize hentry)
    have hcount := pathLength_auditPath hsize hindex
    rw [hlength] at hcount
    exact foldFrom_injective (Except.ok.inj hcount) hcollision (hroot.trans hpath.symm)
  · cases hfold : fold index treeSize leaf hashes with
    | error error => exact ⟨error, rfl⟩
    | ok root => exact absurd (fold_ok hfold).2.1 hlength

end Sound

section Sample

local instance sampleMerkleSha256 : Sha256 := ⟨fun bytes => ⟨Sha2.sha256 bytes, Sha2.sha256_length bytes⟩⟩

def sampleEntries : List Bytes := [[1], [2], [3]]

/-- The last of three entries has one sibling, so its fold hashes one message. -/
theorem collisionFree_sampleEntries (hashes : List Digest) (h : hashes.length = 1) (leaf : Digest) :
    CollisionFree (foldMessages 2 3 leaf hashes ++ foldMessages 2 3 leaf hashes) := by
  obtain ⟨sibling, rfl⟩ := List.length_eq_one_iff.mp h
  intro x hx y hy _
  rw [foldMessages, foldMessagesFrom] at hx hy
  simp only [foldMessagesFrom, List.mem_append, or_self] at hx hy
  grind

theorem sample_inclusion_exact : pathLength 2 3 = .ok (auditPath 2 sampleEntries).length ∧
    ∃ entry, sampleEntries[2]? = some entry ∧ leafHash [3] = leafHash entry := by
  have hexact := inclusion_exact (show sampleEntries.length < 2 ^ 64 by decide)
  obtain ⟨hlength, hfold⟩ := hexact.1 2 [3] rfl
  obtain ⟨entry, hentry, hsound⟩ := hexact.2.1 2 (leafHash [3]) (auditPath 2 sampleEntries) hfold
  obtain rfl : [3] = entry := Option.some.inj hentry
  have hone : (auditPath 2 sampleEntries).length = 1 := by
    have hpath : pathLength 2 3 = .ok 1 := by simp [pathLength, pathLengthFrom]
    exact (Except.ok.inj (hpath.symm.trans hlength)).symm
  exact ⟨hlength, [3], rfl, (hsound (collisionFree_sampleEntries _ hone _)).1⟩

end Sample

end AuthsProof.Sigstore
