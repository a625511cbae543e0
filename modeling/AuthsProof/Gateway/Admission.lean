import AuthsProof.Gateway.Engagement
import AuthsProof.Lib.Run

/-! Rules for one admission among others: what its batch must keep, and when it writes. -/

namespace AuthsProof.Gateway.Engagement

open Interleave

variable {S : Type} [Sha256] [DecidableEq S] [BoundedRecord (Value S)]
  {D : Discipline (Request (Value S)) Response (Store (Value S))} {store : Store (Value S)}
  {journal : JournalProtocol S}

/-- The batch of an admission with the record its decision made. -/
def admitted (claim : Claim S) (candidates : List (Candidate S)) (next : Value S) :
    List (GatewayRecordEntry (Value S)) :=
  { claim.first with record := next } :: claim.rest ++ candidates.map Candidate.entry

omit [DecidableEq S] [BoundedRecord (Value S)] in
theorem withFirst_entries (claim : Claim S) (candidates : List (Candidate S)) (next : Value S) :
    withFirst (claim.entries ++ candidates.map Candidate.entry) next =
      admitted claim candidates next := rfl

omit [DecidableEq S] [BoundedRecord (Value S)] in
theorem mem_admitted {claim : Claim S} {candidates : List (Candidate S)} {next : Value S}
    {entry : GatewayRecordEntry (Value S)} : entry ∈ admitted claim candidates next ↔
      entry = { claim.first with record := next } ∨ entry ∈ claim.rest ∨
        ∃ candidate ∈ candidates, candidate.entry = entry := by
  simp [admitted]

/-- A batch the store accepts: no key twice, no key taken, and the decision's own record first. -/
structure Accepted (journal : JournalProtocol S) (claim : Claim S) (candidates : List (Candidate S))
    (next : Value S) (store : Store (Value S)) : Prop where
  nodup : ((admitted claim candidates next).map GatewayRecordEntry.key).Nodup
  fresh : ∀ entry ∈ admitted claim candidates next, store.records entry.kind entry.key = none
  decided : decide journal claim candidates (predecessorIndices claim.dependencies candidates).1
    (predecessorIndices claim.dependencies candidates).2 store.clock
    (store.snapshots (predecessorIndices claim.dependencies candidates).1) = .ok next

omit [Sha256] [DecidableEq S] [BoundedRecord (Value S)] in
/-- The keys of a decision begin with the caller's own. -/
theorem prefix_predecessorIndices (keys : List (GatewayRecordKind × Digest))
    (candidates : List (Candidate S)) :
    ∃ more, (predecessorIndices keys candidates).1 = keys ++ more := by
  induction candidates generalizing keys with
  | nil => exact ⟨[], (List.append_nil _).symm⟩
  | cons candidate candidates ih =>
    unfold predecessorIndices
    split
    · exact ih keys
    · next key value hpredecessor =>
      obtain ⟨more, hmore⟩ := ih (appendDependency keys (.effectAllocation, key)).1
      have happend : ∃ extra,
          (appendDependency keys (.effectAllocation, key)).1 = keys ++ extra := by
        unfold appendDependency
        split
        · exact ⟨[], (List.append_nil _).symm⟩
        · exact ⟨[(.effectAllocation, key)], rfl⟩
      obtain ⟨extra, hextra⟩ := happend
      refine ⟨extra ++ more, ?_⟩
      rw [← List.append_assoc, ← hextra]
      exact hmore

omit [BoundedRecord (Value S)] in
/-- What the caller's decision was asked of an accepted batch. -/
theorem Accepted.decision {claim : Claim S} {candidates : List (Candidate S)} {next : Value S}
    (h : Accepted journal claim candidates next store) : ∃ record evaluatedAt,
      next = .attempt { record with evaluatedAt := evaluatedAt } ∧
      record = { claim.record with
        engagementAllocations := candidates.map (Candidate.reference journal) } ∧
      claim.decision store.clock record (store.snapshots claim.dependencies) = .ok evaluatedAt ∧
      validateRecord journal { record with evaluatedAt := evaluatedAt } = .ok () := by
  have hdecided := h.decided
  unfold decide at hdecided
  simp only at hdecided
  split at hdecided
  · cases hdecided
  · split at hdecided
    · cases hdecided
    · obtain ⟨evaluatedAt, hevaluated, hdecided⟩ := Except.bind_eq_ok.mp hdecided
      obtain ⟨⟨⟩, hvalid, hdecided⟩ := Except.bind_eq_ok.mp hdecided
      refine ⟨_, evaluatedAt, (Except.ok.inj hdecided).symm, rfl, ?_, hvalid⟩
      obtain ⟨more, hmore⟩ := prefix_predecessorIndices claim.dependencies candidates
      rw [hmore, Store.snapshots, List.map_append, List.take_left' (List.length_map _)] at hevaluated
      exact hevaluated

/-! ## Safety -/

/-- What an admission leaves known: nothing of a batch it inserted, and otherwise that the entry it
names was found taken. -/
def Outcome (claim : Claim S) (taken : Nat → Store (Value S) → Prop)
    (outcome : GatewayInsert (Value S)) (store : Store (Value S)) : Prop :=
  match outcome with
  | .inserted _ => True
  | .exists index => index < claim.entries.length ∧ taken index store

/-- An entry that is taken stays known to be. -/
def Marks (D : Discipline (Request (Value S)) Response (Store (Value S))) (claim : Claim S)
    (taken : Nat → Store (Value S) → Prop) : Prop :=
  (∀ index, Stable D (taken index)) ∧ ∀ t index entry, D.inv t →
    claim.entries[index]? = some entry → (t.records entry.kind entry.key).isSome = true →
    taken index t

theorem safe_insertRounds_of (hD : Faithful False D) {claim : Claim S}
    (hfirst : claim.first.kind = .attempt) (binding : EffectBinding)
    {declarations : List EngagementReservation}
    {known : EngagementReservation → Candidate S → Store (Value S) → Prop}
    {taken : Nat → Store (Value S) → Prop} (hmarks : Marks D claim taken) (hstore : D.inv store)
    (hnew : ∀ declaration ∈ declarations, ∀ t, D.order store t → D.inv t → D.Safe
      (onOk (known declaration))
      (Candidate.new declaration claim.first.key binding.id : StoreProg (Value S) _).run t)
    (hbatch : ∀ t candidates next, D.order store t → D.inv t →
      List.Forall₂ (fun declaration candidate => known declaration candidate t) declarations
        candidates → Accepted journal claim candidates next t →
      D.inv (t.insertRows (admitted claim candidates next)) ∧
        D.order t (t.insertRows (admitted claim candidates next))) (rounds : Nat) :
    D.Safe (onOk (Outcome claim taken))
      (insertRounds journal claim binding declarations rounds).run store := by
  induction rounds generalizing store with
  | zero => exact safe_throw
  | succ rounds ih =>
    refine safe_settle hstore (safe_mapM hstore hnew) (fun candidates t hst ht hknown => ?_)
      fun error t hst ht => ?_
    · refine safe_bind ht (M := fun outcome u => match outcome with
        | .inserted _ => True
        | .exists index => index < claim.entries.length → taken index u) ?_
        fun inserted u htu hu hinserted => ?_
      · intro u htu hu response v hexec
        rcases executes_fencedInsertAll (hD hexec) with
          ⟨rfl, error, rfl⟩ | ⟨rfl, index, entry, rfl, hindex, htaken⟩ |
          ⟨next, rfl, rfl, hnodup, hfresh, hdecide⟩
        · exact ⟨hu, D.refl v, fun _ _ _ => trivial⟩
        · refine ⟨hu, D.refl v, fun w hvw hw hlt => ?_⟩
          rw [List.getElem?_append_left hlt] at hindex
          exact hmarks.1 index v w hvw hw (hmarks.2 v index entry hu hindex htaken)
        · rw [withFirst_entries] at hnodup hfresh ⊢
          obtain ⟨hinv, horder⟩ := hbatch u candidates next (D.trans hst htu) hu (hknown u htu hu)
            ⟨hnodup, hfresh, hdecide⟩
          exact ⟨hinv, horder, fun _ _ _ => trivial⟩
      · cases inserted with
        | inserted first => exact safe_pure fun _ _ _ => trivial
        | «exists» index =>
          simp only
          split
          · next hlt => exact safe_pure fun v huv hv => ⟨hlt, hinserted v huv hv hlt⟩
          · split
            · exact safe_throw
            · refine safe_bind hu (safe_anyLoad hD) fun found v huv hv _ => ?_
              cases found with
              | none => exact safe_throw
              | some bytes =>
                refine safe_bind hv (@safe_lifted _ _ _ _ _ _ _ (fun _ _ => True) _
                  fun _ _ _ _ _ => trivial) fun _ w hvw hw _ => ?_
                have hsw := D.trans (D.trans (D.trans hst htu) huv) hvw
                exact ih hw (fun declaration hmem x hwx => hnew declaration hmem x (D.trans hsw hwx))
                  fun x candidates next hwx => hbatch x candidates next (D.trans hsw hwx)
    · refine safe_bind ht (safe_load hD (fun found u => found.isSome = true → taken 0 u)
        (fun found u v huv hv h hfound => hmarks.1 0 u v huv hv (h hfound))
        fun u _ hu hfound => ?_) fun found u _ hu hfound => ?_
      · refine hmarks.2 u 0 claim.first hu rfl ?_
        rw [hfirst]
        simpa [Store.load] using hfound
      · cases found with
        | none => exact safe_throw
        | some bytes =>
          exact safe_pure fun v huv hv => ⟨by simp [Claim.entries], hfound v huv hv rfl⟩

/-- An admission is safe when the batches it may insert are. -/
theorem safe_insert_of (hD : Faithful False D) {claim : Claim S}
    (known : EngagementReservation → Candidate S → Store (Value S) → Prop)
    {taken : Nat → Store (Value S) → Prop} (hmarks : Marks D claim taken) (hstore : D.inv store)
    (hnew : ∀ declarations, declaredReservations journal claim.record = .ok declarations →
      ∀ declaration ∈ declarations, ∀ effect t, D.order store t → D.inv t → D.Safe
        (onOk (known declaration))
        (Candidate.new declaration claim.first.key effect : StoreProg (Value S) _).run t)
    (hbatch : claim.first.kind = .attempt → ∀ declarations,
      declaredReservations journal claim.record = .ok declarations →
      ∀ t candidates next, D.order store t → D.inv t →
      List.Forall₂ (fun declaration candidate => known declaration candidate t) declarations
        candidates → Accepted journal claim candidates next t →
      D.inv (t.insertRows (admitted claim candidates next)) ∧
        D.order t (t.insertRows (admitted claim candidates next))) :
    D.Safe (onOk (Outcome claim taken)) (insert journal claim).run store := by
  unfold insert
  split
  · exact safe_throw
  · next hfirst =>
    have hattempt : claim.first.kind = .attempt := by
      by_contra hne
      exact hfirst (by simp [hne])
    refine safe_bind hstore (@safe_lifted _ _ _ _ _ _ _ (fun _ _ => True) _
      fun _ _ _ _ _ => trivial) fun binding t hst ht _ => ?_
    refine safe_bind ht (@safe_lifted _ _ _ _ _ _ _ (fun declarations _ =>
      declaredReservations journal claim.record = .ok declarations) _ fun _ _ h _ _ => h)
      fun declarations u htu hu hdeclared => ?_
    have hdeclarations := hdeclared u (D.refl u) hu
    have hsu := D.trans hst htu
    exact safe_insertRounds_of hD hattempt binding hmarks hu
      (fun declaration hmem v huv => hnew declarations hdeclarations declaration hmem binding.id v
        (D.trans hsu huv))
      (fun v candidates next huv => hbatch hattempt declarations hdeclarations v candidates next
        (D.trans hsu huv)) _

/-! ## When an admission writes -/

/-- The outcome of an admission that wrote its batch. -/
def Wrote : Except GatewayAttemptError (GatewayInsert (Value S)) → Prop
  | .ok (.inserted _) => True
  | _ => False

theorem still_new (hD : Faithful False D) (reservation : EngagementReservation)
    (key effect : Digest) :
    Still D (Candidate.new reservation key effect : StoreProg (Value S) _).run := by
  refine still_bind_except trivial fun bound => ?_
  refine still_bind_except (still_frontierFrom hD _ _) fun slot => ?_
  split
  · trivial
  · refine still_bind_except ?_ fun found => ?_
    · cases slot with
      | zero => trivial
      | succ slot =>
        refine still_bind_except (still_load hD _ _) fun found => ?_
        cases found with
        | none => trivial
        | some bytes => exact still_bind_except trivial fun row => trivial
    · obtain ⟨predecessor, previous⟩ := found
      simp only
      split
      · trivial
      · split <;> trivial

variable {good : Except GatewayAttemptError (GatewayInsert (Value S)) → Prop}

theorem quiet_insertRounds (hD : Faithful False D) (claim : Claim S)
    (hwrites : ∀ t candidates next, good (.ok (.inserted next)) ∨
      ¬D.touches t (t.insertRows (admitted claim candidates next))) (binding : EffectBinding)
    (declarations : List EngagementReservation) (rounds : Nat) :
    Quiet D good (insertRounds journal claim binding declarations rounds).run := by
  induction rounds with
  | zero => trivial
  | succ rounds ih =>
    refine (still_mapM fun declaration _ => still_new hD declaration _ _).bind_quiet
      fun outcome => ?_
    cases outcome with
    | error error =>
      refine quiet_bind_except (still_load hD _ _) fun found => ?_
      cases found <;> trivial
    | ok candidates =>
      intro s response t hexec
      rcases executes_fencedInsertAll (hD hexec) with
        ⟨rfl, error, rfl⟩ | ⟨rfl, index, entry, rfl, -⟩ | ⟨next, rfl, rfl, -⟩
      · exact .inl ⟨D.idle t, trivial⟩
      · refine .inl ⟨D.idle t, ?_⟩
        change Quiet _ good (ExceptT.run (if index < claim.entries.length then _ else _))
        split
        · trivial
        · split
          · trivial
          · refine quiet_bind_except (still_load hD _ _) fun found => ?_
            cases found with
            | none => trivial
            | some bytes => exact quiet_bind_except trivial fun _ => ih
      · rcases hwrites s candidates next with hgood | hidle
        · exact .inr hgood
        · exact .inl ⟨hidle, trivial⟩

theorem quiet_insert (hD : Faithful False D) (claim : Claim S)
    (hwrites : ∀ t candidates next, good (.ok (.inserted next)) ∨
      ¬D.touches t (t.insertRows (admitted claim candidates next))) :
    Quiet D good (insert journal claim).run := by
  unfold insert
  split
  · trivial
  · refine quiet_bind_except trivial fun binding => ?_
    exact quiet_bind_except trivial fun declarations =>
      quiet_insertRounds hD claim hwrites binding declarations _

end AuthsProof.Gateway.Engagement
