import AuthsProof.Work

/-! What a metered computation costs. Its outcome and the work it charges depend on its inputs only;
the meter decides whether that work fits. -/

namespace AuthsProof

open Run

/-- The meter has room for `cost` more units of work. -/
def WorkMeter.Room (meter : WorkMeter) (cost : Nat) : Prop :=
  meter.used.toNat + cost ≤ meter.limit.toNat

theorem WorkMeter.Room.mono {meter : WorkMeter} {cost less : Nat} (h : meter.Room cost)
    (hle : less ≤ cost) : meter.Room less := by
  unfold Room at h ⊢
  omega

/-- Every meter of a run that started with none of its limit used is within it. -/
theorem WorkMeter.room_of_charges {limit : UInt64} {meter : WorkMeter}
    (h : Charges (WorkMeter.new limit) meter) : meter.Room 0 := by
  have hwithin := h.bounded.2.2 (UInt64.le_iff_toNat_le.mpr (Nat.zero_le _))
  exact UInt64.le_iff_toNat_le.mp hwithin

/-- Where the cost fits the computation charges it and ends with the outcome; elsewhere it runs out
of work. -/
structure Spends {α : Type} (x : Metered α) (cost : Nat) (outcome : Except VerificationFailure α) :
    Prop where
  fits : ∀ meter, meter.Room cost → ∃ charged, x meter = (outcome, charged) ∧
    charged.limit = meter.limit ∧ charged.used.toNat = meter.used.toNat + cost
  exceeds : ∀ meter, meter.Room 0 → ¬meter.Room cost → (x meter).1 = .error exhausted

section Rules

variable {α β : Type} {x : Metered α} {f : α → Metered β} {a : α} {cost more : Nat}

theorem spends_ofExcept (value : Except VerificationFailure α) : Spends (ofExcept value) 0 value where
  fits meter _ := ⟨meter, rfl, rfl, rfl⟩
  exceeds _ hwithin hover := absurd hwithin hover

theorem spends_pure (a : α) : Spends (pure a) 0 (.ok a) := spends_ofExcept (.ok a)

theorem spends_fail (failure : VerificationFailure) :
    Spends (Run.fail failure : Metered α) 0 (.error failure) := spends_ofExcept (.error failure)

theorem spends_reserve (maximum : UInt64) : Spends (reserve maximum) maximum.toNat (.ok ()) := by
  constructor
  · intro meter hroom
    unfold WorkMeter.Room at hroom
    have hlimit := meter.limit.toNat_lt
    have hsum : (meter.used + maximum).toNat = meter.used.toNat + maximum.toNat := by
      rw [UInt64.toNat_add]
      exact Nat.mod_eq_of_lt (by omega)
    have hwraps : ¬2 ^ 64 ≤ meter.used.toNat + maximum.toNat := by omega
    have hover : ¬meter.limit < meter.used + maximum := by
      rw [UInt64.lt_iff_toNat_lt]
      omega
    unfold reserve
    rw [if_neg hwraps, if_neg hover]
    exact ⟨_, rfl, rfl, hsum⟩
  · intro meter _ hover
    rcases reserve_spec maximum meter with h | ⟨charged, -, hgranted, hsum⟩
    · rw [h]
    · obtain ⟨_, -, -, hwithin⟩ := hgranted
      refine absurd ?_ hover
      unfold WorkMeter.Room
      rw [← hsum]
      exact UInt64.le_iff_toNat_le.mp hwithin

theorem Spends.bind {outcome : Except VerificationFailure β} (hx : Spends x cost (.ok a))
    (hf : Spends (f a) more outcome) : Spends (x >>= f) (cost + more) outcome := by
  constructor
  · intro meter hroom
    obtain ⟨charged, hrun, hlimit, hused⟩ := hx.fits meter (hroom.mono (Nat.le_add_right _ _))
    have hroom' : charged.Room more := by
      unfold WorkMeter.Room at hroom ⊢
      rw [hlimit]
      omega
    obtain ⟨done, hdone, hlimit', hused'⟩ := hf.fits charged hroom'
    exact ⟨done, (bind_ok hrun).trans hdone, hlimit'.trans hlimit, by omega⟩
  · intro meter hwithin hover
    by_cases hroom : meter.Room cost
    · obtain ⟨charged, hrun, hlimit, hused⟩ := hx.fits meter hroom
      rw [bind_ok hrun]
      unfold WorkMeter.Room at hroom hover
      refine hf.exceeds charged ?_ ?_
      · unfold WorkMeter.Room
        rw [hlimit]
        omega
      · unfold WorkMeter.Room
        rw [hlimit]
        omega
    · rw [bind_error (Prod.ext (hx.exceeds meter hwithin hroom) rfl)]

theorem Spends.bind_error {failure : VerificationFailure} (hx : Spends x cost (.error failure)) :
    Spends (x >>= f) cost (.error failure) := by
  constructor
  · intro meter hroom
    obtain ⟨charged, hrun, hcharged⟩ := hx.fits meter hroom
    exact ⟨charged, Run.bind_error hrun, hcharged⟩
  · intro meter hwithin hover
    rw [Run.bind_error (Prod.ext (hx.exceeds meter hwithin hover) rfl)]

theorem Spends.congr {outcome other : Except VerificationFailure α} (hx : Spends x cost outcome)
    (h : outcome = other) : Spends x cost other := h ▸ hx

/-- A continuation that charges nothing more. -/
theorem Spends.then_pure {b : β} (hx : Spends x cost (.ok a)) (h : f a = pure b) :
    Spends (x >>= f) cost (.ok b) :=
  Spends.bind hx (h ▸ spends_pure b)

/-- A last step that only rearranges the value. -/
theorem Spends.map {outcome : Except VerificationFailure α} (hx : Spends x cost outcome)
    (g : α → β) : Spends (x >>= fun a => pure (g a)) cost (outcome.map g) := by
  cases outcome with
  | error failure => exact hx.bind_error
  | ok a => exact Spends.bind (f := fun a => pure (g a)) hx (spends_pure (g a))

/-- A run that answers has had the room, answers with the outcome and stays within the limit. -/
theorem Spends.of_ok {outcome : Except VerificationFailure α} (hx : Spends x cost outcome)
    {meter charged : WorkMeter} (hwithin : meter.Room 0) (hrun : x meter = (.ok a, charged)) :
    outcome = .ok a ∧ meter.Room cost ∧ charged.Room 0 := by
  by_cases hroom : meter.Room cost
  · obtain ⟨done, hdone, hlimit, hused⟩ := hx.fits meter hroom
    rw [hdone] at hrun
    obtain ⟨rfl, rfl⟩ := Prod.mk.inj hrun
    refine ⟨rfl, hroom, ?_⟩
    unfold WorkMeter.Room at hroom ⊢
    rw [hlimit]
    omega
  · have hexhausted := hx.exceeds meter hwithin hroom
    rw [hrun] at hexhausted
    cases hexhausted

/-- The computation has a cost and an outcome. -/
def Priced (x : Metered α) : Prop := ∃ cost outcome, Spends x cost outcome

theorem priced_ofExcept (value : Except VerificationFailure α) : Priced (ofExcept value) :=
  ⟨0, value, spends_ofExcept value⟩

theorem priced_pure (a : α) : Priced (pure a : Metered α) := ⟨0, .ok a, spends_pure a⟩

theorem priced_reserve (maximum : UInt64) : Priced (reserve maximum) :=
  ⟨_, _, spends_reserve maximum⟩

theorem priced_ofOption (value : Option α) (failure : VerificationFailure) :
    Priced (ofOption value failure) := by
  cases value with
  | none => exact priced_ofExcept (.error failure)
  | some a => exact priced_pure a

theorem priced_ensure {p : Prop} [Decidable p] (failure : VerificationFailure) :
    Priced (ensure p failure) := by
  by_cases hp : p
  · rw [ensure_pos failure hp]
    exact priced_pure ()
  · rw [ensure_neg failure hp]
    exact priced_ofExcept (.error failure)

theorem Priced.bind (hx : Priced x) (hf : ∀ a, Priced (f a)) : Priced (x >>= f) := by
  obtain ⟨cost, outcome, hx⟩ := hx
  cases outcome with
  | error failure => exact ⟨cost, _, hx.bind_error⟩
  | ok a =>
    obtain ⟨more, last, hlast⟩ := hf a
    exact ⟨cost + more, last, hx.bind hlast⟩

end Rules

end AuthsProof
