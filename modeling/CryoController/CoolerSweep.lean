import CryoController.CCDrone

/-!
# The iterations of the cryocooler loop

A poll asks four queries. When all of them return zero the iteration reaches
`UpdateMysql` and is a completed sweep: the control row is read, every fifth sweep
adjusts the power, a mode that is not zero is set back in every thirtieth, and
the state of the switch is compared in every thirtieth.
-/

namespace CryoController

theorem Cryocooler.measure_keeps {α : Type} {f : Cryocooler → α}
    {record : Cryocooler → ℚ → Cryocooler}
    (hline : ∀ c port stalled, f { c with port := port, hasStalled := stalled } = f c)
    (hrecord : ∀ c x, f (record c x) = f c) (c : Cryocooler) (cmd : CCCommand)
    (convert : List Char → Option ℚ) : f (c.measure cmd convert record).2 = f c := by
  simp only [measure]
  split_ifs
  · exact hline c _ _
  · split
    · exact (hrecord _ _).trans (hline c _ _)
    · exact hline c _ _

namespace CCDrone

/-- Where a poll is after its queries: given up at the first that does not return
zero, or about to enter the sweep. -/
inductive Queried
  | abandoned (d : CCDrone)
  | measured (d : CCDrone)
  deriving DecidableEq, Repr

def Queried.drone : Queried → CCDrone
  | abandoned d => d
  | measured d => d

def query (d : CCDrone) : Option Queried :=
  let (status, c) := d.cooler.getTC
  if status ≠ 0 then some (.abandoned { d with status := status, cooler := c })
  else
    let (status, c) := c.getP
    if status ≠ 0 then some (.abandoned { d with status := status, cooler := c })
    else
      let (status, c) := c.getE
      if status ≠ 0 then some (.abandoned { d with status := status, cooler := c })
      else
        c.checkIfON.map fun (status, c) =>
          if status ≠ 0 then .abandoned { d with status := status, cooler := c }
          else .measured { d with status := status, cooler := c }

def measured (d : CCDrone) : Option CCDrone :=
  match d.branch, d.query with
  | .poll, some (.measured m) => some m
  | _, _ => none

theorem poll_eq (d : CCDrone) (r : Refresh) :
    d.poll r = d.query.bind fun
      | .abandoned d => some d
      | .measured m => m.sweep r := by
  simp only [poll, query]
  split_ifs
  · rfl
  · rfl
  · rfl
  · cases (d.cooler.getTC.2.getP.2.getE.2).checkIfON with
    | none => rfl
    | some q =>
      simp only [Option.bind_some, Option.map_some]
      split_ifs
      · rfl
      · rfl

theorem measured_eq_some {d m : CCDrone} :
    d.measured = some m ↔ d.branch = .poll ∧ d.query = some (.measured m) := by
  rw [measured]
  split
  · rename_i n hbranch hquery
    rw [hbranch, hquery]
    simp
  · rename_i hother
    refine iff_of_false (by simp) ?_
    rintro ⟨hbranch, hquery⟩
    exact hother m hbranch hquery

theorem iterate_of_measured {d m : CCDrone} (h : d.measured = some m) (r : Refresh) :
    d.iterate r = m.sweep r := by
  obtain ⟨hbranch, hquery⟩ := measured_eq_some.mp h
  rw [iterate, hbranch]
  change d.poll r = _
  rw [poll_eq, hquery]
  rfl

theorem iterate_cases {d d' : CCDrone} {r : Refresh} (h : d.iterate r = some d') :
    (d.measured = none ∧ d' = d.reset r) ∨
      (d.measured = none ∧ d.query = some (.abandoned d')) ∨
        ∃ m, d.measured = some m ∧ m.sweep r = some d' := by
  cases hbranch : d.branch with
  | reset =>
    have hnone : d.measured = none := by rw [measured, hbranch]
    rw [iterate, hbranch] at h
    exact Or.inl ⟨hnone, (Option.some.inj h).symm⟩
  | poll =>
    rw [iterate, hbranch] at h
    change d.poll r = some d' at h
    rw [poll_eq, Option.bind_eq_some_iff] at h
    obtain ⟨q, hquery, hq⟩ := h
    cases q with
    | abandoned dq =>
      cases hq
      have hnone : d.measured = none := by rw [measured, hbranch, hquery]
      exact Or.inr (Or.inl ⟨hnone, hquery⟩)
    | measured m => exact Or.inr (Or.inr ⟨m, measured_eq_some.mpr ⟨hbranch, hquery⟩, hq⟩)

theorem query_numRefreshes {d : CCDrone} {q : Queried} (h : d.query = some q) :
    q.drone.numRefreshes = d.numRefreshes := by
  simp only [query] at h
  split_ifs at h
  · cases h
    rfl
  · cases h
    rfl
  · cases h
    rfl
  · obtain ⟨⟨status, c⟩, -, hq⟩ := Option.map_eq_some_iff.mp h
    subst hq
    simp only
    split_ifs
    · rfl
    · rfl

section Stages
variable (d : CCDrone) (r : Refresh)

def rowRead : Cryocooler := (d.cooler.updateMysql r.ccPowerState r.ccPower).1

def AdjustsPower : Prop := d.numRefreshes % 5 = 0

instance : Decidable d.AdjustsPower := inferInstanceAs (Decidable (d.numRefreshes % 5 = 0))

def powerAdjusted : Cryocooler :=
  if d.AdjustsPower then (((d.rowRead r).adjustCryoPower r.undefInt).getPIDState r.undefInt).2
  else d.rowRead r

def modeSet : Cryocooler :=
  if (d.powerAdjusted r).controllerMode ≠ 0 ∧ (d.numRefreshes + 1) % 30 = 0 then
    (d.powerAdjusted r).setCryoMode r.undefInt
  else d.powerAdjusted r

def Switches : Prop :=
  (d.modeSet r).newCCPowerState ≠ (d.modeSet r).isON ∧ (d.numRefreshes + 1) % 30 = 0

instance : Decidable (d.Switches r) :=
  inferInstanceAs (Decidable (_ ≠ _ ∧ (d.numRefreshes + 1) % 30 = 0))

def counted : CCDrone :=
  { d with
    cooler := d.modeSet r
    numRefreshes := d.numRefreshes + 1
    ccState := d.ccState ++ [(d.cooler.updateMysql r.ccPowerState r.ccPower).2] }

theorem sweep_eq :
    d.sweep r =
      if d.Switches r then
        ((d.modeSet r).powerOnOff (d.modeSet r).newCCPowerState r.undefStatus).map fun c =>
          { d.counted r with cooler := if c.isON then c.adjustCryoPower r.undefInt else c }
      else some (d.counted r) := rfl

theorem modeSet_keeps {α : Type} {f : Cryocooler → α}
    (hline : ∀ c port stalled, f { c with port := port, hasStalled := stalled } = f c)
    (hasked : ∀ c power, f { c with pAsk := power } = f c)
    (hmode : ∀ c mode, f { c with controllerMode := mode } = f c) :
    f (d.modeSet r) = f (d.rowRead r) := by
  have hmeasure := Cryocooler.measure_keeps hline
    fun c x => hmode c (Conversion.intOfDouble r.undefInt x)
  have hadjusted : f (d.powerAdjusted r) = f (d.rowRead r) := by
    rw [powerAdjusted]
    split_ifs
    · exact (hmeasure _ _ _).trans ((hasked _ _).trans (hline (d.rowRead r) _ _))
    · rfl
  rw [modeSet]
  split_ifs
  · exact (hmeasure _ _ _).trans hadjusted
  · exact hadjusted

theorem switches_iff :
    d.Switches r ↔
      decide (r.ccPowerState ≠ 0) ≠ d.cooler.isON ∧ (d.numRefreshes + 1) % 30 = 0 := by
  have hstate : (d.modeSet r).newCCPowerState = decide (r.ccPowerState ≠ 0) :=
    d.modeSet_keeps r (f := (·.newCCPowerState)) (fun _ _ _ => rfl) (fun _ _ => rfl) fun _ _ => rfl
  have hisON : (d.modeSet r).isON = d.cooler.isON :=
    d.modeSet_keeps r (f := (·.isON)) (fun _ _ _ => rfl) (fun _ _ => rfl) fun _ _ => rfl
  rw [Switches, hstate, hisON]

end Stages

theorem sweep_numRefreshes {d d' : CCDrone} {r : Refresh} (h : d.sweep r = some d') :
    d'.numRefreshes = d.numRefreshes + 1 := by
  rw [sweep_eq] at h
  split_ifs at h
  · obtain ⟨c, -, rfl⟩ := Option.map_eq_some_iff.mp h
    rfl
  · cases h
    rfl

def iterations : CCDrone → List Refresh → List (CCDrone × Refresh)
  | _, [] => []
  | d, r :: rs =>
    (d, r) :: match d.iterate r with
      | some d => iterations d rs
      | none => []

theorem iterations_cons (d : CCDrone) (r : Refresh) (rs : List Refresh) :
    d.iterations (r :: rs) = (d, r) :: (d.iterate r).elim [] (iterations · rs) := by
  rw [iterations]
  cases d.iterate r with
  | none => rfl
  | some d' => rfl

def completed (e : CCDrone × Refresh) : Option (CCDrone × Refresh) :=
  e.1.measured.map fun m => (m, e.2)

def sweeps (d : CCDrone) (rs : List Refresh) : List (CCDrone × Refresh) :=
  (d.iterations rs).filterMap completed

theorem iterations_congr {Inv : CCDrone → Prop} {P Q : CCDrone → Refresh → Prop}
    (hiff : ∀ d r, Inv d → (P d r ↔ Q d r))
    (hstep : ∀ d d' r, d.iterate r = some d' → P d r → Inv d') {d : CCDrone} (h : Inv d)
    (rs : List Refresh) :
    (∀ e ∈ d.iterations rs, P e.1 e.2) ↔ ∀ e ∈ d.iterations rs, Q e.1 e.2 := by
  induction rs generalizing d with
  | nil => exact iff_of_true (fun e he => by cases he) (fun e he => by cases he)
  | cons r rs ih =>
    rw [iterations_cons, List.forall_mem_cons, List.forall_mem_cons, ← hiff d r h]
    refine and_congr_right fun hp => ?_
    cases hnext : d.iterate r with
    | none => exact iff_of_true (fun e he => by cases he) (fun e he => by cases he)
    | some d' => exact ih (hstep d d' r hnext hp)

end CCDrone
end CryoController
