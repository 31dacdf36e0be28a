import CryoController.Cryocooler

/-!
# The main loop of `CCDroneStart.cpp`

An iteration polls the controller when `Status` is zero and otherwise resets the
`Cryocooler` object. `Status` belongs to the polls: it is not initialised, each
query of a poll overwrites it, and a reset leaves it alone. So the first reset is
never followed by a poll again, and a run has no two resets in succession
exactly when none of its iterations but the last starts with another value than
zero.
-/

namespace CryoController

/-- What one iteration takes from outside the line: the two columns of the
control row, the memory that a new object is built in, and the values of an
overflowing conversion and of an uninitialised `bool`. -/
structure Refresh where
  ccPowerState : ℤ
  ccPower : ℤ
  mem : Cryocooler
  undefInt : ℚ → ℤ
  undefStatus : Bool

structure CCDrone where
  numRefreshes : ℕ
  status : ℤ
  cooler : Cryocooler
  ccState : List CCStateRow
  deriving DecidableEq, Repr, Inhabited

inductive Branch
  | poll
  | reset
  deriving DecidableEq, Repr

namespace CCDrone

def start (status : ℤ) (mem : Cryocooler) (reads : List ReadResult) (selects : List Bool) :
    CCDrone where
  numRefreshes := 0
  status := status
  cooler := Cryocooler.construct mem (Port.opened reads selects)
  ccState := []

def sweep (d : CCDrone) (r : Refresh) : Option CCDrone :=
  let (c, row) := d.cooler.updateMysql r.ccPowerState r.ccPower
  let c := if d.numRefreshes % 5 = 0 then
      ((c.adjustCryoPower r.undefInt).getPIDState r.undefInt).2
    else c
  -- the post-increment is inside the first condition, so the next two see its effect
  let numRefreshes := d.numRefreshes + 1
  let c := if c.controllerMode ≠ 0 ∧ numRefreshes % 30 = 0 then c.setCryoMode r.undefInt else c
  let d := { d with numRefreshes := numRefreshes, ccState := d.ccState ++ [row] }
  if c.newCCPowerState ≠ c.isON ∧ numRefreshes % 30 = 0 then
    (c.powerOnOff c.newCCPowerState r.undefStatus).map fun c =>
      { d with cooler := if c.isON then c.adjustCryoPower r.undefInt else c }
  else some { d with cooler := c }

def poll (d : CCDrone) (r : Refresh) : Option CCDrone :=
  let (status, c) := d.cooler.getTC
  if status ≠ 0 then some { d with status := status, cooler := c }
  else
    let (status, c) := c.getP
    if status ≠ 0 then some { d with status := status, cooler := c }
    else
      let (status, c) := c.getE
      if status ≠ 0 then some { d with status := status, cooler := c }
      else
        c.checkIfON.bind fun (status, c) =>
          if status ≠ 0 then some { d with status := status, cooler := c }
          else CCDrone.sweep { d with status := status, cooler := c } r

def reset (d : CCDrone) (r : Refresh) : CCDrone :=
  { d with cooler := Cryocooler.construct r.mem d.cooler.port }

def branch (d : CCDrone) : Branch := if d.status = 0 then .poll else .reset

/-- One iteration of the loop; `none` when an exception ends the process. -/
def iterate (d : CCDrone) (r : Refresh) : Option CCDrone :=
  match d.branch with
  | .poll => d.poll r
  | .reset => some (d.reset r)

def branches : CCDrone → List Refresh → List Branch
  | _, [] => []
  | d, r :: rs =>
    d.branch :: match d.iterate r with
      | some d => branches d rs
      | none => []

theorem sweep_sent {d d' : CCDrone} {r : Refresh} (h : d.sweep r = some d') :
    d.cooler.port.sent <+: d'.cooler.port.sent := by
  simp only [CCDrone.sweep] at h
  have hrow := d.cooler.updateMysql_sent r.ccPowerState r.ccPower
  generalize (d.cooler.updateMysql r.ccPowerState r.ccPower).1 = read at h hrow
  generalize hadj : (if d.numRefreshes % 5 = 0 then
      ((read.adjustCryoPower r.undefInt).getPIDState r.undefInt).2 else read) = adjusted at h
  generalize hmode : (if adjusted.controllerMode ≠ 0 ∧ (d.numRefreshes + 1) % 30 = 0 then
      adjusted.setCryoMode r.undefInt else adjusted) = c at h
  have hadjusted : d.cooler.port.sent <+: adjusted.port.sent := by
    rw [← hrow]
    subst hadj
    split_ifs
    · rw [Cryocooler.getPIDState_sent]
      exact (read.adjustCryoPower_sent r.undefInt).trans (List.prefix_append _ _)
    · exact List.prefix_rfl
  have hc : d.cooler.port.sent <+: c.port.sent := by
    subst hmode
    split_ifs
    · rw [Cryocooler.setCryoMode_sent]
      exact hadjusted.trans (List.prefix_append _ _)
    · exact hadjusted
  split_ifs at h
  · obtain ⟨c', hswitch, rfl⟩ := Option.map_eq_some_iff.mp h
    have hc' : d.cooler.port.sent <+: c'.port.sent := by
      rw [Cryocooler.powerOnOff_sent hswitch]
      exact hc.trans (List.prefix_append _ _)
    change _ <+: (if c'.isON then c'.adjustCryoPower r.undefInt else c').port.sent
    split_ifs
    · exact hc'.trans (c'.adjustCryoPower_sent r.undefInt)
    · exact hc'
  · cases h
    exact hc

theorem poll_sent {d d' : CCDrone} {r : Refresh} (h : d.poll r = some d') :
    d.cooler.port.sent ++ [.tc] <+: d'.cooler.port.sent := by
  have htc := d.cooler.getTC_sent
  simp only [poll] at h
  split_ifs at h with h1 h2 h3
  · cases h
    exact htc ▸ List.prefix_rfl
  · cases h
    rw [Cryocooler.getP_sent, htc]
    exact List.prefix_append _ _
  · cases h
    rw [Cryocooler.getE_sent, Cryocooler.getP_sent, htc, List.append_assoc]
    exact List.prefix_append _ _
  · obtain ⟨⟨status, c⟩, hcheck, h⟩ := Option.bind_eq_some_iff.mp h
    have hc : d.cooler.port.sent ++ [.tc] <+: c.port.sent := by
      rw [Cryocooler.checkIfON_sent hcheck, Cryocooler.getE_sent, Cryocooler.getP_sent, htc,
        List.append_assoc, List.append_assoc]
      exact List.prefix_append _ _
    simp only at h
    split_ifs at h
    · cases h
      exact hc
    · exact hc.trans (sweep_sent h)

theorem reset_sent (d : CCDrone) (r : Refresh) :
    (d.reset r).cooler.port.sent = d.cooler.port.sent ++ [.version] := rfl

def Sends : Branch → Cryocooler → Cryocooler → Prop
  | .poll, c, c' => c.port.sent ++ [.tc] <+: c'.port.sent
  | .reset, c, c' => c'.port.sent = c.port.sent ++ [.version]

theorem iterate_sends {d d' : CCDrone} {r : Refresh} (h : d.iterate r = some d') :
    Sends d.branch d.cooler d'.cooler := by
  rw [iterate] at h
  split at h
  · rename_i hpoll
    exact hpoll ▸ poll_sent h
  · rename_i hreset
    rw [hreset, ← Option.some.inj h]
    exact d.reset_sent r

@[simp] theorem reset_status (d : CCDrone) (r : Refresh) : (d.reset r).status = d.status := rfl

theorem branch_eq_reset {d : CCDrone} : d.branch = .reset ↔ d.status ≠ 0 := by
  rw [branch]
  split_ifs with h
  · simp [h]
  · simp [h]

theorem iterate_of_reset {d : CCDrone} (h : d.status ≠ 0) (r : Refresh) :
    d.iterate r = some (d.reset r) := by
  rw [iterate, branch_eq_reset.mpr h]

theorem branches_of_reset {d : CCDrone} (h : d.status ≠ 0) (rs : List Refresh) :
    d.branches rs = List.replicate rs.length .reset := by
  induction rs generalizing d with
  | nil => rfl
  | cons r rs ih =>
    rw [branches, iterate_of_reset h, branch_eq_reset.mpr h, List.length_cons,
      List.replicate_succ]
    exact congrArg _ (ih (by rw [reset_status]; exact h))

def Recovers (bs : List Branch) : Prop := bs.IsChain fun a b => ¬ (a = .reset ∧ b = .reset)

instance (bs : List Branch) : Decidable (Recovers bs) :=
  inferInstanceAs (Decidable (bs.IsChain fun a b => ¬ (a = .reset ∧ b = .reset)))

theorem recovers_replicate (n : ℕ) :
    Recovers (List.replicate n .reset) ↔
      Branch.reset ∉ (List.replicate n Branch.reset).dropLast := by
  match n with
  | 0 => simp [Recovers]
  | 1 => simp [Recovers]
  | n + 2 => simp [Recovers, List.replicate_succ]

theorem recovers_poll_cons (bs : List Branch) : Recovers (.poll :: bs) ↔ Recovers bs := by
  cases bs with
  | nil => simp [Recovers]
  | cons b bs => simp [Recovers]

theorem reset_notMem_poll_cons (bs : List Branch) :
    Branch.reset ∉ (Branch.poll :: bs).dropLast ↔ Branch.reset ∉ bs.dropLast := by
  cases bs with
  | nil => simp
  | cons b bs => simp

theorem recovers_branches_iff (d : CCDrone) (rs : List Refresh) :
    Recovers (d.branches rs) ↔ Branch.reset ∉ (d.branches rs).dropLast := by
  induction rs generalizing d with
  | nil => simp [branches, Recovers]
  | cons r rs ih =>
    by_cases h : d.status = 0
    · have hpoll : d.branch = .poll := by rw [branch, if_pos h]
      rw [branches, hpoll, recovers_poll_cons, reset_notMem_poll_cons]
      cases d.iterate r with
      | none => simp [Recovers]
      | some d' => exact ih d'
    · rw [branches_of_reset h]
      exact recovers_replicate _

theorem run_recovers_iff (status : ℤ) (mem : Cryocooler) (reads : List ReadResult)
    (selects : List Bool) (rs : List Refresh) :
    (Recovers ((start status mem reads selects).branches rs) ↔
      Branch.reset ∉ ((start status mem reads selects).branches rs).dropLast) ∧
        ∀ d r, ∀ d' ∈ iterate d r, Sends d.branch d.cooler d'.cooler :=
  ⟨recovers_branches_iff _ rs, fun _ _ _ h => iterate_sends h⟩

/-- A controller that does not answer the first `TC` in time is never asked again. -/
theorem not_run_recovers :
    ¬ ∀ (status : ℤ) (mem : Cryocooler) (reads : List ReadResult) (selects : List Bool)
      (rs : List Refresh), Recovers ((start status mem reads selects).branches rs) := by
  intro h
  let r : Refresh := ⟨0, 0, default, fun _ => 0, false⟩
  have hresets : (start 0 default [] []).branches [r, r, r] = [.poll, .reset, .reset] := by
    decide +kernel
  have hrun := h 0 default [] [] [r, r, r]
  rw [hresets] at hrun
  revert hrun
  decide

end CCDrone
end CryoController
