import CryoController.DriveBounds
import CryoController.StateDecision

/-!
# The control row between the statements of `UpdateVars`

A decision has heat or extra cooling, never both, but its two halves go into the
row by separate statements. Between them the row has the new heater power and
the old cooling power, so what other programs can see is decided by pairs of
consecutive decisions.
-/

namespace CryoController

/-- The row with the `PMin` that was added when its `CCPower` was written. -/
structure SharedRow where
  row : ControlParameters
  addedPMin : ℚ
  deriving DecidableEq, Repr, Inhabited

namespace SharedRow

def execute (pMin : ℚ) (r : SharedRow) (st : Statement) : SharedRow where
  row := r.row.execute st
  addedPMin := match st with
    | .setCCPower _ => pMin
    | _ => r.addedPMin

def Conflict (r : SharedRow) : Prop := 0 < r.row.heaterPW ∧ r.addedPMin < r.row.ccPower

instance (r : SharedRow) : Decidable r.Conflict :=
  inferInstanceAs (Decidable (0 < r.row.heaterPW ∧ r.addedPMin < r.row.ccPower))

end SharedRow

namespace CryoControlSM

def switchStatements (m : CryoControlSM) (d : DataPacket) : List Statement :=
  (if d.ccPowerStateLast ≠ m.cCoolerPower then [.setCCPowerState m.cCoolerPower] else []) ++
    if d.srsPowerState ≠ m.computedSRSPowerState then
      [.setSRSPowerState m.computedSRSPowerState] else []

theorem statements_eq (m : CryoControlSM) (d : DataPacket) :
    m.statements d =
      .insertSMState m.thisRunPIDValue m.currentFSMState m.shouldBeFSMState ::
        .setHeaterPW m.thisRunHeaterPower :: .setCCPower (m.thisRunCCPower + d.pMin) ::
          m.switchStatements d := rfl

def Powers (heater cc added : ℚ) (r : SharedRow) : Prop :=
  r.row.heaterPW = heater ∧ r.row.ccPower = cc ∧ r.addedPMin = added

theorem switchStatements_keep {m : CryoControlSM} {d : DataPacket} {heater cc added pMin : ℚ} :
    ∀ st ∈ m.switchStatements d, ∀ r, Powers heater cc added r →
      Powers heater cc added (r.execute pMin st) := by
  intro st hst r hr
  rw [switchStatements] at hst
  rcases List.mem_append.mp hst with h | h
  · split_ifs at h
    · rw [List.mem_singleton.mp h]
      exact hr
    · cases h
  · split_ifs at h
    · rw [List.mem_singleton.mp h]
      exact hr
    · cases h

structure Publisher where
  machine : CryoControlSM
  shared : SharedRow

namespace Publisher

def after (p : Publisher) (s : Sweep) (done : List Statement) : SharedRow :=
  Transition.run (SharedRow.execute s.packet.pMin) p.shared done

def sweep (p : Publisher) (s : Sweep) : Publisher where
  machine := p.machine.smEngine s
  shared := p.after s (p.machine.statements s.packet)

def Exclusive (p : Publisher) (s : Sweep) : Prop :=
  ∀ done, done <+: p.machine.statements s.packet → ¬ (p.after s done).Conflict

def start (mem : CryoControlSM) (absTime rateTime : UInt64) (row : ControlParameters)
    (pMin : ℚ) : Publisher :=
  ⟨construct mem absTime rateTime, { row with heaterPW := 0, ccPower := pMin }, pMin⟩

end Publisher

/-- The machine is to publish heat and its last exchange has published extra cooling. -/
def Crossing (m : CryoControlSM) : Prop :=
  0 < m.thisRunHeaterPower ∧ m.pMin < m.sentCCPower

structure Published (p : Publisher) : Prop where
  interlock : Interlock p.machine
  powered : Powered p.machine
  noConflict : ¬ p.shared.Conflict
  mirror : p.shared.row.ccPower - p.shared.addedPMin = p.machine.sentCCPower - p.machine.pMin

namespace Publisher

theorem start_published (mem : CryoControlSM) (absTime rateTime : UInt64)
    (row : ControlParameters) (pMin : ℚ) : Published (start mem absTime rateTime row pMin) := by
  constructor
  · exact construct_interlock mem absTime rateTime
  · exact construct_powered mem absTime rateTime
  · exact fun h => lt_irrefl _ h.1
  · exact (sub_self pMin).trans (sub_self 0).symm

theorem after_powers (p : Publisher) (s : Sweep) {more : List Statement}
    (hmore : more <+: p.machine.switchStatements s.packet) :
    Powers p.machine.thisRunHeaterPower (p.machine.thisRunCCPower + s.packet.pMin)
      s.packet.pMin (p.after s (.insertSMState p.machine.thisRunPIDValue
        p.machine.currentFSMState p.machine.shouldBeFSMState ::
          .setHeaterPW p.machine.thisRunHeaterPower ::
            .setCCPower (p.machine.thisRunCCPower + s.packet.pMin) :: more)) := by
  rw [after, Transition.run_cons, Transition.run_cons, Transition.run_cons]
  apply Transition.run_keeps
  · exact fun st hst => switchStatements_keep st (hmore.subset hst)
  · exact ⟨rfl, rfl, rfl⟩

theorem noConflict_of_powers {m : CryoControlSM} (hm : Powered m) {pMin : ℚ} {r : SharedRow}
    (hr : Powers m.thisRunHeaterPower (m.thisRunCCPower + pMin) pMin r) : ¬ r.Conflict := by
  obtain ⟨hheater, hcc, hadded⟩ := hr
  rw [SharedRow.Conflict, hheater, hcc, hadded]
  rintro ⟨hheat, hcool⟩
  rcases hm.exclusive with hz | hz
  · exact absurd hz hheat.ne'
  · rw [hz, zero_add] at hcool
    exact lt_irrefl _ hcool

theorem sweep_published (p : Publisher) (s : Sweep) (h : Published p) :
    Published (p.sweep s) := by
  have hsent := smEngine_sentCCPower h.interlock s
  have hmin : (p.machine.smEngine s).pMin = s.packet.pMin := by
    rw [smEngine_keeps pMin h.interlock s, enter, settle, prepare_eq]
  have hpowers := p.after_powers s List.prefix_rfl
  rw [← statements_eq] at hpowers
  constructor
  · exact smEngine_interlock _ s h.interlock
  · exact smEngine_powered h.interlock s
  · exact noConflict_of_powers h.powered hpowers
  · simp only [sweep, hpowers.2.1, hpowers.2.2, hsent, hmin]

theorem exclusive_iff (p : Publisher) (s : Sweep) (h : Published p) :
    p.Exclusive s ↔ ¬ p.machine.Crossing := by
  have hcross : 0 < p.machine.thisRunHeaterPower ∧ p.shared.addedPMin < p.shared.row.ccPower ↔
      p.machine.Crossing := by
    apply and_congr_right
    intro _
    rw [← sub_pos, h.mirror, sub_pos]
  rw [← hcross]
  constructor
  · intro hexcl hboth
    rw [Exclusive, statements_eq] at hexcl
    exact hexcl [.insertSMState _ _ _, .setHeaterPW _] ⟨_, rfl⟩ hboth
  · intro hno done hdone hconflict
    rw [statements_eq] at hdone
    match done with
    | [] => exact h.noConflict hconflict
    | [_] =>
      obtain ⟨rfl, -⟩ := List.cons_prefix_cons.mp hdone
      exact h.noConflict hconflict
    | [_, _] =>
      obtain ⟨rfl, hrest⟩ := List.cons_prefix_cons.mp hdone
      obtain ⟨rfl, -⟩ := List.cons_prefix_cons.mp hrest
      exact hno hconflict
    | _ :: _ :: _ :: more =>
      obtain ⟨rfl, hrest⟩ := List.cons_prefix_cons.mp hdone
      obtain ⟨rfl, hrest'⟩ := List.cons_prefix_cons.mp hrest
      obtain ⟨rfl, hmore⟩ := List.cons_prefix_cons.mp hrest'
      exact noConflict_of_powers h.powered (p.after_powers s hmore) hconflict

end Publisher

theorem sweeps_exclusive_iff (mem : CryoControlSM) (absTime rateTime : UInt64)
    (row : ControlParameters) (pMin : ℚ) (ss : List Sweep) :
    Transition.Along Publisher.sweep Publisher.Exclusive
        (Publisher.start mem absTime rateTime row pMin) ss ↔
      Transition.Along smEngine (fun m _ => ¬ m.Crossing) (construct mem absTime rateTime) ss := by
  have hcongr := Transition.along_congr Publisher.sweep_published Publisher.exclusive_iff
    (Publisher.start_published mem absTime rateTime row pMin) ss
  have hmachine : ∀ p s, (Publisher.sweep p s).machine = p.machine.smEngine s := fun _ _ => rfl
  rw [hcongr]
  exact (Transition.along_map (P := fun m _ => ¬ m.Crossing) hmachine _ ss).symm

def coldSweep (cur : ℚ) (time : UInt64) : Sweep :=
  { sampleSweep 100 cur 0 0 with
    ctrlRow := { (default : ControlParameters) with tTemperature := 100, ki := 1 }
    computeTime := time }

/-- At 105 K the machine asks for 5 W of extra cooling and at 90 K for 5 W of heat;
the third exchange writes the heat first. -/
theorem not_sweeps_exclusive :
    ¬ ∀ (mem : CryoControlSM) (absTime rateTime : UInt64) (row : ControlParameters) (pMin : ℚ)
      (ss : List Sweep), Transition.Along Publisher.sweep Publisher.Exclusive
        (Publisher.start mem absTime rateTime row pMin) ss := by
  intro h
  obtain ⟨-, -, hthird, -⟩ := h default 0 0 default 100
    [coldSweep 105 0, coldSweep 90 1, coldSweep 90 2]
  have hexcl := hthird [.insertSMState 5 .maintainCold .maintainCold, .setHeaterPW 5]
    (by decide +kernel)
  exact hexcl (by decide +kernel)

end CryoControlSM
end CryoController
