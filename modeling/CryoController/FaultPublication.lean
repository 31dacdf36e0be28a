import CryoController.DriveBounds
import CryoController.StateDecision

/-!
# What the state machine publishes in the shared control row

The plant is the machine with the `ControlParameters` row, of which the machine
is the only writer: a sweep reads the row, and the statements of `UpdateVars`,
which come first in `SMEngine`, publish what the sweep before has computed. A
sweep that ends in Fault leaves every output off, so one sweep later the row
says so, whatever it held.
-/

namespace CryoController
namespace CryoControlSM

structure Plant where
  machine : CryoControlSM
  row : ControlParameters
  deriving DecidableEq, Repr, Inhabited

def Plant.observe (p : Plant) (s : Sweep) : Sweep := { s with ctrlRow := p.row }

def Plant.publish (p : Plant) (s : Sweep) : ControlParameters :=
  (p.machine.statements (p.observe s).packet).foldl ControlParameters.execute p.row

def Plant.sweep (p : Plant) (s : Sweep) : Plant where
  machine := p.machine.smEngine (p.observe s)
  row := p.publish s

structure Off (m : CryoControlSM) : Prop where
  heater : m.thisRunHeaterPower = 0
  cc : m.thisRunCCPower = 0
  cooler : m.cCoolerPower = false
  srs : m.computedSRSPowerState = false

theorem smEngine_off_of_stale {m : CryoControlSM} (h : Interlock m) {s : Sweep}
    (hs : s.Stale) : Off (m.smEngine s) := by
  have hstate : (m.smEngine s).currentFSMState = .fault := by
    rw [smEngine_currentFSMState h, nextState, if_pos hs]
  have hf := (smEngine_interlock m s h).inForce
  rw [hstate] at hf
  obtain ⟨hheater, hcc⟩ := (smEngine_powered h s).off_of_undriven (by rw [hstate]; rfl)
  exact ⟨hheater, hcc, hf.cooler, hf.srs⟩

theorem Plant.run_interlock {p : Plant} (h : Interlock p.machine) (ss : List Sweep) :
    Interlock (Transition.run Plant.sweep p ss).machine := by
  induction ss generalizing p with
  | nil => exact h
  | cons s ss ih => exact ih (smEngine_interlock p.machine (p.observe s) h)

/-- A row is over a minute old, and not so old that an `int` overflows. -/
def LostInInt (s : Sweep) : Prop :=
  (s.nowTime - s.packet.lastLSHTime > 60 ∧ s.nowTime - s.packet.lastLSHTime ≤ 2147483647) ∨
    (s.nowTime - s.packet.lastCCTime > 60 ∧ s.nowTime - s.packet.lastCCTime ≤ 2147483647)

instance (s : Sweep) : Decidable (LostInInt s) := inferInstanceAs (Decidable (_ ∨ _))

theorem LostInInt.stale {s : Sweep} (h : LostInInt s) : s.Stale := by
  have hint {age : ℤ} (hage : age > 60 ∧ age ≤ 2147483647) :
      Conversion.intOfDouble s.undefInt age > 60 := by
    rw [Conversion.intOfDouble_intCast ⟨by omega, hage.2⟩]
    exact hage.1
  exact h.imp hint hint

end CryoControlSM
end CryoController
