import CryoController.HandOver

/-!
# One sweep of a controller

Of the two controllers at most one drives. A sweep tunes both, arms the one that
drives and lets it compute, and releases the other. The value of the sweep is the
output of the one that drives.
-/

namespace CryoController
namespace CryoControlSM

def tuned (m : CryoControlSM) (d : DataPacket) : Driver → PID
  | .ratePID => m.ratePID.retune d.kpR d.kiR d.kdR
  | _ => m.absPID.retune d.kpA d.kiA d.kdA

def input (m : CryoControlSM) (d : DataPacket) : Driver → ℚ
  | .ratePID => m.nextRate d
  | _ => d.curTemp

def setpoint (m : CryoControlSM) (s : Sweep) : Driver → ℚ
  | .ratePID => (m.nextState s).actuation.rateTarget.getD m.rSetpoint
  | _ => s.packet.tTemp

section Controllers
variable {m : CryoControlSM} {s : Sweep} {d : Driver}

theorem drive_controller_standing {a : Actuation} (hd : d ≠ .none) (ha : a.driver ≠ d)
    (m : CryoControlSM) (now : UInt64) : (drive a m now).controller d = m.controller d := by
  rw [drive]
  cases hdriver : a.driver with
  | none => cases d <;> rfl
  | absPID =>
    cases d with
    | none => exact absurd rfl hd
    | absPID => exact absurd hdriver ha
    | ratePID => rfl
  | ratePID =>
    cases d with
    | none => exact absurd rfl hd
    | absPID => rfl
    | ratePID => exact absurd hdriver ha

theorem drive_controller_driving {a : Actuation} (hd : d ≠ .none) (ha : a.driver = d)
    (m : CryoControlSM) (now : UInt64) :
    (drive a m now).thisRunPIDValue = ((drive a m now).controller d).myOutput := by
  rw [drive, ha]
  cases d with
  | none => exact absurd rfl hd
  | absPID => rfl
  | ratePID => rfl

theorem postRunSanityCheck_controller (m : CryoControlSM) (d : Driver) :
    m.postRunSanityCheck.controller d = m.controller d := by
  rw [postRunSanityCheck_eq]
  cases d <;> rfl

theorem smEngine_controller_driving (h : Interlock m) (hd : d ≠ .none)
    (hdriver : (m.nextState s).actuation.driver = d) :
    (m.smEngine s).controller d =
      ((m.tuned s.packet d).arm (m.nextState s).actuation.lower 75 (m.input s.packet d)).compute
        (m.input s.packet d) (m.setpoint s d) s.computeTime := by
  rw [smEngine_eq_drive h, postRunSanityCheck_controller, enter, settle, prepare_eq, drive,
    hdriver]
  cases d with
  | none => exact absurd rfl hd
  | absPID => rfl
  | ratePID => rfl

theorem smEngine_controller_standing (h : Interlock m) (hd : d ≠ .none)
    (hdriver : (m.nextState s).actuation.driver ≠ d) :
    (m.smEngine s).controller d =
      (m.tuned s.packet d).release (m.nextState s).actuation.lower 75 (m.input s.packet d) := by
  rw [smEngine_eq_drive h, postRunSanityCheck_controller,
    drive_controller_standing hd hdriver, enter, settle, prepare_eq]
  cases d with
  | none => exact absurd rfl hd
  | absPID => exact if_neg hdriver
  | ratePID => exact if_neg hdriver

theorem smEngine_value (h : Interlock m) (hd : d ≠ .none)
    (hdriver : (m.nextState s).actuation.driver = d) :
    (m.smEngine s).thisRunPIDValue = ((m.smEngine s).controller d).myOutput := by
  rw [smEngine_eq_drive h, postRunSanityCheck_controller, postRunSanityCheck_eq]
  exact drive_controller_driving hd hdriver _ _

theorem tuned_limits (h : Interlock m) (packet : DataPacket) (d : Driver) :
    (m.tuned packet d).Limits m.currentFSMState.actuation.lower 75 := by
  cases d with
  | ratePID => exact PID.retune_limits _ _ _ h.inForce.rateLimits
  | _ => exact PID.retune_limits _ _ _ h.inForce.absLimits

end Controllers

end CryoControlSM
end CryoController
