import CryoController.DriveBounds
import CryoController.StateDecision

/-!
# Hand-over between the two controllers

`Initialize` starts a controller from its own output variable. The variable of
the controller that takes over is as it was when that controller last drove, so
a hand-over is bumpless exactly when it happens to stand at the drive in force.
-/

open Saturation
namespace CryoController
namespace CryoControlSM

def atEntry (m : CryoControlSM) (s : Sweep) : CryoControlSM :=
  enter (m.nextState s).actuation (m.settle s)

theorem smEngine_eq_atEntry {m : CryoControlSM} (h : Interlock m) (s : Sweep) :
    m.smEngine s =
      (drive (m.nextState s).actuation (m.atEntry s) s.computeTime).postRunSanityCheck :=
  smEngine_eq_drive h s

def controller (m : CryoControlSM) : Driver → PID
  | .ratePID => m.ratePID
  | _ => m.absPID

theorem atEntry_controller (m : CryoControlSM) (s : Sweep)
    (hd : (m.nextState s).actuation.driver ≠ .none) : ∃ Kp Ki Kd input,
      (m.atEntry s).controller (m.nextState s).actuation.driver =
        ((m.controller (m.nextState s).actuation.driver).retune Kp Ki Kd).arm
          (m.nextState s).actuation.lower 75 input := by
  rw [atEntry, settle, prepare_eq]
  cases hdriver : (m.nextState s).actuation.driver with
  | none => exact absurd hdriver hd
  | absPID => exact ⟨_, _, _, _, if_pos hdriver⟩
  | ratePID => exact ⟨_, _, _, _, if_pos hdriver⟩

def HandOver (m : CryoControlSM) (s : Sweep) : Prop :=
  (m.currentFSMState ∈ [.warmup, .coolDownHot, .coolDownCold] ∧
    (m.smEngine s).currentFSMState ∈ [.maintainWarm, .maintainCold]) ∨
  (m.currentFSMState ∈ [.maintainWarm, .maintainCold] ∧
    (m.smEngine s).currentFSMState ∈ [.warmup, .coolDownHot, .coolDownCold])

def Bumpless (m : CryoControlSM) (s : Sweep) : Prop :=
  let a := (m.nextState s).actuation
  ((m.atEntry s).controller a.driver).outputSum = clamp a.lower 75 m.thisRunPIDValue ∧
    ((m.atEntry s).controller a.driver).myOutput = clamp a.lower 75 m.thisRunPIDValue

/-- The output variable of the controller that takes over stands at the drive in
force, as far as the new limits let it. -/
def OutputStands (m : CryoControlSM) (s : Sweep) : Prop :=
  let a := (m.nextState s).actuation
  clamp a.lower 75 (m.controller a.driver).myOutput = clamp a.lower 75 m.thisRunPIDValue

theorem InForce.controller_limits {a : Actuation} {m : CryoControlSM} (h : InForce a m)
    (d : Driver) : (m.controller d).Limits a.lower 75 := by
  cases d with
  | ratePID => exact h.rateLimits
  | _ => exact h.absLimits

section HandOver
variable {m : CryoControlSM} {s : Sweep}

theorem handOver_manual (h : Interlock m) (hover : HandOver m s) :
    (m.nextState s).actuation.driver ≠ .none ∧
      (m.controller (m.nextState s).actuation.driver).inAuto = false := by
  have habs := h.inForce.absMode
  have hrate := h.inForce.rateMode
  rw [HandOver, smEngine_currentFSMState h, ← FSMStates.actuation_absPID,
    ← FSMStates.actuation_ratePID, ← FSMStates.actuation_absPID,
    ← FSMStates.actuation_ratePID] at hover
  rcases hover with ⟨hold, hnew⟩ | ⟨hold, hnew⟩
  · rw [hold] at habs
    have hmanual : m.absPID.inAuto = false := by simpa using habs
    rw [hnew]
    exact ⟨by decide, hmanual⟩
  · rw [hold] at hrate
    have hmanual : m.ratePID.inAuto = false := by simpa using hrate
    rw [hnew]
    exact ⟨by decide, hmanual⟩

theorem bumpless_iff (h : Interlock m) (hpow : Powered m) (hover : HandOver m s) :
    Bumpless m s ↔ OutputStands m s := by
  obtain ⟨hdriven, hmanual⟩ := handOver_manual h hover
  obtain ⟨Kp, Ki, Kd, input, harm⟩ := m.atEntry_controller s hdriven
  rw [Bumpless, OutputStands]
  generalize (m.nextState s).actuation = a at hdriven hmanual harm ⊢
  have hlt := a.lower_lt
  have hold := m.currentFSMState.actuation.lower_lt
  obtain ⟨hmin, hmax⟩ := PID.retune_limits Kp Ki Kd (h.inForce.controller_limits a.driver)
  have hvalue := clamp_of_mem hpow.value
  rw [PID.arm_of_manual input (by simpa using hmanual) hlt] at harm
  simp only [harm, hmin, hmax, PID.retune_myOutput]
  constructor
  · exact And.right
  · intro hstands
    refine ⟨?_, hstands⟩
    -- the two clamps commute, and the drive is already within the old limits
    rw [clamp_clamp_comm hlt.le hold.le, hstands, clamp_clamp_comm hold.le hlt.le, hvalue]

end HandOver

theorem sweeps_bumpless_iff (mem : CryoControlSM) (absTime rateTime : UInt64)
    (ss : List Sweep) :
    Transition.Along smEngine (fun m s => HandOver m s → Bumpless m s)
        (construct mem absTime rateTime) ss ↔
      Transition.Along smEngine (fun m s => HandOver m s → OutputStands m s)
        (construct mem absTime rateTime) ss := by
  have hstep (m : CryoControlSM) (s : Sweep) (h : Interlock m ∧ Powered m) :
      Interlock (m.smEngine s) ∧ Powered (m.smEngine s) :=
    ⟨smEngine_interlock m s h.1, smEngine_powered h.1 s⟩
  have hiff (m : CryoControlSM) (s : Sweep) (h : Interlock m ∧ Powered m) :
      (HandOver m s → Bumpless m s) ↔ (HandOver m s → OutputStands m s) :=
    forall_congr' fun hover => bumpless_iff h.1 h.2 hover
  exact Transition.along_congr hstep hiff
    ⟨construct_interlock mem absTime rateTime, construct_powered mem absTime rateTime⟩ ss

def coolingSweep (cur : ℚ) : Sweep :=
  { sampleSweep 100 cur 0 0 with
    ctrlRow := { (default : ControlParameters) with tTemperature := 100, kiR := 60 } }

/-- The rate controller cools with 1 W at 150 K; at 105 K the absolute one takes
over and starts from 0. -/
theorem not_sweeps_bumpless :
    ¬ ∀ (mem : CryoControlSM) (absTime rateTime : UInt64) (ss : List Sweep),
      Transition.Along smEngine (fun m s => HandOver m s → Bumpless m s)
        (construct mem absTime rateTime) ss := by
  intro h
  obtain ⟨-, hsecond, -⟩ := h default 0 0 [coolingSweep 150, coolingSweep 105]
  have hover : HandOver (smEngine (construct default 0 0) (coolingSweep 150))
      (coolingSweep 105) := Or.inl (by decide +kernel)
  have hbump := (hsecond hover).2
  revert hbump
  decide +kernel

end CryoControlSM
end CryoController
