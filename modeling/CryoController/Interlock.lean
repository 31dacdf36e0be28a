import CryoController.Actuation
import CryoController.Foundations.Transition

/-!
# The interlock of the state machine

`InForce a m` says that the actuation `a` is what the machine does: modes,
limits and powers are the ones of the table, and the controller that drives is
within its limits. Entering an actuation puts it in force, and entering it
again changes nothing, so the entry guard only saves work.
-/

open Saturation
namespace CryoController
namespace CryoControlSM

structure InForce (a : Actuation) (m : CryoControlSM) : Prop where
  absMode : m.absPID.inAuto = true ↔ a.driver = .absPID
  rateMode : m.ratePID.inAuto = true ↔ a.driver = .ratePID
  absLimits : m.absPID.Limits a.lower 75
  rateLimits : m.ratePID.Limits a.lower 75
  cooler : m.cCoolerPower = a.coolerOn
  srs : m.computedSRSPowerState = a.srsOn
  rate : ∀ r, a.rateTarget = some r → m.rSetpoint = r
  guard : m.entryGuardActive = false
  absBounded : a.driver = .absPID → m.absPID.Bounded
  rateBounded : a.driver = .ratePID → m.ratePID.Bounded

theorem enter_inForce (a : Actuation) (m : CryoControlSM) : InForce a (enter a m) := by
  have hlt := a.lower_lt
  constructor
  · simp only [enter]
    split_ifs with h <;> simp [h]
  · simp only [enter]
    split_ifs with h <;> simp [h]
  · simp only [enter]
    split_ifs
    · exact PID.arm_limits _ _ hlt
    · exact PID.release_limits _ _ hlt
  · simp only [enter]
    split_ifs
    · exact PID.arm_limits _ _ hlt
    · exact PID.release_limits _ _ hlt
  · rfl
  · rfl
  · intro r hr
    simp only [enter, hr, Option.getD_some]
  · rfl
  · intro h
    simpa only [enter, h, if_true] using PID.arm_bounded _ _ hlt
  · intro h
    simpa only [enter, h, if_true] using PID.arm_bounded _ _ hlt

theorem enter_of_inForce {a : Actuation} {m : CryoControlSM} (h : InForce a m) :
    enter a m = m := by
  have habs : (if a.driver = .absPID then m.absPID.arm a.lower 75 m.currentTemperature
      else m.absPID.release a.lower 75 m.currentTemperature) = m.absPID := by
    split_ifs with hd
    · exact PID.arm_of_armed _ (h.absMode.mpr hd) h.absLimits (h.absBounded hd)
    · exact PID.release_of_released _ (by simpa using mt h.absMode.mp hd) h.absLimits
  have hrate : (if a.driver = .ratePID then m.ratePID.arm a.lower 75 m.tempratureRateMovingAvg
      else m.ratePID.release a.lower 75 m.tempratureRateMovingAvg) = m.ratePID := by
    split_ifs with hd
    · exact PID.arm_of_armed _ (h.rateMode.mpr hd) h.rateLimits (h.rateBounded hd)
    · exact PID.release_of_released _ (by simpa using mt h.rateMode.mp hd) h.rateLimits
  have hset : a.rateTarget.getD m.rSetpoint = m.rSetpoint := by
    cases hr : a.rateTarget with
    | none => rfl
    | some r => exact (h.rate r hr).symm
  rw [enter, habs, hrate, hset, ← h.cooler, ← h.srs, ← h.guard]

theorem drive_inForce {a : Actuation} {m : CryoControlSM} (h : InForce a m) (now : UInt64) :
    InForce a (drive a m now) := by
  have habs := PID.compute_bounded (p := m.absPID)
  have hrate := PID.compute_bounded (p := m.ratePID)
  cases hd : a.driver with
  | none =>
    simp only [drive, hd]
    exact { h with }
  | absPID =>
    simp only [drive, hd, computeAbs]
    refine { h with absMode := ?_, absLimits := ?_, absBounded := ?_ }
    · simpa using h.absMode
    · exact ⟨by simpa using h.absLimits.1, by simpa using h.absLimits.2⟩
    · exact fun ha => habs (h.absBounded ha) _ _ _
  | ratePID =>
    simp only [drive, hd, computeRate]
    refine { h with rateMode := ?_, rateLimits := ?_, rateBounded := ?_ }
    · simpa using h.rateMode
    · exact ⟨by simpa using h.rateLimits.1, by simpa using h.rateLimits.2⟩
    · exact fun ha => hrate (h.rateBounded ha) _ _ _

theorem postRunSanityCheck_eq (m : CryoControlSM) :
    m.postRunSanityCheck =
      { m with
        thisRunHeaterPower := if m.tripped then 0 else max m.thisRunPIDValue 0
        thisRunCCPower := if m.tripped then 0 else max (-m.thisRunPIDValue) 0 } := by
  simp only [postRunSanityCheck]
  by_cases hneg : m.thisRunPIDValue < 0
  · have h1 : max m.thisRunPIDValue 0 = 0 := max_eq_right hneg.le
    have h2 : max (-m.thisRunPIDValue) 0 = |m.thisRunPIDValue| := by
      rw [abs_of_neg hneg, max_eq_left (by linarith)]
    simp only [if_pos hneg, h1, h2, tripped]
    split_ifs <;> rfl
  · have h1 : max m.thisRunPIDValue 0 = m.thisRunPIDValue := max_eq_left (not_lt.mp hneg)
    have h2 : max (-m.thisRunPIDValue) 0 = 0 := max_eq_right (by linarith)
    simp only [if_neg hneg, h1, h2, tripped]
    split_ifs <;> rfl

theorem postRunSanityCheck_inForce {a : Actuation} {m : CryoControlSM} (h : InForce a m) :
    InForce a m.postRunSanityCheck := by
  rw [postRunSanityCheck_eq]
  exact { h with }

structure Interlock (m : CryoControlSM) : Prop where
  settled : m.currentFSMState = m.shouldBeFSMState
  function : m.cryoStateFn = stFnTable m.currentFSMState
  mode : m.fsmMode = .automatic
  inForce : InForce m.currentFSMState.actuation m

theorem construct_interlock (mem : CryoControlSM) (absTime rateTime : UInt64) :
    Interlock (construct mem absTime rateTime) := by
  have hlt : (0 : ℚ) < 75 := by norm_num
  have hforce : InForce FSMStates.idle.actuation (construct mem absTime rateTime) := by
    constructor
    · simp [construct, FSMStates.actuation]
    · simp [construct, FSMStates.actuation]
    · exact PID.setOutputLimits_limits hlt _
    · exact PID.setOutputLimits_limits hlt _
    · rfl
    · rfl
    · intro r hr
      cases hr
    · rfl
    · exact fun h => absurd h (by decide)
    · exact fun h => absurd h (by decide)
  exact ⟨rfl, rfl, rfl, hforce⟩

theorem settle_inForce {m : CryoControlSM} (h : Interlock m) {s : Sweep}
    (hs : m.currentFSMState = m.nextState s) : InForce (m.nextState s).actuation (m.settle s) := by
  rw [← hs]
  have hf := h.inForce
  rw [settle, prepare_eq]
  constructor
  · simpa using hf.absMode
  · simpa using hf.rateMode
  · exact PID.retune_limits _ _ _ hf.absLimits
  · exact PID.retune_limits _ _ _ hf.rateLimits
  · exact hf.cooler
  · exact hf.srs
  · exact hf.rate
  · simp [hs]
  · exact fun hd => PID.retune_bounded _ _ _ (hf.absBounded hd)
  · exact fun hd => PID.retune_bounded _ _ _ (hf.rateBounded hd)

/-- A sweep puts the actuation of the decided state in force and drives it,
whether or not the state is new. -/
theorem smEngine_eq_drive {m : CryoControlSM} (h : Interlock m) (s : Sweep) :
    m.smEngine s =
      (drive (m.nextState s).actuation (enter (m.nextState s).actuation (m.settle s))
        s.computeTime).postRunSanityCheck := by
  rw [smEngine_eq h.mode h.function h.inForce.guard]
  split_ifs with hs
  · rfl
  · rw [enter_of_inForce (settle_inForce h (not_not.mp hs))]

theorem smEngine_keeps {α : Type} (f : CryoControlSM → α) {m : CryoControlSM}
    (h : Interlock m) (s : Sweep)
    (hf : ∀ m absPID ratePID value heater cc,
      f { m with
        absPID := absPID, ratePID := ratePID, thisRunPIDValue := value
        thisRunHeaterPower := heater, thisRunCCPower := cc } = f m := by intros; rfl) :
    f (m.smEngine s) = f (enter (m.nextState s).actuation (m.settle s)) := by
  rw [smEngine_eq_drive h, postRunSanityCheck_eq]
  generalize enter (m.nextState s).actuation (m.settle s) = entered
  rw [drive]
  cases (m.nextState s).actuation.driver with
  | none => exact hf entered _ _ _ _ _
  | absPID => exact hf entered _ _ _ _ _
  | ratePID => exact hf entered _ _ _ _ _

theorem smEngine_currentFSMState {m : CryoControlSM} (h : Interlock m) (s : Sweep) :
    (m.smEngine s).currentFSMState = m.nextState s :=
  smEngine_keeps currentFSMState h s

theorem smEngine_setTemperature {m : CryoControlSM} (h : Interlock m) (s : Sweep) :
    (m.smEngine s).setTemperature = s.packet.tTemp := by
  rw [smEngine_keeps setTemperature h s, enter, settle, prepare_eq]

theorem smEngine_currentTemperature {m : CryoControlSM} (h : Interlock m) (s : Sweep) :
    (m.smEngine s).currentTemperature = s.packet.curTemp := by
  rw [smEngine_keeps currentTemperature h s, enter, settle, prepare_eq]

theorem smEngine_interlock (m : CryoControlSM) (s : Sweep) (h : Interlock m) :
    Interlock (m.smEngine s) := by
  have hstate := smEngine_currentFSMState h s
  have hforce : InForce (m.nextState s).actuation (m.smEngine s) := by
    rw [smEngine_eq_drive h]
    exact postRunSanityCheck_inForce (drive_inForce (enter_inForce _ _) _)
  refine ⟨?_, ?_, ?_, hstate ▸ hforce⟩
  · rw [hstate]
    exact (smEngine_keeps shouldBeFSMState h s).symm
  · rw [hstate]
    exact smEngine_keeps cryoStateFn h s
  · rw [smEngine_keeps fsmMode h s, enter, settle, prepare_eq]
    exact h.mode

theorem run_interlock (mem : CryoControlSM) (absTime rateTime : UInt64) (ss : List Sweep) :
    Interlock (Transition.run smEngine (construct mem absTime rateTime) ss) :=
  Transition.run_invariant smEngine_interlock (construct_interlock mem absTime rateTime) ss

/-- The interlock in the words of the source: after any sweeps, from any memory,
the actuator-side variables are functions of the state. -/
theorem sweeps_keep_interlock (mem : CryoControlSM) (absTime rateTime : UInt64)
    (ss : List Sweep) :
    let m := Transition.run smEngine (construct mem absTime rateTime) ss
    let lower : ℚ := if m.currentFSMState ∈ [.coolDownCold, .maintainCold] then -120 else 0
    m.currentFSMState = m.shouldBeFSMState ∧
    m.cryoStateFn = stFnTable m.currentFSMState ∧
    m.entryGuardActive = false ∧
    (m.cCoolerPower = true ↔
      m.currentFSMState ∈ [.coolDownHot, .coolDownCold, .maintainCold]) ∧
    (m.computedSRSPowerState = true ↔ m.currentFSMState ∈ [.coolDownCold, .maintainCold]) ∧
    (m.absPID.inAuto = true ↔ m.currentFSMState ∈ [.maintainWarm, .maintainCold]) ∧
    (m.ratePID.inAuto = true ↔
      m.currentFSMState ∈ [.warmup, .coolDownHot, .coolDownCold]) ∧
    m.absPID.Limits lower 75 ∧ m.ratePID.Limits lower 75 ∧
    (m.currentFSMState = .warmup → m.rSetpoint = 1 / 60) ∧
    (m.currentFSMState ∈ [.coolDownHot, .coolDownCold] → m.rSetpoint = -1 / 60) := by
  intro m lower
  have h : Interlock m := run_interlock mem absTime rateTime ss
  have hf := h.inForce
  have hlower : m.currentFSMState.actuation.lower = lower := m.currentFSMState.actuation_lower
  refine ⟨h.settled, h.function, hf.guard, ?_, ?_, ?_, ?_, hlower ▸ hf.absLimits,
    hlower ▸ hf.rateLimits, ?_, ?_⟩
  · rw [hf.cooler, FSMStates.actuation_coolerOn]
  · rw [hf.srs, FSMStates.actuation_srsOn]
  · rw [hf.absMode, FSMStates.actuation_absPID]
  · rw [hf.rateMode, FSMStates.actuation_ratePID]
  · intro hst
    exact hf.rate _ (by rw [hst]; rfl)
  · intro hst
    rcases List.mem_pair.mp hst with hst | hst
    · exact hf.rate _ (by rw [hst]; rfl)
    · exact hf.rate _ (by rw [hst]; rfl)

end CryoControlSM
end CryoController
