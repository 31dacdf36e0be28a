import CryoController.CryoControlSM

/-!
# The state machine as a table of actuations

The abstract machine: each state has one actuation (which controller drives,
between which limits, what is powered, which rate is asked for), and every
sweep puts the actuation of the decided state in force and lets its controller
compute. The seven functions of the source are shown to do that, so that
everything later is proved once for an arbitrary actuation.
-/

open Conversion
namespace CryoController

inductive Driver
  | none
  | absPID
  | ratePID
  deriving DecidableEq, Repr

structure Actuation where
  driver : Driver
  lower : ℚ
  coolerOn : Bool
  srsOn : Bool
  rateTarget : Option ℚ
  lower_nonpos : lower ≤ 0

theorem Actuation.lower_lt (a : Actuation) : a.lower < 75 :=
  a.lower_nonpos.trans_lt (by norm_num)

def FSMStates.actuation : FSMStates → Actuation
  | .idle => ⟨.none, 0, false, false, none, le_rfl⟩
  | .coolDownHot => ⟨.ratePID, 0, true, false, some (-1 / 60), le_rfl⟩
  | .coolDownCold => ⟨.ratePID, -120, true, true, some (-1 / 60), by norm_num⟩
  | .warmup => ⟨.ratePID, 0, false, false, some (1 / 60), le_rfl⟩
  | .maintainWarm => ⟨.absPID, 0, false, false, none, le_rfl⟩
  | .maintainCold => ⟨.absPID, -120, true, true, none, by norm_num⟩
  | .fault => ⟨.none, 0, false, false, none, le_rfl⟩

namespace FSMStates
variable (st : FSMStates)

theorem actuation_absPID :
    st.actuation.driver = .absPID ↔ st ∈ [.maintainWarm, .maintainCold] := by
  cases st <;> decide

theorem actuation_ratePID :
    st.actuation.driver = .ratePID ↔ st ∈ [.warmup, .coolDownHot, .coolDownCold] := by
  cases st <;> decide

theorem actuation_undriven : st.actuation.driver = .none ↔ st ∈ [.idle, .fault] := by
  cases st <;> decide

theorem actuation_coolerOn :
    st.actuation.coolerOn = true ↔ st ∈ [.coolDownHot, .coolDownCold, .maintainCold] := by
  cases st <;> decide

theorem actuation_srsOn :
    st.actuation.srsOn = true ↔ st ∈ [.coolDownCold, .maintainCold] := by
  cases st <;> decide

theorem actuation_lower :
    st.actuation.lower = if st ∈ [.coolDownCold, .maintainCold] then -120 else 0 := by
  cases st <;> rfl

end FSMStates

namespace PID

def retune (p : PID) (Kp Ki Kd : ℚ) : PID :=
  if Kp ≠ p.dispKp ∨ Ki ≠ p.dispKi ∨ Kd ≠ p.dispKd then p.setTunings Kp Ki Kd else p

section Retune
variable (p : PID) (Kp Ki Kd : ℚ)

@[simp] theorem retune_inAuto : (p.retune Kp Ki Kd).inAuto = p.inAuto := by
  rw [retune]
  split_ifs <;> simp [setTunings]

@[simp] theorem retune_myOutput : (p.retune Kp Ki Kd).myOutput = p.myOutput := by
  rw [retune]
  split_ifs <;> simp [setTunings]

theorem retune_limits {p : PID} {lo hi : ℚ} (h : p.Limits lo hi) :
    (p.retune Kp Ki Kd).Limits lo hi := by
  rw [retune]
  split_ifs
  · exact setTunings_limits h Kp Ki Kd
  · exact h

theorem retune_bounded {p : PID} (h : p.Bounded) : (p.retune Kp Ki Kd).Bounded := by
  rw [retune]
  split_ifs
  · exact setTunings_bounded h Kp Ki Kd
  · exact h

end Retune
end PID

def averageRTD (avg reading : ℚ) : ℚ :=
  if reading > 10 then avg + (reading - avg) / rateMovingAvgN else avg

namespace Sweep

def deltaLSH (s : Sweep) : ℤ :=
  intOfDouble s.undefInt ((s.nowTime - s.packet.lastLSHTime : ℤ) : ℚ)

def deltaCC (s : Sweep) : ℤ :=
  intOfDouble s.undefInt ((s.nowTime - s.packet.lastCCTime : ℤ) : ℚ)

def Stale (s : Sweep) : Prop := s.deltaLSH > 60 ∨ s.deltaCC > 60

instance (s : Sweep) : Decidable s.Stale :=
  inferInstanceAs (Decidable (s.deltaLSH > 60 ∨ s.deltaCC > 60))

end Sweep

namespace CryoControlSM

def nextRate (m : CryoControlSM) (d : DataPacket) : ℚ :=
  if m.currentTemperature ≠ 0 then
    m.tempratureRateMovingAvg +
      ((d.curTemp - m.currentTemperature) / rateMovingAvgN -
        m.tempratureRateMovingAvg / rateMovingAvgN)
  else m.tempratureRateMovingAvg

def nextState (m : CryoControlSM) (s : Sweep) : FSMStates :=
  if s.Stale then .fault
  else rangeRules s.packet.tTemp s.packet.curTemp m.shouldBeFSMState

def settle (m : CryoControlSM) (s : Sweep) : CryoControlSM :=
  { m.prepare s.packet with
    nowTime := s.nowTime
    currentFSMState := m.nextState s
    shouldBeFSMState := m.nextState s
    cryoStateFn := stFnTable (m.nextState s)
    entryGuardActive := decide (m.currentFSMState ≠ m.nextState s) }

def enter (a : Actuation) (m : CryoControlSM) : CryoControlSM :=
  { m with
    absPID := if a.driver = .absPID then m.absPID.arm a.lower 75 m.currentTemperature
      else m.absPID.release a.lower 75 m.currentTemperature
    ratePID := if a.driver = .ratePID then m.ratePID.arm a.lower 75 m.tempratureRateMovingAvg
      else m.ratePID.release a.lower 75 m.tempratureRateMovingAvg
    rSetpoint := a.rateTarget.getD m.rSetpoint
    cCoolerPower := a.coolerOn
    computedSRSPowerState := a.srsOn
    entryGuardActive := false }

def drive (a : Actuation) (m : CryoControlSM) (now : UInt64) : CryoControlSM :=
  match a.driver with
  | .none => { m with thisRunPIDValue := 0 }
  | .absPID => { m.computeAbs now with thisRunPIDValue := (m.computeAbs now).tOutput }
  | .ratePID => { m.computeRate now with thisRunPIDValue := (m.computeRate now).rOutput }

theorem applyTunings_eq (m : CryoControlSM) (d : DataPacket) :
    m.applyTunings d =
      { m with
        absPID := m.absPID.retune d.kpA d.kiA d.kdA
        ratePID := m.ratePID.retune d.kpR d.kiR d.kdR } := by
  simp only [applyTunings, PID.retune]
  split_ifs <;> rfl

theorem applyPacket_eq (m : CryoControlSM) (d : DataPacket) :
    m.applyPacket d =
      { m with
        pMax := d.pMax
        pMin := d.pMin
        lastCCTime := d.lastCCTime
        lastLSHTime := d.lastLSHTime
        setTemperature := d.tTemp } := by
  simp only [applyPacket]
  split_ifs with h
  · rfl
  · rw [not_not.mp h]

theorem updateTemperatures_eq (m : CryoControlSM) (d : DataPacket) :
    m.updateTemperatures d =
      { m with
        lastTemperature := m.currentTemperature
        currentTemperature := d.curTemp
        tempratureRateMovingAvg := m.nextRate d
        movingAvgCCRTD := averageRTD m.movingAvgCCRTD d.curTemp
        movingAvgLSHRTD := averageRTD m.movingAvgLSHRTD d.curTempLSH } := by
  simp only [updateTemperatures, nextRate, averageRTD]
  split_ifs <;> rfl

theorem prepare_eq (m : CryoControlSM) (d : DataPacket) :
    m.prepare d =
      { m with
        absPID := m.absPID.retune d.kpA d.kiA d.kdA
        ratePID := m.ratePID.retune d.kpR d.kiR d.kdR
        sentCCPower := m.thisRunCCPower + d.pMin
        pMax := d.pMax
        pMin := d.pMin
        lastCCTime := d.lastCCTime
        lastLSHTime := d.lastLSHTime
        setTemperature := d.tTemp
        lastTemperature := m.currentTemperature
        currentTemperature := d.curTemp
        tempratureRateMovingAvg := m.nextRate d
        movingAvgCCRTD := averageRTD m.movingAvgCCRTD d.curTemp
        movingAvgLSHRTD := averageRTD m.movingAvgLSHRTD d.curTempLSH } := by
  rw [prepare, updateTemperatures_eq, applyPacket_eq, applyTunings_eq]
  rfl

theorem stateDecision_eq {m : CryoControlSM} {s : Sweep} (hm : m.fsmMode = .automatic)
    (hl : m.lastLSHTime = s.packet.lastLSHTime) (hc : m.lastCCTime = s.packet.lastCCTime) :
    m.stateDecision s =
      { m with
        nowTime := s.nowTime
        shouldBeFSMState := if s.Stale then .fault
          else rangeRules m.setTemperature m.currentTemperature m.shouldBeFSMState } := by
  have hauto : m.fsmMode ≠ .manual := by simp [hm]
  simp only [stateDecision, if_neg hauto, hl, hc]
  by_cases hs : s.Stale
  · rw [if_pos hs]
    exact if_pos hs
  · rw [if_neg hs]
    exact if_neg hs

theorem decideAndSwitch_eq {m : CryoControlSM} {s : Sweep} (hm : m.fsmMode = .automatic)
    (hl : m.lastLSHTime = s.packet.lastLSHTime) (hc : m.lastCCTime = s.packet.lastCCTime)
    (hfn : m.cryoStateFn = stFnTable m.currentFSMState) (hg : m.entryGuardActive = false)
    {st : FSMStates} (hst : st = if s.Stale then .fault
      else rangeRules m.setTemperature m.currentTemperature m.shouldBeFSMState) :
    m.decideAndSwitch s =
      { m with
        nowTime := s.nowTime
        currentFSMState := st
        shouldBeFSMState := st
        cryoStateFn := stFnTable st
        entryGuardActive := decide (m.currentFSMState ≠ st) } := by
  rw [decideAndSwitch, stateDecision_eq hm hl hc, ← hst]
  by_cases h : m.currentFSMState = st
  · simp only [← h, ← hfn, hg, ne_eq, not_true_eq_false, if_false, decide_false]
  · simp only [h, stateSwitch, ne_eq, not_false_eq_true, if_true, decide_true]

theorem decideAndSwitch_prepare {m : CryoControlSM} (hm : m.fsmMode = .automatic)
    (hfn : m.cryoStateFn = stFnTable m.currentFSMState) (hg : m.entryGuardActive = false)
    (s : Sweep) : (m.prepare s.packet).decideAndSwitch s = m.settle s := by
  have hp := prepare_eq m s.packet
  have hst : m.nextState s = if s.Stale then .fault
      else rangeRules (m.prepare s.packet).setTemperature (m.prepare s.packet).currentTemperature
        (m.prepare s.packet).shouldBeFSMState := by rw [hp, nextState]
  rw [decideAndSwitch_eq (by rw [hp, hm]) (by rw [hp]) (by rw [hp]) (by rw [hp, hfn])
    (by rw [hp, hg]) hst, settle, hp]

theorem postRunSanityCheck_forgets (m : CryoControlSM) (heater cc : ℚ) :
    postRunSanityCheck { m with thisRunHeaterPower := heater, thisRunCCPower := cc } =
      m.postRunSanityCheck := by
  simp only [postRunSanityCheck, tripped]

theorem heating_rate : deltaTRatePerMin / 60 = 1 / 60 := rfl

theorem cooling_rate : -1 * deltaTRatePerMin / 60 = -1 / 60 := by
  norm_num [deltaTRatePerMin]

section StateFunctions
variable {m : CryoControlSM} {st : FSMStates}

theorem callStateFn_standing (hfn : m.cryoStateFn = stFnTable st) (hg : m.entryGuardActive = false)
    (now : UInt64) : ∃ heater cc,
      m.callStateFn now =
        { drive st.actuation m now with
          thisRunHeaterPower := heater, thisRunCCPower := cc } := by
  cases st with
  | idle =>
    refine ⟨m.thisRunHeaterPower, m.thisRunCCPower, ?_⟩
    simp only [callStateFn, hfn, stFnTable, idle, hg, FSMStates.actuation, drive,
      Bool.false_eq_true, if_false]
  | fault =>
    refine ⟨0, 0, ?_⟩
    simp only [callStateFn, hfn, stFnTable, fault, hg, FSMStates.actuation, drive,
      Bool.false_eq_true, if_false]
  | _ =>
    refine ⟨m.thisRunHeaterPower, m.thisRunCCPower, ?_⟩
    simp only [callStateFn, hfn, stFnTable, coolDownHot, coolDownCold, warmup, maintainWarm,
      maintainCold, hg, FSMStates.actuation, drive, computeRate, computeAbs,
      Bool.false_eq_true, if_false]

theorem callStateFn_entering (hfn : m.cryoStateFn = stFnTable st) (hg : m.entryGuardActive = true)
    (now : UInt64) : ∃ heater cc,
      m.callStateFn now =
        { drive st.actuation (enter st.actuation m) now with
          thisRunHeaterPower := heater, thisRunCCPower := cc } := by
  cases st with
  | idle =>
    refine ⟨m.thisRunHeaterPower, 0, ?_⟩
    simp only [callStateFn, hfn, stFnTable, idle, hg, FSMStates.actuation, drive, enter,
      setAbsMode, setRateMode, setAbsLimits, setRateLimits, PID.release, reduceCtorEq,
      if_true, if_false, Option.getD_none]
  | warmup =>
    refine ⟨m.thisRunHeaterPower, 0, ?_⟩
    simp only [callStateFn, hfn, stFnTable, warmup, hg, FSMStates.actuation, drive, enter,
      setAbsMode, setRateMode, setAbsLimits, setRateLimits, PID.release, PID.arm, reduceCtorEq,
      if_true, if_false, Option.getD_some, computeRate, rOutput, heating_rate]
  | fault =>
    refine ⟨0, 0, ?_⟩
    simp only [callStateFn, hfn, stFnTable, fault, hg, FSMStates.actuation, drive, enter,
      setAbsMode, setRateMode, setAbsLimits, setRateLimits, PID.release, reduceCtorEq,
      if_true, if_false, Option.getD_none]
  | _ =>
    refine ⟨m.thisRunHeaterPower, m.thisRunCCPower, ?_⟩
    simp only [callStateFn, hfn, stFnTable, coolDownHot, coolDownCold, maintainWarm,
      maintainCold, hg, FSMStates.actuation, drive, enter, setAbsMode, setRateMode,
      setAbsLimits, setRateLimits, PID.release, PID.arm, reduceCtorEq, if_true, if_false,
      Option.getD_none, Option.getD_some, computeRate, computeAbs, rOutput, tOutput,
      cooling_rate]

/-- Each function of the source enters and drives the actuation of its state, up
to the powers that the check after the run overwrites. -/
theorem callStateFn_eq (hfn : m.cryoStateFn = stFnTable st) (now : UInt64) : ∃ heater cc,
    m.callStateFn now =
      { drive st.actuation (if m.entryGuardActive then enter st.actuation m else m) now with
        thisRunHeaterPower := heater, thisRunCCPower := cc } := by
  cases hg : m.entryGuardActive with
  | false => exact callStateFn_standing hfn hg now
  | true => exact callStateFn_entering hfn hg now

end StateFunctions

theorem smEngine_eq {m : CryoControlSM} (hm : m.fsmMode = .automatic)
    (hfn : m.cryoStateFn = stFnTable m.currentFSMState) (hg : m.entryGuardActive = false)
    (s : Sweep) :
    m.smEngine s =
      (drive (m.nextState s).actuation
        (if m.currentFSMState ≠ m.nextState s then enter (m.nextState s).actuation (m.settle s)
          else m.settle s) s.computeTime).postRunSanityCheck := by
  have hguard : (m.settle s).entryGuardActive = decide (m.currentFSMState ≠ m.nextState s) := rfl
  have hnext : (m.settle s).cryoStateFn = stFnTable (m.nextState s) := rfl
  obtain ⟨heater, cc, hcall⟩ := callStateFn_eq hnext s.computeTime
  rw [smEngine, decideAndSwitch_prepare hm hfn hg, hcall, postRunSanityCheck_forgets, hguard]
  simp only [decide_eq_true_eq]

end CryoControlSM
end CryoController
