import CryoController.PID
import CryoController.ControlDatabase
import CryoController.Foundations.Conversion

/-!
# The cryogenic state machine of `CryoControlSM.cpp`

One sweep of `SMEngine`, in the order of the source: the exchange with the
database, the packet's changes, the state decision, the switch, the function of
the state and the check after the run. A sweep is given by the rows that the
SELECTs return, the memory the packet is built in, and the clock readings of
`time` in `StateDecision` and in `Compute`.

Members that nothing reads (`TimeStamp`, `TInput`, `RInput`, `ExitGuardActive`)
are left out. `CryoStateFn` is a member pointer, kept as the member's name.
-/

open Conversion
namespace CryoController

structure Sweep where
  ctrlRow : ControlParameters
  tcRow : CCState
  lshRow : LSHState
  mem : DataPacket
  nowTime : ℤ
  undefInt : ℚ → ℤ
  computeTime : UInt64

def Sweep.packet (s : Sweep) : DataPacket := s.mem.fetch s.ctrlRow s.tcRow s.lshRow

inductive StateFn
  | idle
  | coolDownHot
  | coolDownCold
  | warmup
  | maintainWarm
  | maintainCold
  | fault
  deriving DecidableEq, Repr, Inhabited

def stFnTable : FSMStates → StateFn
  | .idle => .idle
  | .coolDownHot => .coolDownHot
  | .coolDownCold => .coolDownCold
  | .warmup => .warmup
  | .maintainWarm => .maintainWarm
  | .maintainCold => .maintainCold
  | .fault => .fault

def rateMovingAvgN : ℚ := 20
def deltaTRatePerMin : ℚ := 1

structure CryoControlSM where
  lastTemperature : ℚ
  cCoolerPower : Bool
  thisRunPIDValue : ℚ
  thisRunCCPower : ℚ
  thisRunHeaterPower : ℚ
  sentCCPower : ℚ
  currentTemperature : ℚ
  setTemperature : ℚ
  tempratureRateMovingAvg : ℚ
  rSetpoint : ℚ
  movingAvgCCRTD : ℚ
  movingAvgLSHRTD : ℚ
  pMax : ℚ
  pMin : ℚ
  lastCCTime : ℤ
  lastLSHTime : ℤ
  nowTime : ℤ
  computedSRSPowerState : Bool
  absPID : PID
  ratePID : PID
  cryoStateFn : StateFn
  currentFSMState : FSMStates
  shouldBeFSMState : FSMStates
  entryGuardActive : Bool
  fsmMode : Mode
  deriving DecidableEq, Repr, Inhabited

namespace CryoControlSM

def tOutput (m : CryoControlSM) : ℚ := m.absPID.myOutput

def rOutput (m : CryoControlSM) : ℚ := m.ratePID.myOutput

/-- The member initialisers and the constructor, over arbitrary memory. The
times are the clock readings of the two `PID` constructors. -/
def construct (mem : CryoControlSM) (absTime rateTime : UInt64) : CryoControlSM :=
  { mem with
    cCoolerPower := false
    thisRunPIDValue := 0
    thisRunCCPower := 0
    thisRunHeaterPower := 0
    sentCCPower := 0
    setTemperature := 0
    tempratureRateMovingAvg := 0
    rSetpoint := 0
    movingAvgCCRTD := 0
    movingAvgLSHRTD := 0
    pMax := 0
    pMin := 0
    computedSRSPowerState := false
    entryGuardActive := false
    fsmMode := .automatic
    currentFSMState := .idle
    shouldBeFSMState := .idle
    cryoStateFn := stFnTable .idle
    currentTemperature := 0
    lastTemperature := 0
    absPID := (mem.absPID.construct 2 5 1 .pOnM .direct absTime).setOutputLimits 0 75
    ratePID := (mem.ratePID.construct 2 5 1 .pOnM .direct rateTime).setOutputLimits 0 75 }

def statements (m : CryoControlSM) (d : DataPacket) : List Statement :=
  [.insertSMState m.thisRunPIDValue m.currentFSMState m.shouldBeFSMState,
    .setHeaterPW m.thisRunHeaterPower,
    .setCCPower (m.thisRunCCPower + d.pMin)] ++
  (if d.ccPowerStateLast ≠ m.cCoolerPower then [.setCCPowerState m.cCoolerPower] else []) ++
  (if d.srsPowerState ≠ m.computedSRSPowerState then
    [.setSRSPowerState m.computedSRSPowerState] else [])

def updateVars (m : CryoControlSM) (d : DataPacket) : CryoControlSM :=
  { m with sentCCPower := m.thisRunCCPower + d.pMin }

def applyTunings (m : CryoControlSM) (d : DataPacket) : CryoControlSM :=
  let m := if d.kpA ≠ m.absPID.dispKp ∨ d.kiA ≠ m.absPID.dispKi ∨ d.kdA ≠ m.absPID.dispKd then
      { m with absPID := m.absPID.setTunings d.kpA d.kiA d.kdA } else m
  if d.kpR ≠ m.ratePID.dispKp ∨ d.kiR ≠ m.ratePID.dispKi ∨ d.kdR ≠ m.ratePID.dispKd then
    { m with ratePID := m.ratePID.setTunings d.kpR d.kiR d.kdR } else m

def applyPacket (m : CryoControlSM) (d : DataPacket) : CryoControlSM :=
  let m := { m with
    pMax := d.pMax, pMin := d.pMin
    lastCCTime := d.lastCCTime, lastLSHTime := d.lastLSHTime }
  if d.tTemp ≠ m.setTemperature then { m with setTemperature := d.tTemp } else m

def updateTemperatures (m : CryoControlSM) (d : DataPacket) : CryoControlSM :=
  let m := { m with lastTemperature := m.currentTemperature }
  let m := { m with currentTemperature := d.curTemp }
  let m := if m.lastTemperature ≠ 0 then
      { m with
        tempratureRateMovingAvg := m.tempratureRateMovingAvg +
          ((m.currentTemperature - m.lastTemperature) / rateMovingAvgN -
            m.tempratureRateMovingAvg / rateMovingAvgN) }
    else m
  let m := if d.curTemp > 10 then
      { m with
        movingAvgCCRTD := m.movingAvgCCRTD + (d.curTemp - m.movingAvgCCRTD) / rateMovingAvgN }
    else m
  if d.curTempLSH > 10 then
    { m with
      movingAvgLSHRTD :=
        m.movingAvgLSHRTD + (d.curTempLSH - m.movingAvgLSHRTD) / rateMovingAvgN }
  else m

/-- The range rules of `StateDecision`: each assignment overrides the ones
before it, and the state is kept when none fires. -/
def rangeRules (target cur : ℚ) (state : FSMStates) : FSMStates :=
  let state := if cur > 300 ∧ target < 300 then .idle else state
  let state := if target > cur + 10 ∧ cur < 290 then .warmup else state
  let state := if target < 220 ∧ target < cur - 10 ∧ cur > 220 then .coolDownHot else state
  let state := if target < 220 ∧ target < cur - 10 ∧ cur ≤ 220 then .coolDownCold else state
  let state := if target < 220 ∧ |target - cur| ≤ 10 ∧ cur ≤ 220 then .maintainCold else state
  if target > 220 ∧ |target - cur| ≤ 2 ∧ cur > 220 then .maintainWarm else state

def stateDecision (m : CryoControlSM) (s : Sweep) : CryoControlSM :=
  if m.fsmMode = .manual then { m with shouldBeFSMState := .idle }
  else
    let m := { m with
      shouldBeFSMState := rangeRules m.setTemperature m.currentTemperature m.shouldBeFSMState }
    let m := { m with nowTime := s.nowTime }
    -- `difftime` gives a double, which is stored in an `int`
    let lastDeltaLSH := intOfDouble s.undefInt ((m.nowTime - m.lastLSHTime : ℤ) : ℚ)
    let lastDeltaCC := intOfDouble s.undefInt ((m.nowTime - m.lastCCTime : ℤ) : ℚ)
    if lastDeltaLSH > 60 ∨ lastDeltaCC > 60 then { m with shouldBeFSMState := .fault } else m

def stateSwitch (m : CryoControlSM) : CryoControlSM :=
  { m with
    entryGuardActive := true
    cryoStateFn := stFnTable m.shouldBeFSMState
    currentFSMState := m.shouldBeFSMState }

def setAbsMode (m : CryoControlSM) (mode : Mode) : CryoControlSM :=
  { m with absPID := m.absPID.setMode mode m.currentTemperature }

def setRateMode (m : CryoControlSM) (mode : Mode) : CryoControlSM :=
  { m with ratePID := m.ratePID.setMode mode m.tempratureRateMovingAvg }

def setAbsLimits (m : CryoControlSM) (min max : ℚ) : CryoControlSM :=
  { m with absPID := m.absPID.setOutputLimits min max }

def setRateLimits (m : CryoControlSM) (min max : ℚ) : CryoControlSM :=
  { m with ratePID := m.ratePID.setOutputLimits min max }

def computeAbs (m : CryoControlSM) (now : UInt64) : CryoControlSM :=
  { m with absPID := m.absPID.compute m.currentTemperature m.setTemperature now }

def computeRate (m : CryoControlSM) (now : UInt64) : CryoControlSM :=
  { m with ratePID := m.ratePID.compute m.tempratureRateMovingAvg m.rSetpoint now }

def warmup (m : CryoControlSM) (now : UInt64) : CryoControlSM :=
  let m := if m.entryGuardActive then
      let m := (m.setAbsMode .manual).setRateMode .automatic
      let m := (m.setRateLimits 0 75).setAbsLimits 0 75
      { m with
        thisRunCCPower := 0
        rSetpoint := deltaTRatePerMin / 60
        cCoolerPower := false
        computedSRSPowerState := false
        entryGuardActive := false }
    else m
  let m := m.computeRate now
  { m with thisRunPIDValue := m.rOutput }

def idle (m : CryoControlSM) : CryoControlSM :=
  let m := if m.entryGuardActive then
      let m := (m.setAbsMode .manual).setRateMode .manual
      let m := (m.setRateLimits 0 75).setAbsLimits 0 75
      { m with
        thisRunCCPower := 0
        cCoolerPower := false
        computedSRSPowerState := false
        entryGuardActive := false }
    else m
  { m with thisRunPIDValue := 0 }

def fault (m : CryoControlSM) : CryoControlSM :=
  -- unlike the other entry blocks this one leaves the powers to every sweep
  let m := if m.entryGuardActive then
      let m := (m.setAbsMode .manual).setRateMode .manual
      let m := (m.setRateLimits 0 75).setAbsLimits 0 75
      { m with
        cCoolerPower := false
        computedSRSPowerState := false
        entryGuardActive := false }
    else m
  { m with thisRunPIDValue := 0, thisRunCCPower := 0, thisRunHeaterPower := 0 }

def coolDownHot (m : CryoControlSM) (now : UInt64) : CryoControlSM :=
  let m := if m.entryGuardActive then
      let m := (m.setAbsMode .manual).setRateMode .automatic
      let m := (m.setRateLimits 0 75).setAbsLimits 0 75
      { m with
        rSetpoint := -1 * deltaTRatePerMin / 60
        cCoolerPower := true
        computedSRSPowerState := false
        entryGuardActive := false }
    else m
  let m := m.computeRate now
  { m with thisRunPIDValue := m.rOutput }

def coolDownCold (m : CryoControlSM) (now : UInt64) : CryoControlSM :=
  let m := if m.entryGuardActive then
      let m := (m.setAbsMode .manual).setRateMode .automatic
      let m := (m.setRateLimits (-120) 75).setAbsLimits (-120) 75
      { m with
        rSetpoint := -1 * deltaTRatePerMin / 60
        cCoolerPower := true
        computedSRSPowerState := true
        entryGuardActive := false }
    else m
  let m := m.computeRate now
  { m with thisRunPIDValue := m.rOutput }

def maintainWarm (m : CryoControlSM) (now : UInt64) : CryoControlSM :=
  let m := if m.entryGuardActive then
      let m := (m.setAbsMode .automatic).setRateMode .manual
      let m := (m.setAbsLimits 0 75).setRateLimits 0 75
      { m with
        cCoolerPower := false
        computedSRSPowerState := false
        entryGuardActive := false }
    else m
  let m := m.computeAbs now
  { m with thisRunPIDValue := m.tOutput }

def maintainCold (m : CryoControlSM) (now : UInt64) : CryoControlSM :=
  let m := if m.entryGuardActive then
      let m := (m.setAbsMode .automatic).setRateMode .manual
      let m := (m.setRateLimits (-120) 75).setAbsLimits (-120) 75
      { m with
        cCoolerPower := true
        computedSRSPowerState := true
        entryGuardActive := false }
    else m
  let m := m.computeAbs now
  { m with thisRunPIDValue := m.tOutput }

def callStateFn (m : CryoControlSM) (now : UInt64) : CryoControlSM :=
  match m.cryoStateFn with
  | .idle => m.idle
  | .coolDownHot => m.coolDownHot now
  | .coolDownCold => m.coolDownCold now
  | .warmup => m.warmup now
  | .maintainWarm => m.maintainWarm now
  | .maintainCold => m.maintainCold now
  | .fault => m.fault

def tripped (m : CryoControlSM) : Prop := m.movingAvgCCRTD > 320 ∨ m.movingAvgLSHRTD > 320

instance (m : CryoControlSM) : Decidable m.tripped := by unfold tripped; infer_instance

def postRunSanityCheck (m : CryoControlSM) : CryoControlSM :=
  let m := if m.thisRunPIDValue < 0 then
      { m with thisRunHeaterPower := 0, thisRunCCPower := |m.thisRunPIDValue| }
    else
      { m with thisRunHeaterPower := m.thisRunPIDValue, thisRunCCPower := 0 }
  if m.tripped then { m with thisRunHeaterPower := 0, thisRunCCPower := 0 } else m

def prepare (m : CryoControlSM) (d : DataPacket) : CryoControlSM :=
  (((m.updateVars d).applyTunings d).applyPacket d).updateTemperatures d

def decideAndSwitch (m : CryoControlSM) (s : Sweep) : CryoControlSM :=
  let m := m.stateDecision s
  if m.currentFSMState ≠ m.shouldBeFSMState then m.stateSwitch else m

def smEngine (m : CryoControlSM) (s : Sweep) : CryoControlSM :=
  (((m.prepare s.packet).decideAndSwitch s).callStateFn s.computeTime).postRunSanityCheck

end CryoControlSM
end CryoController
