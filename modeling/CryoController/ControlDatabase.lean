import Mathlib.Data.Rat.Defs

/-!
# The rows of the control database and the data packet of one sweep

`ControlParameters` is the single row (`IDX = 1`) that all programs share. Its
power-state columns are integers that `bool` variables are read from, so any
non-zero value reads as true. `CCState` and `LSHState` are the newest rows of
the two measurement tables; a timestamp may be NULL.
-/

namespace CryoController

structure ControlParameters where
  tTemperature : ℚ
  kp : ℚ
  ki : ℚ
  kd : ℚ
  kpR : ℚ
  kiR : ℚ
  kdR : ℚ
  heaterPW : ℚ
  heaterMode : ℤ
  ccPower : ℚ
  ccPowerState : ℤ
  srsPowerState : ℤ
  watchdogFuse : ℤ
  deriving DecidableEq, Repr, Inhabited

structure CCState where
  timeS : Option ℤ
  tc : ℚ
  pMin : ℚ
  pMax : ℚ
  deriving DecidableEq, Repr, Inhabited

structure LSHState where
  timeS : Option ℤ
  lshTemp : ℚ
  deriving DecidableEq, Repr, Inhabited

structure DataPacket where
  kpA : ℚ
  kiA : ℚ
  kdA : ℚ
  kpR : ℚ
  kiR : ℚ
  kdR : ℚ
  tTemp : ℚ
  curTemp : ℚ
  curTempLSH : ℚ
  pMin : ℚ
  pMax : ℚ
  ccPowerStateLast : Bool
  watchdogFuse : Bool
  srsPowerState : Bool
  lastCCTime : ℤ
  lastLSHTime : ℤ
  deriving DecidableEq, Repr, Inhabited

/-- The three SELECTs of `UpdateVars`. The packet lives on the stack: a NULL
timestamp leaves the member as the memory had it. -/
def DataPacket.fetch (mem : DataPacket) (ctrlRow : ControlParameters) (tcRow : CCState)
    (lshRow : LSHState) : DataPacket where
  tTemp := ctrlRow.tTemperature
  kpA := ctrlRow.kp
  kiA := ctrlRow.ki
  kdA := ctrlRow.kd
  kpR := ctrlRow.kpR
  kiR := ctrlRow.kiR
  kdR := ctrlRow.kdR
  ccPowerStateLast := decide (ctrlRow.ccPowerState ≠ 0)
  watchdogFuse := decide (ctrlRow.watchdogFuse ≠ 0)
  srsPowerState := decide (ctrlRow.srsPowerState ≠ 0)
  lastCCTime := tcRow.timeS.getD mem.lastCCTime
  curTemp := tcRow.tc
  pMin := tcRow.pMin
  pMax := tcRow.pMax
  lastLSHTime := lshRow.timeS.getD mem.lastLSHTime
  curTempLSH := lshRow.lshTemp

inductive FSMStates
  | idle
  | coolDownHot
  | coolDownCold
  | warmup
  | maintainWarm
  | maintainCold
  | fault
  deriving DecidableEq, Repr, Inhabited

inductive Statement
  | insertSMState (pid : ℚ) (systemState shouldBeState : FSMStates)
  | setHeaterPW (power : ℚ)
  | setCCPower (power : ℚ)
  | setCCPowerState (on : Bool)
  | setSRSPowerState (on : Bool)
  deriving DecidableEq, Repr, Inhabited

def ControlParameters.execute (row : ControlParameters) : Statement → ControlParameters
  | .insertSMState _ _ _ => row
  | .setHeaterPW power => { row with heaterPW := power }
  | .setCCPower power => { row with ccPower := power }
  | .setCCPowerState on => { row with ccPowerState := on.toInt }
  | .setSRSPowerState on => { row with srsPowerState := on.toInt }

end CryoController
