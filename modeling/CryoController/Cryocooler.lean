import CryoController.SerialDevice
import CryoController.Foundations.Conversion
import CryoController.Foundations.Numeral

/-!
# The cryocooler controller of `Cryocooler.cpp`

Each function of the class maps the object to the object; the getters also
return their status. `checkIfON` and `PowerOnOff` convert replies outside a
`try`, and `PowerOnOff` compares the tail of a line that may be too short: there
the result is `none`, the exception that ends the process.

`NReadBytes`, the debug log and the texts printed to the console are left out, as
nothing reads them. The third branch of `PowerOnOff` is for a `bool` that is
neither 0 nor 1.
-/

open Numeral Conversion
namespace CryoController

inductive CCCommand
  | version
  | tc
  | p
  | e
  | pid
  | setPID (mode : ℤ)
  | sstop
  | setSSTOP (stop : Bool)
  | setPWOUT (power : ℤ)
  deriving DecidableEq, Repr, Inhabited

structure Cryocooler where
  port : Port CCCommand
  tc : ℚ
  pCurrent : ℚ
  pMax : ℚ
  pMin : ℚ
  pSet : ℚ
  pAsk : ℚ
  isON : Bool
  newCCPowerState : Bool
  newCCPower : ℤ
  controllerMode : ℤ
  hasStalled : Bool
  deriving DecidableEq, Repr, Inhabited

structure CCStateRow where
  tc : ℚ
  pMin : ℚ
  pMax : ℚ
  pCur : ℚ
  poweredON : Bool
  controlMode : ℤ
  deriving DecidableEq, Repr, Inhabited

namespace Cryocooler

def writeString (c : Cryocooler) (cmd : CCCommand) : Cryocooler :=
  { c with port := c.port.writeString cmd }

def readLine (c : Cryocooler) : List Char × Cryocooler :=
  (c.port.readLine.1, { c with port := c.port.readLine.2 })

def rReadLine (c : Cryocooler) : List Char × Cryocooler :=
  let (line, status, port) := c.port.rReadLine
  (line, { c with port := port, hasStalled := status })

def construct (mem : Cryocooler) (port : Port CCCommand) : Cryocooler :=
  let c := { mem with port := port }
  let c := c.writeString .version
  let c := c.readLine.2
  let c := c.readLine.2
  { c with pAsk := 0, controllerMode := 0, hasStalled := false }

/-- What `GetTC`, `GetP` and `GetPIDState` do: an echo line that may stall, then
an answer line to convert and record. -/
def measure (c : Cryocooler) (cmd : CCCommand) (convert : List Char → Option ℚ)
    (record : Cryocooler → ℚ → Cryocooler) : ℤ × Cryocooler :=
  let c := c.writeString cmd
  let c := c.rReadLine.2
  if c.hasStalled then (-1, c)
  else
    let (line, c) := c.readLine
    match convert line with
    | some x => (0, record c x)
    | none => (-2, c)

def getTC (c : Cryocooler) : ℤ × Cryocooler :=
  c.measure .tc stof fun c x => { c with tc := x }

def getP (c : Cryocooler) : ℤ × Cryocooler :=
  c.measure .p stof fun c x => { c with pCurrent := x }

def getPIDState (c : Cryocooler) (undefInt : ℚ → ℤ) : ℤ × Cryocooler :=
  c.measure .pid stod fun c x => { c with controllerMode := intOfDouble undefInt x }

def getE (c : Cryocooler) : ℤ × Cryocooler :=
  let c := c.writeString .e
  let c := c.rReadLine.2
  if c.hasStalled then (-1, c)
  else
    let (line, c) := c.readLine
    match stof line with
    | none => (-2, c)
    | some x =>
      let (line, c) := { c with pMax := x }.readLine
      match stof line with
      | none => (-2, c)
      | some x =>
        let (line, c) := { c with pMin := x }.readLine
        match stof line with
        | none => (-2, c)
        | some x => (0, { c with pSet := x })

def checkIfON (c : Cryocooler) : Option (ℤ × Cryocooler) :=
  let c := c.writeString .sstop
  let c := c.rReadLine.2
  if c.hasStalled then some (-1, c)
  else
    let (line, c) := c.readLine
    (stod line).map fun (x : ℚ) => (0, { c with isON := decide (x = 0) })

def complete : List Char := ['C', 'O', 'M', 'P', 'L', 'E', 'T', 'E', '.']

/-- The loop that discards lines up to one ending in `COMPLETE.`: the position
of `compare` is out of range for a line of fewer than nine characters. -/
def awaitComplete (port : Port CCCommand) : Option (Port CCCommand) :=
  let line := port.readLineThrowR.1
  if line.length < 9 then none
  else if line.drop (line.length - 9) = complete then some port.readLineThrowR.2
  else awaitComplete port.readLineThrowR.2
termination_by port.reads.length
decreasing_by
  rename_i hshort _
  apply Port.readLineThrowR_lt
  intro hnil
  simp [line, hnil] at hshort

/-- The local `sstop_status` is uninitialised when the last reply of a
switch-off does not convert. -/
def powerOnOff (c : Cryocooler) (newPowerState undefStatus : Bool) : Option Cryocooler :=
  if newPowerState then
    let c := c.writeString (.setSSTOP false)
    let c := c.readLine.2
    let (line, c) := c.readLine
    (stod line).map fun (x : ℚ) => { c with isON := decide (x = 0) }
  else
    let c := c.writeString (.setSSTOP true)
    let c := c.readLine.2
    let c := c.readLine.2
    (awaitComplete c.port).map fun port =>
      let c := { c with port := port }
      let c := c.readLine.2
      let c := c.writeString .sstop
      let c := c.readLine.2
      let (line, c) := c.readLine
      { c with isON := (stod line).elim (!undefStatus) fun (x : ℚ) => decide (x = 0) }

def adjustCryoPower (c : Cryocooler) (undefInt : ℚ → ℤ) : Cryocooler :=
  let minP := intOfDouble undefInt c.pMin
  let maxP := intOfDouble undefInt c.pMax
  let sendCCPower := if c.newCCPower > minP then c.newCCPower else minP
  let sendCCPower := if sendCCPower > maxP then maxP else sendCCPower
  let c := c.writeString (.setPWOUT sendCCPower)
  let c := c.readLine.2
  -- the answer is converted only to report a failure
  let c := c.readLine.2
  { c with pAsk := sendCCPower }

def setCryoMode (c : Cryocooler) (undefInt : ℚ → ℤ) : Cryocooler :=
  (c.measure (.setPID 0) stod fun c x =>
    { c with controllerMode := intOfDouble undefInt x }).2

def updateMysql (c : Cryocooler) (ccPowerState ccPower : ℤ) : Cryocooler × CCStateRow :=
  let c := { c with newCCPowerState := decide (ccPowerState ≠ 0), newCCPower := ccPower }
  (c, ⟨c.tc, c.pMin, c.pMax, c.pCurrent, c.isON, c.controllerMode⟩)

@[simp] theorem writeString_sent (c : Cryocooler) (cmd : CCCommand) :
    (c.writeString cmd).port.sent = c.port.sent ++ [cmd] := rfl

@[simp] theorem readLine_sent (c : Cryocooler) : c.readLine.2.port.sent = c.port.sent := rfl

@[simp] theorem rReadLine_sent (c : Cryocooler) : c.rReadLine.2.port.sent = c.port.sent :=
  c.port.rReadLine_sent

@[simp] theorem construct_sent (mem : Cryocooler) (port : Port CCCommand) :
    (construct mem port).port.sent = port.sent ++ [.version] := rfl

theorem updateMysql_sent (c : Cryocooler) (ccPowerState ccPower : ℤ) :
    (c.updateMysql ccPowerState ccPower).1.port.sent = c.port.sent := rfl

theorem measure_sent (c : Cryocooler) (cmd : CCCommand) (convert : List Char → Option ℚ)
    {record : Cryocooler → ℚ → Cryocooler} (hrecord : ∀ c x, (record c x).port = c.port) :
    (c.measure cmd convert record).2.port.sent = c.port.sent ++ [cmd] := by
  simp only [measure]
  split_ifs
  · rw [rReadLine_sent, writeString_sent]
  · split
    · rw [hrecord, readLine_sent, rReadLine_sent, writeString_sent]
    · rw [readLine_sent, rReadLine_sent, writeString_sent]

section Sent
variable (c : Cryocooler) (undefInt : ℚ → ℤ)

theorem getTC_sent : c.getTC.2.port.sent = c.port.sent ++ [.tc] :=
  c.measure_sent .tc stof fun _ _ => rfl

theorem getP_sent : c.getP.2.port.sent = c.port.sent ++ [.p] :=
  c.measure_sent .p stof fun _ _ => rfl

theorem getPIDState_sent : (c.getPIDState undefInt).2.port.sent = c.port.sent ++ [.pid] :=
  c.measure_sent .pid stod fun _ _ => rfl

theorem setCryoMode_sent : (c.setCryoMode undefInt).port.sent = c.port.sent ++ [.setPID 0] :=
  c.measure_sent (.setPID 0) stod fun _ _ => rfl

theorem getE_sent : c.getE.2.port.sent = c.port.sent ++ [.e] := by
  simp only [getE]
  split_ifs
  · rw [rReadLine_sent, writeString_sent]
  · repeat' split
    all_goals simp only [readLine_sent, rReadLine_sent, writeString_sent]

theorem checkIfON_sent {c c' : Cryocooler} {status : ℤ} (h : c.checkIfON = some (status, c')) :
    c'.port.sent = c.port.sent ++ [.sstop] := by
  simp only [checkIfON] at h
  split_ifs at h
  · obtain ⟨-, rfl⟩ := Prod.mk.inj (Option.some.inj h)
    rw [rReadLine_sent, writeString_sent]
  · obtain ⟨x, -, hx⟩ := Option.map_eq_some_iff.mp h
    obtain ⟨-, rfl⟩ := Prod.mk.inj hx
    rw [readLine_sent, rReadLine_sent, writeString_sent]

theorem adjustCryoPower_sent : c.port.sent <+: (c.adjustCryoPower undefInt).port.sent :=
  List.prefix_append _ _

end Sent

theorem awaitComplete_sent {port port' : Port CCCommand} (h : awaitComplete port = some port') :
    port'.sent = port.sent := by
  induction port using awaitComplete.induct with
  | case1 port line hshort =>
    rw [awaitComplete, if_pos hshort] at h
    cases h
  | case2 port line hshort hend =>
    rw [awaitComplete, if_neg hshort, if_pos hend] at h
    cases h
    rfl
  | case3 port line hshort hend ih =>
    rw [awaitComplete, if_neg hshort, if_neg hend] at h
    exact ih h

theorem powerOnOff_sent {c c' : Cryocooler} {on undefStatus : Bool}
    (h : c.powerOnOff on undefStatus = some c') :
    c'.port.sent = c.port.sent ++
      if on then [.setSSTOP false] else [.setSSTOP true, .sstop] := by
  cases on with
  | true =>
    obtain ⟨x, -, rfl⟩ := Option.map_eq_some_iff.mp h
    rfl
  | false =>
    obtain ⟨port, hport, rfl⟩ := Option.map_eq_some_iff.mp h
    have hsent := awaitComplete_sent hport
    simp only [readLine_sent, writeString_sent] at hsent ⊢
    rw [hsent, List.append_assoc]
    rfl

end Cryocooler
end CryoController
