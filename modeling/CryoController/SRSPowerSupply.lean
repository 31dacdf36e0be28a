import CryoController.SerialDevice
import CryoController.Foundations.Numeral

/-!
# The DC supply of `SRSPowerSupply.cpp`

`GetParameterFromSRS` falls off its end when a reply does not convert, which C++
leaves undefined. The value that the caller then goes on with is an input of each
call; a program that never comes out of the getter does less than the model, and
what depends on its coming out says so. The mutex is left out, since a sweep runs in one thread, and so is the
console output.

`VoltageRamp` tests `SRSPowerState`, which `UpdateMysql` has overwritten by the
time `PerformSweep` finds that the flag went off. The guard is then false, and no
sweep ever sends a ramp.
-/

open Numeral
namespace CryoController

inductive SRSCommand
  | readVolt
  | readSout
  | readOvld
  | volt (voltage : ℚ)
  | sout (output : Bool)
  | scar (range : ℕ)
  | scab (voltage : ℚ)
  | scae (voltage : ℚ)
  | scat (time : ℚ)
  | scadOn
  | scaa
  | trg
  deriving DecidableEq, Repr, Inhabited

namespace SRSCommand

def isQuery : SRSCommand → Bool
  | .readVolt => true
  | .readSout => true
  | .readOvld => true
  | _ => false

def ramp (startScanVoltage stopScanVoltage scanTime : ℚ) : List SRSCommand :=
  [.scar 100, .scab startScanVoltage, .scae stopScanVoltage, .scat scanTime, .sout true,
    .scadOn, .scaa, .trg]

end SRSCommand

structure SRSPowerSupply where
  port : Port SRSCommand
  currentVoltage : ℚ
  currentOutputStatus : Bool
  ovldStatus : Bool
  watchdogFuse : Bool
  srsPowerState : Bool
  deriving DecidableEq, Repr, Inhabited

structure SRSStateRow where
  srsVoltage : ℚ
  srsOutStatus : Bool
  overloadStatus : Bool
  watchdogState : Bool
  deriving DecidableEq, Repr, Inhabited

/-- What one sweep takes from outside the line: the column of the control row,
and the values of getters that fall off their end. -/
structure SRSSweep where
  srsPowerState : ℤ
  undefVoltage : ℚ
  undefOutput : ℤ
  undefRampOutput : ℤ
  deriving DecidableEq, Repr, Inhabited

namespace SRSPowerSupply

def construct (mem : SRSPowerSupply) (reads : List ReadResult) : SRSPowerSupply :=
  { mem with port := Port.opened reads [], watchdogFuse := true }

def writeString (s : SRSPowerSupply) (cmd : SRSCommand) : SRSPowerSupply :=
  { s with port := s.port.writeString cmd }

def getParameterFromSRS {α : Type} (s : SRSPowerSupply) (cmd : SRSCommand)
    (convert : List Char → Option α) (undef : α) : α × SRSPowerSupply :=
  let s := s.writeString cmd
  let (line, port) := s.port.readLine
  ((convert line).getD undef, { s with port := port })

def readPSVoltage (s : SRSPowerSupply) (undef : ℚ) : ℚ × SRSPowerSupply :=
  s.getParameterFromSRS .readVolt stof undef

def readPSOutput (s : SRSPowerSupply) (undef : ℤ) : Bool × SRSPowerSupply :=
  let (output, s) := s.getParameterFromSRS .readSout stoi undef
  (decide (output ≠ 0), s)

/-- The reply is compared with `1` as it is, terminator included. -/
def isOVLD (s : SRSPowerSupply) : Bool × SRSPowerSupply :=
  s.getParameterFromSRS .readOvld (fun line => some (decide (line = ['1']))) false

def writePSVoltage (s : SRSPowerSupply) (voltage undef : ℚ) : SRSPowerSupply :=
  let s := s.writeString (.volt voltage)
  let (voltage, s) := s.readPSVoltage undef
  { s with currentVoltage := voltage }

def writePSOutput (s : SRSPowerSupply) (output : Bool) (undef : ℤ) : SRSPowerSupply :=
  let s := s.writeString (.sout output)
  let (output, s) := s.readPSOutput undef
  { s with currentOutputStatus := output }

def voltageRamp (s : SRSPowerSupply) (startScanVoltage stopScanVoltage scanTime : ℚ)
    (undef : ℤ) : SRSPowerSupply :=
  if s.srsPowerState then
    let s := s.writeString (.scar 100)
    let s := s.writeString (.scab startScanVoltage)
    let s := s.writeString (.scae stopScanVoltage)
    let s := s.writeString (.scat scanTime)
    let s := s.writePSOutput true undef
    let s := s.writeString .scadOn
    let s := s.writeString .scaa
    s.writeString .trg
  else s

def updateMysql (s : SRSPowerSupply) (srsPowerState : ℤ) : SRSPowerSupply × SRSStateRow :=
  ({ s with srsPowerState := decide (srsPowerState ≠ 0) },
    ⟨s.currentVoltage, s.currentOutputStatus, s.ovldStatus, s.watchdogFuse⟩)

def readOut (s : SRSPowerSupply) (e : SRSSweep) : SRSPowerSupply :=
  let (voltage, s) := s.readPSVoltage e.undefVoltage
  let s := { s with currentVoltage := voltage }
  let (output, s) := s.readPSOutput e.undefOutput
  let s := { s with currentOutputStatus := output }
  let (ovld, s) := s.isOVLD
  { s with ovldStatus := ovld }

def performSweep (s : SRSPowerSupply) (e : SRSSweep) : SRSPowerSupply × SRSStateRow :=
  let prevPS := s.srsPowerState
  let s := s.readOut e
  -- from here on `srsPowerState` is the flag of this sweep, also for the ramp
  let (s, row) := s.updateMysql e.srsPowerState
  if prevPS = true ∧ prevPS ≠ s.srsPowerState then
    (s.voltageRamp s.currentVoltage 0 5 e.undefRampOutput, row)
  else (s, row)

theorem readOut_sent (s : SRSPowerSupply) (e : SRSSweep) :
    (s.readOut e).port.sent = s.port.sent ++ [.readVolt, .readSout, .readOvld] := by
  simp only [readOut, readPSVoltage, readPSOutput, isOVLD, getParameterFromSRS, writeString,
    Port.readLine_sent, Port.writeString_sent, List.append_assoc, List.cons_append,
    List.nil_append]

theorem voltageRamp_sent {s : SRSPowerSupply} (h : s.srsPowerState = true)
    (start stop time : ℚ) (undef : ℤ) : ∃ cmds,
      (s.voltageRamp start stop time undef).port.sent = s.port.sent ++ cmds ∧
        cmds.filter (fun c => !c.isQuery) = SRSCommand.ramp start stop time := by
  refine ⟨[.scar 100, .scab start, .scae stop, .scat time, .sout true, .readSout, .scadOn,
    .scaa, .trg], ?_, rfl⟩
  simp only [voltageRamp, h, if_true, writePSOutput, readPSOutput, getParameterFromSRS,
    writeString, Port.readLine_sent, Port.writeString_sent, List.append_assoc,
    List.cons_append, List.nil_append]

theorem voltageRamp_of_off {s : SRSPowerSupply} (h : s.srsPowerState = false)
    (start stop time : ℚ) (undef : ℤ) : s.voltageRamp start stop time undef = s := by
  simp only [voltageRamp, h, Bool.false_eq_true, if_false]

/-- The state at the end of a sweep is the one after the exchange: where the
ramp is called, its guard is already false. -/
theorem performSweep_fst (s : SRSPowerSupply) (e : SRSSweep) :
    (s.performSweep e).1 = ((s.readOut e).updateMysql e.srsPowerState).1 := by
  simp only [performSweep]
  split_ifs with hedge
  · obtain ⟨hon, hne⟩ := hedge
    apply voltageRamp_of_off
    rw [hon] at hne
    simpa using hne.symm
  · rfl

theorem performSweep_sent (s : SRSPowerSupply) (e : SRSSweep) :
    (s.performSweep e).1.port.sent = s.port.sent ++ [.readVolt, .readSout, .readOvld] := by
  rw [performSweep_fst]
  exact readOut_sent s e

def SwitchedOff (s : SRSPowerSupply) (e : SRSSweep) : Prop :=
  s.srsPowerState = true ∧ e.srsPowerState = 0

instance (s : SRSPowerSupply) (e : SRSSweep) : Decidable (s.SwitchedOff e) :=
  inferInstanceAs (Decidable (s.srsPowerState = true ∧ e.srsPowerState = 0))

def RampsWhenSwitchedOff (s : SRSPowerSupply) (e : SRSSweep) : Prop := ∃ cmds,
  (s.performSweep e).1.port.sent = s.port.sent ++ cmds ∧
    cmds.filter (fun c => !c.isQuery) =
      if s.SwitchedOff e then SRSCommand.ramp (s.performSweep e).1.currentVoltage 0 5 else []

theorem rampsWhenSwitchedOff_iff (s : SRSPowerSupply) (e : SRSSweep) :
    RampsWhenSwitchedOff s e ↔ ¬ s.SwitchedOff e := by
  constructor
  · rintro ⟨cmds, hsent, hramp⟩ hoff
    rw [performSweep_sent, List.append_cancel_left_eq] at hsent
    rw [if_pos hoff, ← hsent] at hramp
    cases hramp
  · intro hon
    exact ⟨_, performSweep_sent s e, by rw [if_neg hon]; rfl⟩

theorem not_rampsWhenSwitchedOff :
    ¬ ∀ (s : SRSPowerSupply) (e : SRSSweep), RampsWhenSwitchedOff s e := by
  intro h
  let s : SRSPowerSupply := { (default : SRSPowerSupply) with srsPowerState := true }
  obtain ⟨cmds, hsent, hramp⟩ := h s default
  have hoff : s.SwitchedOff default := by decide
  rw [performSweep_sent, List.append_cancel_left_eq] at hsent
  rw [if_pos hoff, ← hsent] at hramp
  cases hramp

end SRSPowerSupply
end CryoController
