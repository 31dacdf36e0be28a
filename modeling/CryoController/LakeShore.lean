import CryoController.ControlDatabase
import CryoController.SerialDevice
import CryoController.Foundations.Conversion
import CryoController.Foundations.Numeral
import CryoController.Foundations.Saturation
import CryoController.Foundations.Transition

/-!
# The heater controller of `LakeShoreHeater.cpp` and the loop of `LSHDroneStart.cpp`

The object keeps the last values that HTR?, RANGE? and KRDG? gave (`currentPW`,
`currentMode`, `currentTempK`); a reply that does not convert leaves them alone.
An iteration reads all three, exchanges rows with the database and then sends
MOUT and RANGE commands where the row and the values read differ. `iterate` takes powers and
temperatures as exact numbers, and `iterateFloat` has them rounded as the source does.

The member `_cHeaterMode`, the status text of the exchange and the texts printed
to the console are left out, as nothing reads them.
-/

open Numeral Conversion Saturation
namespace CryoController

inductive LSCommand
  | readPower
  | readRange
  | readTemperature
  | range (state : ℤ)
  | mout (level : ℚ)
  deriving DecidableEq, Repr, Inhabited

structure LakeShore where
  port : Port LSCommand
  currentPW : ℚ
  currentTempK : ℚ
  setPW : ℚ
  currentMode : ℤ
  setMode : ℤ
  watchdogFuse : Bool
  cWatchdogFuse : ℤ
  deriving DecidableEq, Repr, Inhabited

structure LSHStateRow where
  heaterPW : ℚ
  lshTemp : ℚ
  setPW : ℚ
  heaterMode : ℤ
  watchdogState : Bool
  deriving DecidableEq, Repr, Inhabited

structure HeaterRefresh where
  row : ControlParameters
  undefInt : ℚ → ℤ

namespace LakeShore

def construct (mem : LakeShore) (reads : List ReadResult) : LakeShore :=
  { mem with
    port := Port.opened reads []
    watchdogFuse := true
    setPW := 0
    currentTempK := -1 }

def writeString (l : LakeShore) (cmd : LSCommand) : LakeShore :=
  { l with port := l.port.writeString cmd }

def read (l : LakeShore) (cmd : LSCommand) (record : LakeShore → ℚ → LakeShore) : LakeShore :=
  let l := l.writeString cmd
  let line := l.port.readLine.1
  let l := { l with port := l.port.readLine.2 }
  match stof line with
  | some x => record l x
  | none => l

def readPower (l : LakeShore) : LakeShore :=
  l.read .readPower fun l x => { l with currentPW := x }

def readTemperatureK (l : LakeShore) : LakeShore :=
  l.read .readTemperature fun l x => { l with currentTempK := x }

def readMode (l : LakeShore) (undefInt : ℚ → ℤ) : LakeShore :=
  l.read .readRange fun l x =>
    { l with currentMode := intOfDouble undefInt (Format.float.round x) }

def setPowerLevel (l : LakeShore) (newPowerLevel : ℚ) : LakeShore :=
  let newPowerLevel := if newPowerLevel < 0 then 0 else newPowerLevel
  let newPowerLevel := if newPowerLevel > 100 then 100 else newPowerLevel
  { l.writeString (.mout newPowerLevel) with setPW := newPowerLevel }

def turnONOFF (l : LakeShore) (pwstate : ℤ) : LakeShore :=
  if pwstate < 3 ∧ pwstate ≥ 0 then
    -- the power goes out before the range that it is meant for
    (l.setPowerLevel l.setPW).writeString (.range pwstate)
  else l.writeString (.range 0)

def updateMysql (l : LakeShore) (row : ControlParameters) : LakeShore × LSHStateRow :=
  let l := { l with
    setPW := row.heaterPW, setMode := row.heaterMode, cWatchdogFuse := row.watchdogFuse }
  (l, ⟨l.currentPW, l.currentTempK, l.setPW, l.currentMode, l.watchdogFuse⟩)

def exchange (l : LakeShore) (r : HeaterRefresh) : LakeShore × LSHStateRow :=
  (((l.readPower).readMode r.undefInt).readTemperatureK).updateMysql r.row

def react (l : LakeShore) : LakeShore :=
  if l.cWatchdogFuse ≠ 1 then { l.turnONOFF 0 with watchdogFuse := false }
  else
    let l := if l.currentPW ≠ l.setPW then l.setPowerLevel l.setPW else l
    if l.setMode ≠ l.currentMode then l.turnONOFF l.setMode else l

def iterate (l : LakeShore) (r : HeaterRefresh) : LakeShore := (l.exchange r).1.react

def inFloat (l : LakeShore) : LakeShore :=
  { l with
    currentPW := Format.float.round l.currentPW
    currentTempK := Format.float.round l.currentTempK
    setPW := Format.float.round l.setPW }

def powerReply (l : LakeShore) : List Char := l.port.reply

def modeReply (l : LakeShore) : List Char := l.readPower.port.reply

section Exchange
variable (l : LakeShore) (r : HeaterRefresh)

theorem read_sent {cmd : LSCommand} {record : LakeShore → ℚ → LakeShore}
    (hrecord : ∀ l x, (record l x).port = l.port) :
    (l.read cmd record).port.sent = l.port.sent ++ [cmd] := by
  simp only [read]
  split
  · rw [hrecord]
    rfl
  · rfl

theorem read_keeps {α : Type} (f : LakeShore → α) (hport : ∀ l p, f { l with port := p } = f l)
    {cmd : LSCommand} {record : LakeShore → ℚ → LakeShore}
    (hrecord : ∀ l x, f (record l x) = f l) : f (l.read cmd record) = f l := by
  simp only [read, writeString]
  split
  · rw [hrecord, hport]
  · rw [hport]

@[simp] theorem readTemperatureK_currentPW : l.readTemperatureK.currentPW = l.currentPW :=
  l.read_keeps (·.currentPW) (fun _ _ => rfl) fun _ _ => rfl

@[simp] theorem readTemperatureK_currentMode : l.readTemperatureK.currentMode = l.currentMode :=
  l.read_keeps (·.currentMode) (fun _ _ => rfl) fun _ _ => rfl

@[simp] theorem readMode_currentPW (undefInt : ℚ → ℤ) :
    (l.readMode undefInt).currentPW = l.currentPW :=
  l.read_keeps (·.currentPW) (fun _ _ => rfl) fun _ _ => rfl

@[simp] theorem readPower_currentMode : l.readPower.currentMode = l.currentMode :=
  l.read_keeps (·.currentMode) (fun _ _ => rfl) fun _ _ => rfl

theorem readPower_currentPW : l.readPower.currentPW = (stof l.powerReply).getD l.currentPW := by
  have hreply : (l.writeString .readPower).port.readLine.1 = l.powerReply := rfl
  simp only [readPower, read, hreply]
  cases stof l.powerReply with
  | none => rfl
  | some x => rfl

theorem readMode_currentMode (undefInt : ℚ → ℤ) : (l.readMode undefInt).currentMode =
    ((stof l.port.reply).map (intOfDouble undefInt ∘ Format.float.round)).getD l.currentMode := by
  have hreply : (l.writeString .readRange).port.readLine.1 = l.port.reply := rfl
  simp only [readMode, read, hreply]
  cases stof l.port.reply with
  | none => rfl
  | some x => rfl

theorem exchange_currentPW :
    (l.exchange r).1.currentPW = (stof l.powerReply).getD l.currentPW := by
  simp only [exchange, updateMysql, readTemperatureK_currentPW, readMode_currentPW,
    readPower_currentPW]

theorem exchange_currentMode : (l.exchange r).1.currentMode =
    ((stof l.modeReply).map (intOfDouble r.undefInt ∘ Format.float.round)).getD l.currentMode := by
  simp only [exchange, updateMysql, readTemperatureK_currentMode, readMode_currentMode,
    readPower_currentMode, modeReply]

theorem exchange_row : (l.exchange r).1.setPW = r.row.heaterPW ∧
    (l.exchange r).1.setMode = r.row.heaterMode ∧
      (l.exchange r).1.cWatchdogFuse = r.row.watchdogFuse := ⟨rfl, rfl, rfl⟩

theorem exchange_sent : (l.exchange r).1.port.sent =
    l.port.sent ++ [.readPower, .readRange, .readTemperature] := by
  have hpower (l : LakeShore) : l.readPower.port.sent = l.port.sent ++ [.readPower] :=
    l.read_sent fun _ _ => rfl
  have hmode (l : LakeShore) :
      (l.readMode r.undefInt).port.sent = l.port.sent ++ [.readRange] :=
    l.read_sent fun _ _ => rfl
  have htemp (l : LakeShore) :
      l.readTemperatureK.port.sent = l.port.sent ++ [.readTemperature] :=
    l.read_sent fun _ _ => rfl
  simp only [exchange, updateMysql, htemp, hmode, hpower, List.append_assoc, List.cons_append,
    List.nil_append]

end Exchange

theorem setPowerLevel_eq (l : LakeShore) (level : ℚ) :
    l.setPowerLevel level =
      { l with
        port := l.port.writeString (.mout (clamp 0 100 level))
        setPW := clamp 0 100 level } := by
  have hclamp : (if (if level < 0 then 0 else level) > 100 then 100
      else if level < 0 then 0 else level) = clamp 0 100 level := by
    rw [clamp]
    split_ifs <;> linarith
  simp only [setPowerLevel, hclamp, writeString]

def rangeCommands (power : ℚ) (pwstate : ℤ) : List LSCommand :=
  if pwstate < 3 ∧ pwstate ≥ 0 then [.mout (clamp 0 100 power), .range pwstate] else [.range 0]

theorem turnONOFF_sent (l : LakeShore) (pwstate : ℤ) :
    (l.turnONOFF pwstate).port.sent = l.port.sent ++ rangeCommands l.setPW pwstate := by
  simp only [turnONOFF, rangeCommands]
  split_ifs
  · rw [setPowerLevel_eq]
    exact List.append_assoc _ _ _
  · rfl

def reaction (row : ControlParameters) (currentPW : ℚ) (currentMode : ℤ) : List LSCommand :=
  if row.watchdogFuse ≠ 1 then rangeCommands row.heaterPW 0
  else
    (if currentPW ≠ row.heaterPW then [.mout (clamp 0 100 row.heaterPW)] else []) ++
      if row.heaterMode ≠ currentMode then rangeCommands row.heaterPW row.heaterMode else []

theorem rangeCommands_clamp (power : ℚ) (pwstate : ℤ) :
    rangeCommands (clamp 0 100 power) pwstate = rangeCommands power pwstate := by
  rw [rangeCommands, rangeCommands, clamp_of_mem (clamp_mem (by norm_num) power)]

theorem react_sent {l : LakeShore} {row : ControlParameters} (hpower : l.setPW = row.heaterPW)
    (hmode : l.setMode = row.heaterMode) (hfuse : l.cWatchdogFuse = row.watchdogFuse) :
    l.react.port.sent = l.port.sent ++ reaction row l.currentPW l.currentMode := by
  simp only [react, reaction, ← hpower, ← hmode, ← hfuse]
  by_cases hblown : l.cWatchdogFuse ≠ 1
  · rw [if_pos hblown, if_pos hblown]
    exact l.turnONOFF_sent 0
  · rw [if_neg hblown, if_neg hblown]
    by_cases hp : l.currentPW ≠ l.setPW
    · simp only [if_pos hp, setPowerLevel_eq]
      split_ifs with hm
      · rw [turnONOFF_sent, rangeCommands_clamp]
        exact List.append_assoc _ _ _
      · rfl
    · simp only [if_neg hp, List.nil_append]
      split_ifs with hm
      · exact l.turnONOFF_sent l.setMode
      · rw [List.append_nil]

theorem iterate_sent (l : LakeShore) (r : HeaterRefresh) :
    (l.iterate r).port.sent = l.port.sent ++ ([.readPower, .readRange, .readTemperature] ++
      reaction r.row (l.exchange r).1.currentPW (l.exchange r).1.currentMode) := by
  obtain ⟨hpower, hmode, hfuse⟩ := l.exchange_row r
  rw [iterate, react_sent hpower hmode hfuse, exchange_sent, List.append_assoc]

end LakeShore
end CryoController
