import Mathlib.Data.Rat.Defs
import Mathlib.Algebra.Order.Ring.Rat
import Mathlib.Tactic.Linarith
import Mathlib.Tactic.NormNum
import CryoController.Foundations.Saturation

/-!
# The PID controller of `PID_v1.cpp`

Doubles are exact rationals. The pointers `myInput` and `mySetpoint` are read
only, so their targets are arguments; the target of `myOutput` (`TOutput` or
`ROutput` of the state machine) is written by the controller alone and is kept
as a field. Times are `unsigned long` values with wrap-around subtraction.

The constructor starts from arbitrary memory: a member that it does not set
keeps whatever the memory held.
-/

open Saturation
namespace CryoController

inductive Mode
  | manual
  | automatic
  deriving DecidableEq, Repr, Inhabited

inductive Direction
  | direct
  | reverse
  deriving DecidableEq, Repr, Inhabited

inductive ProportionalOn
  | pOnM
  | pOnE
  deriving DecidableEq, Repr, Inhabited

structure PID where
  dispKp : ℚ
  dispKi : ℚ
  dispKd : ℚ
  kp : ℚ
  ki : ℚ
  kd : ℚ
  controllerDirection : Direction
  pOn : ProportionalOn
  myOutput : ℚ
  lastTime : UInt64
  outputSum : ℚ
  lastInput : ℚ
  sampleTime : UInt64
  outMin : ℚ
  outMax : ℚ
  inAuto : Bool
  pOnE : Bool
  deriving DecidableEq, Repr, Inhabited

namespace PID

def pidInitialize (p : PID) (input : ℚ) : PID :=
  { p with outputSum := clamp p.outMin p.outMax p.myOutput, lastInput := input }

def setMode (p : PID) (mode : Mode) (input : ℚ) : PID :=
  let newAuto := decide (mode = .automatic)
  let p := if newAuto && !p.inAuto then p.pidInitialize input else p
  { p with inAuto := newAuto }

def setOutputLimits (p : PID) (min max : ℚ) : PID :=
  if max ≤ min then p
  else
    let p := { p with outMin := min, outMax := max }
    if p.inAuto then
      { p with
        myOutput := clamp p.outMin p.outMax p.myOutput
        outputSum := clamp p.outMin p.outMax p.outputSum }
    else p

def setControllerDirection (p : PID) (direction : Direction) : PID :=
  let p := if p.inAuto ∧ direction ≠ p.controllerDirection then
      { p with kp := 0 - p.kp, ki := 0 - p.ki, kd := 0 - p.kd }
    else p
  { p with controllerDirection := direction }

def setTuningsOn (p : PID) (Kp Ki Kd : ℚ) (pOn : ProportionalOn) : PID :=
  if Kp < 0 ∨ Ki < 0 ∨ Kd < 0 then p
  else
    let sampleTimeInSec : ℚ := (p.sampleTime.toNat : ℚ) / 1
    let p := { p with
      pOn := pOn, pOnE := decide (pOn = .pOnE)
      dispKp := Kp, dispKi := Ki, dispKd := Kd
      kp := Kp, ki := Ki * sampleTimeInSec, kd := Kd / sampleTimeInSec }
    if p.controllerDirection = .reverse then
      { p with kp := 0 - p.kp, ki := 0 - p.ki, kd := 0 - p.kd }
    else p

def setTunings (p : PID) (Kp Ki Kd : ℚ) : PID := p.setTuningsOn Kp Ki Kd p.pOn

def setSampleTime (p : PID) (newSampleTime : Int32) : PID :=
  if newSampleTime.toInt > 0 then
    let ratio : ℚ := newSampleTime.toInt / (p.sampleTime.toNat : ℚ)
    { p with
      ki := p.ki * ratio
      kd := p.kd / ratio
      sampleTime := UInt64.ofNat newSampleTime.toInt.toNat }
  else p

def getKp (p : PID) : ℚ := p.dispKp

def getKi (p : PID) : ℚ := p.dispKi

def getKd (p : PID) : ℚ := p.dispKd

def construct (mem : PID) (Kp Ki Kd : ℚ) (pOn : ProportionalOn) (direction : Direction)
    (time : UInt64) : PID :=
  let p := { mem with inAuto := false }
  let p := p.setOutputLimits 0 75
  let p := { p with sampleTime := 1 }
  let p := p.setControllerDirection direction
  let p := p.setTuningsOn Kp Ki Kd pOn
  { p with lastTime := time - p.sampleTime }

/-- The time gate of `compute`: `timeChange >= SampleTime` in unsigned arithmetic. -/
def due (p : PID) (now : UInt64) : Bool := decide (p.sampleTime ≤ now - p.lastTime)

def accumulate (p : PID) (input setpoint : ℚ) : ℚ :=
  let sum := p.outputSum + p.ki * (setpoint - input)
  if !p.pOnE then sum - p.kp * (input - p.lastInput) else sum

def compute (p : PID) (input setpoint : ℚ) (now : UInt64) : PID :=
  if !p.inAuto then p
  else if p.due now then
    let error := setpoint - input
    let dInput := input - p.lastInput
    let outputSum := clamp p.outMin p.outMax (p.accumulate input setpoint)
    let output := if p.pOnE then p.kp * error else 0
    let output := output + (outputSum - p.kd * dInput)
    { p with
      outputSum := outputSum
      myOutput := clamp p.outMin p.outMax output
      lastInput := input
      lastTime := now }
  else p

section Frame
variable (p : PID) (m : Mode) (x y : ℚ) (now : UInt64)

@[simp] theorem setMode_inAuto : (p.setMode m x).inAuto = decide (m = .automatic) := rfl

@[simp] theorem setMode_outMin : (p.setMode m x).outMin = p.outMin := by
  simp only [setMode]
  split_ifs <;> rfl

@[simp] theorem setMode_outMax : (p.setMode m x).outMax = p.outMax := by
  simp only [setMode]
  split_ifs <;> rfl

@[simp] theorem setMode_myOutput : (p.setMode m x).myOutput = p.myOutput := by
  simp only [setMode]
  split_ifs <;> rfl

@[simp] theorem setMode_lastTime : (p.setMode m x).lastTime = p.lastTime := by
  simp only [setMode]
  split_ifs <;> rfl

@[simp] theorem setMode_sampleTime : (p.setMode m x).sampleTime = p.sampleTime := by
  simp only [setMode]
  split_ifs <;> rfl

@[simp] theorem setOutputLimits_inAuto : (p.setOutputLimits x y).inAuto = p.inAuto := by
  simp only [setOutputLimits]
  split_ifs <;> rfl

@[simp] theorem setOutputLimits_lastInput :
    (p.setOutputLimits x y).lastInput = p.lastInput := by
  simp only [setOutputLimits]
  split_ifs <;> rfl

@[simp] theorem compute_inAuto : (p.compute x y now).inAuto = p.inAuto := by
  simp only [compute]
  split_ifs <;> rfl

@[simp] theorem compute_outMin : (p.compute x y now).outMin = p.outMin := by
  simp only [compute]
  split_ifs <;> rfl

@[simp] theorem compute_outMax : (p.compute x y now).outMax = p.outMax := by
  simp only [compute]
  split_ifs <;> rfl

variable (d : Direction) (Kp Ki Kd : ℚ) (pOn : ProportionalOn)

@[simp] theorem setControllerDirection_inAuto :
    (p.setControllerDirection d).inAuto = p.inAuto := by
  simp only [setControllerDirection]
  split_ifs <;> rfl

@[simp] theorem setControllerDirection_outMin :
    (p.setControllerDirection d).outMin = p.outMin := by
  simp only [setControllerDirection]
  split_ifs <;> rfl

@[simp] theorem setControllerDirection_outMax :
    (p.setControllerDirection d).outMax = p.outMax := by
  simp only [setControllerDirection]
  split_ifs <;> rfl

@[simp] theorem setTuningsOn_inAuto : (p.setTuningsOn Kp Ki Kd pOn).inAuto = p.inAuto := by
  simp only [setTuningsOn]
  split_ifs <;> rfl

@[simp] theorem setTuningsOn_outMin : (p.setTuningsOn Kp Ki Kd pOn).outMin = p.outMin := by
  simp only [setTuningsOn]
  split_ifs <;> rfl

@[simp] theorem setTuningsOn_outMax : (p.setTuningsOn Kp Ki Kd pOn).outMax = p.outMax := by
  simp only [setTuningsOn]
  split_ifs <;> rfl

@[simp] theorem setTuningsOn_myOutput :
    (p.setTuningsOn Kp Ki Kd pOn).myOutput = p.myOutput := by
  simp only [setTuningsOn]
  split_ifs <;> rfl

@[simp] theorem setTuningsOn_outputSum :
    (p.setTuningsOn Kp Ki Kd pOn).outputSum = p.outputSum := by
  simp only [setTuningsOn]
  split_ifs <;> rfl

end Frame

def Limits (p : PID) (lo hi : ℚ) : Prop := p.outMin = lo ∧ p.outMax = hi

structure Bounded (p : PID) : Prop where
  output : p.myOutput ∈ Set.Icc p.outMin p.outMax
  sum : p.outputSum ∈ Set.Icc p.outMin p.outMax

theorem Bounded.within {p : PID} {lo hi : ℚ} (hb : p.Bounded) (hl : p.Limits lo hi) :
    p.myOutput ∈ Set.Icc lo hi ∧ p.outputSum ∈ Set.Icc lo hi := by
  obtain ⟨rfl, rfl⟩ := hl
  exact ⟨hb.output, hb.sum⟩

theorem setOutputLimits_limits {lo hi : ℚ} (h : lo < hi) (p : PID) :
    (p.setOutputLimits lo hi).Limits lo hi := by
  simp only [setOutputLimits, not_le.mpr h, if_false]
  split_ifs <;> exact ⟨rfl, rfl⟩

theorem setOutputLimits_bounded {lo hi : ℚ} (h : lo < hi) {p : PID} (hp : p.inAuto = true) :
    (p.setOutputLimits lo hi).Bounded := by
  simp only [setOutputLimits, not_le.mpr h, if_false, hp, if_true]
  exact ⟨clamp_mem h.le _, clamp_mem h.le _⟩

theorem setOutputLimits_of_bounded {lo hi : ℚ} {p : PID} (hl : p.Limits lo hi)
    (hb : p.Bounded) : p.setOutputLimits lo hi = p := by
  obtain ⟨rfl, rfl⟩ := hl
  simp only [setOutputLimits, clamp_of_mem hb.output, clamp_of_mem hb.sum]
  split_ifs <;> rfl

theorem setMode_automatic_of_inAuto {p : PID} (hp : p.inAuto = true) (input : ℚ) :
    p.setMode .automatic input = p := by
  cases p
  simp_all [setMode]

theorem compute_of_manual {p : PID} (hp : p.inAuto = false) (input setpoint : ℚ)
    (now : UInt64) : p.compute input setpoint now = p := by
  simp [compute, hp]

theorem compute_of_not_due {p : PID} {now : UInt64} (hd : p.due now = false)
    (input setpoint : ℚ) : p.compute input setpoint now = p := by
  simp [compute, hd]

theorem compute_outputSum {p : PID} {now : UInt64} (hp : p.inAuto = true)
    (hd : p.due now = true) (input setpoint : ℚ) :
    (p.compute input setpoint now).outputSum =
      clamp p.outMin p.outMax (p.accumulate input setpoint) := by
  simp [compute, hp, hd]

theorem compute_myOutput {p : PID} {now : UInt64} (hp : p.inAuto = true)
    (hd : p.due now = true) (input setpoint : ℚ) :
    (p.compute input setpoint now).myOutput =
      clamp p.outMin p.outMax ((if p.pOnE then p.kp * (setpoint - input) else 0) +
        (clamp p.outMin p.outMax (p.accumulate input setpoint) -
          p.kd * (input - p.lastInput))) := by
  simp [compute, hp, hd]

theorem compute_bounded {p : PID} (hb : p.Bounded) (input setpoint : ℚ) (now : UInt64) :
    (p.compute input setpoint now).Bounded := by
  have hle : p.outMin ≤ p.outMax := hb.output.1.trans hb.output.2
  cases hp : p.inAuto with
  | false => rwa [compute_of_manual hp]
  | true =>
    cases hd : p.due now with
    | false => rwa [compute_of_not_due hd]
    | true =>
      constructor
      · rw [compute_myOutput hp hd, compute_outMin, compute_outMax]
        exact clamp_mem hle _
      · rw [compute_outputSum hp hd, compute_outMin, compute_outMax]
        exact clamp_mem hle _

theorem setTunings_limits {p : PID} {lo hi : ℚ} (hl : p.Limits lo hi) (Kp Ki Kd : ℚ) :
    (p.setTunings Kp Ki Kd).Limits lo hi :=
  ⟨by simpa [setTunings] using hl.1, by simpa [setTunings] using hl.2⟩

theorem setTunings_bounded {p : PID} (hb : p.Bounded) (Kp Ki Kd : ℚ) :
    (p.setTunings Kp Ki Kd).Bounded := by
  constructor
  · simpa [setTunings] using hb.output
  · simpa [setTunings] using hb.sum

section Construct
variable (mem : PID) (Kp Ki Kd : ℚ) (pOn : ProportionalOn) (d : Direction) (time : UInt64)

@[simp] theorem construct_inAuto : (mem.construct Kp Ki Kd pOn d time).inAuto = false := by
  simp [construct]

end Construct

/-- Every entry block of the state machine arms or releases a controller. -/
def arm (p : PID) (lo hi input : ℚ) : PID := (p.setMode .automatic input).setOutputLimits lo hi

def release (p : PID) (lo hi input : ℚ) : PID := (p.setMode .manual input).setOutputLimits lo hi

section Arming
variable {lo hi : ℚ} (p : PID) (input : ℚ)

@[simp] theorem arm_inAuto : (p.arm lo hi input).inAuto = true := by simp [arm]

@[simp] theorem release_inAuto : (p.release lo hi input).inAuto = false := by simp [release]

theorem arm_limits (h : lo < hi) : (p.arm lo hi input).Limits lo hi :=
  setOutputLimits_limits h _

theorem release_limits (h : lo < hi) : (p.release lo hi input).Limits lo hi :=
  setOutputLimits_limits h _

theorem arm_bounded (h : lo < hi) : (p.arm lo hi input).Bounded :=
  setOutputLimits_bounded h (by simp)

/-- A controller that takes over starts from its own output, which the sum passes
through the old limits on its way into the new ones. -/
theorem arm_of_manual {p : PID} (hp : p.inAuto = false) (h : lo < hi) :
    p.arm lo hi input =
      { p with
        outputSum := clamp lo hi (clamp p.outMin p.outMax p.myOutput)
        lastInput := input
        inAuto := true
        outMin := lo
        outMax := hi
        myOutput := clamp lo hi p.myOutput } := by
  simp [arm, setMode, pidInitialize, setOutputLimits, hp, not_le.mpr h]

theorem arm_of_armed {p : PID} (hp : p.inAuto = true) (hl : p.Limits lo hi) (hb : p.Bounded) :
    p.arm lo hi input = p := by
  rw [arm, setMode_automatic_of_inAuto hp, setOutputLimits_of_bounded hl hb]

theorem release_of_released {p : PID} (hp : p.inAuto = false) (hl : p.Limits lo hi) :
    p.release lo hi input = p := by
  obtain ⟨rfl, rfl⟩ := hl
  cases p
  simp_all [release, setMode, setOutputLimits]

end Arming

end PID
end CryoController
