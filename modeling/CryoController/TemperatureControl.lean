import CryoController.Gains
import CryoController.PIDCalls

/-!
# The stand-alone temperature controller

`TemperatureControl.cpp` runs one controller without the state machine. An iteration
computes with the set point and the temperature that the previous one has read, publishes
the absolute value of the output as the heater power, and offers the gains of the row
when they differ from the displayed ones.
-/

open Saturation
namespace CryoController

structure TemperatureControl where
  myPID : PID
  setpoint : ℚ
  input : ℚ
  deriving DecidableEq, Inhabited

structure PIDReading where
  ctrlRow : ControlParameters
  tcRow : CCState
  now : UInt64
  deriving DecidableEq, Inhabited

namespace TemperatureControl

def start (mem : PID) (time : UInt64) : TemperatureControl where
  myPID := (mem.construct 2 5 1 .pOnM .direct time).setMode .automatic 273
  setpoint := 150
  input := 273

def computed (t : TemperatureControl) (r : PIDReading) : PID :=
  t.myPID.compute t.input t.setpoint r.now

def power (t : TemperatureControl) (r : PIDReading) : ℚ := |(t.computed r).myOutput|

def updateMysql (t : TemperatureControl) (r : PIDReading) : ControlParameters :=
  r.ctrlRow.execute (.setHeaterPW (t.power r))

def iterate (t : TemperatureControl) (r : PIDReading) : TemperatureControl where
  myPID := (t.computed r).retune r.ctrlRow.kp r.ctrlRow.ki r.ctrlRow.kd
  setpoint := r.ctrlRow.tTemperature
  input := r.tcRow.tc

structure Running (t : TemperatureControl) : Prop where
  auto : t.myPID.inAuto = true
  limits : t.myPID.Limits 0 75

section Iteration
variable {t : TemperatureControl}

theorem computed_limits (h : t.Running) (r : PIDReading) : (t.computed r).Limits 0 75 :=
  ⟨(PID.compute_outMin _ _ _ _).trans h.limits.1, (PID.compute_outMax _ _ _ _).trans h.limits.2⟩

theorem iterate_running (t : TemperatureControl) (r : PIDReading) (h : t.Running) :
    (t.iterate r).Running :=
  ⟨(PID.retune_inAuto _ _ _ _).trans ((PID.compute_inAuto _ _ _ _).trans h.auto),
    PID.retune_limits _ _ _ (computed_limits h r)⟩

theorem start_running (mem : PID) (time : UInt64) : (start mem time).Running := by
  have hlimits := PID.setOutputLimits_limits (show (0 : ℚ) < 75 by norm_num)
    { mem with inAuto := false }
  refine ⟨rfl, ?_, ?_⟩
  · simp only [start, PID.setMode_outMin, PID.construct, PID.setTuningsOn_outMin,
      PID.setControllerDirection_outMin]
    exact hlimits.1
  · simp only [start, PID.setMode_outMax, PID.construct, PID.setTuningsOn_outMax,
      PID.setControllerDirection_outMax]
    exact hlimits.2

theorem output_of_due (h : t.Running) {r : PIDReading} (hdue : t.myPID.due r.now = true) :
    (t.computed r).myOutput ∈ Set.Icc 0 75 := by
  have hle : t.myPID.outMin ≤ t.myPID.outMax := by
    rw [h.limits.1, h.limits.2]
    norm_num
  have hmem := clamp_mem hle ((if t.myPID.pOnE then t.myPID.kp * (t.setpoint - t.input) else 0) +
    (clamp t.myPID.outMin t.myPID.outMax (t.myPID.accumulate t.input t.setpoint) -
      t.myPID.kd * (t.input - t.myPID.lastInput)))
  rw [computed, PID.compute_myOutput h.auto hdue]
  rwa [h.limits.1, h.limits.2] at hmem ⊢

theorem power_mem_iff (r : PIDReading) :
    (t.updateMysql r).heaterPW ∈ Set.Icc 0 75 ↔ |(t.computed r).myOutput| ≤ 75 :=
  ⟨fun h => h.2, fun h => ⟨abs_nonneg _, h⟩⟩

theorem computed_output (h : t.Running) (houtput : |t.myPID.myOutput| ≤ 75) (r : PIDReading) :
    |(t.computed r).myOutput| ≤ 75 := by
  cases hdue : t.myPID.due r.now with
  | true =>
    have hmem := output_of_due h hdue
    rw [abs_of_nonneg hmem.1]
    exact hmem.2
  | false =>
    rw [computed, PID.compute_of_not_due hdue]
    exact houtput

theorem iterate_output {r : PIDReading} (houtput : |(t.computed r).myOutput| ≤ 75) :
    |(t.iterate r).myPID.myOutput| ≤ 75 := by
  rwa [iterate, PID.retune_myOutput]

def Publishes (t : TemperatureControl) (r : PIDReading) : Prop :=
  (t.updateMysql r).heaterPW ∈ Set.Icc 0 75

theorem run_publishes (h : t.Running) (houtput : |t.myPID.myOutput| ≤ 75)
    (rs : List PIDReading) : Transition.Along iterate Publishes t rs := by
  induction rs generalizing t with
  | nil => trivial
  | cons r rs ih =>
    have hcomputed := computed_output h houtput r
    exact ⟨(power_mem_iff r).mpr hcomputed,
      ih (iterate_running t r h) (iterate_output hcomputed)⟩

end Iteration

section Start
variable (mem : PID) (time : UInt64)

theorem start_myOutput : (start mem time).myPID.myOutput = mem.myOutput := by
  have hlimits : (({ mem with inAuto := false } : PID).setOutputLimits 0 75).myOutput =
      mem.myOutput := by
    rw [PID.setOutputLimits, if_neg (by norm_num)]
    rfl
  have hdirection (p : PID) : (p.setControllerDirection .direct).myOutput = p.myOutput := by
    rw [PID.setControllerDirection]
    split_ifs <;> rfl
  simp only [start, PID.setMode_myOutput, PID.construct, PID.setTuningsOn_myOutput, hdirection,
    hlimits]

theorem start_due_iff (now : UInt64) :
    (start mem time).myPID.due now = false ↔ now = time - 1 := by
  have hsample : (start mem time).myPID.sampleTime = 1 := by
    rw [start, PID.setMode_sampleTime]
    exact (PID.tuned_iff.mp (PID.construct_tuned mem time)).2.2.2
  have hlast : (start mem time).myPID.lastTime = time - 1 := by
    rw [start, PID.setMode_lastTime]
    rfl
  have hone (x : UInt64) : ¬ 1 ≤ x ↔ x = 0 := by
    rw [UInt64.le_iff_toNat_le, ← UInt64.toNat_inj]
    exact not_le.trans Nat.lt_one_iff
  rw [PID.due, hsample, hlast, decide_eq_false_iff_not, hone, UInt64.sub_eq_iff_eq_add,
    UInt64.zero_add]

end Start

/-- Every published heater power is in range exactly when the gate is open at the first
iteration or the memory happens to hold an output in range. -/
theorem run_publishes_iff (mem : PID) (time : UInt64) (rs : List PIDReading) :
    Transition.Along iterate Publishes (start mem time) rs ↔
      ∀ r ∈ rs.head?, r.now = time - 1 → |mem.myOutput| ≤ 75 := by
  cases rs with
  | nil => simp
  | cons r rs =>
    have hrunning := start_running mem time
    have houtput := start_myOutput mem time
    rw [List.head?_cons]
    constructor
    · rintro ⟨hpublished, -⟩ r' hr' hnow
      cases hr'
      have hdue := (start_due_iff mem time r.now).mpr hnow
      have hle := (power_mem_iff r).mp hpublished
      rwa [computed, PID.compute_of_not_due hdue, houtput] at hle
    · intro hfirst
      cases hdue : (start mem time).myPID.due r.now with
      | true =>
        have hmem := output_of_due hrunning hdue
        have hcomputed := (abs_of_nonneg hmem.1).trans_le hmem.2
        exact ⟨(power_mem_iff r).mpr hcomputed,
          run_publishes (iterate_running _ r hrunning) (iterate_output hcomputed) rs⟩
      | false =>
        have hle := hfirst r rfl ((start_due_iff mem time r.now).mp hdue)
        exact run_publishes hrunning (houtput ▸ hle) (r :: rs)

def calls (setpoint input : ℚ) : List PIDReading → List PID.Call
  | [] => []
  | r :: rs =>
    .compute input setpoint r.now :: .setTunings r.ctrlRow.kp r.ctrlRow.ki r.ctrlRow.kd ::
      calls r.ctrlRow.tTemperature r.tcRow.tc rs

theorem retune_eq_setTunings {p : PID} (h : PID.Calibrated (p, false)) (Kp Ki Kd : ℚ) :
    p.retune Kp Ki Kd = p.setTunings Kp Ki Kd := by
  by_cases hchanged : Kp ≠ p.dispKp ∨ Ki ≠ p.dispKi ∨ Kd ≠ p.dispKd
  · rw [PID.retune, if_pos hchanged]
  · rw [PID.retune, if_neg hchanged]
    rw [not_or, not_or, not_not, not_not, not_not] at hchanged
    obtain ⟨rfl, rfl, rfl⟩ := hchanged
    exact (h.retunes_iff.mpr (Or.inl rfl)).symm

theorem iterate_calibrated {t : TemperatureControl} (h : PID.Calibrated (t.myPID, false))
    (r : PIDReading) : (t.iterate r).myPID =
        (t.computed r).setTunings r.ctrlRow.kp r.ctrlRow.ki r.ctrlRow.kd ∧
      PID.Calibrated ((t.iterate r).myPID, false) := by
  have hcomputed : PID.Calibrated (t.computed r, false) :=
    h.of_settings (PID.compute_settings _ _ _ _)
  have heq := retune_eq_setTunings hcomputed r.ctrlRow.kp r.ctrlRow.ki r.ctrlRow.kd
  refine ⟨heq, ?_⟩
  have htuned := PID.setTuningsOn_calibrated hcomputed r.ctrlRow.kp r.ctrlRow.ki r.ctrlRow.kd
    (t.computed r).pOn
  rw [ite_self] at htuned
  rw [iterate, heq]
  exact htuned

theorem run_eq_calls {t : TemperatureControl} (h : PID.Calibrated (t.myPID, false))
    (rs : List PIDReading) :
    (Transition.run iterate t rs).myPID =
      Transition.run PID.call t.myPID (calls t.setpoint t.input rs) := by
  induction rs generalizing t with
  | nil => rfl
  | cons r rs ih =>
    obtain ⟨heq, hcalibrated⟩ := iterate_calibrated h r
    rw [Transition.run_cons, ih hcalibrated, heq]
    rfl

theorem start_calibrated (mem : PID) (time : UInt64) :
    PID.Calibrated ((start mem time).myPID, false) :=
  (PID.construct_calibrated mem (by decide +kernel) .pOnM .direct time).of_settings
    (PID.setMode_settings _ _ _)

theorem run_tuned {g : Gains} {t : TemperatureControl} (h : t.myPID.Tuned g)
    (rs : List PIDReading) :
    (Transition.run iterate t rs).myPID.Tuned
      (Gains.latest g (rs.map fun r => ⟨r.ctrlRow.kp, r.ctrlRow.ki, r.ctrlRow.kd⟩)) := by
  rw [← Gains.run_offer]
  induction rs generalizing g t with
  | nil => exact h
  | cons r rs ih =>
    refine ih (PID.retune_tuned ?_ ⟨r.ctrlRow.kp, r.ctrlRow.ki, r.ctrlRow.kd⟩)
    exact (PID.compute_tuning _ _ _ _).trans h

/-- From any memory: comparing the gains before `SetTunings` is of no effect, so the
controller makes the plain sequence of calls, each `Compute` on what the iteration before has
read, and it works with the gains of the latest row whose three gains are valid. -/
theorem run_plain (mem : PID) (time : UInt64) (rs : List PIDReading) :
    let p := (Transition.run iterate (start mem time) rs).myPID
    let latest := Gains.latest ⟨2, 5, 1⟩ (rs.map fun r => ⟨r.ctrlRow.kp, r.ctrlRow.ki, r.ctrlRow.kd⟩)
    p = Transition.run PID.call (mem.construct 2 5 1 .pOnM .direct time)
        (.setMode .automatic 273 :: calls 150 273 rs) ∧
      p.displayed = latest ∧ p.working = latest ∧ latest.Valid := by
  intro p latest
  have htuned : p.Tuned latest := by
    refine run_tuned ?_ rs
    exact (PID.setMode_tuning _ _ _).trans
      ((PID.setOutputLimits_tuning _ _ _).symm.trans (PID.construct_tuned mem time))
  obtain ⟨hshown, hwork, -⟩ := PID.tuned_iff.mp htuned
  exact ⟨run_eq_calls (start_calibrated mem time) rs, hshown, hwork,
    Gains.latest_valid (by decide +kernel) _⟩

end TemperatureControl
end CryoController
