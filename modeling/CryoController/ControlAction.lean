import CryoController.Gains
import CryoController.DriveBounds

/-!
# The sign of the control action

Of two sweeps that differ in the temperature alone, the one with the higher
temperature never heats more and never cools less. Every term of `Compute` pushes
the same way as long as no gain is negative, the remembered input is either the
same for both or is set to the input of each, and the two clamps keep the order.
-/

open Saturation
namespace CryoController
namespace PID

def remembering (p : PID) (input : ℚ) : PID := { p with lastInput := input }

theorem arm_lastInput (p : PID) (lo hi input : ℚ) :
    (p.arm lo hi input).lastInput = if p.inAuto then p.lastInput else input := by
  rw [arm, setOutputLimits_lastInput]
  cases hp : p.inAuto with
  | true => rw [setMode_automatic_of_inAuto hp, if_pos rfl]
  | false => simp [setMode, pidInitialize, hp]

theorem arm_remembering {p : PID} {lo hi : ℚ} (h : lo < hi) (x y : ℚ) :
    (p.arm lo hi x).remembering (p.arm lo hi y).lastInput = p.arm lo hi y := by
  cases hp : p.inAuto with
  | true =>
    rw [arm, arm, setMode_automatic_of_inAuto hp, setMode_automatic_of_inAuto hp]
    rfl
  | false =>
    rw [arm_of_manual x hp h, arm_of_manual y hp h]
    rfl

section Antitone
variable {p : PID} {x y lastX lastY : ℚ}

theorem accumulate_antitone (hg : p.working.Valid) (hxy : x ≤ y)
    (hlast : x - lastX ≤ y - lastY) (setpoint : ℚ) :
    (p.remembering lastY).accumulate y setpoint ≤
      (p.remembering lastX).accumulate x setpoint := by
  obtain ⟨hkp, hki, hkd⟩ := hg
  have hintegral : p.ki * (setpoint - y) ≤ p.ki * (setpoint - x) :=
    mul_le_mul_of_nonneg_left (by linarith) hki
  have hmeasured : p.kp * (x - lastX) ≤ p.kp * (y - lastY) :=
    mul_le_mul_of_nonneg_left hlast hkp
  cases hE : p.pOnE with
  | true =>
    simp only [accumulate, remembering, hE, Bool.not_true, Bool.false_eq_true, if_false]
    linarith
  | false =>
    simp only [accumulate, remembering, hE, Bool.not_false, if_true]
    linarith

theorem compute_antitone (hlimits : p.outMin ≤ p.outMax) (hg : p.working.Valid) (hxy : x ≤ y)
    (hlast : x - lastX ≤ y - lastY) (setpoint : ℚ) (now : UInt64) :
    ((p.remembering lastY).compute y setpoint now).myOutput ≤
      ((p.remembering lastX).compute x setpoint now).myOutput := by
  cases hp : p.inAuto with
  | false =>
    rw [compute_of_manual (p := p.remembering lastY) hp,
      compute_of_manual (p := p.remembering lastX) hp]
    exact le_rfl
  | true =>
    cases hd : p.due now with
    | false =>
      rw [compute_of_not_due (p := p.remembering lastY) hd,
        compute_of_not_due (p := p.remembering lastX) hd]
      exact le_rfl
    | true =>
      rw [compute_myOutput (p := p.remembering lastY) hp hd,
        compute_myOutput (p := p.remembering lastX) hp hd]
      apply clamp_le_clamp hlimits
      have hsum := clamp_le_clamp hlimits (accumulate_antitone hg hxy hlast setpoint)
      have hrate : p.kd * (x - lastX) ≤ p.kd * (y - lastY) :=
        mul_le_mul_of_nonneg_left hlast hg.2.2
      have herror : (if p.pOnE then p.kp * (setpoint - y) else 0) ≤
          if p.pOnE then p.kp * (setpoint - x) else 0 := by
        split_ifs
        · exact mul_le_mul_of_nonneg_left (by linarith) hg.1
        · exact le_rfl
      exact add_le_add herror (sub_le_sub hsum hrate)

theorem arm_compute_antitone {lo hi : ℚ} (h : lo < hi) (hg : p.working.Valid) (hxy : x ≤ y)
    (setpoint : ℚ) (now : UInt64) :
    ((p.arm lo hi y).compute y setpoint now).myOutput ≤
      ((p.arm lo hi x).compute x setpoint now).myOutput := by
  have hlimits : (p.arm lo hi x).outMin ≤ (p.arm lo hi x).outMax := by
    obtain ⟨hmin, hmax⟩ := p.arm_limits x h
    rw [hmin, hmax]
    exact h.le
  have hworking : (p.arm lo hi x).working.Valid := by
    rw [arm_working]
    exact hg
  have hlast : x - (p.arm lo hi x).lastInput ≤ y - (p.arm lo hi y).lastInput := by
    rw [arm_lastInput, arm_lastInput]
    split_ifs
    · linarith
    · linarith
  have hcompute := compute_antitone hlimits hworking hxy hlast setpoint now
  rwa [arm_remembering h x y, arm_remembering h x x] at hcompute

end Antitone
end PID

structure Sweep.Warmer (s t : Sweep) : Prop where
  packet : t.packet = { s.packet with curTemp := t.packet.curTemp }
  temperature : s.packet.curTemp ≤ t.packet.curTemp
  nowTime : t.nowTime = s.nowTime
  computeTime : t.computeTime = s.computeTime

namespace CryoControlSM
section Warmer
variable {m : CryoControlSM} {s t : Sweep}

theorem nextRate_mono (h : s.Warmer t) : m.nextRate s.packet ≤ m.nextRate t.packet := by
  have hn : (0 : ℚ) < rateMovingAvgN := by norm_num [rateMovingAvgN]
  have hstep := div_le_div_of_nonneg_right
    (sub_le_sub_right h.temperature m.currentTemperature) hn.le
  rw [nextRate, nextRate]
  split_ifs
  · linarith
  · exact le_rfl

theorem input_mono (h : s.Warmer t) (d : Driver) : m.input s.packet d ≤ m.input t.packet d := by
  cases d with
  | ratePID => exact nextRate_mono h
  | _ => exact h.temperature

theorem tuned_warmer (h : s.Warmer t) (d : Driver) : m.tuned t.packet d = m.tuned s.packet d := by
  rw [h.packet]
  cases d <;> rfl

theorem setpoint_warmer (h : s.Warmer t) (hstate : m.nextState t = m.nextState s) (d : Driver) :
    m.setpoint t d = m.setpoint s d := by
  have htarget : t.packet.tTemp = s.packet.tTemp := by rw [h.packet]
  cases d with
  | ratePID => rw [setpoint, setpoint, hstate]
  | _ => exact htarget

theorem retune_working_valid {g : Gains} {p : PID} (hvalid : g.Valid) (h : p.Tuned g)
    (g' : Gains) : (p.retune g'.kp g'.ki g'.kd).working.Valid := by
  obtain ⟨-, hworking, -⟩ := PID.tuned_iff.mp (PID.retune_tuned h g')
  rw [hworking, Gains.hold_offer]
  split_ifs with hoffered
  · exact hoffered
  · exact hvalid

theorem tuned_working_valid {gA gR : Gains} (hgA : gA.Valid) (hgR : gR.Valid)
    (hg : InTune gA gR m) (packet : DataPacket) (d : Driver) :
    (m.tuned packet d).working.Valid := by
  cases d with
  | ratePID => exact retune_working_valid hgR hg.rate packet.rateGains
  | _ => exact retune_working_valid hgA hg.abs packet.absGains

theorem smEngine_value_antitone (hm : Interlock m) {gA gR : Gains} (hgA : gA.Valid)
    (hgR : gR.Valid) (hg : InTune gA gR m) (h : s.Warmer t)
    (hstate : m.nextState t = m.nextState s) :
    (m.smEngine t).thisRunPIDValue ≤ (m.smEngine s).thisRunPIDValue := by
  by_cases hnone : (m.nextState s).actuation.driver = .none
  · have hs := (smEngine_powered hm s).undriven
    have ht := (smEngine_powered hm t).undriven
    rw [smEngine_currentFSMState hm] at hs ht
    rw [hs hnone, ht (hstate ▸ hnone)]
  · have hvalid := tuned_working_valid hgA hgR hg s.packet (m.nextState s).actuation.driver
    rw [smEngine_value hm hnone (by rw [hstate]), smEngine_value hm hnone rfl,
      smEngine_controller_driving hm hnone (by rw [hstate]),
      smEngine_controller_driving hm hnone rfl, hstate, tuned_warmer h, setpoint_warmer h hstate,
      h.computeTime]
    exact PID.arm_compute_antitone (Actuation.lower_lt _) hvalid (input_mono h _) _ _

end Warmer

/-- After any sweeps, of two sweeps that differ in the temperature alone, decide
the same state and do not trip, the colder one heats at least as much and cools
at most as much. -/
theorem sweeps_push_back (mem : CryoControlSM) (absTime rateTime : UInt64) (ss : List Sweep) :
    let m := Transition.run smEngine (construct mem absTime rateTime) ss
    ∀ s t : Sweep, s.Warmer t →
      (m.smEngine s).shouldBeFSMState = (m.smEngine t).shouldBeFSMState →
      ¬ (m.smEngine s).tripped → ¬ (m.smEngine t).tripped →
        (m.smEngine t).thisRunHeaterPower ≤ (m.smEngine s).thisRunHeaterPower ∧
          (m.smEngine s).thisRunCCPower ≤ (m.smEngine t).thisRunCCPower := by
  intro m s t h hdecided hs ht
  have hm : Interlock m := run_interlock mem absTime rateTime ss
  have hg := run_inTune (construct_interlock mem absTime rateTime)
    ⟨PID.construct_tuned mem.absPID absTime, PID.construct_tuned mem.ratePID rateTime⟩ ss
  have hbuilt : (⟨2, 5, 1⟩ : Gains).Valid := by decide +kernel
  have hstate : m.nextState t = m.nextState s := by
    rw [← smEngine_currentFSMState hm t, ← smEngine_currentFSMState hm s,
      (smEngine_interlock m t hm).settled, (smEngine_interlock m s hm).settled, hdecided]
  have hvalue := smEngine_value_antitone hm (Gains.latest_valid hbuilt _)
    (Gains.latest_valid hbuilt _) hg h hstate
  have hps := smEngine_powered hm s
  have hpt := smEngine_powered hm t
  rw [hps.heater, hpt.heater, hps.cc, hpt.cc, if_neg hs, if_neg hs, if_neg ht, if_neg ht]
  exact ⟨max_le_max hvalue le_rfl, max_le_max (neg_le_neg hvalue) le_rfl⟩

def sampleAct (curTemp : ℚ) (computeTime : UInt64) : Sweep :=
  let s := sampleSweep 100 curTemp 0 0
  { s with ctrlRow := { s.ctrlRow with kp := 1, ki := 2, kd := 1 }, computeTime }

theorem sweeps_push_back_sample :
    let m := Transition.run smEngine (construct default 0 0) [sampleAct 98 1]
    (m.smEngine (sampleAct 99 2)).thisRunHeaterPower = 4 ∧
      (m.smEngine (sampleAct 103 2)).thisRunCCPower = 12 ∧
      (m.smEngine (sampleAct 103 2)).thisRunHeaterPower ≤
        (m.smEngine (sampleAct 99 2)).thisRunHeaterPower ∧
      (m.smEngine (sampleAct 99 2)).thisRunCCPower ≤
        (m.smEngine (sampleAct 103 2)).thisRunCCPower :=
  ⟨by decide +kernel, by decide +kernel,
    sweeps_push_back default 0 0 [sampleAct 98 1] (sampleAct 99 2) (sampleAct 103 2)
      ⟨by decide +kernel, by decide +kernel, rfl, rfl⟩ (by decide +kernel) (by decide +kernel)
      (by decide +kernel)⟩

end CryoControlSM
end CryoController
