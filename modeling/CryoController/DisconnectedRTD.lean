import CryoController.DriveBounds
import CryoController.Gains
import CryoController.StateDecision

/-!
# A cryocooler RTD that reads at most 10 K

`SMEngine` keeps such a reading out of the average of the over-temperature trip,
but not out of the rate average, the state decision or the controllers' inputs.
At these readings the decision no longer depends on the previous state, so what
the sweep does with the heater is an inequality between the members of the controller
that drives, its gains and the packet.
-/

open Saturation
namespace CryoController
namespace PID

def feedForward (p : PID) (input setpoint : ℚ) : ℚ :=
  (if p.pOnE then p.kp * (setpoint - input) else 0) - p.kd * (input - p.lastInput)

theorem compute_myOutput_le_iff {p : PID} (hauto : p.inAuto = true)
    (hle : p.outMin ≤ p.outMax) {h : ℚ} (hlo : p.outMin ≤ h) (input setpoint : ℚ)
    {now : UInt64} (hd : p.due now = true) :
    (p.compute input setpoint now).myOutput ≤ h ↔
      p.outMax ≤ h ∨ (p.outMin ≤ h - p.feedForward input setpoint ∧
        (p.outMax ≤ h - p.feedForward input setpoint ∨
          p.accumulate input setpoint ≤ h - p.feedForward input setpoint)) := by
  have hsplit (sum : ℚ) : (if p.pOnE then p.kp * (setpoint - input) else 0) +
      (sum - p.kd * (input - p.lastInput)) ≤ h ↔ sum ≤ h - p.feedForward input setpoint := by
    rw [feedForward]
    constructor
    · intro hsum
      linarith
    · intro hsum
      linarith
  rw [compute_myOutput hauto hd, clamp_le_iff hle, hsplit, clamp_le_iff hle, and_iff_right hlo]

def gainsAfter (p : PID) (g : Gains) : Gains := if g.Valid then g else p.working

/-- The controller does not ask for more than `h` with the limits `lo` and 75: if it computes,
from its sum when it drives already, and else from its output and without a change of input. -/
def AsksAtMost (p : PID) (g : Gains) (lo input setpoint h : ℚ) (now : UInt64) : Prop :=
  let start := if p.inAuto then p.outputSum else clamp p.outMin p.outMax p.myOutput
  let rise := if p.inAuto then input - p.lastInput else 0
  75 ≤ h ∨
    if now = p.lastTime then p.myOutput ≤ h
    else lo ≤ h + g.kd * rise ∧ (75 ≤ h + g.kd * rise ∨
      clamp lo 75 start + g.ki * (setpoint - input) - g.kp * rise ≤ h + g.kd * rise)

section TakeOver
variable {p : PID} {lo : ℚ}

theorem arm_outputs (hlo : lo < 75) (input : ℚ) :
    (p.arm lo 75 input).myOutput = clamp lo 75 p.myOutput ∧
      (p.arm lo 75 input).outputSum = clamp lo 75
        (if p.inAuto then p.outputSum else clamp p.outMin p.outMax p.myOutput) ∧
      input - (p.arm lo 75 input).lastInput = if p.inAuto then input - p.lastInput else 0 := by
  cases hauto : p.inAuto with
  | false =>
    rw [arm_of_manual input hauto hlo]
    exact ⟨rfl, rfl, sub_self input⟩
  | true =>
    rw [arm, setMode_automatic_of_inAuto hauto]
    simp only [setOutputLimits, if_neg (not_le.mpr hlo), hauto, if_true, and_self]

theorem arm_lastTime (input : ℚ) : (p.arm lo 75 input).lastTime = p.lastTime := by
  simp only [arm, setMode, setOutputLimits, pidInitialize]
  split_ifs <;> rfl

theorem due_iff (hsample : p.sampleTime = 1) (now : UInt64) :
    p.due now = true ↔ now ≠ p.lastTime := by
  have hzero : now - p.lastTime = 0 ↔ now = p.lastTime := by
    rw [UInt64.sub_eq_iff_eq_add, UInt64.zero_add]
  have hpos : 1 ≤ (now - p.lastTime).toNat ↔ now - p.lastTime ≠ 0 := by
    rw [Nat.one_le_iff_ne_zero, not_iff_not, ← UInt64.toNat_inj]
    rfl
  rw [due, hsample, decide_eq_true_iff, UInt64.le_iff_toNat_le, ne_eq, ← hzero]
  exact hpos

theorem retune_members (g : Gains) :
    ((p.retune g.kp g.ki g.kd).inAuto, (p.retune g.kp g.ki g.kd).outputSum,
      (p.retune g.kp g.ki g.kd).myOutput, (p.retune g.kp g.ki g.kd).lastInput,
      (p.retune g.kp g.ki g.kd).lastTime, (p.retune g.kp g.ki g.kd).outMin,
      (p.retune g.kp g.ki g.kd).outMax) =
    (p.inAuto, p.outputSum, p.myOutput, p.lastInput, p.lastTime, p.outMin, p.outMax) := by
  simp only [retune, setTunings, setTuningsOn]
  split_ifs <;> rfl

theorem asksAtMost_retune (g g' : Gains) (lo input setpoint h : ℚ) (now : UInt64) :
    (p.retune g.kp g.ki g.kd).AsksAtMost g' lo input setpoint h now ↔
      p.AsksAtMost g' lo input setpoint h now := by
  have hkept := p.retune_members g
  simp only [Prod.mk.injEq] at hkept
  obtain ⟨hauto, hsum, houtput, hlast, htime, hmin, hmax⟩ := hkept
  rw [AsksAtMost, AsksAtMost, hauto, hsum, houtput, hlast, htime, hmin, hmax]

theorem retune_working (hp : p.Plain) (g : Gains) :
    (p.retune g.kp g.ki g.kd).working = p.gainsAfter g := by
  obtain ⟨-, hworks, -, -⟩ := tuned_iff.mp (retune_tuned hp.tuned g)
  rw [hworks, Gains.hold_offer, gainsAfter, (tuned_iff.mp hp.tuned).2.1]

theorem arm_compute_le_iff (hp : p.Plain) (hlo : lo ≤ 0) {h : ℚ} (hh : 0 ≤ h)
    (input setpoint : ℚ) (now : UInt64) :
    ((p.arm lo 75 input).compute input setpoint now).myOutput ≤ h ↔
      p.AsksAtMost p.working lo input setpoint h now := by
  have hlt : lo < 75 := hlo.trans_lt (by norm_num)
  obtain ⟨hmin, hmax⟩ := arm_limits p input hlt
  obtain ⟨houtput, hsum, hrise⟩ := arm_outputs (p := p) hlt input
  have hworking := arm_working p lo 75 input
  simp only [working, Gains.mk.injEq] at hworking
  obtain ⟨hkp, hki, hkd⟩ := hworking
  have hpOnE : (p.arm lo 75 input).pOnE = false := (arm_onMeasurement _ _ _ hp.onMeasurement).2
  have hsample : (p.arm lo 75 input).sampleTime = 1 :=
    (congrArg (fun t => t.2.2.2) (p.arm_tuning lo 75 input)).trans (tuned_iff.mp hp.tuned).2.2.2
  have hle : lo ≤ h := hlo.trans hh
  rw [AsksAtMost]
  by_cases hnow : now = p.lastTime
  · have hdue : (p.arm lo 75 input).due now = false := by
      rw [← Bool.not_eq_true, due_iff hsample, arm_lastTime, not_not]
      exact hnow
    rw [compute_of_not_due hdue, houtput, clamp_le_iff hlt.le, and_iff_right hle, if_pos hnow]
  · have hdue : (p.arm lo 75 input).due now = true := by
      rw [due_iff hsample, arm_lastTime]
      exact hnow
    rw [compute_myOutput_le_iff (arm_inAuto p input) (by rw [hmin, hmax]; exact hlt.le)
      (hmin.symm ▸ hle) input setpoint hdue, if_neg hnow]
    simp only [feedForward, accumulate, hpOnE, hmin, hmax, hsum, hrise, hkp, hki, hkd, working,
      Bool.false_eq_true, if_false, Bool.not_false, if_true, zero_sub, sub_neg_eq_add]

end TakeOver

end PID

namespace CryoControlSM

theorem smEngine_value_rate {m : CryoControlSM} (h : Interlock m) (s : Sweep) {r : ℚ}
    (hd : (m.nextState s).actuation.driver = .ratePID)
    (hr : (m.nextState s).actuation.rateTarget = some r) :
    (m.smEngine s).thisRunPIDValue =
      (((m.ratePID.retune s.packet.kpR s.packet.kiR s.packet.kdR).arm
        (m.nextState s).actuation.lower 75 (m.nextRate s.packet)).compute
          (m.nextRate s.packet) r s.computeTime).myOutput := by
  rw [smEngine_eq_drive h, postRunSanityCheck_eq]
  simp only [drive, hd, computeRate, rOutput, enter, if_true, hr, Option.getD_some, settle,
    prepare_eq]

theorem smEngine_value_abs {m : CryoControlSM} (h : Interlock m) (s : Sweep)
    (hd : (m.nextState s).actuation.driver = .absPID) :
    (m.smEngine s).thisRunPIDValue =
      (((m.absPID.retune s.packet.kpA s.packet.kiA s.packet.kdA).arm
        (m.nextState s).actuation.lower 75 s.packet.curTemp).compute
          s.packet.curTemp s.packet.tTemp s.computeTime).myOutput := by
  rw [smEngine_eq_drive h, postRunSanityCheck_eq]
  simp only [drive, hd, computeAbs, tOutput, enter, if_true, settle, prepare_eq]

theorem smEngine_rate {m : CryoControlSM} (h : Interlock m) (s : Sweep) :
    (m.smEngine s).tempratureRateMovingAvg = m.nextRate s.packet := by
  rw [smEngine_keeps tempratureRateMovingAvg h s, enter, settle, prepare_eq]

theorem smEngine_averages {m : CryoControlSM} (h : Interlock m) (s : Sweep) :
    (m.smEngine s).movingAvgCCRTD = averageRTD m.movingAvgCCRTD s.packet.curTemp ∧
      (m.smEngine s).movingAvgLSHRTD = averageRTD m.movingAvgLSHRTD s.packet.curTempLSH := by
  constructor
  · rw [smEngine_keeps movingAvgCCRTD h s, enter, settle, prepare_eq]
  · rw [smEngine_keeps movingAvgLSHRTD h s, enter, settle, prepare_eq]

theorem smEngine_heater_le_iff {m : CryoControlSM} (h : Interlock m) (s : Sweep) {level : ℚ}
    (hlevel : 0 ≤ level) :
    (m.smEngine s).thisRunHeaterPower ≤ level ↔
      (m.smEngine s).tripped ∨ (m.smEngine s).thisRunPIDValue ≤ level := by
  rw [(smEngine_powered h s).heater]
  by_cases ht : (m.smEngine s).tripped
  · simp [ht, hlevel]
  · simp [ht, hlevel]

theorem rangeRules_of_open {target cur : ℚ} (h : cur ≤ 10) (st : FSMStates) :
    rangeRules target cur st =
      if target > cur + 10 then .warmup
      else if target < cur - 10 then .coolDownCold else .maintainCold := by
  -- only the rules for a cold chamber can fire at such a temperature
  have hidle : ¬ (cur > 300 ∧ target < 300) := fun hi => by linarith [hi.1]
  have hhot : ¬ (target < 220 ∧ target < cur - 10 ∧ cur > 220) :=
    fun hh => by linarith [hh.2.2]
  have hhold : ¬ (target > 220 ∧ |target - cur| ≤ 2 ∧ cur > 220) :=
    fun hh => by linarith [hh.2.2]
  have hcur : cur ≤ 220 := by linarith
  have hcur' : cur < 290 := by linarith
  simp only [rangeRules, if_neg hidle, if_neg hhot, if_neg hhold, hcur, hcur', and_true]
  by_cases hup : target > cur + 10
  · obtain ⟨hcold, -⟩ := not_hold_of_away (Or.inr hup)
    have hdown : ¬ target < cur - 10 := by linarith
    simp only [hcur, and_true] at hcold
    simp only [hup, hdown, hcold, and_false, if_true, if_false]
  · by_cases hdown : target < cur - 10
    · obtain ⟨hcold, -⟩ := not_hold_of_away (Or.inl hdown)
      have hlow : target < 220 := by linarith
      simp only [hcur, hlow, and_true, true_and] at hcold
      simp only [hup, hdown, hlow, hcold, and_true, and_false, if_true, if_false]
    · have hlow : target < 220 := by linarith
      have hband : |target - cur| ≤ 10 := abs_le.mpr ⟨by linarith, by linarith⟩
      simp only [hup, hdown, hlow, hband, and_true, and_false, if_true, if_false]

/-- The sweep makes nothing of the reading: it does not start warming up, keeps
both averages of the cryocooler RTD and does not raise the heater. -/
structure IgnoresRTD (m : CryoControlSM) (s : Sweep) : Prop where
  state : m.currentFSMState ≠ .warmup → (m.smEngine s).currentFSMState ≠ .warmup
  rate : (m.smEngine s).tempratureRateMovingAvg = m.tempratureRateMovingAvg
  average : (m.smEngine s).movingAvgCCRTD = m.movingAvgCCRTD
  heater : (m.smEngine s).thisRunHeaterPower ≤ m.thisRunHeaterPower

def RateKept (m : CryoControlSM) (d : DataPacket) : Prop :=
  m.currentTemperature = 0 ∨ m.tempratureRateMovingAvg = d.curTemp - m.currentTemperature

def NoMoreHeat (m : CryoControlSM) (s : Sweep) : Prop :=
  let d := s.packet
  let gainsR := m.ratePID.gainsAfter d.rateGains
  let gainsA := m.absPID.gainsAfter d.absGains
  let rate := m.tempratureRateMovingAvg
  if d.tTemp > d.curTemp + 10 then
    m.ratePID.AsksAtMost gainsR 0 rate (1 / 60) m.thisRunHeaterPower s.computeTime
  else if d.tTemp < d.curTemp - 10 then
    m.ratePID.AsksAtMost gainsR (-120) rate (-1 / 60) m.thisRunHeaterPower s.computeTime
  else m.absPID.AsksAtMost gainsA (-120) d.curTemp d.tTemp m.thisRunHeaterPower s.computeTime

def HarmlessReading (m : CryoControlSM) (s : Sweep) : Prop :=
  RateKept m s.packet ∧
  (s.Stale ∨
    ((m.currentFSMState = .warmup ∨ s.packet.tTemp ≤ s.packet.curTemp + 10) ∧
      (m.movingAvgCCRTD > 320 ∨ averageRTD m.movingAvgLSHRTD s.packet.curTempLSH > 320 ∨
        NoMoreHeat m s)))

theorem nextRate_eq_iff (m : CryoControlSM) (d : DataPacket) :
    m.nextRate d = m.tempratureRateMovingAvg ↔ RateKept m d := by
  rw [nextRate, RateKept, rateMovingAvgN]
  by_cases hz : m.currentTemperature = 0
  · simp [hz]
  · rw [if_pos hz, or_iff_right hz]
    constructor
    · intro heq
      linarith
    · intro heq
      linarith

theorem nextState_of_open {m : CryoControlSM} {s : Sweep} (hfresh : ¬ s.Stale)
    (hopen : s.packet.curTemp ≤ 10) :
    m.nextState s =
      if s.packet.tTemp > s.packet.curTemp + 10 then .warmup
      else if s.packet.tTemp < s.packet.curTemp - 10 then .coolDownCold else .maintainCold := by
  rw [nextState, if_neg hfresh, rangeRules_of_open hopen]

section OpenRTD
variable {m : CryoControlSM} {s : Sweep}

theorem smEngine_tripped_of_open (h : Interlock m) (hopen : s.packet.curTemp ≤ 10) :
    (m.smEngine s).tripped ↔
      m.movingAvgCCRTD > 320 ∨ averageRTD m.movingAvgLSHRTD s.packet.curTempLSH > 320 := by
  obtain ⟨hcc, hlsh⟩ := smEngine_averages h s
  rw [tripped, hcc, hlsh, averageRTD, if_neg (not_lt.mpr hopen)]

theorem smEngine_value_le_iff (h : Plain m) (hpow : Powered m) (hfresh : ¬ s.Stale)
    (hopen : s.packet.curTemp ≤ 10) (hkept : RateKept m s.packet) :
    (m.smEngine s).thisRunPIDValue ≤ m.thisRunHeaterPower ↔ NoMoreHeat m s := by
  have hi := h.interlock
  have hlevel : 0 ≤ m.thisRunHeaterPower := hpow.heater_bounds.1
  have hstate := nextState_of_open (m := m) hfresh hopen
  have hrate := (nextRate_eq_iff m s.packet).mpr hkept
  have hasks {p : PID} (hp : p.Plain) (g : Gains) {lo : ℚ} (hlo : lo ≤ 0) (input setpoint : ℚ) :
      (((p.retune g.kp g.ki g.kd).arm lo 75 input).compute input setpoint
        s.computeTime).myOutput ≤ m.thisRunHeaterPower ↔
      p.AsksAtMost (p.gainsAfter g) lo input setpoint m.thisRunHeaterPower s.computeTime := by
    rw [PID.arm_compute_le_iff (PID.retune_plain hp g) hlo hlevel, PID.retune_working hp,
      PID.asksAtMost_retune]
  rw [NoMoreHeat]
  by_cases hup : s.packet.tTemp > s.packet.curTemp + 10
  · rw [if_pos hup] at hstate
    rw [if_pos hup, smEngine_value_rate hi s (by rw [hstate]; rfl) (by rw [hstate]; rfl), hstate,
      hrate]
    exact hasks h.rate s.packet.rateGains le_rfl _ _
  · rw [if_neg hup] at hstate ⊢
    by_cases hdown : s.packet.tTemp < s.packet.curTemp - 10
    · rw [if_pos hdown] at hstate ⊢
      rw [smEngine_value_rate hi s (by rw [hstate]; rfl) (by rw [hstate]; rfl), hstate, hrate]
      exact hasks h.rate s.packet.rateGains (Actuation.lower_nonpos _) _ _
    · rw [if_neg hdown] at hstate ⊢
      rw [smEngine_value_abs hi s (by rw [hstate]; rfl), hstate]
      exact hasks h.abs s.packet.absGains (Actuation.lower_nonpos _) _ _

theorem ignoresRTD_of_stale (h : Interlock m) (hpow : Powered m) (hs : s.Stale)
    (hopen : s.packet.curTemp ≤ 10) : IgnoresRTD m s ↔ RateKept m s.packet := by
  have hstate : (m.smEngine s).currentFSMState = .fault := by
    rw [smEngine_currentFSMState h, nextState, if_pos hs]
  have hvalue : (m.smEngine s).thisRunPIDValue = 0 :=
    (smEngine_powered h s).undriven (by rw [hstate]; rfl)
  rw [← nextRate_eq_iff, ← smEngine_rate h]
  constructor
  · exact IgnoresRTD.rate
  · intro hrate
    constructor
    · rw [hstate]
      exact fun _ => FSMStates.noConfusion
    · exact hrate
    · rw [(smEngine_averages h s).1, averageRTD, if_neg (not_lt.mpr hopen)]
    · rw [smEngine_heater_le_iff h s hpow.heater_bounds.1, hvalue]
      exact Or.inr hpow.heater_bounds.1

theorem ignoresRTD_of_fresh (hplain : Plain m) (hpow : Powered m) (hfresh : ¬ s.Stale)
    (hopen : s.packet.curTemp ≤ 10) (hkept : RateKept m s.packet) :
    IgnoresRTD m s ↔
      (m.currentFSMState = .warmup ∨ s.packet.tTemp ≤ s.packet.curTemp + 10) ∧
        (m.movingAvgCCRTD > 320 ∨ averageRTD m.movingAvgLSHRTD s.packet.curTempLSH > 320 ∨
          NoMoreHeat m s) := by
  have h := hplain.interlock
  have hstate : (m.smEngine s).currentFSMState = .warmup ↔
      s.packet.tTemp > s.packet.curTemp + 10 := by
    rw [smEngine_currentFSMState h, nextState_of_open hfresh hopen]
    split_ifs with hup hdown
    · simp [hup]
    · simp [hup]
    · simp [hup]
  have hheat := smEngine_heater_le_iff h s hpow.heater_bounds.1
  rw [smEngine_tripped_of_open h hopen, smEngine_value_le_iff hplain hpow hfresh hopen hkept,
    or_assoc] at hheat
  constructor
  · intro hi
    refine ⟨?_, hheat.mp hi.heater⟩
    by_cases hw : m.currentFSMState = .warmup
    · exact Or.inl hw
    · exact Or.inr (not_lt.mp fun hup => hi.state hw (hstate.mpr hup))
  · rintro ⟨hwarm, hno⟩
    constructor
    · intro hne hnext
      exact absurd (hstate.mp hnext) (not_lt.mpr (hwarm.resolve_left hne))
    · rw [smEngine_rate h, (nextRate_eq_iff m s.packet).mpr hkept]
    · rw [(smEngine_averages h s).1, averageRTD, if_neg (not_lt.mpr hopen)]
    · exact hheat.mpr hno

theorem ignoresRTD_iff (hplain : Plain m) (hpow : Powered m) (hopen : s.packet.curTemp ≤ 10) :
    IgnoresRTD m s ↔ HarmlessReading m s := by
  have h := hplain.interlock
  rw [HarmlessReading]
  by_cases hs : s.Stale
  · rw [ignoresRTD_of_stale h hpow hs hopen, and_iff_left (Or.inl hs)]
  · rw [or_iff_right hs]
    constructor
    · intro hi
      have hkept : RateKept m s.packet := by
        rw [← nextRate_eq_iff, ← smEngine_rate h]
        exact hi.rate
      exact ⟨hkept, (ignoresRTD_of_fresh hplain hpow hs hopen hkept).mp hi⟩
    · rintro ⟨hkept, hrest⟩
      exact (ignoresRTD_of_fresh hplain hpow hs hopen hkept).mpr hrest

end OpenRTD

theorem sweep_ignores_openRTD_iff (mem : CryoControlSM) (absTime rateTime : UInt64)
    (ss : List Sweep) (s : Sweep) (hopen : s.packet.curTemp ≤ 10) :
    IgnoresRTD (Transition.run smEngine (construct mem absTime rateTime) ss) s ↔
      HarmlessReading (Transition.run smEngine (construct mem absTime rateTime) ss) s :=
  ignoresRTD_iff (sweeps_plain mem absTime rateTime ss) (run_powered mem absTime rateTime ss) hopen

def sampleOpen (target : ℚ) (computeTime : UInt64) : Sweep :=
  let s := sampleSweep target 4 0 0
  { s with ctrlRow := { s.ctrlRow with kp := 1, ki := 2, kd := 1 }, computeTime }

theorem sweep_ignores_openRTD_iff_sample :
    let m := Transition.run smEngine (construct default 0 0) [sampleOpen 10 1]
    m.thisRunHeaterPower = 12 ∧ (m.smEngine (sampleOpen 3 2)).thisRunHeaterPower = 10 ∧
      (IgnoresRTD m (sampleOpen 3 2) ↔ HarmlessReading m (sampleOpen 3 2)) :=
  ⟨by decide +kernel, by decide +kernel,
    sweep_ignores_openRTD_iff default 0 0 [sampleOpen 10 1] (sampleOpen 3 2) (by decide +kernel)⟩

/-- A machine that runs at 200 K warms up on the first reading of 0 K. -/
theorem not_sweep_ignores_openRTD :
    ¬ ∀ (mem : CryoControlSM) (absTime rateTime : UInt64) (ss : List Sweep) (s : Sweep),
      s.packet.curTemp ≤ 10 →
        IgnoresRTD (Transition.run smEngine (construct mem absTime rateTime) ss) s := by
  intro h
  have hopen : (sampleSweep 200 0 0 0).packet.curTemp ≤ 10 := by decide +kernel
  have hi := h default 0 0 [sampleSweep 200 200 0 0] _ hopen
  exact hi.state (by decide +kernel) (by decide +kernel)

end CryoControlSM
end CryoController
