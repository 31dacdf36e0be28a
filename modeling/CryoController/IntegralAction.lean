import Mathlib.Data.List.Chain
import CryoController.Accumulator
import CryoController.Gains
import CryoController.TemperatureRanges
import CryoController.UnsetMemory

/-!
# Integral action

As long as a maintaining machine reads the same temperature, each sweep moves the drive by
the error times the integral gain, until it is at a limit. So the drive of a machine that
reads the same temperature rests only without an error or an integral gain, or at a limit.
-/

open Saturation
namespace CryoController
namespace PID

section Frame
variable (p : PID) (lo hi x Kp Ki Kd : ℚ) (now : UInt64)

theorem arm_due : (p.arm lo hi x).due now = p.due now := by
  simp only [arm, setMode, setOutputLimits, pidInitialize]
  split_ifs <;> rfl

theorem retune_due : (p.retune Kp Ki Kd).due now = p.due now := by
  simp only [retune, setTunings, setTuningsOn]
  split_ifs <;> rfl

end Frame

theorem retune_of_offered {p : PID} {g : Gains} (h : p.displayed = g ∨ ¬ g.Valid) :
    p.retune g.kp g.ki g.kd = p := by
  rcases h with rfl | h
  · exact if_neg (by simp [displayed])
  · rw [retune]
    split_ifs
    · exact setTuningsOn_of_not_valid p h p.pOn
    · rfl

theorem compute_of_unchanged {p : PID} {now : UInt64} (hauto : p.inAuto = true)
    (hdue : p.due now = true) (hm : p.OnMeasurement) (hle : p.outMin ≤ p.outMax) (setpoint : ℚ) :
    p.compute p.lastInput setpoint now =
      { p with
        outputSum := saturate p.outMin p.outMax p.outputSum (p.ki * (setpoint - p.lastInput))
        myOutput := saturate p.outMin p.outMax p.outputSum (p.ki * (setpoint - p.lastInput))
        lastTime := now } := by
  have hshift : p.shift p.lastInput setpoint = p.ki * (setpoint - p.lastInput) := by
    rw [shift, hm.2]
    simp
  have hfeed : p.feed p.lastInput setpoint = 0 := by
    rw [feed, hm.2]
    simp
  have houtput (s c : ℚ) : saturate p.outMin p.outMax (saturate p.outMin p.outMax s c) 0 =
      saturate p.outMin p.outMax s c := by
    rw [saturate, add_zero]
    exact clamp_of_mem (clamp_mem hle _)
  rw [compute_of_due hauto hdue, hshift, hfeed, houtput]

end PID

structure Sweep.Repeats (s t : Sweep) : Prop where
  fresh : ¬ t.Stale
  tTemp : t.packet.tTemp = s.packet.tTemp
  curTemp : t.packet.curTemp = s.packet.curTemp
  gains : t.packet.absGains = s.packet.absGains

namespace CryoControlSM

structure Resting (s : Sweep) (m : CryoControlSM) : Prop where
  interlock : Interlock m
  driver : m.currentFSMState.actuation.driver = .absPID
  holds : Latch.hold (named s.packet.tTemp) m.currentFSMState s.packet.curTemp = m.currentFSMState
  gains : m.absPID.displayed = s.packet.absGains ∨ ¬ s.packet.absGains.Valid
  onMeasurement : m.absPID.OnMeasurement
  lastInput : m.absPID.lastInput = s.packet.curTemp
  sampleTime : m.absPID.sampleTime = 1

def integral (m : CryoControlSM) (s : Sweep) : ℚ :=
  m.absPID.ki * (s.packet.tTemp - s.packet.curTemp)

section Repeat
variable {m : CryoControlSM} {s t : Sweep}

theorem Resting.nextState_eq (h : Resting s m) (ht : s.Repeats t) :
    m.nextState t = m.currentFSMState := by
  rw [nextState_eq_hold h.interlock ht.fresh, ht.tTemp, ht.curTemp]
  exact h.holds

theorem Resting.smEngine_absPID (h : Resting s m) (ht : s.Repeats t)
    (hclock : t.computeTime ≠ m.absPID.lastTime) :
    let sum := saturate m.currentFSMState.actuation.lower 75 m.absPID.outputSum (m.integral s)
    (m.smEngine t).absPID =
      { m.absPID with outputSum := sum, myOutput := sum, lastTime := t.computeTime } := by
  intro sum
  have hf := h.interlock.inForce
  have hauto := hf.absMode.mpr h.driver
  have hstate := h.nextState_eq ht
  have htuned : m.tuned t.packet .absPID = m.absPID := by
    have hretune := PID.retune_of_offered h.gains
    rw [← ht.gains] at hretune
    exact hretune
  have hengine := smEngine_controller_driving (s := t) (d := .absPID) h.interlock (by simp)
    (hstate ▸ h.driver)
  change (m.smEngine t).absPID = _ at hengine
  have hlimits := hf.absLimits
  have hle : m.absPID.outMin ≤ m.absPID.outMax := by
    rw [hlimits.1, hlimits.2]
    exact (Actuation.lower_lt _).le
  rw [hengine, htuned, hstate,
    PID.arm_of_armed _ hauto hlimits (hf.absBounded h.driver)]
  change m.absPID.compute t.packet.curTemp t.packet.tTemp t.computeTime = _
  have hsum : saturate m.absPID.outMin m.absPID.outMax m.absPID.outputSum
      (m.absPID.ki * (s.packet.tTemp - m.absPID.lastInput)) = sum := by
    rw [h.lastInput, hlimits.1, hlimits.2]
    rfl
  rw [ht.curTemp, ht.tTemp, ← h.lastInput,
    PID.compute_of_unchanged hauto ((PID.due_iff h.sampleTime _).mpr hclock) h.onMeasurement hle, hsum]

theorem Resting.smEngine_resting (h : Resting s m) (ht : s.Repeats t)
    (hclock : t.computeTime ≠ m.absPID.lastTime) : Resting s (m.smEngine t) := by
  have hstate : (m.smEngine t).currentFSMState = m.currentFSMState :=
    (smEngine_currentFSMState h.interlock t).trans (h.nextState_eq ht)
  have habs := h.smEngine_absPID ht hclock
  refine ⟨smEngine_interlock m t h.interlock, hstate ▸ h.driver, hstate ▸ h.holds, ?_, ?_, ?_, ?_⟩
  · rw [habs]
    exact h.gains
  · rw [habs]
    exact h.onMeasurement
  · rw [habs]
    exact h.lastInput
  · rw [habs]
    exact h.sampleTime

theorem Resting.smEngine_value (h : Resting s m) (ht : s.Repeats t)
    (hclock : t.computeTime ≠ m.absPID.lastTime) :
    (m.smEngine t).thisRunPIDValue = (m.smEngine t).absPID.outputSum := by
  have hvalue : (m.smEngine t).thisRunPIDValue = (m.smEngine t).absPID.myOutput :=
    CryoControlSM.smEngine_value (d := .absPID) h.interlock (by simp)
      (h.nextState_eq ht ▸ h.driver)
  rw [hvalue, h.smEngine_absPID ht hclock]

def Ticking (now : UInt64) (ts : List Sweep) : Prop :=
  List.IsChain (· ≠ ·) (now :: ts.map fun t => t.computeTime)

theorem Resting.run_resting (h : Resting s m) {ts : List Sweep} (hts : ∀ t ∈ ts, s.Repeats t)
    (hclock : Ticking m.absPID.lastTime ts) :
    let m' := Transition.run smEngine m ts
    Resting s m' ∧ m'.currentFSMState = m.currentFSMState ∧ m'.absPID.ki = m.absPID.ki ∧
      m'.absPID.lastTime = (ts.map fun t => t.computeTime).getLast?.getD m.absPID.lastTime ∧
      m'.absPID.outputSum = Transition.run (saturate m.currentFSMState.actuation.lower 75)
        m.absPID.outputSum (List.replicate ts.length (m.integral s)) := by
  induction ts generalizing m with
  | nil => exact ⟨h, rfl, rfl, rfl, rfl⟩
  | cons t ts ih =>
    rw [List.forall_mem_cons] at hts
    rw [Ticking, List.map_cons, List.isChain_cons_cons] at hclock
    have hnext := h.smEngine_resting hts.1 (Ne.symm hclock.1)
    have habs := h.smEngine_absPID hts.1 (Ne.symm hclock.1)
    have hstate : (m.smEngine t).currentFSMState = m.currentFSMState :=
      (smEngine_currentFSMState h.interlock t).trans (h.nextState_eq hts.1)
    have hlast : (m.smEngine t).absPID.lastTime = t.computeTime := by rw [habs]
    have hki : (m.smEngine t).absPID.ki = m.absPID.ki := by rw [habs]
    have hintegral : (m.smEngine t).integral s = m.integral s := by rw [integral, hki]; rfl
    have hsum : (m.smEngine t).absPID.outputSum =
        saturate m.currentFSMState.actuation.lower 75 m.absPID.outputSum (m.integral s) := by
      rw [habs]
    obtain ⟨hrest, hstates, hkis, htime, hsums⟩ := ih hnext hts.2 (by
      rw [Ticking, hlast]
      exact hclock.2)
    rw [hstate] at hstates
    rw [hstate, hintegral, hsum] at hsums
    refine ⟨hrest, hstates, hkis.trans hki, ?_, hsums⟩
    rw [Transition.run_cons, htime, hlast, List.map_cons, List.getLast?_cons, Option.getD_some]

end Repeat

theorem smEngine_comes_to_rest {m : CryoControlSM} {s : Sweep} {gA gR : Gains} (h : Interlock m)
    (hg : InTune gA gR m) (hplain : m.absPID.Plain)
    (hdriver : (m.smEngine s).currentFSMState.actuation.driver = .absPID)
    (hclock : s.computeTime ≠ m.absPID.lastTime) :
    Resting s (m.smEngine s) ∧ (m.smEngine s).absPID.lastTime = s.computeTime := by
  have hstate := smEngine_currentFSMState h s
  have hfresh : ¬ s.Stale := by
    intro hstale
    rw [hstate, nextState, if_pos hstale] at hdriver
    cases hdriver
  have htuned := (smEngine_inTune h hg s).abs
  obtain ⟨hshown, -, -, hsample⟩ := PID.tuned_iff.mp htuned
  have hdue : ((m.tuned s.packet .absPID).arm (m.nextState s).actuation.lower 75
      s.packet.curTemp).due s.computeTime = true := by
    rw [PID.arm_due]
    exact (PID.retune_due _ _ _ _ _).trans
      ((PID.due_iff (PID.tuned_iff.mp hg.abs).2.2.2 _).mpr hclock)
  have hengine := smEngine_controller_driving (s := s) (d := .absPID) h (by simp) (hstate ▸ hdriver)
  change (m.smEngine s).absPID = PID.compute _ s.packet.curTemp _ _ at hengine
  have habs := hengine.trans (PID.compute_of_due (PID.arm_inAuto _ _) hdue _ _)
  refine ⟨⟨smEngine_interlock m s h, hdriver, ?_, ?_,
    (smEngine_controller_plain (d := .absPID) h (by decide) hplain).onMeasurement, ?_, hsample⟩, ?_⟩
  · rw [hstate, nextState_eq_hold h hfresh]
    exact Latch.hold_hold _ _ _
  · rw [Gains.hold_offer] at hshown
    by_cases hvalid : s.packet.absGains.Valid
    · rw [if_pos hvalid] at hshown
      exact Or.inl hshown
    · exact Or.inr hvalid
  · rw [habs]
  · rw [habs]

/-- There is no push, or it is against the limit where the drive is. -/
def Balanced (m : CryoControlSM) (push : ℚ) : Prop :=
  push = 0 ∨ (0 < push ∧ m.absPID.outputSum = 75) ∨
    (push < 0 ∧ m.absPID.outputSum = m.currentFSMState.actuation.lower)

theorem balanced_nsmul_iff (m : CryoControlSM) {n : ℕ} (hn : n ≠ 0) (push : ℚ) :
    m.Balanced (n * push) ↔ m.Balanced push := by
  have hpos : (0 : ℚ) < n := by exact_mod_cast Nat.pos_of_ne_zero hn
  have hneg : n * push < 0 ↔ push < 0 := by
    rw [mul_comm, mul_neg_iff, and_iff_left hpos, or_iff_right fun h => hpos.not_gt h.2]
  simp only [Balanced, mul_eq_zero, hpos.ne', false_or, mul_pos_iff_of_pos_left hpos, hneg]

/-- From any reachable machine: after a sweep that maintains and computes, further sweeps
on the same readings, with the clock ticking, stay in the state and move the drive by the
error times the integral gain each, saturated once at the limits of the state. The drive
rests only where there is nothing to integrate, or at the limit that it is pushed against. -/
theorem sweeps_integrate (mem : CryoControlSM) (absTime rateTime : UInt64)
    (before : List Sweep) (s : Sweep) (ts : List Sweep) :
    let m₀ := Transition.run smEngine (construct mem absTime rateTime) before
    let m := m₀.smEngine s
    m.currentFSMState ∈ [.maintainWarm, .maintainCold] → s.computeTime ≠ m₀.absPID.lastTime →
    (∀ t ∈ ts, s.Repeats t) → Ticking s.computeTime ts →
    let m' := Transition.run smEngine m ts
    let error := s.packet.tTemp - s.packet.curTemp
    m'.currentFSMState = m.currentFSMState ∧
      m'.absPID.outputSum = clamp m.currentFSMState.actuation.lower 75
        (m.absPID.outputSum + ts.length * (m.absPID.ki * error)) ∧
      (ts ≠ [] → m'.thisRunPIDValue = m'.absPID.outputSum ∧
        (m'.absPID.outputSum = m.absPID.outputSum ↔ m.Balanced (m.absPID.ki * error))) := by
  intro m₀ m hmaintains hclock hts hticking m' error
  have hplain : Plain m₀ := sweeps_plain mem absTime rateTime before
  have htune := run_inTune (construct_interlock mem absTime rateTime)
    ⟨PID.construct_tuned mem.absPID absTime, PID.construct_tuned mem.ratePID rateTime⟩ before
  have hdriver : m.currentFSMState.actuation.driver = .absPID :=
    m.currentFSMState.actuation_absPID.mpr hmaintains
  obtain ⟨hrest, hlast⟩ := smEngine_comes_to_rest hplain.interlock htune
    hplain.abs hdriver hclock
  have hbounds : m.absPID.outputSum ∈ Set.Icc m.currentFSMState.actuation.lower 75 :=
    ((hrest.interlock.inForce.absBounded hdriver).within hrest.interlock.inForce.absLimits).2
  have hticking' : Ticking m.absPID.lastTime ts := hlast ▸ hticking
  obtain ⟨-, hstate, -, -, hsum⟩ := hrest.run_resting hts hticking'
  have hclosed := hsum.trans (run_saturate_replicate hbounds _ _)
  refine ⟨hstate, hclosed, fun hne => ⟨?_, ?_⟩⟩
  · obtain ⟨front, last, rfl⟩ := List.eq_nil_or_concat' ts |>.resolve_left hne
    rw [List.forall_mem_append] at hts
    rw [Ticking, List.map_append, ← List.cons_append] at hticking'
    obtain ⟨hfront, -, hstep⟩ := List.isChain_append.mp hticking'
    obtain ⟨hrest', -, -, htime, -⟩ := hrest.run_resting hts.1 hfront
    have hnext : last.computeTime ≠ (Transition.run smEngine m front).absPID.lastTime := by
      rw [htime]
      exact Ne.symm (hstep _ List.getLast?_cons _ rfl)
    simp only [m', Transition.run_concat]
    exact hrest'.smEngine_value (hts.2 last List.mem_cons_self) hnext
  · rw [hclosed, clamp_add_eq_self_iff hbounds,
      ← m.balanced_nsmul_iff (List.length_eq_zero_iff.not.mpr hne)]
    rfl

def sampleRest (computeTime : UInt64) : Sweep :=
  let s := sampleSweep 150 (301 / 2) 0 0
  { s with ctrlRow := { s.ctrlRow with kp := 1, ki := 2, kd := 1 }, computeTime }

theorem sweeps_integrate_sample :
    let m := (construct default 0 0).smEngine (sampleRest 1)
    let m' := Transition.run smEngine m [sampleRest 2, sampleRest 3]
    m'.currentFSMState = m.currentFSMState ∧
      m'.absPID.outputSum = clamp m.currentFSMState.actuation.lower 75
        (m.absPID.outputSum + 2 * (m.absPID.ki * (150 - 301 / 2))) ∧
      ([sampleRest 2, sampleRest 3] ≠ [] → m'.thisRunPIDValue = m'.absPID.outputSum ∧
        (m'.absPID.outputSum = m.absPID.outputSum ↔
          m.Balanced (m.absPID.ki * (150 - 301 / 2)))) :=
  have hfresh : ¬ (sampleRest 1).Stale := by decide +kernel
  have hrepeats (k : UInt64) : (sampleRest 1).Repeats (sampleRest k) := ⟨hfresh, rfl, rfl, rfl⟩
  sweeps_integrate default 0 0 [] (sampleRest 1) [sampleRest 2, sampleRest 3] (by decide +kernel)
    (by decide +kernel)
    (List.forall_mem_cons.mpr ⟨hrepeats 2, List.forall_mem_singleton.mpr (hrepeats 3)⟩)
    (by simp only [Ticking]; decide +kernel)

end CryoControlSM
end CryoController
