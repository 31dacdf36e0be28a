import CryoController.DisconnectedRTD

/-!
# Members that no constructor sets

Two machines built in different memory differ in the outputs and the
accumulators of their controllers and in three times. The times and the
accumulators are always written before they are read. An output is read when its
controller first takes over, and then it makes no difference exactly when it is
clamped away or the first integral step runs into a limit.
-/

open Saturation
namespace CryoController
namespace PID

def withMemory (p : PID) (output sum input : ℚ) : PID :=
  { p with myOutput := output, outputSum := sum, lastInput := input }

/-- The controllers agree in what is set; once in automatic mode they are equal. -/
structure Alike (p q : PID) : Prop where
  memory : ∃ output sum input, q = p.withMemory output sum input
  auto : p.inAuto = true → q = p
  onMeasurement : p.OnMeasurement

section Memory
variable (p : PID) (output sum input lo hi x Kp Ki Kd : ℚ)

theorem setTuningsOn_withMemory (pOn : ProportionalOn) :
    (p.withMemory output sum input).setTuningsOn Kp Ki Kd pOn =
      (p.setTuningsOn Kp Ki Kd pOn).withMemory output sum input := by
  by_cases hneg : Kp < 0 ∨ Ki < 0 ∨ Kd < 0
  · simp only [setTuningsOn, if_pos hneg]
  · by_cases hd : p.controllerDirection = .reverse
    · simp only [setTuningsOn, if_neg hneg, withMemory, hd, if_true]
    · simp only [setTuningsOn, if_neg hneg, withMemory, hd, if_false]

theorem retune_withMemory : (p.withMemory output sum input).retune Kp Ki Kd =
    (p.retune Kp Ki Kd).withMemory output sum input := by
  by_cases hnew : Kp ≠ p.dispKp ∨ Ki ≠ p.dispKi ∨ Kd ≠ p.dispKd
  · rw [retune, retune, if_pos hnew]
    exact (if_pos hnew).trans (p.setTuningsOn_withMemory output sum input Kp Ki Kd p.pOn)
  · rw [retune, retune, if_neg hnew]
    exact if_neg hnew

theorem setOutputLimits_withMemory {p : PID} (hp : p.inAuto = false) :
    (p.withMemory output sum input).setOutputLimits lo hi =
      (p.setOutputLimits lo hi).withMemory output sum input := by
  by_cases h : hi ≤ lo
  · simp only [setOutputLimits, if_pos h]
  · simp only [setOutputLimits, if_neg h, withMemory, hp, Bool.false_eq_true, if_false]

theorem release_withMemory : (p.withMemory output sum input).release lo hi x =
    (p.release lo hi x).withMemory output sum input := by
  have hmode : (p.withMemory output sum input).setMode .manual x =
      (p.setMode .manual x).withMemory output sum input := rfl
  rw [release, release, hmode, setOutputLimits_withMemory output sum input lo hi (by simp)]

theorem construct_alike (p q : PID) (time : UInt64) :
    Alike ((p.construct 2 5 1 .pOnM .direct time).setOutputLimits 0 75)
      ((q.construct 2 5 1 .pOnM .direct time).setOutputLimits 0 75) := by
  rw [construct_eq, construct_eq]
  constructor
  · exact ⟨q.myOutput, q.outputSum, q.lastInput, rfl⟩
  · exact fun h => by cases h
  · exact ⟨rfl, rfl⟩

theorem Alike.retune {p q : PID} (h : Alike p q) :
    Alike (p.retune Kp Ki Kd) (q.retune Kp Ki Kd) := by
  obtain ⟨output, sum, input, hq⟩ := h.memory
  constructor
  · exact ⟨output, sum, input, by rw [hq, retune_withMemory]⟩
  · intro hauto
    rw [h.auto (by simpa using hauto)]
  · exact retune_onMeasurement Kp Ki Kd h.onMeasurement

theorem Alike.release {p q : PID} (h : Alike p q) :
    Alike (p.release lo hi x) (q.release lo hi x) := by
  obtain ⟨output, sum, input, hq⟩ := h.memory
  constructor
  · exact ⟨output, sum, input, by rw [hq, release_withMemory]⟩
  · simp
  · exact release_onMeasurement lo hi x h.onMeasurement

end Memory

theorem arm_compute_of_due {p : PID} {lo lo' : ℚ} {now : UInt64} (hp : p.inAuto = false)
    (hm : p.OnMeasurement) (hlimits : p.Limits lo' 75) (hlo' : lo' < 75) (hlo : lo < 75)
    (hd : p.due now = true) (input setpoint : ℚ) :
    (p.arm lo 75 input).compute input setpoint now =
      { p with
        inAuto := true
        outMin := lo
        outMax := 75
        outputSum := clamp lo 75 (clamp (max lo lo') 75 p.myOutput + p.ki * (setpoint - input))
        myOutput := clamp lo 75 (clamp (max lo lo') 75 p.myOutput + p.ki * (setpoint - input))
        lastInput := input
        lastTime := now } := by
  have hdue : (p.arm lo 75 input).due now = true := by
    rw [arm_of_manual input hp hlo, ← hd]
    rfl
  obtain ⟨hmin, hmax⟩ := hlimits
  rw [compute, if_neg (by simp), if_pos hdue, arm_of_manual input hp hlo]
  simp only [accumulate, hm.2, hmin, hmax, clamp_clamp hlo.le hlo'.le, sub_self, mul_zero,
    sub_zero, zero_add, Bool.not_false, Bool.false_eq_true, if_true, if_false,
    clamp_of_mem (clamp_mem hlo.le _)]

theorem arm_compute_of_not_due {p : PID} {lo : ℚ} {now : UInt64} (hp : p.inAuto = false)
    (hlo : lo < 75) (hd : p.due now = false) (input setpoint : ℚ) :
    (p.arm lo 75 input).compute input setpoint now = p.arm lo 75 input := by
  apply compute_of_not_due
  rw [arm_of_manual input hp hlo, ← hd]
  rfl

/-- The leftover outputs make no difference to the controllers that take over:
none are left, or the limits make them equal, or the integral step takes both
onto one limit. -/
def Forgets (p q : PID) (lo input setpoint : ℚ) (now : UInt64) : Prop :=
  let start := clamp (max lo p.outMin) 75 p.myOutput
  let start' := clamp (max lo p.outMin) 75 q.myOutput
  let integral := p.ki * (setpoint - input)
  p.inAuto = true ∨
    if p.due now then
      start = start' ∨ (75 ≤ start + integral ∧ 75 ≤ start' + integral) ∨
        (start + integral ≤ lo ∧ start' + integral ≤ lo)
    else clamp lo 75 p.myOutput = clamp lo 75 q.myOutput

section TakingOver
variable {p q : PID} {lo lo' : ℚ} {now : UInt64}

theorem forgets_of_output_eq (h : Alike p q) (hlimits : p.Limits lo' 75) (hlo' : lo' < 75)
    (hlo : lo < 75) {input setpoint : ℚ}
    (heq : ((p.arm lo 75 input).compute input setpoint now).myOutput =
      ((q.arm lo 75 input).compute input setpoint now).myOutput) :
    p.Forgets q lo input setpoint now := by
  cases hp : p.inAuto with
  | true => exact Or.inl hp
  | false =>
    obtain ⟨output, sum, last, rfl⟩ := h.memory
    have hq : (p.withMemory output sum last).inAuto = false := hp
    refine Or.inr ?_
    cases hd : p.due now with
    | true =>
      have hd' : (p.withMemory output sum last).due now = true := hd
      rw [arm_compute_of_due hp h.onMeasurement hlimits hlo' hlo hd,
        arm_compute_of_due hq h.onMeasurement hlimits hlo' hlo hd', clamp_eq_clamp_iff hlo] at heq
      rw [if_pos rfl, hlimits.1]
      exact heq.imp_left add_right_cancel
    | false =>
      have hd' : (p.withMemory output sum last).due now = false := hd
      rw [arm_compute_of_not_due hp hlo hd, arm_compute_of_not_due hq hlo hd',
        arm_of_manual input hp hlo, arm_of_manual input hq hlo] at heq
      rw [if_neg Bool.false_ne_true]
      exact heq

theorem eq_of_forgets (h : Alike p q) (hlimits : p.Limits lo' 75) (hlo' : lo' < 75)
    (hlo : lo < 75) {input setpoint : ℚ} (hf : p.Forgets q lo input setpoint now) :
    (p.arm lo 75 input).compute input setpoint now =
      (q.arm lo 75 input).compute input setpoint now := by
  cases hp : p.inAuto with
  | true => rw [h.auto hp]
  | false =>
    obtain ⟨output, sum, last, rfl⟩ := h.memory
    have hq : (p.withMemory output sum last).inAuto = false := hp
    have hleft := hf.resolve_left (by simp [hp])
    cases hd : p.due now with
    | true =>
      have hd' : (p.withMemory output sum last).due now = true := hd
      rw [hd, if_pos rfl, hlimits.1, ← add_left_inj (p.ki * (setpoint - input)),
        ← clamp_eq_clamp_iff hlo] at hleft
      rw [arm_compute_of_due hp h.onMeasurement hlimits hlo' hlo hd,
        arm_compute_of_due hq h.onMeasurement hlimits hlo' hlo hd', hleft]
      rfl
    | false =>
      have hd' : (p.withMemory output sum last).due now = false := hd
      rw [hd, if_neg Bool.false_ne_true] at hleft
      have hsum : clamp lo 75 (clamp lo' 75 p.myOutput) = clamp lo 75 (clamp lo' 75 output) := by
        rw [clamp_clamp_comm hlo.le hlo'.le, hleft, clamp_clamp_comm hlo'.le hlo.le]
        rfl
      rw [arm_compute_of_not_due hp hlo hd, arm_compute_of_not_due hq hlo hd',
        arm_of_manual input hp hlo, arm_of_manual input hq hlo, hleft, hlimits.1, hlimits.2, hsum]
      simp only [withMemory, hlimits.1, hlimits.2]

end TakingOver
end PID

namespace CryoControlSM

def forget (m : CryoControlSM) : CryoControlSM :=
  { m with absPID := default, ratePID := default, lastCCTime := 0, lastLSHTime := 0, nowTime := 0 }

structure Twins (m n : CryoControlSM) : Prop where
  rest : m.forget = n.forget
  controllers : ∀ d, (m.controller d).Alike (n.controller d)

theorem construct_twins (mem mem' : CryoControlSM) (absTime rateTime : UInt64) :
    Twins (construct mem absTime rateTime) (construct mem' absTime rateTime) := by
  constructor
  · rfl
  · intro d
    cases d <;> exact PID.construct_alike _ _ _

def settings (m : CryoControlSM) : CryoControlSM :=
  { m.forget with thisRunPIDValue := 0, thisRunHeaterPower := 0, thisRunCCPower := 0 }

theorem smEngine_settings {m : CryoControlSM} (h : Interlock m) (s : Sweep) :
    (m.smEngine s).settings =
      (enter (m.forget.nextState s).actuation (m.forget.settle s)).settings := by
  have hstate : m.forget.nextState s = m.nextState s := rfl
  rw [smEngine_keeps settings h s]
  simp only [settle, prepare_eq, hstate, enter, settings]
  rfl

section Twins
variable {m n : CryoControlSM} {s : Sweep}

theorem Twins.settings_eq (h : Twins m n) (hm : Interlock m) (hn : Interlock n) (s : Sweep) :
    (m.smEngine s).settings = (n.smEngine s).settings := by
  rw [smEngine_settings hm, smEngine_settings hn, h.rest]

theorem Twins.nextState_eq (h : Twins m n) (s : Sweep) : n.nextState s = m.nextState s :=
  congrArg (fun m => m.nextState s) h.rest.symm

theorem Twins.input_eq (h : Twins m n) (packet : DataPacket) (d : Driver) :
    n.input packet d = m.input packet d := by
  have hinput := congrArg (fun m : CryoControlSM => m.input packet d) h.rest.symm
  cases d <;> exact hinput

theorem Twins.tuned (h : Twins m n) (packet : DataPacket) (d : Driver) :
    (m.tuned packet d).Alike (n.tuned packet d) := by
  cases d with
  | ratePID => exact (h.controllers .ratePID).retune _ _ _
  | _ => exact (h.controllers .absPID).retune _ _ _

theorem Twins.setpoint_eq (h : Twins m n) (s : Sweep) (d : Driver) :
    n.setpoint s d = m.setpoint s d := by
  have hsetpoint := congrArg (fun m : CryoControlSM => m.setpoint s d) h.rest.symm
  cases d <;> exact hsetpoint

end Twins

structure SameOutputs (m n : CryoControlSM) : Prop where
  state : m.currentFSMState = n.currentFSMState
  shouldBe : m.shouldBeFSMState = n.shouldBeFSMState
  value : m.thisRunPIDValue = n.thisRunPIDValue
  heater : m.thisRunHeaterPower = n.thisRunHeaterPower
  cc : m.thisRunCCPower = n.thisRunCCPower

def MemoryForgotten (m n : CryoControlSM) (s : Sweep) : Prop :=
  let a := (m.nextState s).actuation
  a.driver ≠ .none →
    (m.tuned s.packet a.driver).Forgets (n.tuned s.packet a.driver) a.lower
      (m.input s.packet a.driver) (m.setpoint s a.driver) s.computeTime

section Step
variable {m n : CryoControlSM} {s : Sweep}

theorem Twins.smEngine_eq {α : Type} (f : CryoControlSM → α) (h : Twins m n)
    (hm : Interlock m) (hn : Interlock n) (s : Sweep)
    (hf : ∀ m : CryoControlSM, f m.settings = f m := by intros; rfl) :
    f (m.smEngine s) = f (n.smEngine s) := by
  rw [← hf, h.settings_eq hm hn s, hf]

theorem Twins.sameOutputs (h : Twins m n) (hm : Interlock m) (hn : Interlock n)
    (hvalue : (m.smEngine s).thisRunPIDValue = (n.smEngine s).thisRunPIDValue) :
    SameOutputs (m.smEngine s) (n.smEngine s) := by
  have htrip := h.smEngine_eq tripped hm hn s
  constructor
  · exact h.smEngine_eq currentFSMState hm hn s
  · exact h.smEngine_eq shouldBeFSMState hm hn s
  · exact hvalue
  · rw [(smEngine_powered hm s).heater, (smEngine_powered hn s).heater, hvalue]
    simp only [htrip]
  · rw [(smEngine_powered hm s).cc, (smEngine_powered hn s).cc, hvalue]
    simp only [htrip]

theorem Twins.value_of_undriven (h : Twins m n) (hm : Interlock m) (hn : Interlock n)
    (hd : (m.nextState s).actuation.driver = .none) :
    (m.smEngine s).thisRunPIDValue = (n.smEngine s).thisRunPIDValue := by
  have hd' : (n.nextState s).actuation.driver = .none := by rw [h.nextState_eq, hd]
  rw [(smEngine_powered hm s).undriven (by rw [smEngine_currentFSMState hm, hd]),
    (smEngine_powered hn s).undriven (by rw [smEngine_currentFSMState hn, hd'])]

theorem Twins.smEngine_controller (h : Twins m n) (hn : Interlock n)
    (hd : (m.nextState s).actuation.driver ≠ .none) :
    (n.smEngine s).controller (m.nextState s).actuation.driver =
      ((n.tuned s.packet (m.nextState s).actuation.driver).arm (m.nextState s).actuation.lower 75
        (m.input s.packet (m.nextState s).actuation.driver)).compute
          (m.input s.packet (m.nextState s).actuation.driver)
          (m.setpoint s (m.nextState s).actuation.driver) s.computeTime := by
  rw [smEngine_controller_driving hn hd (by rw [h.nextState_eq]), h.nextState_eq, h.input_eq,
    h.setpoint_eq]

theorem Twins.controller_eq (h : Twins m n) (hm : Interlock m) (hn : Interlock n)
    (hd : (m.nextState s).actuation.driver ≠ .none) (hf : MemoryForgotten m n s) :
    (m.smEngine s).controller (m.nextState s).actuation.driver =
      (n.smEngine s).controller (m.nextState s).actuation.driver := by
  rw [smEngine_controller_driving hm hd rfl, h.smEngine_controller hn hd]
  exact PID.eq_of_forgets (h.tuned _ _) (tuned_limits hm _ _) (Actuation.lower_lt _)
    (Actuation.lower_lt _) (hf hd)

theorem Twins.value_eq_iff (h : Twins m n) (hm : Interlock m) (hn : Interlock n) :
    (m.smEngine s).thisRunPIDValue = (n.smEngine s).thisRunPIDValue ↔ MemoryForgotten m n s := by
  by_cases hd : (m.nextState s).actuation.driver = .none
  · exact iff_of_true (h.value_of_undriven hm hn hd) fun hne => absurd hd hne
  · have hd' : (n.nextState s).actuation.driver = (m.nextState s).actuation.driver := by
      rw [h.nextState_eq]
    rw [smEngine_value hm hd rfl, smEngine_value hn hd hd']
    constructor
    · intro heq _
      rw [smEngine_controller_driving hm hd rfl, h.smEngine_controller hn hd] at heq
      exact PID.forgets_of_output_eq (h.tuned _ _) (tuned_limits hm _ _) (Actuation.lower_lt _)
        (Actuation.lower_lt _) heq
    · intro hf
      rw [h.controller_eq hm hn hd hf]

theorem Twins.step (h : Twins m n) (hm : Interlock m) (hn : Interlock n)
    (hf : MemoryForgotten m n s) : Twins (m.smEngine s) (n.smEngine s) := by
  have hout := h.sameOutputs hm hn ((h.value_eq_iff hm hn).mpr hf)
  have hcontrollers (d : Driver) (hd : d ≠ .none) :
      ((m.smEngine s).controller d).Alike ((n.smEngine s).controller d) := by
    by_cases hdriver : (m.nextState s).actuation.driver = d
    · subst hdriver
      rw [← h.controller_eq hm hn hd hf, smEngine_controller_driving hm hd rfl]
      refine ⟨⟨_, _, _, rfl⟩, fun _ => rfl, ?_⟩
      exact PID.compute_onMeasurement _ (PID.arm_onMeasurement _ _ _ (h.tuned _ _).onMeasurement) _ _
    · rw [smEngine_controller_standing hm hd hdriver,
        smEngine_controller_standing hn hd (by rwa [h.nextState_eq]), h.nextState_eq, h.input_eq]
      exact (h.tuned _ _).release _ _ _
  constructor
  · have hforget (m : CryoControlSM) : m.forget =
        { m.settings with
          thisRunPIDValue := m.thisRunPIDValue
          thisRunHeaterPower := m.thisRunHeaterPower
          thisRunCCPower := m.thisRunCCPower } := rfl
    rw [hforget, hforget (n.smEngine s), h.settings_eq hm hn, hout.value, hout.heater, hout.cc]
  · intro d
    cases d with
    | none => exact hcontrollers .absPID (by decide)
    | absPID => exact hcontrollers .absPID (by decide)
    | ratePID => exact hcontrollers .ratePID (by decide)

end Step

def smEngineBoth (p : CryoControlSM × CryoControlSM) (s : Sweep) : CryoControlSM × CryoControlSM :=
  (p.1.smEngine s, p.2.smEngine s)

/-- The two machines write the same in a sweep and end it with the same outputs. -/
def SameBehaviour (p : CryoControlSM × CryoControlSM) (s : Sweep) : Prop :=
  p.1.statements s.packet = p.2.statements s.packet ∧
    SameOutputs (p.1.smEngine s) (p.2.smEngine s)

structure Paired (p : CryoControlSM × CryoControlSM) : Prop where
  first : Interlock p.1
  second : Interlock p.2
  twins : Twins p.1 p.2

theorem sameBehaviour_iff (p : CryoControlSM × CryoControlSM) (s : Sweep) (h : Paired p) :
    SameBehaviour p s ↔ MemoryForgotten p.1 p.2 s := by
  rw [← h.twins.value_eq_iff h.first h.second]
  constructor
  · exact fun hsame => hsame.2.value
  · intro hvalue
    have hwrites := congrArg (fun m : CryoControlSM => m.statements s.packet) h.twins.rest
    exact ⟨hwrites, h.twins.sameOutputs h.first h.second hvalue⟩

theorem smEngineBoth_paired (p : CryoControlSM × CryoControlSM) (s : Sweep) (h : Paired p)
    (hsame : SameBehaviour p s) : Paired (smEngineBoth p s) where
  first := smEngine_interlock p.1 s h.first
  second := smEngine_interlock p.2 s h.second
  twins := h.twins.step h.first h.second ((sameBehaviour_iff p s h).mp hsame)

theorem sweeps_independent_iff (mem mem' : CryoControlSM) (absTime rateTime : UInt64)
    (ss : List Sweep) :
    Transition.Along smEngineBoth SameBehaviour
        (construct mem absTime rateTime, construct mem' absTime rateTime) ss ↔
      Transition.Along smEngineBoth (fun p s => MemoryForgotten p.1 p.2 s)
        (construct mem absTime rateTime, construct mem' absTime rateTime) ss :=
  Transition.along_congr_of_kept smEngineBoth_paired sameBehaviour_iff
    ⟨construct_interlock mem absTime rateTime, construct_interlock mem' absTime rateTime,
      construct_twins mem mem' absTime rateTime⟩ ss

/-- At its set point of 250 K the machine heats with what the memory held. -/
theorem not_sweeps_independent :
    ¬ ∀ (mem mem' : CryoControlSM) (absTime rateTime : UInt64) (ss : List Sweep),
      Transition.Along smEngineBoth SameBehaviour
        (construct mem absTime rateTime, construct mem' absTime rateTime) ss := by
  intro h
  let mem : CryoControlSM := default
  let mem' : CryoControlSM := { mem with absPID := { mem.absPID with myOutput := 50 } }
  obtain ⟨⟨-, hsame⟩, -⟩ := h mem mem' 0 0 [sampleSweep 250 250 0 0]
  have hvalue := hsame.value
  revert hvalue
  decide +kernel

end CryoControlSM
end CryoController
