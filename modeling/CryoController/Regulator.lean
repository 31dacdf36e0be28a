import CryoController.Accumulator
import CryoController.Gains
import CryoController.TemperatureRanges
import CryoController.UnsetMemory

/-!
# The state machine as a regulator

A regulator has a state, the last temperature and its rate, two averages for the trip, and
two loops of which the state lets at most one drive. It has no modes, no limits, no
directions, no guards and no second copy of the gains or of the state: these members of
the machine are functions of what is left. So the machine refines the regulator, and all
that it writes to the database is what the regulator commands.
-/

open Saturation
namespace CryoController

structure Reading where
  stale : Bool
  target : ℚ
  temperature : ℚ
  lshTemperature : ℚ
  absGains : Gains
  rateGains : Gains
  now : UInt64
  deriving DecidableEq, Repr, Inhabited

def Sweep.reading (s : Sweep) : Reading where
  stale := decide s.Stale
  target := s.packet.tTemp
  temperature := s.packet.curTemp
  lshTemperature := s.packet.curTempLSH
  absGains := s.packet.absGains
  rateGains := s.packet.rateGains
  now := s.computeTime

structure Loop where
  gains : Gains
  drive : ℚ
  sum : ℚ
  lastInput : ℚ
  lastTime : UInt64
  deriving DecidableEq, Repr, Inhabited

namespace Loop

def tune (l : Loop) (g : Gains) : Loop := { l with gains := Latch.hold Gains.offer l.gains g }

/-- Taking over, the loop starts from its own last drive. -/
def takeOver (lower input : ℚ) (l : Loop) : Loop :=
  { l with sum := clamp lower 75 l.drive, lastInput := input }

def confine (lower : ℚ) (l : Loop) : Loop :=
  { l with sum := clamp lower 75 l.sum, drive := clamp lower 75 l.drive }

def advance (lower input setpoint : ℚ) (now : UInt64) (l : Loop) : Loop :=
  if 1 ≤ now - l.lastTime then
    let change := input - l.lastInput
    let sum := saturate lower 75 l.sum (l.gains.ki * (setpoint - input) - l.gains.kp * change)
    { l with
      sum := sum
      drive := saturate lower 75 sum (-(l.gains.kd * change))
      lastInput := input
      lastTime := now }
  else l

def sweep (d : Driver) (old new : Actuation) (g : Gains) (input setpoint : ℚ) (now : UInt64)
    (l : Loop) : Loop :=
  let l := l.tune g
  if new.driver = d then
    let l := if old.driver = d then l else l.takeOver old.lower input
    (l.confine new.lower).advance new.lower input setpoint now
  else l

theorem sweep_congr {d : Driver} {old new : Actuation} {g : Gains} {input setpoint setpoint' : ℚ}
    {now : UInt64} {l : Loop} (h : new.driver = d → setpoint = setpoint') :
    l.sweep d old new g input setpoint now = l.sweep d old new g input setpoint' now := by
  by_cases hdriver : new.driver = d
  · rw [h hdriver]
  · simp only [sweep, if_neg hdriver]

end Loop

structure Regulator where
  state : FSMStates
  temperature : ℚ
  rate : ℚ
  ccRTD : ℚ
  lshRTD : ℚ
  absLoop : Loop
  rateLoop : Loop
  deriving DecidableEq, Repr, Inhabited

namespace Regulator

def nextState (r : Regulator) (x : Reading) : FSMStates :=
  if x.stale then .fault else Latch.hold (CryoControlSM.named x.target) r.state x.temperature

def nextRate (r : Regulator) (x : Reading) : ℚ :=
  if r.temperature ≠ 0 then
    r.rate + (x.temperature - r.temperature - r.rate) / rateMovingAvgN
  else r.rate

def step (r : Regulator) (x : Reading) : Regulator :=
  let old := r.state.actuation
  let new := (r.nextState x).actuation
  { state := r.nextState x
    temperature := x.temperature
    rate := r.nextRate x
    ccRTD := averageRTD r.ccRTD x.temperature
    lshRTD := averageRTD r.lshRTD x.lshTemperature
    absLoop := r.absLoop.sweep .absPID old new x.absGains x.temperature x.target x.now
    rateLoop := r.rateLoop.sweep .ratePID old new x.rateGains (r.nextRate x)
      (new.rateTarget.getD 0) x.now }

def drive (r : Regulator) : ℚ :=
  match r.state.actuation.driver with
  | .none => 0
  | .absPID => r.absLoop.drive
  | .ratePID => r.rateLoop.drive

def Tripped (r : Regulator) : Prop := r.ccRTD > 320 ∨ r.lshRTD > 320

instance (r : Regulator) : Decidable r.Tripped :=
  inferInstanceAs (Decidable (r.ccRTD > 320 ∨ r.lshRTD > 320))

def heating (r : Regulator) : ℚ := if r.Tripped then 0 else max r.drive 0

def cooling (r : Regulator) : ℚ := if r.Tripped then 0 else max (-r.drive) 0

def commands (r : Regulator) (d : DataPacket) : List Statement :=
  let a := r.state.actuation
  [.insertSMState r.drive r.state r.state, .setHeaterPW r.heating, .setCCPower (r.cooling + d.pMin)] ++
  (if d.ccPowerStateLast ≠ a.coolerOn then [.setCCPowerState a.coolerOn] else []) ++
  (if d.srsPowerState ≠ a.srsOn then [.setSRSPowerState a.srsOn] else [])

end Regulator

namespace PID

def loop (p : PID) : Loop := ⟨p.displayed, p.myOutput, p.outputSum, p.lastInput, p.lastTime⟩

section Plain
variable {p : PID} {lo lo' : ℚ}

theorem retune_loop (h : p.Plain) (g : Gains) :
    (p.retune g.kp g.ki g.kd).loop = p.loop.tune g := by
  have hshown := (tuned_iff.mp (retune_tuned h.tuned g)).1
  have hkept : ((p.retune g.kp g.ki g.kd).myOutput, (p.retune g.kp g.ki g.kd).outputSum,
      (p.retune g.kp g.ki g.kd).lastInput, (p.retune g.kp g.ki g.kd).lastTime) =
      (p.myOutput, p.outputSum, p.lastInput, p.lastTime) := by
    simp only [retune, setTunings, setTuningsOn]
    split_ifs <;> rfl
  simp only [Prod.mk.injEq] at hkept
  rw [loop, hshown, hkept.1, hkept.2.1, hkept.2.2.1, hkept.2.2.2]
  rfl

theorem release_loop (lo hi input : ℚ) : (p.release lo hi input).loop = p.loop := by
  simp only [release, setMode, reduceCtorEq, decide_false, Bool.false_and, Bool.false_eq_true,
    if_false, setOutputLimits]
  split_ifs <;> rfl

theorem arm_loop (hlimits : p.Limits lo' 75) (hlo : lo < 75) (input : ℚ) :
    (p.arm lo 75 input).loop =
      (if p.inAuto then p.loop else p.loop.takeOver lo' input).confine lo := by
  cases hauto : p.inAuto with
  | false =>
    rw [arm_of_manual input hauto hlo, hlimits.1, hlimits.2]
    rfl
  | true =>
    rw [arm, setMode_automatic_of_inAuto hauto]
    simp only [setOutputLimits, if_neg (not_le.mpr hlo), hauto, if_true]
    rfl

theorem compute_loop (h : p.Plain) (hauto : p.inAuto = true) (hlimits : p.Limits lo 75)
    (input setpoint : ℚ) (now : UInt64) :
    (p.compute input setpoint now).loop = p.loop.advance lo input setpoint now := by
  obtain ⟨-, hworks, -, hsample⟩ := tuned_iff.mp h.tuned
  have hdue : p.due now = decide (1 ≤ now - p.lastTime) := by rw [due, hsample]
  simp only [working, displayed, Gains.mk.injEq] at hworks
  obtain ⟨hkp, hki, hkd⟩ := hworks
  by_cases hgate : 1 ≤ now - p.lastTime
  · have hshift : p.shift input setpoint =
        p.dispKi * (setpoint - input) - p.dispKp * (input - p.lastInput) := by
      rw [shift, h.onMeasurement.2, hki, hkp]
      rfl
    have hfeed : p.feed input setpoint = -(p.dispKd * (input - p.lastInput)) := by
      rw [feed, h.onMeasurement.2, hkd]
      exact zero_sub _
    rw [compute_of_due hauto (hdue.trans (decide_eq_true hgate)), hshift, hfeed, hlimits.1,
      hlimits.2, Loop.advance, if_pos (by exact hgate)]
    rfl
  · rw [compute_of_not_due (hdue.trans (decide_eq_false hgate)), Loop.advance,
      if_neg (by exact hgate)]

end Plain
end PID

namespace CryoControlSM

def regulator (m : CryoControlSM) : Regulator where
  state := m.currentFSMState
  temperature := m.currentTemperature
  rate := m.tempratureRateMovingAvg
  ccRTD := m.movingAvgCCRTD
  lshRTD := m.movingAvgLSHRTD
  absLoop := m.absPID.loop
  rateLoop := m.ratePID.loop

structure Regulated (m : CryoControlSM) : Prop where
  interlock : Interlock m
  powered : Powered m
  abs : m.absPID.Plain
  rate : m.ratePID.Plain
  value : m.thisRunPIDValue = m.regulator.drive

section Controller
variable {m : CryoControlSM} {s : Sweep} {d : Driver}

theorem InForce.controller_mode {a : Actuation} (h : InForce a m) (hd : d ≠ .none) :
    (m.controller d).inAuto = true ↔ a.driver = d := by
  cases d with
  | none => exact absurd rfl hd
  | absPID => exact h.absMode
  | ratePID => exact h.rateMode

theorem smEngine_controller_loop (h : Interlock m) (hd : d ≠ .none)
    (hplain : (m.controller d).Plain) :
    ((m.smEngine s).controller d).loop =
      (m.controller d).loop.sweep d m.currentFSMState.actuation (m.nextState s).actuation
        (offered s.packet d) (m.input s.packet d) (m.setpoint s d) s.computeTime := by
  have htuned : (m.tuned s.packet d).Plain := by
    rw [tuned_eq]
    exact PID.retune_plain hplain _
  have hloop : (m.tuned s.packet d).loop = (m.controller d).loop.tune (offered s.packet d) := by
    rw [tuned_eq]
    exact PID.retune_loop hplain _
  have hauto : (m.tuned s.packet d).inAuto = true ↔ m.currentFSMState.actuation.driver = d := by
    rw [tuned_eq, PID.retune_inAuto]
    exact h.inForce.controller_mode hd
  rw [Loop.sweep]
  by_cases hdriver : (m.nextState s).actuation.driver = d
  · have hlt := (m.nextState s).actuation.lower_lt
    have harmed := htuned.of_tuning (PID.arm_tuning _ _ _ _)
      (PID.arm_onMeasurement (m.nextState s).actuation.lower 75 (m.input s.packet d)
        htuned.onMeasurement)
    rw [smEngine_controller_driving h hd hdriver, if_pos hdriver,
      PID.compute_loop harmed (PID.arm_inAuto _ _) (PID.arm_limits _ _ hlt),
      PID.arm_loop (tuned_limits h s.packet d) hlt, hloop]
    simp only [hauto]
  · rw [smEngine_controller_standing h hd hdriver, if_neg hdriver, PID.release_loop, hloop]

end Controller

section Refinement
variable {m : CryoControlSM}

theorem nextState_regulator (h : Interlock m) (s : Sweep) :
    m.nextState s = m.regulator.nextState s.reading := by
  by_cases hstale : s.Stale
  · have hread : s.reading.stale = true := decide_eq_true hstale
    rw [nextState, if_pos hstale, Regulator.nextState, hread, if_pos rfl]
  · have hread : s.reading.stale = false := decide_eq_false hstale
    rw [nextState_eq_hold h hstale, Regulator.nextState, hread, if_neg Bool.false_ne_true]
    rfl

theorem nextRate_regulator (m : CryoControlSM) (s : Sweep) :
    m.nextRate s.packet = m.regulator.nextRate s.reading := by
  have hchange (rate x y n : ℚ) : rate + ((x - y) / n - rate / n) = rate + (x - y - rate) / n := by
    ring
  rw [nextRate, hchange]
  rfl

theorem rateTarget_of_driver (st : FSMStates) (h : st.actuation.driver = .ratePID) (r : ℚ) :
    st.actuation.rateTarget.getD r = st.actuation.rateTarget.getD 0 := by
  cases st with
  | warmup => rfl
  | coolDownHot => rfl
  | coolDownCold => rfl
  | _ => cases h

theorem smEngine_regulator (h : Regulated m) (s : Sweep) :
    (m.smEngine s).regulator = m.regulator.step s.reading := by
  have hi := h.interlock
  have hstate := nextState_regulator hi s
  have hrate := m.nextRate_regulator s
  obtain ⟨hcc, hlsh⟩ := smEngine_averages hi s
  have habs : (m.smEngine s).absPID.loop = _ :=
    smEngine_controller_loop (d := .absPID) hi (by decide) h.abs
  have hrateLoop : (m.smEngine s).ratePID.loop = _ :=
    smEngine_controller_loop (d := .ratePID) hi (by decide) h.rate
  have hsetpoint : (m.controller .ratePID).loop.sweep .ratePID m.currentFSMState.actuation
      (m.nextState s).actuation (offered s.packet .ratePID) (m.input s.packet .ratePID)
        (m.setpoint s .ratePID) s.computeTime =
      m.ratePID.loop.sweep .ratePID m.currentFSMState.actuation (m.nextState s).actuation
        s.packet.rateGains (m.nextRate s.packet)
          ((m.nextState s).actuation.rateTarget.getD 0) s.computeTime := by
    exact Loop.sweep_congr fun hdriver => rateTarget_of_driver _ hdriver _
  rw [regulator, smEngine_currentFSMState hi, smEngine_currentTemperature hi, smEngine_rate hi, hcc,
    hlsh, habs, hrateLoop, hsetpoint, Regulator.step, ← hstate, ← hrate]
  rfl

theorem smEngine_regulated (m : CryoControlSM) (s : Sweep) (h : Regulated m) :
    Regulated (m.smEngine s) := by
  have hi := smEngine_interlock m s h.interlock
  have hpowered := smEngine_powered h.interlock s
  have hstate := smEngine_currentFSMState h.interlock s
  refine ⟨hi, hpowered, smEngine_controller_plain (d := .absPID) h.interlock (by decide) h.abs,
    smEngine_controller_plain (d := .ratePID) h.interlock (by decide) h.rate, ?_⟩
  have hvalue (d : Driver) (hd : d ≠ .none)
      (hdriver : (m.smEngine s).currentFSMState.actuation.driver = d) :=
    smEngine_value h.interlock hd (hstate ▸ hdriver)
  rw [Regulator.drive]
  cases hdriver : (m.smEngine s).currentFSMState.actuation.driver with
  | none => simp only [regulator, hdriver, hpowered.undriven hdriver]
  | absPID => simp only [regulator, hdriver, hvalue .absPID (by decide) hdriver]; rfl
  | ratePID => simp only [regulator, hdriver, hvalue .ratePID (by decide) hdriver]; rfl

theorem statements_regulator (h : Regulated m) (d : DataPacket) :
    m.statements d = m.regulator.commands d := by
  rw [statements, Regulator.commands, ← h.interlock.settled, h.interlock.inForce.cooler,
    h.interlock.inForce.srs, h.powered.heater, h.powered.cc, h.value]
  rfl

end Refinement

end CryoControlSM

def Loop.start (mem : PID) (time : UInt64) : Loop :=
  ⟨⟨2, 5, 1⟩, mem.myOutput, mem.outputSum, mem.lastInput, time - 1⟩

def Regulator.start (mem : CryoControlSM) (absTime rateTime : UInt64) : Regulator where
  state := .idle
  temperature := 0
  rate := 0
  ccRTD := 0
  lshRTD := 0
  absLoop := Loop.start mem.absPID absTime
  rateLoop := Loop.start mem.ratePID rateTime

theorem PID.construct_loop (mem : PID) (time : UInt64) :
    ((mem.construct 2 5 1 .pOnM .direct time).setOutputLimits 0 75).loop = Loop.start mem time := by
  rw [construct_eq]
  rfl

namespace CryoControlSM

theorem construct_regulator (mem : CryoControlSM) (absTime rateTime : UInt64) :
    (construct mem absTime rateTime).regulator = Regulator.start mem absTime rateTime := by
  have habs := PID.construct_loop mem.absPID absTime
  have hrate := PID.construct_loop mem.ratePID rateTime
  rw [Regulator.start, ← habs, ← hrate]
  rfl

theorem construct_regulated (mem : CryoControlSM) (absTime rateTime : UInt64) :
    Regulated (construct mem absTime rateTime) where
  interlock := construct_interlock mem absTime rateTime
  powered := construct_powered mem absTime rateTime
  abs := PID.construct_plain mem.absPID absTime
  rate := PID.construct_plain mem.ratePID rateTime
  value := rfl

/-- In every run from the constructor, on any memory, the statements that the machine has
for the database are those of the regulator that reads the same. -/
theorem sweeps_refine_regulator (mem : CryoControlSM) (absTime rateTime : UInt64)
    (ss : List Sweep) (d : DataPacket) :
    (Transition.run smEngine (construct mem absTime rateTime) ss).statements d =
      (Transition.run Regulator.step (Regulator.start mem absTime rateTime)
        (ss.map Sweep.reading)).commands d := by
  have hregulated := construct_regulated mem absTime rateTime
  rw [← construct_regulator, ← Transition.run_simulates smEngine_regulated
    (fun m s h => smEngine_regulator h s) hregulated]
  exact statements_regulator (Transition.run_invariant smEngine_regulated hregulated ss) d

end CryoControlSM
end CryoController
