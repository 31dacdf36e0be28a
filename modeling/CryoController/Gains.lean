import CryoController.ControllerSweep
import CryoController.Foundations.Latch

/-!
# The gains in force

`SetTunings` takes a triple of gains whole or not at all, and `SMEngine` offers it
the triple of every packet that differs from the one displayed. A refused triple
is offered again at the next sweep, and refused again.
-/

namespace CryoController

structure Gains where
  kp : ℚ
  ki : ℚ
  kd : ℚ
  deriving DecidableEq, Repr, Inhabited

namespace Gains

def Valid (g : Gains) : Prop := 0 ≤ g.kp ∧ 0 ≤ g.ki ∧ 0 ≤ g.kd

instance (g : Gains) : Decidable g.Valid :=
  inferInstanceAs (Decidable (0 ≤ g.kp ∧ 0 ≤ g.ki ∧ 0 ≤ g.kd))

def offer : Gains → Option Gains := Option.guard fun g => decide g.Valid

def latest (standing : Gains) (offered : List Gains) : Gains :=
  (offered.filter (fun g => decide g.Valid)).getLast?.getD standing

theorem hold_offer (g g' : Gains) : Latch.hold offer g g' = if g'.Valid then g' else g := by
  rw [Latch.hold, offer, Option.guard]
  simp only [decide_eq_true_eq]
  split_ifs <;> rfl

theorem run_offer (standing : Gains) (offered : List Gains) :
    Transition.run (Latch.hold offer) standing offered = latest standing offered := by
  rw [Latch.run_hold, offer, List.filterMap_eq_filter, latest]

theorem latest_valid {standing : Gains} (h : standing.Valid) (offered : List Gains) :
    (latest standing offered).Valid := by
  rw [latest]
  cases hlast : (offered.filter (fun g => decide g.Valid)).getLast? with
  | none => exact h
  | some g => simpa using (List.mem_filter.mp (List.mem_of_getLast? hlast)).2

end Gains

def DataPacket.absGains (d : DataPacket) : Gains := ⟨d.kpA, d.kiA, d.kdA⟩

def DataPacket.rateGains (d : DataPacket) : Gains := ⟨d.kpR, d.kiR, d.kdR⟩

namespace PID

def displayed (p : PID) : Gains := ⟨p.dispKp, p.dispKi, p.dispKd⟩

def working (p : PID) : Gains := ⟨p.kp, p.ki, p.kd⟩

def tuning (p : PID) : Gains × Gains × Direction × UInt64 :=
  (p.displayed, p.working, p.controllerDirection, p.sampleTime)

def Tuned (g : Gains) (p : PID) : Prop := p.tuning = (g, g, .direct, 1)

theorem tuned_iff {g : Gains} {p : PID} :
    Tuned g p ↔
      p.displayed = g ∧ p.working = g ∧ p.controllerDirection = .direct ∧ p.sampleTime = 1 := by
  rw [Tuned, tuning, Prod.mk.injEq, Prod.mk.injEq, Prod.mk.injEq]

section Frame
variable (p : PID) (lo hi x y : ℚ)

theorem setMode_tuning (mode : Mode) : (p.setMode mode x).tuning = p.tuning := by
  simp only [setMode]
  split_ifs <;> rfl

theorem setOutputLimits_tuning : (p.setOutputLimits lo hi).tuning = p.tuning := by
  simp only [setOutputLimits]
  split_ifs <;> rfl

theorem compute_tuning (now : UInt64) : (p.compute x y now).tuning = p.tuning := by
  simp only [compute]
  split_ifs <;> rfl

theorem arm_tuning : (p.arm lo hi x).tuning = p.tuning := by
  rw [arm, setOutputLimits_tuning, setMode_tuning]

theorem arm_working : (p.arm lo hi x).working = p.working :=
  congrArg (fun t => t.2.1) (p.arm_tuning lo hi x)

theorem release_tuning : (p.release lo hi x).tuning = p.tuning := by
  rw [release, setOutputLimits_tuning, setMode_tuning]

end Frame

theorem setTuningsOn_tuned {p : PID} (hdir : p.controllerDirection = .direct)
    (htime : p.sampleTime = 1) {g : Gains} (hg : g.Valid) (pOn : ProportionalOn) :
    Tuned g (p.setTuningsOn g.kp g.ki g.kd pOn) := by
  have hvalid : ¬ (g.kp < 0 ∨ g.ki < 0 ∨ g.kd < 0) := by
    rw [not_or, not_or, not_lt, not_lt, not_lt]
    exact hg
  have hone : ((1 : UInt64).toNat : ℚ) / 1 = 1 := by decide +kernel
  simp only [setTuningsOn, if_neg hvalid, htime, hone, mul_one, div_one, hdir, reduceCtorEq,
    if_false, Tuned, tuning, displayed, working]

theorem setTuningsOn_of_not_valid (p : PID) {g : Gains} (hg : ¬ g.Valid) (pOn : ProportionalOn) :
    p.setTuningsOn g.kp g.ki g.kd pOn = p := by
  have hrefused : g.kp < 0 ∨ g.ki < 0 ∨ g.kd < 0 := by
    by_contra hnone
    rw [not_or, not_or, not_lt, not_lt, not_lt] at hnone
    exact hg hnone
  rw [setTuningsOn, if_pos hrefused]

/-- Whether the displayed gains differ or not, the controller comes out tuned to
the offered gains when these are valid, and as it was when they are not. -/
theorem retune_tuned {g : Gains} {p : PID} (h : Tuned g p) (g' : Gains) :
    Tuned (Latch.hold Gains.offer g g') (p.retune g'.kp g'.ki g'.kd) := by
  obtain ⟨hshown, -, hdir, htime⟩ := tuned_iff.mp h
  rw [retune, Gains.hold_offer]
  by_cases hsame : g'.kp ≠ p.dispKp ∨ g'.ki ≠ p.dispKi ∨ g'.kd ≠ p.dispKd
  · rw [if_pos hsame, setTunings]
    by_cases hg : g'.Valid
    · rw [if_pos hg]
      exact setTuningsOn_tuned hdir htime hg p.pOn
    · rw [if_neg hg, setTuningsOn_of_not_valid p hg]
      exact h
  · rw [if_neg hsame]
    have heq : g' = g := by
      rw [not_or, not_or, not_not, not_not, not_not] at hsame
      rw [← hshown]
      obtain ⟨kp, ki, kd⟩ := g'
      obtain ⟨rfl, rfl, rfl⟩ := hsame
      rfl
    rw [heq]
    split_ifs <;> exact h

theorem construct_tuned (mem : PID) (time : UInt64) :
    Tuned ⟨2, 5, 1⟩ ((mem.construct 2 5 1 .pOnM .direct time).setOutputLimits 0 75) := by
  rw [Tuned, setOutputLimits_tuning, construct]
  exact setTuningsOn_tuned (g := ⟨2, 5, 1⟩) rfl rfl (by decide +kernel) .pOnM

def OnMeasurement (p : PID) : Prop := p.pOn = .pOnM ∧ p.pOnE = false

section OnMeasurement
variable (lo hi x Kp Ki Kd : ℚ)

theorem retune_onMeasurement {p : PID} (h : p.OnMeasurement) :
    (p.retune Kp Ki Kd).OnMeasurement := by
  have hpOnE : decide (p.pOn = .pOnE) = false := by simp [h.1]
  simp only [retune, setTunings, setTuningsOn]
  split_ifs
  · exact h
  · exact ⟨h.1, hpOnE⟩
  · exact ⟨h.1, hpOnE⟩
  · exact h

theorem release_onMeasurement {p : PID} (h : p.OnMeasurement) :
    (p.release lo hi x).OnMeasurement := by
  simp only [release, setMode, setOutputLimits]
  split_ifs <;> exact h

theorem compute_onMeasurement {p : PID} (h : p.OnMeasurement) (setpoint : ℚ) (now : UInt64) :
    (p.compute x setpoint now).OnMeasurement := by
  simp only [compute]
  split_ifs <;> exact h

theorem arm_onMeasurement {p : PID} (h : p.OnMeasurement) :
    (p.arm lo hi x).OnMeasurement := by
  simp only [arm, setMode, setOutputLimits, pidInitialize]
  split_ifs <;> exact h

end OnMeasurement

theorem construct_eq (mem : PID) (time : UInt64) :
    (mem.construct 2 5 1 .pOnM .direct time).setOutputLimits 0 75 =
      { mem with
        dispKp := 2, dispKi := 5, dispKd := 1, kp := 2, ki := 5 * 1, kd := 1 / 1
        controllerDirection := .direct, pOn := .pOnM, pOnE := false, inAuto := false
        sampleTime := 1, lastTime := time - 1, outMin := 0, outMax := 75 } := by
  have hlimits : ¬ (75 : ℚ) ≤ 0 := by norm_num
  have hgains : ¬ ((2 : ℚ) < 0 ∨ (5 : ℚ) < 0 ∨ (1 : ℚ) < 0) := by norm_num
  simp [construct, setOutputLimits, setControllerDirection, setTuningsOn, hlimits, hgains]

structure Plain (p : PID) : Prop where
  tuned : Tuned p.displayed p
  onMeasurement : p.OnMeasurement

section Plain
variable {p : PID}

theorem Plain.of_tuning (h : p.Plain) {q : PID} (htuning : q.tuning = p.tuning)
    (hm : q.OnMeasurement) : q.Plain := by
  have hshown : q.displayed = p.displayed := congrArg Prod.fst htuning
  exact ⟨hshown ▸ htuning.trans h.tuned, hm⟩

theorem retune_plain (h : p.Plain) (g : Gains) : (p.retune g.kp g.ki g.kd).Plain := by
  have htuned := retune_tuned h.tuned g
  have hshown := (tuned_iff.mp htuned).1
  exact ⟨hshown.symm ▸ htuned, retune_onMeasurement _ _ _ h.onMeasurement⟩

end Plain

theorem construct_plain (mem : PID) (time : UInt64) :
    ((mem.construct 2 5 1 .pOnM .direct time).setOutputLimits 0 75).Plain := by
  have htuned := construct_tuned mem time
  have hshown := (tuned_iff.mp htuned).1
  exact ⟨hshown.symm ▸ htuned, by rw [construct_eq]; exact ⟨rfl, rfl⟩⟩

end PID

namespace CryoControlSM

structure InTune (gA gR : Gains) (m : CryoControlSM) : Prop where
  abs : m.absPID.Tuned gA
  rate : m.ratePID.Tuned gR

theorem smEngine_controller_tuning {m : CryoControlSM} (h : Interlock m) (s : Sweep) {d : Driver}
    (hd : d ≠ .none) : ((m.smEngine s).controller d).tuning = (m.tuned s.packet d).tuning := by
  by_cases hdriver : (m.nextState s).actuation.driver = d
  · rw [smEngine_controller_driving h hd hdriver, PID.compute_tuning, PID.arm_tuning]
  · rw [smEngine_controller_standing h hd hdriver, PID.release_tuning]

theorem smEngine_inTune {gA gR : Gains} {m : CryoControlSM} (h : Interlock m)
    (hg : InTune gA gR m) (s : Sweep) :
    InTune (Latch.hold Gains.offer gA s.packet.absGains)
      (Latch.hold Gains.offer gR s.packet.rateGains) (m.smEngine s) := by
  constructor
  · have htuned := PID.retune_tuned hg.abs s.packet.absGains
    exact (smEngine_controller_tuning h s (d := .absPID) (by decide)).trans htuned
  · have htuned := PID.retune_tuned hg.rate s.packet.rateGains
    exact (smEngine_controller_tuning h s (d := .ratePID) (by decide)).trans htuned

theorem run_inTune {gA gR : Gains} {m : CryoControlSM} (h : Interlock m) (hg : InTune gA gR m)
    (ss : List Sweep) :
    InTune (Gains.latest gA (ss.map fun s => s.packet.absGains))
      (Gains.latest gR (ss.map fun s => s.packet.rateGains)) (Transition.run smEngine m ss) := by
  rw [← Gains.run_offer, ← Gains.run_offer]
  induction ss generalizing m gA gR with
  | nil => exact hg
  | cons s ss ih => exact ih (smEngine_interlock m s h) (smEngine_inTune h hg s)

structure Plain (m : CryoControlSM) : Prop where
  interlock : Interlock m
  abs : m.absPID.Plain
  rate : m.ratePID.Plain

def offered (d : DataPacket) : Driver → Gains
  | .ratePID => d.rateGains
  | _ => d.absGains

section Controller
variable {m : CryoControlSM} {s : Sweep} {d : Driver}

theorem tuned_eq (m : CryoControlSM) (packet : DataPacket) (d : Driver) :
    m.tuned packet d = (m.controller d).retune (offered packet d).kp (offered packet d).ki
      (offered packet d).kd := by
  cases d <;> rfl

theorem smEngine_controller_plain (h : Interlock m) (hd : d ≠ .none)
    (hplain : (m.controller d).Plain) : ((m.smEngine s).controller d).Plain := by
  have htuned : (m.tuned s.packet d).Plain := by
    rw [tuned_eq]
    exact PID.retune_plain hplain _
  by_cases hdriver : (m.nextState s).actuation.driver = d
  · rw [smEngine_controller_driving h hd hdriver]
    have harmed := htuned.of_tuning (PID.arm_tuning _ _ _ _)
      (PID.arm_onMeasurement (m.nextState s).actuation.lower 75 (m.input s.packet d)
        htuned.onMeasurement)
    exact harmed.of_tuning (PID.compute_tuning _ _ _ _)
      (PID.compute_onMeasurement _ harmed.onMeasurement _ _)
  · rw [smEngine_controller_standing h hd hdriver]
    exact htuned.of_tuning (PID.release_tuning _ _ _ _)
      (PID.release_onMeasurement _ _ _ htuned.onMeasurement)

end Controller

theorem smEngine_plain (m : CryoControlSM) (s : Sweep) (h : Plain m) : Plain (m.smEngine s) where
  interlock := smEngine_interlock m s h.interlock
  abs := smEngine_controller_plain (d := .absPID) h.interlock (by decide) h.abs
  rate := smEngine_controller_plain (d := .ratePID) h.interlock (by decide) h.rate

theorem construct_plain (mem : CryoControlSM) (absTime rateTime : UInt64) :
    Plain (construct mem absTime rateTime) where
  interlock := construct_interlock mem absTime rateTime
  abs := PID.construct_plain mem.absPID absTime
  rate := PID.construct_plain mem.ratePID rateTime

theorem sweeps_plain (mem : CryoControlSM) (absTime rateTime : UInt64) (ss : List Sweep) :
    Plain (Transition.run smEngine (construct mem absTime rateTime) ss) :=
  Transition.run_invariant smEngine_plain (construct_plain mem absTime rateTime) ss

/-- After any sweeps each controller shows and works with the gains of the latest
packet whose three gains for it are valid, or else with those it was built with. -/
theorem sweeps_gains_latest (mem : CryoControlSM) (absTime rateTime : UInt64)
    (ss : List Sweep) :
    let m := Transition.run smEngine (construct mem absTime rateTime) ss
    let latestA := Gains.latest ⟨2, 5, 1⟩ (ss.map fun s => s.packet.absGains)
    let latestR := Gains.latest ⟨2, 5, 1⟩ (ss.map fun s => s.packet.rateGains)
    (m.absPID.displayed = latestA ∧ m.absPID.working = latestA ∧ latestA.Valid) ∧
      m.ratePID.displayed = latestR ∧ m.ratePID.working = latestR ∧ latestR.Valid := by
  intro m latestA latestR
  have hbuilt : (⟨2, 5, 1⟩ : Gains).Valid := by decide +kernel
  have htune : InTune latestA latestR m :=
    run_inTune (construct_interlock mem absTime rateTime)
      ⟨PID.construct_tuned mem.absPID absTime, PID.construct_tuned mem.ratePID rateTime⟩ ss
  obtain ⟨hshownA, hworkA, -⟩ := PID.tuned_iff.mp htune.abs
  obtain ⟨hshownR, hworkR, -⟩ := PID.tuned_iff.mp htune.rate
  exact ⟨⟨hshownA, hworkA, Gains.latest_valid hbuilt _⟩,
    hshownR, hworkR, Gains.latest_valid hbuilt _⟩

end CryoControlSM
end CryoController
