import Mathlib.Tactic.FieldSimp
import Mathlib.Tactic.Ring
import CryoController.PID
import CryoController.Foundations.Transition

/-!
# Any sequence of calls of the PID controller

`SetTunings` computes the working gains from the displayed ones. `SetSampleTime` and
`SetControllerDirection` only adjust the working gains in place, and the second one
does so in automatic mode only. After any calls the working gains are the ones that
`SetTunings` would compute now, up to a sign: it is wrong after an odd number of turns
made in manual mode since the last tuning.
-/

open Saturation
namespace CryoController

def Direction.sign : Direction → ℚ
  | .direct => 1
  | .reverse => -1

theorem Direction.sign_eq_neg {d d' : Direction} (h : d ≠ d') : d.sign = -d'.sign := by
  cases d <;> cases d' <;> simp_all [sign]

theorem Direction.sign_ne_zero (d : Direction) : d.sign ≠ 0 := by
  cases d <;> norm_num [sign]

namespace PID

inductive Call
  | setMode (mode : Mode) (input : ℚ)
  | setOutputLimits (min max : ℚ)
  | setTunings (Kp Ki Kd : ℚ)
  | setTuningsOn (Kp Ki Kd : ℚ) (pOn : ProportionalOn)
  | setControllerDirection (direction : Direction)
  | setSampleTime (newSampleTime : Int32)
  | compute (input setpoint : ℚ) (now : UInt64)
  deriving DecidableEq, Inhabited

def call (p : PID) : Call → PID
  | .setMode mode input => p.setMode mode input
  | .setOutputLimits min max => p.setOutputLimits min max
  | .setTunings Kp Ki Kd => p.setTunings Kp Ki Kd
  | .setTuningsOn Kp Ki Kd pOn => p.setTuningsOn Kp Ki Kd pOn
  | .setControllerDirection direction => p.setControllerDirection direction
  | .setSampleTime newSampleTime => p.setSampleTime newSampleTime
  | .compute input setpoint now => p.compute input setpoint now

structure Settings where
  dispKp : ℚ
  dispKi : ℚ
  dispKd : ℚ
  kp : ℚ
  ki : ℚ
  kd : ℚ
  controllerDirection : Direction
  pOn : ProportionalOn
  pOnE : Bool
  sampleTime : UInt64
  deriving DecidableEq, Inhabited

def settings (p : PID) : Settings :=
  ⟨p.dispKp, p.dispKi, p.dispKd, p.kp, p.ki, p.kd, p.controllerDirection, p.pOn, p.pOnE,
    p.sampleTime⟩

section Keep
variable (p : PID) (m : Mode) (x y : ℚ) (now : UInt64)

theorem setMode_settings : (p.setMode m x).settings = p.settings := by
  simp only [setMode]
  split_ifs <;> rfl

theorem setOutputLimits_settings : (p.setOutputLimits x y).settings = p.settings := by
  simp only [setOutputLimits]
  split_ifs <;> rfl

theorem compute_settings : (p.compute x y now).settings = p.settings := by
  simp only [compute]
  split_ifs <;> rfl

end Keep

def Settings.period (s : Settings) : ℚ := s.sampleTime.toNat

structure Settings.Scaled (sign : ℚ) (s : Settings) : Prop where
  kp : s.kp = sign * s.dispKp
  ki : s.ki = sign * (s.dispKi * s.period)
  kd : s.kd = sign * (s.dispKd / s.period)

def Accepts (Kp Ki Kd : ℚ) : Prop := 0 ≤ Kp ∧ 0 ≤ Ki ∧ 0 ≤ Kd

instance (Kp Ki Kd : ℚ) : Decidable (Accepts Kp Ki Kd) :=
  inferInstanceAs (Decidable (_ ∧ _ ∧ _))

theorem accepts_iff {Kp Ki Kd : ℚ} : Accepts Kp Ki Kd ↔ ¬ (Kp < 0 ∨ Ki < 0 ∨ Kd < 0) := by
  rw [Accepts, not_or, not_or, not_lt, not_lt, not_lt]

section Setters
variable {p : PID} {Kp Ki Kd : ℚ}

theorem setTuningsOn_of_rejected (h : ¬ Accepts Kp Ki Kd) (pOn : ProportionalOn) :
    p.setTuningsOn Kp Ki Kd pOn = p := by
  rw [accepts_iff, not_not] at h
  rw [setTuningsOn, if_pos h]

theorem setTuningsOn_of_accepted (h : Accepts Kp Ki Kd) (pOn : ProportionalOn) :
    p.setTuningsOn Kp Ki Kd pOn =
      { p with
        pOn := pOn, pOnE := decide (pOn = .pOnE)
        dispKp := Kp, dispKi := Ki, dispKd := Kd
        kp := p.controllerDirection.sign * Kp
        ki := p.controllerDirection.sign * (Ki * p.settings.period)
        kd := p.controllerDirection.sign * (Kd / p.settings.period) } := by
  rw [accepts_iff] at h
  have hperiod : (p.sampleTime.toNat : ℚ) = p.settings.period := rfl
  cases hd : p.controllerDirection with
  | direct => simp [setTuningsOn, if_neg h, hd, Direction.sign, hperiod]
  | reverse => simp [setTuningsOn, if_neg h, hd, Direction.sign, hperiod]

theorem setTuningsOn_scaled (h : Accepts Kp Ki Kd) (pOn : ProportionalOn) :
    (p.setTuningsOn Kp Ki Kd pOn).settings.Scaled p.controllerDirection.sign := by
  rw [setTuningsOn_of_accepted h]
  exact ⟨rfl, rfl, rfl⟩

theorem setSampleTime_scaled {sign : ℚ} (h : p.settings.Scaled sign) (hperiod : 0 < p.settings.period)
    (n : Int32) : (p.setSampleTime n).settings.Scaled sign ∧ 0 < (p.setSampleTime n).settings.period := by
  rw [setSampleTime]
  split_ifs with hn
  · have hlt : n.toInt.toNat < 2 ^ 64 := by
      have hmax := n.toInt_lt
      omega
    have hnew : ((UInt64.ofNat n.toInt.toNat).toNat : ℚ) = n.toInt := by
      rw [UInt64.toNat_ofNat_of_lt' hlt]
      exact_mod_cast Int.toNat_of_nonneg hn.le
    have hpos : (0 : ℚ) < n.toInt := by exact_mod_cast hn
    have hne : p.settings.period ≠ 0 := hperiod.ne'
    have hold : (p.sampleTime.toNat : ℚ) = p.settings.period := rfl
    refine ⟨⟨h.kp, ?_, ?_⟩, hnew ▸ hpos⟩
    · change p.settings.ki * (n.toInt / (p.sampleTime.toNat : ℚ)) =
        sign * (p.dispKi * ((UInt64.ofNat n.toInt.toNat).toNat : ℚ))
      rw [h.ki, hnew, hold]
      field_simp
      rfl
    · change p.settings.kd / (n.toInt / (p.sampleTime.toNat : ℚ)) =
        sign * (p.dispKd / ((UInt64.ofNat n.toInt.toNat).toNat : ℚ))
      rw [h.kd, hnew, hold]
      field_simp
      rfl
  · exact ⟨h, hperiod⟩

end Setters

/-- Whether the sign of the working gains is the wrong one after the call. -/
def turned (p : PID) (wrong : Bool) : Call → Bool
  | .setTunings Kp Ki Kd => if Accepts Kp Ki Kd then false else wrong
  | .setTuningsOn Kp Ki Kd _ => if Accepts Kp Ki Kd then false else wrong
  | .setControllerDirection direction =>
    if p.inAuto = false ∧ direction ≠ p.controllerDirection then !wrong else wrong
  | _ => wrong

def callTurned (q : PID × Bool) (c : Call) : PID × Bool := (q.1.call c, q.1.turned q.2 c)

def expectedSign (q : PID × Bool) : ℚ :=
  if q.2 then -q.1.controllerDirection.sign else q.1.controllerDirection.sign

structure Calibrated (q : PID × Bool) : Prop where
  scaled : q.1.settings.Scaled (expectedSign q)
  period : 0 < q.1.settings.period
  proportional : q.1.pOnE = decide (q.1.pOn = .pOnE)
  accepted : Accepts q.1.dispKp q.1.dispKi q.1.dispKd

theorem Calibrated.of_settings {q : PID × Bool} (h : Calibrated q) {p : PID}
    (hp : p.settings = q.1.settings) : Calibrated (p, q.2) := by
  have hdirection : p.controllerDirection = q.1.controllerDirection :=
    congrArg Settings.controllerDirection hp
  have hpOn : (p.pOn, p.pOnE) = (q.1.pOn, q.1.pOnE) :=
    congrArg (fun s : Settings => (s.pOn, s.pOnE)) hp
  have hdisp : (p.dispKp, p.dispKi, p.dispKd) = (q.1.dispKp, q.1.dispKi, q.1.dispKd) :=
    congrArg (fun s : Settings => (s.dispKp, s.dispKi, s.dispKd)) hp
  simp only [Prod.mk.injEq] at hpOn hdisp
  refine ⟨?_, hp ▸ h.period, ?_, ?_⟩
  · rw [expectedSign, hp, hdirection]
    exact h.scaled
  · rw [hpOn.1, hpOn.2]
    exact h.proportional
  · rw [hdisp.1, hdisp.2.1, hdisp.2.2]
    exact h.accepted

theorem calibrated_of_accepted {p : PID} (hperiod : 0 < p.settings.period) {Kp Ki Kd : ℚ}
    (h : Accepts Kp Ki Kd) (pOn : ProportionalOn) : Calibrated (p.setTuningsOn Kp Ki Kd pOn, false) := by
  have hscaled := setTuningsOn_scaled (p := p) h pOn
  rw [setTuningsOn_of_accepted h] at hscaled ⊢
  exact ⟨hscaled, hperiod, rfl, h⟩

theorem setTuningsOn_calibrated {q : PID × Bool} (h : Calibrated q) (Kp Ki Kd : ℚ) (pOn : ProportionalOn) :
    Calibrated (q.1.setTuningsOn Kp Ki Kd pOn, if Accepts Kp Ki Kd then false else q.2) := by
  by_cases haccepts : Accepts Kp Ki Kd
  · rw [if_pos haccepts]
    exact calibrated_of_accepted h.period haccepts pOn
  · rw [if_neg haccepts, setTuningsOn_of_rejected haccepts]
    exact h

theorem setControllerDirection_calibrated {q : PID × Bool} (h : Calibrated q) (direction : Direction) :
    Calibrated (q.1.setControllerDirection direction,
      q.1.turned q.2 (.setControllerDirection direction)) := by
  obtain ⟨p, wrong⟩ := q
  have hscaled := h.scaled
  simp only [expectedSign] at hscaled
  by_cases hsame : direction = p.controllerDirection
  · have hp : p.setControllerDirection direction = p := by
      rw [setControllerDirection, hsame]
      simp
    rw [hp, turned, if_neg (fun hturn => hturn.2 hsame)]
    exact h
  · have hsign := Direction.sign_eq_neg hsame
    cases hauto : p.inAuto with
    | false =>
      have hp : p.setControllerDirection direction =
          { p with controllerDirection := direction } := by
        simp [setControllerDirection, hauto]
      rw [hp, turned, if_pos ⟨hauto, hsame⟩]
      refine ⟨?_, h.period, h.proportional, h.accepted⟩
      have hexpected : expectedSign ({ p with controllerDirection := direction }, !wrong) =
          if wrong then -p.controllerDirection.sign else p.controllerDirection.sign := by
        cases wrong <;> simp [expectedSign, hsign]
      rw [hexpected]
      exact ⟨hscaled.kp, hscaled.ki, hscaled.kd⟩
    | true =>
      have hp : p.setControllerDirection direction =
          { p with
            kp := -p.kp, ki := -p.ki, kd := -p.kd, controllerDirection := direction } := by
        simp [setControllerDirection, hauto, hsame]
      rw [hp, turned, if_neg (fun hturn => by simp [hauto] at hturn)]
      refine ⟨?_, h.period, h.proportional, h.accepted⟩
      have hexpected : expectedSign ({ p with
          kp := -p.kp, ki := -p.ki, kd := -p.kd, controllerDirection := direction }, wrong) =
          -(if wrong then -p.controllerDirection.sign else p.controllerDirection.sign) := by
        cases wrong <;> simp [expectedSign, hsign]
      rw [hexpected]
      constructor
      · exact (congrArg _ hscaled.kp).trans (neg_mul _ _).symm
      · exact (congrArg _ hscaled.ki).trans (neg_mul _ _).symm
      · exact (congrArg _ hscaled.kd).trans (neg_mul _ _).symm

theorem callTurned_calibrated (q : PID × Bool) (c : Call) (h : Calibrated q) : Calibrated (callTurned q c) := by
  cases c with
  | setMode mode input => exact h.of_settings (setMode_settings _ _ _)
  | setOutputLimits min max => exact h.of_settings (setOutputLimits_settings _ _ _)
  | setTunings Kp Ki Kd => exact setTuningsOn_calibrated h Kp Ki Kd q.1.pOn
  | setTuningsOn Kp Ki Kd pOn => exact setTuningsOn_calibrated h Kp Ki Kd pOn
  | setControllerDirection direction => exact setControllerDirection_calibrated h direction
  | setSampleTime n =>
    obtain ⟨hscaled, hperiod⟩ := setSampleTime_scaled h.scaled h.period n
    have hkeep : (q.1.setSampleTime n).controllerDirection = q.1.controllerDirection ∧
        (q.1.setSampleTime n).pOnE = q.1.pOnE ∧ (q.1.setSampleTime n).pOn = q.1.pOn ∧
          (q.1.setSampleTime n).dispKp = q.1.dispKp ∧ (q.1.setSampleTime n).dispKi = q.1.dispKi ∧
            (q.1.setSampleTime n).dispKd = q.1.dispKd := by
      rw [setSampleTime]
      split_ifs <;> exact ⟨rfl, rfl, rfl, rfl, rfl, rfl⟩
    obtain ⟨hdirection, hpOnE, hpOn, hKp, hKi, hKd⟩ := hkeep
    constructor
    · change (q.1.setSampleTime n).settings.Scaled
        (if q.2 then -(q.1.setSampleTime n).controllerDirection.sign
          else (q.1.setSampleTime n).controllerDirection.sign)
      rw [hdirection]
      exact hscaled
    · exact hperiod
    · change (q.1.setSampleTime n).pOnE = decide ((q.1.setSampleTime n).pOn = .pOnE)
      rw [hpOnE, hpOn]
      exact h.proportional
    · change Accepts (q.1.setSampleTime n).dispKp (q.1.setSampleTime n).dispKi
        (q.1.setSampleTime n).dispKd
      rw [hKp, hKi, hKd]
      exact h.accepted
  | compute input setpoint now => exact h.of_settings (compute_settings _ _ _ _)

theorem construct_calibrated (mem : PID) {Kp Ki Kd : ℚ} (h : Accepts Kp Ki Kd) (pOn : ProportionalOn)
    (d : Direction) (time : UInt64) : Calibrated (mem.construct Kp Ki Kd pOn d time, false) := by
  let p : PID := ({ ({ mem with inAuto := false } : PID).setOutputLimits 0 75 with
    sampleTime := 1 } : PID).setControllerDirection d
  have hsample : p.sampleTime = 1 := by
    simp only [p, setControllerDirection]
    split_ifs <;> rfl
  have hperiod : 0 < p.settings.period := by
    change (0 : ℚ) < p.sampleTime.toNat
    rw [hsample]
    exact zero_lt_one
  exact (calibrated_of_accepted hperiod h pOn).of_settings rfl

theorem setTunings_self_iff {p : PID} (hproportional : p.pOnE = decide (p.pOn = .pOnE))
    (haccepted : Accepts p.getKp p.getKi p.getKd) :
    p.setTunings p.getKp p.getKi p.getKd = p ↔ p.settings.Scaled p.controllerDirection.sign := by
  rw [setTunings, setTuningsOn_of_accepted haccepted]
  constructor
  · intro h
    exact ⟨(congrArg kp h).symm, (congrArg ki h).symm, (congrArg kd h).symm⟩
  · rintro ⟨hkp, hki, hkd⟩
    change p.kp = p.controllerDirection.sign * p.getKp at hkp
    change p.ki = p.controllerDirection.sign * (p.getKi * p.settings.period) at hki
    change p.kd = p.controllerDirection.sign * (p.getKd / p.settings.period) at hkd
    rw [← hkp, ← hki, ← hkd, ← hproportional]
    rfl

theorem eq_zero_of_both_signs {sign x y : ℚ} (hsign : sign ≠ 0) (h : y = sign * x)
    (h' : y = -sign * x) : x = 0 := by
  have hdouble : sign * x = 0 := by linarith
  exact (mul_eq_zero.mp hdouble).resolve_left hsign

theorem Calibrated.retunes_iff {q : PID × Bool} (h : Calibrated q) :
    q.1.setTunings q.1.getKp q.1.getKi q.1.getKd = q.1 ↔
      q.2 = false ∨ (q.1.getKp = 0 ∧ q.1.getKi = 0 ∧ q.1.getKd = 0) := by
  rw [setTunings_self_iff h.proportional h.accepted]
  obtain ⟨p, wrong⟩ := q
  have hscaled := h.scaled
  cases wrong with
  | false => exact iff_of_true hscaled (Or.inl rfl)
  | true =>
    have hne := p.controllerDirection.sign_ne_zero
    have hperiod : p.settings.period ≠ 0 := h.period.ne'
    obtain ⟨hkp, hki, hkd⟩ := hscaled
    simp only [expectedSign, if_true] at hkp hki hkd
    rw [or_iff_right (by simp)]
    constructor
    · rintro ⟨hkp', hki', hkd'⟩
      refine ⟨eq_zero_of_both_signs hne hkp' hkp, ?_, ?_⟩
      · exact (mul_eq_zero.mp (eq_zero_of_both_signs hne hki' hki)).resolve_right hperiod
      · exact (div_eq_zero_iff.mp (eq_zero_of_both_signs hne hkd' hkd)).resolve_right hperiod
    · rintro ⟨hzero, hzero', hzero''⟩
      change p.settings.dispKp = 0 at hzero
      change p.settings.dispKi = 0 at hzero'
      change p.settings.dispKd = 0 at hzero''
      constructor
      · rw [hkp, hzero, mul_zero, mul_zero]
      · rw [hki, hzero', zero_mul, mul_zero, mul_zero]
      · rw [hkd, hzero'', zero_div, mul_zero, mul_zero]

/-- After any calls from the constructor, adjusting the gains call by call has led to the
ones that `SetTunings` computes, exactly when the direction has not been left turned in
manual mode. -/
theorem run_retunes_iff (mem : PID) (Kp Ki Kd : ℚ) (pOn : ProportionalOn) (d : Direction)
    (time : UInt64) (hgains : Accepts Kp Ki Kd) (cs : List Call) :
    let q := Transition.run callTurned (mem.construct Kp Ki Kd pOn d time, false) cs
    q.1.setTunings q.1.getKp q.1.getKi q.1.getKd = q.1 ↔
      q.2 = false ∨ (q.1.getKp = 0 ∧ q.1.getKi = 0 ∧ q.1.getKd = 0) :=
  (Transition.run_invariant callTurned_calibrated (construct_calibrated mem hgains pOn d time) cs).retunes_iff

theorem run_retunes_iff_sample :
    let cs : List Call := [.setControllerDirection .reverse, .setSampleTime 7,
      .setMode .automatic 20, .setControllerDirection .direct, .compute 20 21 9]
    let q := Transition.run callTurned
      ((default : PID).construct 2 5 1 .pOnM .direct 0, false) cs
    q.1.setTunings q.1.getKp q.1.getKi q.1.getKd = q.1 ↔
      q.2 = false ∨ (q.1.getKp = 0 ∧ q.1.getKi = 0 ∧ q.1.getKd = 0) :=
  run_retunes_iff default 2 5 1 .pOnM .direct 0 (by decide +kernel) _

def placed (p : PID) (b : Bool) : Call → Bool
  | .setOutputLimits min max => if min < max then p.inAuto else b
  | .compute _ _ now => b || (p.inAuto && p.due now)
  | _ => b

def callPlaced (q : PID × Bool) (c : Call) : PID × Bool := (q.1.call c, q.1.placed q.2 c)

structure Within (q : PID × Bool) : Prop where
  ordered : q.1.outMin < q.1.outMax
  sum : q.1.inAuto = true → q.1.outputSum ∈ Set.Icc q.1.outMin q.1.outMax
  output : q.2 = true → q.1.myOutput ∈ Set.Icc q.1.outMin q.1.outMax

theorem Within.of_keeps {q : PID × Bool} (h : Within q) {p : PID}
    (hp : (p.outMin, p.outMax, p.inAuto, p.outputSum, p.myOutput) =
      (q.1.outMin, q.1.outMax, q.1.inAuto, q.1.outputSum, q.1.myOutput)) : Within (p, q.2) := by
  simp only [Prod.mk.injEq] at hp
  obtain ⟨hmin, hmax, hauto, hsum, houtput⟩ := hp
  refine ⟨?_, ?_, ?_⟩
  · rw [hmin, hmax]
    exact h.ordered
  · rw [hmin, hmax, hauto, hsum]
    exact h.sum
  · rw [hmin, hmax, houtput]
    exact h.output

theorem setMode_within {q : PID × Bool} (h : Within q) (mode : Mode) (input : ℚ) :
    Within (q.1.setMode mode input, q.2) := by
  refine ⟨?_, ?_, ?_⟩
  · rw [setMode_outMin, setMode_outMax]
    exact h.ordered
  · rw [setMode_outMin, setMode_outMax, setMode_inAuto]
    intro hmode
    cases hauto : q.1.inAuto with
    | true =>
      rw [of_decide_eq_true hmode, setMode_automatic_of_inAuto hauto]
      exact h.sum hauto
    | false =>
      simp only [setMode, hmode, hauto, Bool.not_false, Bool.and_self, if_true, pidInitialize]
      exact clamp_mem h.ordered.le _
  · rw [setMode_outMin, setMode_outMax, setMode_myOutput]
    exact h.output

theorem setOutputLimits_within {q : PID × Bool} (h : Within q) (min max : ℚ) :
    Within (q.1.setOutputLimits min max, q.1.placed q.2 (.setOutputLimits min max)) := by
  by_cases hlt : min < max
  · obtain ⟨hmin, hmax⟩ := setOutputLimits_limits hlt q.1
    rw [placed, if_pos hlt]
    refine ⟨?_, ?_, fun hauto => (setOutputLimits_bounded hlt hauto).output⟩
    · rw [hmin, hmax]
      exact hlt
    · rw [setOutputLimits_inAuto]
      exact fun hauto => (setOutputLimits_bounded hlt hauto).sum
  · rw [placed, if_neg hlt, setOutputLimits, if_pos (not_lt.mp hlt)]
    exact h

theorem compute_within {q : PID × Bool} (h : Within q) (input setpoint : ℚ) (now : UInt64) :
    Within (q.1.compute input setpoint now, q.1.placed q.2 (.compute input setpoint now)) := by
  cases hauto : q.1.inAuto with
  | false =>
    rw [compute_of_manual hauto, placed, hauto, Bool.false_and, Bool.or_false]
    exact h
  | true =>
    cases hdue : q.1.due now with
    | false =>
      rw [compute_of_not_due hdue, placed, hdue, Bool.and_false, Bool.or_false]
      exact h
    | true =>
      refine ⟨?_, fun _ => ?_, fun _ => ?_⟩
      · rw [compute_outMin, compute_outMax]
        exact h.ordered
      · rw [compute_outputSum hauto hdue, compute_outMin, compute_outMax]
        exact clamp_mem h.ordered.le _
      · rw [compute_myOutput hauto hdue, compute_outMin, compute_outMax]
        exact clamp_mem h.ordered.le _

theorem callPlaced_within (q : PID × Bool) (c : Call) (h : Within q) : Within (callPlaced q c) := by
  have htunings (Kp Ki Kd : ℚ) (pOn : ProportionalOn) :
      Within (q.1.setTuningsOn Kp Ki Kd pOn, q.2) := h.of_keeps (by simp)
  cases c with
  | setMode mode input => exact setMode_within h mode input
  | setOutputLimits min max => exact setOutputLimits_within h min max
  | setTunings Kp Ki Kd => exact htunings Kp Ki Kd q.1.pOn
  | setTuningsOn Kp Ki Kd pOn => exact htunings Kp Ki Kd pOn
  | setControllerDirection direction =>
    refine h.of_keeps ?_
    simp only [call, setControllerDirection]
    split_ifs <;> rfl
  | setSampleTime n =>
    refine h.of_keeps ?_
    simp only [call, setSampleTime]
    split_ifs <;> rfl
  | compute input setpoint now => exact compute_within h input setpoint now

theorem construct_within (mem : PID) (Kp Ki Kd : ℚ) (pOn : ProportionalOn) (d : Direction)
    (time : UInt64) : Within (mem.construct Kp Ki Kd pOn d time, false) := by
  have hlimits := setOutputLimits_limits (show (0 : ℚ) < 75 by norm_num) { mem with inAuto := false }
  refine ⟨?_, fun hauto => ?_, fun h => by cases h⟩
  · have hmin : (mem.construct Kp Ki Kd pOn d time).outMin = 0 := by
      simp only [construct, setTuningsOn_outMin, setControllerDirection_outMin]
      exact hlimits.1
    have hmax : (mem.construct Kp Ki Kd pOn d time).outMax = 75 := by
      simp only [construct, setTuningsOn_outMax, setControllerDirection_outMax]
      exact hlimits.2
    rw [hmin, hmax]
    norm_num
  · rw [construct_inAuto] at hauto
    cases hauto

/-- After any calls on any memory the limits are ordered, in automatic mode the accumulator
is between them, and so is the output from the first due `Compute` or accepted
`SetOutputLimits` in automatic mode on, until the limits are changed in manual mode. -/
theorem run_within (mem : PID) (Kp Ki Kd : ℚ) (pOn : ProportionalOn) (d : Direction)
    (time : UInt64) (cs : List Call) :
    Within (Transition.run callPlaced (mem.construct Kp Ki Kd pOn d time, false) cs) :=
  Transition.run_invariant callPlaced_within (construct_within mem Kp Ki Kd pOn d time) cs

end PID
end CryoController
