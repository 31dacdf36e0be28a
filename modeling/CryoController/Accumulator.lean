import CryoController.PIDCalls

/-!
# What the accumulator remembers

Accumulator and output never feed back into the other members, so two controllers that
differ in these two alone stay so under the same calls, and nothing drives them further
apart. A run of `Compute` in proportional-on-measurement mode is one saturated
addition: the errors add up, the changes of the input cancel but for the first and the
last, and the start counts only as far as the saturations on the way have left it.
-/

open Saturation
namespace CryoController
namespace PID

def vary (p : PID) (outputSum myOutput : ℚ) : PID :=
  { p with outputSum := outputSum, myOutput := myOutput }

def shift (p : PID) (input setpoint : ℚ) : ℚ :=
  p.ki * (setpoint - input) - if p.pOnE then 0 else p.kp * (input - p.lastInput)

def feed (p : PID) (input setpoint : ℚ) : ℚ :=
  (if p.pOnE then p.kp * (setpoint - input) else 0) - p.kd * (input - p.lastInput)

section Compute
variable {p : PID} {now : UInt64}

theorem accumulate_eq (p : PID) (input setpoint : ℚ) :
    p.accumulate input setpoint = p.outputSum + p.shift input setpoint := by
  simp only [accumulate, shift]
  cases p.pOnE with
  | false =>
    simp only [Bool.not_false, if_true, Bool.false_eq_true, if_false]
    ring
  | true =>
    simp only [Bool.not_true, Bool.false_eq_true, if_false, if_true]
    ring

theorem compute_of_due (hauto : p.inAuto = true) (hdue : p.due now = true) (input setpoint : ℚ) :
    p.compute input setpoint now =
      { p with
        outputSum := saturate p.outMin p.outMax p.outputSum (p.shift input setpoint)
        myOutput := saturate p.outMin p.outMax
          (saturate p.outMin p.outMax p.outputSum (p.shift input setpoint)) (p.feed input setpoint)
        lastInput := input
        lastTime := now } := by
  have houtput (x y z : ℚ) : x + (y - z) = y + (x - z) := by ring
  simp only [compute, hauto, Bool.not_true, Bool.false_eq_true, if_false, hdue, if_true,
    accumulate_eq, houtput]
  rfl

end Compute

/-- The second controller is the first with another accumulator and another output, each
related to the first one's. -/
structure Varies (r : ℚ → ℚ → Prop) (p p' : PID) : Prop where
  ordered : p.outMin ≤ p.outMax
  same : p' = p.vary p'.outputSum p'.myOutput
  sum : r p.outputSum p'.outputSum
  output : r p.myOutput p'.myOutput

section Varies
variable {r : ℚ → ℚ → Prop} {p p' : PID}

theorem varies_vary (hordered : p.outMin ≤ p.outMax) {s o : ℚ} (hsum : r p.outputSum s)
    (houtput : r p.myOutput o) : Varies r p (p.vary s o) :=
  ⟨hordered, rfl, hsum, houtput⟩

theorem setMode_varies (hr : Robust r) (h : Varies r p p') (mode : Mode) (input : ℚ) :
    Varies r (p.setMode mode input) (p'.setMode mode input) := by
  obtain ⟨hordered, hsame, hsum, houtput⟩ := h
  rw [hsame]
  generalize p'.outputSum = s at hsum ⊢
  generalize p'.myOutput = o at houtput ⊢
  have hauto : (p.vary s o).inAuto = p.inAuto := rfl
  by_cases htakes : (decide (mode = .automatic) && !p.inAuto) = true
  · simp only [setMode, hauto, htakes, if_true]
    exact ⟨hordered, rfl, hr.clamp _ _ hordered _ _ houtput, houtput⟩
  · simp only [setMode, hauto, htakes, Bool.false_eq_true, if_false]
    exact ⟨hordered, rfl, hsum, houtput⟩

theorem setOutputLimits_varies (hr : Robust r) (h : Varies r p p') (min max : ℚ) :
    Varies r (p.setOutputLimits min max) (p'.setOutputLimits min max) := by
  have hcopy := h
  obtain ⟨hordered, hsame, hsum, houtput⟩ := hcopy
  by_cases hrejected : max ≤ min
  · rw [setOutputLimits, setOutputLimits, if_pos hrejected, if_pos hrejected]
    exact h
  · have hle : min ≤ max := (not_le.mp hrejected).le
    rw [hsame]
    generalize p'.outputSum = s at hsum ⊢
    generalize p'.myOutput = o at houtput ⊢
    have hauto : (p.vary s o).inAuto = p.inAuto := rfl
    cases ha : p.inAuto with
    | true =>
      simp only [setOutputLimits, if_neg hrejected, hauto, ha, if_true]
      exact ⟨hle, rfl, hr.clamp _ _ hle _ _ hsum, hr.clamp _ _ hle _ _ houtput⟩
    | false =>
      simp only [setOutputLimits, if_neg hrejected, hauto, ha, Bool.false_eq_true, if_false]
      exact ⟨hle, rfl, hsum, houtput⟩

theorem Varies.map (h : Varies r p p') (f : PID → PID)
    (hf : ∀ s o, f (p.vary s o) = (f p).vary s o)
    (hkeep : ((f p).outMin, (f p).outMax, (f p).outputSum, (f p).myOutput) =
      (p.outMin, p.outMax, p.outputSum, p.myOutput)) : Varies r (f p) (f p') := by
  simp only [Prod.mk.injEq] at hkeep
  obtain ⟨hmin, hmax, hsum, houtput⟩ := hkeep
  rw [h.same, hf]
  refine varies_vary ?_ ?_ ?_
  · rw [hmin, hmax]
    exact h.ordered
  · rw [hsum]
    exact h.sum
  · rw [houtput]
    exact h.output

theorem setTuningsOn_varies (h : Varies r p p') (Kp Ki Kd : ℚ) (pOn : ProportionalOn) :
    Varies r (p.setTuningsOn Kp Ki Kd pOn) (p'.setTuningsOn Kp Ki Kd pOn) := by
  refine h.map (fun p => p.setTuningsOn Kp Ki Kd pOn) (fun s o => ?_) (by simp)
  by_cases haccepts : Accepts Kp Ki Kd
  · simp only [setTuningsOn_of_accepted haccepts]
    rfl
  · simp only [setTuningsOn_of_rejected haccepts]

theorem setControllerDirection_varies (h : Varies r p p') (d : Direction) :
    Varies r (p.setControllerDirection d) (p'.setControllerDirection d) := by
  refine h.map (fun p => p.setControllerDirection d) (fun s o => ?_) ?_
  · by_cases hturns : p.inAuto ∧ d ≠ p.controllerDirection
    · have hturns' : (p.vary s o).inAuto ∧ d ≠ (p.vary s o).controllerDirection := hturns
      simp only [setControllerDirection, if_pos hturns, if_pos hturns']
      rfl
    · have hturns' : ¬ ((p.vary s o).inAuto ∧ d ≠ (p.vary s o).controllerDirection) := hturns
      simp only [setControllerDirection, if_neg hturns, if_neg hturns']
      rfl
  · simp only [setControllerDirection]
    split_ifs <;> rfl

theorem setSampleTime_varies (h : Varies r p p') (n : Int32) :
    Varies r (p.setSampleTime n) (p'.setSampleTime n) := by
  refine h.map (fun p => p.setSampleTime n) (fun s o => ?_) ?_
  · by_cases hpos : n.toInt > 0
    · simp only [setSampleTime, if_pos hpos]
      rfl
    · simp only [setSampleTime, if_neg hpos]
  · simp only [setSampleTime]
    split_ifs <;> rfl

theorem Robust.saturate (hr : Robust r) {lo hi x y : ℚ} (h : lo ≤ hi) (hxy : r x y) (c : ℚ) :
    r (saturate lo hi x c) (saturate lo hi y c) :=
  hr.clamp lo hi h _ _ (hr.add x y c hxy)

theorem compute_varies (hr : Robust r) (h : Varies r p p') (input setpoint : ℚ) (now : UInt64) :
    Varies r (p.compute input setpoint now) (p'.compute input setpoint now) := by
  have hcopy := h
  obtain ⟨hordered, hsame, hsum, houtput⟩ := hcopy
  have hauto : p'.inAuto = p.inAuto := by rw [hsame]; rfl
  have hdue : p'.due now = p.due now := by rw [hsame]; rfl
  cases ha : p.inAuto with
  | false =>
    rw [compute_of_manual ha, compute_of_manual (hauto.trans ha)]
    exact h
  | true =>
    cases hd : p.due now with
    | false =>
      rw [compute_of_not_due hd, compute_of_not_due (hdue.trans hd)]
      exact h
    | true =>
      rw [compute_of_due ha hd, compute_of_due (hauto.trans ha) (hdue.trans hd), hsame]
      generalize p'.outputSum = s at hsum ⊢
      generalize p'.myOutput = o at houtput ⊢
      have hnext := Robust.saturate hr hordered hsum (p.shift input setpoint)
      exact ⟨hordered, rfl, hnext, Robust.saturate hr hordered hnext (p.feed input setpoint)⟩

theorem call_varies (hr : Robust r) (h : Varies r p p') (c : Call) :
    Varies r (p.call c) (p'.call c) := by
  cases c with
  | setMode mode input => exact setMode_varies hr h mode input
  | setOutputLimits min max => exact setOutputLimits_varies hr h min max
  | compute input setpoint now => exact compute_varies hr h input setpoint now
  | setTunings Kp Ki Kd =>
    have hpOn : p'.pOn = p.pOn := by rw [h.same]; rfl
    simp only [call, setTunings, hpOn]
    exact setTuningsOn_varies h Kp Ki Kd p.pOn
  | setTuningsOn Kp Ki Kd pOn => exact setTuningsOn_varies h Kp Ki Kd pOn
  | setControllerDirection direction => exact setControllerDirection_varies h direction
  | setSampleTime n => exact setSampleTime_varies h n

theorem run_varies (hr : Robust r) (h : Varies r p p') (cs : List Call) :
    Varies r (Transition.run call p cs) (Transition.run call p' cs) := by
  induction cs generalizing p p' with
  | nil => exact h
  | cons c cs ih => exact ih (call_varies hr h c)

end Varies

theorem run_forgets (p : PID) (hordered : p.outMin ≤ p.outMax) (s o : ℚ) (cs : List Call) :
    let q := Transition.run call p cs
    let q' := Transition.run call (p.vary s o) cs
    q' = q.vary q'.outputSum q'.myOutput ∧
      (∀ δ, |p.outputSum - s| ≤ δ → |p.myOutput - o| ≤ δ →
        |q.outputSum - q'.outputSum| ≤ δ ∧ |q.myOutput - q'.myOutput| ≤ δ) ∧
      (p.outputSum ≤ s → p.myOutput ≤ o →
        q.outputSum ≤ q'.outputSum ∧ q.myOutput ≤ q'.myOutput) := by
  intro q q'
  refine ⟨?_, ?_, ?_⟩
  · have htrue : Robust fun _ _ : ℚ => True := ⟨fun _ _ _ _ => trivial, fun _ _ _ _ _ _ => trivial⟩
    exact (run_varies htrue (varies_vary (s := s) (o := o) hordered trivial trivial) cs).same
  · intro δ hsum houtput
    have h := run_varies (robust_abs_sub_le δ) (varies_vary hordered hsum houtput) cs
    exact ⟨h.sum, h.output⟩
  · intro hsum houtput
    have h := run_varies robust_le (varies_vary hordered hsum houtput) cs
    exact ⟨h.sum, h.output⟩

theorem run_forgets_sample :
    let p := ((default : PID).construct 2 5 1 .pOnM .direct 0).setMode .automatic 273
    let cs : List Call := [.compute 272 150 1, .setOutputLimits (-120) 75, .compute 149 150 2]
    let q := Transition.run call p cs
    let q' := Transition.run call (p.vary 40 60) cs
    q' = q.vary q'.outputSum q'.myOutput ∧
      (∀ δ, |p.outputSum - 40| ≤ δ → |p.myOutput - 60| ≤ δ →
        |q.outputSum - q'.outputSum| ≤ δ ∧ |q.myOutput - q'.myOutput| ≤ δ) ∧
      (p.outputSum ≤ 40 → p.myOutput ≤ 60 →
        q.outputSum ≤ q'.outputSum ∧ q.myOutput ≤ q'.myOutput) :=
  run_forgets (((default : PID).construct 2 5 1 .pOnM .direct 0).setMode .automatic 273)
    (by decide +kernel) 40 60
    [.compute 272 150 1, .setOutputLimits (-120) 75, .compute 149 150 2]

structure Sample where
  input : ℚ
  setpoint : ℚ
  now : UInt64
  deriving DecidableEq, Inhabited

def sample (p : PID) (x : Sample) : PID := p.compute x.input x.setpoint x.now

def taken (p : PID) : List Sample → List Sample
  | [] => []
  | x :: xs => if p.due x.now then x :: taken (p.sample x) xs else taken p xs

def shifts (p : PID) : List Sample → List ℚ
  | [] => []
  | x :: xs =>
    if p.due x.now then p.shift x.input x.setpoint :: shifts (p.sample x) xs else shifts p xs

def errors (xs : List Sample) : ℚ := (xs.map fun x => x.setpoint - x.input).sum

section Run
variable {p : PID}

theorem sample_inAuto (hauto : p.inAuto = true) (x : Sample) : (p.sample x).inAuto = true :=
  (compute_inAuto p x.input x.setpoint x.now).trans hauto

theorem shifts_vary (hauto : p.inAuto = true) (s o : ℚ) (xs : List Sample) :
    (p.vary s o).shifts xs = p.shifts xs := by
  induction xs generalizing p s o with
  | nil => rfl
  | cons x xs ih =>
    have hdue' : (p.vary s o).due x.now = p.due x.now := rfl
    cases hdue : p.due x.now with
    | false =>
      simp only [shifts, hdue', hdue, Bool.false_eq_true, if_false]
      exact ih hauto s o
    | true =>
      have hvary : ∃ s' o', (p.vary s o).sample x = (p.sample x).vary s' o' := by
        simp only [sample]
        rw [compute_of_due hauto hdue, compute_of_due (p := p.vary s o) hauto (hdue'.trans hdue)]
        exact ⟨_, _, rfl⟩
      obtain ⟨s', o', heq⟩ := hvary
      simp only [shifts, hdue', hdue, if_true, heq, ih (sample_inAuto hauto x)]
      rfl

theorem run_outputSum (hauto : p.inAuto = true) (xs : List Sample) :
    (Transition.run sample p xs).outputSum =
      Transition.run (saturate p.outMin p.outMax) p.outputSum (p.shifts xs) := by
  induction xs generalizing p with
  | nil => rfl
  | cons x xs ih =>
    rw [Transition.run_cons, ih (sample_inAuto hauto x)]
    cases hdue : p.due x.now with
    | false =>
      have hkept : p.sample x = p := compute_of_not_due hdue _ _
      simp only [shifts, hkept, hdue, Bool.false_eq_true, if_false]
    | true =>
      simp only [shifts, hdue, if_true, Transition.run_cons]
      rw [sample, compute_of_due hauto hdue]

theorem sum_shifts (hauto : p.inAuto = true) (xs : List Sample) :
    (p.shifts xs).sum = p.ki * errors (p.taken xs) -
      if p.pOnE then 0 else p.kp * ((Transition.run sample p xs).lastInput - p.lastInput) := by
  induction xs generalizing p with
  | nil => simp [shifts, taken, errors]
  | cons x xs ih =>
    rw [Transition.run_cons]
    cases hdue : p.due x.now with
    | false =>
      have hkept : p.sample x = p := compute_of_not_due hdue _ _
      simp only [shifts, taken, hkept, hdue, Bool.false_eq_true, if_false]
      exact ih hauto
    | true =>
      have hnext := ih (sample_inAuto hauto x)
      have hsample : p.sample x = _ := compute_of_due hauto hdue x.input x.setpoint
      have hkeep : ((p.sample x).kp, (p.sample x).ki, (p.sample x).pOnE, (p.sample x).lastInput) =
          (p.kp, p.ki, p.pOnE, x.input) := by
        rw [hsample]
      simp only [Prod.mk.injEq] at hkeep
      obtain ⟨hkp, hki, hpOnE, hlast⟩ := hkeep
      rw [hkp, hki, hpOnE, hlast] at hnext
      simp only [shifts, taken, hdue, if_true, List.sum_cons, errors, List.map_cons]
      rw [hnext, shift, errors]
      cases p.pOnE with
      | false =>
        simp only [Bool.false_eq_true, if_false]
        ring
      | true =>
        simp only [if_true]
        ring

end Run

/-- In a run of `Compute` the accumulator is where the errors of the samples that were taken
and the change of the input over the run would bring it, except that it stays between
where the run leads from the lower and from the upper limit. -/
theorem run_accumulates (p : PID) (hauto : p.inAuto = true) (xs : List Sample) (s o : ℚ)
    (hs : s ∈ Set.Icc p.outMin p.outMax) :
    let accumulated := fun s o => (Transition.run sample (p.vary s o) xs).outputSum
    accumulated s o = clamp (accumulated p.outMin o) (accumulated p.outMax o)
      (s + (p.ki * errors (p.taken xs) -
        if p.pOnE then 0
        else p.kp * ((Transition.run sample p xs).lastInput - p.lastInput))) := by
  have hordered : p.outMin ≤ p.outMax := hs.1.trans hs.2
  have hrun (t : ℚ) : (Transition.run sample (p.vary t o) xs).outputSum =
      Transition.run (saturate p.outMin p.outMax) t (p.shifts xs) := by
    rw [run_outputSum (p := p.vary t o) hauto, shifts_vary hauto]
    rfl
  intro accumulated
  simp only [accumulated, hrun]
  rw [← sum_shifts hauto]
  have hclamp := run_saturate_clamp hordered hordered (p.shifts xs) s
  rwa [clamp_of_mem hs] at hclamp

theorem run_accumulates_sample :
    let p := ((default : PID).construct 2 5 1 .pOnM .direct 0).setMode .automatic 273
    let xs : List Sample := [⟨273, 150, 0⟩, ⟨272, 290, 0⟩, ⟨280, 290, 4⟩]
    let accumulated := fun s o => (Transition.run sample (p.vary s o) xs).outputSum
    accumulated 30 0 = clamp (accumulated p.outMin 0) (accumulated p.outMax 0)
      (30 + (p.ki * errors (p.taken xs) -
        if p.pOnE then 0
        else p.kp * ((Transition.run sample p xs).lastInput - p.lastInput))) :=
  run_accumulates (((default : PID).construct 2 5 1 .pOnM .direct 0).setMode .automatic 273)
    (by decide +kernel) [⟨273, 150, 0⟩, ⟨272, 290, 0⟩, ⟨280, 290, 4⟩] 30 0 (by decide +kernel)

end PID
end CryoController
