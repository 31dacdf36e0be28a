import CryoController.DriveBounds
import CryoController.StateDecision
import CryoController.Foundations.Latch

/-!
# The temperature range of each state

For one set point the range rules, taken in the order in which they override
each other, give every state an interval of temperatures; between the intervals
no state is named. So a machine with fresh rows is a latch, and does not hunt on
a temperature that runs one way. The interval of Idle is what the later rules
leave of the first one.
-/

namespace CryoController

def FSMStates.Range (target : ℚ) : FSMStates → ℚ → Prop
  | .idle, cur => 220 ≤ target ∧ target < 300 ∧ 300 < cur ∧ target + 2 < cur
  | .warmup, cur => cur < target - 10 ∧ cur < 290
  | .coolDownHot, cur => target < 220 ∧ target + 10 < cur ∧ 220 < cur
  | .coolDownCold, cur => target < 220 ∧ target + 10 < cur ∧ cur ≤ 220
  | .maintainCold, cur => target < 220 ∧ target - 10 ≤ cur ∧ cur ≤ target + 10 ∧ cur ≤ 220
  | .maintainWarm, cur => 220 < target ∧ target - 2 ≤ cur ∧ cur ≤ target + 2 ∧ 220 < cur
  | .fault, _ => False

theorem FSMStates.range_convex {target a b c : ℚ} {st : FSMStates} (hab : a ≤ b) (hbc : b ≤ c)
    (ha : st.Range target a) (hc : st.Range target c) : st.Range target b := by
  cases st <;> simp only [Range] at * <;> grind

namespace CryoControlSM

def named (target cur : ℚ) : Option FSMStates :=
  if target > 220 ∧ |target - cur| ≤ 2 ∧ cur > 220 then some .maintainWarm
  else if target < 220 ∧ |target - cur| ≤ 10 ∧ cur ≤ 220 then some .maintainCold
  else if target < 220 ∧ target < cur - 10 ∧ cur ≤ 220 then some .coolDownCold
  else if target < 220 ∧ target < cur - 10 ∧ cur > 220 then some .coolDownHot
  else if target > cur + 10 ∧ cur < 290 then some .warmup
  else if cur > 300 ∧ target < 300 then some .idle
  else none

theorem rangeRules_eq (target cur : ℚ) (st : FSMStates) :
    rangeRules target cur st = (named target cur).getD st := by
  simp only [rangeRules, named]
  split_ifs <;> rfl

theorem named_eq_some_iff {target cur : ℚ} {st : FSMStates} :
    named target cur = some st ↔ st.Range target cur := by
  simp only [named, abs_le]
  cases st <;> simp only [FSMStates.Range] <;> grind

theorem nextState_eq_hold {m : CryoControlSM} (h : Interlock m) {s : Sweep} (hs : ¬ s.Stale) :
    m.nextState s =
      Latch.hold (named s.packet.tTemp) m.currentFSMState s.packet.curTemp := by
  rw [nextState, if_neg hs, rangeRules_eq, ← h.settled]
  rfl

def switched (m : CryoControlSM) (s : Sweep) : Option FSMStates :=
  let m := (m.prepare s.packet).stateDecision s
  if m.currentFSMState ≠ m.shouldBeFSMState then some m.stateSwitch.currentFSMState else none

def entered : CryoControlSM → List Sweep → List FSMStates
  | _, [] => []
  | m, s :: ss => (m.switched s).toList ++ entered (m.smEngine s) ss

theorem switched_eq {m : CryoControlSM} (h : Interlock m) (s : Sweep) :
    m.switched s = if m.currentFSMState ≠ m.nextState s then some (m.nextState s) else none := by
  have hp := prepare_eq m s.packet
  have hmode : (m.prepare s.packet).fsmMode = .automatic := by rw [hp, h.mode]
  rw [switched, stateDecision_eq hmode (by rw [hp]) (by rw [hp]), hp]
  rfl

theorem entered_eq_entries {m : CryoControlSM} (h : Interlock m) {target : ℚ} {ss : List Sweep}
    (htarget : ∀ s ∈ ss, s.packet.tTemp = target) (hfresh : ∀ s ∈ ss, ¬ s.Stale) :
    m.entered ss =
      Latch.entries (named target) m.currentFSMState (ss.map fun s => s.packet.curTemp) := by
  induction ss generalizing m with
  | nil => rfl
  | cons s ss ih =>
    rw [List.forall_mem_cons] at htarget hfresh
    have hnext := nextState_eq_hold h hfresh.1
    rw [htarget.1] at hnext
    have htail := ih (smEngine_interlock m s h) htarget.2 hfresh.2
    rw [smEngine_currentFSMState h, hnext] at htail
    rw [entered, switched_eq h, hnext, htail, List.map_cons, Latch.entries]
    split_ifs <;> rfl

theorem named_convex_le (target : ℚ) : Latch.Convex (· ≤ ·) (named target) := by
  intro a b c st hab hbc ha hc
  rw [named_eq_some_iff] at ha hc ⊢
  exact FSMStates.range_convex hab hbc ha hc

theorem named_convex_ge (target : ℚ) : Latch.Convex (· ≥ ·) (named target) := by
  intro a b c st hab hbc ha hc
  rw [named_eq_some_iff] at ha hc ⊢
  exact FSMStates.range_convex hbc hab hc ha

/-- From every reachable machine, with one set point, fresh rows and readings
that never turn round, no state is entered twice. -/
theorem sweeps_do_not_hunt (mem : CryoControlSM) (absTime rateTime : UInt64)
    (before : List Sweep) {target : ℚ} {ss : List Sweep}
    (htarget : ∀ s ∈ ss, s.packet.tTemp = target) (hfresh : ∀ s ∈ ss, ¬ s.Stale)
    (hmonotone : (ss.map fun s => s.packet.curTemp).Pairwise (· ≤ ·) ∨
      (ss.map fun s => s.packet.curTemp).Pairwise (· ≥ ·)) :
    (entered (Transition.run smEngine (construct mem absTime rateTime) before) ss).Nodup := by
  rw [entered_eq_entries (run_interlock mem absTime rateTime before) htarget hfresh]
  rcases hmonotone with hup | hdown
  · exact Latch.entries_nodup (named_convex_le target) hup _
  · exact Latch.entries_nodup (named_convex_ge target) hdown _

theorem sweeps_do_not_hunt_sample :
    (entered (Transition.run smEngine (construct default 0 0) [sampleSweep 100 180 0 0])
      [sampleSweep 250 180 0 0, sampleSweep 250 249 0 0, sampleSweep 250 301 0 0]).Nodup :=
  have htarget : ∀ s ∈ [sampleSweep 250 180 0 0, sampleSweep 250 249 0 0,
      sampleSweep 250 301 0 0], s.packet.tTemp = 250 := by decide +kernel
  sweeps_do_not_hunt default 0 0 _ htarget (by decide +kernel) (Or.inl (by decide +kernel))

structure Idles (m : CryoControlSM) : Prop where
  state : m.currentFSMState = .idle
  heater : m.thisRunHeaterPower = 0
  cc : m.thisRunCCPower = 0
  cooler : m.cCoolerPower = false
  absManual : m.absPID.inAuto = false
  rateManual : m.ratePID.inAuto = false

theorem idles_iff {m : CryoControlSM} (h : Interlock m) (hpow : Powered m) :
    Idles m ↔ m.currentFSMState = .idle := by
  constructor
  · exact Idles.state
  · intro hst
    have hf := h.inForce
    rw [hst] at hf
    obtain ⟨hheater, hcc⟩ := hpow.off_of_undriven (by rw [hst]; rfl)
    have habs : ¬ m.absPID.inAuto = true := fun ha => by cases hf.absMode.mp ha
    have hrate : ¬ m.ratePID.inAuto = true := fun hr => by cases hf.rateMode.mp hr
    exact ⟨hst, hheater, hcc, hf.cooler, by simpa using habs, by simpa using hrate⟩

theorem hold_idle_iff {target cur : ℚ} (hhot : cur > 300) (hlow : target < 300)
    (st : FSMStates) :
    Latch.hold (named target) st cur = .idle ↔ FSMStates.Range target .idle cur := by
  -- above 300 K the first rule fires, so that no state is held
  have hnamed : (named target cur).isSome := by
    simp only [named, hhot, hlow, and_self, if_true]
    split_ifs <;> rfl
  obtain ⟨next, hnext⟩ := Option.isSome_iff_exists.mp hnamed
  rw [← named_eq_some_iff, Latch.hold, hnext, Option.getD_some, Option.some_inj]

/-- Above 300 K with a set point under 300 K a fresh sweep idles exactly when no
later rule applies: the set point is at least 220 K and more than 2 K below the
temperature. -/
theorem hot_sweep_idles_iff (mem : CryoControlSM) (absTime rateTime : UInt64)
    (ss : List Sweep) {s : Sweep} (hfresh : ¬ s.Stale) (hhot : s.packet.curTemp > 300)
    (hlow : s.packet.tTemp < 300) :
    Idles ((Transition.run smEngine (construct mem absTime rateTime) ss).smEngine s) ↔
      220 ≤ s.packet.tTemp ∧ s.packet.tTemp + 2 < s.packet.curTemp := by
  have h := run_interlock mem absTime rateTime ss
  rw [idles_iff (smEngine_interlock _ s h) (smEngine_powered h s), smEngine_currentFSMState h,
    nextState_eq_hold h hfresh, hold_idle_iff hhot hlow, FSMStates.Range]
  constructor
  · rintro ⟨hcold, -, -, hwarm⟩
    exact ⟨hcold, hwarm⟩
  · rintro ⟨hcold, hwarm⟩
    exact ⟨hcold, hlow, hhot, hwarm⟩

theorem hot_sweep_idles_iff_sample :
    Idles ((Transition.run smEngine (construct default 0 0) []).smEngine
        (sampleSweep 250 301 0 0)) ↔
      220 ≤ (sampleSweep 250 301 0 0).packet.tTemp ∧
        (sampleSweep 250 301 0 0).packet.tTemp + 2 < (sampleSweep 250 301 0 0).packet.curTemp :=
  hot_sweep_idles_iff default 0 0 [] (by decide +kernel) (by decide +kernel) (by decide +kernel)

/-- At 301 K with a set point of 100 K the machine cools down. -/
theorem not_hot_sweep_idles :
    ¬ ∀ (mem : CryoControlSM) (absTime rateTime : UInt64) (ss : List Sweep) (s : Sweep),
      ¬ s.Stale → s.packet.curTemp > 300 → s.packet.tTemp < 300 →
        Idles ((Transition.run smEngine (construct mem absTime rateTime) ss).smEngine s) := by
  intro h
  have hidles := h default 0 0 [] (sampleSweep 100 301 0 0) (by decide +kernel)
    (by decide +kernel) (by decide +kernel)
  have hcools : (smEngine (construct default 0 0) (sampleSweep 100 301 0 0)).currentFSMState =
      .coolDownHot := by decide +kernel
  exact absurd (hcools.symm.trans hidles.state) (by decide)

end CryoControlSM
end CryoController
