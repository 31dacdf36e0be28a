import CryoController.Interlock

/-!
# Which states the range rules decide

The rules of `StateDecision` leave gaps in the plane of set point and
temperature: set points from 220 K up with a temperature more than 2 K away,
unless the temperature is more than 10 K below and under 290 K or the chamber
is over 300 K with a set point under 300 K. In a gap the previous state is kept,
whichever it is. Warming up away from the set point, cooling down away from it
and staying in Fault with fresh rows are the three ways in which that matters,
and each is characterised exactly here, for one sweep and along runs.
-/

open Conversion
namespace CryoController
namespace CryoControlSM

def RuleFires (target cur : ℚ) : Prop :=
  (cur > 300 ∧ target < 300) ∨ (target > cur + 10 ∧ cur < 290) ∨
  (target < 220 ∧ target < cur - 10) ∨
  (target < 220 ∧ |target - cur| ≤ 10 ∧ cur ≤ 220) ∨
  (target > 220 ∧ |target - cur| ≤ 2 ∧ cur > 220)

theorem rangeRules_of_gap {target cur : ℚ} (h : ¬ RuleFires target cur) (st : FSMStates) :
    rangeRules target cur st = st := by
  simp only [RuleFires, not_or] at h
  obtain ⟨hidle, hwarm, hcool, hcold, hhold⟩ := h
  have hhot : ¬ (target < 220 ∧ target < cur - 10 ∧ cur > 220) :=
    fun hc => hcool ⟨hc.1, hc.2.1⟩
  have hcool' : ¬ (target < 220 ∧ target < cur - 10 ∧ cur ≤ 220) :=
    fun hc => hcool ⟨hc.1, hc.2.1⟩
  simp only [rangeRules, if_neg hidle, if_neg hwarm, if_neg hhot, if_neg hcool', if_neg hcold,
    if_neg hhold]

theorem rangeRules_ne_fault {target cur : ℚ} (h : RuleFires target cur) (st : FSMStates) :
    rangeRules target cur st ≠ .fault := by
  simp only [rangeRules]
  split_ifs with hhold hcold hcool hhot hwarm hidle
  · decide
  · decide
  · decide
  · decide
  · decide
  · decide
  · exfalso
    rcases h with h | h | h | h | h
    · exact hidle h
    · exact hwarm h
    · rcases le_or_gt cur 220 with hc | hc
      · exact hcool ⟨h.1, h.2, hc⟩
      · exact hhot ⟨h.1, h.2, hc⟩
    · exact hcold h
    · exact hhold h

theorem not_hold_of_away {target cur : ℚ} (h : target < cur - 10 ∨ target > cur + 10) :
    ¬ (target < 220 ∧ |target - cur| ≤ 10 ∧ cur ≤ 220) ∧
      ¬ (target > 220 ∧ |target - cur| ≤ 2 ∧ cur > 220) := by
  constructor
  · rintro ⟨-, hband, -⟩
    have hb := abs_le.mp hband
    rcases h with h | h
    · linarith [hb.1]
    · linarith [hb.2]
  · rintro ⟨-, hband, -⟩
    have hb := abs_le.mp hband
    rcases h with h | h
    · linarith [hb.1]
    · linarith [hb.2]

theorem rangeRules_warmup_below {target cur : ℚ} (h : target < cur - 10) (st : FSMStates) :
    rangeRules target cur st = .warmup ↔
      st = .warmup ∧ 220 ≤ target ∧ ¬ (cur > 300 ∧ target < 300) := by
  obtain ⟨hcold, hhold⟩ := not_hold_of_away (Or.inl h)
  have hwarm : ¬ (target > cur + 10 ∧ cur < 290) := fun hw => by linarith [hw.1]
  simp only [rangeRules, if_neg hcold, if_neg hhold, if_neg hwarm]
  by_cases ht : target < 220
  · have hno : ¬ 220 ≤ target := not_le.mpr ht
    rcases le_or_gt cur 220 with hc | hc
    · simp [ht, h, hc, hno]
    · simp [ht, h, hc, not_le.mpr hc, hno]
  · simp only [ht, false_and, if_false, not_lt.mp ht, true_and]
    split_ifs with hidle
    · simp [hidle]
    · simp [hidle]

theorem rangeRules_coolDown_above {target cur : ℚ} (h : target > cur + 10) (st : FSMStates) :
    rangeRules target cur st ∈ [.coolDownHot, .coolDownCold] ↔
      st ∈ [.coolDownHot, .coolDownCold] ∧ 290 ≤ cur := by
  obtain ⟨hcold, hhold⟩ := not_hold_of_away (Or.inr h)
  have hcool : ¬ target < cur - 10 := by linarith
  simp only [rangeRules, if_neg hcold, if_neg hhold, hcool, false_and, and_false, if_false]
  by_cases hc : cur < 290
  · have hno : ¬ 290 ≤ cur := not_le.mpr hc
    simp [h, hc, hno]
  · have hidle : ¬ (cur > 300 ∧ target < 300) := fun hi => by linarith [hi.1, hi.2]
    simp [hc, hidle, not_lt.mp hc]

def TowardSetPoint (m : CryoControlSM) (s : Sweep) : Prop :=
  ¬ ((m.smEngine s).currentFSMState = .warmup ∧
      (m.smEngine s).setTemperature < (m.smEngine s).currentTemperature - 10) ∧
  ¬ ((m.smEngine s).currentFSMState ∈ [.coolDownHot, .coolDownCold] ∧
      (m.smEngine s).setTemperature > (m.smEngine s).currentTemperature + 10)

/-- The machine meets a packet in a gap of the rules in a state that drives the
other way. -/
def CaughtInGap (m : CryoControlSM) (s : Sweep) : Prop :=
  (m.currentFSMState = .warmup ∧ s.packet.tTemp < s.packet.curTemp - 10 ∧
    220 ≤ s.packet.tTemp ∧ ¬ (s.packet.curTemp > 300 ∧ s.packet.tTemp < 300)) ∨
  (m.currentFSMState ∈ [.coolDownHot, .coolDownCold] ∧
    s.packet.tTemp > s.packet.curTemp + 10 ∧ 290 ≤ s.packet.curTemp)

theorem towardSetPoint_iff {m : CryoControlSM} (h : Interlock m) (s : Sweep) :
    TowardSetPoint m s ↔ s.Stale ∨ ¬ CaughtInGap m s := by
  have hset := smEngine_setTemperature h s
  have hcur := smEngine_currentTemperature h s
  rw [TowardSetPoint, smEngine_currentFSMState h, hset, hcur, nextState]
  by_cases hs : s.Stale
  · simp [hs]
  · rw [if_neg hs, ← h.settled, or_iff_right hs, CaughtInGap, not_or]
    refine and_congr (not_congr ?_) (not_congr ?_)
    · constructor
      · rintro ⟨hw, haway⟩
        obtain ⟨hst, hrest⟩ := (rangeRules_warmup_below haway _).mp hw
        exact ⟨hst, haway, hrest⟩
      · rintro ⟨hst, haway, hrest⟩
        exact ⟨(rangeRules_warmup_below haway _).mpr ⟨hst, hrest⟩, haway⟩
    · constructor
      · rintro ⟨hw, haway⟩
        obtain ⟨hst, hhot⟩ := (rangeRules_coolDown_above haway _).mp hw
        exact ⟨hst, haway, hhot⟩
      · rintro ⟨hst, haway, hhot⟩
        exact ⟨(rangeRules_coolDown_above haway _).mpr ⟨hst, hhot⟩, haway⟩

theorem sweeps_toward_setPoint_iff (mem : CryoControlSM) (absTime rateTime : UInt64)
    (ss : List Sweep) :
    Transition.Along smEngine TowardSetPoint (construct mem absTime rateTime) ss ↔
      Transition.Along smEngine (fun m s => s.Stale ∨ ¬ CaughtInGap m s)
        (construct mem absTime rateTime) ss :=
  Transition.along_congr smEngine_interlock (fun _ s h => towardSetPoint_iff h s)
    (construct_interlock mem absTime rateTime) ss

def sampleSweep (target cur : ℚ) (lshTime ccTime : ℤ) : Sweep where
  ctrlRow := { (default : ControlParameters) with tTemperature := target }
  tcRow := { (default : CCState) with timeS := some ccTime, tc := cur }
  lshRow := { (default : LSHState) with timeS := some lshTime }
  mem := default
  nowTime := 0
  undefInt := fun _ => 0
  computeTime := 0

/-- Warmed toward 285 K, then asked for 230 K at 250 K: the machine goes on warming. -/
theorem not_sweeps_toward_setPoint :
    ¬ ∀ (mem : CryoControlSM) (absTime rateTime : UInt64) (ss : List Sweep),
      (∀ s ∈ ss, ¬ s.Stale) →
        Transition.Along smEngine TowardSetPoint (construct mem absTime rateTime) ss := by
  intro h
  have hfresh : ∀ s ∈ [sampleSweep 285 250 0 0, sampleSweep 230 250 0 0], ¬ s.Stale := by
    decide +kernel
  obtain ⟨-, hlast, -⟩ := h default 0 0 _ hfresh
  exact hlast.1 (by decide +kernel)

end CryoControlSM

def Sweep.Timely (s : Sweep) : Prop :=
  s.lshRow.timeS.isSome = true ∧ s.tcRow.timeS.isSome = true ∧
    InIntRange (s.nowTime - s.packet.lastLSHTime) ∧ InIntRange (s.nowTime - s.packet.lastCCTime)

def Sweep.Lost (s : Sweep) : Prop :=
  s.nowTime - s.packet.lastLSHTime > 60 ∨ s.nowTime - s.packet.lastCCTime > 60

theorem Sweep.Timely.stale_iff {s : Sweep} (h : s.Timely) : s.Stale ↔ s.Lost := by
  obtain ⟨-, -, hlsh, hcc⟩ := h
  rw [Sweep.Stale, Sweep.deltaLSH, Sweep.deltaCC, intOfDouble_intCast hlsh,
    intOfDouble_intCast hcc, Sweep.Lost]

namespace CryoControlSM

def FaultIffLost (m : CryoControlSM) (s : Sweep) : Prop :=
  (m.smEngine s).currentFSMState = .fault ↔ s.Lost

theorem nextState_fault_iff (m : CryoControlSM) (s : Sweep) :
    m.nextState s = .fault ↔
      s.Stale ∨ (m.shouldBeFSMState = .fault ∧ ¬ RuleFires s.packet.tTemp s.packet.curTemp) := by
  rw [nextState]
  by_cases hs : s.Stale
  · simp [hs]
  · rw [if_neg hs, or_iff_right hs]
    by_cases hr : RuleFires s.packet.tTemp s.packet.curTemp
    · simp [hr, rangeRules_ne_fault hr]
    · simp [hr, rangeRules_of_gap hr]

theorem faultIffLost_iff {m : CryoControlSM} (h : Interlock m) {s : Sweep} (ht : s.Timely) :
    FaultIffLost m s ↔ s.Lost ∨ m.currentFSMState ≠ .fault ∨
      RuleFires s.packet.tTemp s.packet.curTemp := by
  rw [FaultIffLost, smEngine_currentFSMState h, nextState_fault_iff, ht.stale_iff, ← h.settled]
  by_cases hl : s.Lost
  · simp [hl]
  · rw [or_iff_right hl, or_iff_right hl, iff_false_right hl, not_and_or, not_not]

theorem sweeps_fault_iff_lost (mem : CryoControlSM) (absTime rateTime : UInt64)
    (ss : List Sweep) :
    Transition.Along smEngine (fun m s => s.Timely → FaultIffLost m s)
        (construct mem absTime rateTime) ss ↔
      Transition.Along smEngine
        (fun m s => s.Timely → s.Lost ∨ m.currentFSMState ≠ .fault ∨
          RuleFires s.packet.tTemp s.packet.curTemp)
        (construct mem absTime rateTime) ss :=
  Transition.along_congr smEngine_interlock
    (fun _ s h => forall_congr' fun (ht : s.Timely) => faultIffLost_iff h ht)
    (construct_interlock mem absTime rateTime) ss

/-- The rows are fresh again at the second sweep, at 245 K with a set point of
250 K, and the machine stays in Fault. -/
theorem not_sweeps_fault_iff_lost :
    ¬ ∀ (mem : CryoControlSM) (absTime rateTime : UInt64) (ss : List Sweep),
      (∀ s ∈ ss, s.Timely) →
        Transition.Along smEngine FaultIffLost (construct mem absTime rateTime) ss := by
  intro h
  have htimely : ∀ s ∈ [sampleSweep 250 245 (-61) 0, sampleSweep 250 245 0 0], s.Timely := by
    simp only [Sweep.Timely, InIntRange]
    decide +kernel
  obtain ⟨-, hlast, -⟩ := h default 0 0 _ htimely
  have hfresh : ¬ (sampleSweep 250 245 0 0).Lost := by
    simp only [Sweep.Lost]
    decide +kernel
  exact hfresh (hlast.mp (by decide +kernel))

end CryoControlSM
end CryoController
