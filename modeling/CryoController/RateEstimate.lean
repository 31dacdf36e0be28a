import CryoController.OverTemperature

/-!
# The rate estimate

`TempratureRateMovingAvg` averages the change of temperature from sweep to sweep.
A sweep whose previous temperature is 0, as it is before the first one, leaves it alone.
-/

open MovingAverage
namespace CryoController

def observedChanges (prev : ℚ) : List Sweep → List ℚ
  | [] => []
  | s :: ss =>
    if prev ≠ 0 then (s.packet.curTemp - prev) :: observedChanges s.packet.curTemp ss
    else observedChanges s.packet.curTemp ss

/-- The newest change weighs 1/20, and each other one 19/20 of the one after it. -/
structure RateAverage (avg : ℚ) (changes : List ℚ) : Prop where
  weighted : avg =
    ∑ i : Fin changes.length, 1 / 20 * (19 / 20) ^ (changes.length - 1 - i) * changes[i]
  least_le : (0 :: changes).min (List.cons_ne_nil _ _) ≤ avg
  le_greatest : avg ≤ (0 :: changes).max (List.cons_ne_nil _ _)
  steady : ∀ c, (∀ x ∈ changes, x = c) → avg = c * (1 - (19 / 20) ^ changes.length)

theorem run_rateAverage (changes : List ℚ) :
    RateAverage (Transition.run (update rateMovingAvgN) 0 changes) changes := by
  have hnew : rateMovingAvgN⁻¹ = 1 / 20 := by norm_num [rateMovingAvgN]
  have hold : 1 - rateMovingAvgN⁻¹ = 19 / 20 := by norm_num [rateMovingAvgN]
  have hmem := run_mem_min_max one_le_rateMovingAvgN 0 changes
  refine ⟨?_, hmem.1, hmem.2, ?_⟩
  · rw [run_eq_sum, hold, hnew, mul_zero, zero_add]
  · intro c hc
    have hlack := sub_run_const (n := rateMovingAvgN) hc 0
    rw [hold] at hlack
    linarith

namespace CryoControlSM

theorem nextRate_eq (m : CryoControlSM) (d : DataPacket) :
    m.nextRate d =
      if m.currentTemperature ≠ 0 then
        update rateMovingAvgN m.tempratureRateMovingAvg (d.curTemp - m.currentTemperature)
      else m.tempratureRateMovingAvg := by
  rw [nextRate, update]
  split_ifs
  · ring
  · rfl

theorem run_rate {m : CryoControlSM} (h : Interlock m) (ss : List Sweep) :
    (Transition.run smEngine m ss).tempratureRateMovingAvg =
      Transition.run (update rateMovingAvgN) m.tempratureRateMovingAvg
        (observedChanges m.currentTemperature ss) := by
  induction ss generalizing m with
  | nil => rfl
  | cons s ss ih =>
    rw [Transition.run_cons, ih (smEngine_interlock m s h), smEngine_rate h,
      smEngine_currentTemperature h, nextRate_eq, observedChanges]
    by_cases hprev : m.currentTemperature ≠ 0
    · rw [if_pos hprev, if_pos hprev, Transition.run_cons]
    · rw [if_neg hprev, if_neg hprev]

theorem rate_weighted_average (mem : CryoControlSM) (absTime rateTime : UInt64)
    (ss : List Sweep) :
    RateAverage (Transition.run smEngine (construct mem absTime rateTime) ss).tempratureRateMovingAvg
      (observedChanges 0 ss) := by
  have hrate := run_rate (construct_interlock mem absTime rateTime) ss
  have hfirst : (construct mem absTime rateTime).tempratureRateMovingAvg = 0 ∧
      (construct mem absTime rateTime).currentTemperature = 0 := ⟨rfl, rfl⟩
  rw [hfirst.1, hfirst.2] at hrate
  rw [hrate]
  exact run_rateAverage _

end CryoControlSM
end CryoController
