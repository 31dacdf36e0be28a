import CryoController.Interlock

/-!
# Bounds of the drive and what is published of it

The value of a sweep comes from the controller that drives, so it is within the
limits of the actuation, and it is zero where nothing drives. The check after
the run splits it by sign. Both facts hold of the constructed machine and are
kept by every sweep.
-/

open Saturation
namespace CryoController
namespace CryoControlSM

structure Powered (m : CryoControlSM) : Prop where
  value : m.thisRunPIDValue ∈ Set.Icc m.currentFSMState.actuation.lower 75
  undriven : m.currentFSMState.actuation.driver = .none → m.thisRunPIDValue = 0
  heater : m.thisRunHeaterPower = if m.tripped then 0 else max m.thisRunPIDValue 0
  cc : m.thisRunCCPower = if m.tripped then 0 else max (-m.thisRunPIDValue) 0

theorem construct_powered (mem : CryoControlSM) (absTime rateTime : UInt64) :
    Powered (construct mem absTime rateTime) := by
  have hnot : ¬ (construct mem absTime rateTime).tripped := by
    simp [tripped, construct]
  constructor
  · simp [construct, FSMStates.actuation]
  · exact fun _ => rfl
  · rw [if_neg hnot]
    simp [construct]
  · rw [if_neg hnot]
    simp [construct]

theorem drive_value {a : Actuation} {m : CryoControlSM} (h : InForce a m) (now : UInt64) :
    (drive a m now).thisRunPIDValue ∈ Set.Icc a.lower 75 ∧
      (a.driver = .none → (drive a m now).thisRunPIDValue = 0) := by
  have hd := drive_inForce h now
  have hnonpos := a.lower_nonpos
  cases hdrv : a.driver with
  | none =>
    simp only [drive, hdrv]
    exact ⟨⟨hnonpos, by norm_num⟩, fun _ => trivial⟩
  | absPID =>
    have hb := ((hd.absBounded hdrv).within hd.absLimits).1
    have hval : (drive a m now).thisRunPIDValue = (drive a m now).absPID.myOutput := by
      simp only [drive, hdrv, tOutput]
    exact ⟨hval ▸ hb, fun h => by cases h⟩
  | ratePID =>
    have hb := ((hd.rateBounded hdrv).within hd.rateLimits).1
    have hval : (drive a m now).thisRunPIDValue = (drive a m now).ratePID.myOutput := by
      simp only [drive, hdrv, rOutput]
    exact ⟨hval ▸ hb, fun h => by cases h⟩

theorem smEngine_powered {m : CryoControlSM} (h : Interlock m) (s : Sweep) :
    Powered (m.smEngine s) := by
  have hval := drive_value (enter_inForce (m.nextState s).actuation (m.settle s)) s.computeTime
  have hstate := smEngine_currentFSMState h s
  constructor
  · rw [hstate, smEngine_eq_drive h, postRunSanityCheck_eq]
    exact hval.1
  · rw [hstate, smEngine_eq_drive h, postRunSanityCheck_eq]
    exact hval.2
  · rw [smEngine_eq_drive h, postRunSanityCheck_eq]
    rfl
  · rw [smEngine_eq_drive h, postRunSanityCheck_eq]
    rfl

theorem run_powered (mem : CryoControlSM) (absTime rateTime : UInt64) (ss : List Sweep) :
    Powered (Transition.run smEngine (construct mem absTime rateTime) ss) := by
  rcases List.eq_nil_or_concat ss with rfl | ⟨ss, s, rfl⟩
  · exact construct_powered mem absTime rateTime
  · rw [List.concat_eq_append, Transition.run_concat]
    exact smEngine_powered (run_interlock mem absTime rateTime ss) s

namespace Powered
variable {m : CryoControlSM} (h : Powered m)
include h

theorem heater_bounds : 0 ≤ m.thisRunHeaterPower ∧ m.thisRunHeaterPower ≤ 75 := by
  rw [h.heater]
  split_ifs
  · exact ⟨le_rfl, by norm_num⟩
  · exact ⟨le_max_right _ _, max_le h.value.2 (by norm_num)⟩

theorem cc_bounds :
    0 ≤ m.thisRunCCPower ∧ m.thisRunCCPower ≤ -m.currentFSMState.actuation.lower := by
  have hnonpos := m.currentFSMState.actuation.lower_nonpos
  have hlo := h.value.1
  rw [h.cc]
  split_ifs
  · exact ⟨le_rfl, by linarith⟩
  · exact ⟨le_max_right _ _, max_le (by linarith) (by linarith)⟩

theorem exclusive : m.thisRunHeaterPower = 0 ∨ m.thisRunCCPower = 0 := by
  rw [h.heater, h.cc]
  split_ifs
  · exact Or.inl rfl
  · rcases le_total m.thisRunPIDValue 0 with hv | hv
    · exact Or.inl (max_eq_right hv)
    · exact Or.inr (max_eq_right (by linarith))

theorem difference (ht : ¬ m.tripped) :
    m.thisRunHeaterPower - m.thisRunCCPower = m.thisRunPIDValue := by
  rw [h.heater, h.cc, if_neg ht, if_neg ht]
  rcases le_total m.thisRunPIDValue 0 with hv | hv
  · rw [max_eq_right hv, max_eq_left (by linarith)]
    ring
  · rw [max_eq_left hv, max_eq_right (by linarith)]
    ring

theorem off_of_undriven (hd : m.currentFSMState.actuation.driver = .none) :
    m.thisRunHeaterPower = 0 ∧ m.thisRunCCPower = 0 := by
  rw [h.heater, h.cc, h.undriven hd]
  simp

end Powered

theorem smEngine_sentCCPower {m : CryoControlSM} (h : Interlock m) (s : Sweep) :
    (m.smEngine s).sentCCPower = m.thisRunCCPower + s.packet.pMin := by
  rw [smEngine_keeps sentCCPower h s, enter, settle, prepare_eq]

theorem statements_heaterPW {m : CryoControlSM} {d : DataPacket} {power : ℚ}
    (h : .setHeaterPW power ∈ m.statements d) : power = m.thisRunHeaterPower := by
  simp only [statements] at h
  split_ifs at h <;> simpa using h

theorem statements_ccPower {m : CryoControlSM} {d : DataPacket} {power : ℚ}
    (h : .setCCPower power ∈ m.statements d) : power = m.thisRunCCPower + d.pMin := by
  simp only [statements] at h
  split_ifs at h <;> simpa using h

/-- The drive after any sweeps, from any memory, and what the next exchange with
the database makes of it. -/
theorem sweeps_bound_drive (mem : CryoControlSM) (absTime rateTime : UInt64)
    (ss : List Sweep) :
    let m := Transition.run smEngine (construct mem absTime rateTime) ss
    let lower : ℚ := if m.currentFSMState ∈ [.coolDownCold, .maintainCold] then -120 else 0
    (m.currentFSMState ∈ [.warmup, .coolDownHot, .coolDownCold] →
      m.rOutput ∈ Set.Icc lower 75 ∧ m.ratePID.outputSum ∈ Set.Icc lower 75) ∧
    (m.currentFSMState ∈ [.maintainWarm, .maintainCold] →
      m.tOutput ∈ Set.Icc lower 75 ∧ m.absPID.outputSum ∈ Set.Icc lower 75) ∧
    (0 ≤ m.thisRunHeaterPower ∧ m.thisRunHeaterPower ≤ 75) ∧
    (0 ≤ m.thisRunCCPower ∧ m.thisRunCCPower ≤ 120) ∧
    (m.thisRunHeaterPower = 0 ∨ m.thisRunCCPower = 0) ∧
    (m.currentFSMState ∉ [.coolDownCold, .maintainCold] → m.thisRunCCPower = 0) ∧
    (m.currentFSMState ∈ [.idle, .fault] →
      m.thisRunHeaterPower = 0 ∧ m.thisRunCCPower = 0) ∧
    (¬ m.tripped → m.thisRunHeaterPower - m.thisRunCCPower = m.thisRunPIDValue) ∧
    ∀ s : Sweep,
      (∀ power, .setHeaterPW power ∈ m.statements s.packet → 0 ≤ power ∧ power ≤ 75) ∧
      (∀ power, .setCCPower power ∈ m.statements s.packet →
        power = (m.smEngine s).sentCCPower) ∧
      s.packet.pMin ≤ (m.smEngine s).sentCCPower ∧
      (m.smEngine s).sentCCPower ≤ s.packet.pMin + 120 := by
  intro m lower
  have hi : Interlock m := run_interlock mem absTime rateTime ss
  have hp : Powered m := run_powered mem absTime rateTime ss
  have hf := hi.inForce
  have hlower : m.currentFSMState.actuation.lower = lower := m.currentFSMState.actuation_lower
  have hcc := hp.cc_bounds
  have hcc120 : m.thisRunCCPower ≤ 120 := by
    refine hcc.2.trans ?_
    cases m.currentFSMState <;> norm_num [FSMStates.actuation]
  refine ⟨?_, ?_, hp.heater_bounds, ⟨hcc.1, hcc120⟩, hp.exclusive, ?_, ?_, hp.difference, ?_⟩
  · intro hst
    have hdriver := m.currentFSMState.actuation_ratePID.mpr hst
    exact (hf.rateBounded hdriver).within (hlower ▸ hf.rateLimits)
  · intro hst
    have hdriver := m.currentFSMState.actuation_absPID.mpr hst
    exact (hf.absBounded hdriver).within (hlower ▸ hf.absLimits)
  · intro hst
    have hzero : m.currentFSMState.actuation.lower = 0 := by rw [hlower]; exact if_neg hst
    rw [hzero, neg_zero] at hcc
    exact le_antisymm hcc.2 hcc.1
  · intro hst
    exact hp.off_of_undriven (m.currentFSMState.actuation_undriven.mpr hst)
  · intro s
    have hsent : (m.smEngine s).sentCCPower = m.thisRunCCPower + s.packet.pMin :=
      smEngine_sentCCPower hi s
    refine ⟨?_, ?_, ?_, ?_⟩
    · intro power hmem
      rw [statements_heaterPW hmem]
      exact hp.heater_bounds
    · intro power hmem
      rw [statements_ccPower hmem, hsent]
    · rw [hsent]
      linarith [hcc.1]
    · rw [hsent]
      linarith

end CryoControlSM
end CryoController
