import CryoController.PowerLimits
import CryoController.Foundations.Cadence

/-!
# How often the cooler is switched

`numRefreshes` counts the completed sweeps: the others never reach it. So it
numbers them, and the remainders by 5 and by 30 that the sweep tests pace the
adjustments and the switching, whatever happens between two sweeps. What a sweep
calls shows in the commands that it sends: `PowerOnOff` sends one `SET SSTOP=`, and
the mode is asked for after the periodic `AdjustCryoPower` only.
-/

open Cadence
namespace CryoController

namespace CCCommand

def isSwitch : CCCommand → Bool
  | setSSTOP _ => true
  | _ => false

def switchCalls (cmds : List CCCommand) : ℕ := cmds.countP isSwitch

def periodicCalls : List CCCommand → ℕ
  | setPWOUT _ :: pid :: cmds => periodicCalls cmds + 1
  | _ :: cmds => periodicCalls cmds
  | [] => 0

theorem periodicCalls_of_pid_notMem {cmds : List CCCommand} (h : pid ∉ cmds) :
    periodicCalls cmds = 0 := by
  induction cmds using periodicCalls.induct with
  | case1 power cmds ih => simp at h
  | case2 cmd cmds hother ih =>
    rw [periodicCalls]
    · exact ih fun hmem => h (List.mem_cons_of_mem cmd hmem)
    · exact hother
  | case3 => rfl

end CCCommand

namespace CCDrone

section Commands
variable (m : CCDrone) (r : Refresh)

/-- The commands of `PowerOnOff`, up to the exception if it ends in one. -/
def switchCommands : List CCCommand :=
  .setSSTOP (!(m.modeSet r).newCCPowerState) ::
    if (m.modeSet r).newCCPowerState = false ∧
        ((m.modeSet r).powerOnOff (m.modeSet r).newCCPowerState r.undefStatus).isSome then [.sstop]
    else []

def adjustCommands (c : Cryocooler) : List CCCommand := [.setPWOUT (c.sendCCPower r.undefInt)]

def commands : List CCCommand :=
  (if m.AdjustsPower then adjustCommands r (m.rowRead r) ++ [.pid] else []) ++
  (if (m.powerAdjusted r).controllerMode ≠ 0 ∧ (m.numRefreshes + 1) % 30 = 0 then [.setPID 0]
    else []) ++
  if m.Switches r then m.switchCommands r ++ ((m.switchedOn r).map (adjustCommands r)).flatten
  else []

theorem modeSet_sent : (m.modeSet r).port.sent = m.cooler.port.sent ++
    ((if m.AdjustsPower then adjustCommands r (m.rowRead r) ++ [.pid] else []) ++
      if (m.powerAdjusted r).controllerMode ≠ 0 ∧ (m.numRefreshes + 1) % 30 = 0 then [.setPID 0]
      else []) := by
  have hadjusted : (m.powerAdjusted r).port.sent = m.cooler.port.sent ++
      if m.AdjustsPower then adjustCommands r (m.rowRead r) ++ [.pid] else [] := by
    rw [powerAdjusted]
    split_ifs
    · rw [Cryocooler.getPIDState_sent]
      exact List.append_assoc _ _ _
    · exact (List.append_nil _).symm
  rw [modeSet, ← List.append_assoc, ← hadjusted]
  split_ifs
  · exact Cryocooler.setCryoMode_sent _ _
  · exact (List.append_nil _).symm

theorem sweep_commands {m d : CCDrone} {r : Refresh} (h : m.sweep r = some d) :
    d.cooler.port.sent = m.cooler.port.sent ++ m.commands r := by
  have hmode := m.modeSet_sent r
  rw [sweep_eq] at h
  rw [commands, ← List.append_assoc, ← hmode]
  by_cases hswitch : m.Switches r
  · rw [if_pos hswitch] at h ⊢
    obtain ⟨c, hpower, rfl⟩ := Option.map_eq_some_iff.mp h
    have hsent := Cryocooler.powerOnOff_sent hpower
    have hcommands : (if (m.modeSet r).newCCPowerState = true then [.setSSTOP false]
        else [CCCommand.setSSTOP true, .sstop]) = m.switchCommands r := by
      rw [switchCommands, hpower]
      cases (m.modeSet r).newCCPowerState with
      | true => rfl
      | false => rfl
    rw [hcommands] at hsent
    rw [switchedOn, if_pos hswitch, hpower, ← List.append_assoc, ← hsent]
    change (if c.isON then c.adjustCryoPower r.undefInt else c).port.sent =
      c.port.sent ++ ((if c.isON then [c] else []).map (adjustCommands r)).flatten
    split_ifs
    · rfl
    · exact (List.append_nil _).symm
  · rw [if_neg hswitch] at h ⊢
    cases h
    exact (List.append_nil _).symm

theorem modeSet_newCCPowerState :
    (m.modeSet r).newCCPowerState = decide (r.ccPowerState ≠ 0) :=
  m.modeSet_keeps r (f := (·.newCCPowerState)) (fun _ _ _ => rfl) (fun _ _ => rfl) fun _ _ => rfl

theorem mem_commands_iff {cmd : CCCommand} : cmd ∈ m.commands r ↔
    m.AdjustsPower ∧ (cmd = .setPWOUT ((m.rowRead r).sendCCPower r.undefInt) ∨ cmd = .pid) ∨
      ((m.powerAdjusted r).controllerMode ≠ 0 ∧ (m.numRefreshes + 1) % 30 = 0) ∧
          cmd = .setPID 0 ∨
        m.Switches r ∧ (cmd ∈ m.switchCommands r ∨
          ∃ c ∈ m.switchedOn r, cmd = .setPWOUT (c.sendCCPower r.undefInt)) := by
  simp only [commands, adjustCommands, List.mem_append, List.mem_ite_nil_right, List.mem_singleton,
    List.mem_flatten, List.mem_map, exists_exists_and_eq_and, or_assoc]

theorem mem_switchCommands {cmd : CCCommand} (h : cmd ∈ m.switchCommands r) :
    cmd = .setSSTOP (decide (r.ccPowerState = 0)) ∨ cmd = .sstop := by
  rw [switchCommands, modeSet_newCCPowerState, List.mem_cons, List.mem_ite_nil_right] at h
  refine h.imp ?_ fun hlast => List.mem_singleton.mp hlast.2
  intro hfirst
  rw [hfirst, decide_not, Bool.not_not]

theorem power_of_mem_commands {n : ℤ} (h : .setPWOUT n ∈ m.commands r) :
    n = (m.rowRead r).sendCCPower r.undefInt := by
  rcases (m.mem_commands_iff r).mp h with
    ⟨-, hperiodic | hpid⟩ | ⟨-, hpid⟩ | ⟨-, hswitch | ⟨c, hc, hlast⟩⟩
  · exact CCCommand.setPWOUT.inj hperiodic
  · cases hpid
  · cases hpid
  · rcases m.mem_switchCommands r hswitch with hstop | hstop <;> cases hstop
  · -- what the switch leaves alone are the limits and the request
    have htargets := m.adjusted_targets r (List.mem_append_right _ hc)
    simp only [Prod.mk.injEq] at htargets
    obtain ⟨hmin, hmax, hrequest⟩ := htargets
    have hrow : (m.rowRead r).pMin = m.cooler.pMin ∧ (m.rowRead r).pMax = m.cooler.pMax ∧
        (m.rowRead r).newCCPower = r.ccPower := ⟨rfl, rfl, rfl⟩
    rw [CCCommand.setPWOUT.inj hlast]
    simp only [Cryocooler.sendCCPower, hmin, hmax, hrequest, hrow.1, hrow.2.1, hrow.2.2]

theorem setSSTOP_mem_commands_iff {stop : Bool} :
    .setSSTOP stop ∈ m.commands r ↔ m.Switches r ∧ stop = decide (r.ccPowerState = 0) := by
  rw [mem_commands_iff]
  constructor
  · rintro (⟨-, hperiodic | hpid⟩ | ⟨-, hpid⟩ | ⟨hswitch, hmem | ⟨c, -, hlast⟩⟩)
    · cases hperiodic
    · cases hpid
    · cases hpid
    · rcases m.mem_switchCommands r hmem with hstop | hquery
      · exact ⟨hswitch, CCCommand.setSSTOP.inj hstop⟩
      · cases hquery
    · cases hlast
  · rintro ⟨hswitch, rfl⟩
    refine Or.inr (Or.inr ⟨hswitch, Or.inl ?_⟩)
    rw [switchCommands, modeSet_newCCPowerState, decide_not, Bool.not_not]
    exact List.mem_cons_self

theorem setPID_mem_commands_iff {mode : ℤ} :
    .setPID mode ∈ m.commands r ↔
      ((m.powerAdjusted r).controllerMode ≠ 0 ∧ (m.numRefreshes + 1) % 30 = 0) ∧ mode = 0 := by
  have hswitch : .setPID mode ∉ m.switchCommands r := fun h =>
    (m.mem_switchCommands r h).elim CCCommand.noConfusion CCCommand.noConfusion
  simp [mem_commands_iff, hswitch]

theorem mem_commands {cmd : CCCommand} (h : cmd ∈ m.commands r) :
    (∃ n, cmd = .setPWOUT n) ∨ (∃ stop, cmd = .setSSTOP stop) ∨
      cmd ∈ [.setPID 0, .pid, .sstop] := by
  rcases (m.mem_commands_iff r).mp h with
    ⟨-, rfl | rfl⟩ | ⟨-, rfl⟩ | ⟨-, hmem | ⟨c, -, rfl⟩⟩
  · exact Or.inl ⟨_, rfl⟩
  · simp
  · simp
  · rcases m.mem_switchCommands r hmem with rfl | rfl
    · exact Or.inr (Or.inl ⟨_, rfl⟩)
    · simp
  · exact Or.inl ⟨_, rfl⟩

theorem switchCalls_commands :
    CCCommand.switchCalls (m.commands r) = if m.Switches r then 1 else 0 := by
  have hfirst : (if m.AdjustsPower then
      adjustCommands r (m.rowRead r) ++ [CCCommand.pid] else []).countP CCCommand.isSwitch = 0 := by
    split_ifs <;> rfl
  have hmode : (if (m.powerAdjusted r).controllerMode ≠ 0 ∧ (m.numRefreshes + 1) % 30 = 0 then
      [CCCommand.setPID 0] else []).countP CCCommand.isSwitch = 0 := by
    split_ifs <;> rfl
  have hlast : ((m.switchedOn r).map (adjustCommands r)).flatten.countP CCCommand.isSwitch = 0 := by
    rw [List.countP_eq_zero]
    intro cmd hcmd hisSwitch
    obtain ⟨cmds, hcmds, hmem⟩ := List.mem_flatten.mp hcmd
    obtain ⟨c, -, rfl⟩ := List.mem_map.mp hcmds
    rw [List.mem_singleton.mp hmem] at hisSwitch
    cases hisSwitch
  rw [CCCommand.switchCalls, commands, List.countP_append, List.countP_append, hfirst, hmode]
  split_ifs with hswitch
  · rw [List.countP_append, hlast, switchCommands]
    split_ifs <;> rfl
  · rfl

theorem periodicCalls_commands :
    CCCommand.periodicCalls (m.commands r) = if m.AdjustsPower then 1 else 0 := by
  have hmode : CCCommand.pid ∉ (if (m.powerAdjusted r).controllerMode ≠ 0 ∧
      (m.numRefreshes + 1) % 30 = 0 then [CCCommand.setPID 0] else []) := by
    split_ifs <;> simp
  have hswitch : CCCommand.pid ∉ (if m.Switches r then
      m.switchCommands r ++ ((m.switchedOn r).map (adjustCommands r)).flatten else []) := by
    split_ifs
    · rw [switchCommands]
      split_ifs <;> simp [adjustCommands]
    · simp
  have hrest := CCCommand.periodicCalls_of_pid_notMem
    (fun h => (List.mem_append.mp h).elim hmode hswitch)
  rw [commands, List.append_assoc]
  by_cases hadjusts : m.AdjustsPower
  · rw [if_pos hadjusts, if_pos hadjusts]
    exact congrArg (· + 1) hrest
  · rw [if_neg hadjusts, if_neg hadjusts]
    exact hrest

end Commands

def Differs (d : CCDrone) (r : Refresh) : Prop := decide (r.ccPowerState ≠ 0) ≠ d.cooler.isON

instance (d : CCDrone) (r : Refresh) : Decidable (d.Differs r) :=
  inferInstanceAs (Decidable (decide (r.ccPowerState ≠ 0) ≠ d.cooler.isON))

def switchCalls (e : CCDrone × Refresh) : ℕ := CCCommand.switchCalls (e.1.commands e.2)

def periodicCalls (e : CCDrone × Refresh) : ℕ := CCCommand.periodicCalls (e.1.commands e.2)

/-- A list of completed sweeps in which `PowerOnOff` is called neither too often nor too
late, and the periodic `AdjustCryoPower` once in five. -/
structure Paced (sweeps : List (CCDrone × Refresh)) : Prop where
  sent : ∀ e ∈ sweeps, ∀ d ∈ e.1.sweep e.2,
    d.cooler.port.sent = e.1.cooler.port.sent ++ e.1.commands e.2
  once : ∀ e ∈ sweeps, switchCalls e ≤ 1
  apart : ∀ i j (hij : i < j) (hj : j < sweeps.length),
    0 < switchCalls sweeps[i] → 0 < switchCalls sweeps[j] → i + 30 ≤ j
  switched : ∀ w, w <:+: sweeps → w.length = 30 → (∀ e ∈ w, e.1.Differs e.2) →
    (w.map switchCalls).sum = 1
  adjusted : ∀ w, w <:+: sweeps → w.length = 5 → (w.map periodicCalls).sum = 1

theorem measured_numRefreshes {d m : CCDrone} (h : d.measured = some m) :
    m.numRefreshes = d.numRefreshes :=
  query_numRefreshes (measured_eq_some.mp h).2

theorem iterate_numRefreshes {d d' : CCDrone} {r : Refresh} (h : d.iterate r = some d') :
    d'.numRefreshes = d.numRefreshes + if d.measured.isSome then 1 else 0 := by
  rcases iterate_cases h with ⟨hnone, rfl⟩ | ⟨hnone, hquery⟩ | ⟨m, hsome, hsweep⟩
  · rw [hnone]
    rfl
  · rw [hnone]
    exact query_numRefreshes hquery
  · rw [hsome, sweep_numRefreshes hsweep, measured_numRefreshes hsome]
    rfl

def number (e : CCDrone × Refresh) : ℕ := e.1.numRefreshes

theorem numbered_sweeps (d : CCDrone) (rs : List Refresh) :
    Numbered number d.numRefreshes (d.sweeps rs) := by
  induction rs generalizing d with
  | nil => exact numbered_nil
  | cons r rs ih =>
    -- what the later iterations complete is numbered from the count after this one
    have hlater : Numbered number (d.numRefreshes + if d.measured.isSome then 1 else 0)
        (((d.iterate r).elim [] (iterations · rs)).filterMap completed) := by
      cases hnext : d.iterate r with
      | none => exact numbered_nil
      | some d' =>
        rw [← iterate_numRefreshes hnext]
        exact ih d'
    cases hm : d.measured with
    | none =>
      rw [hm] at hlater
      rw [sweeps, iterations_cons, List.filterMap_cons_none (by rw [completed, hm]; rfl)]
      exact hlater
    | some m =>
      rw [hm] at hlater
      rw [sweeps, iterations_cons, List.filterMap_cons_some (by rw [completed, hm]; rfl),
        numbered_cons_iff]
      exact ⟨measured_numRefreshes hm, hlater⟩

theorem switches_of_switchCalls {e : CCDrone × Refresh} (h : 0 < switchCalls e) :
    e.1.Switches e.2 := by
  rw [switchCalls, switchCalls_commands] at h
  by_contra hnot
  rw [if_neg hnot] at h
  exact Nat.lt_irrefl 0 h

theorem paced_of_numbered {first : ℕ} {sweeps : List (CCDrone × Refresh)}
    (h : Numbered number first sweeps) : Paced sweeps where
  sent := fun _ _ _ hd => sweep_commands hd
  once := by
    intro e _
    rw [switchCalls, switchCalls_commands]
    split_ifs
    · exact Nat.le_refl 1
    · exact Nat.zero_le 1
  apart := by
    intro i j hij hj hi hlater
    have hi30 := (switches_of_switchCalls hi).2
    have hj30 := (switches_of_switchCalls hlater).2
    have hmod : sweeps[i].1.numRefreshes % 30 = sweeps[j].1.numRefreshes % 30 := by
      omega
    exact h.apart hij hj hmod
  switched := by
    intro w hw hlength hdiffers
    obtain ⟨first', hnumbered⟩ := h.infix hw
    refine hnumbered.sum_window hlength (show 29 < 30 by omega) fun e he => ?_
    have hrequest : decide (e.2.ccPowerState ≠ 0) ≠ e.1.cooler.isON := hdiffers e he
    have hphase : e.1.Switches e.2 ↔ number e % 30 = 29 := by
      rw [switches_iff, and_iff_right hrequest, number]
      omega
    rw [switchCalls, switchCalls_commands]
    simp only [hphase]
  adjusted := by
    intro w hw hlength
    obtain ⟨first', hnumbered⟩ := h.infix hw
    exact hnumbered.sum_window hlength (show 0 < 5 by omega)
      fun e _ => e.1.periodicCalls_commands e.2

theorem run_paced (status : ℤ) (mem : Cryocooler) (reads : List ReadResult)
    (selects : List Bool) (rs : List Refresh) : Paced ((start status mem reads selects).sweeps rs) :=
  paced_of_numbered (numbered_sweeps _ rs)

end CCDrone
end CryoController
