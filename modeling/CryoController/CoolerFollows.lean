import CryoController.CoolerShutdown

/-!
# The cooler behind the line

The cryocooler as a device that obeys its commands: whether it runs, at which power, and
its control mode. The loop asks for its state in every sweep and for its mode in every
fifth, sends the power in every fifth, and switches and sets the mode back in every
thirtieth at most. So the device is behind the row by less than such a period, if what it
has been asked is answered with what it does.
-/

open Conversion Saturation
namespace CryoController

structure Cooler where
  on : Bool
  level : ℤ
  mode : ℤ
  deriving DecidableEq, Repr, Inhabited

namespace Cooler

def obey (k : Cooler) : CCCommand → Cooler
  | .setSSTOP stop => { k with on := !stop }
  | .setPWOUT power => { k with level := power }
  | .setPID mode => { k with mode := mode }
  | _ => k

def switches : CCCommand → Option Bool
  | .setSSTOP stop => some !stop
  | _ => none

def levels : CCCommand → Option ℤ
  | .setPWOUT power => some power
  | _ => none

def modes : CCCommand → Option ℤ
  | .setPID mode => some mode
  | _ => none

theorem obey_on (k : Cooler) (cmd : CCCommand) : (k.obey cmd).on = (switches cmd).getD k.on := by
  cases cmd <;> rfl

theorem obey_level (k : Cooler) (cmd : CCCommand) :
    (k.obey cmd).level = (levels cmd).getD k.level := by
  cases cmd <;> rfl

theorem obey_mode (k : Cooler) (cmd : CCCommand) : (k.obey cmd).mode = (modes cmd).getD k.mode := by
  cases cmd <;> rfl

theorem run_queries (k : Cooler) {cmds : List CCCommand} (h : cmds ⊆ CCDrone.queryCommands) :
    Transition.run obey k cmds = k := by
  have hkeeps : ∀ cmd ∈ cmds, ∀ s, s = k → obey s cmd = k := by
    intro cmd hcmd s hs
    have hquery := h hcmd
    simp only [CCDrone.queryCommands, List.mem_cons, List.not_mem_nil, or_false] at hquery
    rcases hquery with rfl | rfl | rfl | rfl <;> exact hs
  exact Transition.run_keeps hkeeps rfl

end Cooler

namespace CCDrone

theorem query_controllerMode {d : CCDrone} {q : Queried} (h : d.query = some q) :
    q.drone.cooler.controllerMode = d.cooler.controllerMode := by
  have hmeasure (c : Cryocooler) (cmd : CCCommand) (record : Cryocooler → ℚ → Cryocooler)
      (hrecord : ∀ c x, (record c x).controllerMode = c.controllerMode) :
      (c.measure cmd Numeral.stof record).2.controllerMode = c.controllerMode :=
    Cryocooler.measure_keeps (f := (·.controllerMode)) (fun _ _ _ => rfl) hrecord c cmd _
  have htc : d.cooler.getTC.2.controllerMode = d.cooler.controllerMode :=
    hmeasure _ _ _ fun _ _ => rfl
  have hp : d.cooler.getTC.2.getP.2.controllerMode = d.cooler.getTC.2.controllerMode :=
    hmeasure _ _ _ fun _ _ => rfl
  have he (c : Cryocooler) : c.getE.2.controllerMode = c.controllerMode := by
    simp only [Cryocooler.getE]
    split_ifs
    · rfl
    · repeat' split
      all_goals rfl
  have hcheck {c c' : Cryocooler} {status : ℤ} (h : c.checkIfON = some (status, c')) :
      c'.controllerMode = c.controllerMode := by
    simp only [Cryocooler.checkIfON] at h
    split_ifs at h
    · obtain ⟨-, rfl⟩ := Prod.mk.inj (Option.some.inj h)
      rfl
    · obtain ⟨x, -, hx⟩ := Option.map_eq_some_iff.mp h
      obtain ⟨-, rfl⟩ := Prod.mk.inj hx
      rfl
  simp only [query] at h
  split_ifs at h
  · cases h
    exact htc
  · cases h
    exact hp.trans htc
  · cases h
    exact (he _).trans (hp.trans htc)
  · obtain ⟨⟨status, c⟩, hon, hq⟩ := Option.map_eq_some_iff.mp h
    have hc := (hcheck hon).trans ((he _).trans (hp.trans htc))
    subst hq
    simp only
    split_ifs
    · exact hc
    · exact hc

theorem sweep_controllerMode {d d' : CCDrone} {r : Refresh} (h : d.sweep r = some d') :
    d'.cooler.controllerMode = (d.modeSet r).controllerMode := by
  rw [sweep_eq] at h
  split_ifs at h
  · obtain ⟨c, hc, rfl⟩ := Option.map_eq_some_iff.mp h
    have hkeeps := Cryocooler.powerOnOff_keeps (f := (·.controllerMode)) (fun _ _ => rfl)
      (fun _ _ => rfl) hc
    simp only
    split_ifs
    · exact hkeeps
    · exact hkeeps
  · cases h
    rfl

end CCDrone

namespace BegunSweep
variable (initial : Cooler)

def before (e : BegunSweep) : Cooler := Transition.run Cooler.obey initial e.drone.cooler.port.sent

def after (e : BegunSweep) : Cooler := Transition.run Cooler.obey (e.before initial) e.commands

variable {initial} {e e' : BegunSweep}

theorem Precedes.before (h : Precedes e e') : e'.before initial = e.after initial := by
  obtain ⟨d, hsweep, hmeasured⟩ := h
  obtain ⟨cmds, hsent, hqueries⟩ := CCDrone.query_commands (CCDrone.measured_eq_some.mp hmeasured).2
  have hboth : e'.drone.cooler.port.sent =
      (e.drone.cooler.port.sent ++ e.commands) ++ cmds := by
    rw [commands, ← CCDrone.sweep_commands hsweep]
    exact hsent
  rw [BegunSweep.before, hboth, Transition.run_append, Cooler.run_queries _ hqueries,
    Transition.run_append]
  rfl

theorem Precedes.controllerMode (h : Precedes e e') :
    e'.drone.cooler.controllerMode = (e.drone.modeSet e.refresh).controllerMode := by
  obtain ⟨d, hsweep, hmeasured⟩ := h
  exact (CCDrone.query_controllerMode (CCDrone.measured_eq_some.mp hmeasured).2).trans
    (CCDrone.sweep_controllerMode hsweep)

section Registers
variable (initial) (e)

theorem after_on {on : Bool} (hrow : decide (e.refresh.ccPowerState ≠ 0) = on)
    (h : (e.before initial).on = on ∨ e.drone.Switches e.refresh) : (e.after initial).on = on := by
  have hstop : decide (e.refresh.ccPowerState = 0) = !on := by
    rw [← hrow]
    simp
  refine Transition.run_register Cooler.obey_on ?_ (h.imp_right fun hswitch => ?_)
  · intro cmd hcmd z hz
    cases cmd with
    | setSSTOP stop =>
      have hsent := ((e.drone.setSSTOP_mem_commands_iff e.refresh).mp hcmd).2
      rw [← Option.some.inj hz, hsent, hstop, Bool.not_not]
    | _ => cases hz
  · refine ⟨.setSSTOP !on, ?_, congrArg some (Bool.not_not on)⟩
    exact (e.drone.setSSTOP_mem_commands_iff e.refresh).mpr ⟨hswitch, hstop.symm⟩

theorem after_level {level : ℤ}
    (hsend : (e.drone.rowRead e.refresh).sendCCPower e.refresh.undefInt = level)
    (h : (e.before initial).level = level ∨ e.drone.AdjustsPower) :
    (e.after initial).level = level := by
  refine Transition.run_register Cooler.obey_level ?_ (h.imp_right fun hadjusts => ?_)
  · intro cmd hcmd z hz
    cases cmd with
    | setPWOUT power =>
      rw [← Option.some.inj hz, ← hsend]
      exact e.drone.power_of_mem_commands e.refresh hcmd
    | _ => cases hz
  · refine ⟨.setPWOUT level, ?_, rfl⟩
    rw [commands, CCDrone.commands, if_pos hadjusts, CCDrone.adjustCommands, hsend]
    simp

theorem after_mode
    (h : (e.before initial).mode = 0 ∨ (e.drone.powerAdjusted e.refresh).controllerMode ≠ 0 ∧
      (e.drone.numRefreshes + 1) % 30 = 0) : (e.after initial).mode = 0 := by
  refine Transition.run_register Cooler.obey_mode ?_ (h.imp_right fun hsets => ?_)
  · intro cmd hcmd z hz
    cases cmd with
    | setPID mode =>
      rw [← Option.some.inj hz]
      exact ((e.drone.setPID_mem_commands_iff e.refresh).mp hcmd).2
    | _ => cases hz
  · exact ⟨.setPID 0, (e.drone.setPID_mem_commands_iff e.refresh).mpr ⟨hsets, rfl⟩, rfl⟩

end Registers

/-- The mode is zero, or the loop knows that it is not. -/
def PIDRemembered (initial : Cooler) (e : BegunSweep) : Prop :=
  (e.after initial).mode = 0 ∨ (e.drone.modeSet e.refresh).controllerMode ≠ 0 ∧
    25 ≤ e.drone.numRefreshes % 30 ∧ e.drone.numRefreshes % 30 ≤ 28

theorem modeSet_of_not_last (h : (e.drone.numRefreshes + 1) % 30 ≠ 0) :
    e.drone.modeSet e.refresh = e.drone.powerAdjusted e.refresh := by
  rw [CCDrone.modeSet, if_neg fun hsets => h hsets.2]

theorem remembered_of_asked (hnumber : e.drone.numRefreshes % 30 = 25)
    (h : e.drone.AdjustsPower →
      (e.drone.powerAdjusted e.refresh).controllerMode = (e.before initial).mode) :
    PIDRemembered initial e := by
  have hasked := h (show e.drone.numRefreshes % 5 = 0 by omega)
  by_cases hmode : (e.before initial).mode = 0
  · exact Or.inl (e.after_mode initial (Or.inl hmode))
  · refine Or.inr ⟨?_, by omega, by omega⟩
    rw [modeSet_of_not_last (by omega), hasked]
    exact hmode

theorem remembered_of_precedes (hnext : Precedes e e') (h : PIDRemembered initial e) :
    PIDRemembered initial e' := by
  rcases h with hzero | ⟨hmode, hfirst, hlast⟩
  · exact Or.inl (e'.after_mode initial (Or.inl (hnext.before.symm ▸ hzero)))
  · have hnumber := hnext.numRefreshes
    have hnoquery : ¬ e'.drone.AdjustsPower := by
      rw [CCDrone.AdjustsPower]
      omega
    have hkept : (e'.drone.powerAdjusted e'.refresh).controllerMode ≠ 0 := by
      rw [CCDrone.powerAdjusted, if_neg hnoquery]
      exact hnext.controllerMode.symm ▸ hmode
    by_cases hsets : (e'.drone.numRefreshes + 1) % 30 = 0
    · exact Or.inl (e'.after_mode initial (Or.inr ⟨hkept, hsets⟩))
    · refine Or.inr ⟨?_, by omega, by omega⟩
      rw [modeSet_of_not_last hsets]
      exact hkept

end BegunSweep

namespace CoolerSite
open BegunSweep

variable (asInt : ℚ → ℤ) (initial : Cooler)

/-- From the thirtieth of successive sweeps of one process on that have read the same published
state, and had it answered whether the cooler runs, the cooler is in that state; from the fifth
on that have read the same published power, and the same limits, it is at that power within the
limits; from the thirty-fourth on that have had the mode answered, the mode is zero. The device
is `initial` when the process is started. -/
structure Followed (sweeps : List BegunSweep) : Prop where
  switch : ∀ w, w <:+: sweeps → ∀ (life : ℕ) (on : Bool),
    (∀ e ∈ w, e.life = life ∧ e.on = some on ∧ e.drone.cooler.isON = (e.before initial).on) →
      ∀ j (hj : j < w.length), 29 ≤ j → (w[j].after initial).on = on
  level : ∀ w, w <:+: sweeps → ∀ (life : ℕ) (power pMin pMax : ℚ),
    Cryocooler.LimitsOrdered pMin pMax →
      (∀ e ∈ w, e.life = life ∧ e.power = some power ∧ e.drone.cooler.pMin = pMin ∧
        e.drone.cooler.pMax = pMax) →
        ∀ j (hj : j < w.length), 4 ≤ j →
          (w[j].after initial).level = clamp ⌊pMin⌋ ⌊pMax⌋ (asInt power)
  mode : ∀ w, w <:+: sweeps → ∀ life : ℕ,
    (∀ e ∈ w, e.life = life ∧ (e.drone.AdjustsPower →
      (e.drone.powerAdjusted e.refresh).controllerMode = (e.before initial).mode)) →
      ∀ j (hj : j < w.length), 33 ≤ j → (w[j].after initial).mode = 0

variable {asInt initial}

section Windows
variable {c : CoolerSite} {w : List BegunSweep} {life : ℕ}

theorem switch_of_infix (h : Tracked asInt c) (hw : w <:+: c.ledger.sweeps) {on : Bool}
    (hlife : ∀ e ∈ w, e.life = life)
    (hread : ∀ e ∈ w, e.on = some on ∧ e.drone.cooler.isON = (e.before initial).on) {j : ℕ}
    (hj : j < w.length) (hlate : 29 ≤ j) : (w[j].after initial).on = on := by
  obtain ⟨first, hnumbered⟩ := h.chained.numbered hw hlife
  have hrow (e : BegunSweep) (he : e ∈ w) : decide (e.refresh.ccPowerState ≠ 0) = on :=
    (h.conveys.sweeps e (hw.subset he)).2 on (hread e he).1
  -- the sweep of the window that compares the switch
  obtain ⟨i, hij, hi⟩ : ∃ i, i ≤ j ∧ (first + i + 1) % 30 = 0 := ⟨29 - first % 30, by omega, by omega⟩
  have hilength : i < w.length := hij.trans_lt hj
  have hchain := h.chained.infix hw hlife
  refine Cadence.isChain_kept (P := fun e => (e.after initial).on = on) hchain ?_ hij hj ?_
  · intro x _ y hy hxy hx
    exact y.after_on initial (hrow y hy) (Or.inl (hxy.before.symm ▸ hx))
  · have hmem : w[i] ∈ w := List.getElem_mem hilength
    refine w[i].after_on initial (hrow _ hmem) ?_
    by_cases hon : (w[i].before initial).on = on
    · exact Or.inl hon
    · refine Or.inr ((w[i].drone.switches_iff w[i].refresh).mpr ⟨?_, ?_⟩)
      · rw [hrow _ hmem, (hread _ hmem).2]
        exact Ne.symm hon
      · rw [hnumbered.getElem i hilength]
        exact hi

theorem level_of_infix (h : Tracked asInt c) (hw : w <:+: c.ledger.sweeps) {power pMin pMax : ℚ}
    (hordered : Cryocooler.LimitsOrdered pMin pMax) (hlife : ∀ e ∈ w, e.life = life)
    (hread : ∀ e ∈ w, e.power = some power ∧ e.drone.cooler.pMin = pMin ∧
      e.drone.cooler.pMax = pMax) {j : ℕ} (hj : j < w.length) (hlate : 4 ≤ j) :
    (w[j].after initial).level = clamp ⌊pMin⌋ ⌊pMax⌋ (asInt power) := by
  obtain ⟨first, hnumbered⟩ := h.chained.numbered hw hlife
  have hsend (e : BegunSweep) (he : e ∈ w) :
      (e.drone.rowRead e.refresh).sendCCPower e.refresh.undefInt =
        clamp ⌊pMin⌋ ⌊pMax⌋ (asInt power) := by
    obtain ⟨hpower, hmin, hmax⟩ := hread e he
    have heq := Cryocooler.sendCCPower_eq (c := e.drone.rowRead e.refresh)
      (by rwa [← hmin, ← hmax] at hordered) e.refresh.undefInt
    rw [heq, ← hmin, ← hmax, ← (h.conveys.sweeps e (hw.subset he)).1 power hpower]
    rfl
  obtain ⟨i, hij, hi⟩ : ∃ i, i ≤ j ∧ (first + i) % 5 = 0 :=
    ⟨(5 - first % 5) % 5, by omega, by omega⟩
  have hilength : i < w.length := hij.trans_lt hj
  have hchain := h.chained.infix hw hlife
  refine Cadence.isChain_kept (P := fun e => (e.after initial).level = _) hchain ?_ hij hj ?_
  · intro x _ y hy hxy hx
    exact y.after_level initial (hsend y hy) (Or.inl (hxy.before.symm ▸ hx))
  · refine w[i].after_level initial (hsend _ (List.getElem_mem hilength)) (Or.inr ?_)
    rw [CCDrone.AdjustsPower, hnumbered.getElem i hilength]
    exact hi

theorem mode_of_infix (h : Tracked asInt c) (hw : w <:+: c.ledger.sweeps)
    (hlife : ∀ e ∈ w, e.life = life)
    (hread : ∀ e ∈ w, e.drone.AdjustsPower →
      (e.drone.powerAdjusted e.refresh).controllerMode = (e.before initial).mode) {j : ℕ}
    (hj : j < w.length) (hlate : 33 ≤ j) : (w[j].after initial).mode = 0 := by
  obtain ⟨first, hnumbered⟩ := h.chained.numbered hw hlife
  -- the last sweep to ask for the mode before the sweep that sets it
  obtain ⟨i, hij, hi⟩ : ∃ i, i + 4 ≤ j ∧ (first + i) % 30 = 25 :=
    ⟨(55 - first % 30) % 30, by omega, by omega⟩
  have hset : i + 4 < w.length := hij.trans_lt hj
  have hchain := h.chained.infix hw hlife
  have hasked : PIDRemembered initial w[i] := by
    have hnumber : w[i].drone.numRefreshes % 30 = 25 := by rw [hnumbered.getElem i, hi]
    have hmem : w[i] ∈ w := List.getElem_mem _
    exact remembered_of_asked hnumber (hread _ hmem)
  have hremembered : PIDRemembered initial w[i + 4] :=
    Cadence.isChain_kept hchain (fun x _ y _ hxy hx => remembered_of_precedes hxy hx)
      (Nat.le_add_right i 4) hset hasked
  refine Cadence.isChain_kept (P := fun e => (e.after initial).mode = 0) hchain ?_ hij hj ?_
  · intro x _ y _ hxy hx
    exact y.after_mode initial (Or.inl (hxy.before.symm ▸ hx))
  · refine hremembered.resolve_right fun hlater => ?_
    have hnumber := hnumbered.getElem (i + 4) hset
    have hphase := hlater.2.2
    omega

theorem followed_of_tracked (h : Tracked asInt c) : Followed asInt initial c.ledger.sweeps where
  switch := fun _ hw _ _ hread _ hj hlate =>
    switch_of_infix h hw (fun e he => (hread e he).1) (fun e he => (hread e he).2) hj hlate
  level := fun _ hw _ _ _ _ hordered hread _ hj hlate =>
    level_of_infix h hw hordered (fun e he => (hread e he).1) (fun e he => (hread e he).2) hj hlate
  mode := fun _ hw _ hread _ hj hlate =>
    mode_of_infix h hw (fun e he => (hread e he).1) (fun e he => (hread e he).2) hj hlate

end Windows

section Run
variable (asInt) (initial)
variable (memSM : CryoControlSM) (absTime rateTime : UInt64) (row : ControlParameters)
  (memLS : LakeShore) (readsLS : List ReadResult) (device : Heater) (status : ℤ)
  (mem : Cryocooler) (reads : List ReadResult) (selects : List Bool)

theorem run_follows (evs : List CoolerEvent) :
    Followed asInt initial (Transition.run (step asInt)
      (start (HeaterSite.start memSM absTime rateTime row memLS readsLS device) status mem reads
        selects) evs).ledger.sweeps :=
  followed_of_tracked (Transition.run_invariant step_tracked
    (start_tracked asInt memSM absTime rateTime row memLS readsLS device status mem reads selects)
    evs)

/-- Loss of contact: once the machine has taken eighteen steps on stale rows, the cooler is off
from the thirtieth sweep on that one process of the loop then begins in succession, if it is
told whether it runs, whatever dies or is written by others, for as long as no fresh row is
read. -/
theorem run_turns_off (before losing after : List CoolerEvent)
    (hlost : ∀ ev ∈ losing ++ after, ev.Lost)
    (hmachine : ∀ ev ∈ losing, ∀ memSM absTime rateTime,
      ev ≠ .site (.restartMachine memSM absTime rateTime))
    (hlosing : 18 ≤ losing.countP CoolerEvent.isMachine) :
    let c := Transition.run (step asInt)
      (start (HeaterSite.start memSM absTime rateTime row memLS readsLS device) status mem reads
        selects) (before ++ losing)
    ∃ later, (Transition.run (step asInt) c after).ledger.sweeps = c.ledger.sweeps ++ later ∧
      ∀ w, w <:+: later →
        ∀ life : ℕ, (∀ e ∈ w, e.life = life ∧ e.drone.cooler.isON = (e.before initial).on) →
          ∀ j (hj : j < w.length), 29 ≤ j → (w[j].after initial).on = false := by
  intro c
  obtain ⟨htracked, later, hsweeps, hon⟩ := run_lost asInt memSM absTime rateTime row memLS
    readsLS device status mem reads selects before hlost hmachine hlosing
  refine ⟨later, hsweeps, fun w hw life hasked j hj hlate => ?_⟩
  have hinfix : w <:+: (Transition.run (step asInt) c after).ledger.sweeps :=
    hsweeps ▸ hw.trans (List.suffix_append _ _).isInfix
  exact switch_of_infix htracked hinfix (fun e he => (hasked e he).1)
    (fun e he => ⟨hon e (hw.subset he), (hasked e he).2⟩) hj hlate

end Run

theorem run_turns_off_sample :
    let c := Transition.run (step Int.floor)
      (start (HeaterSite.start default 0 0 sampleRow default [] Heater.off) 0 default sampleReplies
        (List.replicate 126 true)) ([] ++ sampleLosing)
    c.ledger.sweeps.length = 0 ∧
      (Transition.run (step Int.floor) c samplePolling).ledger.sweeps.map
        (fun e => (e.life, e.drone.cooler.isON, (e.before ⟨true, 80, 0⟩).on)) =
          List.replicate 30 (0, true, true) ∧
      ∃ later, (Transition.run (step Int.floor) c samplePolling).ledger.sweeps =
          c.ledger.sweeps ++ later ∧
        ∀ w, w <:+: later →
          ∀ life : ℕ, (∀ e ∈ w, e.life = life ∧
            e.drone.cooler.isON = (e.before ⟨true, 80, 0⟩).on) →
              ∀ j (hj : j < w.length), 29 ≤ j → (w[j].after ⟨true, 80, 0⟩).on = false :=
  ⟨by decide +kernel, by decide +kernel,
    run_turns_off Int.floor ⟨true, 80, 0⟩ default 0 0 sampleRow default [] Heater.off 0 default
      sampleReplies (List.replicate 126 true) [] sampleLosing samplePolling sample_lost sample_lives
      (by decide +kernel)⟩

end CoolerSite
end CryoController
