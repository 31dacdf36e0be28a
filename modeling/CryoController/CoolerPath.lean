import CryoController.HeaterShutdown
import CryoController.SwitchPacing

/-!
# The cooler power from the machine to the cooler

The loop of the cryocooler beside the heater site, on the same control row. Its
iteration has three steps: the queries, the SELECT, and the rest of the sweep. The
column `CCPower` becomes an `int` on its way from one program to the other; `asInt`
says how. Its process may die at any point and be started again, with an object of its own
and its count of sweeps back at zero. A ledger records what the machine has published, what
the loop has read of it and the sweeps that it has begun, each with the life that it is of.
-/

open Conversion Saturation
namespace CryoController

namespace CCDrone

def queryCommands : List CCCommand := [.tc, .p, .e, .sstop]

theorem query_commands {d : CCDrone} {q : Queried} (h : d.query = some q) :
    ∃ cmds, q.drone.cooler.port.sent = d.cooler.port.sent ++ cmds ∧ cmds ⊆ queryCommands := by
  have htc := d.cooler.getTC_sent
  have hp := d.cooler.getTC.2.getP_sent
  have he := d.cooler.getTC.2.getP.2.getE_sent
  rw [htc, List.append_assoc] at hp
  rw [hp, List.append_assoc] at he
  simp only [query] at h
  split_ifs at h
  · cases h
    exact ⟨_, htc, by simp [queryCommands]⟩
  · cases h
    exact ⟨_, hp, by simp [queryCommands]⟩
  · cases h
    exact ⟨_, he, by simp [queryCommands]⟩
  · obtain ⟨⟨status, c⟩, hcheck, rfl⟩ := Option.map_eq_some_iff.mp h
    have hsstop := Cryocooler.checkIfON_sent hcheck
    rw [he, List.append_assoc] at hsstop
    refine ⟨_, ?_, List.Subset.refl _⟩
    simp only
    split_ifs
    · exact hsstop
    · exact hsstop

theorem status_of_abandoned {d d' : CCDrone} (h : d.query = some (.abandoned d')) :
    d'.status ≠ 0 := by
  simp only [query] at h
  split_ifs at h with htc hp he
  · cases h
    exact htc
  · cases h
    exact hp
  · cases h
    exact he
  · obtain ⟨⟨status, c⟩, -, hq⟩ := Option.map_eq_some_iff.mp h
    simp only at hq
    split_ifs at hq with hstatus
    cases hq
    exact hstatus

end CCDrone

structure BegunSweep where
  life : ℕ
  drone : CCDrone
  refresh : Refresh
  power : Option ℚ
  on : Option Bool

namespace BegunSweep

def commands (e : BegunSweep) : List CCCommand := e.drone.commands e.refresh

def Precedes (e e' : BegunSweep) : Prop :=
  ∃ d, e.drone.sweep e.refresh = some d ∧ d.measured = some e'.drone

theorem Precedes.numRefreshes {e e' : BegunSweep} (h : Precedes e e') :
    e'.drone.numRefreshes = e.drone.numRefreshes + 1 := by
  obtain ⟨d, hsweep, hmeasured⟩ := h
  exact (CCDrone.measured_numRefreshes hmeasured).trans (CCDrone.sweep_numRefreshes hsweep)

end BegunSweep

/-- Where the loop of `CCDroneStart.cpp` is; a process that an exception has ended leaves
what it has sent. -/
inductive CoolerAt
  | top (d : CCDrone)
  | measured (d : CCDrone)
  | selected (e : BegunSweep)
  | dead (sent : List CCCommand)

namespace CoolerAt

def sent : CoolerAt → List CCCommand
  | top d => d.cooler.port.sent
  | measured d => d.cooler.port.sent
  | selected e => e.drone.cooler.port.sent
  | dead sent => sent

def afterQueries (d : CCDrone) (r : Refresh) : CoolerAt :=
  match d.branch with
  | .reset => top (d.reset r)
  | .poll =>
    match d.query with
    | some (.measured d) => measured d
    | some (.abandoned d) => top d
    | none => dead (d.cooler.port.sent ++ CCDrone.queryCommands)

def afterSweep (e : BegunSweep) : CoolerAt :=
  match e.drone.sweep e.refresh with
  | some d => top d
  | none => dead (e.drone.cooler.port.sent ++ e.commands)

theorem afterQueries_sent (d : CCDrone) (r : Refresh) :
    ∃ cmds, (afterQueries d r).sent = d.cooler.port.sent ++ cmds ∧
      cmds ⊆ .version :: CCDrone.queryCommands := by
  rw [afterQueries]
  split
  · exact ⟨[.version], rfl, by simp⟩
  · split
    · rename_i hquery
      obtain ⟨cmds, hsent, hsub⟩ := CCDrone.query_commands hquery
      exact ⟨cmds, hsent, List.Subset.trans hsub (List.subset_cons_self _ _)⟩
    · rename_i hquery
      obtain ⟨cmds, hsent, hsub⟩ := CCDrone.query_commands hquery
      exact ⟨cmds, hsent, List.Subset.trans hsub (List.subset_cons_self _ _)⟩
    · exact ⟨_, rfl, List.subset_cons_self _ _⟩

theorem afterSweep_sent (e : BegunSweep) :
    (afterSweep e).sent = e.drone.cooler.port.sent ++ e.commands := by
  rw [afterSweep]
  split
  · rename_i d hsweep
    exact CCDrone.sweep_commands hsweep
  · rfl

end CoolerAt

structure CoolerLedger where
  endedPower : ℚ
  endedState : Bool
  power : Option ℚ
  on : Option Bool
  life : ℕ
  sweeps : List BegunSweep

/-- The switch is published when the machine finds it on the row or writes it there. -/
def CoolerLedger.noteMachine (l : CoolerLedger) (p : HeaterPath) : CoolerLedger :=
  match p.pending with
  | none =>
    if decide (p.row.ccPowerState ≠ 0) = l.endedState then { l with on := some l.endedState }
    else l
  | some (s, .setCCPower _ :: _) => { l with power := some (l.endedPower + s.tcRow.pMin) }
  | some (_, .setCCPowerState _ :: _) => { l with on := some l.endedState }
  | some (_, _ :: _) => l
  | some (s, []) =>
    { l with
      endedPower := (p.machine.smEngine s).thisRunCCPower
      endedState := (p.machine.smEngine s).cCoolerPower }

def CoolerLedger.note (l : CoolerLedger) (p : HeaterPath) : SiteEvent → CoolerLedger
  | .path (.machine _) => l.noteMachine p
  | .restartMachine _ _ _ => { l with endedPower := 0, endedState := false }
  | _ => l

structure CoolerSite where
  site : HeaterSite
  cooler : CoolerAt
  ledger : CoolerLedger

inductive CoolerEvent
  | site (ev : SiteEvent)
  | cooler (r : Refresh)
  | restartCooler (status : ℤ) (mem : Cryocooler) (reads : List ReadResult)
    (selects : List Bool)

def SiteEvent.sparing (row : ControlParameters) : SiteEvent → SiteEvent
  | .path (.edit new) =>
    .path (.edit { new with ccPower := row.ccPower, ccPowerState := row.ccPowerState })
  | ev => ev

namespace CoolerSite
variable (asInt : ℚ → ℤ)

def select (c : CoolerSite) (d : CCDrone) (r : Refresh) : BegunSweep where
  life := c.ledger.life
  drone := d
  refresh := { r with
    ccPowerState := c.site.path.row.ccPowerState, ccPower := asInt c.site.path.row.ccPower }
  power := c.ledger.power
  on := c.ledger.on

def stepCooler (c : CoolerSite) (r : Refresh) : CoolerSite :=
  match c.cooler with
  | .top d => { c with cooler := .afterQueries d r }
  | .measured d =>
    let e := c.select asInt d r
    { c with
      cooler := .selected e
      ledger := { c.ledger with sweeps := c.ledger.sweeps ++ [e] } }
  | .selected e => { c with cooler := .afterSweep e }
  | .dead _ => c

def step (c : CoolerSite) : CoolerEvent → CoolerSite
  | .site ev =>
    { c with
      site := c.site.step (ev.sparing c.site.path.row)
      ledger := c.ledger.note c.site.path ev }
  | .cooler r => c.stepCooler asInt r
  | .restartCooler status mem reads selects =>
    { c with
      cooler := .top (CCDrone.start status mem reads selects)
      ledger := { c.ledger with life := c.ledger.life + 1 } }

def start (site : HeaterSite) (status : ℤ) (mem : Cryocooler) (reads : List ReadResult)
    (selects : List Bool) : CoolerSite where
  site := site
  cooler := .top (CCDrone.start status mem reads selects)
  ledger := ⟨0, false, none, none, 0, []⟩

def PublishedIn (l : CoolerLedger) (row : ControlParameters) : Prop :=
  (∀ power ∈ l.power, row.ccPower = power) ∧ ∀ on ∈ l.on, decide (row.ccPowerState ≠ 0) = on

def ReadBy (e : BegunSweep) : Prop :=
  (∀ power ∈ e.power, e.refresh.ccPower = asInt power) ∧
    ∀ on ∈ e.on, decide (e.refresh.ccPowerState ≠ 0) = on

structure Conveys (c : CoolerSite) : Prop where
  heater : c.site.path.Delivers
  power : c.site.path.machine.thisRunCCPower = c.ledger.endedPower
  state : c.site.path.machine.cCoolerPower = c.ledger.endedState
  pendingPower : ∀ s sts, c.site.path.pending = some (s, sts) →
    ∀ power, .setCCPower power ∈ sts → power = c.ledger.endedPower + s.tcRow.pMin
  pendingState : ∀ s sts, c.site.path.pending = some (s, sts) →
    ∀ on, .setCCPowerState on ∈ sts → on = c.ledger.endedState
  row : PublishedIn c.ledger c.site.path.row
  sweeps : ∀ e ∈ c.ledger.sweeps, ReadBy asInt e

theorem start_conveys (memSM : CryoControlSM) (absTime rateTime : UInt64)
    (row : ControlParameters) (memLS : LakeShore) (readsLS : List ReadResult) (device : Heater)
    (status : ℤ) (mem : Cryocooler) (reads : List ReadResult) (selects : List Bool) :
    Conveys asInt (start (HeaterSite.start memSM absTime rateTime row memLS readsLS device)
      status mem reads selects) where
  heater := HeaterPath.start_delivers memSM absTime rateTime row memLS readsLS
  power := rfl
  state := rfl
  pendingPower := fun _ _ h => by cases h
  pendingState := fun _ _ h => by cases h
  row := ⟨fun _ h => (by cases h), fun _ h => (by cases h)⟩
  sweeps := fun _ h => by cases h

theorem statements_ccPowerState {m : CryoControlSM} {d : DataPacket} {on : Bool}
    (h : .setCCPowerState on ∈ m.statements d) : on = m.cCoolerPower := by
  simp only [CryoControlSM.statements, List.mem_append] at h
  split_ifs at h <;> simp_all

theorem toInt_ne_zero (on : Bool) : decide (on.toInt ≠ 0) = on := by
  cases on <;> rfl

section Machine
variable {asInt : ℚ → ℤ} {c : CoolerSite}

def executed (c : CoolerSite) (s : Sweep) (st : Statement) (rest : List Statement) : CoolerSite :=
  { c with
    site := { c.site with path := { c.site.path.execute st with pending := some (s, rest) } }
    ledger := match st with
      | .setCCPower _ => { c.ledger with power := some (c.ledger.endedPower + s.tcRow.pMin) }
      | .setCCPowerState _ => { c.ledger with on := some c.ledger.endedState }
      | _ => c.ledger }

theorem executed_conveys (h : Conveys asInt c) {s : Sweep} {st : Statement}
    {rest : List Statement} (hpending : c.site.path.pending = some (s, st :: rest))
    (hdelivers : (c.executed s st rest).site.path.Delivers) :
    Conveys asInt (c.executed s st rest) := by
  have hpower := h.pendingPower s (st :: rest) hpending
  have hstate := h.pendingState s (st :: rest) hpending
  have hrest (s' : Sweep) (sts : List Statement)
      (hsome : (c.executed s st rest).site.path.pending = some (s', sts)) : s' = s ∧ sts = rest := by
    obtain ⟨rfl, rfl⟩ := Prod.mk.inj (Option.some.inj hsome)
    exact ⟨rfl, rfl⟩
  have hended : (c.executed s st rest).ledger.endedPower = c.ledger.endedPower ∧
      (c.executed s st rest).ledger.endedState = c.ledger.endedState := by
    cases st <;> exact ⟨rfl, rfl⟩
  have hsweeps : (c.executed s st rest).ledger.sweeps = c.ledger.sweeps := by
    cases st <;> rfl
  have hrow : PublishedIn (c.executed s st rest).ledger (c.executed s st rest).site.path.row := by
    cases st with
    | setCCPower power =>
      refine ⟨?_, h.row.2⟩
      intro published hpublished
      rw [← Option.some.inj hpublished]
      exact hpower power List.mem_cons_self
    | setCCPowerState on =>
      refine ⟨h.row.1, ?_⟩
      intro published hpublished
      rw [← Option.some.inj hpublished, ← hstate on List.mem_cons_self]
      exact toInt_ne_zero on
    | _ => exact h.row
  refine ⟨hdelivers, hended.1 ▸ h.power, hended.2 ▸ h.state, ?_, ?_, hrow, hsweeps ▸ h.sweeps⟩
  · intro s' sts hsome power hmem
    obtain ⟨rfl, rfl⟩ := hrest s' sts hsome
    rw [hended.1]
    exact hpower power (List.mem_cons_of_mem st hmem)
  · intro s' sts hsome on hmem
    obtain ⟨rfl, rfl⟩ := hrest s' sts hsome
    rw [hended.2]
    exact hstate on (List.mem_cons_of_mem st hmem)

theorem machine_conveys (h : Conveys asInt c) (sweep : Sweep) :
    Conveys asInt (c.step asInt (.site (.path (.machine sweep)))) := by
  have hdelivers : (c.site.path.stepMachine sweep).Delivers :=
    HeaterPath.stepMachine_delivers h.heater sweep
  match hpending : c.site.path.pending with
  | none =>
    have hstep : c.step asInt (.site (.path (.machine sweep))) =
        { c with
          site := { c.site with
            path := { c.site.path with
              pending := some ({ sweep with ctrlRow := c.site.path.row },
                c.site.path.machine.statements
                  ({ sweep with ctrlRow := c.site.path.row } : Sweep).packet) } }
          ledger :=
            if decide (c.site.path.row.ccPowerState ≠ 0) = c.ledger.endedState then
              { c.ledger with on := some c.ledger.endedState }
            else c.ledger } := by
      simp only [step, SiteEvent.sparing, HeaterSite.step, HeaterPath.step, HeaterPath.stepMachine,
        HeaterPath.commands, hpending, CoolerLedger.note, CoolerLedger.noteMachine,
        Transition.run_nil]
    rw [HeaterPath.stepMachine, hpending] at hdelivers
    rw [hstep]
    refine ⟨hdelivers, ?_, ?_, ?_, ?_, ?_, ?_⟩
    · split_ifs
      · exact h.power
      · exact h.power
    · split_ifs
      · exact h.state
      · exact h.state
    · intro s sts hsome power hmem
      obtain ⟨rfl, rfl⟩ := Prod.mk.inj (Option.some.inj hsome)
      rw [CryoControlSM.statements_ccPower hmem, h.power]
      split_ifs
      · rfl
      · rfl
    · intro s sts hsome on hmem
      obtain ⟨rfl, rfl⟩ := Prod.mk.inj (Option.some.inj hsome)
      rw [statements_ccPowerState hmem, h.state]
      split_ifs
      · rfl
      · rfl
    · split_ifs with hfound
      · exact ⟨h.row.1, fun on hon => hfound.trans (Option.some.inj hon)⟩
      · exact h.row
    · split_ifs
      · exact h.sweeps
      · exact h.sweeps
  | some (s, st :: rest) =>
    have hstep : c.step asInt (.site (.path (.machine sweep))) = c.executed s st rest := by
      simp only [step, SiteEvent.sparing, HeaterSite.step, HeaterPath.step, HeaterPath.stepMachine,
        HeaterPath.commands, hpending, CoolerLedger.note, CoolerLedger.noteMachine,
        Transition.run_nil, executed]
      cases st <;> rfl
    rw [HeaterPath.stepMachine, hpending] at hdelivers
    rw [hstep]
    exact executed_conveys h hpending hdelivers
  | some (s, []) =>
    have hstep : c.step asInt (.site (.path (.machine sweep))) =
        { c with
          site := { c.site with path := c.site.path.stepMachine sweep }
          ledger := { c.ledger with
            endedPower := (c.site.path.machine.smEngine s).thisRunCCPower
            endedState := (c.site.path.machine.smEngine s).cCoolerPower } } := by
      simp only [step, SiteEvent.sparing, HeaterSite.step, HeaterPath.step, HeaterPath.commands,
        hpending, CoolerLedger.note, CoolerLedger.noteMachine, Transition.run_nil]
    have hpath : c.site.path.stepMachine sweep =
        { c.site.path with
          machine := c.site.path.machine.smEngine s, pending := none
          ledger := { c.site.path.ledger with
            ended := (c.site.path.machine.smEngine s).thisRunHeaterPower } } := by
      simp only [HeaterPath.stepMachine, hpending]
    rw [hstep]
    refine ⟨hdelivers, ?_, ?_, ?_, ?_, ?_, h.sweeps⟩
    · rw [hpath]
    · rw [hpath]
    · intro _ _ hsome
      rw [hpath] at hsome
      cases hsome
    · intro _ _ hsome
      rw [hpath] at hsome
      cases hsome
    · rw [hpath]
      exact h.row

theorem stepCooler_conveys (h : Conveys asInt c) (r : Refresh) :
    Conveys asInt (c.stepCooler asInt r) := by
  rw [stepCooler]
  split
  · exact { h with }
  · refine ⟨h.heater, h.power, h.state, h.pendingPower, h.pendingState, h.row, ?_⟩
    rw [List.forall_mem_append]
    refine ⟨h.sweeps, List.forall_mem_singleton.mpr ⟨?_, h.row.2⟩⟩
    intro power hpower
    exact congrArg asInt (h.row.1 power hpower)
  · exact { h with }
  · exact h

theorem step_conveys (c : CoolerSite) (ev : CoolerEvent) (h : Conveys asInt c) :
    Conveys asInt (c.step asInt ev) := by
  cases ev with
  | cooler r => exact stepCooler_conveys h r
  | restartCooler status mem reads selects => exact { h with }
  | site ev =>
    have hdelivers := HeaterSite.step_delivers c.site (ev.sparing c.site.path.row) h.heater
    cases ev with
    | path ev =>
      cases ev with
      | machine sweep => exact machine_conveys h sweep
      | drone undefInt =>
        exact ⟨hdelivers, h.power, h.state, h.pendingPower, h.pendingState, h.row, h.sweeps⟩
      | edit row =>
        exact ⟨hdelivers, h.power, h.state, h.pendingPower, h.pendingState, h.row, h.sweeps⟩
    | restartMachine memSM absTime rateTime =>
      refine ⟨hdelivers, rfl, rfl, ?_, ?_, h.row, h.sweeps⟩
      · intro _ _ hsome
        cases hsome
      · intro _ _ hsome
        cases hsome
    | restartDrone mem reads =>
      exact ⟨hdelivers, h.power, h.state, h.pendingPower, h.pendingState, h.row, h.sweeps⟩

end Machine

/-- The commands follow what had been published, the switch is sent against the state that
the controller has just answered, and the mode is set to zero alone. -/
structure Obeys (e : BegunSweep) (cmds : List CCCommand) : Prop where
  power : ∀ power ∈ e.power, ∀ n, .setPWOUT n ∈ cmds →
    Cryocooler.LimitsOrdered e.drone.cooler.pMin e.drone.cooler.pMax →
      n = clamp ⌊e.drone.cooler.pMin⌋ ⌊e.drone.cooler.pMax⌋ (asInt power)
  switch : ∀ on ∈ e.on, ∀ stop, .setSSTOP stop ∈ cmds →
    stop = !on ∧ e.drone.cooler.isON ≠ on
  rest : ∀ cmd ∈ cmds, (∃ n, cmd = .setPWOUT n) ∨ (∃ stop, cmd = .setSSTOP stop) ∨
    cmd ∈ [.setPID 0, .pid, .sstop]

def sentBefore (c : CoolerSite) : CoolerEvent → List CCCommand
  | .restartCooler _ _ _ _ => []
  | _ => c.cooler.sent

def Conveyed (c : CoolerSite) (ev : CoolerEvent) : Prop :=
  ∃ cmds, (c.step asInt ev).cooler.sent = c.sentBefore ev ++ cmds ∧
    (cmds ⊆ .version :: CCDrone.queryCommands ∨
      ∃ e, c.cooler = .selected e ∧ e ∈ c.ledger.sweeps ∧ Obeys asInt e cmds)

/-- Of thirty sweeps in succession of one process that had read the same published state and
found the cooler in the other one, exactly one sends it, and none sends the other. -/
def SwitchedInTime (sweeps : List BegunSweep) : Prop :=
  ∀ w, w <:+: sweeps → w.length = 30 → ∀ (life : ℕ) (on : Bool),
    (∀ e ∈ w, e.life = life ∧ e.on = some on ∧ e.drone.cooler.isON ≠ on) →
      w.countP (fun e => decide (.setSSTOP (!on) ∈ e.commands)) = 1 ∧
        ∀ e ∈ w, .setSSTOP on ∉ e.commands

section Sweeps
variable {asInt : ℚ → ℤ} {c : CoolerSite} {e : BegunSweep}

theorem mem_commands_iff_of_readBy (h : ReadBy asInt e) {on : Bool} (hon : e.on = some on)
    {stop : Bool} : .setSSTOP stop ∈ e.commands ↔
      (on ≠ e.drone.cooler.isON ∧ (e.drone.numRefreshes + 1) % 30 = 0) ∧ stop = !on := by
  have hstate := h.2 on hon
  have hstop : decide (e.refresh.ccPowerState = 0) = !on := by
    rw [← hstate]
    simp
  rw [BegunSweep.commands, CCDrone.setSSTOP_mem_commands_iff, CCDrone.switches_iff, hstate, hstop]

theorem obeys_of_readBy (h : ReadBy asInt e) : Obeys asInt e e.commands where
  power := by
    intro power hpower n hn hordered
    have hsend := Cryocooler.sendCCPower_eq (c := e.drone.rowRead e.refresh) hordered
      e.refresh.undefInt
    rw [CCDrone.power_of_mem_commands _ _ hn, hsend]
    exact congrArg _ (h.1 power hpower)
  switch := by
    intro on hon stop hstop
    obtain ⟨⟨hdiffers, -⟩, hstop⟩ := (mem_commands_iff_of_readBy h hon).mp hstop
    exact ⟨hstop, hdiffers.symm⟩
  rest := fun _ hcmd => e.drone.mem_commands e.refresh hcmd

def FollowsLast (life : ℕ) (last : Option BegunSweep) : CoolerAt → Prop
  | .top d => ∀ e ∈ last, e.life = life → e.drone.sweep e.refresh = some d ∨ d.status ≠ 0
  | .measured d => ∀ e ∈ last, e.life = life →
    ∃ d', e.drone.sweep e.refresh = some d' ∧ d'.measured = some d
  | .selected e => last = some e
  | .dead _ => True

structure Chained (c : CoolerSite) : Prop where
  sweeps : c.ledger.sweeps.IsChain fun e e' => e.life = e'.life → e.Precedes e'
  lives : ∀ e ∈ c.ledger.sweeps, e.life ≤ c.ledger.life
  place : FollowsLast c.ledger.life c.ledger.sweeps.getLast? c.cooler

theorem note_sweeps (l : CoolerLedger) (p : HeaterPath) (ev : SiteEvent) :
    (l.note p ev).sweeps = l.sweeps ∧ (l.note p ev).life = l.life := by
  cases ev with
  | path ev =>
    cases ev with
    | machine sweep =>
      rw [CoolerLedger.note, CoolerLedger.noteMachine]
      split
      · split_ifs <;> exact ⟨rfl, rfl⟩
      all_goals exact ⟨rfl, rfl⟩
    | _ => exact ⟨rfl, rfl⟩
  | _ => exact ⟨rfl, rfl⟩

theorem afterQueries_followsLast {life : ℕ} {last : Option BegunSweep} {d : CCDrone}
    (h : FollowsLast life last (.top d)) (r : Refresh) :
    FollowsLast life last (.afterQueries d r) := by
  rw [CoolerAt.afterQueries]
  split
  · rename_i hreset
    exact fun e he _ => Or.inr (CCDrone.branch_eq_reset.mp hreset)
  · rename_i hpoll
    split
    · rename_i m hquery
      intro e he hlife
      have hmeasured : d.measured = some m := CCDrone.measured_eq_some.mpr ⟨hpoll, hquery⟩
      refine (h e he hlife).elim (fun hsweep => ⟨d, hsweep, hmeasured⟩) fun hstatus => ?_
      cases hpoll.symm.trans (CCDrone.branch_eq_reset.mpr hstatus)
    · rename_i hquery
      exact fun e he _ => Or.inr (CCDrone.status_of_abandoned hquery)
    · trivial

theorem step_chained (c : CoolerSite) (ev : CoolerEvent) (h : Chained c) :
    Chained (c.step asInt ev) := by
  obtain ⟨hchain, hlives, hplace⟩ := h
  cases ev with
  | site ev =>
    obtain ⟨hsweeps, hlife⟩ := note_sweeps c.ledger c.site.path ev
    refine ⟨hsweeps ▸ hchain, ?_, ?_⟩
    · change ∀ e ∈ (c.ledger.note c.site.path ev).sweeps,
        e.life ≤ (c.ledger.note c.site.path ev).life
      rw [hsweeps, hlife]
      exact hlives
    · change FollowsLast (c.ledger.note c.site.path ev).life
        (c.ledger.note c.site.path ev).sweeps.getLast? c.cooler
      rw [hsweeps, hlife]
      exact hplace
  | restartCooler status mem reads selects =>
    refine ⟨hchain, fun e he => (hlives e he).trans (Nat.le_succ _), fun e he hlife => ?_⟩
    have hle := hlives e (List.mem_of_getLast? he)
    exact absurd (hlife ▸ hle) (Nat.not_succ_le_self _)
  | cooler r =>
    rw [step, stepCooler]
    split
    · rename_i d hd
      rw [hd] at hplace
      exact ⟨hchain, hlives, afterQueries_followsLast hplace r⟩
    · rename_i d hd
      rw [hd] at hplace
      refine ⟨hchain.append (List.isChain_singleton _) ?_, ?_, List.getLast?_concat⟩
      · intro e he e' he' hlife
        obtain rfl := Option.some.inj he'
        exact hplace e he hlife
      · exact List.forall_mem_append.mpr ⟨hlives, List.forall_mem_singleton.mpr (Nat.le_refl _)⟩
    · rename_i e he
      rw [he] at hplace
      refine ⟨hchain, hlives, ?_⟩
      rw [CoolerAt.afterSweep]
      split
      · rename_i d hsweep
        intro e' he' _
        obtain rfl := Option.some.inj (hplace.symm.trans he')
        exact Or.inl hsweep
      · trivial
    · exact ⟨hchain, hlives, hplace⟩

theorem Chained.infix (h : Chained c) {w : List BegunSweep} (hw : w <:+: c.ledger.sweeps)
    {life : ℕ} (hlife : ∀ e ∈ w, e.life = life) : w.IsChain BegunSweep.Precedes := by
  have hchain := h.sweeps.infix hw
  exact hchain.imp_of_mem_imp fun e e' he he' hnext =>
    hnext ((hlife e he).trans (hlife e' he').symm)

theorem Chained.numbered (h : Chained c) {w : List BegunSweep} (hw : w <:+: c.ledger.sweeps)
    {life : ℕ} (hlife : ∀ e ∈ w, e.life = life) :
    ∃ first, Cadence.Numbered (·.drone.numRefreshes) first w := by
  have hchain := h.infix hw hlife
  exact Cadence.numbered_of_isChain (hchain.imp fun _ _ hnext => hnext.numRefreshes)

structure Tracked (asInt : ℚ → ℤ) (c : CoolerSite) : Prop where
  conveys : Conveys asInt c
  chained : Chained c

theorem step_tracked (c : CoolerSite) (ev : CoolerEvent) (h : Tracked asInt c) :
    Tracked asInt (c.step asInt ev) where
  conveys := step_conveys c ev h.conveys
  chained := step_chained c ev h.chained

theorem conveyed_of_tracked (h : Tracked asInt c) (ev : CoolerEvent) : Conveyed asInt c ev := by
  have hidle : ∀ c' : CoolerSite, c'.cooler.sent = c.cooler.sent →
      ∃ cmds, c'.cooler.sent = c.cooler.sent ++ cmds ∧
        (cmds ⊆ .version :: CCDrone.queryCommands ∨
          ∃ e, c.cooler = .selected e ∧ e ∈ c.ledger.sweeps ∧ Obeys asInt e cmds) :=
    fun c' hsame => ⟨[], hsame.trans (List.append_nil _).symm, Or.inl (List.nil_subset _)⟩
  cases ev with
  | site ev => exact hidle _ rfl
  | restartCooler status mem reads selects =>
    exact ⟨[.version], rfl, Or.inl (List.cons_subset_cons _ (List.nil_subset _))⟩
  | cooler r =>
    change ∃ cmds, (c.stepCooler asInt r).cooler.sent = c.cooler.sent ++ cmds ∧ _
    rw [stepCooler]
    split
    · rename_i d hd
      obtain ⟨cmds, hsent, hsub⟩ := CoolerAt.afterQueries_sent d r
      rw [hd]
      exact ⟨cmds, hsent, Or.inl hsub⟩
    · rename_i d hd
      exact hidle _ (congrArg CoolerAt.sent hd).symm
    · rename_i e he
      have hmem : e ∈ c.ledger.sweeps := by
        have hplace := h.chained.place
        rw [he] at hplace
        exact List.mem_of_getLast? hplace
      rw [he]
      exact ⟨e.commands, CoolerAt.afterSweep_sent e,
        Or.inr ⟨e, rfl, hmem, obeys_of_readBy (h.conveys.sweeps e hmem)⟩⟩
    · exact hidle _ rfl

theorem switchedInTime_of_tracked (h : Tracked asInt c) : SwitchedInTime c.ledger.sweeps := by
  intro w hw hlength life on hpublished
  have hread (e : BegunSweep) (he : e ∈ w) : ReadBy asInt e := h.conveys.sweeps e (hw.subset he)
  obtain ⟨first, hnumbered⟩ := h.chained.numbered hw fun e he => (hpublished e he).1
  constructor
  · rw [← hnumbered.countP_window hlength (show 29 < 30 by omega)]
    apply List.countP_congr
    intro e he
    obtain ⟨-, hon, hdiffers⟩ := hpublished e he
    rw [decide_eq_true_iff, decide_eq_true_iff, mem_commands_iff_of_readBy (hread e he) hon,
      and_iff_left rfl, and_iff_right hdiffers.symm]
    omega
  · intro e he hother
    have hstop := ((mem_commands_iff_of_readBy (hread e he) (hpublished e he).2.1).mp hother).2
    cases on <;> cases hstop

end Sweeps

section Run
variable (memSM : CryoControlSM) (absTime rateTime : UInt64) (row : ControlParameters)
  (memLS : LakeShore) (readsLS : List ReadResult) (device : Heater) (status : ℤ)
  (mem : Cryocooler) (reads : List ReadResult) (selects : List Bool)

theorem start_chained (site : HeaterSite) : Chained (start site status mem reads selects) :=
  ⟨List.isChain_nil, fun _ he => (by cases he), fun _ he => (by cases he)⟩

theorem start_tracked : Tracked asInt
    (start (HeaterSite.start memSM absTime rateTime row memLS readsLS device) status mem reads
      selects) where
  conveys := start_conveys asInt memSM absTime rateTime row memLS readsLS device status mem reads
    selects
  chained := start_chained status mem reads selects _

/-- Whatever the interleaving, the cooler is sent the power that the machine had published
when the loop read the row, saturated to the limits that the controller has just answered,
and is switched to the state published. -/
theorem run_conveyed (evs : List CoolerEvent) :
    Transition.Along (step asInt) (Conveyed asInt)
      (start (HeaterSite.start memSM absTime rateTime row memLS readsLS device) status mem reads
        selects) evs :=
  Transition.along_of_invariant step_tracked (fun _ ev h => conveyed_of_tracked h ev)
    (start_tracked asInt memSM absTime rateTime row memLS readsLS device status mem reads selects)
    evs

theorem run_switched_in_time (evs : List CoolerEvent) :
    SwitchedInTime (Transition.run (step asInt)
      (start (HeaterSite.start memSM absTime rateTime row memLS readsLS device) status mem reads
        selects) evs).ledger.sweeps :=
  switchedInTime_of_tracked (Transition.run_invariant step_tracked
    (start_tracked asInt memSM absTime rateTime row memLS readsLS device status mem reads selects)
    evs)

end Run

end CoolerSite
end CryoController
