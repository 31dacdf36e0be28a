import CryoController.CoolerShutdown
import CryoController.SerialSections

/-!
# The switch of the supply from the machine to the ramp

The flag that `VoltageRamp` tests comes from the column `SRSPowerState`, which the machine
writes. The timer thread only ramps when its comparison has just found the flag off, so it
never does, unless the other thread reads the column in between. A ramp of the RPC thread
goes out under a grant: the state of the machine whose switch was on the row when the flag
of its test was read.
-/

namespace CryoController

namespace ThreadAt

def isTest : ThreadAt → Bool
  | .test _ _ _ => true
  | _ => false

def isSelect : ThreadAt → Bool
  | .select _ => true
  | _ => false

def Ramping (d : ThreadAt) : Prop := ∃ cmd ∈ d.pending, cmd.isQuery = false

theorem Outside.not_isTest {d : ThreadAt} (h : d.Outside) : d.isTest = false := by
  rcases h with rfl | ⟨prevPS, rfl⟩
  · rfl
  · rfl

theorem isSelect_iff {d : ThreadAt} : d.isSelect = true ↔ ∃ prevPS, d = .select prevPS := by
  cases d <;> simp [isSelect]

end ThreadAt

namespace SRSServer

/-- The other thread does not read the column as on between the comparison of the timer thread
and its test. -/
def LeavesOff (sv : SRSServer) (e : SRSEvent) : Prop :=
  (sv.place e.thread).isSelect = true → e.read.srsPowerState ≠ 0 → sv.timer.isTest = false

instance (sv : SRSServer) (e : SRSEvent) : Decidable (sv.LeavesOff e) :=
  inferInstanceAs (Decidable (_ → _ → _))

structure Quiet (sv : SRSServer) (d : ThreadAt) : Prop where
  wellFormed : d.WellFormed
  test : d.isTest = true → sv.supply.srsPowerState = false
  pending : d.pending ⊆ SRSCommand.readOut

section Advance
variable (sv : SRSServer) (t : Thread) (e : SRSEvent) {d : ThreadAt}

theorem advance_quiet (h : sv.Quiet d) (hidle : d = .idle → sv.begin t e.call = sv.sweep) :
    (sv.advance t e d).1.Quiet (sv.advance t e d).2 := by
  have hwell := sv.advance_wellFormed t e h.wellFormed
  have hoff (hfalse : false = true) : (sv.advance t e d).1.supply.srsPowerState = false := by
    cases hfalse
  match d, h with
  | .idle, h =>
    have hbegin : (sv.advance t e .idle).2 = sv.sweep := hidle rfl
    rw [hbegin] at hwell ⊢
    exact ⟨hwell, hoff, List.append_subset.mpr ⟨List.Subset.refl _, List.nil_subset _⟩⟩
  | .waiting commands next, h =>
    rw [advance] at hwell ⊢
    split_ifs with hfree
    · rw [if_pos hfree] at hwell
      exact ⟨hwell, fun htest => (by cases htest), h.pending⟩
    · exact h
  | .holding (cmd :: commands) next, h =>
    exact ⟨hwell, hoff, fun x hx => h.pending (List.mem_cons_of_mem cmd hx)⟩
  | .holding [] next, h =>
    have hout : next.Outside := h.wellFormed
    refine ⟨hwell, fun htest => ?_, h.pending⟩
    rw [advance, hout.not_isTest] at htest
    cases htest
  | .select prevPS, _ => exact ⟨hwell, hoff, List.nil_subset _⟩
  | .insert prevPS, _ => exact ⟨hwell, hoff, List.nil_subset _⟩
  | .compare prevPS, _ =>
    rw [advance] at hwell ⊢
    split_ifs with hedge
    · refine ⟨trivial, fun _ => ?_, List.nil_subset _⟩
      obtain ⟨hprev, hne⟩ := hedge
      exact Bool.eq_false_iff.mpr fun hon => hne (hprev.trans hon.symm)
    · exact ⟨trivial, fun htest => (by cases htest), List.nil_subset _⟩
  | .test startV stopV time, h =>
    have hflag : sv.supply.srsPowerState = false := h.test rfl
    rw [advance, hflag, if_neg Bool.false_ne_true]
    exact ⟨trivial, fun htest => (by cases htest), List.nil_subset _⟩

end Advance

theorem step_quiet (sv : SRSServer) (e : SRSEvent) (h : sv.Quiet sv.timer)
    (hleaves : sv.LeavesOff e) : (sv.step e).Quiet (sv.step e).timer := by
  have htimer := sv.step_place e .timer
  cases hthread : e.thread with
  | timer =>
    have hquiet := sv.advance_quiet .timer e h fun _ => rfl
    rw [hthread, if_pos rfl] at htimer
    have hsupply := sv.step_supply e
    rw [hthread] at hsupply
    change (sv.step e).timer = (sv.advance .timer e sv.timer).2 at htimer
    rw [htimer]
    exact ⟨hquiet.wellFormed, fun htest => by rw [hsupply]; exact hquiet.test htest,
      hquiet.pending⟩
  | rpc =>
    have hne : ¬ Thread.timer = e.thread := by simp [hthread]
    rw [if_neg hne] at htimer
    change (sv.step e).timer = sv.timer at htimer
    rw [htimer]
    refine ⟨h.wellFormed, fun htest => ?_, h.pending⟩
    rw [step_supply]
    cases hselect : (sv.place e.thread).isSelect with
    | true =>
      obtain ⟨prevPS, hplace⟩ := ThreadAt.isSelect_iff.mp hselect
      have hzero : e.read.srsPowerState = 0 := by
        by_contra hread
        exact absurd (hleaves hselect hread) (by simp [htest])
      rw [hplace]
      exact decide_eq_false (not_not.mpr hzero)
    | false =>
      have hno (prevPS : Bool) : sv.place e.thread ≠ .select prevPS := by
        intro heq
        rw [heq] at hselect
        cases hselect
      rw [sv.advance_srsPowerState _ e _ hno]
      exact h.test htest

def ReadsOnly (sv : SRSServer) (e : SRSEvent) : Prop :=
  e.thread = .timer → ∀ cmds, (sv.step e).supply.port.sent = sv.supply.port.sent ++ cmds →
    cmds ⊆ SRSCommand.readOut

theorem readsOnly_of_quiet (sv : SRSServer) (e : SRSEvent) (h : sv.Quiet sv.timer) :
    sv.ReadsOnly e := by
  intro hthread cmds hsent
  obtain ⟨cmds', hsent', hsub⟩ := sv.advance_sent e.thread e (sv.place e.thread)
  rw [step_supply] at hsent
  rw [List.append_cancel_left (hsent.symm.trans hsent')]
  rw [hthread] at hsub
  exact List.Subset.trans hsub h.pending

theorem start_quiet (mem : SRSPowerSupply) (reads : List ReadResult) :
    (start mem reads).Quiet (start mem reads).timer :=
  ⟨trivial, fun htest => (by cases htest), List.nil_subset _⟩

/-- In every interleaving in which no read of the other thread puts the flag on between the
comparison of the timer thread and its test, the timer thread sends queries only: a switch
from on to off never ramps the voltage down. -/
theorem run_never_ramps_down (mem : SRSPowerSupply) (reads : List ReadResult)
    (evs : List SRSEvent) (h : Transition.Along step LeavesOff (start mem reads) evs) :
    Transition.Along step ReadsOnly (start mem reads) evs :=
  Transition.along_mono step_quiet (fun sv e hquiet _ => readsOnly_of_quiet sv e hquiet)
    (start_quiet mem reads) h

theorem run_never_ramps_down_sample : Transition.Along step ReadsOnly (start default (zeros 9))
    (schedule 9 .timer .performSweep 1 ++ schedule 10 .timer .performSweep 0 ++
      schedule 10 .rpc .performSweep 1) :=
  run_never_ramps_down default (zeros 9) _ (by decide +kernel)

theorem advance_ramping (sv : SRSServer) (t : Thread) (e : SRSEvent) {d : ThreadAt}
    (h : (sv.advance t e d).2.Ramping) :
    d.Ramping ∨ (d.isTest = true ∧ sv.supply.srsPowerState = true) := by
  have hqueries : ¬ ∃ cmd ∈ SRSCommand.readOut, cmd.isQuery = false := by decide
  match d with
  | .idle =>
    obtain ⟨cmd, hcmd, hquery⟩ := h
    have hbegin : (sv.begin t e.call).pending ⊆ SRSCommand.readOut := by
      cases t with
      | timer => exact List.append_subset.mpr ⟨List.Subset.refl _, List.nil_subset _⟩
      | rpc =>
        cases e.call with
        | performSweep => exact List.append_subset.mpr ⟨List.Subset.refl _, List.nil_subset _⟩
        | voltageRamp startV stopV time => exact List.nil_subset _
        | readMemVoltage => exact List.nil_subset _
    exact absurd ⟨cmd, hbegin hcmd, hquery⟩ hqueries
  | .waiting commands next =>
    rw [advance] at h
    split_ifs at h
    · exact Or.inl h
    · exact Or.inl h
  | .holding (cmd :: commands) next =>
    obtain ⟨cmd', hcmd, hquery⟩ := h
    exact Or.inl ⟨cmd', List.mem_cons_of_mem cmd hcmd, hquery⟩
  | .holding [] next => exact Or.inl h
  | .select prevPS =>
    obtain ⟨cmd, hcmd, -⟩ := h
    cases hcmd
  | .insert prevPS =>
    obtain ⟨cmd, hcmd, -⟩ := h
    cases hcmd
  | .compare prevPS =>
    rw [advance] at h
    split_ifs at h
    · obtain ⟨cmd, hcmd, -⟩ := h
      cases hcmd
    · obtain ⟨cmd, hcmd, -⟩ := h
      cases hcmd
  | .test startV stopV time =>
    rw [advance] at h
    split_ifs at h with hon
    · exact Or.inr ⟨rfl, hon⟩
    · obtain ⟨cmd, hcmd, -⟩ := h
      cases hcmd

end SRSServer

/-- The state of the machine whose switch the row shows, what that was when the flag was last
read, and what the flag had been read from when each thread tested it. -/
structure SupplyLedger where
  published : Option FSMStates
  read : Option FSMStates
  granted : Thread → Option FSMStates

namespace SupplyLedger

def noteMachine (l : SupplyLedger) (p : HeaterPath) : SupplyLedger :=
  match p.pending with
  | none =>
    if decide (p.row.srsPowerState ≠ 0) = p.machine.computedSRSPowerState then
      { l with published := some p.machine.currentFSMState }
    else l
  | some (_, .setSRSPowerState _ :: _) => { l with published := some p.machine.currentFSMState }
  | some _ => l

def note (l : SupplyLedger) (p : HeaterPath) : SiteEvent → SupplyLedger
  | .path (.machine _) => l.noteMachine p
  | _ => l

def noteServer (l : SupplyLedger) (t : Thread) : ThreadAt → SupplyLedger
  | .select _ => { l with read := l.published }
  | .test _ _ _ => { l with granted := fun t' => if t' = t then l.read else l.granted t' }
  | _ => l

end SupplyLedger

structure SupplySite where
  site : HeaterSite
  server : SRSServer
  ledger : SupplyLedger

inductive SupplyEvent
  | site (ev : SiteEvent)
  | server (e : SRSEvent)
  | restartServer (mem : SRSPowerSupply) (reads : List ReadResult)

def SiteEvent.sparingSupply (row : ControlParameters) : SiteEvent → SiteEvent
  | .path (.edit new) => .path (.edit { new with srsPowerState := row.srsPowerState })
  | ev => ev

namespace SupplySite

def reading (c : SupplySite) (e : SRSEvent) : SRSEvent :=
  { e with read := { e.read with srsPowerState := c.site.path.row.srsPowerState } }

def step (c : SupplySite) : SupplyEvent → SupplySite
  | .site ev =>
    { c with
      site := c.site.step (ev.sparingSupply c.site.path.row)
      ledger := c.ledger.note c.site.path ev }
  | .server e =>
    { c with
      server := c.server.step (c.reading e)
      ledger := c.ledger.noteServer e.thread (c.server.place e.thread) }
  | .restartServer mem reads =>
    { c with
      server := SRSServer.start mem reads
      ledger := { c.ledger with read := none, granted := fun _ => none } }

def start (site : HeaterSite) (mem : SRSPowerSupply) (reads : List ReadResult) : SupplySite :=
  ⟨site, SRSServer.start mem reads, ⟨none, none, fun _ => none⟩⟩

structure Conveys (c : SupplySite) : Prop where
  heater : c.site.path.Delivers
  pending : ∀ s sts, c.site.path.pending = some (s, sts) →
    ∀ on, .setSRSPowerState on ∈ sts → on = c.site.path.machine.computedSRSPowerState
  row : ∀ st ∈ c.ledger.published,
    decide (c.site.path.row.srsPowerState ≠ 0) = st.actuation.srsOn
  flag : ∀ st ∈ c.ledger.read, c.server.supply.srsPowerState = st.actuation.srsOn
  granted : ∀ t, (c.server.place t).Ramping →
    ∀ st ∈ c.ledger.granted t, st.actuation.srsOn = true

theorem start_conveys (memSM : CryoControlSM) (absTime rateTime : UInt64)
    (row : ControlParameters) (memLS : LakeShore) (readsLS : List ReadResult) (device : Heater)
    (mem : SRSPowerSupply) (reads : List ReadResult) :
    Conveys (start (HeaterSite.start memSM absTime rateTime row memLS readsLS device) mem reads) where
  heater := HeaterPath.start_delivers memSM absTime rateTime row memLS readsLS
  pending := fun _ _ h => by cases h
  row := fun _ h => by cases h
  flag := fun _ h => by cases h
  granted := fun _ _ _ h => by cases h

theorem statements_srsPowerState {m : CryoControlSM} {d : DataPacket} {on : Bool}
    (h : .setSRSPowerState on ∈ m.statements d) : on = m.computedSRSPowerState := by
  simp only [CryoControlSM.statements, List.mem_append] at h
  split_ifs at h <;> simp_all

section Machine
variable {c : SupplySite}

theorem Conveys.switch (h : Conveys c) : c.site.path.machine.computedSRSPowerState =
    c.site.path.machine.currentFSMState.actuation.srsOn :=
  h.heater.interlock.inForce.srs

theorem machine_conveys (h : Conveys c) (sweep : Sweep) :
    Conveys (c.step (.site (.path (.machine sweep)))) := by
  have hdelivers : (c.site.path.stepMachine sweep).Delivers :=
    HeaterPath.stepMachine_delivers h.heater sweep
  have hpath : (c.step (.site (.path (.machine sweep)))).site.path = c.site.path.stepMachine sweep :=
    rfl
  have hledger : (c.step (.site (.path (.machine sweep)))).ledger =
      c.ledger.noteMachine c.site.path := rfl
  match hround : c.site.path.pending with
  | none =>
    have hnext := HeaterPath.stepMachine_begins sweep hround
    have hkept : (c.site.path.stepMachine sweep).machine = c.site.path.machine ∧
        (c.site.path.stepMachine sweep).row = c.site.path.row := by
      simp only [HeaterPath.stepMachine, hround]
      exact ⟨trivial, trivial⟩
    have hnoted : (c.ledger.noteMachine c.site.path).read = c.ledger.read ∧
        (c.ledger.noteMachine c.site.path).granted = c.ledger.granted := by
      rw [SupplyLedger.noteMachine, hround]
      split_ifs <;> exact ⟨rfl, rfl⟩
    refine ⟨hdelivers, ?_, ?_, ?_, ?_⟩
    · intro s sts hsome on hmem
      rw [hpath, hnext] at hsome
      obtain ⟨rfl, rfl⟩ := Prod.mk.inj (Option.some.inj hsome)
      rw [hpath, hkept.1]
      exact statements_srsPowerState hmem
    · intro st hst
      rw [hpath, hkept.2]
      rw [hledger, SupplyLedger.noteMachine, hround] at hst
      simp only at hst
      split_ifs at hst with hfound
      · rw [← Option.some.inj hst, hfound]
        exact h.switch
      · exact h.row st hst
    · rw [hledger, hnoted.1]
      exact h.flag
    · rw [hledger, hnoted.2]
      exact h.granted
  | some (s, st :: rest) =>
    obtain ⟨hnext, -, hrow⟩ := HeaterPath.stepMachine_of_statement sweep hround
    have hkept : (c.site.path.stepMachine sweep).machine = c.site.path.machine := by
      simp only [HeaterPath.stepMachine, hround, HeaterPath.execute]
    have hnoted : (c.ledger.noteMachine c.site.path).read = c.ledger.read ∧
        (c.ledger.noteMachine c.site.path).granted = c.ledger.granted := by
      rw [SupplyLedger.noteMachine, hround]
      cases st <;> exact ⟨rfl, rfl⟩
    refine ⟨hdelivers, ?_, ?_, ?_, ?_⟩
    · intro s' sts hsome on hmem
      rw [hpath, hnext] at hsome
      obtain ⟨rfl, rfl⟩ := Prod.mk.inj (Option.some.inj hsome)
      rw [hpath, hkept]
      exact h.pending _ _ hround on (List.mem_cons_of_mem st hmem)
    · rw [hpath, hrow, hledger, SupplyLedger.noteMachine, hround]
      cases st with
      | setSRSPowerState on =>
        intro published hpublished
        rw [← Option.some.inj hpublished, ← h.switch,
          ← h.pending _ _ hround on List.mem_cons_self]
        exact CoolerSite.toInt_ne_zero on
      | _ => exact h.row
    · rw [hledger, hnoted.1]
      exact h.flag
    · rw [hledger, hnoted.2]
      exact h.granted
  | some (s, []) =>
    obtain ⟨hnext, hrow, -⟩ := HeaterPath.stepMachine_of_done sweep hround
    have hnoted : c.ledger.noteMachine c.site.path = c.ledger := by
      rw [SupplyLedger.noteMachine, hround]
    refine ⟨hdelivers, ?_, ?_, ?_, ?_⟩
    · intro s' sts hsome
      rw [hpath, hnext] at hsome
      cases hsome
    · rw [hpath, hrow, hledger, hnoted]
      exact h.row
    · rw [hledger, hnoted]
      exact h.flag
    · rw [hledger, hnoted]
      exact h.granted

end Machine

section Server
variable {c : SupplySite}

theorem noteServer_published (l : SupplyLedger) (t : Thread) (d : ThreadAt) :
    (l.noteServer t d).published = l.published := by
  cases d <;> rfl

theorem noteServer_read (l : SupplyLedger) (t : Thread) {d : ThreadAt}
    (hd : d.isSelect = false) : (l.noteServer t d).read = l.read := by
  cases d with
  | select prevPS => cases hd
  | _ => rfl

theorem noteServer_granted (l : SupplyLedger) (t t' : Thread) {d : ThreadAt}
    (h : d.isTest = true → t' ≠ t) : (l.noteServer t d).granted t' = l.granted t' := by
  cases d with
  | test startV stopV time => exact if_neg (h rfl)
  | _ => rfl

theorem server_flag (h : Conveys c) (e : SRSEvent) :
    ∀ st ∈ (c.step (.server e)).ledger.read,
      (c.step (.server e)).server.supply.srsPowerState = st.actuation.srsOn := by
  have hsupply : (c.step (.server e)).server.supply = _ := c.server.step_supply (c.reading e)
  have hledger : (c.step (.server e)).ledger =
      c.ledger.noteServer e.thread (c.server.place e.thread) := rfl
  have hthread : (c.reading e).thread = e.thread := rfl
  rw [hsupply, hledger, hthread]
  cases hselect : (c.server.place e.thread).isSelect with
  | true =>
    obtain ⟨prevPS, hplace⟩ := ThreadAt.isSelect_iff.mp hselect
    rw [hplace]
    exact h.row
  | false =>
    have hno (prevPS : Bool) : c.server.place e.thread ≠ .select prevPS := by
      intro heq
      rw [heq] at hselect
      cases hselect
    rw [noteServer_read _ _ hselect, c.server.advance_srsPowerState _ _ _ hno]
    exact h.flag

theorem server_granted (h : Conveys c) (e : SRSEvent) (t : Thread)
    (hramping : ((c.step (.server e)).server.place t).Ramping) :
    ∀ st ∈ (c.step (.server e)).ledger.granted t, st.actuation.srsOn = true := by
  have hplace : (c.step (.server e)).server.place t = _ := c.server.step_place (c.reading e) t
  have hledger : (c.step (.server e)).ledger =
      c.ledger.noteServer e.thread (c.server.place e.thread) := rfl
  have hthread : (c.reading e).thread = e.thread := rfl
  rw [hplace, hthread] at hramping
  rw [hledger]
  by_cases ht : t = e.thread
  · subst ht
    rw [if_pos rfl] at hramping
    rcases c.server.advance_ramping e.thread (c.reading e) hramping with hwas | ⟨htest, hon⟩
    · have hnot : (c.server.place e.thread).isTest = true → e.thread ≠ e.thread := by
        intro htest
        obtain ⟨cmd, hcmd, -⟩ := hwas
        cases hd : c.server.place e.thread with
        | test startV stopV time =>
          rw [hd] at hcmd
          cases hcmd
        | _ =>
          rw [hd] at htest
          cases htest
      rw [noteServer_granted _ _ _ hnot]
      exact h.granted e.thread hwas
    · -- the thread has just been granted what was read
      cases hd : c.server.place e.thread with
      | test startV stopV time =>
        intro st hst
        have hread : st ∈ c.ledger.read := by
          simp only [SupplyLedger.noteServer, if_true] at hst
          exact hst
        rw [← h.flag st hread]
        exact hon
      | _ =>
        rw [hd] at htest
        cases htest
  · rw [if_neg ht] at hramping
    rw [noteServer_granted _ _ _ fun _ => ht]
    exact h.granted t hramping

end Server

theorem step_conveys (c : SupplySite) (ev : SupplyEvent) (h : Conveys c) : Conveys (c.step ev) := by
  cases ev with
  | server e =>
    refine ⟨h.heater, h.pending, ?_, server_flag h e, server_granted h e⟩
    change ∀ st ∈ (c.ledger.noteServer e.thread (c.server.place e.thread)).published, _
    rw [noteServer_published]
    exact h.row
  | restartServer mem reads =>
    exact ⟨h.heater, h.pending, h.row, fun _ hst => (by cases hst), fun _ _ _ hst => (by cases hst)⟩
  | site ev =>
    have hdelivers :=
      HeaterSite.step_delivers c.site (ev.sparingSupply c.site.path.row) h.heater
    cases ev with
    | path ev =>
      cases ev with
      | machine sweep => exact machine_conveys h sweep
      | drone undefInt => exact ⟨hdelivers, h.pending, h.row, h.flag, h.granted⟩
      | edit row => exact ⟨hdelivers, h.pending, h.row, h.flag, h.granted⟩
    | restartMachine memSM absTime rateTime =>
      exact ⟨hdelivers, fun _ _ hsome => (by cases hsome), h.row, h.flag, h.granted⟩
    | restartDrone mem reads => exact ⟨hdelivers, h.pending, h.row, h.flag, h.granted⟩

def Granted (c : SupplySite) (ev : SupplyEvent) : Prop :=
  ∀ e, ev = .server e → ∀ cmds,
    (c.step ev).server.supply.port.sent = c.server.supply.port.sent ++ cmds →
      (∃ cmd ∈ cmds, cmd.isQuery = false) →
        ∀ st ∈ c.ledger.granted e.thread, st ∈ [.coolDownCold, .maintainCold]

theorem granted_of_conveys (c : SupplySite) (ev : SupplyEvent) (h : Conveys c) : Granted c ev := by
  intro e hev cmds hsent hcmd st hst
  subst hev
  have hsupply : (c.step (.server e)).server.supply = _ := c.server.step_supply (c.reading e)
  obtain ⟨cmds', hsent', hsub⟩ :=
    c.server.advance_sent e.thread (c.reading e) (c.server.place e.thread)
  rw [hsupply] at hsent
  obtain ⟨cmd, hmem, hquery⟩ := hcmd
  rw [List.append_cancel_left (hsent.symm.trans hsent')] at hmem
  have hon := h.granted e.thread ⟨cmd, hsub hmem, hquery⟩ st hst
  exact st.actuation_srsOn.mp hon

/-- In every interleaving of the machine, the heater's program and the two threads of the
server, with deaths and restarts of all three programs, a command of a ramp goes out only
if, when the flag that its test found was read, the row showed the switch of a machine in
`CoolDownCold` or `MaintainCold`. -/
theorem run_granted (memSM : CryoControlSM) (absTime rateTime : UInt64)
    (row : ControlParameters) (memLS : LakeShore) (readsLS : List ReadResult) (device : Heater)
    (mem : SRSPowerSupply) (reads : List ReadResult) (evs : List SupplyEvent) :
    Transition.Along step Granted
      (start (HeaterSite.start memSM absTime rateTime row memLS readsLS device) mem reads) evs :=
  Transition.along_of_invariant step_conveys granted_of_conveys
    (start_conveys memSM absTime rateTime row memLS readsLS device mem reads) evs

end SupplySite
end CryoController
