import CryoController.CoolerPath
import CryoController.LostContact

/-!
# The cooler when contact is lost

A sweep on stale rows ends with the cooler switched off, and the exchange after it puts
that on the row with its fourth statement, unless it finds it there. From then on the loop
of the cryocooler begins its sweeps with the switch off, so it stops a cooler that it finds
on once in thirty sweeps and never starts one.
-/

namespace CryoController

namespace CoolerEvent

def isMachine : CoolerEvent → Bool
  | .site ev => ev.isMachine
  | _ => false

def Lost (ev : CoolerEvent) : Prop := ∀ e, ev = .site e → e.Lost

end CoolerEvent

theorem SiteEvent.Lost.sparing {ev : SiteEvent} (h : ev.Lost) (row : ControlParameters) :
    (ev.sparing row).Lost := by
  cases ev with
  | path ev =>
    cases ev with
    | edit new =>
      intro sweep heq
      cases heq
    | _ => exact h
  | _ => exact h

theorem CryoControlSM.statements_of_ccPowerState {m : CryoControlSM} {d : DataPacket}
    (h : d.ccPowerStateLast ≠ m.cCoolerPower) : ∃ front rest,
      m.statements d = front ++ .setCCPowerState m.cCoolerPower :: rest ∧ front.length < 4 := by
  rw [statements, if_pos h]
  exact ⟨[_, _, _], _, rfl, Nat.lt_succ_self 3⟩

namespace CoolerSite
variable {asInt : ℚ → ℤ} {c : CoolerSite}

/-- The row says that the cooler is off, and the machine is not about to say anything else. -/
structure Silent (asInt : ℚ → ℤ) (c : CoolerSite) : Prop where
  conveys : Conveys asInt c
  ended : c.ledger.endedState = false
  published : c.ledger.on = some false
  stale : ∀ sweep sts, c.site.path.pending = some (sweep, sts) → sweep.Stale

def Losing (_ : CoolerSite) (ev : CoolerEvent) : Prop :=
  ev.Lost ∧ ∀ memSM absTime rateTime, ev ≠ .site (.restartMachine memSM absTime rateTime)

section Machine
variable (c) (sweep : Sweep)

theorem machine_of_isMachine {ev : CoolerEvent} (h : ev.isMachine = true) :
    ∃ sweep, ev = .site (.path (.machine sweep)) := by
  cases ev with
  | site ev =>
    obtain ⟨sweep, hev⟩ := HeaterSite.machine_of_isMachine h
    exact ⟨sweep, congrArg _ hev⟩
  | _ => cases h

theorem step_machine (asInt : ℚ → ℤ) :
    (c.step asInt (.site (.path (.machine sweep)))).site.path = c.site.path.stepMachine sweep ∧
      (c.step asInt (.site (.path (.machine sweep)))).ledger = c.ledger.noteMachine c.site.path :=
  ⟨rfl, rfl⟩

variable {c} {sweep}

theorem noteMachine_begins (h : Conveys asInt c) (hended : c.ledger.endedState = false)
    (hround : c.site.path.pending = none) (d : DataPacket)
    (hrow : d.ccPowerStateLast = decide (c.site.path.row.ccPowerState ≠ 0)) :
    (c.ledger.noteMachine c.site.path).on = some false ∨
      ∃ front st rest, c.site.path.machine.statements d = front ++ st :: rest ∧
        (∃ on, st = .setCCPowerState on) ∧ front.length < 4 := by
  have hmachine : c.site.path.machine.cCoolerPower = false := h.state.trans hended
  by_cases hfound : decide (c.site.path.row.ccPowerState ≠ 0) = false
  · refine Or.inl ?_
    rw [CoolerLedger.noteMachine, hround, hended]
    exact congrArg CoolerLedger.on (if_pos hfound)
  · have hdiffers : d.ccPowerStateLast ≠ c.site.path.machine.cCoolerPower := by
      rw [hrow, hmachine]
      exact hfound
    obtain ⟨front, rest, hsts, hlength⟩ := CryoControlSM.statements_of_ccPowerState hdiffers
    exact Or.inr ⟨front, _, rest, hsts, ⟨_, rfl⟩, hlength⟩

theorem noteMachine_does {s : Sweep} {st : Statement} {rest : List Statement}
    (hround : c.site.path.pending = some (s, st :: rest)) :
    (c.ledger.noteMachine c.site.path).endedState = c.ledger.endedState ∧
      ∀ on, st = .setCCPowerState on →
        (c.ledger.noteMachine c.site.path).on = some c.ledger.endedState := by
  rw [CoolerLedger.noteMachine, hround]
  cases st with
  | setCCPowerState on => exact ⟨rfl, fun _ _ => rfl⟩
  | _ => exact ⟨rfl, fun on heq => by cases heq⟩

theorem noteMachine_ends {s : Sweep} (hround : c.site.path.pending = some (s, [])) :
    (c.ledger.noteMachine c.site.path).endedState =
      (c.site.path.machine.smEngine s).cCoolerPower := by
  rw [CoolerLedger.noteMachine, hround]

theorem noteMachine_begins_ended (hround : c.site.path.pending = none) :
    (c.ledger.noteMachine c.site.path).endedState = c.ledger.endedState := by
  rw [CoolerLedger.noteMachine, hround]
  split_ifs <;> rfl

theorem machine_silent (h : c.Silent asInt) (hstale : sweep.Stale) :
    (c.step asInt (.site (.path (.machine sweep)))).Silent asInt := by
  have hconveys := step_conveys c (.site (.path (.machine sweep))) h.conveys
  obtain ⟨hpath, hledger⟩ := step_machine c sweep asInt
  match hround : c.site.path.pending with
  | none =>
    obtain ⟨sweep', hsweep', hnext, -, -⟩ := HeaterPath.stepMachine_of_none sweep hround
    refine ⟨hconveys, ?_, ?_, ?_⟩
    · rw [hledger, noteMachine_begins_ended hround]
      exact h.ended
    · rw [hledger, CoolerLedger.noteMachine, hround, h.ended]
      simp only
      split_ifs
      · rfl
      · exact h.published
    · intro s sts hs
      rw [hpath, hnext] at hs
      obtain ⟨rfl, -⟩ := Prod.mk.inj (Option.some.inj hs)
      exact hsweep' hstale
  | some (s, st :: rest) =>
    obtain ⟨hended, hon⟩ := noteMachine_does hround
    obtain ⟨hnext, -, -⟩ := HeaterPath.stepMachine_of_statement sweep hround
    refine ⟨hconveys, hledger ▸ hended.trans h.ended, ?_, ?_⟩
    · rw [hledger, CoolerLedger.noteMachine, hround]
      cases st with
      | setCCPowerState on => exact congrArg some h.ended
      | _ => exact h.published
    · intro s' sts hs
      rw [hpath, hnext] at hs
      obtain ⟨rfl, -⟩ := Prod.mk.inj (Option.some.inj hs)
      exact h.stale _ _ hround
  | some (s, []) =>
    have hoff := CryoControlSM.smEngine_off_of_stale h.conveys.heater.interlock
      (h.stale _ _ hround)
    refine ⟨hconveys, ?_, ?_, ?_⟩
    · rw [hledger, noteMachine_ends hround]
      exact hoff.cooler
    · rw [hledger, CoolerLedger.noteMachine, hround]
      exact h.published
    · intro s' sts hs
      rw [hpath, (HeaterPath.stepMachine_of_done sweep hround).1] at hs
      cases hs

end Machine

theorem step_loop_ledger (asInt : ℚ → ℤ) (c : CoolerSite) {ev : CoolerEvent}
    (hloop : ∀ e, ev ≠ .site e) :
    ∃ life later, (c.step asInt ev).site = c.site ∧
      (c.step asInt ev).ledger =
          { c.ledger with life := life, sweeps := c.ledger.sweeps ++ later } ∧
        ∀ e ∈ later, e.on = c.ledger.on := by
  have hnone (life : ℕ) : { c.ledger with life := life } =
      { c.ledger with life := life, sweeps := c.ledger.sweeps ++ [] } := by
    rw [List.append_nil]
  cases ev with
  | site ev => exact absurd rfl (hloop ev)
  | restartCooler status mem reads selects =>
    exact ⟨_, [], rfl, hnone _, fun _ he => by cases he⟩
  | cooler r =>
    refine ⟨c.ledger.life, ?_⟩
    rw [step, stepCooler]
    split
    · exact ⟨[], rfl, hnone _, fun _ he => by cases he⟩
    · rename_i d _
      exact ⟨[c.select asInt d r], rfl, rfl,
        fun e he => by rw [List.mem_singleton.mp he]; rfl⟩
    · exact ⟨[], rfl, hnone _, fun _ he => by cases he⟩
    · exact ⟨[], rfl, hnone _, fun _ he => by cases he⟩

theorem note_of_not_machine (l : CoolerLedger) (p : HeaterPath) {ev : SiteEvent}
    (hev : ev.isMachine = false)
    (hrestart : ∀ memSM absTime rateTime, ev ≠ .restartMachine memSM absTime rateTime) :
    l.note p ev = l := by
  cases ev with
  | path ev =>
    cases ev with
    | machine sweep => cases hev
    | _ => rfl
  | restartMachine memSM absTime rateTime => exact absurd rfl (hrestart _ _ _)
  | restartDrone mem reads => rfl

theorem step_site_pending (c : CoolerSite) {ev : SiteEvent} (hev : ev.isMachine = false)
    (hrestart : ∀ memSM absTime rateTime, ev ≠ .restartMachine memSM absTime rateTime) :
    (c.step asInt (.site ev)).site.path.pending = c.site.path.pending := by
  cases ev with
  | path ev =>
    cases ev with
    | machine sweep => cases hev
    | drone undefInt => exact (c.site.path.stepDrone_keeps undefInt).1
    | edit row => rfl
  | restartMachine memSM absTime rateTime => exact absurd rfl (hrestart _ _ _)
  | restartDrone mem reads => rfl

theorem loop_silent (h : c.Silent asInt) {ev : CoolerEvent} (hloop : ∀ e, ev ≠ .site e) :
    (c.step asInt ev).Silent asInt := by
  obtain ⟨life, later, hsite, hledger, -⟩ := step_loop_ledger asInt c hloop
  refine ⟨step_conveys c ev h.conveys, ?_, ?_, hsite ▸ h.stale⟩
  · rw [hledger]
    exact h.ended
  · rw [hledger]
    exact h.published

theorem step_silent (h : c.Silent asInt) {ev : CoolerEvent} (hlost : ev.Lost) :
    (c.step asInt ev).Silent asInt := by
  have hconveys := step_conveys c ev h.conveys
  cases ev with
  | cooler r => exact loop_silent h (fun _ heq => by cases heq)
  | restartCooler status mem reads selects => exact loop_silent h (fun _ heq => by cases heq)
  | site ev =>
    cases hev : ev.isMachine with
    | true =>
      obtain ⟨sweep, rfl⟩ := HeaterSite.machine_of_isMachine hev
      exact machine_silent h (hlost _ rfl sweep rfl)
    | false =>
      by_cases hrestart : ∀ memSM absTime rateTime, ev ≠ .restartMachine memSM absTime rateTime
      · have hledger : (c.step asInt (.site ev)).ledger = c.ledger :=
          note_of_not_machine c.ledger c.site.path hev hrestart
        refine ⟨hconveys, hledger ▸ h.ended, hledger ▸ h.published, ?_⟩
        rw [c.step_site_pending hev hrestart]
        exact h.stale
      · push Not at hrestart
        obtain ⟨memSM, absTime, rateTime, rfl⟩ := hrestart
        exact ⟨hconveys, rfl, h.published, fun _ _ hs => by cases hs⟩

theorem losing_party : Rounds.Party (step asInt) (·.site.path.pending) (Conveys asInt) Losing
    CoolerEvent.isMachine Sweep.Stale (fun st => ∃ on, st = .setCCPowerState on)
    (·.ledger.endedState = false) (Silent asInt) 5 4 where
  inv := fun c ev _ hc => step_conveys c ev hc
  begins := by
    intro c ev hown hp hc hround
    obtain ⟨sweep, rfl⟩ := machine_of_isMachine hown
    obtain ⟨hpath, hledger⟩ := step_machine c sweep asInt
    have hnext := HeaterPath.stepMachine_begins sweep hround
    have hstale : sweep.Stale := hp.1 _ rfl sweep rfl
    refine ⟨{ sweep with ctrlRow := c.site.path.row }, _, hpath ▸ hnext, hstale,
      HeaterPath.statements_length_le _ _, fun hspent => ⟨?_, ?_⟩⟩
    · rw [hledger, noteMachine_begins_ended hround]
      exact hspent
    · have hbegins := noteMachine_begins hc hspent hround
        ({ sweep with ctrlRow := c.site.path.row } : Sweep).packet rfl
      refine hbegins.imp_left fun hon => ⟨step_conveys c _ hc, ?_, hledger ▸ hon, ?_⟩
      · rw [hledger, noteMachine_begins_ended hround]
        exact hspent
      · intro s sts hs
        obtain ⟨rfl, -⟩ := Prod.mk.inj (Option.some.inj ((hpath ▸ hnext).symm.trans hs))
        exact hstale
  does := by
    intro c ev s st rest hown hp hc hround
    obtain ⟨sweep, rfl⟩ := machine_of_isMachine hown
    obtain ⟨hpath, hledger⟩ := step_machine c sweep asInt
    obtain ⟨hnext, -, -⟩ := HeaterPath.stepMachine_of_statement sweep hround
    obtain ⟨hended, hon⟩ := noteMachine_does hround
    refine ⟨hpath ▸ hnext, fun hspent => hledger ▸ hended.trans hspent, ?_⟩
    intro hstale hspent hdecides
    obtain ⟨on, hst⟩ := hdecides
    refine ⟨step_conveys c _ hc, hledger ▸ hended.trans hspent, ?_, ?_⟩
    · rw [hledger, hon on hst, hspent]
    · intro s' sts hs
      obtain ⟨rfl, -⟩ := Prod.mk.inj (Option.some.inj ((hpath ▸ hnext).symm.trans hs))
      exact hstale
  ends := by
    intro c ev s hown hp hc hround
    obtain ⟨sweep, rfl⟩ := machine_of_isMachine hown
    obtain ⟨hpath, hledger⟩ := step_machine c sweep asInt
    refine ⟨hpath ▸ (HeaterPath.stepMachine_of_done sweep hround).1, fun hstale => ?_⟩
    rw [hledger, noteMachine_ends hround]
    exact (CryoControlSM.smEngine_off_of_stale hc.heater.interlock hstale).cooler
  others := by
    intro c ev hother hp hc
    have hloop (h : ∀ e, ev ≠ .site e) :
        (c.step asInt ev).site.path.pending = c.site.path.pending ∧
          (c.ledger.endedState = false → (c.step asInt ev).ledger.endedState = false) := by
      obtain ⟨life, later, hsite, hledger, -⟩ := step_loop_ledger asInt c h
      exact ⟨congrArg (·.path.pending) hsite, fun hspent => by rw [hledger]; exact hspent⟩
    cases ev with
    | cooler r => exact hloop fun _ heq => by cases heq
    | restartCooler status mem reads selects => exact hloop fun _ heq => by cases heq
    | site ev =>
      have hrestart (memSM : CryoControlSM) (absTime rateTime : UInt64) :
          ev ≠ .restartMachine memSM absTime rateTime :=
        fun heq => hp.2 memSM absTime rateTime (congrArg _ heq)
      have hledger : (c.step asInt (.site ev)).ledger = c.ledger :=
        note_of_not_machine c.ledger c.site.path hother hrestart
      exact ⟨c.step_site_pending hother hrestart, fun hspent => hledger ▸ hspent⟩
  done := fun c ev hp _ hsilent => step_silent hsilent hp.1

theorem step_sweeps (h : c.Silent asInt) (ev : CoolerEvent) :
    ∃ later, (c.step asInt ev).ledger.sweeps = c.ledger.sweeps ++ later ∧
      ∀ e ∈ later, e.on = some false := by
  have hloop (hev : ∀ e, ev ≠ .site e) :
      ∃ later, (c.step asInt ev).ledger.sweeps = c.ledger.sweeps ++ later ∧
        ∀ e ∈ later, e.on = some false := by
    obtain ⟨life, later, -, hledger, hon⟩ := step_loop_ledger asInt c hev
    exact ⟨later, by rw [hledger], fun e he => (hon e he).trans h.published⟩
  cases ev with
  | cooler r => exact hloop fun _ heq => by cases heq
  | restartCooler status mem reads selects => exact hloop fun _ heq => by cases heq
  | site ev =>
    refine ⟨[], ?_, fun _ he => by cases he⟩
    exact (note_sweeps c.ledger c.site.path ev).1.trans (List.append_nil _).symm

theorem run_sweeps (h : c.Silent asInt) {evs : List CoolerEvent} (hlost : ∀ ev ∈ evs, ev.Lost) :
    ∃ later, (Transition.run (step asInt) c evs).ledger.sweeps = c.ledger.sweeps ++ later ∧
      ∀ e ∈ later, e.on = some false := by
  induction evs generalizing c with
  | nil => exact ⟨[], (List.append_nil _).symm, fun _ he => by cases he⟩
  | cons ev evs ih =>
    rw [List.forall_mem_cons] at hlost
    obtain ⟨first, hfirst, honFirst⟩ := step_sweeps h ev
    obtain ⟨later, hlater, honLater⟩ := ih (step_silent h hlost.1) hlost.2
    refine ⟨first ++ later, ?_, List.forall_mem_append.mpr ⟨honFirst, honLater⟩⟩
    rw [Transition.run_cons, hlater, hfirst, List.append_assoc]

theorem step_short (c : CoolerSite) (ev : CoolerEvent) (h : c.site.path.Short) :
    (c.step asInt ev).site.path.Short := by
  cases ev with
  | site ev => exact HeaterSite.step_short c.site (ev.sparing c.site.path.row) h
  | restartCooler status mem reads selects => exact h
  | cooler r =>
    have hloop : ∀ e, CoolerEvent.cooler r ≠ .site e := fun _ heq => by cases heq
    obtain ⟨-, -, hsite, -, -⟩ := step_loop_ledger asInt c hloop
    exact hsite ▸ h

theorem run_silent (memSM : CryoControlSM) (absTime rateTime : UInt64) (row : ControlParameters)
    (memLS : LakeShore) (readsLS : List ReadResult) (device : Heater) (status : ℤ)
    (mem : Cryocooler) (reads : List ReadResult) (selects : List Bool)
    (before : List CoolerEvent) {losing : List CoolerEvent} (hlost : ∀ ev ∈ losing, ev.Lost)
    (hmachine : ∀ ev ∈ losing, ∀ memSM absTime rateTime,
      ev ≠ .site (.restartMachine memSM absTime rateTime))
    (hlosing : 18 ≤ losing.countP CoolerEvent.isMachine) :
    (Transition.run (step asInt)
      (start (HeaterSite.start memSM absTime rateTime row memLS readsLS device) status mem reads
        selects) (before ++ losing)).Silent asInt := by
  let c₀ := Transition.run (step asInt)
    (start (HeaterSite.start memSM absTime rateTime row memLS readsLS device) status mem reads
      selects) before
  have hconveys : Conveys asInt c₀ := Transition.run_invariant step_conveys
    (start_conveys asInt memSM absTime rateTime row memLS readsLS device status mem reads selects)
    before
  have hshort : c₀.site.path.Short :=
    Transition.run_invariant step_short (fun _ _ hs => by cases hs) before
  have hlosing' : Transition.Along (step asInt) Losing c₀ losing :=
    Transition.along_of_forall_mem (fun ev hev _ => ⟨hlost ev hev, hmachine ev hev⟩) c₀
  rw [Transition.run_append]
  exact losing_party.run_done hconveys hshort hlosing' hlosing

theorem run_lost (asInt : ℚ → ℤ) (memSM : CryoControlSM) (absTime rateTime : UInt64)
    (row : ControlParameters) (memLS : LakeShore) (readsLS : List ReadResult) (device : Heater)
    (status : ℤ) (mem : Cryocooler) (reads : List ReadResult) (selects : List Bool)
    (before : List CoolerEvent) {losing after : List CoolerEvent}
    (hlost : ∀ ev ∈ losing ++ after, ev.Lost)
    (hmachine : ∀ ev ∈ losing, ∀ memSM absTime rateTime,
      ev ≠ .site (.restartMachine memSM absTime rateTime))
    (hlosing : 18 ≤ losing.countP CoolerEvent.isMachine) :
    let c := Transition.run (step asInt)
      (start (HeaterSite.start memSM absTime rateTime row memLS readsLS device) status mem reads
        selects) (before ++ losing)
    Tracked asInt (Transition.run (step asInt) c after) ∧
      ∃ later, (Transition.run (step asInt) c after).ledger.sweeps = c.ledger.sweeps ++ later ∧
        ∀ e ∈ later, e.on = some false := by
  intro c
  rw [List.forall_mem_append] at hlost
  have hsilent : c.Silent asInt := run_silent memSM absTime rateTime row memLS readsLS device status
    mem reads selects before hlost.1 hmachine hlosing
  refine ⟨?_, run_sweeps hsilent hlost.2⟩
  rw [← Transition.run_append]
  exact Transition.run_invariant step_tracked (start_tracked asInt memSM absTime rateTime row memLS
    readsLS device status mem reads selects) _

/-- From any reachable site, in any interleaving: once the machine has taken eighteen steps
on rows that are all stale, the loop starts the cooler in none of the sweeps that it then
begins, and of any thirty of these that one process begins in succession and that find it on
exactly one stops it, whatever dies or is written by others, for as long as no fresh row is
read. -/
theorem run_stops_cooler (memSM : CryoControlSM) (absTime rateTime : UInt64)
    (row : ControlParameters) (memLS : LakeShore) (readsLS : List ReadResult) (device : Heater)
    (status : ℤ) (mem : Cryocooler) (reads : List ReadResult) (selects : List Bool)
    (before losing after : List CoolerEvent) (hlost : ∀ ev ∈ losing ++ after, ev.Lost)
    (hmachine : ∀ ev ∈ losing, ∀ memSM absTime rateTime,
      ev ≠ .site (.restartMachine memSM absTime rateTime))
    (hlosing : 18 ≤ losing.countP CoolerEvent.isMachine) :
    let c := Transition.run (step asInt)
      (start (HeaterSite.start memSM absTime rateTime row memLS readsLS device) status mem reads
        selects) (before ++ losing)
    ∃ later, (Transition.run (step asInt) c after).ledger.sweeps = c.ledger.sweeps ++ later ∧
      (∀ e ∈ later, .setSSTOP false ∉ e.commands) ∧
      ∀ w, w <:+: later → w.length = 30 →
        ∀ life : ℕ, (∀ e ∈ w, e.life = life ∧ e.drone.cooler.isON = true) →
          w.countP (fun e => decide (.setSSTOP true ∈ e.commands)) = 1 := by
  intro c
  obtain ⟨htracked, later, hsweeps, hon⟩ := run_lost asInt memSM absTime rateTime row memLS
    readsLS device status mem reads selects before hlost hmachine hlosing
  refine ⟨later, hsweeps, ?_, ?_⟩
  · intro e he hstart
    have hread := htracked.conveys.sweeps e (hsweeps ▸ List.mem_append_right _ he)
    cases ((mem_commands_iff_of_readBy hread (hon e he)).mp hstart).2
  · intro w hw hlength life hfound
    have hinfix : w <:+: (Transition.run (step asInt) c after).ledger.sweeps :=
      hsweeps ▸ hw.trans (List.suffix_append _ _).isInfix
    refine (switchedInTime_of_tracked htracked w hinfix hlength life false fun e he => ?_).1
    obtain ⟨hlife, hisON⟩ := hfound e he
    refine ⟨hlife, hon e (hw.subset he), ?_⟩
    rw [hisON]
    decide

def sampleReplies : List ReadResult :=
  let line (cs : List Char) : List ReadResult := (cs ++ ['\n']).map .byte
  let poll := [['T'], ['8', '0'], ['P'], ['7', '0'], ['E'], ['1', '0', '0'], ['7', '0'], ['8', '0'],
    ['S'], ['0']].flatMap line
  let adjust := [['W'], ['7', '0'], ['M'], ['0']].flatMap line
  [['V'], ['V']].flatMap line ++
    (List.replicate 6 (poll ++ adjust ++ poll ++ poll ++ poll ++ poll)).flatten

def sampleRow : ControlParameters := { (default : ControlParameters) with ccPowerState := 1 }

def sampleLosing : List CoolerEvent :=
  List.replicate 18 (.site (.path (.machine (CryoControlSM.sampleSweep 100 150 0 (-120)))))

def samplePolling : List CoolerEvent :=
  List.replicate 89 (.cooler ⟨0, 0, default, fun _ => 0, false⟩)

theorem sample_lost : ∀ ev ∈ sampleLosing ++ samplePolling, ev.Lost := by
  have hstale : (CryoControlSM.sampleSweep 100 150 0 (-120)).Stale := by decide +kernel
  intro ev hev e he sweep heq
  subst he heq
  simp only [sampleLosing, samplePolling, List.mem_append, List.mem_replicate,
    CoolerEvent.site.injEq, SiteEvent.path.injEq, HeaterEvent.machine.injEq, reduceCtorEq,
    and_false, or_false] at hev
  exact hev.2 ▸ hstale

theorem sample_lives : ∀ ev ∈ sampleLosing, ∀ memSM absTime rateTime,
    ev ≠ .site (.restartMachine memSM absTime rateTime) := by
  intro ev hev
  rw [List.eq_of_mem_replicate hev]
  simp

/-- The cryocooler's program was silent for two minutes while the row had the cooler on, and
thirty sweeps then find it on. -/
theorem run_stops_cooler_sample :
    let c := Transition.run (step Int.floor)
      (start (HeaterSite.start default 0 0 sampleRow default [] Heater.off) 0 default sampleReplies
        (List.replicate 126 true)) ([] ++ sampleLosing)
    c.ledger.sweeps.length = 0 ∧
      (Transition.run (step Int.floor) c samplePolling).ledger.sweeps.map
        (fun e => (e.life, e.drone.cooler.isON)) = List.replicate 30 (0, true) ∧
      ∃ later, (Transition.run (step Int.floor) c samplePolling).ledger.sweeps =
          c.ledger.sweeps ++ later ∧
        (∀ e ∈ later, .setSSTOP false ∉ e.commands) ∧
        ∀ w, w <:+: later → w.length = 30 →
          ∀ life : ℕ, (∀ e ∈ w, e.life = life ∧ e.drone.cooler.isON = true) →
            w.countP (fun e => decide (.setSSTOP true ∈ e.commands)) = 1 :=
  ⟨by decide +kernel, by decide +kernel,
    run_stops_cooler default 0 0 sampleRow default [] Heater.off 0 default sampleReplies
      (List.replicate 126 true) [] sampleLosing samplePolling sample_lost sample_lives
      (by decide +kernel)⟩

end CoolerSite
end CryoController
