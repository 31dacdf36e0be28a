import CryoController.SupplyPath

/-!
# The supply when contact is lost

A sweep on stale rows ends with the supply switched off, and the last statement of the
exchange after it puts that on the row. From then on every database read of the server
finds the flag off, so no thread comes through the test of a ramp any more; a ramp that
had come through before is sent to its end.
-/

namespace CryoController

namespace SupplyEvent

def isMachine : SupplyEvent → Bool
  | .site ev => ev.isMachine
  | _ => false

def Lost (ev : SupplyEvent) : Prop := ∀ e, ev = .site e → e.Lost

end SupplyEvent

theorem CryoControlSM.statements_of_srsPowerState {m : CryoControlSM} {d : DataPacket}
    (h : d.srsPowerState ≠ m.computedSRSPowerState) : ∃ front rest,
      m.statements d = front ++ .setSRSPowerState m.computedSRSPowerState :: rest ∧
        front.length < 5 := by
  rw [statements, if_pos h]
  split_ifs
  · exact ⟨[_, _, _, _], [], rfl, Nat.lt_succ_self 4⟩
  · exact ⟨[_, _, _], [], rfl, by simp⟩

namespace SupplySite
variable {c : SupplySite}

/-- The machine has ended off, the row says so, and the machine is not about to say
anything else. -/
structure Silent (c : SupplySite) : Prop where
  conveys : Conveys c
  ended : c.site.path.machine.computedSRSPowerState = false
  row : c.site.path.row.srsPowerState = 0
  stale : ∀ sweep sts, c.site.path.pending = some (sweep, sts) → sweep.Stale

def Losing (_ : SupplySite) (ev : SupplyEvent) : Prop :=
  ev.Lost ∧ ∀ memSM absTime rateTime, ev ≠ .site (.restartMachine memSM absTime rateTime)

section Machine
variable (sweep : Sweep)

theorem machine_of_isMachine {ev : SupplyEvent} (h : ev.isMachine = true) :
    ∃ sweep, ev = .site (.path (.machine sweep)) := by
  cases ev with
  | site ev =>
    obtain ⟨sweep, hev⟩ := HeaterSite.machine_of_isMachine h
    exact ⟨sweep, congrArg _ hev⟩
  | _ => cases h

theorem stepMachine_begins_keeps {p : HeaterPath} (h : p.pending = none) :
    (p.stepMachine sweep).machine = p.machine ∧ (p.stepMachine sweep).row = p.row := by
  simp only [HeaterPath.stepMachine, h]
  exact ⟨trivial, trivial⟩

theorem stepMachine_statement_machine {p : HeaterPath} {s : Sweep} {st : Statement}
    {rest : List Statement} (h : p.pending = some (s, st :: rest)) :
    (p.stepMachine sweep).machine = p.machine := by
  simp only [HeaterPath.stepMachine, h, HeaterPath.execute]

theorem stepMachine_done_machine {p : HeaterPath} {s : Sweep} (h : p.pending = some (s, [])) :
    (p.stepMachine sweep).machine = p.machine.smEngine s := by
  simp only [HeaterPath.stepMachine, h]

variable {sweep}

theorem machine_silent (h : c.Silent) (hstale : sweep.Stale) :
    (c.step (.site (.path (.machine sweep)))).Silent := by
  have hconveys := step_conveys c (.site (.path (.machine sweep))) h.conveys
  have hpath : (c.step (.site (.path (.machine sweep)))).site.path = c.site.path.stepMachine sweep :=
    rfl
  match hround : c.site.path.pending with
  | none =>
    obtain ⟨hmachine, hrow⟩ := stepMachine_begins_keeps sweep hround
    refine ⟨hconveys, ?_, ?_, ?_⟩
    · rw [hpath, hmachine]
      exact h.ended
    · rw [hpath, hrow]
      exact h.row
    · intro s sts hs
      rw [hpath, HeaterPath.stepMachine_begins sweep hround] at hs
      obtain ⟨rfl, -⟩ := Prod.mk.inj (Option.some.inj hs)
      exact hstale
  | some (s, st :: rest) =>
    obtain ⟨hnext, -, hrow⟩ := HeaterPath.stepMachine_of_statement sweep hround
    refine ⟨hconveys, ?_, ?_, ?_⟩
    · rw [hpath, stepMachine_statement_machine sweep hround]
      exact h.ended
    · rw [hpath, hrow]
      cases st with
      | setSRSPowerState on =>
        have hon := h.conveys.pending _ _ hround on List.mem_cons_self
        rw [hon, h.ended]
        rfl
      | _ => exact h.row
    · intro s' sts hs
      rw [hpath, hnext] at hs
      obtain ⟨rfl, -⟩ := Prod.mk.inj (Option.some.inj hs)
      exact h.stale _ _ hround
  | some (s, []) =>
    obtain ⟨hnext, hrow, -⟩ := HeaterPath.stepMachine_of_done sweep hround
    have hoff := CryoControlSM.smEngine_off_of_stale h.conveys.heater.interlock
      (h.stale _ _ hround)
    refine ⟨hconveys, ?_, ?_, ?_⟩
    · rw [hpath, stepMachine_done_machine sweep hround]
      exact hoff.srs
    · rw [hpath, hrow]
      exact h.row
    · intro s' sts hs
      rw [hpath, hnext] at hs
      cases hs

end Machine

theorem step_silent (h : c.Silent) {ev : SupplyEvent} (hlost : ev.Lost) : (c.step ev).Silent := by
  have hconveys := step_conveys c ev h.conveys
  cases ev with
  | server e => exact ⟨hconveys, h.ended, h.row, h.stale⟩
  | restartServer mem reads => exact ⟨hconveys, h.ended, h.row, h.stale⟩
  | site ev =>
    cases ev with
    | path ev =>
      cases ev with
      | machine sweep => exact machine_silent h (hlost _ rfl sweep rfl)
      | drone undefInt => exact ⟨hconveys, h.ended, h.row, h.stale⟩
      | edit row => exact ⟨hconveys, h.ended, h.row, h.stale⟩
    | restartMachine memSM absTime rateTime =>
      exact ⟨hconveys, rfl, h.row, fun _ _ hs => by cases hs⟩
    | restartDrone mem reads => exact ⟨hconveys, h.ended, h.row, h.stale⟩

theorem step_of_not_machine (c : SupplySite) {ev : SupplyEvent} (hev : ev.isMachine = false)
    (hp : Losing c ev) : (c.step ev).site.path.pending = c.site.path.pending ∧
      (c.step ev).site.path.machine = c.site.path.machine := by
  cases ev with
  | server e => exact ⟨rfl, rfl⟩
  | restartServer mem reads => exact ⟨rfl, rfl⟩
  | site ev =>
    cases ev with
    | path ev =>
      cases ev with
      | machine sweep => cases hev
      | drone undefInt => exact ⟨rfl, rfl⟩
      | edit row => exact ⟨rfl, rfl⟩
    | restartMachine memSM absTime rateTime => exact absurd rfl (hp.2 _ _ _)
    | restartDrone mem reads => exact ⟨rfl, rfl⟩

theorem step_short (c : SupplySite) (ev : SupplyEvent) (h : c.site.path.Short) :
    (c.step ev).site.path.Short := by
  cases ev with
  | site ev => exact HeaterSite.step_short c.site (ev.sparingSupply c.site.path.row) h
  | _ => exact h

theorem losing_party : Rounds.Party step (·.site.path.pending) Conveys Losing
    SupplyEvent.isMachine Sweep.Stale (fun st => ∃ on, st = .setSRSPowerState on)
    (·.site.path.machine.computedSRSPowerState = false) Silent 5 5 where
  inv := fun c ev _ hc => step_conveys c ev hc
  begins := by
    intro c ev hown hp hc hround
    obtain ⟨sweep, rfl⟩ := machine_of_isMachine hown
    obtain ⟨hmachine, hrow⟩ := stepMachine_begins_keeps sweep hround
    have hnext := HeaterPath.stepMachine_begins sweep hround
    have hstale : sweep.Stale := hp.1 _ rfl sweep rfl
    refine ⟨{ sweep with ctrlRow := c.site.path.row }, _, hnext, hstale,
      HeaterPath.statements_length_le _ _, fun hspent => ⟨?_, ?_⟩⟩
    · exact (congrArg _ hmachine).trans hspent
    · by_cases hzero : c.site.path.row.srsPowerState = 0
      · refine Or.inl ⟨step_conveys c _ hc, (congrArg _ hmachine).trans hspent,
          (congrArg (·.srsPowerState) hrow).trans hzero, ?_⟩
        intro s sts hs
        obtain ⟨rfl, -⟩ := Prod.mk.inj (Option.some.inj (hnext.symm.trans hs))
        exact hstale
      · have hdiffers : ({ sweep with ctrlRow := c.site.path.row } : Sweep).packet.srsPowerState ≠
            c.site.path.machine.computedSRSPowerState := by
          rw [hspent]
          exact fun heq => of_decide_eq_false heq hzero
        obtain ⟨front, rest, hsts, hlength⟩ :=
          CryoControlSM.statements_of_srsPowerState hdiffers
        exact Or.inr ⟨front, _, rest, hsts, ⟨_, rfl⟩, hlength⟩
  does := by
    intro c ev s st rest hown hp hc hround
    obtain ⟨sweep, rfl⟩ := machine_of_isMachine hown
    obtain ⟨hnext, -, hrow⟩ := HeaterPath.stepMachine_of_statement sweep hround
    have hmachine := stepMachine_statement_machine sweep hround
    refine ⟨hnext, fun hspent => (congrArg _ hmachine).trans hspent, ?_⟩
    intro hstale hspent hdecides
    obtain ⟨on, hst⟩ := hdecides
    subst hst
    have hon := hc.pending _ _ hround on List.mem_cons_self
    refine ⟨step_conveys c _ hc, (congrArg _ hmachine).trans hspent, ?_, ?_⟩
    · refine (congrArg (·.srsPowerState) hrow).trans ?_
      rw [hon, hspent]
      rfl
    · intro s' sts hs
      obtain ⟨rfl, -⟩ := Prod.mk.inj (Option.some.inj (hnext.symm.trans hs))
      exact hstale
  ends := by
    intro c ev s hown hp hc hround
    obtain ⟨sweep, rfl⟩ := machine_of_isMachine hown
    refine ⟨(HeaterPath.stepMachine_of_done sweep hround).1, fun hstale => ?_⟩
    exact (congrArg _ (stepMachine_done_machine sweep hround)).trans
      (CryoControlSM.smEngine_off_of_stale hc.heater.interlock hstale).srs
  others := by
    intro c ev hother hp hc
    obtain ⟨hpending, hmachine⟩ := c.step_of_not_machine hother hp
    exact ⟨hpending, fun hspent => (congrArg _ hmachine).trans hspent⟩
  done := fun c ev hp _ hsilent => step_silent hsilent hp.1

end SupplySite
end CryoController
