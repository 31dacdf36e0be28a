import CryoController.HeaterShutdown
import CryoController.Foundations.Rounds

/-!
# The heater when contact is lost

When the measurements that the machine reads have become stale, a sweep ends without
heater power and the next one says so in the row. The budgets count the steps of each
program that this takes at most: sixteen of the machine until the row holds no power, and
thirteen of the LakeShore program until an iteration has started, read the row and compared
it with what the device delivers.
-/

open Numeral
namespace CryoController

def SiteEvent.isMachine : SiteEvent → Bool
  | .path (.machine _) => true
  | _ => false

def SiteEvent.isDrone : SiteEvent → Bool
  | .path (.drone _) => true
  | _ => false

def SiteEvent.Lost (ev : SiteEvent) : Prop := ∀ sweep, ev = .path (.machine sweep) → sweep.Stale

namespace HeaterPath

/-- The machine has published no power, and it is not about to compute any. -/
structure Silent (p : HeaterPath) : Prop where
  unpowered : HeaterSite.Unpowered p
  stale : ∀ sweep sts, p.pending = some (sweep, sts) → sweep.Stale

theorem statements_length_le (m : CryoControlSM) (d : DataPacket) :
    (m.statements d).length ≤ 5 := by
  rw [CryoControlSM.statements]
  split_ifs <;> simp

def Short (p : HeaterPath) : Prop := ∀ sweep sts, p.pending = some (sweep, sts) → sts.length ≤ 5

section Machine
variable {p : HeaterPath} {sweep : Sweep}

theorem stepMachine_begins (sweep : Sweep) (h : p.pending = none) :
    (p.stepMachine sweep).pending =
      some ({ sweep with ctrlRow := p.row },
        p.machine.statements ({ sweep with ctrlRow := p.row } : Sweep).packet) := by
  simp only [stepMachine, h]

theorem stepMachine_of_none (sweep : Sweep) (h : p.pending = none) :
    ∃ sweep', (sweep.Stale → sweep'.Stale) ∧
    (p.stepMachine sweep).pending = some (sweep', p.machine.statements sweep'.packet) ∧
    (p.stepMachine sweep).ledger = p.ledger ∧ (p.stepMachine sweep).row = p.row := by
  refine ⟨{ sweep with ctrlRow := p.row }, id, stepMachine_begins sweep h, ?_⟩
  simp only [stepMachine, h]
  exact ⟨trivial, trivial⟩

theorem stepMachine_of_statement (sweep : Sweep) {st : Statement} {sweep' : Sweep}
    {rest : List Statement} (h : p.pending = some (sweep', st :: rest)) :
    (p.stepMachine sweep).pending = some (sweep', rest) ∧
      (p.stepMachine sweep).ledger.ended = p.ledger.ended ∧
      (p.stepMachine sweep).row = p.row.execute st := by
  simp only [stepMachine, h, execute]
  cases st <;> exact ⟨trivial, rfl, trivial⟩

theorem stepMachine_of_done (sweep : Sweep) {sweep' : Sweep} (h : p.pending = some (sweep', [])) :
    (p.stepMachine sweep).pending = none ∧ (p.stepMachine sweep).row = p.row ∧
      (p.stepMachine sweep).ledger.ended = (p.machine.smEngine sweep').thisRunHeaterPower := by
  simp only [stepMachine, h]
  exact ⟨trivial, trivial, trivial⟩

theorem ended_of_stale (sweep : Sweep) (hd : p.Delivers) {sweep' : Sweep}
    (h : p.pending = some (sweep', [])) (hstale : sweep'.Stale) : (p.stepMachine sweep).ledger.ended = 0 :=
  (stepMachine_of_done sweep h).2.2.trans
    (CryoControlSM.smEngine_off_of_stale hd.interlock hstale).heater

theorem stepMachine_silent (h : p.Silent) (hstale : sweep.Stale) :
    (p.stepMachine sweep).Silent := by
  have hdelivers := h.unpowered.delivers
  have hunpowered (hended : (p.stepMachine sweep).ledger.ended = 0) :
      HeaterSite.Unpowered (p.stepMachine sweep) :=
    ⟨stepMachine_delivers hdelivers sweep, hended, HeaterSite.stepMachine_row h.unpowered sweep⟩
  match hpending : p.pending with
  | none =>
    obtain ⟨sweep', hsweep', hnext, hledger, -⟩ := stepMachine_of_none sweep hpending
    refine ⟨hunpowered (hledger ▸ h.unpowered.ended), fun s sts hs => ?_⟩
    rw [hnext] at hs
    obtain ⟨rfl, -⟩ := Prod.mk.inj (Option.some.inj hs)
    exact hsweep' hstale
  | some (sweep', st :: rest) =>
    obtain ⟨hnext, hended, -⟩ := stepMachine_of_statement sweep hpending
    refine ⟨hunpowered (hended.trans h.unpowered.ended), fun s sts hs => ?_⟩
    rw [hnext] at hs
    obtain ⟨rfl, -⟩ := Prod.mk.inj (Option.some.inj hs)
    exact h.stale _ _ hpending
  | some (sweep', []) =>
    have hended := ended_of_stale sweep hdelivers hpending (h.stale _ _ hpending)
    refine ⟨hunpowered hended, fun s sts hs => ?_⟩
    rw [(stepMachine_of_done sweep hpending).1] at hs
    cases hs

end Machine

section Others
variable {p : HeaterPath}

theorem stepMachine_short (h : p.Short) (sweep : Sweep) : (p.stepMachine sweep).Short := by
  intro s sts hs
  match hpending : p.pending with
  | none =>
    obtain ⟨sweep', -, hnext, -, -⟩ := stepMachine_of_none sweep hpending
    rw [hnext] at hs
    obtain ⟨-, rfl⟩ := Prod.mk.inj (Option.some.inj hs)
    exact statements_length_le _ _
  | some (sweep', st :: rest) =>
    rw [(stepMachine_of_statement sweep hpending).1] at hs
    obtain ⟨-, rfl⟩ := Prod.mk.inj (Option.some.inj hs)
    have hle := h _ _ hpending
    rw [List.length_cons] at hle
    omega
  | some (sweep', []) =>
    rw [(stepMachine_of_done sweep hpending).1] at hs
    cases hs

theorem Silent.of_keeps (h : p.Silent) {p' : HeaterPath} (hd : p'.Delivers)
    (hpending : p'.pending = p.pending ∨ p'.pending = none)
    (hended : p'.ledger.ended = p.ledger.ended ∨ p'.ledger.ended = 0)
    (hrow : p'.row.heaterPW = p.row.heaterPW) : p'.Silent := by
  refine ⟨⟨hd, ?_, hrow.trans h.unpowered.row⟩, fun sweep sts hs => ?_⟩
  · rcases hended with hended | hended
    · exact hended.trans h.unpowered.ended
    · exact hended
  · rcases hpending with hpending | hpending
    · exact h.stale sweep sts (hpending ▸ hs)
    · rw [hpending] at hs
      cases hs

theorem stepDrone_keeps (p : HeaterPath) (undefInt : ℚ → ℤ) :
    (p.stepDrone undefInt).pending = p.pending ∧
      (p.stepDrone undefInt).ledger.ended = p.ledger.ended ∧
        (p.stepDrone undefInt).row = p.row := by
  rw [stepDrone]
  split_ifs <;> exact ⟨rfl, rfl, rfl⟩

end Others

end HeaterPath

namespace HeaterSite
variable {s : HeaterSite}

theorem step_silent (h : s.path.Silent) {ev : SiteEvent} (hlost : ev.Lost) :
    (s.step ev).path.Silent := by
  have hd := step_delivers s ev h.unpowered.delivers
  cases ev with
  | path ev =>
    cases ev with
    | machine sweep => exact HeaterPath.stepMachine_silent h (hlost sweep rfl)
    | drone undefInt =>
      obtain ⟨hpending, hended, hrow⟩ := s.path.stepDrone_keeps undefInt
      exact h.of_keeps hd (Or.inl hpending) (Or.inl hended) (congrArg _ hrow)
    | edit row => exact h.of_keeps hd (Or.inl rfl) (Or.inl rfl) rfl
  | restartMachine memSM absTime rateTime => exact h.of_keeps hd (Or.inr rfl) (Or.inr rfl) rfl
  | restartDrone mem reads => exact h.of_keeps hd (Or.inl rfl) (Or.inl rfl) rfl

structure Ready (s : HeaterSite) : Prop where
  delivers : s.path.Delivers
  short : s.path.Short

theorem step_short (s : HeaterSite) (ev : SiteEvent) (h : s.path.Short) :
    (s.step ev).path.Short := by
  cases ev with
  | path ev =>
    cases ev with
    | machine sweep => exact HeaterPath.stepMachine_short h sweep
    | drone undefInt =>
      intro sweep sts hs
      exact h sweep sts ((s.path.stepDrone_keeps undefInt).1.symm.trans hs)
    | edit row => exact h
  | restartMachine memSM absTime rateTime =>
    intro sweep sts hs
    cases hs
  | restartDrone mem reads => exact h

def Losing (_ : HeaterSite) (ev : SiteEvent) : Prop :=
  ev.Lost ∧ ∀ memSM absTime rateTime, ev ≠ .restartMachine memSM absTime rateTime

theorem machine_of_isMachine {ev : SiteEvent} (h : ev.isMachine = true) :
    ∃ sweep, ev = .path (.machine sweep) := by
  cases ev with
  | path ev =>
    cases ev with
    | machine sweep => exact ⟨sweep, rfl⟩
    | _ => cases h
  | _ => cases h

theorem step_of_not_machine (s : HeaterSite) {ev : SiteEvent} (hev : ev.isMachine = false)
    (hp : Losing s ev) : (s.step ev).path.pending = s.path.pending ∧
      (s.step ev).path.ledger.ended = s.path.ledger.ended ∧
        (s.step ev).path.machine = s.path.machine := by
  cases ev with
  | path ev =>
    cases ev with
    | machine sweep => cases hev
    | drone undefInt =>
      obtain ⟨hpending, hended, -⟩ := s.path.stepDrone_keeps undefInt
      exact ⟨hpending, hended, rfl⟩
    | edit row => exact ⟨rfl, rfl, rfl⟩
  | restartMachine memSM absTime rateTime => exact absurd rfl (hp.2 _ _ _)
  | restartDrone mem reads => exact ⟨rfl, rfl, rfl⟩

theorem losing_party : Rounds.Party step (·.path.pending) (·.path.Delivers) Losing
    SiteEvent.isMachine Sweep.Stale (fun st => ∃ power, st = .setHeaterPW power)
    (·.path.ledger.ended = 0) (·.path.Silent) 5 2 where
  inv := fun s ev _ hd => step_delivers s ev hd
  begins := by
    rintro s ev hown hp hd hround
    obtain ⟨sweep, rfl⟩ := machine_of_isMachine hown
    obtain ⟨sweep', hstale, hnext, hledger, -⟩ := HeaterPath.stepMachine_of_none sweep hround
    refine ⟨sweep', _, hnext, hstale (hp.1 sweep rfl), HeaterPath.statements_length_le _ _,
      fun hspent => ⟨(congrArg _ hledger).trans hspent, Or.inr ⟨[_], _, _, rfl, ⟨_, rfl⟩, ?_⟩⟩⟩
    exact Nat.one_lt_two
  does := by
    rintro s ev sweep' st rest hown hp hd hround
    obtain ⟨sweep, rfl⟩ := machine_of_isMachine hown
    obtain ⟨hnext, hended, hrow⟩ := HeaterPath.stepMachine_of_statement sweep hround
    refine ⟨hnext, fun hspent => hended.trans hspent, ?_⟩
    rintro hstale hspent ⟨power, rfl⟩
    have hpower : power = s.path.ledger.ended := hd.pending _ _ hround power List.mem_cons_self
    refine ⟨⟨step_delivers s _ hd, hended.trans hspent, ?_⟩, fun sweep'' sts hs => ?_⟩
    · exact (congrArg (·.heaterPW) hrow).trans (hpower.trans hspent)
    · obtain ⟨rfl, -⟩ := Prod.mk.inj (Option.some.inj (hnext.symm.trans hs))
      exact hstale
  ends := by
    rintro s ev sweep' hown hp hd hround
    obtain ⟨sweep, rfl⟩ := machine_of_isMachine hown
    exact ⟨(HeaterPath.stepMachine_of_done sweep hround).1,
      fun hstale => HeaterPath.ended_of_stale sweep hd hround hstale⟩
  others := by
    rintro s ev hother hp hd
    obtain ⟨hpending, hended, -⟩ := s.step_of_not_machine hother hp
    exact ⟨hpending, fun hspent => hended.trans hspent⟩
  done := fun s ev hp _ hsilent => step_silent hsilent hp.1

theorem run_silent (hready : s.Ready) {evs : List SiteEvent}
    (hlosing : Transition.Along step Losing s evs)
    (hturns : 16 ≤ evs.countP SiteEvent.isMachine) :
    (Transition.run step s evs).path.Silent :=
  losing_party.run_done hready.delivers hready.short hlosing hturns

def Truthful (s : HeaterSite) (ev : SiteEvent) : Prop :=
  ev.isDrone = true → s.path.droneAt = .readPower →
    stof s.path.lake.powerReply = some s.device.output

instance (s : HeaterSite) (ev : SiteEvent) : Decidable (s.Truthful ev) :=
  inferInstanceAs (Decidable (_ → _ → _))

end HeaterSite
end CryoController
