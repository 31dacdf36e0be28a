import CryoController.FaultPublication
import CryoController.LakeShore

/-!
# The heater power from the machine to the heater

The two programs share only the row. Here they run side by side, one SQL
statement or one serial command at a time, in any order, while other programs
write the other columns. A ledger beside them records what the machine has
published and what the LakeShore program has read of it.
-/

open Saturation
namespace CryoController

inductive DroneAt
  | readPower
  | readMode
  | readTemperature
  | select
  | insert
  | level
  | mode
  | range
  | off
  deriving DecidableEq, Repr, Inhabited

namespace LakeShore

/-- One SQL statement or at most one serial command of `iterate`. -/
def advance (l : LakeShore) (row : ControlParameters) (undefInt : ℚ → ℤ) :
    DroneAt → LakeShore × DroneAt
  | .readPower => (l.readPower, .readMode)
  | .readMode => (l.readMode undefInt, .readTemperature)
  | .readTemperature => (l.readTemperatureK, .select)
  | .select => ((l.updateMysql row).1, .insert)
  | .insert => (l, .level)
  | .level =>
    if l.cWatchdogFuse ≠ 1 then (l.setPowerLevel l.setPW, .off)
    else if l.currentPW ≠ l.setPW then (l.setPowerLevel l.setPW, .mode)
    else (l, .mode)
  | .mode =>
    if l.setMode ≠ l.currentMode then
      if l.setMode < 3 ∧ l.setMode ≥ 0 then (l.setPowerLevel l.setPW, .range)
      else (l.writeString (.range 0), .readPower)
    else (l, .readPower)
  | .range => (l.writeString (.range l.setMode), .readPower)
  | .off => ({ l.writeString (.range 0) with watchdogFuse := false }, .readPower)

section Uninterrupted
variable (row : ControlParameters) (undefInt : ℚ → ℤ)

def advances (n : ℕ) (q : LakeShore × DroneAt) : LakeShore × DroneAt :=
  Transition.run (fun q u => q.1.advance row u q.2) q (List.replicate n undefInt)

theorem advances_add (m n : ℕ) (q : LakeShore × DroneAt) :
    advances row undefInt (m + n) q = advances row undefInt n (advances row undefInt m q) := by
  rw [advances, List.replicate_add, Transition.run_append]
  rfl

theorem advances_exchange (l : LakeShore) :
    advances row undefInt 5 (l, .readPower) = ((l.exchange ⟨row, undefInt⟩).1, .level) := by
  simp only [advances, List.replicate, Transition.run_cons, Transition.run_nil, advance, exchange]

theorem advances_mode (l : LakeShore) : ∃ n ≤ 2, advances row undefInt n (l, .mode) =
    (if l.setMode ≠ l.currentMode then l.turnONOFF l.setMode else l, .readPower) := by
  by_cases hmode : l.setMode ≠ l.currentMode
  · rw [if_pos hmode, turnONOFF]
    by_cases hrange : l.setMode < 3 ∧ l.setMode ≥ 0
    · refine ⟨2, le_rfl, ?_⟩
      have hfirst : l.advance row undefInt .mode = (l.setPowerLevel l.setPW, .range) := by
        simp only [advance, if_pos hmode, if_pos hrange]
      rw [if_pos hrange]
      change (l.advance row undefInt .mode).1.advance row undefInt
        (l.advance row undefInt .mode).2 = _
      rw [hfirst]
      rfl
    · refine ⟨1, by omega, ?_⟩
      rw [if_neg hrange]
      change l.advance row undefInt .mode = _
      simp only [advance, if_pos hmode, if_neg hrange]
  · refine ⟨1, by omega, ?_⟩
    rw [if_neg hmode]
    change l.advance row undefInt .mode = _
    simp only [advance, if_neg hmode]

theorem advances_react (l : LakeShore) :
    ∃ n ≤ 3, advances row undefInt n (l, .level) = (l.react, .readPower) := by
  rw [react]
  by_cases hblown : l.cWatchdogFuse ≠ 1
  · refine ⟨2, by omega, ?_⟩
    have hfirst : l.advance row undefInt .level = (l.setPowerLevel l.setPW, .off) := by
      simp only [advance, if_pos hblown]
    rw [if_pos hblown]
    change (l.advance row undefInt .level).1.advance row undefInt
      (l.advance row undefInt .level).2 = _
    rw [hfirst]
    rfl
  · have hfirst : advances row undefInt 1 (l, .level) =
        (if l.currentPW ≠ l.setPW then l.setPowerLevel l.setPW else l, .mode) := by
      change l.advance row undefInt .level = _
      simp only [advance, if_neg hblown]
      split_ifs <;> rfl
    obtain ⟨n, hn, hmode⟩ := advances_mode row undefInt
      (if l.currentPW ≠ l.setPW then l.setPowerLevel l.setPW else l)
    refine ⟨1 + n, by omega, ?_⟩
    rw [advances_add, hfirst, hmode, if_neg hblown]

theorem advances_iterate (l : LakeShore) : ∃ n ≤ 8,
    advances row undefInt n (l, .readPower) = (l.iterate ⟨row, undefInt⟩, .readPower) := by
  obtain ⟨n, hn, hreact⟩ := advances_react row undefInt (l.exchange ⟨row, undefInt⟩).1
  refine ⟨5 + n, by omega, ?_⟩
  rw [advances_add, advances_exchange, hreact, iterate]

end Uninterrupted

theorem advance_level (l : LakeShore) (row : ControlParameters) (undefInt : ℚ → ℤ)
    (d : DroneAt) : ∃ commands, (l.advance row undefInt d).1.port.sent =
      l.port.sent ++ commands ∧ ∀ level, .mout level ∈ commands → level = clamp 0 100 l.setPW := by
  have hquery (q : LSCommand) (hq : ∀ level, q ≠ .mout level) (level : ℚ)
      (h : .mout level ∈ [q]) : level = clamp 0 100 l.setPW :=
    absurd (List.mem_singleton.mp h).symm (hq level)
  have hnone (level : ℚ) (h : LSCommand.mout level ∈ []) : level = clamp 0 100 l.setPW := by
    cases h
  have hlevel (level : ℚ) (h : .mout level ∈ [LSCommand.mout (clamp 0 100 l.setPW)]) :
      level = clamp 0 100 l.setPW := LSCommand.mout.inj (List.mem_singleton.mp h)
  cases d with
  | readPower => exact ⟨_, l.read_sent fun _ _ => rfl, hquery _ (by simp)⟩
  | readMode => exact ⟨_, l.read_sent fun _ _ => rfl, hquery _ (by simp)⟩
  | readTemperature => exact ⟨_, l.read_sent fun _ _ => rfl, hquery _ (by simp)⟩
  | select => exact ⟨[], (List.append_nil _).symm, hnone⟩
  | insert => exact ⟨[], (List.append_nil _).symm, hnone⟩
  | level =>
    simp only [advance, setPowerLevel_eq]
    split_ifs
    · exact ⟨_, rfl, hlevel⟩
    · exact ⟨_, rfl, hlevel⟩
    · exact ⟨[], (List.append_nil _).symm, hnone⟩
  | mode =>
    simp only [advance, setPowerLevel_eq]
    split_ifs
    · exact ⟨_, rfl, hlevel⟩
    · exact ⟨_, rfl, hquery _ (by simp)⟩
    · exact ⟨[], (List.append_nil _).symm, hnone⟩
  | range => exact ⟨_, rfl, hquery _ (by simp)⟩
  | off => exact ⟨_, rfl, hquery _ (by simp)⟩

theorem advance_setPW (l : LakeShore) (row : ControlParameters) (undefInt : ℚ → ℤ)
    {d : DroneAt} (hd : d ≠ .select) (hpower : l.setPW ∈ Set.Icc 0 100) :
    (l.advance row undefInt d).1.setPW = l.setPW := by
  have hclamp : (l.setPowerLevel l.setPW).setPW = l.setPW := by
    rw [setPowerLevel_eq]
    exact clamp_of_mem hpower
  cases d with
  | readPower => exact l.read_keeps (·.setPW) (fun _ _ => rfl) fun _ _ => rfl
  | readMode => exact l.read_keeps (·.setPW) (fun _ _ => rfl) fun _ _ => rfl
  | readTemperature => exact l.read_keeps (·.setPW) (fun _ _ => rfl) fun _ _ => rfl
  | select => exact absurd rfl hd
  | insert => rfl
  | level =>
    simp only [advance]
    split_ifs
    · exact hclamp
    · exact hclamp
    · rfl
  | mode =>
    simp only [advance]
    split_ifs
    · exact hclamp
    · rfl
    · rfl
  | range => rfl
  | off => rfl

end LakeShore

/-- What an observer of both programs notes down: the heater power at the end of
the last sweep, the one that the last executed update has published, and that
one as it stood when the LakeShore program last read the row. -/
structure HeaterLedger where
  ended : ℚ
  updated : Option ℚ
  read : Option ℚ
  deriving DecidableEq, Repr, Inhabited

structure HeaterPath where
  machine : CryoControlSM
  pending : Option (Sweep × List Statement)
  row : ControlParameters
  lake : LakeShore
  droneAt : DroneAt
  ledger : HeaterLedger

inductive HeaterEvent
  | machine (s : Sweep)
  | drone (undefInt : ℚ → ℤ)
  | edit (row : ControlParameters)

namespace HeaterPath

def execute (p : HeaterPath) (st : Statement) : HeaterPath :=
  { p with
    row := p.row.execute st
    ledger := match st with
      | .setHeaterPW _ => { p.ledger with updated := some p.ledger.ended }
      | _ => p.ledger }

def stepMachine (p : HeaterPath) (s : Sweep) : HeaterPath :=
  match p.pending with
  | none =>
    let s := { s with ctrlRow := p.row }
    { p with pending := some (s, p.machine.statements s.packet) }
  | some (s, st :: rest) => { p.execute st with pending := some (s, rest) }
  | some (s, []) =>
    let m := p.machine.smEngine s
    { p with
      machine := m, pending := none
      ledger := { p.ledger with ended := m.thisRunHeaterPower } }

def stepDrone (p : HeaterPath) (undefInt : ℚ → ℤ) : HeaterPath :=
  let (lake, droneAt) := p.lake.advance p.row undefInt p.droneAt
  { p with
    lake := lake, droneAt := droneAt
    ledger := if p.droneAt = .select then { p.ledger with read := p.ledger.updated }
      else p.ledger }

def step (p : HeaterPath) : HeaterEvent → HeaterPath
  | .machine s => p.stepMachine s
  | .drone undefInt => p.stepDrone undefInt
  | .edit row => { p with row := { row with heaterPW := p.row.heaterPW } }

def start (memSM : CryoControlSM) (absTime rateTime : UInt64) (row : ControlParameters)
    (mem : LakeShore) (reads : List ReadResult) : HeaterPath where
  machine := CryoControlSM.construct memSM absTime rateTime
  pending := none
  row := row
  lake := LakeShore.construct mem reads
  droneAt := .readPower
  ledger := ⟨0, none, none⟩

theorem run_drone (p : HeaterPath) (undefInt : ℚ → ℤ) (n : ℕ) :
    let p' := Transition.run step p (List.replicate n (.drone undefInt))
    (p'.lake, p'.droneAt) = LakeShore.advances p.row undefInt n (p.lake, p.droneAt) ∧
      p'.row = p.row := by
  induction n generalizing p with
  | zero => exact ⟨rfl, rfl⟩
  | succ n ih => exact ih (p.step (.drone undefInt))

theorem run_statements (p : HeaterPath) (s s' : Sweep) (sts : List Statement)
    (hpending : p.pending = some (s', sts)) :
    let p' := Transition.run step p (List.replicate sts.length (.machine s))
    p'.machine = p.machine ∧ p'.pending = some (s', []) ∧
      p'.row = sts.foldl ControlParameters.execute p.row := by
  induction sts generalizing p with
  | nil => exact ⟨rfl, hpending, rfl⟩
  | cons st rest ih =>
    have hstep : p.step (.machine s) = { p.execute st with pending := some (s', rest) } := by
      simp only [step, stepMachine, hpending]
    have hrest := ih (p.step (.machine s)) (by rw [hstep])
    rw [hstep] at hrest
    rw [List.length_cons, List.replicate_succ, Transition.run_cons, hstep]
    exact hrest

theorem run_machine (p : HeaterPath) (s : Sweep) (hpending : p.pending = none) :
    ∃ n, let p' := Transition.run step p (List.replicate n (.machine s))
      p'.pending = none ∧ (⟨p'.machine, p'.row⟩ : CryoControlSM.Plant) =
        CryoControlSM.Plant.sweep ⟨p.machine, p.row⟩ s := by
  let s' : Sweep := { s with ctrlRow := p.row }
  let sts := p.machine.statements s'.packet
  have hfetch : p.step (.machine s) = { p with pending := some (s', sts) } := by
    simp only [step, stepMachine, hpending]
    rfl
  obtain ⟨hmachine, hdone, hrow⟩ := run_statements { p with pending := some (s', sts) } s s' sts rfl
  refine ⟨1 + (sts.length + 1), ?_⟩
  intro p'
  have hp' : p' = (Transition.run step { p with pending := some (s', sts) }
      (List.replicate sts.length (.machine s))).stepMachine s := by
    simp only [p', List.replicate_add, Transition.run_append, List.replicate_one,
      Transition.run_cons, Transition.run_nil, hfetch]
    rfl
  generalize Transition.run step { p with pending := some (s', sts) } _ = q at *
  simp only [hp', stepMachine, hdone, hmachine, hrow]
  exact ⟨trivial, rfl⟩

structure Delivers (p : HeaterPath) : Prop where
  interlock : CryoControlSM.Interlock p.machine
  powered : CryoControlSM.Powered p.machine
  ended : p.machine.thisRunHeaterPower = p.ledger.ended
  pending : ∀ s sts, p.pending = some (s, sts) →
    ∀ power, .setHeaterPW power ∈ sts → power = p.ledger.ended
  row : ∀ power ∈ p.ledger.updated, p.row.heaterPW = power ∧ power ∈ Set.Icc 0 75
  lake : ∀ power ∈ p.ledger.read, p.lake.setPW = power ∧ power ∈ Set.Icc 0 75

theorem start_delivers (memSM : CryoControlSM) (absTime rateTime : UInt64)
    (row : ControlParameters) (mem : LakeShore) (reads : List ReadResult) :
    (start memSM absTime rateTime row mem reads).Delivers where
  interlock := CryoControlSM.construct_interlock memSM absTime rateTime
  powered := CryoControlSM.construct_powered memSM absTime rateTime
  ended := rfl
  pending := fun _ _ h => by cases h
  row := fun _ h => by cases h
  lake := fun _ h => by cases h

theorem heaterPW_of_mem_statements {m : CryoControlSM} {d : DataPacket} {power : ℚ}
    (h : .setHeaterPW power ∈ m.statements d) : power = m.thisRunHeaterPower := by
  rw [CryoControlSM.statements] at h
  split_ifs at h <;> simpa using h

theorem Delivers.ended_mem {p : HeaterPath} (h : p.Delivers) : p.ledger.ended ∈ Set.Icc 0 75 := by
  rw [← h.ended]
  exact h.powered.heater_bounds

theorem execute_delivers {p : HeaterPath} (h : p.Delivers) {st : Statement}
    (hst : ∀ power, st = .setHeaterPW power → power = p.ledger.ended) :
    (p.execute st).Delivers := by
  cases st with
  | setHeaterPW power =>
    have hpower := hst power rfl
    refine { h with row := ?_ }
    intro updated hupdated
    have heq : p.ledger.ended = updated := Option.some.inj hupdated
    exact ⟨hpower.trans heq, heq ▸ h.ended_mem⟩
  | _ => exact { h with }

theorem stepMachine_delivers {p : HeaterPath} (h : p.Delivers) (s : Sweep) :
    (p.stepMachine s).Delivers := by
  rw [stepMachine]
  split
  · refine { h with pending := ?_ }
    intro s' sts hsome power hmem
    obtain ⟨-, rfl⟩ := Prod.mk.inj (Option.some.inj hsome)
    exact (heaterPW_of_mem_statements hmem).trans h.ended
  · rename_i s' st rest hpending
    have hmem := h.pending s' (st :: rest) hpending
    have hexec := execute_delivers h fun power heq => hmem power (heq ▸ List.mem_cons_self)
    refine { hexec with pending := ?_ }
    intro s'' sts hsome power hin
    obtain ⟨-, rfl⟩ := Prod.mk.inj (Option.some.inj hsome)
    have hended : (p.execute st).ledger.ended = p.ledger.ended := by cases st <;> rfl
    rw [hended]
    exact hmem power (List.mem_cons_of_mem st hin)
  · rename_i s' hpending
    refine ⟨CryoControlSM.smEngine_interlock _ s' h.interlock,
      CryoControlSM.smEngine_powered h.interlock s', rfl, ?_, h.row, h.lake⟩
    intro _ _ hsome
    cases hsome

theorem stepDrone_delivers {p : HeaterPath} (h : p.Delivers) (undefInt : ℚ → ℤ) :
    (p.stepDrone undefInt).Delivers := by
  by_cases hselect : p.droneAt = .select
  · rw [stepDrone, hselect]
    exact { h with lake := h.row }
  · rw [stepDrone, if_neg hselect]
    refine { h with lake := ?_ }
    intro power hread
    obtain ⟨hpower, hbounds⟩ := h.lake power hread
    have hpercent : p.lake.setPW ∈ Set.Icc 0 100 := by
      rw [hpower]
      exact ⟨hbounds.1, hbounds.2.trans (by norm_num)⟩
    exact ⟨(p.lake.advance_setPW p.row undefInt hselect hpercent).trans hpower, hbounds⟩

theorem step_delivers (p : HeaterPath) (ev : HeaterEvent) (h : p.Delivers) :
    (p.step ev).Delivers := by
  cases ev with
  | machine s => exact stepMachine_delivers h s
  | drone undefInt => exact stepDrone_delivers h undefInt
  | edit row => exact ⟨h.interlock, h.powered, h.ended, h.pending, h.row, h.lake⟩

/-- Every level sent in the step is the last power published before the row was
read, and a percentage up to the machine's limit. -/
def Delivered (p : HeaterPath) (ev : HeaterEvent) : Prop :=
  ∀ commands level power, (p.step ev).lake.port.sent = p.lake.port.sent ++ commands →
    .mout level ∈ commands → p.ledger.read = some power →
      level = power ∧ level ∈ Set.Icc 0 75

theorem delivered_of_delivers (p : HeaterPath) (ev : HeaterEvent) (h : p.Delivers) :
    p.Delivered ev := by
  intro commands level power hsent hmem hread
  have hquiet (hlake : (p.step ev).lake = p.lake) : False := by
    rw [hlake, List.self_eq_append_right] at hsent
    rw [hsent] at hmem
    cases hmem
  cases ev with
  | drone undefInt =>
    obtain ⟨commands', hsent', hlevel⟩ := p.lake.advance_level p.row undefInt p.droneAt
    have hcommands : commands = commands' := List.append_cancel_left (hsent.symm.trans hsent')
    obtain ⟨hpower, hbounds⟩ := h.lake power hread
    have hclamp : clamp 0 100 power = power :=
      clamp_of_mem ⟨hbounds.1, hbounds.2.trans (by norm_num)⟩
    have heq := hlevel level (hcommands ▸ hmem)
    rw [hpower, hclamp] at heq
    exact ⟨heq, heq ▸ hbounds⟩
  | machine s =>
    have hlake : (p.stepMachine s).lake = p.lake := by
      rw [stepMachine]
      split <;> rfl
    exact (hquiet hlake).elim
  | edit row => exact (hquiet rfl).elim

/-- Whatever the interleaving, the heater is sent the power with which a sweep
has ended, the one before the last update that the iteration could read. -/
theorem run_delivered (memSM : CryoControlSM) (absTime rateTime : UInt64)
    (row : ControlParameters) (mem : LakeShore) (reads : List ReadResult)
    (evs : List HeaterEvent) : Transition.Along step Delivered
      (start memSM absTime rateTime row mem reads) evs :=
  Transition.along_of_invariant step_delivers delivered_of_delivers
    (start_delivers memSM absTime rateTime row mem reads) evs

end HeaterPath
end CryoController
