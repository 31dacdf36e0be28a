import CryoController.HeaterPath
import CryoController.LSHDrone

/-!
# The heater when its power is taken away

The site is the heater path with the device at its end. Either program may die
between any two of its statements and commands and be started again on any memory;
the device and the row stay as they are. Whoever dies, what the heater is sent is
what the machine has published. Once the machine has published no power and an
iteration has learnt what the device delivers, the device delivers nothing, and
nothing that the two programs still do turns it on again.
-/

open Numeral Saturation
namespace CryoController

namespace LakeShore

def commands (l : LakeShore) : DroneAt → List LSCommand
  | .readPower => [.readPower]
  | .readMode => [.readRange]
  | .readTemperature => [.readTemperature]
  | .select => []
  | .insert => []
  | .level =>
    if l.cWatchdogFuse ≠ 1 ∨ l.currentPW ≠ l.setPW then [.mout (clamp 0 100 l.setPW)] else []
  | .mode =>
    if l.setMode ≠ l.currentMode then
      if l.setMode < 3 ∧ l.setMode ≥ 0 then [.mout (clamp 0 100 l.setPW)] else [.range 0]
    else []
  | .range => [.range l.setMode]
  | .off => [.range 0]

theorem advance_commands (l : LakeShore) (row : ControlParameters) (undefInt : ℚ → ℤ)
    (d : DroneAt) : (l.advance row undefInt d).1.port.sent = l.port.sent ++ l.commands d := by
  cases d with
  | readPower => exact l.read_sent fun _ _ => rfl
  | readMode => exact l.read_sent fun _ _ => rfl
  | readTemperature => exact l.read_sent fun _ _ => rfl
  | select => exact (List.append_nil _).symm
  | insert => exact (List.append_nil _).symm
  | level =>
    simp only [advance, commands, setPowerLevel_eq]
    by_cases hblown : l.cWatchdogFuse ≠ 1
    · rw [if_pos hblown, if_pos (Or.inl hblown)]
      rfl
    · simp only [if_neg hblown, or_iff_right hblown]
      split_ifs
      · rfl
      · exact (List.append_nil _).symm
  | mode =>
    simp only [advance, commands, setPowerLevel_eq]
    split_ifs
    · rfl
    · rfl
    · exact (List.append_nil _).symm
  | range => rfl
  | off => rfl

end LakeShore

structure HeaterSite where
  path : HeaterPath
  device : Heater

inductive SiteEvent
  | path (ev : HeaterEvent)
  | restartMachine (memSM : CryoControlSM) (absTime rateTime : UInt64)
  | restartDrone (mem : LakeShore) (reads : List ReadResult)

namespace HeaterPath

def commands (p : HeaterPath) : HeaterEvent → List LSCommand
  | .drone _ => p.lake.commands p.droneAt
  | _ => []

theorem step_commands (p : HeaterPath) (ev : HeaterEvent) :
    (p.step ev).lake.port.sent = p.lake.port.sent ++ p.commands ev := by
  cases ev with
  | machine s =>
    have hlake : (p.stepMachine s).lake = p.lake := by
      rw [stepMachine]
      split <;> rfl
    exact (congrArg (·.port.sent) hlake).trans (List.append_nil _).symm
  | drone undefInt => exact p.lake.advance_commands p.row undefInt p.droneAt
  | edit row => exact (List.append_nil _).symm

def restartMachine (p : HeaterPath) (memSM : CryoControlSM) (absTime rateTime : UInt64) :
    HeaterPath :=
  { p with
    machine := CryoControlSM.construct memSM absTime rateTime
    pending := none
    ledger := { p.ledger with ended := 0 } }

def restartDrone (p : HeaterPath) (mem : LakeShore) (reads : List ReadResult) : HeaterPath :=
  { p with
    lake := LakeShore.construct mem reads
    droneAt := .readPower
    ledger := { p.ledger with read := none } }

theorem restartMachine_delivers {p : HeaterPath} (h : p.Delivers) (memSM : CryoControlSM)
    (absTime rateTime : UInt64) : (p.restartMachine memSM absTime rateTime).Delivers where
  interlock := CryoControlSM.construct_interlock memSM absTime rateTime
  powered := CryoControlSM.construct_powered memSM absTime rateTime
  ended := rfl
  pending := fun _ _ hsome => by cases hsome
  row := h.row
  lake := h.lake

theorem restartDrone_delivers {p : HeaterPath} (h : p.Delivers) (mem : LakeShore)
    (reads : List ReadResult) : (p.restartDrone mem reads).Delivers :=
  { h with lake := fun _ hsome => by cases hsome }

end HeaterPath

namespace HeaterSite

def step (s : HeaterSite) : SiteEvent → HeaterSite
  | .path ev =>
    { path := s.path.step ev
      device := Transition.run Heater.obey s.device (s.path.commands ev) }
  | .restartMachine memSM absTime rateTime =>
    { s with path := s.path.restartMachine memSM absTime rateTime }
  | .restartDrone mem reads => { s with path := s.path.restartDrone mem reads }

def start (memSM : CryoControlSM) (absTime rateTime : UInt64) (row : ControlParameters)
    (mem : LakeShore) (reads : List ReadResult) (device : Heater) : HeaterSite :=
  ⟨HeaterPath.start memSM absTime rateTime row mem reads, device⟩

theorem step_delivers (s : HeaterSite) (ev : SiteEvent) (h : s.path.Delivers) :
    (s.step ev).path.Delivers := by
  cases ev with
  | path ev => exact HeaterPath.step_delivers s.path ev h
  | restartMachine memSM absTime rateTime => exact HeaterPath.restartMachine_delivers h _ _ _
  | restartDrone mem reads => exact HeaterPath.restartDrone_delivers h mem reads

/-- A level that is sent after a read of a published row is the power published, and the row
holds a power that the machine may ask for. -/
def Delivered (s : HeaterSite) (ev : SiteEvent) : Prop :=
  (∀ e, ev = .path e → s.path.Delivered e) ∧
    ∀ power ∈ s.path.ledger.updated, s.path.row.heaterPW = power ∧ power ∈ Set.Icc 0 75

theorem run_delivered_restarts (memSM : CryoControlSM) (absTime rateTime : UInt64)
    (row : ControlParameters) (mem : LakeShore) (reads : List ReadResult) (device : Heater)
    (evs : List SiteEvent) :
    Transition.Along step Delivered (start memSM absTime rateTime row mem reads device) evs := by
  refine Transition.along_of_invariant step_delivers (fun s ev h => ⟨?_, h.row⟩)
    (HeaterPath.start_delivers memSM absTime rateTime row mem reads) evs
  rintro e -
  exact HeaterPath.delivered_of_delivers s.path e h

structure Unpowered (p : HeaterPath) : Prop where
  delivers : p.Delivers
  ended : p.ledger.ended = 0
  row : p.row.heaterPW = 0

def KeepsOff (s : HeaterSite) (ev : SiteEvent) : Prop := (s.step ev).path.ledger.ended = 0

instance (s : HeaterSite) (ev : SiteEvent) : Decidable (s.KeepsOff ev) :=
  inferInstanceAs (Decidable (_ = _))

theorem execute_row {p : HeaterPath} (h : Unpowered p) {st : Statement}
    (hst : ∀ power, st = .setHeaterPW power → power = p.ledger.ended) :
    (p.execute st).row.heaterPW = 0 := by
  cases st with
  | setHeaterPW power => exact (hst power rfl).trans h.ended
  | _ => exact h.row

theorem stepMachine_row {p : HeaterPath} (h : Unpowered p) (sweep : Sweep) :
    (p.stepMachine sweep).row.heaterPW = 0 := by
  rw [HeaterPath.stepMachine]
  split
  · exact h.row
  · rename_i s' st rest hpending
    have hmem := h.delivers.pending s' (st :: rest) hpending
    exact execute_row h fun power heq => hmem power (heq ▸ List.mem_cons_self)
  · exact h.row

theorem step_unpowered {s : HeaterSite} {ev : SiteEvent} (h : Unpowered s.path)
    (hoff : s.KeepsOff ev) : Unpowered (s.step ev).path := by
  refine ⟨step_delivers s ev h.delivers, hoff, ?_⟩
  cases ev with
  | path ev =>
    cases ev with
    | machine sweep => exact stepMachine_row h sweep
    | drone undefInt => exact h.row
    | edit row => exact h.row
  | restartMachine memSM absTime rateTime => exact h.row
  | restartDrone mem reads => exact h.row

/-- Before a RANGE goes out the manual output is already zero. -/
structure Quenched (s : HeaterSite) : Prop where
  output : s.device.output = 0
  setPW : s.path.lake.setPW = 0
  range : s.path.droneAt = .range → s.device.manual = 0

theorem output_of_range {h : Heater} (hrange : h.range = 0) : h.output = 0 := by
  rw [Heater.output, if_neg (not_not.mpr hrange)]

theorem output_of_manual {h : Heater} (hmanual : h.manual = 0) : h.output = 0 := by
  rw [Heater.output, hmanual, ite_self]

theorem clamp_zero : clamp (0 : ℚ) 100 0 = 0 := clamp_of_mem Heater.zero_percent

theorem obey_mout_zero (h : Heater) : (h.obey (.mout 0)).manual = 0 :=
  h.obey_mout Heater.zero_percent

section Drone
variable {h : Heater} {l : LakeShore} {d : DroneAt}

theorem run_commands_output (houtput : h.output = 0) (hpower : l.setPW = 0)
    (hrange : d = .range → h.manual = 0) :
    (Transition.run Heater.obey h (l.commands d)).output = 0 := by
  have hstay : (0 : ℤ) ≤ 0 ∧ (0 : ℤ) < 3 := ⟨le_rfl, zero_lt_three⟩
  cases d with
  | level =>
    rw [LakeShore.commands, hpower, clamp_zero]
    split_ifs
    · exact output_of_manual (obey_mout_zero h)
    · exact houtput
  | mode =>
    rw [LakeShore.commands, hpower, clamp_zero]
    split_ifs
    · exact output_of_manual (obey_mout_zero h)
    · exact output_of_range (h.obey_range hstay)
    · exact houtput
  | range => exact output_of_manual ((h.obey_range_manual l.setMode).trans (hrange rfl))
  | off => exact output_of_range (h.obey_range hstay)
  | _ => exact houtput

theorem run_commands_manual {row : ControlParameters} {undefInt : ℚ → ℤ}
    (hnext : (l.advance row undefInt d).2 = .range) (hpower : l.setPW = 0) :
    (Transition.run Heater.obey h (l.commands d)).manual = 0 := by
  cases d with
  | mode =>
    rw [LakeShore.advance] at hnext
    rw [LakeShore.commands, hpower, clamp_zero]
    split_ifs at hnext ⊢
    exact obey_mout_zero h
  | level =>
    rw [LakeShore.advance] at hnext
    split_ifs at hnext
  | _ => cases hnext

variable {s : HeaterSite} {undefInt : ℚ → ℤ}

theorem stepDrone_setPW (hpower : s.path.lake.setPW = 0) (hrow : s.path.row.heaterPW = 0) :
    (s.path.stepDrone undefInt).lake.setPW = 0 := by
  have hpercent : s.path.lake.setPW ∈ Set.Icc 0 100 := hpower ▸ Heater.zero_percent
  by_cases hselect : s.path.droneAt = .select
  · rw [HeaterPath.stepDrone, hselect]
    exact hrow
  · exact (s.path.lake.advance_setPW s.path.row undefInt hselect hpercent).trans hpower

theorem quenched_drone (hs : s.Quenched) (hrow : s.path.row.heaterPW = 0) :
    (s.step (.path (.drone undefInt))).Quenched where
  output := run_commands_output hs.output hs.setPW hs.range
  setPW := stepDrone_setPW hs.setPW hrow
  range := fun hnext => run_commands_manual hnext hs.setPW

def Learning (s : HeaterSite) : Prop :=
  match s.path.droneAt with
  | .readPower => stof s.path.lake.powerReply = some s.device.output
  | .readMode => s.path.lake.currentPW = s.device.output
  | .readTemperature => s.path.lake.currentPW = s.device.output
  | .select => s.path.lake.currentPW = s.device.output
  | .insert => s.path.lake.setPW = 0 ∧ s.path.lake.currentPW = s.device.output
  | .level => s.path.lake.setPW = 0 ∧ s.path.lake.currentPW = s.device.output
  | _ => False

theorem quenched_of_level (hd : s.path.droneAt = .level) (hpower : s.path.lake.setPW = 0)
    (hlearnt : s.path.lake.currentPW = s.device.output) (hrow : s.path.row.heaterPW = 0) :
    (s.step (.path (.drone undefInt))).Quenched := by
  have hdevice : (s.step (.path (.drone undefInt))).device =
      Transition.run Heater.obey s.device (s.path.lake.commands s.path.droneAt) := rfl
  refine ⟨?_, stepDrone_setPW hpower hrow, fun hnext => run_commands_manual hnext hpower⟩
  rw [hdevice, hd, LakeShore.commands, hpower, clamp_zero]
  split_ifs with hsent
  · exact output_of_manual (obey_mout_zero s.device)
  · rw [not_or, not_not, not_not] at hsent
    exact hlearnt.symm.trans hsent.2

theorem learning_drone (hs : s.Learning) (hrow : s.path.row.heaterPW = 0) :
    (s.step (.path (.drone undefInt))).Learning ∨
      (s.step (.path (.drone undefInt))).Quenched := by
  have hlake : (s.step (.path (.drone undefInt))).path.lake =
      (s.path.lake.advance s.path.row undefInt s.path.droneAt).1 := rfl
  have hplace : (s.step (.path (.drone undefInt))).path.droneAt =
      (s.path.lake.advance s.path.row undefInt s.path.droneAt).2 := rfl
  have hdevice : (s.step (.path (.drone undefInt))).device =
      Transition.run Heater.obey s.device (s.path.lake.commands s.path.droneAt) := rfl
  rw [Learning] at hs ⊢
  cases hd : s.path.droneAt with
  | readPower =>
    rw [hd] at hs hlake hplace hdevice
    rw [hplace, hlake, hdevice]
    refine Or.inl (?_ : s.path.lake.readPower.currentPW = s.device.output)
    rw [LakeShore.readPower_currentPW, hs, Option.getD_some]
  | readMode =>
    rw [hd] at hs hlake hplace hdevice
    rw [hplace, hlake, hdevice]
    exact Or.inl ((s.path.lake.readMode_currentPW undefInt).trans hs)
  | readTemperature =>
    rw [hd] at hs hlake hplace hdevice
    rw [hplace, hlake, hdevice]
    exact Or.inl (s.path.lake.readTemperatureK_currentPW.trans hs)
  | select =>
    rw [hd] at hs hlake hplace hdevice
    rw [hplace, hlake, hdevice]
    exact Or.inl ⟨hrow, hs⟩
  | insert =>
    rw [hd] at hs hlake hplace hdevice
    rw [hplace, hlake, hdevice]
    exact Or.inl hs
  | level =>
    rw [hd] at hs
    exact Or.inr (quenched_of_level hd hs.1 hs.2 hrow)
  | _ =>
    rw [hd] at hs
    exact hs.elim

end Drone

theorem step_of_not_drone (s : HeaterSite) {ev : SiteEvent}
    (hdrone : ∀ undefInt, ev ≠ .path (.drone undefInt))
    (hrestart : ∀ mem reads, ev ≠ .restartDrone mem reads) :
    (s.step ev).path.lake = s.path.lake ∧ (s.step ev).path.droneAt = s.path.droneAt ∧
      (s.step ev).device = s.device := by
  cases ev with
  | path ev =>
    cases ev with
    | machine sweep =>
      have hkeep : (s.path.stepMachine sweep).lake = s.path.lake ∧
          (s.path.stepMachine sweep).droneAt = s.path.droneAt := by
        rw [HeaterPath.stepMachine]
        split <;> exact ⟨rfl, rfl⟩
      exact ⟨hkeep.1, hkeep.2, rfl⟩
    | drone undefInt => exact absurd rfl (hdrone undefInt)
    | edit row => exact ⟨rfl, rfl, rfl⟩
  | restartMachine memSM absTime rateTime => exact ⟨rfl, rfl, rfl⟩
  | restartDrone mem reads => exact absurd rfl (hrestart mem reads)

theorem step_quenched {s : HeaterSite} (ev : SiteEvent) (hs : s.Quenched)
    (hrow : s.path.row.heaterPW = 0) : (s.step ev).Quenched := by
  by_cases hdrone : ∃ undefInt, ev = .path (.drone undefInt)
  · obtain ⟨undefInt, rfl⟩ := hdrone
    exact quenched_drone hs hrow
  · by_cases hrestart : ∃ mem reads, ev = .restartDrone mem reads
    · obtain ⟨mem, reads, rfl⟩ := hrestart
      exact ⟨hs.output, rfl, fun h => by cases h⟩
    · push Not at hdrone hrestart
      obtain ⟨hlake, hplace, hdevice⟩ := s.step_of_not_drone hdrone hrestart
      exact ⟨hdevice ▸ hs.output, hlake ▸ hs.setPW, fun h => hdevice ▸ hs.range (hplace ▸ h)⟩

theorem step_learning {s : HeaterSite} {ev : SiteEvent} (hs : s.Learning ∨ s.Quenched)
    (hrow : s.path.row.heaterPW = 0) (hrestart : ∀ mem reads, ev ≠ .restartDrone mem reads) :
    (s.step ev).Learning ∨ (s.step ev).Quenched := by
  rcases hs with hs | hs
  · by_cases hdrone : ∃ undefInt, ev = .path (.drone undefInt)
    · obtain ⟨undefInt, rfl⟩ := hdrone
      exact learning_drone hs hrow
    · push Not at hdrone
      obtain ⟨hlake, hplace, hdevice⟩ := s.step_of_not_drone hdrone hrestart
      rw [Learning] at hs
      rw [Learning, hlake, hplace, hdevice]
      exact Or.inl hs
  · exact Or.inr (step_quenched ev hs hrow)

theorem run_quenched {s : HeaterSite} (hs : s.Quenched) (hoff : Unpowered s.path)
    {evs : List SiteEvent} (hkeeps : Transition.Along step KeepsOff s evs) :
    (Transition.run step s evs).Quenched := by
  induction evs generalizing s with
  | nil => exact hs
  | cons ev evs ih =>
    exact ih (step_quenched ev hs hoff.row) (step_unpowered hoff hkeeps.1) hkeeps.2

theorem run_learning {s : HeaterSite} (hs : s.Learning ∨ s.Quenched) (hoff : Unpowered s.path)
    {evs : List SiteEvent} (hkeeps : Transition.Along step KeepsOff s evs)
    (hrestart : ∀ ev ∈ evs, ∀ mem reads, ev ≠ .restartDrone mem reads) :
    let s' := Transition.run step s evs
    (s'.Learning ∨ s'.Quenched) ∧ Unpowered s'.path := by
  induction evs generalizing s with
  | nil => exact ⟨hs, hoff⟩
  | cons ev evs ih =>
    rw [List.forall_mem_cons] at hrestart
    exact ih (step_learning hs hoff.row hrestart.1) (step_unpowered hoff hkeeps.1) hkeeps.2
      hrestart.2

/-- From any reachable site: the machine has published no power, an iteration starts and
its `HTR?` is answered with what the device delivers, and every sweep from then on ends
without heater power. From the comparison of the powers on, the device delivers nothing at
any step, whatever the later replies are, other programs write and the two programs die. -/
theorem run_shutdown (memSM : CryoControlSM) (absTime rateTime : UInt64)
    (row : ControlParameters) (mem : LakeShore) (reads : List ReadResult) (device : Heater)
    (before iteration after : List SiteEvent) :
    let s := Transition.run step (start memSM absTime rateTime row mem reads device) before
    s.path.droneAt = .readPower → s.path.ledger.ended = 0 → s.path.row.heaterPW = 0 →
    stof s.path.lake.powerReply = some s.device.output →
    Transition.Along step KeepsOff s (iteration ++ after) →
    (∀ ev ∈ iteration, ∀ mem reads, ev ≠ .restartDrone mem reads) →
    (Transition.run step s iteration).path.droneAt ∈ [.mode, .range, .off] →
      (Transition.run step s (iteration ++ after)).device.output = 0 := by
  intro s hplace hended hrow hreply hkeeps hrestart hpast
  have hdelivers : s.path.Delivers := Transition.run_invariant step_delivers
    (HeaterPath.start_delivers memSM absTime rateTime row mem reads) before
  have hlearning : s.Learning := by
    rw [Learning, hplace]
    exact hreply
  rw [Transition.along_append] at hkeeps
  obtain ⟨hs, hoff⟩ :=
    run_learning (Or.inl hlearning) ⟨hdelivers, hended, hrow⟩ hkeeps.1 hrestart
  have hquenched : (Transition.run step s iteration).Quenched := by
    refine hs.resolve_left fun h => ?_
    rw [Learning] at h
    split at h <;> simp_all
  rw [Transition.run_append]
  exact (run_quenched hquenched hoff hkeeps.2).output

theorem run_shutdown_sample :
    let row : ControlParameters :=
      { (default : ControlParameters) with heaterPW := 50, heaterMode := 1, watchdogFuse := 1 }
    let device := Transition.run Heater.obey Heater.off [.mout 50, .range 1]
    let reads : List ReadResult := ['5', '0', '\n', '1', '\n', '9', '\n'].map .byte
    let exchange := List.replicate 4 (.path (.machine (CryoControlSM.sampleSweep 100 105 0 0)))
    let iteration := List.replicate 6 (.path (.drone fun _ => 0))
    let died := [.restartMachine default 0 0, .path (.drone fun _ => 0)]
    let s := Transition.run step (start default 0 0 row default reads device) exchange
    (Transition.run step s (iteration ++ died)).device.output = 0 :=
  run_shutdown default 0 0 _ default _ _ _ _ _ (by decide +kernel) (by decide +kernel)
    (by decide +kernel) (by decide +kernel) (by decide +kernel) (by simp) (by decide +kernel)

end HeaterSite
end CryoController
