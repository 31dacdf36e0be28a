import CryoController.LakeShore
import CryoController.StateDecision

/-!
# What a row of `LSHState` says

Every iteration of the LakeShore loop inserts a row, whatever the device has
answered: a reply that does not convert leaves the cached member in it. The
state machine sees no more of a row than its timestamp and its temperature, so a
silent device looks as fresh as an answering one.
-/

open Numeral Conversion
namespace CryoController
namespace LakeShore

def temperatureReply (l : LakeShore) (undefInt : ℚ → ℤ) : List Char :=
  (l.readPower.readMode undefInt).port.reply

section Exchange
variable (l : LakeShore) (r : HeaterRefresh)

@[simp] theorem readPower_currentTempK : l.readPower.currentTempK = l.currentTempK :=
  l.read_keeps (·.currentTempK) (fun _ _ => rfl) fun _ _ => rfl

@[simp] theorem readMode_currentTempK (undefInt : ℚ → ℤ) :
    (l.readMode undefInt).currentTempK = l.currentTempK :=
  l.read_keeps (·.currentTempK) (fun _ _ => rfl) fun _ _ => rfl

theorem readTemperatureK_currentTempK :
    l.readTemperatureK.currentTempK = (stof l.port.reply).getD l.currentTempK := by
  have hreply : (l.writeString .readTemperature).port.readLine.1 = l.port.reply := rfl
  simp only [readTemperatureK, read, hreply]
  cases stof l.port.reply with
  | none => rfl
  | some x => rfl

theorem exchange_currentTempK : (l.exchange r).1.currentTempK =
    (stof (l.temperatureReply r.undefInt)).getD l.currentTempK := by
  simp only [exchange, updateMysql, readTemperatureK_currentTempK, readMode_currentTempK,
    readPower_currentTempK, temperatureReply]

theorem updateMysql_columns (row : ControlParameters) :
    (l.updateMysql row).2.heaterPW = (l.updateMysql row).1.currentPW ∧
      (l.updateMysql row).2.lshTemp = (l.updateMysql row).1.currentTempK ∧
        (l.updateMysql row).2.heaterMode = (l.updateMysql row).1.currentMode := ⟨rfl, rfl, rfl⟩

theorem exchange_columns : (l.exchange r).2.heaterPW = (l.exchange r).1.currentPW ∧
    (l.exchange r).2.lshTemp = (l.exchange r).1.currentTempK ∧
      (l.exchange r).2.heaterMode = (l.exchange r).1.currentMode := by
  rw [exchange]
  exact updateMysql_columns _ _

end Exchange

def Answered (l : LakeShore) (r : HeaterRefresh) : Prop :=
  (stof l.powerReply).isSome ∧ (stof (l.temperatureReply r.undefInt)).isSome ∧
    (stof l.modeReply).isSome

end LakeShore

structure LSHEntry where
  timeS : ℤ
  row : LSHStateRow
  power : Option ℚ
  temperature : Option ℚ
  mode : Option ℤ
  deriving DecidableEq, Repr, Inhabited

structure LSHEntry.Measured (e : LSHEntry) : Prop where
  power : e.power = some e.row.heaterPW
  temperature : e.temperature = some e.row.lshTemp
  mode : e.mode = some e.row.heaterMode

def LakeShore.entry (l : LakeShore) (r : HeaterRefresh) (timeS : ℤ) : LSHEntry where
  timeS := timeS
  row := (l.exchange r).2
  power := stof l.powerReply
  temperature := stof (l.temperatureReply r.undefInt)
  mode := (stof l.modeReply).map (intOfDouble r.undefInt ∘ Format.float.round)

theorem eq_some_getD_iff {α : Type} {o : Option α} {x : α} : o = some (o.getD x) ↔ o.isSome := by
  cases o <;> simp

theorem LakeShore.entry_measured_iff (l : LakeShore) (r : HeaterRefresh) (timeS : ℤ) :
    (l.entry r timeS).Measured ↔ l.Answered r := by
  obtain ⟨hpower, htemp, hmode⟩ := l.exchange_columns r
  rw [exchange_currentPW] at hpower
  rw [exchange_currentTempK] at htemp
  rw [exchange_currentMode] at hmode
  rw [entry, Answered]
  generalize (l.exchange r).2 = row at hpower htemp hmode ⊢
  generalize stof l.powerReply = power at hpower ⊢
  generalize stof (l.temperatureReply r.undefInt) = temperature at htemp ⊢
  generalize stof l.modeReply = mode at hmode ⊢
  constructor
  · rintro ⟨hp, ht, hm⟩
    rw [hpower, eq_some_getD_iff] at hp
    rw [htemp, eq_some_getD_iff] at ht
    rw [hmode, eq_some_getD_iff, Option.isSome_map] at hm
    exact ⟨hp, ht, hm⟩
  · rintro ⟨hp, ht, hm⟩
    constructor
    · rw [hpower, eq_some_getD_iff]
      exact hp
    · rw [htemp, eq_some_getD_iff]
      exact ht
    · rw [hmode, eq_some_getD_iff, Option.isSome_map]
      exact hm

structure LSHWatch where
  lake : LakeShore
  entries : List LSHEntry
  machine : CryoControlSM

inductive LSHEvent
  | iterate (r : HeaterRefresh) (timeS : ℤ)
  | sweep (s : Sweep)

namespace LSHWatch

def step (w : LSHWatch) : LSHEvent → LSHWatch
  | .iterate r timeS =>
    { w with lake := w.lake.iterate r, entries := w.lake.entry r timeS :: w.entries }
  | .sweep s => { w with machine := w.machine.smEngine s }

def start (mem : LakeShore) (reads : List ReadResult) (memSM : CryoControlSM)
    (absTime rateTime : UInt64) : LSHWatch :=
  ⟨LakeShore.construct mem reads, [], CryoControlSM.construct memSM absTime rateTime⟩

def ReadsNewest (w : LSHWatch) (s : Sweep) : Prop :=
  ∃ e ∈ w.entries, s.lshRow = ⟨some e.timeS, e.row.lshTemp⟩ ∧
    ∀ e' ∈ w.entries, e'.timeS ≤ e.timeS

def LastMeasured (w : LSHWatch) (e : LSHEntry) : Prop :=
  e ∈ w.entries ∧ e.Measured ∧ ∀ e' ∈ w.entries, e'.Measured → e'.timeS ≤ e.timeS

/-- An iteration inserts what it has measured, and a sweep faults on a last
measurement of more than a minute ago. -/
def Meaningful (w : LSHWatch) : LSHEvent → Prop
  | .iterate r timeS => (w.lake.entry r timeS).Measured
  | .sweep s => w.ReadsNewest s → ∀ e, w.LastMeasured e →
      s.nowTime - e.timeS > 60 → (w.machine.smEngine s).currentFSMState = .fault

/-- All replies convert, and a row that is too old shows in the `int` that its age is stored
in, unless the machine is in Fault anyway and stays there. -/
def AnswersAll (w : LSHWatch) : LSHEvent → Prop
  | .iterate r _ => w.lake.Answered r
  | .sweep s => w.ReadsNewest s → s.nowTime - s.packet.lastLSHTime > 60 →
      s.Stale ∨ (w.machine.currentFSMState = .fault ∧
        ¬ CryoControlSM.RuleFires s.packet.tTemp s.packet.curTemp)

structure AllMeasured (w : LSHWatch) : Prop where
  interlock : CryoControlSM.Interlock w.machine
  entries : ∀ e ∈ w.entries, e.Measured

theorem step_allMeasured (w : LSHWatch) (ev : LSHEvent) (h : w.AllMeasured)
    (hm : w.Meaningful ev) : (w.step ev).AllMeasured := by
  cases ev with
  | iterate r timeS => exact ⟨h.interlock, List.forall_mem_cons.mpr ⟨hm, h.entries⟩⟩
  | sweep s => exact ⟨CryoControlSM.smEngine_interlock _ s h.interlock, h.entries⟩

theorem lastMeasured_iff {w : LSHWatch} (h : w.AllMeasured) {s : Sweep} (hreads : w.ReadsNewest s)
    {age : ℤ} :
    (∃ e, w.LastMeasured e ∧ s.nowTime - e.timeS > age) ↔
      s.nowTime - s.packet.lastLSHTime > age := by
  obtain ⟨newest, hmem, hrow, hnewest⟩ := hreads
  have htime : s.packet.lastLSHTime = newest.timeS := by
    simp only [Sweep.packet, DataPacket.fetch, hrow, Option.getD_some]
  rw [htime]
  constructor
  · intro hex
    obtain ⟨e, he, hold⟩ := hex
    have hle : newest.timeS ≤ e.timeS := he.2.2 newest hmem (h.entries newest hmem)
    omega
  · intro hold
    exact ⟨newest, ⟨hmem, h.entries newest hmem, fun e' he' _ => hnewest e' he'⟩, hold⟩

theorem meaningful_iff (w : LSHWatch) (ev : LSHEvent) (h : w.AllMeasured) :
    w.Meaningful ev ↔ w.AnswersAll ev := by
  cases ev with
  | iterate r timeS => exact w.lake.entry_measured_iff r timeS
  | sweep s =>
    apply forall_congr'
    intro hreads
    rw [CryoControlSM.smEngine_currentFSMState h.interlock, CryoControlSM.nextState_fault_iff,
      ← h.interlock.settled, ← lastMeasured_iff h hreads]
    constructor
    · intro hfault hex
      obtain ⟨e, he, hold⟩ := hex
      exact hfault e he hold
    · intro hfault e he hold
      exact hfault ⟨e, he, hold⟩

theorem run_meaningful_iff (mem : LakeShore) (reads : List ReadResult) (memSM : CryoControlSM)
    (absTime rateTime : UInt64) (evs : List LSHEvent) :
    Transition.Along step Meaningful (start mem reads memSM absTime rateTime) evs ↔
      Transition.Along step AnswersAll (start mem reads memSM absTime rateTime) evs :=
  Transition.along_congr_of_kept step_allMeasured meaningful_iff
    ⟨CryoControlSM.construct_interlock memSM absTime rateTime, fun _ he => by cases he⟩ evs

/-- A device that answers one iteration and no more: the row of the next one
repeats the cached values under a new timestamp. -/
theorem not_run_meaningful :
    ¬ ∀ (mem : LakeShore) (reads : List ReadResult) (memSM : CryoControlSM)
      (absTime rateTime : UInt64) (evs : List LSHEvent),
      Transition.Along step Meaningful (start mem reads memSM absTime rateTime) evs := by
  intro h
  have hrun := h default ((List.replicate 3 [.byte '0', .byte '\n']).flatten) default 0 0
    [.iterate ⟨default, fun _ => 0⟩ (-100), .iterate ⟨default, fun _ => 0⟩ 0]
  rw [Transition.along_cons, Transition.along_cons] at hrun
  have hanswered := (LakeShore.entry_measured_iff _ _ _).mp hrun.2.1
  have hsilent : stof (step (start default ((List.replicate 3 [.byte '0', .byte '\n']).flatten)
      default 0 0) (.iterate ⟨default, fun _ => 0⟩ (-100))).lake.powerReply = none := by
    decide +kernel
  rw [LakeShore.Answered, hsilent] at hanswered
  exact absurd hanswered.1 (by decide)

end LSHWatch
end CryoController
