import CryoController.CoolerSweep
import CryoController.CryocoolerQueries
import CryoController.FaultPublication

/-!
# What a row of `CCState` says

An iteration of the cryocooler loop inserts a row when all four of its queries return
zero, and then every column but the mode has been converted from an answer of that
very iteration. A controller that falls silent leaves no rows behind, and the state
machine, which sees the age of the newest row, finds out.
-/

open Numeral
namespace CryoController

namespace Cryocooler
variable {c : Cryocooler}

theorem measure_eq_zero {cmd : CCCommand} {convert : List Char → Option ℚ}
    {record : Cryocooler → ℚ → Cryocooler} (h : (c.measure cmd convert record).1 = 0) :
    ∃ x c', convert (c.port.answer 0) = some x ∧ (c.measure cmd convert record).2 = record c' x ∧
      c'.measurements = c.measurements := by
  simp only [measure, asked_answer_zero] at h ⊢
  by_cases hstall : (c.writeString cmd).rReadLine.2.hasStalled = true
  · rw [if_pos hstall] at h
    cases h
  · rw [if_neg hstall] at h ⊢
    cases hline : convert (c.port.answer 0) with
    | none =>
      rw [hline] at h
      cases h
    | some x => exact ⟨x, _, rfl, rfl, rfl⟩

theorem getTC_eq_zero (h : c.getTC.1 = 0) : ∃ x, stof (c.port.answer 0) = some x ∧
    c.getTC.2.measurements = { c.measurements with tc := x } := by
  obtain ⟨x, c', hline, hc, hkeep⟩ := measure_eq_zero h
  refine ⟨x, hline, ?_⟩
  rw [getTC, hc, ← hkeep]
  rfl

theorem getP_eq_zero (h : c.getP.1 = 0) : ∃ x, stof (c.port.answer 0) = some x ∧
    c.getP.2.measurements = { c.measurements with pCurrent := x } := by
  obtain ⟨x, c', hline, hc, hkeep⟩ := measure_eq_zero h
  refine ⟨x, hline, ?_⟩
  rw [getP, hc, ← hkeep]
  rfl

theorem getE_eq_zero (h : c.getE.1 = 0) : ∃ x y z, stof (c.port.answer 0) = some x ∧
    stof (c.port.answer 1) = some y ∧
      c.getE.2.measurements = { c.measurements with pMax := x, pMin := y, pSet := z } := by
  by_cases hstall : c.port.Stalls
  · rw [(getE_of_stalls c hstall).1] at h
    cases h
  · have hgetE := getE_of_echo c hstall
    cases hx : stof (c.port.answer 0) with
    | none =>
      rw [hx] at hgetE
      rw [(Prod.mk.inj hgetE).1] at h
      cases h
    | some x =>
      cases hy : stof (c.port.answer 1) with
      | none =>
        rw [hx, hy] at hgetE
        rw [(Prod.mk.inj hgetE).1] at h
        cases h
      | some y =>
        cases hz : stof (c.port.answer 2) with
        | none =>
          rw [hx, hy, hz] at hgetE
          rw [(Prod.mk.inj hgetE).1] at h
          cases h
        | some z =>
          rw [hx, hy, hz] at hgetE
          exact ⟨x, y, z, rfl, rfl, (Prod.mk.inj hgetE).2⟩

theorem checkIfON_eq_zero {c' : Cryocooler} (h : c.checkIfON = some (0, c')) :
    ∃ x : ℚ, stod (c.port.answer 0) = some x ∧
      c'.measurements = { c.measurements with isON := decide (x = 0) } := by
  simp only [checkIfON, asked_answer_zero] at h
  by_cases hstall : (c.writeString .sstop).rReadLine.2.hasStalled = true
  · rw [if_pos hstall] at h
    cases h
  · rw [if_neg hstall] at h
    obtain ⟨x, hline, hc⟩ := Option.map_eq_some_iff.mp h
    obtain ⟨-, rfl⟩ := Prod.mk.inj hc
    exact ⟨x, hline, rfl⟩

end Cryocooler

structure CCEntry where
  timeS : ℤ
  row : CCStateRow
  tc : Option ℚ
  pCur : Option ℚ
  pMax : Option ℚ
  pMin : Option ℚ
  poweredON : Option Bool
  deriving DecidableEq, Repr, Inhabited

structure CCEntry.Measured (e : CCEntry) : Prop where
  tc : e.tc = some e.row.tc
  pCur : e.pCur = some e.row.pCur
  pMax : e.pMax = some e.row.pMax
  pMin : e.pMin = some e.row.pMin
  poweredON : e.poweredON = some e.row.poweredON

namespace CCDrone

def entry (d m : CCDrone) (r : Refresh) (timeS : ℤ) : CCEntry where
  timeS := timeS
  row := (m.cooler.updateMysql r.ccPowerState r.ccPower).2
  tc := stof (d.cooler.port.answer 0)
  pCur := stof (d.cooler.getTC.2.port.answer 0)
  pMax := stof (d.cooler.getTC.2.getP.2.port.answer 0)
  pMin := stof (d.cooler.getTC.2.getP.2.port.answer 1)
  poweredON :=
    (stod (d.cooler.getTC.2.getP.2.getE.2.port.answer 0)).map fun (x : ℚ) => decide (x = 0)

theorem queries_of_measured {d m : CCDrone} (h : d.measured = some m) :
    d.cooler.getTC.1 = 0 ∧ d.cooler.getTC.2.getP.1 = 0 ∧ d.cooler.getTC.2.getP.2.getE.1 = 0 ∧
      d.cooler.getTC.2.getP.2.getE.2.checkIfON = some (0, m.cooler) := by
  have hquery := (measured_eq_some.mp h).2
  simp only [query] at hquery
  split_ifs at hquery with htc hp he
  · cases hquery
  · cases hquery
  · cases hquery
  · rw [not_not] at htc hp he
    obtain ⟨⟨status, c⟩, hcheck, hq⟩ := Option.map_eq_some_iff.mp hquery
    simp only at hq
    split_ifs at hq with hstatus
    rw [not_not] at hstatus
    cases hq
    exact ⟨htc, hp, he, hstatus ▸ hcheck⟩

theorem entry_measured {d m : CCDrone} (h : d.measured = some m) (r : Refresh) (timeS : ℤ) :
    (d.entry m r timeS).Measured := by
  obtain ⟨htc, hp, he, hcheck⟩ := queries_of_measured h
  obtain ⟨a, ha, htc⟩ := Cryocooler.getTC_eq_zero htc
  obtain ⟨b, hb, hp⟩ := Cryocooler.getP_eq_zero hp
  obtain ⟨x, y, z, hx, hy, he⟩ := Cryocooler.getE_eq_zero he
  obtain ⟨o, ho, hcheck⟩ := Cryocooler.checkIfON_eq_zero hcheck
  rw [he, hp, htc] at hcheck
  have hcolumns : (m.cooler.tc, m.cooler.pCurrent, m.cooler.pMax, m.cooler.pMin, m.cooler.isON) =
      (a, b, x, y, decide (o = 0)) :=
    congrArg (fun v : Measurements => (v.tc, v.pCurrent, v.pMax, v.pMin, v.isON)) hcheck
  simp only [Prod.mk.injEq] at hcolumns
  obtain ⟨rtc, rcur, rmax, rmin, ron⟩ := hcolumns
  rw [entry, ha, hb, hx, hy, ho]
  constructor
  · exact congrArg some rtc.symm
  · exact congrArg some rcur.symm
  · exact congrArg some rmax.symm
  · exact congrArg some rmin.symm
  · exact congrArg some ron.symm

end CCDrone

structure CCWatch where
  drone : Option CCDrone
  entries : List CCEntry
  machine : CryoControlSM

inductive CCEvent
  | iterate (r : Refresh) (timeS : ℤ)
  | sweep (s : Sweep)

namespace CCWatch

/-- The row comes before the switching whose exception may end the process. -/
def inserted (w : CCWatch) (r : Refresh) (timeS : ℤ) : Option CCEntry :=
  w.drone.bind fun d => d.measured.map fun m => d.entry m r timeS

def step (w : CCWatch) : CCEvent → CCWatch
  | .iterate r timeS =>
    { w with
      drone := w.drone.bind fun d => d.iterate r
      entries := (w.inserted r timeS).toList ++ w.entries }
  | .sweep s => { w with machine := w.machine.smEngine s }

def start (status : ℤ) (mem : Cryocooler) (reads : List ReadResult) (selects : List Bool)
    (memSM : CryoControlSM) (absTime rateTime : UInt64) : CCWatch :=
  ⟨some (CCDrone.start status mem reads selects), [],
    CryoControlSM.construct memSM absTime rateTime⟩

def newestRow (e : CCEntry) : CCState := ⟨some e.timeS, e.row.tc, e.row.pMin, e.row.pMax⟩

def ReadsNewest (w : CCWatch) (s : Sweep) : Prop :=
  ∃ e ∈ w.entries, s.tcRow = newestRow e ∧ ∀ e' ∈ w.entries, e'.timeS ≤ e.timeS

structure Grounded (w : CCWatch) (m : CryoControlSM) (s : Sweep) : Prop where
  measured : ∃ e ∈ w.entries, e.Measured ∧ e.tc = some m.currentTemperature ∧
    e.pMin = some (m.sentCCPower - w.machine.thisRunCCPower)
  lost : s.Timely → ∀ t, (∀ e ∈ w.entries, e.Measured → e.timeS ≤ t) → s.nowTime - t > 60 →
    m.currentFSMState = .fault ∧ CryoControlSM.Off m

/-- An iteration inserts nothing but what it has measured, and a sweep rests on such rows and
faults when there has been none for more than a minute. -/
def Meaningful (w : CCWatch) : CCEvent → Prop
  | .iterate r timeS => ∀ e ∈ w.inserted r timeS, e.Measured
  | .sweep s => w.ReadsNewest s → w.Grounded (w.machine.smEngine s) s

structure AllMeasured (w : CCWatch) : Prop where
  interlock : CryoControlSM.Interlock w.machine
  entries : ∀ e ∈ w.entries, e.Measured

theorem inserted_measured (w : CCWatch) (r : Refresh) (timeS : ℤ) :
    ∀ e ∈ w.inserted r timeS, e.Measured := by
  intro e he
  obtain ⟨d, -, hd⟩ := Option.bind_eq_some_iff.mp he
  obtain ⟨m, hm, rfl⟩ := Option.map_eq_some_iff.mp hd
  exact CCDrone.entry_measured hm r timeS

theorem step_allMeasured (w : CCWatch) (ev : CCEvent) (h : w.AllMeasured) :
    (w.step ev).AllMeasured := by
  cases ev with
  | iterate r timeS =>
    refine ⟨h.interlock, ?_⟩
    rw [step, List.forall_mem_append]
    exact ⟨fun e he => w.inserted_measured r timeS e (Option.mem_toList.mp he), h.entries⟩
  | sweep s => exact ⟨CryoControlSM.smEngine_interlock _ s h.interlock, h.entries⟩

theorem grounded_of_allMeasured {w : CCWatch} (h : w.AllMeasured) {s : Sweep}
    (hreads : w.ReadsNewest s) : w.Grounded (w.machine.smEngine s) s := by
  obtain ⟨e, hmem, hrow, -⟩ := hreads
  have hmeasured := h.entries e hmem
  have hpacket : s.packet.curTemp = e.row.tc ∧ s.packet.pMin = e.row.pMin ∧
      s.packet.lastCCTime = e.timeS := by
    simp only [Sweep.packet, DataPacket.fetch, hrow, newestRow, Option.getD_some, and_self]
  constructor
  · refine ⟨e, hmem, hmeasured, ?_, ?_⟩
    · rw [hmeasured.tc, CryoControlSM.smEngine_currentTemperature h.interlock, hpacket.1]
    · rw [hmeasured.pMin, CryoControlSM.smEngine_sentCCPower h.interlock, hpacket.2.1,
        add_sub_cancel_left]
  · intro htimely t ht hold
    have hle : e.timeS ≤ t := ht e hmem hmeasured
    have hstale : s.Stale := htimely.stale_iff.mpr (Or.inr (by rw [hpacket.2.2]; omega))
    refine ⟨?_, CryoControlSM.smEngine_off_of_stale h.interlock hstale⟩
    rw [CryoControlSM.smEngine_currentFSMState h.interlock, CryoControlSM.nextState, if_pos hstale]

theorem run_grounded (status : ℤ) (mem : Cryocooler) (reads : List ReadResult)
    (selects : List Bool) (memSM : CryoControlSM) (absTime rateTime : UInt64)
    (evs : List CCEvent) :
    Transition.Along step Meaningful (start status mem reads selects memSM absTime rateTime) evs := by
  refine Transition.along_of_invariant step_allMeasured ?_
    ⟨CryoControlSM.construct_interlock memSM absTime rateTime, fun _ he => by cases he⟩ evs
  intro w ev h
  cases ev with
  | iterate r timeS => exact w.inserted_measured r timeS
  | sweep s => exact grounded_of_allMeasured h

end CCWatch
end CryoController
