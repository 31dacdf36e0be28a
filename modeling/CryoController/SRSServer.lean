import CryoController.SRSPowerSupply
import CryoController.Foundations.Transition

/-!
# The two threads of `SRSServer.cpp`

The timer thread and the thread that serves the calls share the supply object.
The mutex is held for the serial commands of a critical section and for nothing
else: `VoltageRamp` tests the flag before it waits for the mutex, and the
database read of the other thread writes the flag without it. A step is one
access of one thread, and a thread that waits for a held mutex stays where it is.
-/

namespace CryoController

inductive Thread
  | timer
  | rpc
  deriving DecidableEq, Repr, Inhabited

inductive RPCCall
  | voltageRamp (startScanV stopScanV scanT : ℚ)
  | performSweep
  | readMemVoltage
  deriving DecidableEq, Repr, Inhabited

inductive ThreadAt
  | idle
  | waiting (commands : List SRSCommand) (next : ThreadAt)
  | holding (commands : List SRSCommand) (next : ThreadAt)
  | select (prevPS : Bool)
  | insert (prevPS : Bool)
  | compare (prevPS : Bool)
  | test (startScanVoltage stopScanVoltage scanTime : ℚ)
  deriving DecidableEq, Repr, Inhabited

namespace SRSCommand

def readOut : List SRSCommand := [.readVolt, .readSout, .readOvld]

def rampSection (startScanVoltage stopScanVoltage scanTime : ℚ) : List SRSCommand :=
  [.scar 100, .scab startScanVoltage, .scae stopScanVoltage, .scat scanTime, .sout true,
    .readSout, .scadOn, .scaa, .trg]

end SRSCommand

namespace SRSPowerSupply

def serial (s : SRSPowerSupply) (e : SRSSweep) : SRSCommand → SRSPowerSupply
  | .readVolt =>
    let (voltage, s) := s.readPSVoltage e.undefVoltage
    { s with currentVoltage := voltage }
  | .readSout =>
    let (output, s) := s.readPSOutput e.undefOutput
    { s with currentOutputStatus := output }
  | .readOvld =>
    let (ovld, s) := s.isOVLD
    { s with ovldStatus := ovld }
  | cmd => s.writeString cmd

end SRSPowerSupply

structure SRSServer where
  supply : SRSPowerSupply
  holder : Option Thread
  timer : ThreadAt
  rpc : ThreadAt

/-- The thread that is scheduled, the call that an idle RPC thread gets, and
what the step takes from the database and from unset memory. -/
structure SRSEvent where
  thread : Thread
  call : RPCCall
  read : SRSSweep
  deriving DecidableEq, Repr, Inhabited

namespace SRSServer

def place (sv : SRSServer) : Thread → ThreadAt
  | .timer => sv.timer
  | .rpc => sv.rpc

def move (sv : SRSServer) (t : Thread) (d : ThreadAt) : SRSServer :=
  match t with
  | .timer => { sv with timer := d }
  | .rpc => { sv with rpc := d }

def sweep (sv : SRSServer) : ThreadAt :=
  .waiting SRSCommand.readOut (.select sv.supply.srsPowerState)

def begin (sv : SRSServer) : Thread → RPCCall → ThreadAt
  | .rpc, .voltageRamp startScanV stopScanV scanT => .test startScanV stopScanV scanT
  | .rpc, .readMemVoltage => .idle
  | .rpc, .performSweep => sv.sweep
  | .timer, _ => sv.sweep

def advance (sv : SRSServer) (t : Thread) (e : SRSEvent) : ThreadAt → SRSServer × ThreadAt
  | .idle => (sv, sv.begin t e.call)
  | .waiting commands next =>
    if sv.holder = none then ({ sv with holder := some t }, .holding commands next)
    else (sv, .waiting commands next)
  | .holding (cmd :: commands) next =>
    ({ sv with supply := sv.supply.serial e.read cmd }, .holding commands next)
  | .holding [] next => ({ sv with holder := none }, next)
  | .select prevPS =>
    ({ sv with supply := (sv.supply.updateMysql e.read.srsPowerState).1 }, .insert prevPS)
  | .insert prevPS => (sv, .compare prevPS)
  | .compare prevPS =>
    if prevPS = true ∧ prevPS ≠ sv.supply.srsPowerState then
      (sv, .test sv.supply.currentVoltage 0 5)
    else (sv, .idle)
  | .test startScanVoltage stopScanVoltage scanTime =>
    if sv.supply.srsPowerState then
      (sv, .waiting (SRSCommand.rampSection startScanVoltage stopScanVoltage scanTime) .idle)
    else (sv, .idle)

def step (sv : SRSServer) (e : SRSEvent) : SRSServer :=
  let (sv, d) := sv.advance e.thread e (sv.place e.thread)
  sv.move e.thread d

def start (mem : SRSPowerSupply) (reads : List ReadResult) : SRSServer :=
  ⟨SRSPowerSupply.construct mem reads, none, .idle, .idle⟩

end SRSServer

namespace SRSServer
section Uninterrupted
variable (sv : SRSServer) (call : RPCCall) (r : SRSSweep)

def turns (n : ℕ) : SRSServer := Transition.run step sv (List.replicate n ⟨.rpc, call, r⟩)

theorem turns_one : sv.turns call r 1 = sv.step ⟨.rpc, call, r⟩ := rfl

theorem turns_add (m n : ℕ) : sv.turns call r (m + n) = (sv.turns call r m).turns call r n := by
  rw [turns, List.replicate_add, Transition.run_append]
  rfl

theorem turns_holding (commands : List SRSCommand) (next : ThreadAt)
    (hrpc : sv.rpc = .holding commands next) : sv.turns call r (commands.length + 1) =
      { sv with
        supply := commands.foldl (SRSPowerSupply.serial · r) sv.supply
        holder := none, rpc := next } := by
  induction commands generalizing sv with
  | nil =>
    change sv.step ⟨.rpc, call, r⟩ = _
    simp only [step, place, hrpc, advance, move, List.foldl_nil]
  | cons cmd commands ih =>
    have hstep : sv.turns call r 1 =
        { sv with supply := sv.supply.serial r cmd, rpc := .holding commands next } := by
      change sv.step ⟨.rpc, call, r⟩ = _
      simp only [step, place, hrpc, advance, move]
    rw [List.length_cons, Nat.add_comm, turns_add, hstep, ih _ rfl]
    rfl

theorem turns_waiting (commands : List SRSCommand) (next : ThreadAt) (hfree : sv.holder = none)
    (hrpc : sv.rpc = .waiting commands next) : sv.turns call r (1 + (commands.length + 1)) =
      { sv with
        supply := commands.foldl (SRSPowerSupply.serial · r) sv.supply, rpc := next } := by
  have hstep : sv.turns call r 1 =
      { sv with holder := some .rpc, rpc := .holding commands next } := by
    change sv.step ⟨.rpc, call, r⟩ = _
    simp only [step, place, hrpc, advance, hfree, if_true, move]
  rw [turns_add, hstep, turns_holding _ _ _ _ _ rfl, ← hfree]

theorem turns_voltageRamp (startScanV stopScanV scanT : ℚ) (hfree : sv.holder = none)
    (hidle : sv.rpc = .idle) : ∃ n, sv.turns (.voltageRamp startScanV stopScanV scanT) r n =
      { sv with supply := sv.supply.voltageRamp startScanV stopScanV scanT r.undefOutput } := by
  have hcall : sv.turns (.voltageRamp startScanV stopScanV scanT) r 1 =
      { sv with rpc := .test startScanV stopScanV scanT } := by
    simp only [turns_one, step, place, hidle, advance, begin, move]
  by_cases hon : sv.supply.srsPowerState = true
  · have htest : SRSServer.turns { sv with rpc := .test startScanV stopScanV scanT }
        (.voltageRamp startScanV stopScanV scanT) r 1 =
        { sv with
          rpc := .waiting (SRSCommand.rampSection startScanV stopScanV scanT) .idle } := by
      simp only [turns_one, step, place, advance, if_pos hon, move]
    refine ⟨1 + (1 + (1 + ((SRSCommand.rampSection startScanV stopScanV scanT).length + 1))), ?_⟩
    rw [turns_add, hcall, turns_add, htest, turns_waiting _ _ _ _ _ (by exact hfree) rfl,
      SRSPowerSupply.voltageRamp, if_pos hon, ← hidle]
    rfl
  · refine ⟨1 + 1, ?_⟩
    rw [turns_add, hcall, SRSPowerSupply.voltageRamp, if_neg hon]
    simp only [turns_one, step, place, advance, if_neg hon, move, ← hidle]

theorem turns_performSweep (hfree : sv.holder = none) (hidle : sv.rpc = .idle) :
    ∃ n, sv.turns .performSweep r n = { sv with supply := (sv.supply.performSweep r).1 } := by
  let supply := ((sv.supply.readOut r).updateMysql r.srsPowerState).1
  have hcall : sv.turns .performSweep r 1 = { sv with rpc := sv.sweep } := by
    simp only [turns_one, step, place, hidle, advance, begin, move]
  have hread : SRSServer.turns { sv with rpc := sv.sweep } .performSweep r 5 =
      { sv with
        supply := sv.supply.readOut r, rpc := .select sv.supply.srsPowerState } :=
    turns_waiting _ _ _ SRSCommand.readOut _ hfree rfl
  have hselect : SRSServer.turns { sv with
      supply := sv.supply.readOut r, rpc := .select sv.supply.srsPowerState } .performSweep r 2 =
        { sv with supply := supply, rpc := .compare sv.supply.srsPowerState } := rfl
  rw [SRSPowerSupply.performSweep_fst]
  by_cases hedge : sv.supply.srsPowerState = true ∧
      sv.supply.srsPowerState ≠ supply.srsPowerState
  · have hoff : ¬ supply.srsPowerState = true := fun hon => hedge.2 (hedge.1.trans hon.symm)
    refine ⟨1 + (5 + (2 + (1 + 1))), ?_⟩
    rw [turns_add, hcall, turns_add, hread, turns_add, hselect, turns_add]
    simp only [turns_one, step, place, advance, if_pos hedge, if_neg hoff, move, ← hidle, supply]
  · refine ⟨1 + (5 + (2 + 1)), ?_⟩
    rw [turns_add, hcall, turns_add, hread, turns_add, hselect]
    simp only [turns_one, step, place, advance, if_neg hedge, move, ← hidle, supply]

end Uninterrupted
end SRSServer

def ThreadAt.pending : ThreadAt → List SRSCommand
  | .waiting commands next => commands ++ next.pending
  | .holding commands next => commands ++ next.pending
  | _ => []

/-- The thread has passed the test of a ramp and not yet sent its SOUT 1. -/
def ThreadAt.Committed (d : ThreadAt) : Prop := .sout true ∈ d.pending

instance (d : ThreadAt) : Decidable d.Committed :=
  inferInstanceAs (Decidable (.sout true ∈ d.pending))

namespace SRSPowerSupply

theorem serial_srsPowerState (s : SRSPowerSupply) (e : SRSSweep) (cmd : SRSCommand) :
    (s.serial e cmd).srsPowerState = s.srsPowerState := by
  cases cmd <;> rfl

theorem serial_sent (s : SRSPowerSupply) (e : SRSSweep) (cmd : SRSCommand) :
    (s.serial e cmd).port.sent = s.port.sent ++ [cmd] := by
  cases cmd <;>
    simp only [serial, readPSVoltage, readPSOutput, isOVLD, getParameterFromSRS, writeString,
      Port.readLine_sent, Port.writeString_sent]

end SRSPowerSupply

namespace SRSServer
section Advance
variable (sv : SRSServer) (t : Thread) (e : SRSEvent) (d : ThreadAt)

theorem begin_pending (call : RPCCall) : .sout true ∉ (sv.begin t call).pending := by
  cases t <;> cases call <;> simp [begin, sweep, ThreadAt.pending, SRSCommand.readOut]

/-- What a step of a thread can do. Outside of the mutex and of the database read
it only moves on, and comes to send a ramp if it has found the flag on. -/
inductive Moves : ThreadAt → SRSServer × ThreadAt → Prop
  | serial (cmd : SRSCommand) (commands : List SRSCommand) (next : ThreadAt) :
    Moves (.holding (cmd :: commands) next)
      ({ sv with supply := sv.supply.serial e.read cmd }, .holding commands next)
  | unlock (next : ThreadAt) : Moves (.holding [] next) ({ sv with holder := none }, next)
  | lock (commands : List SRSCommand) (next : ThreadAt) (hfree : sv.holder = none) :
    Moves (.waiting commands next) ({ sv with holder := some t }, .holding commands next)
  | blocked (commands : List SRSCommand) (next : ThreadAt) :
    Moves (.waiting commands next) (sv, .waiting commands next)
  | read (prevPS : Bool) : Moves (.select prevPS)
      ({ sv with supply := (sv.supply.updateMysql e.read.srsPowerState).1 }, .insert prevPS)
  | pass {d d' : ThreadAt} (hholding : ∀ commands next, d ≠ .holding commands next)
      (hselect : ∀ prevPS, d ≠ .select prevPS)
      (hcommitted : d'.Committed → sv.supply.srsPowerState = true) : Moves d (sv, d')

theorem advance_moves : sv.Moves t e d (sv.advance t e d) := by
  match d with
  | .holding (cmd :: commands) next => exact .serial cmd commands next
  | .holding [] next => exact .unlock next
  | .select prevPS => exact .read prevPS
  | .idle =>
    exact .pass (by simp) (by simp) fun h => absurd h (sv.begin_pending t e.call)
  | .insert prevPS => exact .pass (by simp) (by simp) fun h => (by cases h)
  | .waiting commands next =>
    rw [advance]
    split_ifs with hfree
    · exact .lock commands next hfree
    · exact .blocked commands next
  | .compare prevPS =>
    rw [advance]
    split_ifs
    · exact .pass (by simp) (by simp) fun h => (by cases h)
    · exact .pass (by simp) (by simp) fun h => (by cases h)
  | .test startV stopV time =>
    rw [advance]
    split_ifs with hon
    · exact .pass (by simp) (by simp) fun _ => hon
    · exact .pass (by simp) (by simp) fun h => (by cases h)

theorem advance_sent : ∃ cmds, (sv.advance t e d).1.supply.port.sent =
    sv.supply.port.sent ++ cmds ∧ cmds ⊆ d.pending := by
  have hmoves := sv.advance_moves t e d
  have hnone : sv.supply.port.sent = sv.supply.port.sent ++ [] := (List.append_nil _).symm
  generalize sv.advance t e d = q at hmoves ⊢
  cases hmoves with
  | serial cmd commands next =>
    exact ⟨[cmd], sv.supply.serial_sent e.read cmd, by simp [ThreadAt.pending]⟩
  | _ => exact ⟨[], hnone, List.nil_subset _⟩

theorem advance_srsPowerState (hd : ∀ prevPS, d ≠ .select prevPS) :
    (sv.advance t e d).1.supply.srsPowerState = sv.supply.srsPowerState := by
  have hmoves := sv.advance_moves t e d
  generalize sv.advance t e d = q at hmoves ⊢
  cases hmoves with
  | serial cmd commands next => exact sv.supply.serial_srsPowerState e.read cmd
  | read prevPS => exact absurd rfl (hd prevPS)
  | _ => rfl

theorem advance_committed (h : (sv.advance t e d).2.Committed) :
    d.Committed ∨ (∀ prevPS, d ≠ .select prevPS) ∧ sv.supply.srsPowerState = true := by
  have hmoves := sv.advance_moves t e d
  generalize sv.advance t e d = q at hmoves h
  cases hmoves with
  | serial cmd commands next => exact Or.inl (List.mem_cons_of_mem cmd h)
  | read prevPS => cases h
  | pass hholding hselect hcommitted => exact Or.inr ⟨hselect, hcommitted h⟩
  | _ => exact Or.inl h

theorem advance_keeps {α : Type} (f : SRSServer → α) (t : Thread) (e : SRSEvent) (d : ThreadAt)
    (hf : ∀ sv supply holder, f { sv with supply := supply, holder := holder } = f sv := by
      intros; rfl) : f (sv.advance t e d).1 = f sv := by
  have hmoves := sv.advance_moves t e d
  generalize sv.advance t e d = q at hmoves ⊢
  cases hmoves with
  | blocked commands next => rfl
  | pass hholding hselect hcommitted => rfl
  | _ => exact hf sv _ _

end Advance

def Warranted (sv : SRSServer) : Prop := sv.rpc.Committed → sv.supply.srsPowerState = true

def KeepsFlag (sv : SRSServer) (e : SRSEvent) : Prop :=
  ∀ prevPS, sv.place e.thread = .select prevPS → e.read.srsPowerState = 0 → ¬ sv.rpc.Committed

instance (sv : SRSServer) (e : SRSEvent) : Decidable (sv.KeepsFlag e) :=
  inferInstanceAs (Decidable (∀ prevPS, sv.place e.thread = .select prevPS →
    e.read.srsPowerState = 0 → ¬ sv.rpc.Committed))

def RampsWhileOn (sv : SRSServer) (e : SRSEvent) : Prop :=
  e.thread = .rpc → ∀ cmds, (sv.step e).supply.port.sent = sv.supply.port.sent ++ cmds →
    .sout true ∈ cmds → sv.supply.srsPowerState = true

theorem step_supply (sv : SRSServer) (e : SRSEvent) :
    (sv.step e).supply = (sv.advance e.thread e (sv.place e.thread)).1.supply := by
  rw [step]
  cases e.thread <;> rfl

theorem committed_of_step {sv : SRSServer} {e : SRSEvent} (h : (sv.step e).rpc.Committed) :
    sv.rpc.Committed ∨
      (∀ prevPS, sv.place e.thread ≠ .select prevPS) ∧ sv.supply.srsPowerState = true := by
  cases hthread : e.thread with
  | timer =>
    have hrpc : (sv.step e).rpc = sv.rpc := by
      rw [step, hthread]
      exact sv.advance_keeps rpc _ _ _
    exact Or.inl (hrpc ▸ h)
  | rpc =>
    have hrpc : (sv.step e).rpc = (sv.advance .rpc e sv.rpc).2 := by
      rw [step, hthread]
      rfl
    exact sv.advance_committed _ _ _ (hrpc ▸ h)

theorem step_warranted (sv : SRSServer) (e : SRSEvent) (h : sv.Warranted)
    (hkeep : sv.KeepsFlag e) : (sv.step e).Warranted := by
  intro hcommitted
  rw [step_supply]
  by_cases hselect : ∃ prevPS, sv.place e.thread = .select prevPS
  · obtain ⟨prevPS, hplace⟩ := hselect
    rcases committed_of_step hcommitted with hrpc | ⟨hno, -⟩
    · have hread : e.read.srsPowerState ≠ 0 := fun hzero => hkeep prevPS hplace hzero hrpc
      rw [hplace]
      exact decide_eq_true hread
    · exact absurd hplace (hno prevPS)
  · have hno (prevPS : Bool) : sv.place e.thread ≠ .select prevPS :=
      fun hplace => hselect ⟨prevPS, hplace⟩
    rw [advance_srsPowerState _ _ _ _ hno]
    rcases committed_of_step hcommitted with hrpc | ⟨-, hon⟩
    · exact h hrpc
    · exact hon

theorem rampsWhileOn_of_warranted (sv : SRSServer) (e : SRSEvent) (h : sv.Warranted) :
    sv.RampsWhileOn e := by
  intro hrpc cmds hsent hmem
  obtain ⟨cmds', hsent', hsub⟩ := sv.advance_sent e.thread e (sv.place e.thread)
  rw [step_supply] at hsent
  rw [List.append_cancel_left (hsent.symm.trans hsent')] at hmem
  rw [hrpc] at hsub
  exact h (hsub hmem)

theorem run_rampsWhileOn (mem : SRSPowerSupply) (reads : List ReadResult) (evs : List SRSEvent)
    (h : Transition.Along step KeepsFlag (start mem reads) evs) :
    Transition.Along step RampsWhileOn (start mem reads) evs :=
  Transition.along_mono step_warranted
    (fun sv e hw _ => rampsWhileOn_of_warranted sv e hw) (fun hidle => by cases hidle) h

def schedule (n : ℕ) (thread : Thread) (call : RPCCall) (srsPowerState : ℤ) : List SRSEvent :=
  List.replicate n ⟨thread, call, { (default : SRSSweep) with srsPowerState := srsPowerState }⟩

def zeros (n : ℕ) : List ReadResult := (List.replicate n [.byte '0', .byte '\n']).flatten

theorem run_rampsWhileOn_sample : Transition.Along step RampsWhileOn
    (start default (zeros 4))
    (schedule 9 .timer .performSweep 1 ++ schedule 13 .rpc (.voltageRamp 0 60 5) 1) :=
  run_rampsWhileOn default (zeros 4) _ (by decide +kernel)

/-- The RPC thread tests the flag, a sweep of the timer reads that it is off, and
the ramp goes out. -/
theorem not_run_rampsWhileOn : ¬ ∀ (mem : SRSPowerSupply) (reads : List ReadResult)
    (evs : List SRSEvent), Transition.Along step RampsWhileOn (start mem reads) evs := by
  intro h
  let before := schedule 9 .timer .performSweep 1 ++ schedule 2 .rpc (.voltageRamp 0 60 5) 1 ++
    schedule 7 .timer .performSweep 0 ++ schedule 5 .rpc .performSweep 0
  have hrun := h default (zeros 6) (before ++ schedule 1 .rpc .performSweep 0)
  rw [Transition.along_append] at hrun
  have hon := hrun.2.1 rfl [.sout true] (by decide +kernel) (List.mem_singleton.mpr rfl)
  have hoff : (Transition.run step (start default (zeros 6)) before).supply.srsPowerState =
      false := by decide +kernel
  rw [hoff] at hon
  cases hon

def Exclusive (sv : SRSServer) : Prop :=
  ∀ t, sv.holder = some t → ∃ commands next, sv.place t = .holding commands next

theorem advance_place (sv : SRSServer) (t t' : Thread) (e : SRSEvent) (d : ThreadAt) :
    (sv.advance t e d).1.place t' = sv.place t' := by
  cases t' with
  | timer => exact sv.advance_keeps timer t e d
  | rpc => exact sv.advance_keeps rpc t e d

theorem step_place (sv : SRSServer) (e : SRSEvent) (t : Thread) : (sv.step e).place t =
    if t = e.thread then (sv.advance e.thread e (sv.place e.thread)).2 else sv.place t := by
  have hkeep := sv.advance_place e.thread t e (sv.place e.thread)
  rw [step]
  generalize sv.advance e.thread e (sv.place e.thread) = next at hkeep ⊢
  cases hthread : e.thread <;> cases t <;> first | rfl | exact hkeep

theorem step_holder (sv : SRSServer) (e : SRSEvent) :
    (sv.step e).holder = (sv.advance e.thread e (sv.place e.thread)).1.holder := by
  rw [step]
  cases e.thread <;> rfl

theorem advance_holder {sv : SRSServer} {t t' : Thread} {e : SRSEvent} {d : ThreadAt}
    (h : (sv.advance t e d).1.holder = some t') :
    (t' = t ∧ ∃ commands next, (sv.advance t e d).2 = .holding commands next) ∨
      (sv.holder = some t' ∧ ((∃ commands next, d = .holding commands next) →
        ∃ commands next, (sv.advance t e d).2 = .holding commands next)) := by
  have hmoves := sv.advance_moves t e d
  generalize sv.advance t e d = q at hmoves h ⊢
  cases hmoves with
  | serial cmd commands next => exact Or.inr ⟨h, fun _ => ⟨commands, next, rfl⟩⟩
  | unlock next => cases h
  | lock commands next hfree => exact Or.inl ⟨(Option.some.inj h).symm, commands, next, rfl⟩
  | blocked commands next => exact Or.inr ⟨h, fun ⟨_, _, heq⟩ => (by cases heq)⟩
  | read prevPS => exact Or.inr ⟨h, fun ⟨_, _, heq⟩ => (by cases heq)⟩
  | pass hholding hselect hcommitted =>
    exact Or.inr ⟨h, fun ⟨commands, next, heq⟩ => absurd heq (hholding commands next)⟩

theorem step_exclusive (sv : SRSServer) (e : SRSEvent) (h : sv.Exclusive) :
    (sv.step e).Exclusive := by
  intro t hholder
  rw [step_holder] at hholder
  rw [step_place]
  rcases advance_holder hholder with ⟨rfl, hnew⟩ | ⟨hold, hnew⟩
  · rw [if_pos rfl]
    exact hnew
  · by_cases ht : t = e.thread
    · rw [if_pos ht]
      exact hnew (ht ▸ h t hold)
    · rw [if_neg ht]
      exact h t hold

def rpcTurn (r : SRSSweep) : SRSEvent := ⟨.rpc, .readMemVoltage, r⟩

def Sends (r : SRSSweep) (d : ThreadAt) : Prop :=
  ∀ sv : SRSServer, sv.rpc = d → d.Committed → sv.supply.srsPowerState = false →
    (∀ commands next, d = .waiting commands next → sv.holder = none) →
      ∃ n, ¬ Transition.Along step RampsWhileOn sv (List.replicate n (rpcTurn r))

theorem holding_sends {r : SRSSweep} {next : ThreadAt} (hnext : Sends r next)
    (commands : List SRSCommand) : Sends r (.holding commands next) := by
  induction commands with
  | nil =>
    intro sv hrpc hcommitted hoff _
    have hstep : sv.step (rpcTurn r) = { sv with holder := none, rpc := next } := by
      simp only [step, rpcTurn, place, hrpc, advance, move]
    obtain ⟨n, hn⟩ := hnext (sv.step (rpcTurn r)) (by rw [hstep]) hcommitted
      (by rw [hstep]; exact hoff) (fun _ _ _ => by rw [hstep])
    exact ⟨n + 1, fun h => hn h.2⟩
  | cons cmd commands ih =>
    intro sv hrpc hcommitted hoff _
    have hstep : sv.step (rpcTurn r) =
        { sv with supply := sv.supply.serial r cmd, rpc := .holding commands next } := by
      simp only [step, rpcTurn, place, hrpc, advance, move]
    have hsent : (sv.step (rpcTurn r)).supply.port.sent = sv.supply.port.sent ++ [cmd] := by
      rw [hstep]
      exact sv.supply.serial_sent r cmd
    rcases List.mem_cons.mp hcommitted with hsout | hlater
    · refine ⟨1, fun h => ?_⟩
      have hon := h.1 rfl [cmd] hsent (List.mem_singleton.mpr hsout)
      rw [hoff] at hon
      cases hon
    · have hoff' : (sv.step (rpcTurn r)).supply.srsPowerState = false := by
        rw [hstep]
        exact (sv.supply.serial_srsPowerState r cmd).trans hoff
      obtain ⟨n, hn⟩ := ih (sv.step (rpcTurn r)) (by rw [hstep]) hlater hoff'
        (fun _ _ heq => by cases heq)
      exact ⟨n + 1, fun h => hn h.2⟩

theorem sends (r : SRSSweep) (d : ThreadAt) : Sends r d := by
  induction d with
  | holding commands next ih => exact holding_sends ih commands
  | waiting commands next ih =>
    intro sv hrpc hcommitted hoff hfree
    have hstep : sv.step (rpcTurn r) =
        { sv with holder := some .rpc, rpc := .holding commands next } := by
      simp only [step, rpcTurn, place, hrpc, advance, if_pos (hfree commands next rfl), move]
    obtain ⟨n, hn⟩ := holding_sends ih commands (sv.step (rpcTurn r)) (by rw [hstep]) hcommitted
      (by rw [hstep]; exact hoff) (fun _ _ heq => by cases heq)
    exact ⟨n + 1, fun h => hn h.2⟩
  | _ =>
    intro sv _ hcommitted
    cases hcommitted

theorem mutex_free {sv : SRSServer} (hexcl : sv.Exclusive) {prevPS : Bool}
    (htimer : sv.timer = .select prevPS) {commands : List SRSCommand} {next : ThreadAt}
    (hwaits : sv.rpc = .waiting commands next) : sv.holder = none := by
  cases hholder : sv.holder with
  | none => rfl
  | some t =>
    obtain ⟨commands', next', hin⟩ := hexcl t hholder
    cases t with
    | timer => cases htimer.symm.trans hin
    | rpc => cases hwaits.symm.trans hin

/-- A run that loses the flag of a committed RPC thread goes on to a SOUT 1 with
the flag off, if only the RPC thread is scheduled. -/
theorem exists_not_rampsWhileOn (mem : SRSPowerSupply) (reads : List ReadResult)
    (evs : List SRSEvent) (e : SRSEvent)
    (h : ¬ (Transition.run step (start mem reads) evs).KeepsFlag e) :
    ∃ more, ¬ Transition.Along step RampsWhileOn (start mem reads) (evs ++ e :: more) := by
  have hexcl : (Transition.run step (start mem reads) evs).Exclusive :=
    Transition.run_invariant step_exclusive (fun _ hnone => by cases hnone) evs
  generalize hsv : Transition.run step (start mem reads) evs = sv at h hexcl
  simp only [KeepsFlag, not_forall, not_not] at h
  obtain ⟨prevPS, hplace, hzero, hcommitted⟩ := h
  cases hthread : e.thread with
  | rpc =>
    rw [hthread] at hplace
    rw [show sv.rpc = .select prevPS from hplace] at hcommitted
    cases hcommitted
  | timer =>
    rw [hthread] at hplace
    have hstep : sv.step e = { sv with
        supply := (sv.supply.updateMysql e.read.srsPowerState).1, timer := .insert prevPS } := by
      rw [step, hthread, hplace]
      rfl
    have hfree (commands : List SRSCommand) (next : ThreadAt)
        (hwaits : sv.rpc = .waiting commands next) : sv.holder = none :=
      mutex_free hexcl hplace hwaits
    obtain ⟨n, hn⟩ := sends e.read sv.rpc (sv.step e) (by rw [hstep]) hcommitted
      (by rw [hstep]; simp [SRSPowerSupply.updateMysql, hzero])
      (fun commands next hwaits => by rw [hstep]; exact hfree commands next hwaits)
    refine ⟨List.replicate n (rpcTurn e.read), fun hrun => hn ?_⟩
    rw [Transition.along_append, hsv, Transition.along_cons] at hrun
    exact hrun.2.2

end SRSServer
end CryoController
