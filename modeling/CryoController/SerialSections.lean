import CryoController.SRSServer

/-!
# The serial line under the two threads

Both threads write to one line. What keeps their commands apart is the mutex: the line
carries whole critical sections, one after the other, and at the end the part that the
holder of the mutex has got through. The holder needs a bounded number of its own steps
to leave its section, and nothing that the other thread does makes it wait, if the getters
return: one whose reply does not convert has no `return`, and as it is built its thread
never comes out of it.
-/

open Numeral
namespace CryoController

inductive IsSection : List SRSCommand → Prop
  | readOut : IsSection SRSCommand.readOut
  | ramp (startScanVoltage stopScanVoltage scanTime : ℚ) :
    IsSection (SRSCommand.rampSection startScanVoltage stopScanVoltage scanTime)

theorem IsSection.length_le {cmds : List SRSCommand} (h : IsSection cmds) : cmds.length ≤ 9 := by
  cases h with
  | readOut => decide
  | ramp startV stopV time => exact le_rfl

namespace ThreadAt

def Outside (d : ThreadAt) : Prop := d = .idle ∨ ∃ prevPS, d = .select prevPS

def WellFormed : ThreadAt → Prop
  | .waiting commands next => IsSection commands ∧ Outside next
  | .holding _ next => Outside next
  | _ => True

theorem Outside.wellFormed {d : ThreadAt} (h : d.Outside) : d.WellFormed := by
  rcases h with rfl | ⟨prevPS, rfl⟩
  · trivial
  · trivial

end ThreadAt

namespace SRSServer
section Advance
variable (sv : SRSServer) (t : Thread) (e : SRSEvent)

theorem begin_wellFormed (call : RPCCall) : (sv.begin t call).WellFormed := by
  cases t with
  | timer => exact ⟨.readOut, Or.inr ⟨_, rfl⟩⟩
  | rpc =>
    cases call with
    | performSweep => exact ⟨.readOut, Or.inr ⟨_, rfl⟩⟩
    | voltageRamp startV stopV time => trivial
    | readMemVoltage => trivial

theorem advance_wellFormed {d : ThreadAt} (h : d.WellFormed) :
    (sv.advance t e d).2.WellFormed := by
  match d with
  | .idle => exact sv.begin_wellFormed t e.call
  | .waiting commands next =>
    rw [advance]
    split_ifs
    · exact h.2
    · exact h
  | .holding (cmd :: commands) next => exact h
  | .holding [] next => exact ThreadAt.Outside.wellFormed h
  | .select prevPS => trivial
  | .insert prevPS => trivial
  | .compare prevPS =>
    rw [advance]
    split_ifs
    · trivial
    · trivial
  | .test startV stopV time =>
    rw [advance]
    split_ifs
    · exact ⟨.ramp startV stopV time, Or.inl rfl⟩
    · trivial

theorem advance_enters {d : ThreadAt} (hd : d.WellFormed) {commands : List SRSCommand}
    {next : ThreadAt} (h : (sv.advance t e d).2 = .holding commands next) :
    (∃ cmd, d = .holding (cmd :: commands) next) ∨
      (d = .waiting commands next ∧ (sv.advance t e d).1.holder = some t) := by
  match d with
  | .idle =>
    simp only [advance, begin, sweep] at h
    split at h <;> cases h
  | .waiting commands' next' =>
    rw [advance] at h ⊢
    split_ifs at h ⊢ with hfree
    cases h
    exact Or.inr ⟨rfl, rfl⟩
  | .holding (cmd :: commands') next' =>
    cases h
    exact Or.inl ⟨cmd, rfl⟩
  | .holding [] next' =>
    rcases hd with hnext | ⟨prevPS, hnext⟩
    · cases hnext.symm.trans h
    · cases hnext.symm.trans h
  | .select prevPS => cases h
  | .insert prevPS => cases h
  | .compare prevPS =>
    rw [advance] at h
    split_ifs at h
  | .test startV stopV time =>
    rw [advance] at h
    split_ifs at h

end Advance

def Unfinished (sv : SRSServer) (done : List SRSCommand) : Prop :=
  match sv.holder with
  | none => done = []
  | some t => ∃ commands next, sv.place t = .holding commands next ∧ IsSection (done ++ commands)

structure Framed (sv : SRSServer) : Prop where
  places : ∀ t, (sv.place t).WellFormed
  holds : ∀ t commands next, sv.place t = .holding commands next → sv.holder = some t
  line : ∃ (sections : List (List SRSCommand)) (done : List SRSCommand), (∀ cmds ∈ sections, IsSection cmds) ∧
    sv.supply.port.sent = sections.flatten ++ done ∧ sv.Unfinished done

theorem start_framed (mem : SRSPowerSupply) (reads : List ReadResult) :
    (start mem reads).Framed where
  places := fun t => by cases t <;> trivial
  holds := fun t commands next h => by cases t <;> cases h
  line := ⟨[], [], fun _ h => (by cases h), rfl, rfl⟩

section Step
variable {sv : SRSServer} {e : SRSEvent}

theorem step_places (h : sv.Framed) (t : Thread) : ((sv.step e).place t).WellFormed := by
  rw [step_place]
  split_ifs
  · exact sv.advance_wellFormed e.thread e (h.places e.thread)
  · exact h.places t

theorem step_holds (h : sv.Framed) (t : Thread) (commands : List SRSCommand) (next : ThreadAt)
    (hin : (sv.step e).place t = .holding commands next) : (sv.step e).holder = some t := by
  rw [step_place] at hin
  rw [step_holder]
  have henters (hin : (sv.advance e.thread e (sv.place e.thread)).2 = .holding commands next) :=
    sv.advance_enters e.thread e (h.places e.thread) hin
  have hmoves := sv.advance_moves e.thread e (sv.place e.thread)
  generalize hd : sv.place e.thread = d at hin henters hmoves ⊢
  generalize sv.advance e.thread e d = q at hin henters hmoves ⊢
  by_cases ht : t = e.thread
  · subst ht
    rw [if_pos rfl] at hin
    rcases henters hin with ⟨cmd, rfl⟩ | ⟨-, hholder⟩
    · have hheld := h.holds _ _ _ hd
      cases hmoves with
      | serial => exact hheld
      | pass hholding => exact absurd rfl (hholding _ _)
    · exact hholder
  · rw [if_neg ht] at hin
    have hheld := h.holds t commands next hin
    cases hmoves with
    | unlock next' =>
      have hother := h.holds _ _ _ hd
      exact absurd (Option.some.inj (hheld.symm.trans hother)) ht
    | lock commands' next' hfree => cases hheld.symm.trans hfree
    | _ => exact hheld

theorem step_line (h : sv.Framed) : ∃ (sections : List (List SRSCommand))
    (done : List SRSCommand), (∀ cmds ∈ sections, IsSection cmds) ∧
      (sv.step e).supply.port.sent = sections.flatten ++ done ∧ (sv.step e).Unfinished done := by
  obtain ⟨sections, done, hsections, hsent, hdone⟩ := h.line
  have hmoves := sv.advance_moves e.thread e (sv.place e.thread)
  have hplace (t : Thread) := step_place sv e t
  have hwell := h.places e.thread
  rw [Unfinished] at hdone
  rw [step_supply]
  simp only [Unfinished, step_holder]
  generalize hd : sv.place e.thread = d at hmoves hplace hwell ⊢
  generalize sv.advance e.thread e d = q at hmoves hplace ⊢
  have hself : (sv.step e).place e.thread = q.2 := by rw [hplace, if_pos rfl]
  -- outside of a section the line and the holder stay as they are
  have hquiet (hsent' : q.1.supply.port.sent = sv.supply.port.sent)
      (hholder : q.1.holder = sv.holder)
      (hout : ∀ commands next, d ≠ .holding commands next) :
      ∃ (sections : List (List SRSCommand)) (done : List SRSCommand),
        (∀ cmds ∈ sections, IsSection cmds) ∧ q.1.supply.port.sent = sections.flatten ++ done ∧
          match q.1.holder with
          | none => done = []
          | some t => ∃ commands next, (sv.step e).place t = .holding commands next ∧
              IsSection (done ++ commands) := by
    refine ⟨sections, done, hsections, hsent'.trans hsent, ?_⟩
    rw [hholder]
    cases hheld : sv.holder with
    | none =>
      rw [hheld] at hdone
      exact hdone
    | some t =>
      rw [hheld] at hdone
      obtain ⟨commands, next, hin, hsection⟩ := hdone
      have ht : t ≠ e.thread := fun ht => hout commands next (hd.symm.trans (ht ▸ hin))
      exact ⟨commands, next, by rw [hplace, if_neg ht]; exact hin, hsection⟩
  cases hmoves with
  | serial cmd commands next =>
    have hheld := h.holds _ _ _ hd
    rw [hheld] at hdone ⊢
    obtain ⟨commands', next', hin, hsection⟩ := hdone
    obtain ⟨rfl, rfl⟩ : commands' = cmd :: commands ∧ next' = next := by
      cases hd.symm.trans hin
      exact ⟨rfl, rfl⟩
    refine ⟨sections, done ++ [cmd], hsections, ?_, commands, next', hself, ?_⟩
    · rw [SRSPowerSupply.serial_sent, hsent, List.append_assoc]
    · rw [List.append_assoc]
      exact hsection
  | unlock next =>
    rw [h.holds _ _ _ hd] at hdone
    obtain ⟨commands', next', hin, hsection⟩ := hdone
    cases hd.symm.trans hin
    rw [List.append_nil] at hsection
    refine ⟨sections ++ [done], [], ?_, ?_, rfl⟩
    · exact List.forall_mem_append.mpr ⟨hsections, List.forall_mem_singleton.mpr hsection⟩
    · rw [List.flatten_append, List.append_nil, hsent]
      exact congrArg _ (List.append_nil done).symm
  | lock commands next hfree =>
    rw [hfree] at hdone
    refine ⟨sections, [], hsections, hdone ▸ hsent, commands, next, hself, hwell.1⟩
  | blocked commands next => exact hquiet rfl rfl (by simp)
  | read prevPS => exact hquiet rfl rfl (by simp)
  | pass hholding hselect hcommitted => exact hquiet rfl rfl hholding

theorem step_framed (sv : SRSServer) (e : SRSEvent) (h : sv.Framed) : (sv.step e).Framed :=
  ⟨step_places h, step_holds h, step_line h⟩

end Step

theorem run_framed (mem : SRSPowerSupply) (reads : List ReadResult) (evs : List SRSEvent) :
    (Transition.run step (start mem reads) evs).Framed :=
  Transition.run_invariant step_framed (start_framed mem reads) evs

end SRSServer

namespace SRSPowerSupply

def converts (s : SRSPowerSupply) : SRSCommand → Bool
  | .readVolt => (stof s.port.reply).isSome
  | .readSout => (stoi s.port.reply).isSome
  | _ => true

end SRSPowerSupply

namespace SRSServer

def returns (sv : SRSServer) (e : SRSEvent) : Bool :=
  match sv.place e.thread with
  | .holding (cmd :: _) _ => sv.supply.converts cmd
  | _ => true

/-- A thread that is in a getter without a `return` stays there. -/
def builtStep (sv : SRSServer) (e : SRSEvent) : SRSServer :=
  if sv.returns e then sv.step e else sv

theorem builtStep_framed (sv : SRSServer) (e : SRSEvent) (h : sv.Framed) :
    (sv.builtStep e).Framed := by
  rw [builtStep]
  split_ifs
  · exact step_framed sv e h
  · exact h

theorem builtStep_other {sv : SRSServer} {t : Thread} {commands : List SRSCommand}
    {next : ThreadAt} (hin : sv.place t = .holding commands next) {e : SRSEvent}
    (he : e.thread ≠ t) : (sv.builtStep e).place t = .holding commands next := by
  rw [builtStep]
  split_ifs
  · rw [step_place, if_neg (Ne.symm he), hin]
  · exact hin

theorem builtStep_own {sv : SRSServer} {e : SRSEvent} {commands : List SRSCommand}
    {next : ThreadAt} (hreturns : sv.returns e = true)
    (hin : sv.place e.thread = .holding commands next) :
    (commands = [] → (sv.builtStep e).holder = none) ∧ ∀ cmd rest, commands = cmd :: rest →
      (sv.builtStep e).place e.thread = .holding rest next := by
  rw [builtStep, if_pos hreturns, step_holder, step_place, if_pos rfl, hin]
  constructor
  · intro hdone
    rw [hdone]
    rfl
  · intro cmd rest hcmd
    rw [hcmd]
    rfl

theorem holding_releases {sv : SRSServer} (h : sv.Framed) {t : Thread}
    {commands : List SRSCommand} {next : ThreadAt} (hin : sv.place t = .holding commands next)
    {evs : List SRSEvent} (hturns : commands.length < evs.countP (·.thread = t))
    (hreturns : Transition.Along builtStep (fun sv e => e.thread = t → sv.returns e = true) sv
      evs) :
    ∃ front, front <+: evs ∧ front.countP (·.thread = t) = commands.length + 1 ∧
      (Transition.run builtStep sv front).holder = none := by
  induction evs generalizing sv commands with
  | nil => exact absurd hturns (Nat.not_lt_zero _)
  | cons e evs ih =>
    rw [Transition.along_cons] at hreturns
    have hframed := builtStep_framed sv e h
    by_cases he : e.thread = t
    · subst he
      rw [List.countP_cons_of_pos (by simp)] at hturns
      obtain ⟨hfree, hnext⟩ := builtStep_own (hreturns.1 rfl) hin
      cases commands with
      | nil =>
        refine ⟨[e], List.prefix_append [e] evs, by simp, hfree rfl⟩
      | cons cmd rest =>
        obtain ⟨front, hprefix, hcount, hnone⟩ := ih hframed (hnext cmd rest rfl)
          (Nat.lt_of_succ_lt_succ hturns) hreturns.2
        refine ⟨e :: front, List.cons_prefix_cons.mpr ⟨rfl, hprefix⟩, ?_, hnone⟩
        rw [List.countP_cons_of_pos (by simp), hcount, List.length_cons]
    · rw [List.countP_cons_of_neg (by simpa using he)] at hturns
      obtain ⟨front, hprefix, hcount, hnone⟩ := ih hframed (builtStep_other hin he) hturns
        hreturns.2
      refine ⟨e :: front, List.cons_prefix_cons.mpr ⟨rfl, hprefix⟩, ?_, hnone⟩
      rw [List.countP_cons_of_neg (by simpa using he), hcount]

/-- Whoever holds the mutex, wherever the threads are: after at most ten steps of the
holder whose replies convert, among whatever steps of the other thread, the mutex is free. -/
theorem run_releases (mem : SRSPowerSupply) (reads : List ReadResult) (before : List SRSEvent)
    (t : Thread) (hheld : (Transition.run builtStep (start mem reads) before).holder = some t)
    (evs : List SRSEvent) (hturns : 10 ≤ evs.countP (·.thread = t))
    (hreturns : Transition.Along builtStep (fun sv e => e.thread = t → sv.returns e = true)
      (Transition.run builtStep (start mem reads) before) evs) :
    ∃ front, front <+: evs ∧ front.countP (·.thread = t) ≤ 10 ∧
      (Transition.run builtStep (start mem reads) (before ++ front)).holder = none := by
  have hframed : (Transition.run builtStep (start mem reads) before).Framed :=
    Transition.run_invariant builtStep_framed (start_framed mem reads) before
  obtain ⟨sections, done, -, -, hdone⟩ := hframed.line
  rw [Unfinished, hheld] at hdone
  obtain ⟨commands, next, hin, hsection⟩ := hdone
  have hlength := hsection.length_le
  rw [List.length_append] at hlength
  obtain ⟨front, hprefix, hcount, hnone⟩ := holding_releases hframed hin
    (show commands.length < evs.countP (·.thread = t) by omega) hreturns
  refine ⟨front, hprefix, by omega, ?_⟩
  rw [Transition.run_append]
  exact hnone

theorem run_releases_sample :
    let before := schedule 2 .timer .performSweep 1 ++ schedule 2 .rpc .performSweep 1
    let evs := schedule 3 .rpc .performSweep 1 ++ schedule 10 .timer .performSweep 1
    ∃ front, front <+: evs ∧ front.countP (·.thread = .timer) ≤ 10 ∧
      (Transition.run builtStep (start default (zeros 6)) (before ++ front)).holder = none :=
  run_releases default (zeros 6) _ .timer (by decide +kernel) _ (by decide +kernel)
    (by decide +kernel)

end SRSServer
end CryoController
