import CryoController.CoolerSweep
import CryoController.Foundations.Saturation

/-!
# The power asked of the cooler

`AdjustCryoPower` cuts both limits down to integers and saturates the request to
them. Down is the right way for the upper limit. It is not for the lower one: when
`PMin` is no integer and the request is below it, the command is below it too.
-/

open Conversion Saturation
namespace CryoController

namespace CCCommand

def power : CCCommand → Option ℤ
  | setPWOUT n => some n
  | _ => none

end CCCommand

namespace Cryocooler

def lastPower (c : Cryocooler) : Option ℤ := (c.port.sent.filterMap CCCommand.power).getLast?

def Asks (c : Cryocooler) : Prop := ∀ n ∈ c.lastPower, c.pAsk = n

def sendCCPower (c : Cryocooler) (undefInt : ℚ → ℤ) : ℤ :=
  let minP := intOfDouble undefInt c.pMin
  let maxP := intOfDouble undefInt c.pMax
  let sendCCPower := if c.newCCPower > minP then c.newCCPower else minP
  if sendCCPower > maxP then maxP else sendCCPower

structure LimitsOrdered (pMin pMax : ℚ) : Prop where
  nonneg : 0 ≤ pMin
  range : pMax ≤ 2147483647
  between : ∃ k : ℤ, pMin ≤ k ∧ k ≤ pMax

theorem sendCCPower_eq {c : Cryocooler} (h : LimitsOrdered c.pMin c.pMax) (undefInt : ℚ → ℤ) :
    c.sendCCPower undefInt = clamp ⌊c.pMin⌋ ⌊c.pMax⌋ c.newCCPower := by
  obtain ⟨k, hlo, hhi⟩ := h.between
  have hle := floor_le_floor_of_between hlo hhi
  have hmin : intOfDouble undefInt c.pMin = ⌊c.pMin⌋ :=
    intOfDouble_of_nonneg h.nonneg ((hlo.trans hhi).trans h.range) undefInt
  have hmax : intOfDouble undefInt c.pMax = ⌊c.pMax⌋ :=
    intOfDouble_of_nonneg (h.nonneg.trans (hlo.trans hhi)) h.range undefInt
  simp only [sendCCPower, hmin, hmax, clamp]
  split_ifs <;> omega

structure Within (pMin pMax : ℚ) (request n : ℤ) : Prop where
  lower : pMin ≤ n
  upper : n ≤ pMax
  request : pMin ≤ request → request ≤ pMax → n = request

theorem within_sendCCPower_iff {c : Cryocooler} (h : LimitsOrdered c.pMin c.pMax)
    (undefInt : ℚ → ℤ) :
    Within c.pMin c.pMax c.newCCPower (c.sendCCPower undefInt) ↔
      (⌊c.pMin⌋ : ℚ) = c.pMin ∨ c.pMin ≤ c.newCCPower := by
  obtain ⟨k, hlo, hhi⟩ := h.between
  rw [sendCCPower_eq h, ← le_clamp_floor_iff hlo hhi]
  constructor
  · exact Within.lower
  · intro hlower
    exact ⟨hlower, clamp_floor_le hlo hhi, clamp_floor_of_mem⟩

/-- Between the two states `AdjustCryoPower` was called on the given objects, in order,
and nothing else has sent a `SET PWOUT` or changed `PAsk`. -/
structure Issues (undefInt : ℚ → ℤ) (calls : List Cryocooler) (c c' : Cryocooler) : Prop where
  sent : ∃ cmds, c'.port.sent = c.port.sent ++ cmds ∧
    cmds.filterMap CCCommand.power = calls.map (·.sendCCPower undefInt)
  asks : c.Asks → c'.Asks

section Issues
variable {undefInt : ℚ → ℤ} {calls calls' : List Cryocooler} {c c' c'' : Cryocooler}

theorem Issues.refl (c : Cryocooler) : Issues undefInt [] c c :=
  ⟨⟨[], (List.append_nil _).symm, rfl⟩, id⟩

theorem Issues.trans (h : Issues undefInt calls c c') (h' : Issues undefInt calls' c' c'') :
    Issues undefInt (calls ++ calls') c c'' := by
  obtain ⟨cmds, hsent, hpower⟩ := h.sent
  obtain ⟨cmds', hsent', hpower'⟩ := h'.sent
  refine ⟨⟨cmds ++ cmds', ?_, ?_⟩, fun hc => h'.asks (h.asks hc)⟩
  · rw [hsent', hsent, List.append_assoc]
  · rw [List.filterMap_append, hpower, hpower', List.map_append]

theorem issues_nil {cmds : List CCCommand} (hsent : c'.port.sent = c.port.sent ++ cmds)
    (hcmds : cmds.filterMap CCCommand.power = []) (hpAsk : c'.pAsk = c.pAsk) :
    Issues undefInt [] c c' := by
  refine ⟨⟨cmds, hsent, hcmds⟩, ?_⟩
  intro hc
  rwa [Asks, lastPower, hsent, List.filterMap_append, hcmds, List.append_nil, hpAsk]

theorem adjustCryoPower_issues (c : Cryocooler) (undefInt : ℚ → ℤ) :
    Issues undefInt [c] c (c.adjustCryoPower undefInt) where
  sent := ⟨[.setPWOUT (c.sendCCPower undefInt)], rfl, rfl⟩
  asks := by
    intro _ n hn
    have hlast : (c.adjustCryoPower undefInt).lastPower = some (c.sendCCPower undefInt) := by
      have hsent : (c.adjustCryoPower undefInt).port.sent =
          c.port.sent ++ [.setPWOUT (c.sendCCPower undefInt)] := rfl
      rw [lastPower, hsent, List.filterMap_append]
      exact List.getLast?_concat
    rw [hlast] at hn
    exact congrArg (fun k : ℤ => (k : ℚ)) (Option.some.inj hn)

theorem issued_eq (h : Issues undefInt calls c c') :
    (c'.port.sent.drop c.port.sent.length).filterMap CCCommand.power =
      calls.map (·.sendCCPower undefInt) := by
  obtain ⟨cmds, hsent, hpower⟩ := h.sent
  rw [hsent, List.drop_left, hpower]

theorem measure_issues (c : Cryocooler) {cmd : CCCommand} (hcmd : cmd.power = none)
    (convert : List Char → Option ℚ) {record : Cryocooler → ℚ → Cryocooler}
    (hport : ∀ c x, (record c x).port = c.port) (hpAsk : ∀ c x, (record c x).pAsk = c.pAsk) :
    Issues undefInt [] c (c.measure cmd convert record).2 := by
  apply issues_nil (c.measure_sent cmd convert hport)
  · rw [List.filterMap_cons_none hcmd, List.filterMap_nil]
  · exact measure_keeps (f := (·.pAsk)) (fun _ _ _ => rfl) hpAsk c cmd convert

theorem getE_issues (c : Cryocooler) : Issues undefInt [] c c.getE.2 := by
  apply issues_nil c.getE_sent rfl
  simp only [getE]
  split_ifs
  · rfl
  · repeat' split
    all_goals rfl

theorem checkIfON_issues {status : ℤ} (h : c.checkIfON = some (status, c')) :
    Issues undefInt [] c c' := by
  apply issues_nil (checkIfON_sent h) rfl
  simp only [checkIfON] at h
  split_ifs at h
  · cases h
    rfl
  · obtain ⟨x, -, hx⟩ := Option.map_eq_some_iff.mp h
    cases hx
    rfl

theorem powerOnOff_issues {on undefStatus : Bool} (h : c.powerOnOff on undefStatus = some c') :
    Issues undefInt [] c c' := by
  apply issues_nil (powerOnOff_sent h)
  · cases on with
    | true => rfl
    | false => rfl
  · cases on with
    | true =>
      obtain ⟨x, -, rfl⟩ := Option.map_eq_some_iff.mp h
      rfl
    | false =>
      obtain ⟨port, -, rfl⟩ := Option.map_eq_some_iff.mp h
      rfl

end Issues

theorem powerOnOff_keeps {α : Type} {f : Cryocooler → α}
    (hport : ∀ c port, f { c with port := port } = f c)
    (hisON : ∀ c on, f { c with isON := on } = f c) {c c' : Cryocooler} {on undefStatus : Bool}
    (h : c.powerOnOff on undefStatus = some c') : f c' = f c := by
  cases on with
  | true =>
    obtain ⟨x, -, rfl⟩ := Option.map_eq_some_iff.mp h
    exact (hisON _ _).trans (hport c _)
  | false =>
    obtain ⟨port, -, rfl⟩ := Option.map_eq_some_iff.mp h
    exact (hisON _ _).trans (hport c _)

end Cryocooler

namespace CCDrone
open Cryocooler

def periodic (m : CCDrone) (r : Refresh) : List Cryocooler :=
  if m.AdjustsPower then [m.rowRead r] else []

def switchedOn (m : CCDrone) (r : Refresh) : List Cryocooler :=
  if m.Switches r then
    match (m.modeSet r).powerOnOff (m.modeSet r).newCCPowerState r.undefStatus with
    | some c => if c.isON then [c] else []
    | none => []
  else []

def adjusted (m : CCDrone) (r : Refresh) : List Cryocooler := m.periodic r ++ m.switchedOn r

def swept (m : CCDrone) (r : Refresh) : Cryocooler :=
  (m.sweep r).elim (m.modeSet r) (·.cooler)

/-- The object at the end of an iteration, or before the call whose exception ends it:
neither of the calls that can throw sends a `SET PWOUT`. -/
def reached (d : CCDrone) (r : Refresh) : Cryocooler :=
  match d.measured with
  | some m => m.swept r
  | none => (d.iterate r).elim d.cooler (·.cooler)

def issued (d : CCDrone) (r : Refresh) : List ℤ :=
  ((d.reached r).port.sent.drop d.cooler.port.sent.length).filterMap CCCommand.power

section Iteration
variable {undefInt : ℚ → ℤ} {d : CCDrone}

theorem query_issues {q : Queried} (h : d.query = some q) :
    Issues undefInt [] d.cooler q.drone.cooler := by
  have htc : Issues undefInt [] d.cooler d.cooler.getTC.2 :=
    measure_issues _ rfl Numeral.stof (fun _ _ => rfl) fun _ _ => rfl
  have hp : Issues undefInt [] d.cooler d.cooler.getTC.2.getP.2 :=
    htc.trans (measure_issues _ rfl Numeral.stof (fun _ _ => rfl) fun _ _ => rfl)
  have he : Issues undefInt [] d.cooler d.cooler.getTC.2.getP.2.getE.2 :=
    hp.trans (getE_issues _)
  simp only [query] at h
  split_ifs at h
  · cases h
    exact htc
  · cases h
    exact hp
  · cases h
    exact he
  · obtain ⟨⟨status, c⟩, hcheck, hq⟩ := Option.map_eq_some_iff.mp h
    have hc : Issues undefInt [] d.cooler c := he.trans (checkIfON_issues hcheck)
    subst hq
    simp only
    split_ifs
    · exact hc
    · exact hc

variable (m : CCDrone) (r : Refresh)

theorem powerAdjusted_issues :
    Issues r.undefInt (m.periodic r) m.cooler (m.powerAdjusted r) := by
  have hread : Issues r.undefInt [] m.cooler (m.rowRead r) :=
    issues_nil (List.append_nil _).symm rfl rfl
  rw [powerAdjusted, periodic]
  split_ifs
  · exact (hread.trans ((m.rowRead r).adjustCryoPower_issues r.undefInt)).trans
      (measure_issues _ rfl Numeral.stod (fun _ _ => rfl) fun _ _ => rfl)
  · exact hread

theorem modeSet_issues : Issues r.undefInt (m.periodic r) m.cooler (m.modeSet r) := by
  have hadjusted := m.powerAdjusted_issues r
  rw [modeSet]
  split_ifs
  · rw [← List.append_nil (m.periodic r)]
    exact hadjusted.trans (measure_issues _ rfl Numeral.stod (fun _ _ => rfl) fun _ _ => rfl)
  · exact hadjusted

theorem swept_issues : Issues r.undefInt (m.adjusted r) m.cooler (m.swept r) := by
  have hmode := m.modeSet_issues r
  rw [adjusted, switchedOn, swept, sweep_eq]
  by_cases hswitch : m.Switches r
  · rw [if_pos hswitch, if_pos hswitch]
    cases hpower : (m.modeSet r).powerOnOff (m.modeSet r).newCCPowerState r.undefStatus with
    | none => exact hmode.trans (Issues.refl _)
    | some c =>
      have hc : Issues r.undefInt [] (m.modeSet r) c := powerOnOff_issues hpower
      simp only [Option.map_some, Option.elim_some]
      split_ifs
      · exact hmode.trans (hc.trans (c.adjustCryoPower_issues r.undefInt))
      · exact hmode.trans hc
  · rw [if_neg hswitch, if_neg hswitch]
    exact hmode.trans (Issues.refl _)

theorem powerOnOff_modeSet_keeps {α : Type} {f : Cryocooler → α}
    (hline : ∀ c port stalled, f { c with port := port, hasStalled := stalled } = f c)
    (hasked : ∀ c power, f { c with pAsk := power } = f c)
    (hmode : ∀ c mode, f { c with controllerMode := mode } = f c)
    (hisON : ∀ c on, f { c with isON := on } = f c) {c : Cryocooler}
    (h : (m.modeSet r).powerOnOff (m.modeSet r).newCCPowerState r.undefStatus = some c) :
    f c = f (m.rowRead r) :=
  (powerOnOff_keeps (fun c port => hline c port c.hasStalled) hisON h).trans
    (m.modeSet_keeps r hline hasked hmode)

theorem adjusted_targets {c : Cryocooler} (h : c ∈ m.adjusted r) :
    (c.pMin, c.pMax, c.newCCPower) = (m.cooler.pMin, m.cooler.pMax, r.ccPower) := by
  rw [adjusted, List.mem_append] at h
  rcases h with h | h
  · rw [periodic] at h
    split_ifs at h
    · rw [List.mem_singleton.mp h]
      rfl
    · cases h
  · rw [switchedOn] at h
    split_ifs at h
    · split at h
      · rename_i c' hpower
        split_ifs at h
        · rw [List.mem_singleton.mp h]
          exact m.powerOnOff_modeSet_keeps r (f := fun c => (c.pMin, c.pMax, c.newCCPower))
            (fun _ _ _ => rfl) (fun _ _ => rfl) (fun _ _ => rfl) (fun _ _ => rfl) hpower
        · cases h
      · cases h
    · cases h

theorem within_adjusted_iff {c : Cryocooler} (hc : c ∈ m.adjusted r)
    (hordered : LimitsOrdered m.cooler.pMin m.cooler.pMax) :
    Within m.cooler.pMin m.cooler.pMax r.ccPower (c.sendCCPower r.undefInt) ↔
      (⌊m.cooler.pMin⌋ : ℚ) = m.cooler.pMin ∨ m.cooler.pMin ≤ r.ccPower := by
  have htargets := m.adjusted_targets r hc
  simp only [Prod.mk.injEq] at htargets
  obtain ⟨hmin, hmax, hrequest⟩ := htargets
  have hwithin := within_sendCCPower_iff (c := c) (by rwa [hmin, hmax]) r.undefInt
  rwa [hmin, hmax, hrequest] at hwithin

theorem swept_limits : ((m.swept r).pMin, (m.swept r).pMax) = (m.cooler.pMin, m.cooler.pMax) := by
  have hmode : ((m.modeSet r).pMin, (m.modeSet r).pMax) = (m.cooler.pMin, m.cooler.pMax) :=
    m.modeSet_keeps r (f := fun c => (c.pMin, c.pMax)) (fun _ _ _ => rfl) (fun _ _ => rfl)
      fun _ _ => rfl
  rw [swept, sweep_eq]
  split_ifs
  · cases hpower : (m.modeSet r).powerOnOff (m.modeSet r).newCCPowerState r.undefStatus with
    | none => exact hmode
    | some c =>
      have hc := m.powerOnOff_modeSet_keeps r (f := fun c => (c.pMin, c.pMax))
        (fun _ _ _ => rfl) (fun _ _ => rfl) (fun _ _ => rfl) (fun _ _ => rfl) hpower
      simp only [Option.map_some, Option.elim_some]
      split_ifs
      · exact hc
      · exact hc
  · exact hmode

end Iteration

section Run
variable {d : CCDrone} {r : Refresh}

theorem reached_issues (hbranch : d.branch = .poll) (r : Refresh) :
    Issues r.undefInt (d.measured.elim [] (·.adjusted r)) d.cooler (d.reached r) := by
  rw [reached]
  cases hm : d.measured with
  | some m =>
    exact (query_issues (measured_eq_some.mp hm).2).trans (m.swept_issues r)
  | none =>
    cases hnext : d.iterate r with
    | none => exact Issues.refl _
    | some d' =>
      rw [iterate, hbranch] at hnext
      change d.poll r = some d' at hnext
      rw [poll_eq, Option.bind_eq_some_iff] at hnext
      obtain ⟨q, hquery, hq⟩ := hnext
      cases q with
      | abandoned dq =>
        cases hq
        exact query_issues hquery
      | measured m =>
        rw [measured, hbranch, hquery] at hm
        cases hm

theorem reached_of_reset (hbranch : d.branch = .reset) (r : Refresh) :
    d.reached r = construct r.mem d.cooler.port := by
  have hnone : d.measured = none := by rw [measured, hbranch]
  rw [reached, hnone, iterate, hbranch]
  rfl

theorem issued_eq_map (d : CCDrone) (r : Refresh) :
    d.issued r = (d.measured.elim [] (·.adjusted r)).map (·.sendCCPower r.undefInt) := by
  cases hbranch : d.branch with
  | poll => exact issued_eq (reached_issues hbranch r)
  | reset =>
    have hnone : d.measured = none := by rw [measured, hbranch]
    rw [issued, reached_of_reset hbranch, construct_sent, List.drop_left, hnone]
    rfl

theorem reached_of_iterate {d' : CCDrone} (h : d.iterate r = some d') :
    d.reached r = d'.cooler := by
  rw [reached]
  cases hm : d.measured with
  | none => rw [h, Option.elim_some]
  | some m =>
    rw [iterate_of_measured hm] at h
    change (m.sweep r).elim (m.modeSet r) (·.cooler) = d'.cooler
    rw [h, Option.elim_some]

structure Respects (d : CCDrone) (r : Refresh) : Prop where
  within : LimitsOrdered (d.reached r).pMin (d.reached r).pMax → ∀ n ∈ d.issued r,
    Within (d.reached r).pMin (d.reached r).pMax r.ccPower n
  asks : (d.reached r).Asks

def LowerLimitMet (d : CCDrone) (r : Refresh) : Prop :=
  ∀ m, d.measured = some m → m.adjusted r ≠ [] →
    LimitsOrdered m.cooler.pMin m.cooler.pMax →
      (⌊m.cooler.pMin⌋ : ℚ) = m.cooler.pMin ∨ m.cooler.pMin ≤ r.ccPower

/-- A reset comes before the first power, or after a power of zero. -/
def ResetUnasked (d : CCDrone) : Prop := d.branch = .reset → ∀ n ∈ d.cooler.lastPower, n = 0

theorem asks_reached_iff (h : d.cooler.Asks) (r : Refresh) :
    (d.reached r).Asks ↔ d.ResetUnasked := by
  rw [ResetUnasked]
  cases hbranch : d.branch with
  | poll => exact iff_of_true ((reached_issues hbranch r).asks h) (fun hreset => by cases hreset)
  | reset =>
    have hlast : (construct r.mem d.cooler.port).lastPower = d.cooler.lastPower := by
      rw [lastPower, construct_sent, List.filterMap_append]
      exact congrArg List.getLast? (List.append_nil _)
    have hzero (n : ℤ) : (construct r.mem d.cooler.port).pAsk = n ↔ n = 0 := by
      change (0 : ℚ) = n ↔ n = 0
      rw [eq_comm, Int.cast_eq_zero]
    rw [reached_of_reset hbranch, Asks, hlast]
    simp only [hzero, forall_const]

theorem within_iff (d : CCDrone) (r : Refresh) :
    (LimitsOrdered (d.reached r).pMin (d.reached r).pMax → ∀ n ∈ d.issued r,
      Within (d.reached r).pMin (d.reached r).pMax r.ccPower n) ↔ d.LowerLimitMet r := by
  have hissued := d.issued_eq_map r
  cases hm : d.measured with
  | none =>
    rw [hm] at hissued
    refine iff_of_true (fun _ n hn => ?_) ?_
    · rw [hissued] at hn
      cases hn
    · intro m hsome
      rw [hm] at hsome
      cases hsome
  | some m =>
    rw [hm, Option.elim_some] at hissued
    have hreached : d.reached r = m.swept r := by rw [reached, hm]
    have hlimits := m.swept_limits r
    rw [← hreached, Prod.mk.injEq] at hlimits
    rw [hlimits.1, hlimits.2, hissued]
    constructor
    · intro hwithin m' hm' hadjusted hordered
      cases hm.symm.trans hm'
      obtain ⟨c, hc⟩ := List.exists_mem_of_ne_nil _ hadjusted
      exact (m.within_adjusted_iff r hc hordered).mp (hwithin hordered _ (List.mem_map_of_mem hc))
    · intro hmet hordered n hn
      obtain ⟨c, hc, rfl⟩ := List.mem_map.mp hn
      exact (m.within_adjusted_iff r hc hordered).mpr (hmet m hm (List.ne_nil_of_mem hc) hordered)

theorem respects_iff (h : d.cooler.Asks) (r : Refresh) :
    d.Respects r ↔ d.LowerLimitMet r ∧ d.ResetUnasked := by
  rw [← d.within_iff r, ← asks_reached_iff h r]
  exact ⟨fun hrespects => ⟨hrespects.within, hrespects.asks⟩, fun hboth => ⟨hboth.1, hboth.2⟩⟩

theorem run_respects_iff (status : ℤ) (mem : Cryocooler) (reads : List ReadResult)
    (selects : List Bool) (rs : List Refresh) :
    (∀ e ∈ (start status mem reads selects).iterations rs, e.1.Respects e.2) ↔
      ∀ e ∈ (start status mem reads selects).iterations rs,
        e.1.LowerLimitMet e.2 ∧ e.1.ResetUnasked := by
  have hstart : (start status mem reads selects).cooler.Asks := fun n hn => by cases hn
  refine iterations_congr (P := Respects) (Q := fun d r => d.LowerLimitMet r ∧ d.ResetUnasked)
    (fun d r hd => respects_iff hd r) ?_ hstart rs
  intro d d' r hnext hrespects
  exact reached_of_iterate hnext ▸ hrespects.asks

end Run

/-- A controller whose lower limit is 70.5 is asked for 60, and 70 is sent. -/
theorem not_run_respects :
    ¬ ∀ (status : ℤ) (mem : Cryocooler) (reads : List ReadResult) (selects : List Bool)
      (rs : List Refresh), ∀ e ∈ (start status mem reads selects).iterations rs,
        e.1.Respects e.2 := by
  intro h
  let r : Refresh := ⟨1, 60, default, fun _ => 0, false⟩
  let reads : List ReadResult :=
    ['V', '\n', 'V', '\n', 'T', '\n', '1', '\n', 'P', '\n', '1', '\n', 'E', '\n', '1', '0', '0',
      '\n', '7', '0', '.', '5', '\n', '8', '0', '\n', 'S', '\n', '0', '\n'].map .byte
  let d := start 0 default reads [true, true, true, true]
  have hfirst : (d, r) ∈ d.iterations [r] := List.mem_cons_self
  have hasks : d.cooler.Asks := fun n hn => by cases hn
  have hmet := ((respects_iff hasks r).mp (h _ _ _ _ [r] (d, r) hfirst)).1
  have hpoll : d.measured.map (fun m => (m.numRefreshes, m.cooler.pMin, m.cooler.pMax)) =
      some (0, 141 / 2, 100) := by decide +kernel
  obtain ⟨m, hm, hstate⟩ := Option.map_eq_some_iff.mp hpoll
  simp only [Prod.mk.injEq] at hstate
  obtain ⟨hcount, hmin, hmax⟩ := hstate
  have hadjusted : m.adjusted r ≠ [] := by
    rw [adjusted, periodic, if_pos (by rw [AdjustsPower, hcount])]
    exact List.cons_ne_nil _ _
  have hordered : LimitsOrdered m.cooler.pMin m.cooler.pMax := by
    rw [hmin, hmax]
    exact ⟨by norm_num, by norm_num, 80, by norm_num, by norm_num⟩
  have hlower := hmet m hm hadjusted hordered
  rw [hmin] at hlower
  revert hlower
  decide +kernel

end CCDrone

end CryoController
