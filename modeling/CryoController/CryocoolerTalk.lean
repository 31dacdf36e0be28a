import CryoController.CCDrone
import CryoController.Foundations.LineTalk

/-!
# The cryocooler programs as talk over the line

The functions of `Cryocooler.cpp` and the loop of `CCDroneStart.cpp` once more,
now as programs whose commands and reads are single steps, so that the replies
can come when they like. On the port, where each read is given its result, they
are the functions and the loop of the two modules before. A getter that returns
0 notes what it has stored.

The object is passed along without its port: the `port` of a `Cryocooler` is not
looked at here.
-/

open Numeral Conversion LineTalk
namespace CryoController

inductive Stored
  | tc (x : ℚ)
  | p (x : ℚ)
  | e (pMax pMin pSet : ℚ)
  | pid (controllerMode : ℤ)
  | sstop (isON : Bool)
  deriving DecidableEq, Repr, Inhabited

abbrev CCTalk (α : Type) := Talk CCCommand Stored α

namespace CCTalk

def construct (mem : Cryocooler) : CCTalk Cryocooler :=
  .flush <| .write .version <| .readLine fun _ => .readLine fun _ =>
    .done { mem with pAsk := 0, controllerMode := 0, hasStalled := false }

variable {α : Type}

def ask (cmd : CCCommand) (stall next : CCTalk α) : CCTalk α :=
  .write cmd <| .rReadLine fun stalled => if stalled then stall else next

def readNumber (convert : List Char → Option ℚ) (fail : CCTalk α) (next : ℚ → CCTalk α) :
    CCTalk α :=
  .readLine fun line => (convert line).elim fail next

def measure (c : Cryocooler) (cmd : CCCommand) (convert : List Char → Option ℚ)
    (record : Cryocooler → ℚ → Cryocooler) : CCTalk (ℤ × Cryocooler) :=
  ask cmd (.done (-1, { c with hasStalled := true })) <|
    readNumber convert (.done (-2, { c with hasStalled := false })) fun x =>
      .done (0, record { c with hasStalled := false } x)

def noting (stored : Cryocooler → Stored) (get : CCTalk (ℤ × Cryocooler)) :
    CCTalk (ℤ × Cryocooler) :=
  get.bind fun (status, c) =>
    if status = 0 then .note (stored c) (.done (status, c)) else .done (status, c)

def getTC (c : Cryocooler) : CCTalk (ℤ × Cryocooler) :=
  noting (fun c => .tc c.tc) <| measure c .tc stof fun c x => { c with tc := x }

def getP (c : Cryocooler) : CCTalk (ℤ × Cryocooler) :=
  noting (fun c => .p c.pCurrent) <| measure c .p stof fun c x => { c with pCurrent := x }

def getPIDState (c : Cryocooler) (undefInt : ℚ → ℤ) : CCTalk (ℤ × Cryocooler) :=
  noting (fun c => .pid c.controllerMode) <| measure c .pid stod fun c x =>
    { c with controllerMode := intOfDouble undefInt x }

def getE (c : Cryocooler) : CCTalk (ℤ × Cryocooler) :=
  noting (fun c => .e c.pMax c.pMin c.pSet) <|
    ask .e (.done (-1, { c with hasStalled := true })) <|
      let c := { c with hasStalled := false }
      readNumber stof (.done (-2, c)) fun x =>
        let c := { c with pMax := x }
        readNumber stof (.done (-2, c)) fun x =>
          let c := { c with pMin := x }
          readNumber stof (.done (-2, c)) fun x => .done (0, { c with pSet := x })

def checkIfON (c : Cryocooler) : CCTalk (ℤ × Cryocooler) :=
  noting (fun c => .sstop c.isON) <|
    ask .sstop (.done (-1, { c with hasStalled := true })) <|
      readNumber stod .crash fun x =>
        .done (0, { c with hasStalled := false, isON := decide (x = 0) })

def stops (chunk : List Char) : Option Bool :=
  if chunk.length < 9 then none
  else some (decide (chunk.drop (chunk.length - 9) = Cryocooler.complete))

def powerOnOff (c : Cryocooler) (newPowerState undefStatus : Bool) : CCTalk Cryocooler :=
  if newPowerState then
    .write (.setSSTOP false) <| .readLine fun _ =>
      readNumber stod .crash fun x => .done { c with isON := decide (x = 0) }
  else
    .write (.setSSTOP true) <| .readLine fun _ => .readLine fun _ =>
      .discard stops <| .readLine fun _ =>
        .write .sstop <| .readLine fun _ => .readLine fun line =>
          .done { c with
            isON := (stod line).elim (!undefStatus) fun (x : ℚ) => decide (x = 0) }

def adjustCryoPower (c : Cryocooler) (undefInt : ℚ → ℤ) : CCTalk Cryocooler :=
  let minP := intOfDouble undefInt c.pMin
  let maxP := intOfDouble undefInt c.pMax
  let sendCCPower := if c.newCCPower > minP then c.newCCPower else minP
  let sendCCPower := if sendCCPower > maxP then maxP else sendCCPower
  .write (.setPWOUT sendCCPower) <| .readLine fun _ => .readLine fun _ =>
    .done { c with pAsk := sendCCPower }

def setCryoMode (c : Cryocooler) (undefInt : ℚ → ℤ) : CCTalk Cryocooler :=
  (measure c (.setPID 0) stod fun c x =>
    { c with controllerMode := intOfDouble undefInt x }).bind fun (_, c) => .done c

def adjust (c : Cryocooler) (numRefreshes : ℕ) (r : Refresh) : CCTalk Cryocooler :=
  if numRefreshes % 5 = 0 then
    (adjustCryoPower c r.undefInt).bind fun c =>
      (getPIDState c r.undefInt).bind fun (_, c) => .done c
  else .done c

def sweep (d : CCDrone) (r : Refresh) : CCTalk CCDrone :=
  let (c, row) := d.cooler.updateMysql r.ccPowerState r.ccPower
  (adjust c d.numRefreshes r).bind fun c =>
    let numRefreshes := d.numRefreshes + 1
    (if c.controllerMode ≠ 0 ∧ numRefreshes % 30 = 0 then setCryoMode c r.undefInt
      else .done c).bind fun c =>
      let d := { d with numRefreshes := numRefreshes, ccState := d.ccState ++ [row] }
      if c.newCCPowerState ≠ c.isON ∧ numRefreshes % 30 = 0 then
        (powerOnOff c c.newCCPowerState r.undefStatus).bind fun c =>
          (if c.isON then adjustCryoPower c r.undefInt else .done c).bind fun c =>
            .done { d with cooler := c }
      else .done { d with cooler := c }

def poll (d : CCDrone) (r : Refresh) : CCTalk CCDrone :=
  (getTC d.cooler).bind fun (status, c) =>
    if status ≠ 0 then .done { d with status := status, cooler := c }
    else (getP c).bind fun (status, c) =>
      if status ≠ 0 then .done { d with status := status, cooler := c }
      else (getE c).bind fun (status, c) =>
        if status ≠ 0 then .done { d with status := status, cooler := c }
        else (checkIfON c).bind fun (status, c) =>
          if status ≠ 0 then .done { d with status := status, cooler := c }
          else sweep { d with status := status, cooler := c } r

def reset (d : CCDrone) (r : Refresh) : CCTalk CCDrone :=
  (construct r.mem).bind fun c => .done { d with cooler := c }

def iterate (d : CCDrone) (r : Refresh) : CCTalk CCDrone :=
  match d.branch with
  | .poll => poll d r
  | .reset => reset d r

def start (status : ℤ) (mem : Cryocooler) : CCTalk CCDrone :=
  (construct mem).bind fun c => .done ⟨0, status, c, []⟩

end CCTalk

namespace Port
variable {κ : Type}

def discard (stop : List Char → Option Bool) : ℕ → Port κ → Option (Port κ)
  | 0, _ => none
  | n + 1, p =>
    match stop p.readLineThrowR.1 with
    | none => none
    | some true => some p.readLineThrowR.2
    | some false => discard stop n p.readLineThrowR.2

/-- The program when the port has the results of its reads: a flush drops
nothing, and a loop goes on as long as there is something to read. -/
def talk {ν α : Type} : Talk κ ν α → Port κ → Option (α × Port κ)
  | .done a, p => some (a, p)
  | .crash, _ => none
  | .flush next, p => talk next p
  | .write cmd next, p => talk next (p.writeString cmd)
  | .readLine next, p => talk (next p.readLine.1) p.readLine.2
  | .rReadLine next, p => talk (next p.rReadLine.2.1) p.rReadLine.2.2
  | .discard stop next, p => (p.discard stop (p.reads.length + 1)).bind (talk next)
  | .note _ next, p => talk next p

theorem talk_bind {ν α β : Type} (t : Talk κ ν α) (f : α → Talk κ ν β) (p : Port κ) :
    talk (t.bind f) p = (talk t p).bind fun q => talk (f q.1) q.2 := by
  induction t generalizing p with
  | done a => rfl
  | crash => rfl
  | flush next ih => exact ih p
  | write cmd next ih => exact ih _
  | readLine next ih => exact ih _ _
  | rReadLine next ih => exact ih _ _
  | discard stop next ih =>
    simp only [Talk.bind, talk]
    cases p.discard stop (p.reads.length + 1) with
    | none => rfl
    | some p' => exact ih p'
  | note n next ih => exact ih p

end Port

theorem discard_stops {port : Port CCCommand} {n : ℕ} (hn : port.reads.length < n) :
    port.discard CCTalk.stops n = Cryocooler.awaitComplete port := by
  fun_induction Cryocooler.awaitComplete port generalizing n
  case case1 port line hshort =>
    obtain ⟨n, rfl⟩ := Nat.exists_eq_succ_of_ne_zero (Nat.ne_zero_of_lt hn)
    have hstops : CCTalk.stops line = none := if_pos hshort
    simp only [Port.discard, hstops, line]
  case case2 port line hshort hend =>
    obtain ⟨n, rfl⟩ := Nat.exists_eq_succ_of_ne_zero (Nat.ne_zero_of_lt hn)
    have hstops : CCTalk.stops line = some true := by
      rw [CCTalk.stops, if_neg hshort, decide_eq_true hend]
    simp only [Port.discard, hstops, line]
  case case3 port line hshort hend ih =>
    obtain ⟨n, rfl⟩ := Nat.exists_eq_succ_of_ne_zero (Nat.ne_zero_of_lt hn)
    have hstops : CCTalk.stops line = some false := by
      rw [CCTalk.stops, if_neg hshort, decide_eq_false hend]
    have hline : line ≠ [] := by
      intro hnil
      rw [hnil] at hshort
      exact hshort (by decide)
    have hlt := Port.readLineThrowR_lt hline
    simp only [Port.discard, hstops, line]
    exact ih (by omega)

namespace Cryocooler

def withPort (c : Cryocooler) (p : Port CCCommand) : Cryocooler := { c with port := p }

end Cryocooler

namespace CCTalk
variable {α β γ δ : Type}

def onPort (attach : α → Port CCCommand → β) (t : CCTalk α) (p : Port CCCommand) : Option β :=
  (p.talk t).map fun q => attach q.1 q.2

def attachStatus (q : ℤ × Cryocooler) (p : Port CCCommand) : ℤ × Cryocooler :=
  (q.1, q.2.withPort p)

def attachDrone (d : CCDrone) (p : Port CCCommand) : CCDrone :=
  { d with cooler := d.cooler.withPort p }

theorem onPort_bind (attach : α → Port CCCommand → β) {attach' : γ → Port CCCommand → δ}
    {t : CCTalk α} {f : α → CCTalk γ} (g : β → Option δ)
    (hf : ∀ a p, onPort attach' (f a) p = g (attach a p)) (p : Port CCCommand) :
    onPort attach' (t.bind f) p = (onPort attach t p).bind g := by
  rw [onPort, onPort, Port.talk_bind]
  cases p.talk t with
  | none => rfl
  | some q => exact hf q.1 q.2

theorem onPort_bind_of_some {attach : α → Port CCCommand → β} {attach' : γ → Port CCCommand → δ}
    {t : CCTalk α} {f : α → CCTalk γ} {p : Port CCCommand} {b : β} {o : Option δ}
    (ht : onPort attach t p = some b) (hf : ∀ a p, attach a p = b → onPort attach' (f a) p = o) :
    onPort attach' (t.bind f) p = o := by
  obtain ⟨q, hq, hb⟩ := Option.map_eq_some_iff.mp ht
  rw [onPort, Port.talk_bind, hq]
  exact hf q.1 q.2 hb

theorem noting_onPort (stored : Cryocooler → Stored) (get : CCTalk (ℤ × Cryocooler))
    (p : Port CCCommand) :
    onPort attachStatus (noting stored get) p = onPort attachStatus get p := by
  rw [noting, onPort_bind attachStatus some, Option.bind_fun_some]
  intro q p
  change onPort attachStatus (if q.1 = 0 then .note (stored q.2) (.done q) else .done q) p = _
  split_ifs <;> rfl

section Functions
variable (c : Cryocooler) (p : Port CCCommand)

theorem construct_onPort :
    onPort Cryocooler.withPort (construct c) p = some (Cryocooler.construct c p) := rfl

theorem measure_onPort (cmd : CCCommand) (convert : List Char → Option ℚ)
    {record : Cryocooler → ℚ → Cryocooler}
    (hrecord : ∀ c p x, (record c x).withPort p = record (c.withPort p) x) :
    onPort attachStatus (measure c cmd convert record) p =
      some ((c.withPort p).measure cmd convert record) := by
  simp only [onPort, measure, ask, readNumber, Port.talk, Cryocooler.measure, Cryocooler.writeString,
    Cryocooler.rReadLine, Cryocooler.withPort, Cryocooler.readLine]
  by_cases hstall : (p.writeString cmd).rReadLine.2.1 = true
  · simp only [hstall]
    rfl
  · simp only [Bool.eq_false_of_not_eq_true hstall, Bool.false_eq_true, if_false, Port.talk]
    generalize (p.writeString cmd).rReadLine.2.2 = port
    cases convert port.readLine.1 with
    | none => rfl
    | some x => exact congrArg (fun c => some (0, c)) (hrecord _ port.readLine.2 x)

theorem getTC_onPort : onPort attachStatus (getTC c) p = some (c.withPort p).getTC := by
  rw [getTC, noting_onPort]
  exact measure_onPort c p .tc stof fun _ _ _ => rfl

theorem getP_onPort : onPort attachStatus (getP c) p = some (c.withPort p).getP := by
  rw [getP, noting_onPort]
  exact measure_onPort c p .p stof fun _ _ _ => rfl

theorem getPIDState_onPort (undefInt : ℚ → ℤ) :
    onPort attachStatus (getPIDState c undefInt) p =
      some ((c.withPort p).getPIDState undefInt) := by
  rw [getPIDState, noting_onPort]
  exact measure_onPort c p .pid stod fun _ _ _ => rfl

theorem getE_onPort : onPort attachStatus (getE c) p = some (c.withPort p).getE := by
  rw [getE, noting_onPort]
  simp only [onPort, ask, readNumber, Port.talk, Cryocooler.getE, Cryocooler.writeString,
    Cryocooler.rReadLine, Cryocooler.withPort, Cryocooler.readLine]
  by_cases hstall : (p.writeString .e).rReadLine.2.1 = true
  · simp only [hstall]
    rfl
  · simp only [Bool.eq_false_of_not_eq_true hstall, Bool.false_eq_true, if_false, Port.talk]
    generalize (p.writeString .e).rReadLine.2.2 = port
    cases stof port.readLine.1 with
    | none => rfl
    | some x =>
      simp only [Option.elim_some, Port.talk]
      cases stof port.readLine.2.readLine.1 with
      | none => rfl
      | some y =>
        simp only [Option.elim_some, Port.talk]
        cases stof port.readLine.2.readLine.2.readLine.1 <;> rfl

theorem checkIfON_onPort : onPort attachStatus (checkIfON c) p = (c.withPort p).checkIfON := by
  rw [checkIfON, noting_onPort]
  simp only [onPort, ask, readNumber, Port.talk, Cryocooler.checkIfON, Cryocooler.writeString,
    Cryocooler.rReadLine, Cryocooler.withPort, Cryocooler.readLine]
  by_cases hstall : (p.writeString .sstop).rReadLine.2.1 = true
  · simp only [hstall]
    rfl
  · simp only [Bool.eq_false_of_not_eq_true hstall, Bool.false_eq_true, if_false, Port.talk]
    generalize (p.writeString .sstop).rReadLine.2.2 = port
    cases stod port.readLine.1 <;> rfl

theorem powerOnOff_onPort (newPowerState undefStatus : Bool) :
    onPort Cryocooler.withPort (powerOnOff c newPowerState undefStatus) p =
      (c.withPort p).powerOnOff newPowerState undefStatus := by
  cases newPowerState with
  | true =>
    simp only [onPort, powerOnOff, readNumber, if_true, Port.talk, Cryocooler.powerOnOff,
      Cryocooler.writeString, Cryocooler.withPort, Cryocooler.readLine]
    cases stod (p.writeString (.setSSTOP false)).readLine.2.readLine.1 <;> rfl
  | false =>
    simp only [onPort, powerOnOff, Bool.false_eq_true, if_false, Port.talk,
      Cryocooler.powerOnOff, Cryocooler.writeString, Cryocooler.withPort, Cryocooler.readLine,
      discard_stops (Nat.lt_succ_self _)]
    cases Cryocooler.awaitComplete
      (p.writeString (.setSSTOP true)).readLine.2.readLine.2 <;> rfl

theorem adjustCryoPower_onPort (undefInt : ℚ → ℤ) :
    onPort Cryocooler.withPort (adjustCryoPower c undefInt) p =
      some ((c.withPort p).adjustCryoPower undefInt) := rfl

theorem setCryoMode_onPort (undefInt : ℚ → ℤ) :
    onPort Cryocooler.withPort (setCryoMode c undefInt) p =
      some ((c.withPort p).setCryoMode undefInt) := by
  rw [setCryoMode, onPort_bind attachStatus (fun q => some q.2) (fun _ _ => rfl),
    measure_onPort c p (.setPID 0) stod fun _ _ _ => rfl]
  rfl

end Functions

section Loop
variable (d : CCDrone) (r : Refresh) (p : Port CCCommand)

theorem adjust_onPort (c : Cryocooler) (numRefreshes : ℕ) :
    onPort Cryocooler.withPort (adjust c numRefreshes r) p =
      some (if numRefreshes % 5 = 0 then
        (((c.withPort p).adjustCryoPower r.undefInt).getPIDState r.undefInt).2
        else c.withPort p) := by
  rw [adjust]
  split_ifs
  · rw [onPort_bind Cryocooler.withPort fun c => some (c.getPIDState r.undefInt).2,
      adjustCryoPower_onPort]
    · rfl
    · intro c p
      rw [onPort_bind attachStatus (fun q => some q.2) (fun _ _ => rfl), getPIDState_onPort]
      rfl
  · rfl

theorem correct_onPort (c : Cryocooler) (numRefreshes : ℕ) :
    onPort Cryocooler.withPort (if c.controllerMode ≠ 0 ∧ numRefreshes % 30 = 0
      then setCryoMode c r.undefInt else .done c) p =
        some (if (c.withPort p).controllerMode ≠ 0 ∧ numRefreshes % 30 = 0
          then (c.withPort p).setCryoMode r.undefInt else c.withPort p) := by
  have hmode : (c.withPort p).controllerMode = c.controllerMode := rfl
  rw [hmode]
  split_ifs
  · exact setCryoMode_onPort c p r.undefInt
  · rfl

theorem sweep_onPort : onPort attachDrone (sweep d r) p = (attachDrone d p).sweep r := by
  rw [sweep]
  simp only [CCDrone.sweep]
  have hmysql : (attachDrone d p).cooler.updateMysql r.ccPowerState r.ccPower =
      ((d.cooler.updateMysql r.ccPowerState r.ccPower).1.withPort p,
        (d.cooler.updateMysql r.ccPowerState r.ccPower).2) := rfl
  rw [hmysql]
  generalize d.cooler.updateMysql r.ccPowerState r.ccPower = read
  apply onPort_bind_of_some (adjust_onPort r p read.1 d.numRefreshes)
  intro c p' hadjust
  have hcount : (attachDrone d p).numRefreshes = d.numRefreshes := rfl
  rw [hcount, ← hadjust]
  apply onPort_bind_of_some (correct_onPort r p' c (d.numRefreshes + 1))
  intro c p'' hcorrect
  rw [← hcorrect]
  have hon : (c.withPort p'').newCCPowerState = c.newCCPowerState ∧
      (c.withPort p'').isON = c.isON := ⟨rfl, rfl⟩
  rw [hon.1, hon.2]
  by_cases hswitch : c.newCCPowerState ≠ c.isON ∧ (d.numRefreshes + 1) % 30 = 0
  · rw [if_pos hswitch, if_pos hswitch, ← powerOnOff_onPort c p'', Option.map_eq_bind]
    apply onPort_bind Cryocooler.withPort
    intro c p
    have hpower : (c.withPort p).isON = c.isON := rfl
    rw [Function.comp_apply, hpower]
    split_ifs
    · apply onPort_bind_of_some (adjustCryoPower_onPort c p r.undefInt)
      intro c p hadjusted
      rw [← hadjusted]
      rfl
    · rfl
  · rw [if_neg hswitch, if_neg hswitch]
    rfl

theorem check_onPort (p : Port CCCommand) {d : CCDrone} {next : CCTalk CCDrone}
    {o : Option CCDrone} (hnext : onPort attachDrone next p = o) :
    onPort attachDrone (if d.status ≠ 0 then .done d else next) p =
      if d.status ≠ 0 then some (attachDrone d p) else o := by
  split_ifs
  · rfl
  · exact hnext

theorem poll_onPort : onPort attachDrone (poll d r) p = (attachDrone d p).poll r := by
  rw [poll]
  apply onPort_bind_of_some (getTC_onPort d.cooler p)
  rintro ⟨status, c⟩ p hTC
  simp only [CCDrone.poll, attachDrone, ← hTC, attachStatus]
  apply check_onPort p (d := { d with status := status, cooler := c })
  apply onPort_bind_of_some (getP_onPort c p)
  rintro ⟨status, c⟩ p hP
  simp only [← hP, attachStatus]
  apply check_onPort p (d := { d with status := status, cooler := c })
  apply onPort_bind_of_some (getE_onPort c p)
  rintro ⟨status, c⟩ p hE
  simp only [← hE, attachStatus]
  apply check_onPort p (d := { d with status := status, cooler := c })
  rw [← checkIfON_onPort c p]
  apply onPort_bind attachStatus
  rintro ⟨status, c⟩ p
  apply check_onPort p (d := { d with status := status, cooler := c })
  exact sweep_onPort _ r p

/-- On a port the talk of an iteration is the iteration of the loop. -/
theorem iterate_onPort : onPort attachDrone (iterate d r) p = (attachDrone d p).iterate r := by
  have hbranch : (attachDrone d p).branch = d.branch := rfl
  rw [iterate, CCDrone.iterate, hbranch]
  cases d.branch with
  | poll => exact poll_onPort d r p
  | reset =>
    apply onPort_bind_of_some (construct_onPort r.mem p)
    intro c p' hc
    exact congrArg (fun c => some { d with cooler := c }) hc

theorem start_onPort (status : ℤ) (mem : Cryocooler) (reads : List ReadResult)
    (selects : List Bool) : onPort attachDrone (start status mem) (Port.opened reads selects) =
      some (CCDrone.start status mem reads selects) := rfl

end Loop
end CCTalk
end CryoController
