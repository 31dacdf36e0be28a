import CryoController.CryocoolerTalk
import CryoController.LineReaders

/-!
# Whose answer a getter has stored

The controller answers a command with an echo line and as many answer lines as
the program reads for it; a switch-off is answered by lines up to one that ends
in `COMPLETE.`. Replies are matched to commands by their place in the stream
alone. A poll that has stalled is never followed by another one, but the loop
does not look at the status of `GetPIDState` and `SetCryoMode`, so a stall there
leaves a reply on the line for the next getter.
-/

open Numeral Conversion LineTalk
namespace CryoController

def CCCommand.answerLines : CCCommand → ℕ
  | .e => 3
  | _ => 1

def bytes (lines : List (List Char)) : List Char := lines.flatMap (· ++ ['\n'])

/-- A line, and then lines ended by a carriage return and a newline of which the
last alone may be taken for the one that ends in `COMPLETE.`. -/
def SwitchOff (lines : List (List Char)) : Prop :=
  ∃ status progress last, lines = status :: (progress ++ [last]).map (· ++ ['\r']) ∧
    (∀ l ∈ progress ++ [last], '\r' ∉ l) ∧
      ∀ l ∈ progress, ∀ lead ∈ [[], ['\n']], CCTalk.stops (returnText (lead ++ l)) ≠ some true

structure Controller where
  echo : List CCCommand → CCCommand → List Char
  answers : List CCCommand → CCCommand → List (List Char)
  echo_ne : ∀ before cmd, echo before cmd ≠ []
  echo_line : ∀ before cmd, '\n' ∉ echo before cmd
  answers_line : ∀ before cmd, ∀ a ∈ answers before cmd, '\n' ∉ a
  answers_length : ∀ before cmd, cmd ≠ .setSSTOP true →
    (answers before cmd).length = cmd.answerLines
  answers_switchOff : ∀ before, SwitchOff (answers before (.setSSTOP true))

def Controller.line (k : Controller) : Line CCCommand where
  reply before cmd := bytes (k.echo before cmd :: k.answers before cmd)
  text := lineText
  textReturn := returnText

def Stored.IsAnswer (k : Controller) : List CCCommand → Stored → Prop
  | .tc :: before, .tc x => (k.answers before .tc).map (stof ∘ lineText) = [some x]
  | .p :: before, .p x => (k.answers before .p).map (stof ∘ lineText) = [some x]
  | .e :: before, .e pMax pMin pSet =>
    (k.answers before .e).map (stof ∘ lineText) = [some pMax, some pMin, some pSet]
  | .pid :: before, .pid controllerMode =>
    ∃ x undefInt, (k.answers before .pid).map (stod ∘ lineText) = [some x] ∧
      controllerMode = intOfDouble undefInt x
  | .sstop :: before, .sstop isON =>
    ∃ x, (k.answers before .sstop).map (stod ∘ lineText) = [some x] ∧ isON = decide (x = 0)
  | _, _ => False

def StatusRead (written : List CCCommand) : Prop :=
  ∀ cmd ∈ written.head?, cmd ≠ .pid ∧ ∀ mode, cmd ≠ .setPID mode

namespace CCTalk
section Safe
variable (k : Controller)

abbrev SafeTalk {α : Type} (post : α → List CCCommand → List Char → Prop) (t : CCTalk α)
    (written : List CCCommand) (unread : List Char) : Prop :=
  Safe k.line StatusRead (Stored.IsAnswer k) post t written unread

variable {k} {α : Type} {post : α → List CCCommand → List Char → Prop}
  {written : List CCCommand} {cmd : CCCommand} {c : Cryocooler}

theorem reply_eq (k : Controller) (written : List CCCommand) (cmd : CCCommand) :
    k.line.reply written cmd =
      k.echo written cmd ++ '\n' :: bytes (k.answers written cmd) := by
  simp [Controller.line, bytes]

theorem bytes_cons (line : List Char) (lines : List (List Char)) :
    bytes (line :: lines) = line ++ '\n' :: bytes lines := by
  simp [bytes]

theorem exists_answer (k : Controller) (written : List CCCommand) {cmd : CCCommand}
    (hone : cmd.answerLines = 1) (hcmd : cmd ≠ .setSSTOP true) :
    ∃ a, k.answers written cmd = [a] ∧ '\n' ∉ a := by
  have hlength := k.answers_length written cmd hcmd
  rw [hone] at hlength
  obtain ⟨a, ha⟩ := List.length_eq_one_iff.mp hlength
  exact ⟨a, ha, k.answers_line written cmd a (ha ▸ List.mem_singleton_self a)⟩

theorem query_safe (hone : cmd.answerLines = 1) (hcmd : cmd ≠ .setSSTOP true)
    {next : List Char → List Char → CCTalk α}
    (h : ∀ echo a, k.answers written cmd = [a] →
      SafeTalk k post (next echo (lineText a)) (cmd :: written) []) :
    SafeTalk k post (.write cmd <| .readLine fun echo => .readLine (next echo)) written [] := by
  obtain ⟨a, ha, hline⟩ := exists_answer k written hone hcmd
  rw [SafeTalk, Safe, List.nil_append, reply_eq, ha]
  apply safe_readLine (k.echo_line written cmd)
  rw [bytes_cons]
  apply safe_readLine hline
  exact h _ a ha

theorem ask_safe {stall next : CCTalk α}
    (hstall : StatusRead (cmd :: written) → ∀ unread,
      SafeTalk k post stall (cmd :: written) unread)
    (h : SafeTalk k post next (cmd :: written) (bytes (k.answers written cmd))) :
    SafeTalk k post (ask cmd stall next) written [] := by
  rw [SafeTalk, ask, Safe, List.nil_append, reply_eq]
  exact safe_rReadLine (k.echo_ne written cmd) (k.echo_line written cmd)
    (fun hread => hstall hread _) h

theorem readNumber_safe {convert : List Char → Option ℚ} {fail : CCTalk α}
    {next : ℚ → CCTalk α} {line : List Char} {lines : List (List Char)} (hline : '\n' ∉ line)
    (hfail : SafeTalk k post fail written (bytes lines))
    (h : ∀ x, convert (lineText line) = some x →
      SafeTalk k post (next x) written (bytes lines)) :
    SafeTalk k post (readNumber convert fail next) written (bytes (line :: lines)) := by
  rw [bytes_cons]
  apply safe_readLine hline
  change SafeTalk k post ((convert (lineText line)).elim fail next) written _
  cases hx : convert (lineText line) with
  | none => exact hfail
  | some x => exact h x hx

theorem measure_safe (hone : cmd.answerLines = 1) (hcmd : cmd ≠ .setSSTOP true)
    {convert : List Char → Option ℚ} {record : Cryocooler → ℚ → Cryocooler}
    {post : ℤ × Cryocooler → List CCCommand → List Char → Prop}
    (hstall : StatusRead (cmd :: written) → ∀ c unread, post (-1, c) (cmd :: written) unread)
    (hfail : ∀ c, post (-2, c) (cmd :: written) [])
    (h : ∀ a x, k.answers written cmd = [a] → convert (lineText a) = some x →
      post (0, record { c with hasStalled := false } x) (cmd :: written) []) :
    SafeTalk k post (measure c cmd convert record) written [] := by
  apply ask_safe
  · exact fun hread unread => hstall hread _ unread
  · obtain ⟨a, ha, hline⟩ := exists_answer k written hone hcmd
    rw [ha]
    exact readNumber_safe hline (hfail _) fun x hx => h a x ha hx

theorem noting_safe {stored : Cryocooler → Stored} {get : CCTalk (ℤ × Cryocooler)}
    {unread : List Char} {post : ℤ × Cryocooler → List CCCommand → List Char → Prop}
    (h : SafeTalk k (fun q written unread =>
      (q.1 = 0 → (stored q.2).IsAnswer k written) ∧ post q written unread) get written unread) :
    SafeTalk k post (noting stored get) written unread := by
  apply safe_bind.mpr
  apply Safe.mono _ h
  rintro ⟨status, c⟩ written unread ⟨hanswer, hpost⟩
  change SafeTalk k post (if status = 0 then .note (stored c) (.done (status, c))
    else .done (status, c)) written unread
  by_cases hstatus : status = 0
  · rw [if_pos hstatus]
    exact ⟨hanswer hstatus, hpost⟩
  · rw [if_neg hstatus]
    exact hpost

section Polled
variable {post : ℤ × Cryocooler → List CCCommand → List Char → Prop}
  (hpost : ∀ q written unread, (q.1 = 0 → unread = []) → post q written unread)
include hpost

theorem measured_safe (hone : cmd.answerLines = 1) (hcmd : cmd ≠ .setSSTOP true)
    {convert : List Char → Option ℚ} {record : Cryocooler → ℚ → Cryocooler}
    {stored : Cryocooler → Stored}
    (hanswer : ∀ c a x, k.answers written cmd = [a] → convert (lineText a) = some x →
      (stored (record c x)).IsAnswer k (cmd :: written)) :
    SafeTalk k post (noting stored (measure c cmd convert record)) written [] := by
  apply noting_safe
  apply measure_safe hone hcmd
  · exact fun _ _ _ => ⟨by simp, hpost _ _ _ (by simp)⟩
  · exact fun _ => ⟨by simp, hpost _ _ _ (by simp)⟩
  · exact fun a x ha hx => ⟨fun _ => hanswer _ a x ha hx, hpost _ _ _ fun _ => rfl⟩

theorem getTC_safe : SafeTalk k post (getTC c) written [] := by
  apply measured_safe hpost rfl (by simp)
  intro c a x ha hx
  simp only [Stored.IsAnswer, ha, List.map_singleton, Function.comp_apply, hx]

theorem getP_safe : SafeTalk k post (getP c) written [] := by
  apply measured_safe hpost rfl (by simp)
  intro c a x ha hx
  simp only [Stored.IsAnswer, ha, List.map_singleton, Function.comp_apply, hx]

theorem getE_safe : SafeTalk k post (getE c) written [] := by
  apply noting_safe
  apply ask_safe
  · exact fun _ _ => ⟨by simp, hpost _ _ _ (by simp)⟩
  · obtain ⟨a₁, a₂, a₃, ha⟩ :=
      List.length_eq_three.mp (k.answers_length written .e (by simp))
    have hline := k.answers_line written .e
    rw [ha] at hline
    have hfail (c : Cryocooler) (lines : List (List Char)) :
        SafeTalk k (fun q written unread =>
          (q.1 = 0 → (Stored.e q.2.pMax q.2.pMin q.2.pSet).IsAnswer k written) ∧
            post q written unread) (.done (-2, c)) (.e :: written) (bytes lines) :=
      ⟨by simp, hpost _ _ _ (by simp)⟩
    rw [ha]
    refine readNumber_safe (hline a₁ (by simp)) (hfail _ _) fun x hx => ?_
    refine readNumber_safe (hline a₂ (by simp)) (hfail _ _) fun y hy => ?_
    refine readNumber_safe (hline a₃ (by simp)) (hfail _ _) fun z hz => ?_
    refine ⟨fun _ => ?_, hpost _ _ _ fun _ => rfl⟩
    simp only [Stored.IsAnswer, ha, List.map_cons, List.map_nil, Function.comp_apply, hx, hy, hz]

theorem checkIfON_safe : SafeTalk k post (checkIfON c) written [] := by
  apply noting_safe
  apply ask_safe
  · exact fun _ _ => ⟨by simp, hpost _ _ _ (by simp)⟩
  · obtain ⟨a, ha, hline⟩ := exists_answer k written (show CCCommand.sstop.answerLines = 1 from rfl) (by simp)
    rw [ha]
    refine readNumber_safe hline trivial fun x hx => ?_
    refine ⟨fun _ => ⟨x, ?_, rfl⟩, hpost _ _ _ fun _ => rfl⟩
    simp only [ha, List.map_singleton, Function.comp_apply, hx]

end Polled

theorem notMem_lead {lead l : List Char} (hlead : lead ∈ [[], ['\n']]) (hl : '\r' ∉ l) :
    '\r' ∉ lead ++ l := by
  have hno : '\r' ∉ lead := by
    rcases List.mem_pair.mp hlead with rfl | rfl <;> decide
  exact fun hmem => (List.mem_append.mp hmem).elim hno hl

theorem rest_of_discards {progress : List (List Char)} {last lead rest : List Char}
    (hreturn : ∀ l ∈ progress ++ [last], '\r' ∉ l) (hlead : lead ∈ [[], ['\n']])
    (hprogress : ∀ l ∈ progress, ∀ lead ∈ [[], ['\n']],
      stops (returnText (lead ++ l)) ≠ some true)
    (h : Discards returnText stops (lead ++ bytes ((progress ++ [last]).map (· ++ ['\r']))) rest) :
    rest = ['\n'] := by
  induction progress generalizing lead with
  | nil =>
    have hbytes : lead ++ bytes (([] ++ [last]).map (· ++ ['\r'])) =
        (lead ++ last) ++ '\r' :: ['\n'] := by
      simp [bytes]
    rw [hbytes, discards_iff (notMem_lead hlead (hreturn last (by simp)))] at h
    rcases h with ⟨-, hrest⟩ | ⟨-, hmore⟩
    · exact hrest
    · exact absurd hmore (not_discards (by decide))
  | cons l progress ih =>
    have hbytes : lead ++ bytes ((l :: progress ++ [last]).map (· ++ ['\r'])) =
        (lead ++ l) ++ '\r' :: (['\n'] ++ bytes ((progress ++ [last]).map (· ++ ['\r']))) := by
      simp [bytes]
    rw [hbytes, discards_iff (notMem_lead hlead (hreturn l (by simp)))] at h
    rcases h with ⟨hstop, -⟩ | ⟨-, hmore⟩
    · exact absurd hstop (hprogress l List.mem_cons_self lead hlead)
    · exact ih (fun l hl => hreturn l (List.mem_cons_of_mem _ hl)) (by simp)
        (fun l hl => hprogress l (List.mem_cons_of_mem _ hl)) hmore

section Unpolled
variable {post : Cryocooler → List CCCommand → List Char → Prop}
  (hpost : ∀ c written, post c written [])
include hpost

theorem adjustCryoPower_safe (undefInt : ℚ → ℤ) :
    SafeTalk k post (adjustCryoPower c undefInt) written [] :=
  query_safe rfl (by simp) fun _ _ _ => hpost _ _

theorem setCryoMode_safe (undefInt : ℚ → ℤ) :
    SafeTalk k post (setCryoMode c undefInt) written [] := by
  apply safe_bind.mpr
  apply measure_safe rfl (by simp)
  · exact fun hread => absurd rfl ((hread _ rfl).2 0)
  · exact fun _ => hpost _ _
  · exact fun _ _ _ _ => hpost _ _

theorem getPIDState_safe (undefInt : ℚ → ℤ) : SafeTalk k post
    ((getPIDState c undefInt).bind fun (_, c) => .done c) written [] := by
  apply safe_bind.mpr
  apply noting_safe
  apply measure_safe rfl (by simp)
  · exact fun hread => absurd rfl (hread _ rfl).1
  · exact fun _ => ⟨by simp, hpost _ _⟩
  · intro a x ha hx
    refine ⟨fun _ => ⟨x, undefInt, ?_, rfl⟩, hpost _ _⟩
    rw [ha, List.map_singleton, Function.comp_apply, hx]

theorem adjust_safe (numRefreshes : ℕ) (r : Refresh) :
    SafeTalk k post (adjust c numRefreshes r) written [] := by
  rw [adjust]
  split_ifs
  · apply safe_bind.mpr
    exact adjustCryoPower_safe (fun _ _ => getPIDState_safe hpost _) _
  · exact hpost _ _

theorem powerOnOff_safe (newPowerState undefStatus : Bool) :
    SafeTalk k post (powerOnOff c newPowerState undefStatus) written [] := by
  cases newPowerState with
  | true =>
    apply query_safe (show (CCCommand.setSSTOP false).answerLines = 1 from rfl) (by simp)
    intro _ a _
    change SafeTalk k post ((stod (lineText a)).elim .crash fun x =>
      .done { c with isON := decide (x = 0) }) _ _
    cases stod (lineText a) with
    | none => trivial
    | some x => exact hpost _ _
  | false =>
    obtain ⟨status, progress, last, hlines, hreturn, hprogress⟩ := k.answers_switchOff written
    have hstatus : '\n' ∉ status := k.answers_line written _ status (by rw [hlines]; simp)
    change Safe _ _ _ _ _ _ ([] ++ k.line.reply written (.setSSTOP true))
    rw [List.nil_append, reply_eq, hlines]
    apply safe_readLine (k.echo_line written _)
    rw [bytes_cons]
    apply safe_readLine hstatus
    intro rest hdiscards
    rw [rest_of_discards hreturn (show [] ∈ [[], ['\n']] by simp) hprogress hdiscards]
    change Safe _ _ _ _ _ _ ([] ++ '\n' :: [])
    apply safe_readLine List.not_mem_nil
    exact query_safe rfl (by simp) fun _ _ _ => hpost _ _

end Unpolled

/-- As long as the loop polls, everything sent by the controller has been read. -/
def InStep (d : CCDrone) (_ : List CCCommand) (unread : List Char) : Prop :=
  d.status = 0 → unread = []

theorem sweep_safe (d : CCDrone) (r : Refresh) :
    SafeTalk k InStep (sweep d r) written [] := by
  apply safe_bind.mpr
  apply adjust_safe
  intro c written
  apply safe_bind.mpr
  have hcorrect (p : Prop) [Decidable p]
      {post : Cryocooler → List CCCommand → List Char → Prop}
      (hpost : ∀ c written, post c written []) :
      SafeTalk k post (if p then setCryoMode c r.undefInt else .done c) written [] := by
    split_ifs
    · exact setCryoMode_safe hpost r.undefInt
    · exact hpost _ _
  apply hcorrect
  intro c written
  simp only
  split_ifs
  · apply safe_bind.mpr
    apply powerOnOff_safe
    intro c written
    apply safe_bind.mpr
    split_ifs
    · exact adjustCryoPower_safe (fun _ _ _ => rfl) r.undefInt
    · exact fun _ => rfl
  · exact fun _ => rfl

theorem check_safe {d : CCDrone} {next : CCTalk CCDrone} {unread : List Char}
    (hread : d.status = 0 → unread = []) (hnext : SafeTalk k InStep next written []) :
    SafeTalk k InStep (if d.status ≠ 0 then .done d else next) written unread := by
  split_ifs with hstatus
  · exact fun hzero => absurd hzero hstatus
  · rw [hread (not_not.mp hstatus)]
    exact hnext

theorem poll_safe (d : CCDrone) (r : Refresh) :
    SafeTalk k InStep (poll d r) written [] := by
  apply safe_bind.mpr
  apply getTC_safe
  rintro ⟨status, c⟩ written unread hread
  apply check_safe (d := { d with status := status, cooler := c }) hread
  apply safe_bind.mpr
  apply getP_safe
  rintro ⟨status, c⟩ written unread hread
  apply check_safe (d := { d with status := status, cooler := c }) hread
  apply safe_bind.mpr
  apply getE_safe
  rintro ⟨status, c⟩ written unread hread
  apply check_safe (d := { d with status := status, cooler := c }) hread
  apply safe_bind.mpr
  apply checkIfON_safe
  rintro ⟨status, c⟩ written unread hread
  apply check_safe (d := { d with status := status, cooler := c }) hread
  exact sweep_safe _ r

theorem construct_safe {mem : Cryocooler} {post : Cryocooler → List CCCommand → List Char → Prop}
    (hpost : ∀ c written, post c written []) : SafeTalk k post (construct mem) written [] := by
  intro dropped rest heq
  obtain ⟨-, rfl⟩ := List.nil_eq_append_iff.mp heq
  exact query_safe rfl (by simp) fun _ _ _ => hpost _ _

theorem reset_safe {d : CCDrone} (hstatus : d.status ≠ 0) (r : Refresh) (unread : List Char) :
    SafeTalk k InStep (reset d r) written unread := by
  apply safe_bind.mpr
  intro _ _ _ _ _ _ _ _ _ _ _ hzero
  exact absurd hzero hstatus

theorem iterate_safe (d : CCDrone) (written : List CCCommand) (unread : List Char) (r : Refresh)
    (h : InStep d written unread) : SafeTalk k InStep (iterate d r) written unread := by
  rw [iterate, CCDrone.branch]
  by_cases hstatus : d.status = 0
  · rw [if_pos hstatus, h hstatus]
    exact poll_safe d r
  · rw [if_neg hstatus]
    exact reset_safe hstatus r unread

end Safe

def begin (status : ℤ) (mem : Cryocooler) : Machine CCCommand Stored CCDrone :=
  ⟨[], [], [], start status mem⟩

/-- In every run, whatever the delays, in which no guarded read of `GetPIDState` or
`SetCryoMode` gives up, a getter that returns 0 has stored its own answer. -/
theorem run_paired (k : Controller) (status : ℤ) (mem : Cryocooler)
    (evs : List (Event Refresh))
    (h : Transition.Along (step k.line iterate) (GivesUpOnly StatusRead) (begin status mem) evs) :
    Transition.Along (step k.line iterate) (NotesWell (Stored.IsAnswer k))
      (begin status mem) evs := by
  have hstart : (begin status mem).Safe k.line StatusRead (Stored.IsAnswer k) InStep :=
    safe_bind.mpr (construct_safe fun _ _ _ => rfl)
  exact run_notesWell iterate_safe hstart h

def sampleController : Controller where
  echo _ _ := ['>']
  answers _ cmd :=
    match cmd with
    | .tc => [['3', '0', '0']]
    | .e => [['1'], ['1'], ['1']]
    | .setSSTOP true => [['1'], Cryocooler.complete ++ ['\r']]
    | _ => [['1']]
  echo_ne := by simp
  echo_line := by simp
  answers_line := by
    intro _ cmd
    split <;> decide
  answers_length := by
    intro _ cmd hcmd
    split <;> simp_all [CCCommand.answerLines]
  answers_switchOff := fun _ => ⟨['1'], [], Cryocooler.complete, rfl, by decide, by simp⟩

def sampleRefresh : Refresh := ⟨0, 0, default, fun _ => 0, false⟩

def promptTurns (n : ℕ) : List (Event Refresh) :=
  (List.replicate n [.arrive 100, .turn sampleRefresh false]).flatten

theorem run_paired_sample : Transition.Along (step sampleController.line iterate)
    (NotesWell (Stored.IsAnswer sampleController)) (begin 0 default) (promptTurns 60) :=
  run_paired sampleController 0 default (promptTurns 60)
    (givesUpOnly_of_notMem (by simp [promptTurns]))

/-- The first `SET PID` stalls and its reply comes late: the next `GetTC` takes
the mode for the temperature. -/
theorem not_run_paired : ¬ ∀ (k : Controller) (status : ℤ) (mem : Cryocooler)
    (evs : List (Event Refresh)), Transition.Along (step k.line iterate)
      (NotesWell (Stored.IsAnswer k)) (begin status mem) evs := by
  intro h
  let before := promptTurns 27 ++ .turn sampleRefresh true :: promptTurns 4
  have hrun := h sampleController 0 default (before ++ [.arrive 0])
  rw [Transition.along_append] at hrun
  have hnote : (Transition.run (step sampleController.line iterate) (begin 0 default)
      before).program.noteNow = some (.tc 1) := by decide +kernel
  have hwritten : (Transition.run (step sampleController.line iterate) (begin 0 default)
      before).written = [.tc, .pid, .setPWOUT 1, .sstop, .e, .p, .tc, .version] := by
    decide +kernel
  have htemperature (written : List CCCommand) :
      (sampleController.answers written .tc).map (stof ∘ lineText) ≠ [some 1] := by
    change [['3', '0', '0']].map (stof ∘ lineText) ≠ [some 1]
    decide +kernel
  have hanswer := hrun.2.1 (.tc 1) hnote
  rw [hwritten] at hanswer
  exact htemperature _ hanswer

end CCTalk
end CryoController
