import CryoController.LSHReadings
import CryoController.LineFraming
import CryoController.SRSServer

/-!
# Replies that come late

The LakeShore and the SRS supply answer one line to a query, and the programs read one
line after each. A read that gives up leaves the reply on the line for the next query, and
nothing ever clears the line again: from then on every query reads the answer to an
earlier one, as many before as have found nothing so far. The loop of the LakeShore asks
three things in turn, so what it takes for a temperature is one exactly when that number
is a multiple of three.
-/

open Numeral Framing
namespace CryoController
namespace Port
variable {κ : Type} {p p' p'' : Port κ}

theorem readLine_congr (h : p.reads = p'.reads) :
    p.readLine.1 = p'.readLine.1 ∧ p.readLine.2.reads = p'.readLine.2.reads := by
  simp only [readLine, h, and_self]

theorem readLines_congr (h : p.reads = p'.reads) (n : ℕ) : readLines n p = readLines n p' := by
  induction n generalizing p p' with
  | zero => rfl
  | succ n ih =>
    obtain ⟨hline, hrest⟩ := readLine_congr h
    rw [readLines, readLines, hline, ih hrest]

theorem afterLines_congr (h : p.reads = p'.reads) (n : ℕ) :
    (afterLines n p).reads = (afterLines n p').reads := by
  induction n generalizing p p' with
  | zero => exact h
  | succ n ih => exact ih (readLine_congr h).2

theorem readLines_add (m n : ℕ) (p : Port κ) :
    readLines (m + n) p = readLines m p ++ readLines n (afterLines m p) := by
  induction m generalizing p with
  | zero => rw [Nat.zero_add]; rfl
  | succ m ih =>
    rw [Nat.succ_add, readLines, readLines, ih]
    rfl

theorem afterLines_add (m n : ℕ) (p : Port κ) :
    afterLines (m + n) p = afterLines n (afterLines m p) := by
  induction m generalizing p with
  | zero => rw [Nat.zero_add]; rfl
  | succ m ih =>
    rw [Nat.succ_add, afterLines, ih]
    rfl

/-- The queries of the log have each read a line, and nothing else has been read. -/
structure Talks (log : List (κ × List Char)) (p p' : Port κ) : Prop where
  readings : log.map Prod.snd = readLines log.length p
  left : p'.reads = (afterLines log.length p).reads

theorem Talks.silent (h : p'.reads = p.reads) : Talks [] p p' := ⟨rfl, h⟩

theorem Talks.asked (p : Port κ) (cmd : κ) :
    Talks [(cmd, p.reply)] p (p.writeString cmd).readLine.2 where
  readings := rfl
  left := (readLine_congr (show (p.writeString cmd).reads = p.reads from rfl)).2

theorem Talks.trans {log log' : List (κ × List Char)} (h : Talks log p p')
    (h' : Talks log' p' p'') : Talks (log ++ log') p p'' where
  readings := by
    rw [List.map_append, h.readings, h'.readings, List.length_append, readLines_add,
      readLines_congr h.left]
  left := by
    rw [h'.left, List.length_append, afterLines_add, afterLines_congr h.left]

theorem talks_output {σ ι : Type} {step : σ → ι → σ} {out : σ → ι → List (κ × List Char)}
    {port : σ → Port κ} (hstep : ∀ s x, Talks (out s x) (port s) (port (step s x))) (s : σ)
    (xs : List ι) : Talks (Transition.output out step s xs) (port s) (port (Transition.run step s xs)) := by
  induction xs generalizing s with
  | nil => exact .silent rfl
  | cons x xs ih => exact (hstep s x).trans (ih (step s x))

def lag (log : List (κ × List Char)) (i : ℕ) : ℕ :=
  missed (fun line => decide (line ≠ [])) (log.map Prod.snd) i

theorem Talks.lags {log : List (κ × List Char)} (h : Talks log p p')
    (hNUL : .byte '\x00' ∉ p.reads) (hshort : ∀ line ∈ p.lines, line.length < 1024) {i : ℕ}
    (hi : i < log.length) (hfound : log[i].2 ≠ []) :
    ∃ line, p.lines[i - lag log i]? = some line ∧ log[i].2 <:+ line := by
  have hlength : i < (log.map Prod.snd).length := by rwa [List.length_map]
  have hentry : (log.map Prod.snd)[i] = log[i].2 := List.getElem_map _
  have hq : decide ((log.map Prod.snd)[i] ≠ []) = true := by
    rw [hentry]
    exact decide_eq_true hfound
  have hpiece := getElem?_filter_sub_missed (q := fun line => decide (line ≠ [])) hlength hq
  have hprefix : (log.map Prod.snd).filter (fun line => decide (line ≠ [])) <+:
      pieces '\n' [] p.items := by
    rw [h.readings]
    exact ⟨_, (received_pieces (fits_pieces hNUL hshort) log.length).symm⟩
  obtain ⟨hj, hget⟩ := List.getElem?_eq_some_iff.mp hpiece
  have hends : List.Forall₂ (· <:+ ·) (pieces '\n' [] p.items) p.lines :=
    pieces_forall₂_lines List.suffix_rfl p.items
  have hjpieces := hj.trans_le hprefix.length_le
  have hjlines : i - lag log i < p.lines.length := hjpieces.trans_eq hends.length_eq
  refine ⟨_, List.getElem?_eq_getElem hjlines, ?_⟩
  rw [← hentry, ← hget, hprefix.getElem hj]
  exact List.Forall₂.get hends hjpieces hjlines

end Port

namespace LakeShore

def queries (l : LakeShore) (r : HeaterRefresh) : List (LSCommand × List Char) :=
  [(.readPower, l.powerReply), (.readRange, l.modeReply),
    (.readTemperature, l.temperatureReply r.undefInt)]

def log (l : LakeShore) (rs : List HeaterRefresh) : List (LSCommand × List Char) :=
  Transition.output queries iterate l rs

def asks (i : ℕ) : LSCommand :=
  if i % 3 = 0 then .readPower else if i % 3 = 1 then .readRange else .readTemperature

theorem asks_eq_iff (i j : ℕ) : asks i = asks j ↔ i % 3 = j % 3 := by
  simp only [asks]
  split_ifs <;> simp <;> omega

theorem read_port {l : LakeShore} {cmd : LSCommand} {record : LakeShore → ℚ → LakeShore}
    (hrecord : ∀ l x, (record l x).port = l.port) :
    (l.read cmd record).port = (l.port.writeString cmd).readLine.2 := by
  simp only [read]
  split
  · exact hrecord _ _
  · rfl

section Iteration
variable (l : LakeShore) (r : HeaterRefresh)

theorem readPower_port : l.readPower.port = (l.port.writeString .readPower).readLine.2 :=
  read_port fun _ _ => rfl

theorem readMode_port (undefInt : ℚ → ℤ) :
    (l.readMode undefInt).port = (l.port.writeString .readRange).readLine.2 :=
  read_port fun _ _ => rfl

theorem readTemperatureK_port :
    l.readTemperatureK.port = (l.port.writeString .readTemperature).readLine.2 :=
  read_port fun _ _ => rfl

theorem turnONOFF_reads (pwstate : ℤ) : (l.turnONOFF pwstate).port.reads = l.port.reads := by
  rw [turnONOFF]
  split_ifs <;> rfl

theorem react_reads : l.react.port.reads = l.port.reads := by
  have hlevel : (if l.currentPW ≠ l.setPW then l.setPowerLevel l.setPW else l).port.reads =
      l.port.reads := by
    split_ifs
    · rfl
    · rfl
  simp only [react]
  generalize (if l.currentPW ≠ l.setPW then l.setPowerLevel l.setPW else l) = adjusted at hlevel ⊢
  split_ifs
  · exact l.turnONOFF_reads 0
  · exact (adjusted.turnONOFF_reads _).trans hlevel
  · exact hlevel

theorem iterate_reads : (l.iterate r).port.reads =
    ((l.readPower.readMode r.undefInt).readTemperatureK).port.reads := by
  rw [iterate, react_reads]
  simp only [exchange, updateMysql]

theorem iterate_talks : Port.Talks (l.queries r) l.port (l.iterate r).port := by
  have hpower : Port.Talks [(.readPower, l.powerReply)] l.port l.readPower.port := by
    rw [readPower_port]
    exact .asked _ _
  have hmode : Port.Talks [(.readRange, l.modeReply)] l.readPower.port
      (l.readPower.readMode r.undefInt).port := by
    rw [readMode_port]
    exact .asked _ _
  have htemperature : Port.Talks [(.readTemperature, l.temperatureReply r.undefInt)]
      (l.readPower.readMode r.undefInt).port
      ((l.readPower.readMode r.undefInt).readTemperatureK).port := by
    rw [readTemperatureK_port]
    exact .asked _ _
  exact hpower.trans (hmode.trans (htemperature.trans (.silent (l.iterate_reads r))))

end Iteration

theorem log_asks {l : LakeShore} {rs : List HeaterRefresh} {i : ℕ} (hi : i < (l.log rs).length) :
    (l.log rs)[i].1 = asks i := by
  induction rs generalizing l i with
  | nil => cases hi
  | cons r rs ih =>
    match i with
    | 0 => rfl
    | 1 => rfl
    | 2 => rfl
    | i + 3 =>
      have hshift : asks (i + 3) = asks i := (asks_eq_iff _ _).mpr (Nat.add_mod_right i 3)
      rw [hshift]
      exact ih (Nat.lt_of_add_lt_add_right hi)

/-- In every run, and whatever the placement of timeouts and errors: let the stream of the device
be its answers in the order of the queries. A query that finds anything reads an end of the
answer to the query that came `lag` before it, and that one asked for the same exactly when
the lag is a multiple of three. The lag never falls. -/
theorem run_lags (mem : LakeShore) {reads : List ReadResult} (hNUL : .byte '\x00' ∉ reads)
    (hshort : ∀ line ∈ (Port.opened reads [] : Port LSCommand).lines, line.length < 1024)
    (rs : List HeaterRefresh) :
    let log := (construct mem reads).log rs
    Monotone (Port.lag log) ∧ ∀ i (hi : i < log.length), log[i].2 ≠ [] →
      ∃ j, ∃ hj : j < log.length, j + Port.lag log i = i ∧
        (∃ line, (Port.opened reads [] : Port LSCommand).lines[j]? = some line ∧
          log[i].2 <:+ line) ∧
        (log[j].1 = log[i].1 ↔ 3 ∣ Port.lag log i) := by
  intro log
  refine ⟨missed_mono _ _, fun i hi hfound => ?_⟩
  have htalks := Port.talks_output iterate_talks (construct mem reads) rs
  have hlag : Port.lag log i ≤ i := missed_le _ _ i
  obtain ⟨line, hline, hend⟩ := htalks.lags hNUL hshort hi hfound
  refine ⟨i - Port.lag log i, by omega, by omega, ⟨line, hline, hend⟩, ?_⟩
  rw [log_asks, log_asks, asks_eq_iff]
  omega

theorem run_lags_sample :
    let reads : List ReadResult := .timeout :: ("50\n1\n290\n50\n1\n290\n".toList).map .byte
    let log := (construct default reads).log (List.replicate 2 ⟨default, fun _ => 0⟩)
    Monotone (Port.lag log) ∧ ∀ i (hi : i < log.length), log[i].2 ≠ [] →
      ∃ j, ∃ hj : j < log.length, j + Port.lag log i = i ∧
        (∃ line, (Port.opened reads [] : Port LSCommand).lines[j]? = some line ∧
          log[i].2 <:+ line) ∧
        (log[j].1 = log[i].1 ↔ 3 ∣ Port.lag log i) :=
  run_lags default (by decide) (by decide) _

end LakeShore

namespace SRSServer

def queries (sv : SRSServer) (e : SRSEvent) : List (SRSCommand × List Char) :=
  match sv.place e.thread with
  | .holding (cmd :: _) _ => if cmd.isQuery then [(cmd, sv.supply.port.reply)] else []
  | _ => []

theorem serial_talks (s : SRSPowerSupply) (r : SRSSweep) (cmd : SRSCommand) :
    Port.Talks (if cmd.isQuery then [(cmd, s.port.reply)] else []) s.port
      (s.serial r cmd).port := by
  cases cmd with
  | readVolt => exact .asked _ _
  | readSout => exact .asked _ _
  | readOvld => exact .asked _ _
  | _ => exact .silent rfl

theorem step_talks (sv : SRSServer) (e : SRSEvent) :
    Port.Talks (sv.queries e) sv.supply.port (sv.step e).supply.port := by
  have hmoves := sv.advance_moves e.thread e (sv.place e.thread)
  rw [queries, step_supply]
  generalize sv.advance e.thread e (sv.place e.thread) = q at hmoves ⊢
  generalize sv.place e.thread = d at hmoves ⊢
  cases hmoves with
  | serial cmd commands next => exact serial_talks sv.supply e.read cmd
  | pass hholding hselect hcommitted =>
    cases d with
    | holding commands next => exact absurd rfl (hholding commands next)
    | _ => exact .silent rfl
  | _ => exact .silent rfl

def log (sv : SRSServer) (evs : List SRSEvent) : List (SRSCommand × List Char) :=
  Transition.output queries step sv evs

theorem step_queries (sv : SRSServer) (e : SRSEvent) : (sv.step e).supply.port.sent.filter
    SRSCommand.isQuery = sv.supply.port.sent.filter SRSCommand.isQuery ++
      (sv.queries e).map Prod.fst := by
  have hmoves := sv.advance_moves e.thread e (sv.place e.thread)
  have hnone : sv.supply.port.sent.filter SRSCommand.isQuery =
      sv.supply.port.sent.filter SRSCommand.isQuery ++ [] := (List.append_nil _).symm
  rw [queries, step_supply]
  generalize sv.advance e.thread e (sv.place e.thread) = q at hmoves ⊢
  generalize sv.place e.thread = d at hmoves ⊢
  cases hmoves with
  | serial cmd commands next =>
    simp only [SRSPowerSupply.serial_sent, List.filter_append]
    cases cmd <;> rfl
  | pass hholding hselect hcommitted =>
    cases d with
    | holding commands next => exact absurd rfl (hholding commands next)
    | _ => exact hnone
  | _ => exact hnone

theorem log_queries (sv : SRSServer) (evs : List SRSEvent) :
    (Transition.run step sv evs).supply.port.sent.filter SRSCommand.isQuery =
      sv.supply.port.sent.filter SRSCommand.isQuery ++ (sv.log evs).map Prod.fst := by
  induction evs generalizing sv with
  | nil => exact (List.append_nil _).symm
  | cons e evs ih =>
    rw [Transition.run_cons, ih, step_queries, List.append_assoc, ← List.map_append]
    rfl

/-- In every interleaving of the two threads, and whatever the placement of timeouts and
errors: let the stream of the supply be its answers in the order of the queries that both
threads send. A query that finds anything reads an end of the answer to the query that came
`lag` before it, and the lag never falls. -/
theorem run_answers_late (mem : SRSPowerSupply) {reads : List ReadResult}
    (hNUL : .byte '\x00' ∉ reads)
    (hshort : ∀ line ∈ (Port.opened reads [] : Port SRSCommand).lines, line.length < 1024)
    (evs : List SRSEvent) :
    let log := (start mem reads).log evs
    log.map Prod.fst = (Transition.run step (start mem reads) evs).supply.port.sent.filter
      SRSCommand.isQuery ∧
    Monotone (Port.lag log) ∧ ∀ i (hi : i < log.length), log[i].2 ≠ [] →
      ∃ line, (Port.opened reads [] : Port SRSCommand).lines[i - Port.lag log i]? = some line ∧
        log[i].2 <:+ line := by
  intro log
  refine ⟨(log_queries (start mem reads) evs).symm, missed_mono _ _, fun i hi hfound => ?_⟩
  exact (Port.talks_output step_talks (start mem reads) evs).lags hNUL hshort hi hfound

theorem run_answers_late_sample :
    let reads : List ReadResult := .timeout :: ("60\n1\n0\n60\n1\n0\n".toList).map .byte
    let evs := List.replicate 20 ⟨.timer, .performSweep, default⟩
    let log := (start default reads).log evs
    log.map Prod.fst = (Transition.run step (start default reads) evs).supply.port.sent.filter
      SRSCommand.isQuery ∧
    Monotone (Port.lag log) ∧ ∀ i (hi : i < log.length), log[i].2 ≠ [] →
      ∃ line, (Port.opened reads [] : Port SRSCommand).lines[i - Port.lag log i]? = some line ∧
        log[i].2 <:+ line :=
  run_answers_late default (by decide) (by decide) _

end SRSServer
end CryoController
