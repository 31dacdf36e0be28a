import CryoController.Foundations.Decimal
import CryoController.LineReaders
import CryoController.SRSPowerSupply

/-!
# What the supply says and what is recorded

`ReadLine` keeps the terminator of an answer. The numeric conversions ignore it.
`IsOVLD` compares the whole line with `1`, so no line that a terminator ends is
equal to it and the overload flag is never recorded. An answer that does not
convert leaves a getter without a result to return.
-/

open Numeral
namespace CryoController

namespace SRSPowerSupply

def answer (s : SRSPowerSupply) (i : ℕ) : List Char :=
  ((fun p : Port SRSCommand => p.readLine.2)^[i] s.port).reply

section Answers
variable (s : SRSPowerSupply)

theorem readPSVoltage_fst (undef : ℚ) :
    (s.readPSVoltage undef).1 = (stof (s.answer 0)).getD undef := rfl

theorem readPSOutput_fst (undef : ℤ) :
    (s.readPSOutput undef).1 = decide ((stoi (s.answer 0)).getD undef ≠ 0) := rfl

theorem writePSVoltage_currentVoltage (voltage undef : ℚ) :
    (s.writePSVoltage voltage undef).currentVoltage = (stof (s.answer 0)).getD undef := rfl

theorem writePSOutput_currentOutputStatus (output : Bool) (undef : ℤ) :
    (s.writePSOutput output undef).currentOutputStatus =
      decide ((stoi (s.answer 0)).getD undef ≠ 0) := rfl

variable (e : SRSSweep)

theorem performSweep_currentVoltage :
    (s.performSweep e).1.currentVoltage = (stof (s.answer 0)).getD e.undefVoltage := by
  rw [performSweep_fst]
  rfl

theorem performSweep_currentOutputStatus :
    (s.performSweep e).1.currentOutputStatus =
      decide ((stoi (s.answer 1)).getD e.undefOutput ≠ 0) := by
  rw [performSweep_fst]
  rfl

theorem performSweep_ovldStatus :
    (s.performSweep e).1.ovldStatus = decide (s.answer 2 = ['1']) := by
  rw [performSweep_fst]
  rfl

theorem performSweep_snd :
    (s.performSweep e).2 = ⟨(s.performSweep e).1.currentVoltage,
      (s.performSweep e).1.currentOutputStatus, (s.performSweep e).1.ovldStatus,
      s.watchdogFuse⟩ := by
  rw [performSweep_fst]
  simp only [performSweep]
  split_ifs
  · rfl
  · rfl

end Answers

end SRSPowerSupply

inductive SRSCall
  | readPSVoltage
  | readPSOutput
  | writePSVoltage (voltage : ℚ)
  | writePSOutput (output : Bool)
  | performSweep
  deriving DecidableEq, Repr

namespace SRSCall
open SRSPowerSupply

/-- A getter has a result of its own, and a call that caches the result of one keeps what
is cached when the answer does not convert. -/
def Intact (call : SRSCall) (s : SRSPowerSupply) : Prop :=
  match call with
  | readPSVoltage => ∃ voltage, ∀ undef, (s.readPSVoltage undef).1 = voltage
  | readPSOutput => ∃ output, ∀ undef, (s.readPSOutput undef).1 = output
  | writePSVoltage voltage =>
    stof (s.answer 0) = none → ∀ undef,
      (s.writePSVoltage voltage undef).currentVoltage = s.currentVoltage
  | writePSOutput output =>
    stoi (s.answer 0) = none → ∀ undef,
      (s.writePSOutput output undef).currentOutputStatus = s.currentOutputStatus
  | performSweep => ∀ e,
    (stof (s.answer 0) = none → (s.performSweep e).1.currentVoltage = s.currentVoltage) ∧
      (stoi (s.answer 1) = none →
        (s.performSweep e).1.currentOutputStatus = s.currentOutputStatus)

def Parses (call : SRSCall) (s : SRSPowerSupply) : Prop :=
  match call with
  | readPSVoltage => (stof (s.answer 0)).isSome
  | readPSOutput => (stoi (s.answer 0)).isSome
  | writePSVoltage _ => (stof (s.answer 0)).isSome
  | writePSOutput _ => (stoi (s.answer 0)).isSome
  | performSweep => (stof (s.answer 0)).isSome ∧ (stoi (s.answer 1)).isSome

section Converted
variable {α β : Type} {view : α → β} (hview : ∀ b, ∃ x, view x ≠ b) (converted : Option α)
include hview

theorem defined_iff :
    (∃ b, ∀ undef, view (converted.getD undef) = b) ↔ converted.isSome := by
  cases converted with
  | some x => exact iff_of_true ⟨view x, fun _ => rfl⟩ rfl
  | none =>
    refine iff_of_false ?_ Bool.false_ne_true
    rintro ⟨b, hb⟩
    obtain ⟨x, hx⟩ := hview b
    exact hx (hb x)

theorem kept_iff (cached : β) :
    (converted = none → ∀ undef, view (converted.getD undef) = cached) ↔ converted.isSome := by
  cases converted with
  | some x => exact iff_of_true (fun hnone => nomatch hnone) rfl
  | none =>
    refine iff_of_false ?_ Bool.false_ne_true
    intro hkept
    obtain ⟨x, hx⟩ := hview cached
    exact hx (hkept rfl x)

end Converted

theorem exists_voltage_ne (voltage : ℚ) : ∃ x : ℚ, id x ≠ voltage := ⟨voltage + 1, by simp⟩

theorem exists_output_ne (output : Bool) : ∃ n : ℤ, decide (n ≠ 0) ≠ output := by
  cases output with
  | true => exact ⟨0, by decide⟩
  | false => exact ⟨1, by decide⟩

theorem intact_iff (call : SRSCall) (s : SRSPowerSupply) : call.Intact s ↔ call.Parses s := by
  cases call with
  | readPSVoltage =>
    simp only [Intact, readPSVoltage_fst]
    exact defined_iff exists_voltage_ne _
  | readPSOutput =>
    simp only [Intact, readPSOutput_fst]
    exact defined_iff exists_output_ne _
  | writePSVoltage voltage =>
    simp only [Intact, writePSVoltage_currentVoltage]
    exact kept_iff exists_voltage_ne _ s.currentVoltage
  | writePSOutput output =>
    simp only [Intact, writePSOutput_currentOutputStatus]
    exact kept_iff exists_output_ne _ s.currentOutputStatus
  | performSweep =>
    have hvoltage := kept_iff exists_voltage_ne (stof (s.answer 0)) s.currentVoltage
    have houtput := kept_iff exists_output_ne (stoi (s.answer 1)) s.currentOutputStatus
    rw [Parses, ← hvoltage, ← houtput]
    simp only [Intact, performSweep_currentVoltage, performSweep_currentOutputStatus]
    constructor
    · intro h
      exact ⟨fun hnone undef => (h ⟨0, undef, 0, 0⟩).1 hnone,
        fun hnone undef => (h ⟨0, 0, undef, 0⟩).2 hnone⟩
    · rintro ⟨hv, ho⟩ e
      exact ⟨fun hnone => hv hnone e.undefVoltage, fun hnone => ho hnone e.undefOutput⟩

theorem not_intact : ¬ ∀ (call : SRSCall) (s : SRSPowerSupply), call.Intact s := by
  intro h
  have hkept := (h performSweep (SRSPowerSupply.construct default []) ⟨0, 1, 0, 0⟩).1
  rw [performSweep_currentVoltage] at hkept
  revert hkept
  decide +kernel

end SRSCall

structure SupplyReport where
  voltage : Decimal
  voltageReturn : Bool
  output : Bool
  outputReturn : Bool
  overload : Bool
  overloadReturn : Bool
  rest : List ReadResult

namespace SupplyReport
open SRSPowerSupply

def line (text : List Char) (carriageReturn : Bool) : List Char :=
  text ++ if carriageReturn then ['\r'] else []

def flag (b : Bool) : List Char := if b then ['1'] else ['0']

def reads (k : SupplyReport) : List ReadResult :=
  (line k.voltage.text k.voltageReturn ++ ['\n']).map .byte ++
    ((line (flag k.output) k.outputReturn ++ ['\n']).map .byte ++
      ((line (flag k.overload) k.overloadReturn ++ ['\n']).map .byte ++ k.rest))

def heard (k : SupplyReport) (s : SRSPowerSupply) : SRSPowerSupply :=
  { s with port := { s.port with reads := k.reads } }

structure Recorded (k : SupplyReport) (s : SRSPowerSupply) (e : SRSSweep) : Prop where
  voltage : ((k.heard s).performSweep e).1.currentVoltage = k.voltage.value
  output : ((k.heard s).performSweep e).1.currentOutputStatus = k.output
  overload : ((k.heard s).performSweep e).1.ovldStatus = k.overload
  row : ((k.heard s).performSweep e).2 =
    ⟨k.voltage.value, k.output, k.overload, s.watchdogFuse⟩

/-- The number is read from its line: it is within the range of `float`, and within
the buffer. -/
def Readable (k : SupplyReport) : Prop :=
  stof (lineText (line k.voltage.text k.voltageReturn)) = some k.voltage.value

theorem newline_notMem {text : List Char} (h : '\n' ∉ text) (carriageReturn : Bool) :
    '\n' ∉ line text carriageReturn := by
  cases carriageReturn with
  | true => simp [line, h]
  | false => simp [line, h]

theorem line_flag (b carriageReturn : Bool) :
    lineText (line (flag b) carriageReturn) = line (flag b) carriageReturn ++ ['\n'] := by
  apply lineText_of_fits
  · revert b carriageReturn
    decide
  · revert b carriageReturn
    decide
  · revert b carriageReturn
    decide

section Sweep
variable (k : SupplyReport) (s : SRSPowerSupply)

theorem heard_answers :
    (k.heard s).answer 0 = lineText (line k.voltage.text k.voltageReturn) ∧
      (k.heard s).answer 1 = lineText (line (flag k.output) k.outputReturn) ∧
        (k.heard s).answer 2 = lineText (line (flag k.overload) k.overloadReturn) := by
  have hvoltage := newline_notMem (k.voltage.notMem_text (c := '\n') (by decide)) k.voltageReturn
  have hflag (b carriageReturn : Bool) : '\n' ∉ line (flag b) carriageReturn := by
    revert b carriageReturn
    decide
  refine ⟨?_, ?_, ?_⟩
  · simp only [answer, heard, reads, Function.iterate_zero_apply, Port.reply,
      readLine_line _ _ _ hvoltage]
  · simp only [answer, heard, reads, Function.iterate_succ_apply, Function.iterate_zero_apply,
      Port.reply, readLine_line _ _ _ hvoltage, readLine_line _ _ _ (hflag _ _)]
  · simp only [answer, heard, reads, Function.iterate_succ_apply, Function.iterate_zero_apply,
      Port.reply, readLine_line _ _ _ hvoltage, readLine_line _ _ _ (hflag _ _)]

theorem stoi_flag (b carriageReturn : Bool) :
    stoi (lineText (line (flag b) carriageReturn)) = some (if b then 1 else 0) := by
  rw [line_flag]
  revert b carriageReturn
  decide

theorem flag_ne_one (b carriageReturn : Bool) :
    lineText (line (flag b) carriageReturn) ≠ ['1'] := by
  rw [line_flag]
  revert b carriageReturn
  decide

theorem performSweep_heard (e : SRSSweep) :
    ((k.heard s).performSweep e).1.currentVoltage =
        (stof (lineText (line k.voltage.text k.voltageReturn))).getD e.undefVoltage ∧
      ((k.heard s).performSweep e).1.currentOutputStatus = k.output ∧
        ((k.heard s).performSweep e).1.ovldStatus = false := by
  obtain ⟨hvoltage, houtput, hoverload⟩ := k.heard_answers s
  refine ⟨?_, ?_, ?_⟩
  · rw [performSweep_currentVoltage, hvoltage]
  · rw [performSweep_currentOutputStatus, houtput, stoi_flag]
    cases k.output with
    | true => rfl
    | false => rfl
  · rw [performSweep_ovldStatus, hoverload]
    exact decide_eq_false (flag_ne_one _ _)

theorem recorded_iff : (∀ e, k.Recorded s e) ↔ k.overload = false ∧ k.Readable := by
  constructor
  · intro h
    have hoff : k.overload = false := by
      rw [← (h ⟨0, 0, 0, 0⟩).overload]
      exact (k.performSweep_heard s _).2.2
    refine ⟨hoff, ?_⟩
    -- the number is stored whatever a getter would return past its end
    have hstored (undef : ℚ) := (h ⟨0, undef, 0, 0⟩).voltage
    simp only [(k.performSweep_heard s _).1] at hstored
    rw [Readable]
    cases hread : stof (lineText (line k.voltage.text k.voltageReturn)) with
    | some x =>
      rw [hread] at hstored
      exact congrArg some (hstored 0)
    | none =>
      rw [hread] at hstored
      have hzero : (0 : ℚ) = k.voltage.value := hstored 0
      have hone : (1 : ℚ) = k.voltage.value := hstored 1
      exact absurd (hzero.trans hone.symm) (by norm_num)
  · rintro ⟨hoff, hread⟩ e
    obtain ⟨hvoltage, houtput, hoverload⟩ := k.performSweep_heard s e
    rw [hread, Option.getD_some] at hvoltage
    rw [← hoff] at hoverload
    refine ⟨hvoltage, houtput, hoverload, ?_⟩
    rw [performSweep_snd, hvoltage, houtput, hoverload]
    rfl

theorem readable_iff_of_fits (hfits : k.voltage.text.length < 1022) :
    k.Readable ↔ Format.float.holds k.voltage.value = true := by
  have hline : lineText (line k.voltage.text k.voltageReturn) =
      line k.voltage.text k.voltageReturn ++ ['\n'] := by
    apply lineText_of_fits (newline_notMem (k.voltage.notMem_text (by decide)) _)
    · have hNUL := k.voltage.notMem_text (c := '\x00') (by decide)
      cases k.voltageReturn with
      | true => simp [line, hNUL]
      | false => simp [line, hNUL]
    · rw [line, List.length_append]
      split_ifs
      · rw [List.length_singleton]
        omega
      · rw [List.length_nil]
        omega
  have hends : Ends ((if k.voltageReturn then ['\r'] else []) ++ ['\n']) := by
    cases k.voltageReturn with
    | true => exact fun c hc => by cases hc; rfl
    | false => exact fun c hc => by cases hc; rfl
  rw [Readable, hline, line, List.append_assoc, stof, k.voltage.strtod_text _ hends,
    Option.filter_eq_some_iff]
  exact and_iff_right rfl

end Sweep

theorem not_recorded :
    ¬ ∀ (k : SupplyReport) (s : SRSPowerSupply) (e : SRSSweep), k.Recorded s e := by
  intro h
  let voltage : Decimal := ⟨.unsigned, [5], none, none, List.cons_ne_nil _ _⟩
  let k : SupplyReport := ⟨voltage, false, true, false, true, false, []⟩
  have hoverload := (h k (SRSPowerSupply.construct default []) default).overload
  rw [(k.performSweep_heard _ _).2.2] at hoverload
  cases hoverload

end SupplyReport

end CryoController
