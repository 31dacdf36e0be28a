import CryoController.Foundations.Printing
import CryoController.Foundations.WireFormat
import CryoController.Cryocooler
import CryoController.HeaterShutdown
import CryoController.SRSPowerSupply

/-!
# What goes over the serial lines

The commands of the three instruments as the bytes that `WriteString` is given: literal
text, then for some commands a number printed by `std::to_string`, then the line's ending.
An instrument that knows the verbs understands what the program has meant, but for what a
level loses when it is held in `float` and printed with six digits.
-/

open Framing Numeral
namespace CryoController

namespace CCCommand

def verb : CCCommand → Verb CCCommand
  | .version => ⟨"VERSION\r".toList, false, fun _ => .version⟩
  | .tc => ⟨"TC\r".toList, false, fun _ => .tc⟩
  | .p => ⟨"P\r".toList, false, fun _ => .p⟩
  | .e => ⟨"E\r".toList, false, fun _ => .e⟩
  | .pid => ⟨"SET PID\r".toList, false, fun _ => .pid⟩
  | .setPID _ => ⟨"SET PID=".toList, true, fun mode => .setPID ⌊mode⌋⟩
  | .sstop => ⟨"SET SSTOP\r".toList, false, fun _ => .sstop⟩
  | .setSSTOP false => ⟨"SET SSTOP=0\r".toList, false, fun _ => .setSSTOP false⟩
  | .setSSTOP true => ⟨"SET SSTOP=1\r".toList, false, fun _ => .setSSTOP true⟩
  | .setPWOUT _ => ⟨"SET PWOUT=".toList, true, fun power => .setPWOUT ⌊power⌋⟩

def number : CCCommand → Option Decimal
  | .setPID mode => some (.ofInt mode)
  | .setPWOUT power => some (.ofInt power)
  | _ => none

def plain : List CCCommand :=
  [.version, .tc, .p, .e, .pid, .setPID 0, .sstop, .setSSTOP false, .setSSTOP true, .setPWOUT 0]

def verbs : List (Verb CCCommand) := plain.map verb

theorem verb_mem (c : CCCommand) : c.verb ∈ verbs := by
  cases c with
  | setPID mode => exact List.mem_map.mpr ⟨.setPID 0, by decide, rfl⟩
  | setPWOUT power => exact List.mem_map.mpr ⟨.setPWOUT 0, by decide, rfl⟩
  | setSSTOP stop => exact List.mem_map_of_mem (by revert stop; decide)
  | _ => exact List.mem_map_of_mem (by decide)

theorem number_isSome (c : CCCommand) : c.number.isSome = c.verb.numbered := by
  cases c with
  | setSSTOP stop => cases stop <;> rfl
  | _ => rfl

theorem make_number (c : CCCommand) :
    c.verb.make ((c.number.map Decimal.value).getD 0) = c := by
  cases c with
  | setSSTOP stop => cases stop <;> rfl
  | setPID mode =>
    change CCCommand.setPID ⌊(Decimal.ofInt mode).value⌋ = _
    rw [Decimal.value_ofInt, Int.floor_intCast]
  | setPWOUT power =>
    change CCCommand.setPWOUT ⌊(Decimal.ofInt power).value⌋ = _
    rw [Decimal.value_ofInt, Int.floor_intCast]
  | _ => rfl

def vocabulary : Vocabulary CCCommand where
  verb := verb
  number := number
  printed := id
  verbs := verbs
  ending := .carriageReturn
  verb_mem := verb_mem
  number_isSome := number_isSome
  make_number := make_number
  apart := by decide
  framed := by decide

end CCCommand

namespace LSCommand

def verb : LSCommand → Verb LSCommand
  | .readPower => ⟨"HTR? 1\r\n".toList, false, fun _ => .readPower⟩
  | .readRange => ⟨"RANGE? 1\r\n".toList, false, fun _ => .readRange⟩
  | .readTemperature => ⟨"KRDG?\r\n".toList, false, fun _ => .readTemperature⟩
  | .range _ => ⟨"RANGE 1,".toList, true, fun state => .range ⌊state⌋⟩
  | .mout _ => ⟨"MOUT 1,".toList, true, .mout⟩

def number : LSCommand → Option Decimal
  | .range state => some (.ofInt state)
  | .mout level => some (.ofFloat level)
  | _ => none

def verbs : List (Verb LSCommand) :=
  [.readPower, .readRange, .readTemperature, .range 0, .mout 0].map verb

theorem verb_mem (c : LSCommand) : c.verb ∈ verbs := by
  cases c with
  | range state => exact List.mem_map.mpr ⟨.range 0, by decide, rfl⟩
  | mout level => exact List.mem_map.mpr ⟨.mout 0, by decide, rfl⟩
  | _ => exact List.mem_map_of_mem (by decide)

theorem make_number (c : LSCommand) :
    c.verb.make ((c.number.map Decimal.value).getD 0) = c.printed := by
  cases c with
  | range state =>
    change LSCommand.range ⌊(Decimal.ofInt state).value⌋ = _
    rw [Decimal.value_ofInt, Int.floor_intCast]
    rfl
  | _ => rfl

def vocabulary : Vocabulary LSCommand where
  verb := verb
  number := number
  printed := printed
  verbs := verbs
  ending := .both
  verb_mem := verb_mem
  number_isSome c := by cases c <;> rfl
  make_number := make_number
  apart := by decide
  framed := by decide

end LSCommand

namespace SRSCommand

def verb : SRSCommand → Verb SRSCommand
  | .readVolt => ⟨"VOLT?\n".toList, false, fun _ => .readVolt⟩
  | .readSout => ⟨"SOUT?\n".toList, false, fun _ => .readSout⟩
  | .readOvld => ⟨"OVLD?\n".toList, false, fun _ => .readOvld⟩
  | .volt _ => ⟨"VOLT ".toList, true, .volt⟩
  | .sout _ => ⟨"SOUT ".toList, true, fun output => .sout (decide (output ≠ 0))⟩
  | .scar _ => ⟨"SCAR RANGE".toList, true, fun range => .scar ⌊range⌋.toNat⟩
  | .scab _ => ⟨"SCAB ".toList, true, .scab⟩
  | .scae _ => ⟨"SCAE ".toList, true, .scae⟩
  | .scat _ => ⟨"SCAT ".toList, true, .scat⟩
  | .scadOn => ⟨"SCAD ON\n".toList, false, fun _ => .scadOn⟩
  | .scaa => ⟨"SCAA 1\n".toList, false, fun _ => .scaa⟩
  | .trg => ⟨"*TRG\n".toList, false, fun _ => .trg⟩

def number : SRSCommand → Option Decimal
  | .volt voltage => some (.ofFloat voltage)
  | .sout output => some (.ofInt output.toInt)
  | .scar range => some (.ofInt range)
  | .scab voltage => some (.ofFloat voltage)
  | .scae voltage => some (.ofFloat voltage)
  | .scat time => some (.ofFloat time)
  | _ => none

def printed : SRSCommand → SRSCommand
  | .volt voltage => .volt (Decimal.ofFloat voltage).value
  | .scab voltage => .scab (Decimal.ofFloat voltage).value
  | .scae voltage => .scae (Decimal.ofFloat voltage).value
  | .scat time => .scat (Decimal.ofFloat time).value
  | c => c

def plain : List SRSCommand :=
  [.readVolt, .readSout, .readOvld, .volt 0, .sout false, .scar 0, .scab 0, .scae 0, .scat 0,
    .scadOn, .scaa, .trg]

def verbs : List (Verb SRSCommand) := plain.map verb

theorem verb_mem (c : SRSCommand) : c.verb ∈ verbs := by
  cases c with
  | volt voltage => exact List.mem_map.mpr ⟨.volt 0, by decide, rfl⟩
  | sout output => exact List.mem_map.mpr ⟨.sout false, by decide, rfl⟩
  | scar range => exact List.mem_map.mpr ⟨.scar 0, by decide, rfl⟩
  | scab voltage => exact List.mem_map.mpr ⟨.scab 0, by decide, rfl⟩
  | scae voltage => exact List.mem_map.mpr ⟨.scae 0, by decide, rfl⟩
  | scat time => exact List.mem_map.mpr ⟨.scat 0, by decide, rfl⟩
  | _ => exact List.mem_map_of_mem (by decide)

theorem make_number (c : SRSCommand) :
    c.verb.make ((c.number.map Decimal.value).getD 0) = c.printed := by
  cases c with
  | sout output =>
    change SRSCommand.sout (decide ((Decimal.ofInt output.toInt).value ≠ 0)) = .sout output
    rw [Decimal.value_ofInt]
    cases output <;> rfl
  | scar range =>
    change SRSCommand.scar ⌊(Decimal.ofInt range).value⌋.toNat = .scar range
    rw [Decimal.value_ofInt, Int.floor_intCast, Int.toNat_natCast]
  | _ => rfl

def vocabulary : Vocabulary SRSCommand where
  verb := verb
  number := number
  printed := printed
  verbs := verbs
  ending := .newline
  verb_mem := verb_mem
  number_isSome c := by cases c <;> rfl
  make_number := make_number
  apart := by decide
  framed := by decide

end SRSCommand

/-- What the instruments receive of the bytes of any commands is these commands, with the
levels as they are printed; of bytes that break off, the commands up to there. -/
theorem serial_round_trips :
    (∀ (cs : List CCCommand), let w := CCCommand.vocabulary.format
      w.received (w.bytes cs) = cs ∧ ∀ bs, bs <+: w.bytes cs → w.received bs <+: cs) ∧
    (∀ (cs : List LSCommand), let w := LSCommand.vocabulary.format
      w.received (w.bytes cs) = cs.map LSCommand.printed ∧
        ∀ bs, bs <+: w.bytes cs → w.received bs <+: cs.map LSCommand.printed) ∧
    ∀ (cs : List SRSCommand), let w := SRSCommand.vocabulary.format
      w.received (w.bytes cs) = cs.map SRSCommand.printed ∧
        ∀ bs, bs <+: w.bytes cs → w.received bs <+: cs.map SRSCommand.printed := by
  refine ⟨fun cs => ?_, fun cs => ?_, fun cs => ?_⟩
  · intro w
    have hid : cs.map w.printed = cs := List.map_id cs
    exact ⟨(w.received_bytes cs).trans hid, fun bs h => hid ▸ w.received_of_prefix h⟩
  · exact ⟨WireFormat.received_bytes _ cs, fun bs h => WireFormat.received_of_prefix _ h⟩
  · exact ⟨WireFormat.received_bytes _ cs, fun bs h => WireFormat.received_of_prefix _ h⟩

namespace HeaterSite

/-- A level that the LakeShore receives in the step differs from the last power published
before the row was read by no more than half a millionth and half the distance of two numbers
of `float`, and is a percentage up to the machine's limit. -/
def Received (s : HeaterSite) (ev : SiteEvent) : Prop :=
  ∀ e, ev = .path e → ∀ level,
    .mout level ∈ LSCommand.vocabulary.format.received
      (LSCommand.vocabulary.format.bytes (s.path.commands e)) →
    ∀ power ∈ s.path.ledger.read,
      |level - power| ≤ 1 / 2 / 10 ^ 6 + 1 / 2 ^ 18 ∧ level ∈ Set.Icc 0 75

theorem received_of_delivers (s : HeaterSite) (ev : SiteEvent) (h : s.path.Delivers) :
    s.Received ev := by
  rintro e - level hlevel power hread
  rw [WireFormat.received_bytes] at hlevel
  obtain ⟨c, hc, hprinted⟩ := List.mem_map.mp hlevel
  cases c with
  | mout sent =>
    have hlevel : (Decimal.ofFloat sent).value = level := LSCommand.mout.inj hprinted
    obtain ⟨rfl, hbounds⟩ :=
      HeaterPath.delivered_of_delivers s.path e h _ _ _ (s.path.step_commands e) hc hread
    have hsize : |sent| < 2 ^ 7 := by
      rw [abs_of_nonneg hbounds.1]
      exact hbounds.2.trans_lt (by norm_num)
    have hnear := Decimal.abs_value_ofFloat_sub_le hsize (by norm_num)
    have hmem : (Decimal.ofFloat sent).value ∈ Set.Icc 0 ((75 : ℕ) : ℚ) :=
      Decimal.value_ofFloat_mem (e := 7) (by exact_mod_cast hbounds) (by norm_num) (by norm_num)
        (by norm_num)
    rw [hlevel] at hnear hmem
    refine ⟨hnear.trans_eq ?_, by exact_mod_cast hmem⟩
    norm_num
  | _ => cases hprinted

theorem run_received (memSM : CryoControlSM) (absTime rateTime : UInt64)
    (row : ControlParameters) (mem : LakeShore) (reads : List ReadResult) (device : Heater)
    (evs : List SiteEvent) :
    Transition.Along step Received (start memSM absTime rateTime row mem reads device) evs :=
  Transition.along_of_invariant step_delivers received_of_delivers
    (HeaterPath.start_delivers memSM absTime rateTime row mem reads) evs

end HeaterSite

end CryoController
