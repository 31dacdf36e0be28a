import CryoController.Cryocooler
import CryoController.LineReaders

/-!
# The shutdown handshake

After the two lines that answer `SET SSTOP=1` the controller sends lines ended by
carriage returns, of which one ends in `COMPLETE.`. `PowerOnOff` compares the last
nine characters of each. A shorter line makes the position of the comparison
wrap, and a reply that does not convert leaves the local status as it was on the
stack, so the handshake rests on the length of the lines and on the reply.
-/

open Numeral
namespace CryoController

/-- What the controller sends after `SET SSTOP=1`, up to the first line that ends
in `COMPLETE.`; `rest` is all that follows. -/
structure Shutdown where
  echo : List Char
  status : List Char
  progress : List (List Char)
  last : List Char
  rest : List ReadResult
  echo_line : '\n' ∉ echo
  status_line : '\n' ∉ status
  progress_line : ∀ l ∈ progress, '\r' ∉ l ∧ ¬ Cryocooler.complete <:+ l
  last_line : '\r' ∉ last ∧ Cryocooler.complete <:+ last

def returned (chunks : List (List Char)) : List ReadResult :=
  chunks.flatMap fun chunk => (chunk ++ ['\r']).map .byte

namespace Cryocooler

theorem complete_suffix_iff (line : List Char) :
    line.drop (line.length - 9) = complete ↔ complete <:+ line := by
  have hlength : complete.length = 9 := rfl
  constructor
  · intro heq
    exact heq ▸ List.drop_suffix _ _
  · intro hsuffix
    rw [List.suffix_iff_eq_drop, hlength] at hsuffix
    exact hsuffix.symm

section Loop
variable {chunk : List Char} (sent : List CCCommand) (rest : List ReadResult)
  (selects : List Bool)

theorem awaitComplete_chunk (h : '\r' ∉ chunk) :
    awaitComplete ⟨sent, (chunk ++ ['\r']).map .byte ++ rest, selects⟩ =
      if (returnText chunk).length < 9 then none
      else if complete <:+ returnText chunk then some ⟨sent, rest, selects⟩
      else awaitComplete ⟨sent, rest, selects⟩ := by
  rw [awaitComplete, readLineThrowR_chunk sent rest selects h]
  by_cases hshort : (returnText chunk).length < 9
  · rw [if_pos hshort, if_pos hshort]
  · rw [if_neg hshort, if_neg hshort]
    simp only [complete_suffix_iff]

theorem awaitComplete_consumes {port port' : Port CCCommand} (h : awaitComplete port = some port') :
    port'.reads.length < port.reads.length := by
  have hline {port : Port CCCommand} (hlong : ¬ port.readLineThrowR.1.length < 9) :
      port.readLineThrowR.2.reads.length < port.reads.length := by
    apply Port.readLineThrowR_lt
    intro hnil
    rw [hnil] at hlong
    exact hlong (by decide)
  induction port using awaitComplete.induct with
  | case1 port line hshort =>
    rw [awaitComplete, if_pos hshort] at h
    cases h
  | case2 port line hlong hend =>
    rw [awaitComplete, if_neg hlong, if_pos hend] at h
    cases h
    exact hline hlong
  | case3 port line hlong hend ih =>
    rw [awaitComplete, if_neg hlong, if_neg hend] at h
    exact (ih h).trans (hline hlong)

theorem awaitComplete_ne (sent' : List CCCommand) {rest rest' : List ReadResult}
    (selects' : List Bool) (h : rest.length ≤ rest'.length) :
    awaitComplete ⟨sent, rest, selects⟩ ≠ some ⟨sent', rest', selects'⟩ := by
  intro hsome
  have hlt := awaitComplete_consumes hsome
  simp only at hlt
  omega

theorem returned_cons (chunk : List Char) (chunks : List (List Char)) :
    returned (chunk :: chunks) ++ rest =
      (chunk ++ ['\r']).map .byte ++ (returned chunks ++ rest) := by
  rw [returned, List.flatMap_cons, List.append_assoc]
  rfl

theorem awaitComplete_returned_iff {progress : List (List Char)} {last : List Char}
    (hprogress : ∀ l ∈ progress, '\r' ∉ l) (hlast : '\r' ∉ last) :
    awaitComplete ⟨sent, returned (progress ++ [last]) ++ rest, selects⟩ =
        some ⟨sent, rest, selects⟩ ↔
      (∀ l ∈ progress, 9 ≤ (returnText l).length ∧ ¬ complete <:+ returnText l) ∧
        complete <:+ returnText last := by
  induction progress with
  | nil =>
    rw [List.nil_append, returned_cons, awaitComplete_chunk sent _ selects hlast]
    by_cases hend : complete <:+ returnText last
    · have hlong : ¬ (returnText last).length < 9 := not_lt.mpr hend.length_le
      rw [if_neg hlong, if_pos hend]
      exact iff_of_true rfl ⟨fun _ hnil => absurd hnil List.not_mem_nil, hend⟩
    · refine iff_of_false ?_ fun h => hend h.2
      rw [if_neg hend]
      split_ifs
      · exact not_false
      · exact awaitComplete_ne sent selects sent selects le_rfl
  | cons l progress ih =>
    rw [List.forall_mem_cons] at hprogress
    rw [List.cons_append, returned_cons, awaitComplete_chunk sent _ selects hprogress.1,
      List.forall_mem_cons]
    by_cases hshort : (returnText l).length < 9
    · rw [if_pos hshort]
      exact iff_of_false (Option.some_ne_none _).symm fun h => absurd h.1.1.1 (not_le.mpr hshort)
    · rw [if_neg hshort]
      by_cases hend : complete <:+ returnText l
      · rw [if_pos hend]
        refine iff_of_false (fun heq => ?_) fun h => h.1.1.2 hend
        have hreads := congrArg (fun port => port.reads.length) (Option.some.inj heq)
        simp only [returned, List.length_append, List.flatMap_append, List.flatMap_singleton,
          List.length_map, List.length_singleton] at hreads
        omega
      · rw [if_neg hend, ih hprogress.2, and_assoc]
        exact (and_iff_right ⟨not_lt.mp hshort, hend⟩).symm

end Loop

section Call
variable (k : Shutdown) (c : Cryocooler)

def facing : Cryocooler :=
  { c with
    port :=
      { c.port with
        reads := (k.echo ++ ['\n']).map .byte ++ ((k.status ++ ['\n']).map .byte ++
          (returned (k.progress ++ [k.last]) ++ k.rest)) } }

theorem facing_atLoop :
    ((c.facing k).writeString (.setSSTOP true)).readLine.2.readLine.2.port =
      ⟨c.port.sent ++ [.setSSTOP true], returned (k.progress ++ [k.last]) ++ k.rest,
        c.port.selects⟩ := by
  simp only [facing, writeString, Port.writeString, readLine, readLine_line _ _ _ k.echo_line,
    readLine_line _ _ _ k.status_line]

end Call
end Cryocooler

namespace Shutdown

def reply (k : Shutdown) : List Char :=
  (⟨[], k.rest, []⟩ : Port CCCommand).readLine.2.readLine.2.reply

/-- The loop takes the lines up to the one that completes and no more, and the
object knows afterwards what the reply said, whatever the local status held. -/
structure Handled (k : Shutdown) (c : Cryocooler) : Prop where
  loop : ∀ sent selects,
    Cryocooler.awaitComplete ⟨sent, returned (k.progress ++ [k.last]) ++ k.rest, selects⟩ =
      some ⟨sent, k.rest, selects⟩
  isON : ∀ undefStatus, ((c.facing k).powerOnOff false undefStatus).map (·.isON) =
    some ((stod k.reply).elim c.isON fun x => decide (x = 0))

/-- The lines as `ReadLineThrowR` returns them, cut at a NUL and at the end of the
buffer, are long enough and complete where they should, and the reply converts. -/
structure Legible (k : Shutdown) : Prop where
  progress : ∀ l ∈ k.progress,
    9 ≤ (returnText l).length ∧ ¬ Cryocooler.complete <:+ returnText l
  last : Cryocooler.complete <:+ returnText k.last
  reply : (stod k.reply).isSome

section Handled
variable (k : Shutdown) (c : Cryocooler) (undefStatus : Bool)

theorem powerOnOff_facing :
    ((c.facing k).powerOnOff false undefStatus).map (·.isON) =
      (Cryocooler.awaitComplete ⟨c.port.sent ++ [.setSSTOP true],
        returned (k.progress ++ [k.last]) ++ k.rest, c.port.selects⟩).map fun port =>
          (stod port.readLine.2.readLine.2.reply).elim (!undefStatus) fun x => decide (x = 0) := by
  rw [← c.facing_atLoop k, Cryocooler.powerOnOff]
  simp only [Bool.false_eq_true, if_false, Option.map_map]
  rfl

theorem handled_iff : k.Handled c ↔ k.Legible := by
  have hreply (sent : List CCCommand) (selects : List Bool) :
      (⟨sent, k.rest, selects⟩ : Port CCCommand).readLine.2.readLine.2.reply = k.reply := rfl
  have hprogress : ∀ l ∈ k.progress, '\r' ∉ l := fun l hl => (k.progress_line l hl).1
  have hloop (sent : List CCCommand) (selects : List Bool) :=
    Cryocooler.awaitComplete_returned_iff sent k.rest selects hprogress k.last_line.1
  constructor
  · intro h
    obtain ⟨hlines, hlast⟩ := (hloop [] []).mp (h.loop [] [])
    refine ⟨hlines, hlast, ?_⟩
    -- without a conversion the two contents of the local status give two answers
    have hanswer (undefStatus : Bool) := h.isON undefStatus
    simp only [powerOnOff_facing, h.loop, Option.map_some, hreply] at hanswer
    cases hconvert : stod k.reply with
    | some x => rfl
    | none =>
      simp only [hconvert, Option.elim_none, Option.some.injEq] at hanswer
      exact absurd ((hanswer true).trans (hanswer false).symm) (by decide)
  · intro h
    have hleft (sent : List CCCommand) (selects : List Bool) :=
      (hloop sent selects).mpr ⟨h.progress, h.last⟩
    refine ⟨hleft, ?_⟩
    intro undefStatus
    obtain ⟨x, hx⟩ := Option.isSome_iff_exists.mp h.reply
    rw [powerOnOff_facing, hleft, Option.map_some, hreply, hx]
    rfl

end Handled

theorem legible_iff_of_fits {k : Shutdown}
    (hfits : ∀ l ∈ k.progress ++ [k.last], '\x00' ∉ l ∧ l.length < 1024) :
    k.Legible ↔ (∀ l ∈ k.progress, 9 ≤ l.length) ∧ (stod k.reply).isSome := by
  have htext {l : List Char} (hl : l ∈ k.progress ++ [k.last]) (hr : '\r' ∉ l) :
      returnText l = l := by
    obtain ⟨hNUL, hlength⟩ := hfits l hl
    rw [returnText_eq hr, ← Response.written_text, Response.text_of_fits hNUL hlength]
  have hprogress {l : List Char} (hl : l ∈ k.progress) : returnText l = l :=
    htext (List.mem_append_left _ hl) (k.progress_line l hl).1
  have hlast : returnText k.last = k.last :=
    htext (List.mem_append_right _ List.mem_cons_self) k.last_line.1
  constructor
  · intro h
    refine ⟨fun l hl => ?_, h.reply⟩
    rw [← hprogress hl]
    exact (h.progress l hl).1
  · rintro ⟨hlong, hreply⟩
    refine ⟨fun l hl => ?_, ?_, hreply⟩
    · rw [hprogress hl]
      exact ⟨hlong l hl, (k.progress_line l hl).2⟩
    · rw [hlast]
      exact k.last_line.2

def shortLine : Shutdown where
  echo := []
  status := []
  progress := [['1', '0', '%']]
  last := Cryocooler.complete
  rest := [.byte '\n', .byte '\n', .byte '1', .byte '\n']
  echo_line := List.not_mem_nil
  status_line := List.not_mem_nil
  progress_line := by decide
  last_line := by decide

theorem not_handled : ¬ ∀ (k : Shutdown) (c : Cryocooler), k.Handled c := by
  intro h
  have hloop := (h shortLine default).loop [] []
  have hlines := (Cryocooler.awaitComplete_returned_iff [] _ [] (by decide) (by decide)).mp hloop
  revert hlines
  decide

end Shutdown
end CryoController
