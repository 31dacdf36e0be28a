import CryoController.Foundations.Decimal
import CryoController.Foundations.Framing

/-!
# Wire formats

In a wire format every command has a text that ends in the terminator and holds no other
one, and a reader that gets the text back prints it as the same command. A receiver that
cuts the bytes into lines and reads them then has the commands; when the bytes break off, it
has the commands up to there.

A vocabulary is a format whose texts are a verb and for some verbs a number. No verb begins
another one, so the verb of a line is the only one that the line begins with.
-/

namespace Framing

section Lines
variable {α : Type*} [DecidableEq α]

theorem lines_append_of_line {stop : α} {body : List α} (h : stop ∉ body) (acc rest : List α) :
    lines stop acc (body ++ stop :: rest) = (acc ++ body ++ [stop]) :: lines stop [] rest := by
  induction body generalizing acc with
  | nil => rw [List.nil_append, lines, if_pos rfl, List.append_nil]
  | cons c body ih =>
    rw [List.mem_cons, not_or] at h
    rw [List.cons_append, lines, if_neg (Ne.symm h.1), ih h.2, List.append_assoc acc [c],
      List.singleton_append]

theorem lines_monotone {stop : α} (acc bs rest : List α) :
    lines stop acc bs <+: lines stop acc (bs ++ rest) := by
  induction bs generalizing acc with
  | nil => exact List.nil_prefix
  | cons c bs ih =>
    rw [List.cons_append, lines, lines]
    split_ifs
    · exact List.cons_prefix_cons.mpr ⟨rfl, ih []⟩
    · exact ih (acc ++ [c])

end Lines

structure WireFormat (α κ : Type*) where
  text : κ → List α
  stop : α
  read : List α → Option κ
  printed : κ → κ
  framed : ∀ c, ∃ body, text c = body ++ [stop] ∧ stop ∉ body
  read_text : ∀ c, read (text c) = some (printed c)

namespace WireFormat
variable {α κ : Type*} [DecidableEq α] (w : WireFormat α κ)

def bytes (cs : List κ) : List α := cs.flatMap w.text

def received (bs : List α) : List κ := (lines w.stop [] bs).filterMap w.read

theorem lines_bytes (cs : List κ) : lines w.stop [] (w.bytes cs) = cs.map w.text := by
  induction cs with
  | nil => rfl
  | cons c cs ih =>
    obtain ⟨body, htext, hbody⟩ := w.framed c
    have hbytes : w.bytes (c :: cs) = body ++ w.stop :: w.bytes cs := by
      rw [bytes, List.flatMap_cons, htext, List.append_assoc]
      rfl
    rw [hbytes, lines_append_of_line hbody, ih, List.map_cons, htext]
    rfl

theorem received_bytes (cs : List κ) : w.received (w.bytes cs) = cs.map w.printed := by
  rw [received, lines_bytes, List.filterMap_map]
  have hread : w.read ∘ w.text = some ∘ w.printed := funext w.read_text
  rw [hread, ← List.filterMap_eq_map]

theorem received_of_prefix {bs : List α} {cs : List κ} (h : bs <+: w.bytes cs) :
    w.received bs <+: cs.map w.printed := by
  obtain ⟨rest, hrest⟩ := h
  rw [← received_bytes, ← hrest]
  exact (lines_monotone [] bs rest).filterMap w.read

end WireFormat
end Framing

namespace Numeral
open Framing

inductive LineEnding
  | newline
  | carriageReturn
  | both
  deriving DecidableEq, Repr, Inhabited

namespace LineEnding

def front : LineEnding → List Char
  | both => ['\r']
  | _ => []

def stop : LineEnding → Char
  | carriageReturn => '\r'
  | _ => '\n'

def text (e : LineEnding) : List Char := e.front ++ [e.stop]

theorem front_notMem (e : LineEnding) : e.stop ∉ e.front := by cases e <;> decide

theorem stop_notMem (e : LineEnding) (d : Decimal) : e.stop ∉ d.text := by
  cases e <;> exact d.notMem_text (by decide)

theorem ends (e : LineEnding) : Ends e.text := by
  intro c hc
  cases e <;> cases hc <;> rfl

end LineEnding

def lineText (head : List Char) (number : Option Decimal) (ending : LineEnding) : List Char :=
  head ++ number.elim [] fun d => d.text ++ ending.text

structure Verb (κ : Type*) where
  head : List Char
  numbered : Bool
  make : ℚ → κ

namespace Verb
variable {κ : Type*}

def Apart (v u : Verb κ) : Prop := ¬ v.head <+: u.head ∧ ¬ u.head <+: v.head

instance (v u : Verb κ) : Decidable (v.Apart u) := inferInstanceAs (Decidable (_ ∧ _))

/-- The command of the verb that the line begins with. A verb without a number gets zero. -/
def read (verbs : List (Verb κ)) (line : List Char) : Option κ :=
  (verbs.find? fun v => v.head.isPrefixOf line).map fun v =>
    v.make ((numeral (line.drop v.head.length)).getD 0)

theorem find_of_apart {verbs : List (Verb κ)} (hapart : verbs.Pairwise Apart) {v : Verb κ}
    (hv : v ∈ verbs) (tail : List Char) :
    verbs.find? (fun u => u.head.isPrefixOf (v.head ++ tail)) = some v := by
  obtain ⟨front, back, rfl⟩ := List.append_of_mem hv
  refine List.find?_eq_some_iff_append.mpr ⟨?_, front, back, rfl, fun u hu => ?_⟩
  · exact List.isPrefixOf_iff_prefix.mpr (List.prefix_append _ _)
  · obtain ⟨-, -, hpairs⟩ := List.pairwise_append.mp hapart
    obtain ⟨hnot, hnot'⟩ := hpairs u hu v List.mem_cons_self
    rw [Bool.not_eq_true', ← Bool.not_eq_true, List.isPrefixOf_iff_prefix]
    intro hprefix
    exact (List.prefix_or_prefix_of_prefix hprefix (List.prefix_append v.head tail)).elim hnot hnot'

theorem read_lineText {verbs : List (Verb κ)} (hapart : verbs.Pairwise Apart) {v : Verb κ}
    (hv : v ∈ verbs) (number : Option Decimal) (ending : LineEnding) :
    read verbs (lineText v.head number ending) =
      some (v.make ((number.map Decimal.value).getD 0)) := by
  have hnumeral : (numeral (number.elim [] fun d => d.text ++ ending.text)).getD 0 =
      (number.map Decimal.value).getD 0 := by
    cases number with
    | none => rfl
    | some d => rw [Option.elim_some, d.numeral_text ending.ends]; rfl
  rw [read, lineText, find_of_apart hapart hv, Option.map_some, List.drop_left, hnumeral]

def Framed (stop : Char) (v : Verb κ) : Prop :=
  if v.numbered then stop ∉ v.head
  else v.head = v.head.dropLast ++ [stop] ∧ stop ∉ v.head.dropLast

instance (stop : Char) (v : Verb κ) : Decidable (v.Framed stop) :=
  inferInstanceAs (Decidable (if v.numbered then _ else _))

theorem lineText_framed {v : Verb κ} {ending : LineEnding} (hframed : v.Framed ending.stop)
    {number : Option Decimal} (hnumber : number.isSome = v.numbered) :
    ∃ body, lineText v.head number ending = body ++ [ending.stop] ∧ ending.stop ∉ body := by
  rw [Framed, ← hnumber] at hframed
  cases number with
  | none => exact ⟨v.head.dropLast, (List.append_nil v.head).trans hframed.1, hframed.2⟩
  | some d =>
    refine ⟨v.head ++ (d.text ++ ending.front), ?_, ?_⟩
    · rw [lineText, Option.elim_some, LineEnding.text, List.append_assoc, List.append_assoc]
    · simp only [List.mem_append, not_or]
      exact ⟨hframed, ending.stop_notMem d, ending.front_notMem⟩

end Verb

/-- The verbs of an instrument's commands, with the number that each command gets printed. -/
structure Vocabulary (κ : Type*) where
  verb : κ → Verb κ
  number : κ → Option Decimal
  printed : κ → κ
  verbs : List (Verb κ)
  ending : LineEnding
  verb_mem : ∀ c, verb c ∈ verbs
  number_isSome : ∀ c, (number c).isSome = (verb c).numbered
  make_number : ∀ c, (verb c).make (((number c).map Decimal.value).getD 0) = printed c
  apart : verbs.Pairwise Verb.Apart
  framed : ∀ v ∈ verbs, v.Framed ending.stop

def Vocabulary.format {κ : Type*} (w : Vocabulary κ) : WireFormat Char κ where
  text c := lineText (w.verb c).head (w.number c) w.ending
  stop := w.ending.stop
  read := Verb.read w.verbs
  printed := w.printed
  framed c := Verb.lineText_framed (w.framed _ (w.verb_mem c)) (w.number_isSome c)
  read_text c := by rw [Verb.read_lineText w.apart (w.verb_mem c), w.make_number]

end Numeral
