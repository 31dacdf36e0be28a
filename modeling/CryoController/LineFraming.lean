import CryoController.LineReaders
import CryoController.Foundations.Framing

/-!
# Line framing under timeouts

A `ReadLine` that meets a timeout or an error returns the empty string and drops
the bytes that it has taken from the line. The next call then returns the rest of
that line as if it were one. So the calls return the pieces of the stream: whole
lines exactly as long as no timeout or error falls inside one.
-/

open Framing
namespace CryoController

def ReadResult.item : ReadResult → Option Char
  | .byte c => some c
  | _ => none

namespace Port
variable {κ : Type}

def items (p : Port κ) : List (Option Char) := p.reads.map ReadResult.item

def lines (p : Port κ) : List (List Char) := Framing.lines '\n' [] p.items.reduceOption

def readLines : ℕ → Port κ → List (List Char)
  | 0, _ => []
  | n + 1, p => p.readLine.1 :: readLines n p.readLine.2

def afterLines : ℕ → Port κ → Port κ
  | 0, p => p
  | n + 1, p => afterLines n p.readLine.2

def received (n : ℕ) (p : Port κ) : List (List Char) := (p.readLines n).filter (· ≠ [])

/-- The strings received are lines of the stream, in order and none twice, and an
undisturbed stream comes whole. -/
structure Framed (p : Port κ) : Prop where
  whole : ∀ n, (p.received n).Sublist p.lines
  complete : (∀ x ∈ p.reads, ∃ c, x = .byte c) → ∃ n, p.received n = p.lines

def Fits (pieces : List (List Char)) : Prop :=
  ∀ piece ∈ pieces, '\x00' ∉ piece ∧ piece.length < 1024

theorem readToNewline_pieces {cs : List Char} {reads : List ReadResult} (buf : Char)
    (hfits : Fits (pieces '\n' cs (reads.map ReadResult.item))) :
    let q := readToNewline (.written cs) buf reads
    pieces '\n' cs (reads.map ReadResult.item) =
      [q.2.1.result q.1].filter (· ≠ []) ++ pieces '\n' [] (q.2.2.map ReadResult.item) := by
  induction reads generalizing cs buf with
  | nil => rfl
  | cons x rest ih =>
    cases x with
    | timeout => rfl
    | error => rfl
    | byte c =>
      simp only [List.map_cons, ReadResult.item, pieces, readToNewline] at hfits ⊢
      by_cases hc : c = '\n'
      · simp only [if_pos hc] at hfits ⊢
        obtain ⟨hNUL, hlength⟩ := hfits _ List.mem_cons_self
        have hresult : ((Response.written cs).put c 1).result 1 = cs ++ [c] := by
          rw [← Response.written_concat]
          exact Response.text_of_fits hNUL hlength
        rw [hresult]
        simp
      · simp only [if_neg hc] at hfits ⊢
        rw [← Response.written_concat]
        exact ih c hfits

theorem readLine_pieces {p : Port κ} (hfits : Fits (pieces '\n' [] p.items)) :
    pieces '\n' [] p.items =
      [p.readLine.1].filter (· ≠ []) ++ pieces '\n' [] p.readLine.2.items :=
  readToNewline_pieces '\x00' hfits

theorem received_succ (n : ℕ) (p : Port κ) :
    p.received (n + 1) = [p.readLine.1].filter (· ≠ []) ++ p.readLine.2.received n := by
  rw [received, readLines, List.filter_cons]
  split_ifs with h
  · rw [List.filter_cons, if_pos h]
    rfl
  · rw [List.filter_cons, if_neg h]
    rfl

theorem received_pieces {p : Port κ} (hfits : Fits (pieces '\n' [] p.items)) (n : ℕ) :
    pieces '\n' [] p.items = p.received n ++ pieces '\n' [] (p.afterLines n).items := by
  induction n generalizing p with
  | zero => rfl
  | succ n ih =>
    have hpieces := readLine_pieces hfits
    have hrest : Fits (pieces '\n' [] p.readLine.2.items) := by
      intro piece hpiece
      apply hfits
      rw [hpieces]
      exact List.mem_append_right _ hpiece
    rw [hpieces, received_succ, ih hrest, List.append_assoc]
    rfl

theorem afterLines_reads_length (n : ℕ) (p : Port κ) :
    (p.afterLines n).reads.length ≤ p.reads.length - n := by
  induction n generalizing p with
  | zero => exact le_rfl
  | succ n ih =>
    have hline : p.readLine.2.reads.length ≤ p.reads.length - 1 :=
      readToNewline_rest_length _ _ _
    have hrest := ih p.readLine.2
    rw [afterLines]
    omega

theorem received_all {p : Port κ} (hfits : Fits (pieces '\n' [] p.items)) :
    p.received p.reads.length = pieces '\n' [] p.items := by
  have hlength := p.afterLines_reads_length p.reads.length
  have hnil : (p.afterLines p.reads.length).reads = [] :=
    List.eq_nil_of_length_eq_zero (by omega)
  rw [received_pieces hfits p.reads.length, items, hnil]
  exact (List.append_nil _).symm

theorem fits_pieces {p : Port κ} (hNUL : .byte '\x00' ∉ p.reads)
    (hshort : ∀ line ∈ p.lines, line.length < 1024) : Fits (pieces '\n' [] p.items) := by
  intro piece hpiece
  obtain ⟨line, hline, hend⟩ := exists_line_of_mem_pieces List.suffix_rfl hpiece
  refine ⟨?_, lt_of_le_of_lt hend.length_le (hshort line hline)⟩
  intro hmem
  have hitem : '\x00' ∈ p.items.reduceOption := mem_of_mem_line hline (hend.subset hmem)
  obtain ⟨x, hx, hxNUL⟩ := List.mem_map.mp (List.reduceOption_mem_iff.mp hitem)
  cases x with
  | byte c =>
    cases hxNUL
    exact hNUL hx
  | _ => cases hxNUL

theorem framed_iff {p : Port κ} (hNUL : .byte '\x00' ∉ p.reads)
    (hshort : ∀ line ∈ p.lines, line.length < 1024) :
    Framed p ↔ Unbroken '\n' false p.items := by
  have hfits := fits_pieces hNUL hshort
  rw [← pieces_sublist_iff]
  constructor
  · intro h
    rw [← received_all hfits]
    exact h.whole _
  · intro hsub
    refine ⟨?_, ?_⟩
    · intro n
      have hprefix : p.received n <+: pieces '\n' [] p.items :=
        ⟨_, (received_pieces hfits n).symm⟩
      exact hprefix.sublist.trans hsub
    · intro hundisturbed
      refine ⟨p.reads.length, ?_⟩
      rw [received_all hfits]
      exact hsub.eq_of_length (pieces_length _ _ _)

theorem framed_iff_sample :
    let p : Port Unit := .opened [.byte '1', .byte '\n', .timeout, .byte '2', .byte '\n'] []
    Framed p ↔ Unbroken '\n' false p.items :=
  framed_iff (by decide) (by decide)

/-- A timeout after the first digit of `27` makes a `7` of it. -/
theorem not_framed :
    ¬ ∀ p : Port Unit, .byte '\x00' ∉ p.reads → (∀ line ∈ p.lines, line.length < 1024) →
      Framed p := by
  intro h
  have hframed := h (.opened [.byte '2', .timeout, .byte '7', .byte '\n'] [])
    (by decide) (by decide)
  have hwhole := hframed.whole 2
  revert hwhole
  decide

end Port
end CryoController
