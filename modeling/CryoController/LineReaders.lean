import Mathlib.Data.List.Induction
import Mathlib.Data.List.TakeWhile
import CryoController.SerialDevice

/-!
# What the readers make of a stream

Byte after byte the buffer holds what has been read, as far as it goes, and the
text is cut at the first NUL. So a whole line of fewer than 1024 bytes without a
NUL comes back as it is. `RReadLine` stores its first byte before its loop; from
the second byte on it is `ReadLine`.
-/

namespace CryoController

namespace Response

def written (cs : List Char) : Response := cs.foldl (fun r c => r.put c 1) blank

theorem written_concat (cs : List Char) (c : Char) :
    written (cs ++ [c]) = (written cs).put c 1 := by
  rw [written, List.foldl_append]
  rfl

theorem written_spot (cs : List Char) : (written cs).spot = cs.length := by
  induction cs using List.reverseRecOn with
  | nil => rfl
  | append_singleton cs c ih =>
    rw [written_concat, List.length_append, List.length_singleton]
    change (written cs).spot + 1 = _
    omega

theorem written_cells (cs : List Char) :
    (written cs).cells = (cs ++ List.replicate 1024 '\x00').take 1024 := by
  induction cs using List.reverseRecOn with
  | nil =>
    rw [List.nil_append, List.take_of_length_le List.length_replicate.le]
    rfl
  | append_singleton cs c ih =>
    have hspot : 0 ≤ (written cs).spot := by rw [written_spot]; omega
    have hnext : 0 ≤ (written cs).spot + 1 := by omega
    rw [written_concat]
    have hlast : (written cs).spot.toNat = cs.length ∧
        ((written cs).spot + 1).toNat = cs.length + 1 := by
      rw [written_spot]
      omega
    simp only [put, store, if_pos hspot, if_pos hnext, ih, hlast.1, hlast.2]
    apply List.ext_getElem?
    intro j
    simp only [List.getElem?_set, List.length_set, List.length_take, List.length_append,
      List.length_replicate, List.length_singleton, List.getElem?_take, List.getElem?_append,
      List.getElem?_replicate]
    grind

theorem written_text (cs : List Char) :
    (written cs).text = (cs.takeWhile (· ≠ '\x00')).take 1024 := by
  have hNUL : (List.replicate 1024 '\x00').takeWhile (fun c => decide (c ≠ '\x00')) = [] := by
    rw [List.takeWhile_replicate]
    rfl
  rw [text, written_cells, ← List.take_takeWhile, List.takeWhile_append, hNUL, List.append_nil]
  split_ifs with hlen
  · rw [(List.takeWhile_prefix _).eq_of_length hlen]
  · rfl

theorem text_of_fits {cs : List Char} (hNUL : '\x00' ∉ cs) (hlen : cs.length < 1024) :
    (written cs).text = cs := by
  have hkept : cs.takeWhile (fun c => decide (c ≠ '\x00')) = cs := by
    rw [List.takeWhile_eq_self_iff]
    intro c hc
    exact decide_eq_true fun h => hNUL (h ▸ hc)
  rw [written_text, hkept, List.take_of_length_le hlen.le]

end Response

def lineText (line : List Char) : List Char :=
  let (n, r, _) := readToNewline .blank '\x00' ((line ++ ['\n']).map .byte)
  r.result n

def returnText (chunk : List Char) : List Char :=
  let (n, r, _) := readToReturn .blank '\x00' ((chunk ++ ['\r']).map .byte)
  r.result n

theorem readToNewline_line {line : List Char} (h : '\n' ∉ line) (r : Response) (buf : Char)
    (rest : List ReadResult) :
    readToNewline r buf ((line ++ ['\n']).map .byte ++ rest) =
      ((readToNewline r buf ((line ++ ['\n']).map .byte)).1,
        (readToNewline r buf ((line ++ ['\n']).map .byte)).2.1, rest) := by
  induction line generalizing r buf with
  | nil => rfl
  | cons c line ih =>
    obtain ⟨hc, hline⟩ := not_or.mp (mt List.mem_cons.mpr h)
    simp only [List.cons_append, List.map_cons, readToNewline, if_neg (Ne.symm hc)]
    exact ih hline _ _

theorem readToReturn_chunk {chunk : List Char} (h : '\r' ∉ chunk) (r : Response) (buf : Char)
    (rest : List ReadResult) :
    readToReturn r buf ((chunk ++ ['\r']).map .byte ++ rest) =
      ((readToReturn r buf ((chunk ++ ['\r']).map .byte)).1,
        (readToReturn r buf ((chunk ++ ['\r']).map .byte)).2.1, rest) := by
  induction chunk generalizing r buf with
  | nil => rfl
  | cons c chunk ih =>
    obtain ⟨hc, hchunk⟩ := not_or.mp (mt List.mem_cons.mpr h)
    simp only [List.cons_append, List.map_cons, readToReturn, if_neg (Ne.symm hc)]
    exact ih hchunk _ _

theorem readToNewline_written {line : List Char} (h : '\n' ∉ line) (cs : List Char) (buf : Char) :
    readToNewline (.written cs) buf ((line ++ ['\n']).map .byte) =
      (1, .written (cs ++ (line ++ ['\n'])), []) := by
  induction line generalizing cs buf with
  | nil =>
    rw [List.nil_append, Response.written_concat]
    rfl
  | cons c line ih =>
    obtain ⟨hc, hline⟩ := not_or.mp (mt List.mem_cons.mpr h)
    simp only [List.cons_append, List.map_cons, readToNewline, if_neg (Ne.symm hc)]
    rw [← Response.written_concat, ih hline, List.append_assoc]
    rfl

theorem readToReturn_written {chunk : List Char} (h : '\r' ∉ chunk) (cs : List Char) (buf : Char) :
    readToReturn (.written cs) buf ((chunk ++ ['\r']).map .byte) =
      (1, .written (cs ++ chunk), []) := by
  induction chunk generalizing cs buf with
  | nil =>
    rw [List.append_nil]
    rfl
  | cons c chunk ih =>
    obtain ⟨hc, hchunk⟩ := not_or.mp (mt List.mem_cons.mpr h)
    simp only [List.cons_append, List.map_cons, readToReturn, if_neg (Ne.symm hc)]
    rw [← Response.written_concat, ih hchunk, List.append_assoc]
    rfl

theorem lineText_eq {line : List Char} (h : '\n' ∉ line) :
    lineText line = ((line ++ ['\n']).takeWhile (· ≠ '\x00')).take 1024 := by
  rw [lineText, ← Response.written_text]
  exact congrArg (fun q => q.2.1.result q.1) (readToNewline_written h [] '\x00')

theorem returnText_eq {chunk : List Char} (h : '\r' ∉ chunk) :
    returnText chunk = (chunk.takeWhile (· ≠ '\x00')).take 1024 := by
  rw [returnText, ← Response.written_text]
  exact congrArg (fun q => q.2.1.result q.1) (readToReturn_written h [] '\x00')

theorem lineText_of_fits {line : List Char} (h : '\n' ∉ line) (hNUL : '\x00' ∉ line)
    (hlen : line.length < 1023) : lineText line = line ++ ['\n'] := by
  have hfits : (line ++ ['\n']).length < 1024 := by
    rw [List.length_append, List.length_singleton]
    omega
  rw [lineText_eq h, ← Response.written_text, Response.text_of_fits _ hfits]
  simp [hNUL]

section Port
variable {κ : Type} (sent : List κ) (rest : List ReadResult) (selects : List Bool)

theorem readLine_line {line : List Char} (h : '\n' ∉ line) :
    (⟨sent, (line ++ ['\n']).map .byte ++ rest, selects⟩ : Port κ).readLine =
      (lineText line, ⟨sent, rest, selects⟩) := by
  rw [Port.readLine, readToNewline_line h]
  rfl

theorem readLineThrowR_chunk {chunk : List Char} (h : '\r' ∉ chunk) :
    (⟨sent, (chunk ++ ['\r']).map .byte ++ rest, selects⟩ : Port κ).readLineThrowR =
      (returnText chunk, ⟨sent, rest, selects⟩) := by
  rw [Port.readLineThrowR, readToReturn_chunk h]
  rfl

end Port

namespace Port
variable {κ : Type} {p : Port κ}

/-- A line that `RReadLine` reads is the one that `ReadLine` would, and when it
has nothing to read it leaves the line alone. -/
structure RobustAgrees (p : Port κ) : Prop where
  available : ∀ c rest selects, p.selects = true :: selects → p.reads = .byte c :: rest →
    p.rReadLine.1 = p.readLine.1 ∧ p.rReadLine.2.2.reads = p.readLine.2.reads ∧
      p.rReadLine.2.1 = false
  stalled : p.rReadLine.2.1 = true → p.rReadLine.1 = [] ∧ p.rReadLine.2.2.reads = p.reads

theorem rReadLine_of_stalled (h : p.rReadLine.2.1 = true) :
    p.rReadLine.1 = [] ∧ p.rReadLine.2.2.reads = p.reads := by
  rw [rReadLine] at h ⊢
  split at h
  · cases h
  · exact ⟨rfl, rfl⟩
  · exact ⟨rfl, rfl⟩

theorem readToNewline_rest_length (r : Response) (buf : Char) (reads : List ReadResult) :
    (readToNewline r buf reads).2.2.length ≤ reads.length - 1 := by
  induction reads generalizing r buf with
  | nil => exact le_rfl
  | cons x rest ih =>
    cases x with
    | timeout => exact le_rfl
    | error => exact le_rfl
    | byte c =>
      simp only [readToNewline]
      split_ifs
      · exact le_rfl
      · exact (ih _ _).trans (Nat.sub_le_sub_right (Nat.le_succ _) 1)

theorem readLine_of_newline {rest : List ReadResult} (h : p.reads = .byte '\n' :: rest) :
    p.readLine.1 = ['\n'] ∧ p.readLine.2.reads = rest := by
  have hline : lineText [] = ['\n'] := lineText_of_fits (by simp) (by simp) (by simp)
  rw [readLine, h]
  exact ⟨hline, rfl⟩

theorem rReadLine_of_byte {c : Char} {rest : List ReadResult} {selects : List Bool}
    (hselect : p.selects = true :: selects) (hreads : p.reads = .byte c :: rest) (hc : c ≠ '\n') :
    p.rReadLine.1 = p.readLine.1 ∧ p.rReadLine.2.2.reads = p.readLine.2.reads ∧
      p.rReadLine.2.1 = false := by
  simp only [rReadLine, readLine, hselect, hreads, readFirst, readToNewline, if_neg hc]
  exact ⟨trivial, trivial, trivial⟩

theorem rReadLine_of_newline {rest : List ReadResult} {selects : List Bool}
    (hselect : p.selects = true :: selects) (hreads : p.reads = .byte '\n' :: rest) :
    ¬ (p.rReadLine.1 = p.readLine.1 ∧ p.rReadLine.2.2.reads = p.readLine.2.reads) := by
  obtain ⟨hline, hrest⟩ := readLine_of_newline hreads
  rw [hline, hrest]
  simp only [rReadLine, hselect, hreads, readFirst]
  rintro ⟨hsame, hleft⟩
  have hlength := readToNewline_rest_length (Response.blank.put '\n' 1) '\n' rest
  rw [hleft] at hlength
  have hnil : rest = [] := List.eq_nil_of_length_eq_zero (by omega)
  rw [hnil] at hsame
  cases hsame

theorem robustAgrees_iff (p : Port κ) :
    RobustAgrees p ↔
      ¬ (p.selects.head? = some true ∧ p.reads.head? = some (.byte '\n')) := by
  constructor
  · rintro h ⟨hselect, hreads⟩
    obtain ⟨selects, hselects⟩ := List.head?_eq_some_iff.mp hselect
    obtain ⟨rest, hrest⟩ := List.head?_eq_some_iff.mp hreads
    obtain ⟨hline, hleft, -⟩ := h.available _ _ _ hselects hrest
    exact rReadLine_of_newline hselects hrest ⟨hline, hleft⟩
  · intro h
    refine ⟨?_, rReadLine_of_stalled⟩
    intro c rest selects hselects hrest
    apply rReadLine_of_byte hselects hrest
    rintro rfl
    exact h ⟨by rw [hselects, List.head?_cons], by rw [hrest, List.head?_cons]⟩

/-- A blank line before the answer makes the two readers differ. -/
theorem not_robustAgrees : ¬ ∀ p : Port Unit, RobustAgrees p := by
  intro h
  have hblank := h (.opened [.byte '\n', .byte '1', .byte '\n'] [true])
  obtain ⟨hline, hleft, -⟩ := hblank.available _ _ _ rfl rfl
  exact rReadLine_of_newline rfl rfl ⟨hline, hleft⟩

end Port

end CryoController
