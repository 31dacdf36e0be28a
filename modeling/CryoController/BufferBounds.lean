import CryoController.SerialDevice

/-!
# Where the line readers store

Each formatted write stores a character at `spot` and a NUL behind it, and `spot`
then moves by what `read` returned. No loop tests it against the size of
`response`, so the stream alone decides how far a call stores: by the length of its
line and, in `RReadLine`, by the result of the first `read`.
-/

namespace CryoController

def formatted (spot : ℤ) : ℕ → List ℤ
  | 0 => []
  | k + 1 => spot :: (spot + 1) :: formatted (spot + 1) k

def Inside (stores : List ℤ) : Prop := ∀ i ∈ stores, 0 ≤ i ∧ i ≤ 1023

theorem inside_nil : Inside [] := fun _ hi => absurd hi List.not_mem_nil

theorem inside_append {stores later : List ℤ} :
    Inside (stores ++ later) ↔ Inside stores ∧ Inside later :=
  List.forall_mem_append

theorem inside_formatted_iff (spot : ℤ) (k : ℕ) :
    Inside (formatted spot k) ↔ k = 0 ∨ 0 ≤ spot ∧ spot + k ≤ 1023 := by
  induction k generalizing spot with
  | zero => exact iff_of_true inside_nil (.inl rfl)
  | succ k ih =>
    rw [Inside, formatted, List.forall_mem_cons, List.forall_mem_cons, ← Inside, ih]
    omega

def lineLength (stop : Char) : List ReadResult → ℕ
  | .byte c :: rest => if c = stop then 0 else lineLength stop rest + 1
  | _ => 0

def endsInReturn : List ReadResult → Bool
  | .byte c :: rest => if c = '\r' then true else endsInReturn rest
  | _ => false

theorem Response.put_stores (r : Response) (buf : Char) (n : ℤ) :
    (r.put buf n).stores = r.stores ++ formatted r.spot 1 :=
  List.append_assoc _ _ _

theorem readToNewline_stores (r : Response) (buf : Char) (reads : List ReadResult) :
    (readToNewline r buf reads).2.1.stores =
      r.stores ++ formatted r.spot (lineLength '\n' reads + 1) := by
  induction reads generalizing r buf with
  | nil => exact r.put_stores buf 0
  | cons x rest ih =>
    cases x with
    | timeout => exact r.put_stores buf 0
    | error => exact r.put_stores buf (-1)
    | byte c =>
      simp only [readToNewline, lineLength]
      split_ifs
      · exact r.put_stores c 1
      · rw [ih, Response.put_stores, List.append_assoc]
        rfl

theorem readToReturn_stores (r : Response) (buf : Char) (reads : List ReadResult) :
    (readToReturn r buf reads).2.1.stores = r.stores ++
      formatted r.spot (lineLength '\r' reads + if endsInReturn reads then 0 else 1) := by
  induction reads generalizing r buf with
  | nil => exact r.put_stores buf 0
  | cons x rest ih =>
    cases x with
    | timeout => exact r.put_stores buf 0
    | error => exact r.put_stores buf (-1)
    | byte c =>
      by_cases hc : c = '\r'
      · simp only [readToReturn, lineLength, endsInReturn, if_pos hc]
        exact (List.append_nil _).symm
      · simp only [readToReturn, lineLength, endsInReturn, if_neg hc]
        rw [ih, Response.put_stores, List.append_assoc, Nat.add_right_comm]
        rfl

theorem readToNewline_inside_iff {r : Response} (hr : Inside r.stores) (buf : Char)
    (reads : List ReadResult) :
    Inside (readToNewline r buf reads).2.1.stores ↔
      0 ≤ r.spot ∧ r.spot + lineLength '\n' reads ≤ 1022 := by
  rw [readToNewline_stores, inside_append, inside_formatted_iff, and_iff_right hr]
  omega

theorem readToNewline_put_inside_iff (buf : Char) (n : ℤ) (reads : List ReadResult) :
    Inside (readToNewline (Response.blank.put buf n) buf reads).2.1.stores ↔
      0 ≤ n ∧ n + lineLength '\n' reads ≤ 1022 := by
  have hfirst : Inside (Response.blank.put buf n).stores := by
    rw [Response.put_stores, inside_append, inside_formatted_iff]
    exact ⟨inside_nil, .inr ⟨le_rfl, by decide⟩⟩
  have hspot : (Response.blank.put buf n).spot = n := Int.zero_add n
  rw [readToNewline_inside_iff hfirst, hspot]

theorem readToReturn_inside_iff (buf : Char) (reads : List ReadResult) :
    Inside (readToReturn .blank buf reads).2.1.stores ↔
      lineLength '\r' reads ≤ if endsInReturn reads then 1023 else 1022 := by
  have hblank : Inside Response.blank.stores := inside_nil
  have hspot : Response.blank.spot = 0 := rfl
  rw [readToReturn_stores, inside_append, inside_formatted_iff, and_iff_right hblank, hspot]
  by_cases h : endsInReturn reads = true
  · rw [if_pos h, if_pos h]
    omega
  · rw [if_neg h, if_neg h]
    omega

inductive LineReader
  | readLine
  | readLineThrowR
  | rReadLine
  deriving DecidableEq, Repr, Inhabited

namespace LineReader
variable {κ : Type}

def call (p : Port κ) : LineReader → Option (ℤ × Response × List ReadResult)
  | .readLine => some (readToNewline .blank '\x00' p.reads)
  | .readLineThrowR => some (readToReturn .blank '\x00' p.reads)
  | .rReadLine =>
    match p.selects with
    | true :: _ =>
      let (n, buf, reads) := readFirst p.reads
      some (readToNewline (Response.blank.put buf n) buf reads)
    | _ => none

def line (p : Port κ) : LineReader → List Char
  | .readLine => p.readLine.1
  | .readLineThrowR => p.readLineThrowR.1
  | .rReadLine => p.rReadLine.1

theorem line_eq_result (reader : LineReader) (p : Port κ) :
    reader.line p = (reader.call p).elim [] fun q => q.2.1.result q.1 := by
  cases reader with
  | readLine => rfl
  | readLineThrowR => rfl
  | rReadLine =>
    rw [line, call, Port.rReadLine]
    cases p.selects with
    | nil => rfl
    | cons available selects => cases available <;> rfl

def stores (reader : LineReader) (p : Port κ) : List ℤ :=
  (reader.call p).elim [] fun q => q.2.1.stores

/-- The last character that a call stores leaves room for its NUL. -/
def Fits (p : Port κ) : LineReader → Prop
  | .readLine => lineLength '\n' p.reads ≤ 1022
  | .readLineThrowR => lineLength '\r' p.reads ≤ if endsInReturn p.reads then 1023 else 1022
  | .rReadLine =>
    match p.selects, p.reads with
    | true :: _, .byte _ :: rest => lineLength '\n' rest ≤ 1021
    | true :: _, .timeout :: rest => lineLength '\n' rest ≤ 1022
    -- the count -1 moves the cursor in front of the buffer
    | true :: _, .error :: _ => False
    | _, _ => True

theorem inside_iff_fits (reader : LineReader) (p : Port κ) :
    Inside (reader.stores p) ↔ reader.Fits p := by
  have hblank : Inside Response.blank.stores := inside_nil
  cases reader with
  | readLine =>
    rw [stores, call, Option.elim_some, readToNewline_inside_iff hblank]
    change 0 ≤ (0 : ℤ) ∧ 0 + (lineLength '\n' p.reads : ℤ) ≤ 1022 ↔ _ ≤ _
    omega
  | readLineThrowR => exact readToReturn_inside_iff '\x00' p.reads
  | rReadLine =>
    rw [stores, call, Fits]
    cases p.selects with
    | nil => exact iff_of_true inside_nil trivial
    | cons available selects =>
      cases available with
      | false => exact iff_of_true inside_nil trivial
      | true =>
        cases p.reads with
        | nil =>
          have hsilent := (readToNewline_put_inside_iff '\x00' 0 []).mpr (by decide)
          exact iff_of_true hsilent trivial
        | cons x rest =>
          cases x with
          | byte c =>
            refine (readToNewline_put_inside_iff c 1 rest).trans ?_
            omega
          | timeout =>
            refine (readToNewline_put_inside_iff '\x00' 0 rest).trans ?_
            omega
          | error =>
            refine (readToNewline_put_inside_iff '\x00' (-1) rest).trans ?_
            exact iff_of_false (fun h => absurd h.1 (by decide)) id

/-- A failed first `read` makes the loop of `RReadLine` store in front of the buffer. -/
theorem not_inside : ¬ ∀ (reader : LineReader) (p : Port Unit), Inside (reader.stores p) := by
  intro h
  have hfirst := h .rReadLine (.opened [.error] [true])
  exact absurd (hfirst (-1) (by decide)) (by decide)

end LineReader
end CryoController
