import Mathlib.Algebra.Order.Group.Int
import Mathlib.Data.List.Basic
import Mathlib.Tactic.SplitIfs

/-!
# The serial line readers of `SerialDeviceT.cpp`

A port is what the process sees of a line: the commands it has written, and the
results that its `read` and `select` calls are going to give. The results are
arbitrary and finite; after them the line is silent, so a `read` times out and a
`select` reports nothing. Commands are symbolic: a program has a type `κ` of
them, with the numbers that `std::to_string` prints kept exact.

`readToNewline` is the loop of `ReadLine` and the second loop of `RReadLine`. Each
loop returns the last count, the buffer and the results left over.

The buffer `response[1024]` is modelled with its cursor `spot`. A store outside
it, which C++ leaves undefined, has no effect here but is recorded.
-/

namespace CryoController

inductive ReadResult
  | byte (c : Char)
  | timeout
  | error
  deriving DecidableEq, Repr, Inhabited

structure Port (κ : Type) where
  sent : List κ
  reads : List ReadResult
  selects : List Bool
  deriving DecidableEq, Repr, Inhabited

structure Response where
  cells : List Char
  spot : ℤ
  stores : List ℤ
  deriving DecidableEq, Repr

namespace Response

def blank : Response := ⟨List.replicate 1024 '\x00', 0, []⟩

def store (r : Response) (i : ℤ) (c : Char) : Response :=
  { r with
    cells := if 0 ≤ i then r.cells.set i.toNat c else r.cells
    stores := r.stores ++ [i] }

/-- `sprintf(&response[spot], "%c", buf); spot += n`, which also stores a NUL. -/
def put (r : Response) (buf : Char) (n : ℤ) : Response :=
  let r := (r.store r.spot buf).store (r.spot + 1) '\x00'
  { r with spot := r.spot + n }

def text (r : Response) : List Char := r.cells.takeWhile (· ≠ '\x00')

def result (r : Response) (n : ℤ) : List Char :=
  if n < 0 then [] else if n = 0 then [] else r.text

end Response

def readToNewline (r : Response) (buf : Char) : List ReadResult → ℤ × Response × List ReadResult
  | [] => (0, r.put buf 0, [])
  | .timeout :: rest => (0, r.put buf 0, rest)
  | .error :: rest => (-1, r.put buf (-1), rest)
  | .byte c :: rest =>
    if c = '\n' then (1, r.put c 1, rest) else readToNewline (r.put c 1) c rest

def readToReturn (r : Response) (buf : Char) : List ReadResult → ℤ × Response × List ReadResult
  | [] => (0, r.put buf 0, [])
  | .timeout :: rest => (0, r.put buf 0, rest)
  | .error :: rest => (-1, r.put buf (-1), rest)
  | .byte c :: rest =>
    if c = '\r' then (1, r, rest) else readToReturn (r.put c 1) c rest

def readFirst : List ReadResult → ℤ × Char × List ReadResult
  | [] => (0, '\x00', [])
  | .timeout :: rest => (0, '\x00', rest)
  | .error :: rest => (-1, '\x00', rest)
  | .byte c :: rest => (1, c, rest)

namespace Port
variable {κ : Type}

def opened (reads : List ReadResult) (selects : List Bool) : Port κ := ⟨[], reads, selects⟩

def writeString (p : Port κ) (c : κ) : Port κ := { p with sent := p.sent ++ [c] }

def readLine (p : Port κ) : List Char × Port κ :=
  let (n, r, rest) := readToNewline .blank '\x00' p.reads
  (r.result n, { p with reads := rest })

def readLineThrowR (p : Port κ) : List Char × Port κ :=
  let (n, r, rest) := readToReturn .blank '\x00' p.reads
  (r.result n, { p with reads := rest })

/-- The line and the status. The first byte is not compared with a newline. -/
def rReadLine (p : Port κ) : List Char × Bool × Port κ :=
  match p.selects with
  | true :: selects =>
    let (n, buf, reads) := readFirst p.reads
    let (n, r, reads) := readToNewline (Response.blank.put buf n) buf reads
    (r.result n, false, { p with reads := reads, selects := selects })
  | false :: selects => ([], true, { p with selects := selects })
  | [] => ([], true, p)

def reply (p : Port κ) : List Char := p.readLine.1

@[simp] theorem writeString_sent (p : Port κ) (c : κ) :
    (p.writeString c).sent = p.sent ++ [c] := rfl

@[simp] theorem readLine_sent (p : Port κ) : p.readLine.2.sent = p.sent := rfl

@[simp] theorem readLineThrowR_sent (p : Port κ) : p.readLineThrowR.2.sent = p.sent := rfl

@[simp] theorem rReadLine_sent (p : Port κ) : p.rReadLine.2.2.sent = p.sent := by
  rw [rReadLine]
  split <;> rfl

theorem readToReturn_rest_le (r : Response) (buf : Char) (reads : List ReadResult) :
    (readToReturn r buf reads).2.2.length ≤ reads.length := by
  induction reads generalizing r buf with
  | nil => exact le_rfl
  | cons x rest ih =>
    cases x with
    | timeout => exact Nat.le_succ _
    | error => exact Nat.le_succ _
    | byte c =>
      simp only [readToReturn]
      split_ifs
      · exact Nat.le_succ _
      · exact (ih _ _).trans (Nat.le_succ _)

theorem readLineThrowR_lt {p : Port κ} (h : p.readLineThrowR.1 ≠ []) :
    p.readLineThrowR.2.reads.length < p.reads.length := by
  cases hreads : p.reads with
  | nil => simp [readLineThrowR, hreads, readToReturn, Response.result] at h
  | cons x rest =>
    simp only [readLineThrowR, hreads]
    cases x with
    | timeout => exact Nat.lt_succ_self _
    | error => exact Nat.lt_succ_self _
    | byte c =>
      simp only [readToReturn]
      split_ifs
      · exact Nat.lt_succ_self _
      · exact Nat.lt_succ_of_le (readToReturn_rest_le _ _ _)

end Port
end CryoController
