import CryoController.Cryocooler

/-!
# The queries of the cryocooler

A query writes its command, reads an echo line that may stall, and then the lines
of the answer. The three that read one number convert it inside a `try` and record
it afterwards. `GetE` records each of its numbers before it reads the next line,
and `checkIfON` converts its answer with no `try` around it: what these two do
depends on the answer.
-/

open Numeral Conversion
namespace CryoController

namespace Port
variable {κ : Type} (p : Port κ)

def Stalls : Prop := p.selects.head? ≠ some true

instance : Decidable p.Stalls := inferInstanceAs (Decidable (p.selects.head? ≠ some true))

def answer (i : ℕ) : List Char := ((fun p : Port κ => p.readLine.2)^[i] p.rReadLine.2.2).reply

theorem rReadLine_writeString (cmd : κ) :
    (p.writeString cmd).rReadLine =
      (p.rReadLine.1, p.rReadLine.2.1, p.rReadLine.2.2.writeString cmd) := by
  obtain ⟨sent, reads, selects⟩ := p
  cases selects with
  | nil => rfl
  | cons b selects =>
    cases b with
    | true => rfl
    | false => rfl

theorem rReadLine_status_iff : p.rReadLine.2.1 = true ↔ p.Stalls := by
  rw [rReadLine, Stalls]
  split
  · simp_all
  · simp_all
  · simp_all

end Port

structure Measurements where
  tc : ℚ
  pCurrent : ℚ
  pMax : ℚ
  pMin : ℚ
  pSet : ℚ
  controllerMode : ℤ
  isON : Bool
  deriving DecidableEq, Repr, Inhabited

def Cryocooler.measurements (c : Cryocooler) : Measurements :=
  ⟨c.tc, c.pCurrent, c.pMax, c.pMin, c.pSet, c.controllerMode, c.isON⟩

/-- The numbers as the members hold them, which are `float`. -/
def Measurements.inFloat (k : Measurements) : Measurements :=
  let round := Format.float.round
  { k with
    tc := round k.tc, pCurrent := round k.pCurrent, pMax := round k.pMax, pMin := round k.pMin,
    pSet := round k.pSet }

inductive Query
  | getTC
  | getP
  | getE
  | getPIDState
  | checkIfON
  deriving DecidableEq, Repr

namespace Query

def call (q : Query) (c : Cryocooler) (undefInt : ℚ → ℤ) : Option (ℤ × Cryocooler) :=
  match q with
  | getTC => some c.getTC
  | getP => some c.getP
  | getE => some c.getE
  | getPIDState => some (c.getPIDState undefInt)
  | checkIfON => c.checkIfON

structure Atomic (c : Cryocooler) (r : ℤ × Cryocooler) : Prop where
  status : r.1 = 0 ∨ r.1 = -1 ∨ r.1 = -2
  measurements : r.1 ≠ 0 → r.2.measurements.inFloat = c.measurements.inFloat

/-- No exception escapes, and a call that fails leaves the measurements alone. -/
def TotalAndAtomic (q : Query) (c : Cryocooler) (undefInt : ℚ → ℤ) : Prop :=
  ∃ r, q.call c undefInt = some r ∧ Atomic c r

theorem Atomic.of_zero (c c' : Cryocooler) : Atomic c (0, c') :=
  ⟨Or.inl rfl, fun hne => absurd rfl hne⟩

theorem Atomic.of_same {c : Cryocooler} {r : ℤ × Cryocooler} (hstatus : r.1 = -1 ∨ r.1 = -2)
    (hsame : r.2.measurements = c.measurements) : Atomic c r :=
  ⟨Or.inr hstatus, fun _ => congrArg _ hsame⟩

/-- The limits that `GetE` records before a line that does not convert are the ones
it had. -/
def EnergyClean (c : Cryocooler) : Prop :=
  match stof (c.port.answer 0), stof (c.port.answer 1), stof (c.port.answer 2) with
  | some pMax, none, _ => Format.float.round pMax = Format.float.round c.pMax
  | some pMax, some pMin, none =>
    Format.float.round pMax = Format.float.round c.pMax ∧
      Format.float.round pMin = Format.float.round c.pMin
  | _, _, _ => True

def Clean (q : Query) (c : Cryocooler) : Prop :=
  match q with
  | getE => c.port.Stalls ∨ EnergyClean c
  | checkIfON => c.port.Stalls ∨ (stod (c.port.answer 0)).isSome
  | _ => True

end Query

namespace Cryocooler
variable (c : Cryocooler) (cmd : CCCommand)

theorem asked_hasStalled :
    (c.writeString cmd).rReadLine.2.hasStalled = true ↔ c.port.Stalls := by
  rw [← Port.rReadLine_status_iff]
  change (c.port.writeString cmd).rReadLine.2.1 = true ↔ _
  rw [Port.rReadLine_writeString]

theorem asked_port :
    (c.writeString cmd).rReadLine.2.port = c.port.rReadLine.2.2.writeString cmd := by
  change (c.port.writeString cmd).rReadLine.2.2 = _
  rw [Port.rReadLine_writeString]

theorem asked_answer_zero :
    (c.writeString cmd).rReadLine.2.readLine.1 = c.port.answer 0 := by
  rw [readLine, asked_port]
  rfl

theorem asked_answer_one (x : ℚ) :
    ({ (c.writeString cmd).rReadLine.2.readLine.2 with pMax := x } : Cryocooler).readLine.1 =
      c.port.answer 1 := by
  simp only [readLine, asked_port]
  rfl

theorem asked_answer_two (x y : ℚ) :
    ({ ({ (c.writeString cmd).rReadLine.2.readLine.2 with pMax := x } :
        Cryocooler).readLine.2 with pMin := y } : Cryocooler).readLine.1 = c.port.answer 2 := by
  simp only [readLine, asked_port]
  rfl

theorem getE_of_echo (h : ¬ c.port.Stalls) :
    (c.getE.1, c.getE.2.measurements) =
      match stof (c.port.answer 0) with
      | none => (-2, c.measurements)
      | some x =>
        match stof (c.port.answer 1) with
        | none => (-2, { c.measurements with pMax := x })
        | some y =>
          match stof (c.port.answer 2) with
          | none => (-2, { c.measurements with pMax := x, pMin := y })
          | some z => (0, { c.measurements with pMax := x, pMin := y, pSet := z }) := by
  rw [← asked_hasStalled c .e] at h
  simp only [getE, if_neg h, asked_answer_zero]
  cases stof (c.port.answer 0) with
  | none => rfl
  | some x =>
    simp only [asked_answer_one]
    cases stof (c.port.answer 1) with
    | none => rfl
    | some y =>
      simp only [asked_answer_two]
      cases stof (c.port.answer 2) with
      | none => rfl
      | some z => rfl

theorem getE_of_stalls (h : c.port.Stalls) :
    c.getE.1 = -1 ∧ c.getE.2.measurements = c.measurements := by
  rw [← asked_hasStalled c .e] at h
  simp only [getE, if_pos h]
  exact ⟨trivial, rfl⟩

theorem checkIfON_of_stalls (h : c.port.Stalls) :
    ∃ c', c.checkIfON = some (-1, c') ∧ c'.measurements = c.measurements := by
  rw [← asked_hasStalled c .sstop] at h
  refine ⟨(c.writeString .sstop).rReadLine.2, ?_, rfl⟩
  simp only [checkIfON, if_pos h]

theorem checkIfON_of_echo (h : ¬ c.port.Stalls) :
    c.checkIfON.map (·.1) = (stod (c.port.answer 0)).map fun _ => 0 := by
  rw [← asked_hasStalled c .sstop] at h
  simp only [checkIfON, if_neg h, asked_answer_zero, Option.map_map]
  rfl

theorem measure_atomic (convert : List Char → Option ℚ) (record : Cryocooler → ℚ → Cryocooler) :
    Query.Atomic c (c.measure cmd convert record) := by
  simp only [measure]
  split_ifs with hstall
  · exact Query.Atomic.of_same (Or.inl rfl) rfl
  · cases convert (c.writeString cmd).rReadLine.2.readLine.1 with
    | none => exact Query.Atomic.of_same (Or.inr rfl) rfl
    | some x => exact Query.Atomic.of_zero c _

end Cryocooler

namespace Query

theorem totalAndAtomic_of_call {q : Query} {c : Cryocooler} {undefInt : ℚ → ℤ}
    {r : ℤ × Cryocooler} (h : q.call c undefInt = some r) :
    TotalAndAtomic q c undefInt ↔ Atomic c r := by
  constructor
  · rintro ⟨r', hcall, hatomic⟩
    rw [h] at hcall
    cases hcall
    exact hatomic
  · intro hatomic
    exact ⟨r, h, hatomic⟩

theorem atomic_iff_of_failed {c : Cryocooler} {r : ℤ × Cryocooler} (h : r.1 = -2) :
    Atomic c r ↔ r.2.measurements.inFloat = c.measurements.inFloat := by
  constructor
  · intro hatomic
    apply hatomic.measurements
    omega
  · intro hsame
    exact ⟨Or.inr (Or.inr h), fun _ => hsame⟩

section Queries
variable (q : Query) (c : Cryocooler) (undefInt : ℚ → ℤ)

theorem getE_totalAndAtomic_iff :
    TotalAndAtomic getE c undefInt ↔ c.port.Stalls ∨ EnergyClean c := by
  rw [totalAndAtomic_of_call rfl]
  by_cases hstall : c.port.Stalls
  · obtain ⟨hstatus, hsame⟩ := c.getE_of_stalls hstall
    exact iff_of_true (Atomic.of_same (Or.inl hstatus) hsame) (Or.inl hstall)
  · have hcall := c.getE_of_echo hstall
    rw [or_iff_right hstall, EnergyClean]
    cases hmax : stof (c.port.answer 0) with
    | none =>
      simp only [hmax, Prod.mk.injEq] at hcall
      exact iff_of_true (Atomic.of_same (Or.inr hcall.1) hcall.2) trivial
    | some pMax =>
      cases hmin : stof (c.port.answer 1) with
      | none =>
        simp only [hmax, hmin, Prod.mk.injEq] at hcall
        rw [atomic_iff_of_failed hcall.1, hcall.2]
        simp [Cryocooler.measurements, Measurements.inFloat]
      | some pMin =>
        cases hset : stof (c.port.answer 2) with
        | none =>
          simp only [hmax, hmin, hset, Prod.mk.injEq] at hcall
          rw [atomic_iff_of_failed hcall.1, hcall.2]
          simp [Cryocooler.measurements, Measurements.inFloat]
        | some pSet =>
          simp only [hmax, hmin, hset, Prod.mk.injEq] at hcall
          exact iff_of_true ⟨Or.inl hcall.1, fun hne => absurd hcall.1 hne⟩ trivial

theorem checkIfON_totalAndAtomic_iff :
    TotalAndAtomic checkIfON c undefInt ↔
      c.port.Stalls ∨ (stod (c.port.answer 0)).isSome := by
  by_cases hstall : c.port.Stalls
  · obtain ⟨c', hcall, hsame⟩ := c.checkIfON_of_stalls hstall
    exact iff_of_true ⟨_, hcall, Atomic.of_same (Or.inl rfl) hsame⟩ (Or.inl hstall)
  · have hcall := c.checkIfON_of_echo hstall
    rw [or_iff_right hstall]
    cases hanswer : stod (c.port.answer 0) with
    | none =>
      -- the exception escapes
      rw [hanswer, Option.map_none, Option.map_eq_none_iff] at hcall
      refine iff_of_false ?_ (by simp)
      rintro ⟨r, hsome, -⟩
      exact absurd (hcall.symm.trans hsome) (by simp)
    | some x =>
      rw [hanswer, Option.map_some, Option.map_eq_some_iff] at hcall
      obtain ⟨⟨status, c'⟩, hr, rfl⟩ := hcall
      exact iff_of_true ⟨(0, c'), hr, Atomic.of_zero c c'⟩ rfl

theorem totalAndAtomic_iff : TotalAndAtomic q c undefInt ↔ q.Clean c := by
  cases q with
  | getTC => exact iff_of_true ⟨_, rfl, c.measure_atomic ..⟩ trivial
  | getP => exact iff_of_true ⟨_, rfl, c.measure_atomic ..⟩ trivial
  | getPIDState => exact iff_of_true ⟨_, rfl, c.measure_atomic ..⟩ trivial
  | getE => exact getE_totalAndAtomic_iff c undefInt
  | checkIfON => exact checkIfON_totalAndAtomic_iff c undefInt

end Queries

/-- `checkIfON` asked of a controller that answers with an empty line. -/
theorem not_totalAndAtomic :
    ¬ ∀ (q : Query) (c : Cryocooler) (undefInt : ℚ → ℤ), TotalAndAtomic q c undefInt := by
  intro h
  let port : Port CCCommand := .opened [.byte 'S', .byte '\n', .byte '\n'] [true]
  have hclean := (checkIfON_totalAndAtomic_iff { (default : Cryocooler) with port := port }
    fun _ => 0).mp (h ..)
  revert hclean
  decide +kernel

end Query

end CryoController
