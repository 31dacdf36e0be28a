import Mathlib.Data.List.Chain
import CryoController.Foundations.Latch
import CryoController.LSHDrone

/-!
# What the heater controller logs of its watchdog

`WatchdogFuse` starts at 1 and falls in the branch that keeps the heater off;
nothing raises it again. An iteration inserts it before that branch is chosen, so
the row holds the flag as the iterations before left it. The branch itself is
chosen by `_cWatchdogFuse`, the fuse of the control row. The two agree until the
fuse of the control row is restored.
-/

namespace CryoController

inductive HeaterOperation
  | normal
  | keptOff
  deriving DecidableEq, Repr, Inhabited

namespace LakeShore

def operation (l : LakeShore) (r : HeaterRefresh) : HeaterOperation :=
  if (l.exchange r).1.cWatchdogFuse ≠ 1 then .keptOff else .normal

def operations : LakeShore → List HeaterRefresh → List HeaterOperation
  | _, [] => []
  | l, r :: rs => l.operation r :: operations (l.iterate r) rs

def watchdogStates : LakeShore → List HeaterRefresh → List Bool
  | _, [] => []
  | l, r :: rs => (l.exchange r).2.watchdogState :: watchdogStates (l.iterate r) rs

theorem operation_eq (l : LakeShore) (r : HeaterRefresh) :
    l.operation r = if r.row.watchdogFuse = 1 then .normal else .keptOff := by
  rw [operation, (l.exchange_row r).2.2]
  exact ite_not ..

theorem operations_eq (l : LakeShore) (rs : List HeaterRefresh) :
    operations l rs = rs.map fun r => if r.row.watchdogFuse = 1 then .normal else .keptOff := by
  induction rs generalizing l with
  | nil => rfl
  | cons r rs ih => rw [operations, operation_eq, ih, List.map_cons]

theorem device_of_keptOff (initial : Heater) {l : LakeShore} {r : HeaterRefresh}
    (h : l.operation r = .keptOff) : (device initial (l.iterate r)).range = 0 := by
  apply device_of_blown
  intro hfuse
  rw [operation_eq, if_pos hfuse] at h
  cases h

theorem exchange_watchdog (l : LakeShore) (r : HeaterRefresh) :
    (l.exchange r).1.watchdogFuse = l.watchdogFuse ∧
      (l.exchange r).2.watchdogState = l.watchdogFuse := by
  have hpower (l : LakeShore) : l.readPower.watchdogFuse = l.watchdogFuse :=
    l.read_keeps (·.watchdogFuse) (fun _ _ => rfl) fun _ _ => rfl
  have hmode (l : LakeShore) : (l.readMode r.undefInt).watchdogFuse = l.watchdogFuse :=
    l.read_keeps (·.watchdogFuse) (fun _ _ => rfl) fun _ _ => rfl
  have htemp (l : LakeShore) : l.readTemperatureK.watchdogFuse = l.watchdogFuse :=
    l.read_keeps (·.watchdogFuse) (fun _ _ => rfl) fun _ _ => rfl
  simp only [exchange, updateMysql, htemp, hmode, hpower, and_self]

theorem turnONOFF_watchdogFuse (l : LakeShore) (pwstate : ℤ) :
    (l.turnONOFF pwstate).watchdogFuse = l.watchdogFuse := by
  rw [turnONOFF]
  split_ifs <;> rfl

theorem react_watchdogFuse (l : LakeShore) :
    l.react.watchdogFuse = (l.watchdogFuse && decide (l.cWatchdogFuse = 1)) := by
  rw [react]
  by_cases hblown : l.cWatchdogFuse ≠ 1
  · rw [if_pos hblown, decide_eq_false hblown, Bool.and_false]
  · rw [if_neg hblown, decide_eq_true (not_not.mp hblown), Bool.and_true]
    simp only
    split_ifs
    · exact turnONOFF_watchdogFuse _ _
    · rfl
    · exact l.turnONOFF_watchdogFuse l.setMode
    · rfl

theorem iterate_watchdogFuse (l : LakeShore) (r : HeaterRefresh) :
    (l.iterate r).watchdogFuse = (l.watchdogFuse && decide (r.row.watchdogFuse = 1)) := by
  rw [iterate, react_watchdogFuse, (l.exchange_watchdog r).1, (l.exchange_row r).2.2]

theorem watchdogStates_eq (l : LakeShore) (rs : List HeaterRefresh) :
    watchdogStates l rs =
      Latch.reported l.watchdogFuse (rs.map fun r => decide (r.row.watchdogFuse = 1)) := by
  induction rs generalizing l with
  | nil => rfl
  | cons r rs ih =>
    rw [watchdogStates, (l.exchange_watchdog r).2, ih, iterate_watchdogFuse]
    rfl

/-- The flag that an iteration inserts tells how the iteration before it ran. -/
def LoggedAs (op : HeaterOperation) (state : Bool) : Prop :=
  (state = true ↔ op = .normal) ∧ (state = false ↔ op = .keptOff)

theorem loggedAs_iff (r : HeaterRefresh) (state : Bool) :
    LoggedAs (if r.row.watchdogFuse = 1 then .normal else .keptOff) state ↔
      decide (r.row.watchdogFuse = 1) = state := by
  by_cases h : r.row.watchdogFuse = 1 <;> cases state <;> simp [LoggedAs, h]

theorem forall₂_loggedAs_iff (rs : List HeaterRefresh) (states : List Bool) :
    List.Forall₂ LoggedAs
        (rs.map fun r => if r.row.watchdogFuse = 1 then .normal else .keptOff) states ↔
      states = rs.map fun r => decide (r.row.watchdogFuse = 1) := by
  have hmap : List.Forall₂ Eq (rs.map fun r => decide (r.row.watchdogFuse = 1)) states ↔
      List.Forall₂ (fun r state => decide (r.row.watchdogFuse = 1) = state) rs states :=
    List.forall₂_map_left_iff
  rw [List.forall₂_map_left_iff]
  simp only [loggedAs_iff]
  rw [← hmap, List.forall₂_eq_eq_eq]
  exact eq_comm

theorem watchdogStates_tell_iff (mem : LakeShore) (reads : List ReadResult)
    (rs : List HeaterRefresh) :
    List.Forall₂ LoggedAs (operations (construct mem reads) rs).dropLast
        (watchdogStates (construct mem reads) rs).tail ↔
      rs.dropLast.IsChain fun r r' => r'.row.watchdogFuse = 1 → r.row.watchdogFuse = 1 := by
  have hflag : (construct mem reads).watchdogFuse = true := rfl
  rw [operations_eq, watchdogStates_eq, hflag, ← List.map_dropLast, forall₂_loggedAs_iff,
    List.map_dropLast, Latch.tail_reported_eq_iff, ← List.map_dropLast, List.isChain_map]
  simp only [decide_eq_true_eq]

/-- A fuse that is blown and restored leaves the flag down. -/
theorem not_watchdogStates_tell : ¬ ∀ (mem : LakeShore) (reads : List ReadResult)
    (rs : List HeaterRefresh),
    List.Forall₂ LoggedAs (operations (construct mem reads) rs).dropLast
      (watchdogStates (construct mem reads) rs).tail := by
  intro h
  have hrestored := h default [] [sampleRefresh 0 0 0, sampleRefresh 0 0 1, sampleRefresh 0 0 1]
  rw [operations_eq, watchdogStates_eq, ← List.map_dropLast, forall₂_loggedAs_iff] at hrestored
  exact absurd hrestored (by decide)

end LakeShore
end CryoController
