import CryoController.LSHDrone

/-!
# The heater's loop at rest

When both queries are answered, one iteration brings the device to follow the row. While
the row stays the same the loop then sends its queries and nothing else, exactly if the
answers of a device that follows the row are what the row asks for. They are not when the
row asks for power with the range off, for a power that is no percentage, or for a mode
that is no range: then every iteration sends its commands again.
-/

open Numeral Conversion Saturation
namespace CryoController
namespace LakeShore

structure AnsweredBy (initial : Heater) (l : LakeShore) : Prop where
  power : stof l.powerReply = some (device initial l).output
  mode : stof l.modeReply = some ((device initial l).range : ℚ)

instance (initial : Heater) (l : LakeShore) : Decidable (AnsweredBy initial l) :=
  decidable_of_iff (stof l.powerReply = some (device initial l).output ∧
      stof l.modeReply = some ((device initial l).range : ℚ))
    ⟨fun h => ⟨h.1, h.2⟩, fun h => ⟨h.power, h.mode⟩⟩

/-- A device that follows the row answers with what it asks for. -/
def Attainable (row : ControlParameters) : Prop :=
  (0 ≤ row.heaterMode ∧ row.heaterMode < 3) ∧ row.heaterPW ∈ Set.Icc 0 100 ∧
    (row.heaterMode = 0 → row.heaterPW = 0)

section AnsweredBy
variable {initial : Heater} {l : LakeShore} {r : HeaterRefresh} {row : ControlParameters}

theorem AnsweredBy.truthful (h : AnsweredBy initial l) : Truthful (device initial l) l where
  power := by
    intro x hx
    rw [h.power] at hx
    exact (Option.some.inj hx).symm
  mode := by
    intro x hx
    rw [h.mode] at hx
    exact (Option.some.inj hx).symm

theorem AnsweredBy.currentPW (h : AnsweredBy initial l) (r : HeaterRefresh) :
    (l.exchange r).1.currentPW = (device initial l).output := by
  rw [exchange_knownPower h.truthful, knownPower, h.power]
  rfl

theorem AnsweredBy.currentMode (h : AnsweredBy initial l) (r : HeaterRefresh) :
    (l.exchange r).1.currentMode = (device initial l).range := by
  rw [exchange_knownMode h.truthful, knownMode, h.mode]
  rfl

theorem AnsweredBy.follows (h : AnsweredBy initial l) (hfuse : r.row.watchdogFuse = 1) :
    (device initial (l.iterate r)).Follows r.row := by
  have htouch := inTouch_of_answered (h := device initial l) (l := l)
    (by rw [h.power]; rfl) (by rw [h.mode]; rfl) r.row
  exact (endsFollowing_iff initial l r).mpr (fun _ _ => htouch) hfuse h.truthful

theorem rangeCommands_ne_nil (power : ℚ) (pwstate : ℤ) : rangeCommands power pwstate ≠ [] := by
  rw [rangeCommands]
  split_ifs <;> simp

theorem reaction_eq_nil_iff (hfuse : row.watchdogFuse = 1) (power : ℚ) (mode : ℤ) :
    reaction row power mode = [] ↔ power = row.heaterPW ∧ row.heaterMode = mode := by
  rw [reaction, if_neg (not_not.mpr hfuse), List.append_eq_nil_iff]
  refine and_congr ?_ ?_
  · by_cases hpower : power = row.heaterPW
    · simp [hpower]
    · simp [hpower]
  · by_cases hmode : row.heaterMode = mode
    · simp [hmode]
    · simp [hmode, rangeCommands_ne_nil]

theorem attainable_iff {h : Heater} (hfollows : h.Follows row) :
    h.output = row.heaterPW ∧ row.heaterMode = h.range ↔ Attainable row := by
  obtain ⟨hrange, hmanual⟩ := hfollows
  constructor
  · intro hsame
    obtain ⟨hpower, hmode⟩ := hsame
    have hvalid : 0 ≤ row.heaterMode ∧ row.heaterMode < 3 := hmode ▸ h.range_mem
    rw [Heater.output] at hpower
    by_cases hon : h.range ≠ 0
    · rw [if_pos hon] at hpower
      exact ⟨hvalid, hpower ▸ h.manual_mem, fun hzero => absurd (hmode.symm.trans hzero) hon⟩
    · rw [if_neg hon] at hpower
      exact ⟨hvalid, hpower ▸ Heater.zero_percent, fun _ => hpower.symm⟩
  · intro hattain
    obtain ⟨hvalid, hpercent, hoff⟩ := hattain
    have hmode : row.heaterMode = h.range := by
      rw [hrange, targetRange, if_pos ⟨hvalid.2, hvalid.1⟩]
    refine ⟨?_, hmode⟩
    rw [Heater.output]
    split_ifs with hon
    · rw [hmanual hon, clamp_of_mem hpercent]
    · exact (hoff (hmode.trans (not_not.mp hon))).symm

def Rests (l : LakeShore) (r : HeaterRefresh) : Prop :=
  (l.iterate r).port.sent = l.port.sent ++ [.readPower, .readRange, .readTemperature]

theorem rests_iff (h : AnsweredBy initial l) (hfollows : (device initial l).Follows r.row)
    (hfuse : r.row.watchdogFuse = 1) : Rests l r ↔ Attainable r.row := by
  rw [Rests, iterate_sent, h.currentPW, h.currentMode, ← attainable_iff hfollows,
    ← reaction_eq_nil_iff hfuse, List.append_cancel_left_eq, List.append_right_eq_self]

end AnsweredBy

theorem run_settled_rests_iff {initial : Heater} {row : ControlParameters}
    (hfuse : row.watchdogFuse = 1) {l : LakeShore} (hfollows : (device initial l).Follows row)
    {rs : List HeaterRefresh} (hrow : ∀ r ∈ rs, r.row = row)
    (hanswered : Transition.Along iterate (fun l _ => AnsweredBy initial l) l rs) :
    Transition.Along iterate (fun l r => Rests l r ↔ Attainable row) l rs := by
  induction rs generalizing l with
  | nil => trivial
  | cons r rs ih =>
    rw [List.forall_mem_cons] at hrow
    obtain ⟨hr, hrest⟩ := hrow
    subst hr
    exact ⟨rests_iff hanswered.1 hfollows hfuse,
      ih (hanswered.1.follows hfuse) hrest hanswered.2⟩

/-- From any point of a run: while the row stays the same, with a sound fuse, and both queries
are answered with what the device does, every iteration but the first sends only its queries
if and only if the row is attainable. -/
theorem run_rests_iff (mem : LakeShore) (reads : List ReadResult) (initial : Heater)
    (before : List HeaterRefresh) {row : ControlParameters} (hfuse : row.watchdogFuse = 1)
    (first : HeaterRefresh) (rs : List HeaterRefresh) (hrow : ∀ r ∈ first :: rs, r.row = row) :
    let l := Transition.run iterate (construct mem reads) before
    Transition.Along iterate (fun l _ => AnsweredBy initial l) l (first :: rs) →
      Transition.Along iterate (fun l r => Rests l r ↔ Attainable row) (l.iterate first) rs := by
  intro l hanswered
  rw [List.forall_mem_cons] at hrow
  obtain ⟨hfirst, hrest⟩ := hrow
  have hfollows := hanswered.1.follows (hfirst.symm ▸ hfuse)
  exact run_settled_rests_iff hfuse (hfirst ▸ hfollows) hrest hanswered.2

theorem run_rests_iff_sample :
    let reads : List ReadResult := ("0\n0\n9\n50\n1\n9\n".toList).map .byte
    let l := Transition.run iterate (construct default reads) []
    Transition.Along iterate (fun l r => Rests l r ↔ Attainable (sampleRefresh 50 1 1).row)
      (l.iterate (sampleRefresh 50 1 1)) [sampleRefresh 50 1 1] :=
  run_rests_iff default _ Heater.off [] rfl (sampleRefresh 50 1 1) [sampleRefresh 50 1 1]
    (fun r hr => by rw [List.eq_of_mem_replicate (n := 2) hr]) (by decide +kernel)

end LakeShore
end CryoController
