import CryoController.LakeShore
import CryoController.Foundations.Printing

/-!
# The LakeShore as the loop drives it

The device obeys every `RANGE` and `MOUT` command and is described by the commands sent to it
so far, their levels printed with six digits from a `float`. Two results about all runs of the
loop: what the device is doing agrees with the control row after an iteration exactly when the
cached read-backs told that iteration enough and the level on the line is the one asked for,
and a blown fuse turns the range off and keeps it off.
-/

open Numeral Conversion Saturation
namespace CryoController

structure Heater where
  range : ℤ
  manual : ℚ
  range_mem : 0 ≤ range ∧ range < 3
  manual_mem : manual ∈ Set.Icc 0 100

namespace Heater

theorem zero_percent : (0 : ℚ) ∈ Set.Icc 0 100 := ⟨le_rfl, by norm_num⟩

def off : Heater := ⟨0, 0, ⟨le_rfl, zero_lt_three⟩, zero_percent⟩

/-- A command that the device cannot carry out has no effect. -/
def obey (h : Heater) : LSCommand → Heater
  | .range state =>
    if hs : 0 ≤ state ∧ state < 3 then { h with range := state, range_mem := hs } else h
  | .mout level =>
    if hl : level ∈ Set.Icc 0 100 then { h with manual := level, manual_mem := hl } else h
  | _ => h

def output (h : Heater) : ℚ := if h.range ≠ 0 then h.manual else 0

variable (h : Heater)

theorem obey_range {state : ℤ} (hs : 0 ≤ state ∧ state < 3) :
    (h.obey (.range state)).range = state := by
  simp only [obey, dif_pos hs]

@[simp] theorem obey_range_manual (state : ℤ) : (h.obey (.range state)).manual = h.manual := by
  simp only [obey]
  split_ifs <;> rfl

theorem obey_mout {level : ℚ} (hl : level ∈ Set.Icc 0 100) :
    (h.obey (.mout level)).manual = level := by
  simp only [obey, dif_pos hl]

@[simp] theorem obey_mout_range (level : ℚ) : (h.obey (.mout level)).range = h.range := by
  simp only [obey]
  split_ifs <;> rfl

end Heater

def LSCommand.Valid : LSCommand → Prop
  | .range state => 0 ≤ state ∧ state < 3
  | .mout level => level ∈ Set.Icc 0 100
  | _ => True

def LSCommand.KeepsOff : LSCommand → Prop
  | .range state => state = 0
  | _ => True

theorem Heater.obey_of_keepsOff {h : Heater} {c : LSCommand} (hc : c.KeepsOff)
    (hrange : h.range = 0) : (h.obey c).range = 0 := by
  cases c with
  | range state =>
    have hzero : state = 0 := hc
    subst hzero
    exact h.obey_range ⟨le_rfl, by norm_num⟩
  | mout level => rw [Heater.obey_mout_range, hrange]
  | _ => exact hrange

theorem Heater.run_of_keepsOff {h : Heater} {cs : List LSCommand} (hcs : ∀ c ∈ cs, c.KeepsOff)
    (hrange : h.range = 0) : (Transition.run Heater.obey h cs).range = 0 := by
  have hkeep : ∀ c ∈ cs, ∀ h : Heater, h.range = 0 → (h.obey c).range = 0 :=
    fun c hc _ hrange => Heater.obey_of_keepsOff (hcs c hc) hrange
  exact Transition.run_keeps hkeep hrange

theorem valid_of_query {c : LSCommand} (hc : c ∈ [.readPower, .readRange, .readTemperature]) :
    c.Valid := by
  cases c <;> simp_all [LSCommand.Valid]

theorem keepsOff_of_query {c : LSCommand} (hc : c ∈ [.readPower, .readRange, .readTemperature]) :
    c.KeepsOff := by
  cases c <;> simp_all [LSCommand.KeepsOff]

def LSCommand.carried (carry : ℚ → ℚ) : LSCommand → LSCommand
  | .mout level => .mout (carry level)
  | c => c

def LSCommand.printed : LSCommand → LSCommand :=
  LSCommand.carried fun level => (Decimal.ofFloat level).value

theorem LSCommand.carried_id : LSCommand.carried id = id := by
  funext c
  cases c <;> rfl

def targetRange (heaterMode : ℤ) : ℤ := if heaterMode < 3 ∧ heaterMode ≥ 0 then heaterMode else 0

def Heater.Follows (h : Heater) (row : ControlParameters) : Prop :=
  h.range = targetRange row.heaterMode ∧
    (h.range ≠ 0 → h.manual = clamp 0 100 row.heaterPW)

theorem clamp_percent (x : ℚ) : clamp 0 100 x ∈ Set.Icc 0 100 := clamp_mem (by norm_num) x

namespace LakeShore

section Carry
variable {carry : ℚ → ℚ} (hcarry : ∀ x ∈ Set.Icc (0 : ℚ) 100, carry x ∈ Set.Icc (0 : ℚ) 100)
include hcarry

theorem run_rangeCommands (h : Heater) (power : ℚ) (pwstate : ℤ) :
    let h' := Transition.run Heater.obey h
      ((rangeCommands power pwstate).map (LSCommand.carried carry))
    h'.range = targetRange pwstate ∧
      (targetRange pwstate ≠ 0 → h'.manual = carry (clamp 0 100 power)) := by
  intro h'
  simp only [h', rangeCommands, targetRange]
  split_ifs with hs
  · have hrange := (h.obey (.mout (carry (clamp 0 100 power)))).obey_range ⟨hs.2, hs.1⟩
    have hmanual := h.obey_mout (hcarry _ (clamp_percent power))
    simp only [List.map_cons, List.map_nil, LSCommand.carried, Transition.run_cons,
      Transition.run_nil, Heater.obey_range_manual]
    exact ⟨hrange, fun _ => hmanual⟩
  · have hzero : (0 : ℤ) ≤ 0 ∧ (0 : ℤ) < 3 := by decide
    exact ⟨h.obey_range hzero, fun hne => absurd rfl hne⟩

theorem run_level (h : Heater) (power : ℚ) (send : Prop) [Decidable send] :
    let h' := Transition.run Heater.obey h
      ((if send then [LSCommand.mout (clamp 0 100 power)] else []).map (LSCommand.carried carry))
    h'.range = h.range ∧ h'.manual = if send then carry (clamp 0 100 power) else h.manual := by
  intro h'
  by_cases hs : send
  · simp only [h', if_pos hs]
    exact ⟨h.obey_mout_range _, h.obey_mout (hcarry _ (clamp_percent power))⟩
  · simp only [h', if_neg hs]
    exact ⟨rfl, rfl⟩

theorem follows_reaction_iff {row : ControlParameters} (hfuse : row.watchdogFuse = 1)
    (asked : ℚ) (h : Heater) (power : ℚ) (mode : ℤ) :
    (Transition.run Heater.obey h
      ((reaction { row with heaterPW := asked } power mode).map
        (LSCommand.carried carry))).Follows row ↔
      if row.heaterMode ≠ mode then
        targetRange row.heaterMode ≠ 0 → carry (clamp 0 100 asked) = clamp 0 100 row.heaterPW
      else
        h.range = targetRange row.heaterMode ∧ (h.range ≠ 0 →
          (if power ≠ asked then carry (clamp 0 100 asked) else h.manual) =
            clamp 0 100 row.heaterPW) := by
  have hone : ¬ row.watchdogFuse ≠ 1 := not_not.mpr hfuse
  obtain ⟨hrange, hmanual⟩ := run_level hcarry h asked (power ≠ asked)
  simp only [reaction, if_neg hone]
  rw [List.map_append, Transition.run_append]
  generalize Transition.run Heater.obey h
    ((if power ≠ asked then [_] else []).map _) = h' at hrange hmanual ⊢
  -- a mode change sends power and range anew; without one the range stays as it was
  by_cases hm : row.heaterMode ≠ mode
  · obtain ⟨hrange', hmanual'⟩ := run_rangeCommands hcarry h' asked row.heaterMode
    rw [if_pos hm, if_pos hm, Heater.Follows, hrange']
    constructor
    · intro hfollows hne
      rw [← hmanual' hne, hfollows.2 hne]
    · intro hexact
      exact ⟨rfl, fun hne => (hmanual' hne).trans (hexact hne)⟩
  · rw [if_neg hm, if_neg hm, List.map_nil, Transition.run_nil, Heater.Follows, hrange, hmanual]

end Carry

def device (initial : Heater) (l : LakeShore) : Heater :=
  Transition.run Heater.obey initial l.port.sent

theorem device_iterate (initial : Heater) (l : LakeShore) (r : HeaterRefresh) :
    device initial (l.iterate r) = Transition.run Heater.obey (device initial l)
      (reaction r.row (l.exchange r).1.currentPW (l.exchange r).1.currentMode) := by
  rw [device, iterate_sent, Transition.run_append, Transition.run_append]
  rfl

structure Truthful (h : Heater) (l : LakeShore) : Prop where
  power : ∀ x ∈ stof l.powerReply, x = h.output
  mode : ∀ x ∈ stof l.modeReply, x = h.range

def knownPower (h : Heater) (l : LakeShore) : ℚ :=
  if (stof l.powerReply).isSome then h.output else l.currentPW

def knownMode (h : Heater) (l : LakeShore) : ℤ :=
  if (stof l.modeReply).isSome then h.range else l.currentMode

/-- The iteration sees a difference from the row wherever there is one. -/
def InTouch (h : Heater) (l : LakeShore) (row : ControlParameters) : Prop :=
  row.heaterMode ≠ knownMode h l ∨
    (h.range = targetRange row.heaterMode ∧
      (h.range ≠ 0 → row.heaterPW ≠ knownPower h l ∨ h.manual = clamp 0 100 row.heaterPW))

section Truthful
variable {h : Heater} {l : LakeShore}

theorem exchange_knownPower (ht : Truthful h l) (r : HeaterRefresh) :
    (l.exchange r).1.currentPW = knownPower h l := by
  have htrue := ht.power
  rw [exchange_currentPW, knownPower]
  cases hreply : stof l.powerReply with
  | none => rfl
  | some x => exact htrue x hreply

theorem round_range (h : Heater) : Format.float.round h.range = h.range := by
  have hcases : h.range = 0 ∨ h.range = 1 ∨ h.range = 2 := by
    have hmem := h.range_mem
    omega
  rcases hcases with hrange | hrange | hrange <;> rw [hrange] <;> decide +kernel

theorem exchange_knownMode (ht : Truthful h l) (r : HeaterRefresh) :
    (l.exchange r).1.currentMode = knownMode h l := by
  have htrue := ht.mode
  rw [exchange_currentMode, knownMode]
  cases hreply : stof l.modeReply with
  | none => rfl
  | some x =>
    have hint : InIntRange h.range := by
      have hmem := h.range_mem
      constructor <;> omega
    simp only [Option.map_some, Option.getD_some, Function.comp_apply, htrue x hreply,
      round_range, intOfDouble_intCast hint]
    rfl

theorem inTouch_of_answered (hp : (stof l.powerReply).isSome) (hm : (stof l.modeReply).isSome)
    (row : ControlParameters) : InTouch h l row := by
  rw [InTouch, knownMode, if_pos hm, knownPower, if_pos hp]
  by_cases hmode : row.heaterMode = h.range
  · right
    constructor
    · rw [hmode, targetRange, if_pos ⟨h.range_mem.2, h.range_mem.1⟩]
    · intro hon
      by_cases hpw : row.heaterPW = h.output
      · rw [Heater.output, if_pos hon] at hpw
        rw [hpw, clamp_of_mem h.manual_mem]
        exact Or.inr rfl
      · exact Or.inl hpw
  · exact Or.inl hmode

end Truthful

def EndsFollowing (initial : Heater) (l : LakeShore) (r : HeaterRefresh) : Prop :=
  r.row.watchdogFuse = 1 → Truthful (device initial l) l →
    (device initial (l.iterate r)).Follows r.row

def StartsInTouch (initial : Heater) (l : LakeShore) (r : HeaterRefresh) : Prop :=
  r.row.watchdogFuse = 1 → Truthful (device initial l) l →
    InTouch (device initial l) l r.row

theorem endsFollowing_iff (initial : Heater) (l : LakeShore) (r : HeaterRefresh) :
    EndsFollowing initial l r ↔ StartsInTouch initial l r := by
  apply forall_congr'
  intro hfuse
  apply forall_congr'
  intro ht
  have hid : ∀ x ∈ Set.Icc (0 : ℚ) 100, id x ∈ Set.Icc (0 : ℚ) 100 := fun x hx => hx
  have hiff := follows_reaction_iff hid hfuse r.row.heaterPW
    (device initial l) (knownPower (device initial l) l) (knownMode (device initial l) l)
  rw [LSCommand.carried_id, List.map_id] at hiff
  rw [device_iterate, exchange_knownPower ht, exchange_knownMode ht, InTouch]
  refine hiff.trans ?_
  by_cases hmode : r.row.heaterMode = knownMode (device initial l) l
  · by_cases hpower : knownPower (device initial l) l = r.row.heaterPW
    · simp [hmode, hpower]
    · simp [hmode, hpower, Ne.symm hpower]
  · simp [hmode]

def sampleRefresh (heaterPW : ℚ) (heaterMode watchdogFuse : ℤ) : HeaterRefresh where
  row := { (default : ControlParameters) with
    heaterPW := heaterPW, heaterMode := heaterMode, watchdogFuse := watchdogFuse }
  undefInt := fun _ => 0

theorem rangeCommands_valid (power : ℚ) (pwstate : ℤ) :
    ∀ c ∈ rangeCommands power pwstate, c.Valid := by
  intro c hc
  rw [rangeCommands] at hc
  split_ifs at hc with hs
  · rcases List.mem_pair.mp hc with rfl | rfl
    · exact clamp_percent power
    · exact ⟨hs.2, hs.1⟩
  · rw [List.mem_singleton.mp hc]
    exact ⟨le_rfl, by norm_num⟩

theorem reaction_valid (row : ControlParameters) (power : ℚ) (mode : ℤ) :
    ∀ c ∈ reaction row power mode, c.Valid := by
  intro c hc
  rw [reaction] at hc
  split_ifs at hc with hfuse hp hm hm
  · exact rangeCommands_valid _ _ c hc
  · rcases List.mem_append.mp hc with hc | hc
    · rw [List.mem_singleton.mp hc]
      exact clamp_percent row.heaterPW
    · exact rangeCommands_valid _ _ c hc
  · rw [List.append_nil] at hc
    rw [List.mem_singleton.mp hc]
    exact clamp_percent row.heaterPW
  · exact rangeCommands_valid _ _ c hc
  · cases hc

theorem iterate_valid (l : LakeShore) (r : HeaterRefresh) (h : ∀ c ∈ l.port.sent, c.Valid) :
    ∀ c ∈ (l.iterate r).port.sent, c.Valid := by
  rw [iterate_sent]
  intro c hc
  rcases List.mem_append.mp hc with hc | hc
  · exact h c hc
  · rcases List.mem_append.mp hc with hc | hc
    · exact valid_of_query hc
    · exact reaction_valid _ _ _ c hc

theorem reaction_of_blown {row : ControlParameters} (hfuse : row.watchdogFuse ≠ 1) (power : ℚ)
    (mode : ℤ) : reaction row power mode = [.mout (clamp 0 100 row.heaterPW), .range 0] := by
  rw [reaction, if_pos hfuse]
  rfl

theorem device_of_blown (initial : Heater) (l : LakeShore) {r : HeaterRefresh}
    (hfuse : r.row.watchdogFuse ≠ 1) : (device initial (l.iterate r)).range = 0 := by
  rw [device_iterate, reaction_of_blown hfuse]
  exact Heater.obey_range _ ⟨le_rfl, by norm_num⟩

theorem run_sent_of_blown (l : LakeShore) {rs : List HeaterRefresh}
    (hblown : ∀ r ∈ rs, r.row.watchdogFuse ≠ 1) : ∃ cmds : List LSCommand,
      (Transition.run iterate l rs).port.sent = l.port.sent ++ cmds ∧
        ∀ c ∈ cmds, c.KeepsOff := by
  induction rs generalizing l with
  | nil => exact ⟨[], (List.append_nil _).symm, by simp⟩
  | cons r rs ih =>
    rw [List.forall_mem_cons] at hblown
    obtain ⟨cmds, hsent, hoff⟩ := ih (l.iterate r) hblown.2
    rw [iterate_sent, reaction_of_blown hblown.1, List.append_assoc] at hsent
    refine ⟨_, hsent, ?_⟩
    intro c hc
    simp only [List.mem_append] at hc
    rcases hc with (hc | hc) | hc
    · exact keepsOff_of_query hc
    · rcases List.mem_pair.mp hc with rfl | rfl
      · trivial
      · rfl
    · exact hoff c hc

/-- Along every run of the loop every command is one that the device takes. After
an iteration with a blown fuse the range is 0, and it stays so at every command
of the blown iterations that follow, up to the exchange of the one after them. -/
theorem run_blown_fuse_keeps_off (mem : LakeShore) (reads : List ReadResult) (initial : Heater) :
    (∀ rs, ∀ c ∈ (Transition.run iterate (construct mem reads) rs).port.sent, c.Valid) ∧
      ∀ front r blown next, r.row.watchdogFuse ≠ 1 → (∀ r ∈ blown, r.row.watchdogFuse ≠ 1) →
        ∀ log, (Transition.run iterate (construct mem reads) (front ++ [r])).port.sent <+: log →
          log <+: ((Transition.run iterate (construct mem reads)
            (front ++ r :: blown)).exchange next).1.port.sent →
              (Transition.run Heater.obey initial log).range = 0 := by
  constructor
  · intro rs
    exact Transition.run_invariant iterate_valid (fun c hc => by cases hc) rs
  · rintro front r blown next hfuse hblown log ⟨more, rfl⟩ hlog
    have hsplit : front ++ r :: blown = (front ++ [r]) ++ blown := by simp
    obtain ⟨cmds, hsent, hoff⟩ := run_sent_of_blown
      (Transition.run iterate (construct mem reads) (front ++ [r])) hblown
    rw [hsplit, Transition.run_append iterate _ (front ++ [r]), exchange_sent, hsent,
      List.append_assoc, List.prefix_append_right_inj] at hlog
    rw [Transition.run_append Heater.obey]
    apply Heater.run_of_keepsOff
    · intro c hc
      rcases List.mem_append.mp (hlog.subset hc) with hc | hc
      · exact hoff c hc
      · exact keepsOff_of_query hc
    · rw [Transition.run_concat]
      exact device_of_blown initial _ hfuse

theorem run_blown_fuse_keeps_off_sample :
    let l := Transition.run iterate (construct default [])
      [sampleRefresh 50 1 1, sampleRefresh 50 1 0]
    (Transition.run Heater.obey Heater.off l.port.sent).range = 0 :=
  (run_blown_fuse_keeps_off default [] _).2 [sampleRefresh 50 1 1] (sampleRefresh 50 1 0) []
    (sampleRefresh 50 1 1) (by decide) (by simp) _ List.prefix_rfl (by
      rw [exchange_sent]
      exact List.prefix_append _ _)

end LakeShore
end CryoController
