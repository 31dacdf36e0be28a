import CryoController.DisconnectedRTD
import CryoController.Foundations.MovingAverage

/-!
# The over-temperature trip

Each RTD has its average, which skips readings of at most 10 K. Hot readings
are never skipped, so while an RTD stays at `θ` or above its average follows the
closed form of the filter, whatever came before: it has never been negative.
-/

open MovingAverage
namespace CryoController

inductive RTD
  | cryocooler
  | lakeShore
  deriving DecidableEq, Repr

namespace RTD

def reading : RTD → DataPacket → ℚ
  | .cryocooler, d => d.curTemp
  | .lakeShore, d => d.curTempLSH

def average : RTD → CryoControlSM → ℚ
  | .cryocooler, m => m.movingAvgCCRTD
  | .lakeShore, m => m.movingAvgLSHRTD

end RTD

theorem one_le_rateMovingAvgN : 1 ≤ rateMovingAvgN := by norm_num [rateMovingAvgN]

theorem averageRTD_of_hot {x : ℚ} (hx : 10 < x) (avg : ℚ) :
    averageRTD avg x = update rateMovingAvgN avg x := by
  rw [averageRTD, if_pos hx, update]

theorem averageRTD_le {avg x b : ℚ} (havg : avg ≤ b) (hx : x ≤ b) : averageRTD avg x ≤ b := by
  rw [averageRTD]
  split_ifs
  · exact update_le one_le_rateMovingAvgN havg hx
  · exact havg

theorem averageRTD_nonneg {avg : ℚ} (havg : 0 ≤ avg) (x : ℚ) : 0 ≤ averageRTD avg x := by
  rw [averageRTD]
  split_ifs with hx
  · exact le_update one_le_rateMovingAvgN havg (by linarith)
  · exact havg

namespace CryoControlSM
variable (rtd : RTD)

theorem tripped_iff (m : CryoControlSM) : m.tripped ↔ ∃ rtd : RTD, 320 < rtd.average m := by
  constructor
  · rintro (h | h)
    · exact ⟨.cryocooler, h⟩
    · exact ⟨.lakeShore, h⟩
  · rintro ⟨rtd, h⟩
    cases rtd with
    | cryocooler => exact Or.inl h
    | lakeShore => exact Or.inr h

theorem smEngine_average {m : CryoControlSM} (h : Interlock m) (s : Sweep) :
    rtd.average (m.smEngine s) = averageRTD (rtd.average m) (rtd.reading s.packet) := by
  obtain ⟨hcc, hlsh⟩ := smEngine_averages h s
  cases rtd with
  | cryocooler => exact hcc
  | lakeShore => exact hlsh

theorem construct_average (mem : CryoControlSM) (absTime rateTime : UInt64) :
    rtd.average (construct mem absTime rateTime) = 0 := by
  cases rtd <;> rfl

theorem run_average_le (mem : CryoControlSM) (absTime rateTime : UInt64) {ss : List Sweep}
    (hss : ∀ s ∈ ss, rtd.reading s.packet ≤ 320) :
    rtd.average (Transition.run smEngine (construct mem absTime rateTime) ss) ≤ 320 := by
  have hstep : ∀ s ∈ ss, ∀ m, Interlock m ∧ rtd.average m ≤ 320 →
      Interlock (m.smEngine s) ∧ rtd.average (m.smEngine s) ≤ 320 := by
    rintro s hs m ⟨hm, havg⟩
    refine ⟨smEngine_interlock m s hm, ?_⟩
    rw [smEngine_average rtd hm]
    exact averageRTD_le havg (hss s hs)
  have hstart : rtd.average (construct mem absTime rateTime) ≤ 320 := by
    rw [construct_average]
    norm_num
  exact (Transition.run_keeps hstep ⟨construct_interlock mem absTime rateTime, hstart⟩).2

theorem run_average_nonneg (mem : CryoControlSM) (absTime rateTime : UInt64)
    (ss : List Sweep) :
    0 ≤ rtd.average (Transition.run smEngine (construct mem absTime rateTime) ss) := by
  have hstep (m : CryoControlSM) (s : Sweep) (h : Interlock m ∧ 0 ≤ rtd.average m) :
      Interlock (m.smEngine s) ∧ 0 ≤ rtd.average (m.smEngine s) := by
    refine ⟨smEngine_interlock m s h.1, ?_⟩
    rw [smEngine_average rtd h.1]
    exact averageRTD_nonneg h.2 _
  have hstart := (construct_average rtd mem absTime rateTime).ge
  exact (Transition.run_invariant hstep ⟨construct_interlock mem absTime rateTime, hstart⟩ ss).2

theorem run_average_of_hot {m : CryoControlSM} (h : Interlock m) {hot : List Sweep}
    (hhot : ∀ s ∈ hot, 10 < rtd.reading s.packet) :
    rtd.average (Transition.run smEngine m hot) =
      Transition.run (update rateMovingAvgN) (rtd.average m)
        (hot.map fun s => rtd.reading s.packet) := by
  induction hot generalizing m with
  | nil => rfl
  | cons s hot ih =>
    rw [List.forall_mem_cons] at hhot
    rw [Transition.run_cons, ih (smEngine_interlock m s h) hhot.2, smEngine_average rtd h,
      averageRTD_of_hot hhot.1]
    rfl

theorem Powered.off_of_tripped {m : CryoControlSM} (h : Powered m) (ht : m.tripped) :
    m.thisRunHeaterPower = 0 ∧ m.thisRunCCPower = 0 := by
  rw [h.heater, h.cc, if_pos ht, if_pos ht]
  exact ⟨rfl, rfl⟩

theorem run_tripped_of_hot (mem : CryoControlSM) (absTime rateTime : UInt64) {θ : ℚ} {k : ℕ}
    (hθ : 320 < θ) (hk : 320 < θ * (1 - (19 / 20) ^ k)) (before : List Sweep)
    {hot : List Sweep} (hlen : k ≤ hot.length) (hhot : ∀ s ∈ hot, θ ≤ rtd.reading s.packet) :
    (Transition.run smEngine (construct mem absTime rateTime) (before ++ hot)).tripped := by
  have h := run_interlock mem absTime rateTime before
  have havg := run_average_nonneg rtd mem absTime rateTime before
  have hreadings : ∀ x ∈ hot.map fun s => rtd.reading s.packet, θ ≤ x := by
    simpa only [List.forall_mem_map] using hhot
  have hfactor : 1 - rateMovingAvgN⁻¹ = 19 / 20 := by norm_num [rateMovingAvgN]
  rw [tripped_iff, Transition.run_append]
  refine ⟨rtd, hk.trans_le ?_⟩
  rw [run_average_of_hot rtd h fun s hs => by linarith [hhot s hs], ← hfactor]
  exact le_run one_le_rateMovingAvgN (by linarith) havg hreadings
    (by rwa [List.length_map])

/-- No trip below 320 K, and an answer of known delay above: `k` hot sweeps of
one RTD, whatever came before them, switch both powers off, and they stay off
while it is hot. -/
theorem sweeps_trip_in_time (mem : CryoControlSM) (absTime rateTime : UInt64) :
    (∀ ss : List Sweep, (∀ s ∈ ss, s.packet.curTemp ≤ 320 ∧ s.packet.curTempLSH ≤ 320) →
      ∀ front, front <+: ss →
        ¬ (Transition.run smEngine (construct mem absTime rateTime) front).tripped) ∧
      ∀ (rtd : RTD) (θ : ℚ) (k : ℕ), 320 < θ → 320 < θ * (1 - (19 / 20) ^ k) →
        ∀ before hot : List Sweep, k ≤ hot.length → (∀ s ∈ hot, θ ≤ rtd.reading s.packet) →
          let m := Transition.run smEngine (construct mem absTime rateTime) (before ++ hot)
          m.thisRunHeaterPower = 0 ∧ m.thisRunCCPower = 0 := by
  constructor
  · intro ss hss front hfront htrip
    obtain ⟨rtd, hrtd⟩ := (tripped_iff _).mp htrip
    have hreadings : ∀ s ∈ front, rtd.reading s.packet ≤ 320 := by
      intro s hs
      obtain ⟨hcc, hlsh⟩ := hss s (hfront.subset hs)
      cases rtd with
      | cryocooler => exact hcc
      | lakeShore => exact hlsh
    exact absurd hrtd (not_lt.mpr (run_average_le rtd mem absTime rateTime hreadings))
  · intro rtd θ k hθ hk before hot hlen hhot m
    have hpow : Powered m := run_powered mem absTime rateTime (before ++ hot)
    exact hpow.off_of_tripped (run_tripped_of_hot rtd mem absTime rateTime hθ hk before hlen hhot)

def sampleHot (lshTemp : ℚ) (computeTime : UInt64) : Sweep :=
  let s := sampleSweep 200 150 0 0
  { s with
    ctrlRow := { s.ctrlRow with kpR := 1, kiR := 60, kdR := 1 }
    lshRow := { s.lshRow with lshTemp := lshTemp }
    computeTime }

/-- While the machine warms up, the heater's RTD jumps to 800 K: nine such readings still heat,
the tenth does not. -/
theorem sweeps_trip_in_time_sample :
    let hot (n : ℕ) := (List.range n).map fun i => sampleHot 800 (UInt64.ofNat (i + 2))
    let m (n : ℕ) := Transition.run smEngine (construct default 0 0) ([sampleHot 290 1] ++ hot n)
    (m 9).thisRunHeaterPower = 10 ∧ (m 10).thisRunPIDValue = 11 ∧
      ((m 10).thisRunHeaterPower = 0 ∧ (m 10).thisRunCCPower = 0) :=
  ⟨by decide +kernel, by decide +kernel,
    (sweeps_trip_in_time default 0 0).2 .lakeShore 800 10 (by norm_num) (by norm_num) _ _
      (by decide) (by decide +kernel)⟩

end CryoControlSM
end CryoController
