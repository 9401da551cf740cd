import EventFormation.Config.Basic
import EventFormation.Proofs.Fault

namespace EventFormation

theorem ReductionConfig.maxTimebins_pos {config : ReductionConfig} (passed : config.check = .ok ()) :
    0 < config.maxTimebins := by
  unfold check at passed
  split at passed
  · cases passed
  · omega

namespace MatchConfig

theorem checkPlanes_eq_ok {seen planes : List UInt8} (passed : checkPlanes seen planes = .ok ()) :
    planes.Nodup ∧ ∀ plane ∈ planes, plane ≠ Hit.reservedPlane ∧ plane ∉ seen := by
  induction planes generalizing seen with
  | nil => simp
  | cons plane rest ih =>
    unfold checkPlanes at passed
    split at passed
    · cases passed
    rename_i unreserved
    split at passed
    · cases passed
    rename_i fresh
    obtain ⟨distinct, others⟩ := ih passed
    refine ⟨List.nodup_cons.mpr ⟨fun again => (others plane again).2 List.mem_cons_self, distinct⟩, ?_⟩
    intro other member
    rcases List.mem_cons.mp member with rfl | later
    · exact ⟨by simpa using unreserved, by simpa using fresh⟩
    · exact ⟨(others other later).1, fun old => (others other later).2 (List.mem_cons_of_mem plane old)⟩

/-- All that the planes of an accepted configuration are known for. -/
structure PlanesChecked (planes : List UInt8) : Prop where
  some : planes ≠ []
  few : planes.length ≤ Event.maxPlanes
  distinct : planes.Nodup
  unreserved : Hit.reservedPlane ∉ planes

theorem planesChecked_of_check {config : MatchConfig} (passed : config.check = .ok ()) :
    PlanesChecked config.planes := by
  unfold check at passed
  split at passed
  · cases passed
  rename_i some
  split at passed
  · cases passed
  rename_i few
  obtain ⟨_, planes, _⟩ := bind_eq_ok_iff.mp passed
  obtain ⟨distinct, unreserved⟩ := checkPlanes_eq_ok planes
  exact ⟨by simpa using some, by omega, distinct, fun reserved => (unreserved _ reserved).1 rfl⟩

end MatchConfig

end EventFormation
