import IotLab.Localization.Algorithms

/-!
# Records of a mote with an anchor

The algorithms look for the anchors that share a record with a mote, each in its own way.
-/

namespace IotLab.Localization

section Peers

variable {K : Type*} {anchors : List (Mote K)} {mote : ℤ} {record : GeolocationData K}

/-- The record is one of the mote with an anchor, in either direction. -/
def HasAnchor (anchors : List (Mote K)) (mote : ℤ) (record : GeolocationData K) : Prop :=
  (record.src.id = mote ∧ isAnchor anchors record.dest.id = true) ∨
    (record.dest.id = mote ∧ isAnchor anchors record.src.id = true)

instance : Decidable (HasAnchor anchors mote record) :=
  inferInstanceAs (Decidable (_ ∨ _))

/-- The anchor of such a record. -/
def SharesRecord (anchors : List (Mote K)) (mote : ℤ) (record : GeolocationData K)
    (anchor : Mote K) : Prop :=
  isAnchor anchors anchor.id = true ∧
    ((record.src.id = mote ∧ record.dest = anchor) ∨
      (record.dest.id = mote ∧ record.src = anchor))

theorem hasAnchor_iff :
    HasAnchor anchors mote record ↔ ∃ anchor, SharesRecord anchors mote record anchor := by
  constructor
  · rintro (⟨src, isOne⟩ | ⟨dest, isOne⟩)
    · exact ⟨record.dest, isOne, .inl ⟨src, rfl⟩⟩
    · exact ⟨record.src, isOne, .inr ⟨dest, rfl⟩⟩
  · rintro ⟨anchor, isOne, ⟨src, rfl⟩ | ⟨dest, rfl⟩⟩
    · exact .inl ⟨src, isOne⟩
    · exact .inr ⟨dest, isOne⟩

theorem isSome_anchorOf_iff :
    (anchorOf anchors mote record).isSome = true ↔ HasAnchor anchors mote record := by
  simp only [anchorOf, HasAnchor, Bool.and_eq_true, decide_eq_true_eq]
  by_cases src : record.src.id = mote ∧ isAnchor anchors record.dest.id = true
  · rw [if_pos src]
    exact iff_of_true rfl (.inl src)
  · rw [if_neg src]
    by_cases dest : record.dest.id = mote ∧ isAnchor anchors record.src.id = true
    · rw [if_pos dest]
      exact iff_of_true rfl (.inr dest)
    · rw [if_neg dest]
      exact iff_of_false (by simp) (not_or.2 ⟨src, dest⟩)

/-- For a mote that is no anchor the anchor of a record is its other end. -/
theorem anchorOf_eq_some_iff (noAnchor : isAnchor anchors mote = false) {anchor : Mote K} :
    anchorOf anchors mote record = some anchor ↔ SharesRecord anchors mote record anchor := by
  have different : ∀ other, isAnchor anchors other = true → other ≠ mote := by
    rintro other isOne rfl
    rw [noAnchor] at isOne
    cases isOne
  simp only [anchorOf, SharesRecord, Bool.and_eq_true, decide_eq_true_eq]
  constructor
  · intro found
    split at found
    · next dest =>
        cases found
        exact ⟨dest.2, .inl ⟨dest.1, rfl⟩⟩
    · split at found
      · next src =>
          cases found
          exact ⟨src.2, .inr ⟨src.1, rfl⟩⟩
      · cases found
  · rintro ⟨isOne, ⟨src, rfl⟩ | ⟨dest, rfl⟩⟩
    · exact if_pos ⟨src, isOne⟩
    · have other : ¬ (record.src.id = mote ∧ isAnchor anchors record.dest.id = true) :=
        fun both => different _ isOne both.1
      rw [if_neg other]
      exact if_pos ⟨dest, isOne⟩

theorem peerOf_eq_anchorOf (noAnchor : isAnchor anchors mote = false) :
    peerOf anchors mote record = anchorOf anchors mote record := by
  rw [peerOf, anchorOf]
  by_cases src : record.src.id = mote
  · have free : isAnchor anchors record.src.id = false := src ▸ noAnchor
    rw [free]
    simp [src]
  · by_cases dest : record.dest.id = mote
    · simp [src, dest, noAnchor]
    · simp [src, dest]

end Peers

end IotLab.Localization
