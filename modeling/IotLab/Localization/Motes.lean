import Mathlib.Algebra.Order.Field.Basic
import Mathlib.Data.List.Nodup
import Mathlib.Data.List.Perm.Basic
import Mathlib.Tactic.Common

/-!
# Motes and records of signal strengths

The localization works on records `source, destination, rssi` of motes with
positions.  Positions and distances are exact: they lie in any linearly ordered
field.
-/

namespace IotLab.Localization

abbrev Text := List Char

/-- A `Mote`; anchors and senders are motes. -/
structure Mote (K : Type*) where
  id : ℤ
  mac : Text
  lat : K
  lon : K
  deriving DecidableEq

/-- A row of the table `GeolocationData`, with its motes. -/
structure GeolocationData (K : Type*) where
  src : Mote K
  dest : Mote K
  rssi : ℤ
  deriving DecidableEq

/-- The keys of `anchorsMap`. -/
def isAnchor {K : Type*} (anchors : List (Mote K)) (id : ℤ) : Bool :=
  anchors.any fun anchor => anchor.id = id

/-- The motes of a list of records. -/
def motesOf {K : Type*} (data : List (GeolocationData K)) : List (Mote K) :=
  data.flatMap fun record => [record.src, record.dest]

/-- What `getLastDataForEachMote` returns: one record for each source and destination,
and motes that are rows of one table, in which ids and addresses are unique. -/
structure LatestData (K : Type*) where
  data : List (GeolocationData K)
  distinct : (data.map fun record => (record.src.id, record.dest.id)).Nodup
  sameId : ∀ mote ∈ motesOf data, ∀ other ∈ motesOf data,
    mote.id = other.id → mote = other
  sameMac : ∀ mote ∈ motesOf data, ∀ other ∈ motesOf data,
    mote.mac = other.mac → mote = other

section Latest

variable {K : Type*} {data : List (GeolocationData K)}

theorem src_mem_motesOf {record : GeolocationData K} (member : record ∈ data) :
    record.src ∈ motesOf data :=
  List.mem_flatMap.2 ⟨record, member, List.mem_cons_self⟩

theorem dest_mem_motesOf {record : GeolocationData K} (member : record ∈ data) :
    record.dest ∈ motesOf data :=
  List.mem_flatMap.2 ⟨record, member, List.mem_cons_of_mem _ List.mem_cons_self⟩

theorem LatestData.eq_of_ids (latest : LatestData K) {record other : GeolocationData K}
    (member : record ∈ latest.data) (otherMember : other ∈ latest.data)
    (src : record.src.id = other.src.id) (dest : record.dest.id = other.dest.id) :
    record = other :=
  List.inj_on_of_nodup_map latest.distinct member otherMember (by rw [src, dest])

end Latest

end IotLab.Localization
