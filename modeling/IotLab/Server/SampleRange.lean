import IotLab.Server.Creation
import Mathlib.Algebra.Group.Nat.Defs

/-!
# The range of the samples

The loop of `GeolocStream.postConvert` ends at twice the declared number, but not later
than at the number of integers from the declared number on, where the samples start one
integer later.  Twice the number is an `int`.
-/

namespace IotLab.Server

open IotLab.Library

section Rows

variable {data : List ℤ} {src : Text} {timestamp : ℤ} {count index : ℕ}

/-- A row is made of two integers in a line. -/
structure RowAt (data : List ℤ) (src : Text) (timestamp : ℤ) (index : ℕ)
    (row : GeolocationData) : Prop where
  src : row.src = src
  dest : ∃ neighbor, data[index]? = some neighbor ∧ row.dest = moteAddress neighbor
  rssi : data[index + 1]? = some row.rssi
  timestamp : row.timestamp = timestamp

/-- The second integer of a step is the strength of the signal. -/
theorem readSamples_rssi {store : Store} {row : GeolocationData} {rows : List GeolocationData}
    (made : (readSamples data src timestamp (count + 1) index store).2 = .ok (row :: rows)) :
    RowAt data src timestamp index row ∧
      ∃ later : Store, (readSamples data src timestamp count (index + 2) later).2 = .ok rows := by
  obtain ⟨_, outcome⟩ |
    ⟨neighbor, first, ⟨_, outcome⟩ | ⟨_, ⟨_, outcome⟩ | ⟨rssi, second, outcome⟩⟩⟩ :=
      readSamples_cases data src timestamp count index store
  · rw [outcome] at made
    cases made
  · rw [outcome] at made
    cases made
  · rw [outcome] at made
    cases made
  · rw [outcome] at made
    cases later : (readSamples data src timestamp count (index + 2)
        (store.withSender (moteAddress neighbor))).2 with
    | error failure =>
        rw [later] at made
        cases made
    | ok others =>
        rw [later] at made
        cases made
        exact ⟨⟨rfl, ⟨neighbor, first, rfl⟩, second, rfl⟩, _, later⟩

/-- The rows are those of the steps. -/
theorem readSamples_rowAt {store : Store} {rows : List GeolocationData}
    (made : (readSamples data src timestamp count index store).2 = .ok rows) (step : ℕ)
    (row : GeolocationData) (found : rows[step]? = some row) :
    RowAt data src timestamp (index + 2 * step) row := by
  induction count generalizing index store rows step with
  | zero =>
      cases made
      cases found
  | succ count ih =>
      cases rows with
      | nil => cases found
      | cons first rest =>
          obtain ⟨here, later, made⟩ := readSamples_rssi made
          cases step with
          | zero =>
              cases found
              exact here
          | succ step =>
              have shifted : index + 2 * (step + 1) = index + 2 + 2 * step := by omega
              rw [shifted]
              exact ih made step found

end Rows

/-! ## The declared number -/

/-- The conversion makes a row for each declared sample that is in the line. -/
def DecodesDeclared (store : Store) (stream : InputStream) (nb : ℤ) : Prop :=
  ∃ rows nodeId, (stream.postConvertGeoloc store).2 = .ok rows ∧
    stream.data[geolocNodeIdOffset]? = some nodeId ∧
    (rows.length : ℤ) = max 0 (min nb (((stream.data.length : ℤ) - 4) / 2)) ∧
    ∀ step row, rows[step]? = some row →
      RowAt stream.data (moteAddress nodeId) stream.timestamp (4 + 2 * step) row

/-- The declared number is that of samples in the line, or the arithmetic of `int` makes
none of it where there are none. -/
def CountFits (nb : ℤ) (length : ℕ) : Prop :=
  -2 ^ 30 ≤ nb ∧ 2 * nb ≤ (length : ℤ) - 4 ∨
    nb = -2 ^ 31 ∨
    2 ^ 30 ≤ nb ∧ length ≤ 5 ∨
    length = 2 ^ 31 - 1 ∧ -2 ^ 30 - 2 ≤ nb ∧ nb < -2 ^ 30

theorem wrapSigned_int (value : ℤ) :
    wrapSigned 32 value = (value + 2147483648) % 4294967296 - 2147483648 := rfl

theorem wrapSigned_double {nb : ℤ} (fits : FitsSigned 32 nb) :
    (-1073741824 ≤ nb ∧ nb < 1073741824 ∧ wrapSigned 32 (nb * 2) = 2 * nb) ∨
      (1073741824 ≤ nb ∧ wrapSigned 32 (nb * 2) = 2 * nb - 4294967296) ∨
      (nb < -1073741824 ∧ wrapSigned 32 (nb * 2) = 2 * nb + 4294967296) := by
  have low : -2147483648 ≤ nb := fits.1
  have high : nb < 2147483648 := fits.2
  rw [wrapSigned_int]
  omega

/-- The loop stays in the line and makes the declared rows for these numbers only. -/
theorem neighborCount_iff {data : List ℤ} {nb : ℤ} (fits : FitsSigned 32 nb)
    (long : 4 ≤ data.length) (short : data.length < 2 ^ 31) :
    ((neighborCount data nb = 0 ∨ firstNeighborId + 2 * neighborCount data nb ≤ data.length) ∧
        (neighborCount data nb : ℤ) = max 0 (min nb (((data.length : ℤ) - 4) / 2))) ↔
      CountFits nb data.length := by
  have low : -2147483648 ≤ nb := fits.1
  have high : nb < 2147483648 := fits.2
  have double := wrapSigned_double fits
  simp only [neighborCount, stepsOfTwo, CountFits, firstNeighborId, dataNbOffset]
  generalize wrapSigned 32 (nb * 2) = doubled at double
  rw [wrapSigned_int]
  rcases double with ⟨_, _, same⟩ | ⟨_, below⟩ | ⟨_, above⟩
  · omega
  · omega
  · omega

/-- The addresses of the node and of the neighbours of a line are accepted. -/
def AcceptsSamples (store : Store) (stream : InputStream) : Prop :=
  (∀ nodeId ∈ stream.data[geolocNodeIdOffset]?, store.Accepts (moteAddress nodeId)) ∧
    ∀ nb ∈ stream.data[dataNbOffset]?, ∀ neighbor,
      Meets stream.data (neighborCount stream.data nb) firstNeighborId neighbor →
        store.Accepts (moteAddress neighbor)

/-- The rows are those of the loop over the counted samples, unless the address of the node is
refused. -/
theorem postConvertGeoloc_eq {store : Store} {stream : InputStream} {nodeId nb : ℤ}
    (node : stream.data[geolocNodeIdOffset]? = some nodeId)
    (declared : stream.data[dataNbOffset]? = some nb) :
    stream.postConvertGeoloc store =
      if store.Accepts (moteAddress nodeId) then
        readSamples stream.data (moteAddress nodeId) stream.timestamp
          (neighborCount stream.data nb) firstNeighborId (store.withSender (moteAddress nodeId))
      else (store, .error .duplicateMote) := by
  simp only [InputStream.postConvertGeoloc, readInt, node, declared, getMote]
  rcases mergeSender_cases store (moteAddress nodeId) with ⟨accepts, merged⟩ | ⟨refuses, merged⟩
  · rw [merged, if_pos accepts]
    rfl
  · rw [merged, if_neg refuses]

/-- There are rows if the counted samples are in the line and all addresses are accepted. -/
theorem postConvertGeoloc_ok_iff {store : Store} {stream : InputStream} {nb : ℤ}
    (declared : stream.data[dataNbOffset]? = some nb) :
    (∃ rows, (stream.postConvertGeoloc store).2 = .ok rows) ↔
      (neighborCount stream.data nb = 0 ∨
          firstNeighborId + 2 * neighborCount stream.data nb ≤ stream.data.length) ∧
        AcceptsSamples store stream := by
  have long : 4 ≤ stream.data.length := (List.getElem?_eq_some_iff.1 declared).1
  obtain ⟨nodeId, node⟩ : ∃ nodeId, stream.data[geolocNodeIdOffset]? = some nodeId :=
    ⟨_, List.getElem?_eq_getElem (lt_of_lt_of_le (by decide) long)⟩
  rw [postConvertGeoloc_eq node declared, AcceptsSamples, node, declared]
  simp only [Option.mem_some_iff, forall_eq']
  by_cases accepts : store.Accepts (moteAddress nodeId)
  · simp only [accepts, if_true, true_and, readSamples_ok_iff, accepts_withSender_iff accepts]
  · simp [accepts]

theorem decodesDeclared_iff {store : Store} {stream : InputStream} {nb : ℤ}
    (declared : stream.data[dataNbOffset]? = some nb) (fits : FitsSigned 32 nb)
    (short : stream.data.length < 2 ^ 31) :
    DecodesDeclared store stream nb ↔
      CountFits nb stream.data.length ∧ AcceptsSamples store stream := by
  have long : 4 ≤ stream.data.length := (List.getElem?_eq_some_iff.1 declared).1
  have node : ∃ nodeId, stream.data[geolocNodeIdOffset]? = some nodeId :=
    ⟨_, List.getElem?_eq_getElem (lt_of_lt_of_le (by decide) long)⟩
  obtain ⟨nodeId, node⟩ := node
  have read : ∀ rows, (stream.postConvertGeoloc store).2 = .ok rows →
      ∃ merged, (readSamples stream.data (moteAddress nodeId) stream.timestamp
        (neighborCount stream.data nb) firstNeighborId merged).2 = .ok rows := by
    intro rows made
    rw [postConvertGeoloc_eq node declared] at made
    split at made
    · exact ⟨_, made⟩
    · cases made
  rw [← neighborCount_iff fits long short, and_right_comm, ← postConvertGeoloc_ok_iff declared,
    DecodesDeclared]
  constructor
  · rintro ⟨rows, _, made, _, size, _⟩
    obtain ⟨merged, looped⟩ := read rows made
    rw [readSamples_length looped] at size
    exact ⟨⟨rows, made⟩, size⟩
  · rintro ⟨⟨rows, made⟩, size⟩
    obtain ⟨merged, looped⟩ := read rows made
    refine ⟨rows, nodeId, made, node, ?_, readSamples_rowAt looped⟩
    rw [readSamples_length looped]
    exact size

/-- A line with one sample. -/
theorem decodesDeclared_one :
    DecodesDeclared {} ⟨"GeolocStream".toList, 0, [0, 10, 7, 1, 8, -60],
      ⟨10, "GeolocStream".toList, 4⟩⟩ 1 := by
  apply (decodesDeclared_iff rfl (by decide) (by simp)).2
  refine ⟨.inl (by simp), fun _ _ taken => ?_, fun _ _ _ _ taken => ?_⟩
  · cases taken
  · cases taken

/-- A line that declares a sample and ends is accepted and read over its end. -/
theorem not_decodesDeclared_truncated :
    let stream : InputStream :=
      ⟨"GeolocStream".toList, 0, [0, 10, 7, 1], ⟨10, "GeolocStream".toList, 4⟩⟩
    stream.checkValidity = .ok () ∧ ¬ DecodesDeclared {} stream 1 := by
  intro stream
  refine ⟨rfl, ?_⟩
  rintro ⟨rows, nodeId, made, _⟩
  have inside := ((@postConvertGeoloc_ok_iff {} stream 1 rfl).1 ⟨rows, made⟩).1
  revert inside
  decide

end IotLab.Server
