import IotLab.Firmware.Sink
import IotLab.Pipeline.Reception
import IotLab.Server.SampleRange

/-!
# A geolocation message from the mote to the server

The samples of a geolocation message come out of the server in their order, each
with the addresses of the mote and of its neighbour, whatever the unused entries of
the message contain.  The server converts the line with the filters of its type
before it reads the samples, and does not use the result; a filter that fails there
stops the line, and so does an address that a mote of another kind has.
-/

namespace IotLab.Pipeline

open IotLab.Library
open IotLab.Firmware
open IotLab.Gateway
open IotLab.Server

/-- A packet that carries a geolocation message. -/
def geolocPacket (nodeId : Word) (data : List GeolocData) (stack beyond : Memory)
    (srcLow srcHigh ttl : Byte) : UdpPacket :=
  { destport := udpGeolocPort
    srcLow
    srcHigh
    ttl
    datalen := 44
    appdata := inMemory (geolocDataSend nodeId data stack) beyond }

/-- The low byte, a point, the high byte. -/
def wordAddress (word : Word) : List Char :=
  Nat.toDigits 10 (word.val % 256) ++ '.' :: Nat.toDigits 10 (word.val / 256)

theorem moteAddress_word (word : Word) : moteAddress word.val = wordAddress word := by
  have bytes := moteAddress_bytes ⟨word.val % 256, Nat.mod_lt _ (by decide)⟩
    ⟨word.val / 256, Nat.div_lt_of_lt_mul word.isLt⟩
  have whole : ((word.val % 256 : ℕ) : ℤ) + 256 * ((word.val / 256 : ℕ) : ℤ) =
      (word.val : ℤ) := by omega
  rw [whole] at bytes
  exact bytes

theorem length_wordBytes_flatMap (words : List Word) :
    (words.flatMap wordBytes).length = 2 * words.length := by
  induction words with
  | nil => rfl
  | cons word rest ih =>
      rw [List.flatMap_cons, List.length_append, ih, List.length_cons]
      simp only [wordBytes, List.length_cons, List.length_nil]
      omega

theorem length_geolocWords (data : List GeolocData) :
    (data.flatMap GeolocData.words).length = 2 * data.length := by
  induction data with
  | nil => rfl
  | cons sample rest ih =>
      rw [List.flatMap_cons, List.length_append, ih, List.length_cons]
      simp only [GeolocData.words, List.length_cons, List.length_nil]
      omega

theorem length_geolocDataSend {data : List GeolocData} (nodeId : Word) (stack : Memory)
    (few : data.length ≤ geolocDataLength) :
    (geolocDataSend nodeId data stack).length = 44 := by
  have few10 : data.length ≤ 10 := few
  simp only [geolocDataSend, List.length_append, length_wordBytes_flatMap,
    length_geolocWords, List.length_map, List.length_range, geolocDataLength]
  simp only [wordBytes, List.length_cons, List.length_nil]
  omega

/-- The loop over the samples reads one row for each if all neighbours are accepted. -/
theorem readSamples_samples (before : List ℤ) (samples : List GeolocData)
    (src : Server.Text) (timestamp : ℤ) {store : Store}
    (accepts : ∀ sample ∈ samples, store.Accepts (wordAddress sample.srcId)) :
    (readSamples (before ++ samples.flatMap fun sample =>
        [(sample.srcId.val : ℤ), sample.rssi]) src timestamp samples.length
        before.length store).2 =
      .ok (samples.map fun sample =>
        { src
          dest := wordAddress sample.srcId
          rssi := sample.rssi
          timestamp }) := by
  induction samples generalizing before store with
  | nil => rfl
  | cons sample rest ih =>
      obtain ⟨first, others⟩ := List.forall_mem_cons.1 accepts
      have later := ih (before ++ [(sample.srcId.val : ℤ), sample.rssi])
        (fun other member => (accepts_withSender_iff first).2 (others other member))
      have neighbor : readInt (before ++ (sample :: rest).flatMap fun sample =>
          [(sample.srcId.val : ℤ), sample.rssi]) before.length =
            .ok (sample.srcId.val : ℤ) := by
        rw [readInt, List.getElem?_append_right le_rfl, Nat.sub_self]
        rfl
      have rssi : readInt (before ++ (sample :: rest).flatMap fun sample =>
          [(sample.srcId.val : ℤ), sample.rssi]) (before.length + 1) =
            .ok sample.rssi := by
        rw [readInt, List.getElem?_append_right (Nat.le_add_right _ 1),
          Nat.add_sub_cancel_left]
        rfl
      rw [List.append_assoc, List.length_append] at later
      rw [List.length_cons, readSamples]
      simp only [neighbor, rssi, getMote, moteAddress_word, mergeSender_of_accepts first]
      exact congrArg (Except.map fun rows =>
        (⟨src, wordAddress sample.srcId, sample.rssi, timestamp⟩ : GeolocationData) ::
          rows) later

theorem fitsSigned_geolocLine (nodeId : Word) {data : List GeolocData}
    (few : data.length ≤ geolocDataLength) :
    ∀ value ∈ geolocLine nodeId data, FitsSigned 32 value := by
  have few10 : data.length ≤ 10 := few
  intro value member
  rcases List.mem_append.1 member with header | body
  · simp only [List.mem_cons, List.not_mem_nil, or_false] at header
    rcases header with rfl | rfl | rfl
    · exact fitsSigned_of_lt (by decide : 10 < 65536)
    · exact fitsSigned_of_lt nodeId.isLt
    · exact fitsSigned_of_lt (by omega)
  · rcases List.mem_flatMap.1 body with ⟨sample, _, inside⟩
    simp only [List.mem_cons, List.not_mem_nil, or_false] at inside
    rcases inside with rfl | rfl
    · exact fitsSigned_of_lt sample.srcId.isLt
    · exact fitsSigned_of_int16 sample.low sample.high

theorem length_geolocLine (nodeId : Word) (data : List GeolocData) :
    (geolocLine nodeId data).length = 3 + 2 * data.length := by
  have samples : ∀ data : List GeolocData, (data.flatMap fun sample =>
      [(sample.srcId.val : ℤ), sample.rssi]).length = 2 * data.length := by
    intro data
    induction data with
    | nil => rfl
    | cons sample rest ih =>
        rw [List.flatMap_cons, List.length_append, ih, List.length_cons]
        simp only [List.length_cons, List.length_nil]
        omega
  rw [geolocLine, List.length_append, samples]
  rfl

theorem getElem?_samples (samples : List GeolocData) (step : ℕ) :
    (samples.flatMap fun sample => [(sample.srcId.val : ℤ), sample.rssi])[2 * step]? =
      samples[step]?.map fun sample => (sample.srcId.val : ℤ) := by
  induction samples generalizing step with
  | nil => simp
  | cons sample rest ih =>
      cases step with
      | zero => rfl
      | succ step => exact ih step

section Rows

variable (nodeId : Word) {data : List GeolocData} (few : data.length ≤ geolocDataLength)
include few

theorem neighborCount_geolocLine :
    neighborCount (0 :: geolocLine nodeId data) data.length = data.length := by
  have few10 : data.length ≤ 10 := few
  have small : ∀ value : ℤ, 0 ≤ value → value ≤ 1000 → wrapSigned 32 value = value := by
    intro value low high
    simp only [wrapSigned]
    norm_num
    omega
  rw [neighborCount, List.length_cons, length_geolocLine, dataNbOffset, firstNeighborId,
    small (data.length * 2) (by omega) (by omega), min_eq_left (by omega),
    small _ (by omega) (by omega), stepsOfTwo]
  omega

/-- The server reads the rows of the line of a geolocation message exactly if it accepts its
addresses. -/
theorem postConvertGeoloc_geolocLine (streamName : Server.Text) (timestamp : ℤ)
    (type : StreamType) (store : Store) :
    ((InputStream.mk streamName timestamp (0 :: geolocLine nodeId data)
        type).postConvertGeoloc store).2 =
      .ok (data.map fun sample =>
        { src := wordAddress nodeId
          dest := wordAddress sample.srcId
          rssi := sample.rssi
          timestamp }) ↔
      store.Accepts (wordAddress nodeId) ∧
        ∀ sample ∈ data, store.Accepts (wordAddress sample.srcId) := by
  have declared : (InputStream.mk streamName timestamp (0 :: geolocLine nodeId data)
      type).data[dataNbOffset]? = some (data.length : ℤ) := rfl
  constructor
  · intro made
    have accepts := ((postConvertGeoloc_ok_iff declared).1 ⟨_, made⟩).2
    have node : store.Accepts (moteAddress nodeId.val) := accepts.1 _ rfl
    refine ⟨moteAddress_word nodeId ▸ node, fun sample member => ?_⟩
    obtain ⟨step, inside, rfl⟩ := List.getElem_of_mem member
    have there : (geolocLine nodeId data)[3 + 2 * step]? = some (data[step].srcId.val : ℤ) := by
      rw [geolocLine, List.getElem?_append_right (Nat.le_add_right 3 _)]
      exact (congrArg _ (Nat.add_sub_cancel_left 3 _)).trans (by
        rw [getElem?_samples, List.getElem?_eq_getElem inside, Option.map_some])
    have meets : Meets (0 :: geolocLine nodeId data) (neighborCount (0 :: geolocLine nodeId data)
        data.length) firstNeighborId data[step].srcId.val := by
      refine ⟨step, (neighborCount_geolocLine nodeId few).symm ▸ inside, ?_⟩
      rw [firstNeighborId, ← there, Nat.add_right_comm 3 1, List.getElem?_cons_succ]
    exact moteAddress_word _ ▸ accepts.2 _ rfl _ meets
  · rintro ⟨node, neighbours⟩
    rw [postConvertGeoloc_eq rfl declared, moteAddress_word, if_pos node,
      neighborCount_geolocLine nodeId few]
    exact readSamples_samples [0, 10, (nodeId.val : ℤ), data.length] data (wordAddress nodeId)
      timestamp fun sample member => (accepts_withSender_iff node).2 (neighbours sample member)

end Rows

/-- A geolocation message arrives at the server sample by sample, unless a filter of
its type asks for a decimal number whose second part is negative or missing, or a mote
that is no sender has the address of the node or of a neighbour; then there are no rows. -/
theorem geoloc_message_decoded (nodeId : Word) (data : List GeolocData)
    (few : data.length ≤ geolocDataLength) (stack beyond : Memory)
    (srcLow srcHigh ttl curHopLimit : Byte) (clock : ℕ) (time : ReceptionTime)
    (store : Store) {type : StreamType} (registered : store.findType 10 = .ok type)
    (named : type.streamName = "GeolocStream".toList) (short : type.minDataNumber ≤ 4) :
    let printed := (tcpipHandler
      (geolocPacket nodeId data stack beyond srcLow srcHigh ttl) curHopLimit clock).printed
    let integers := 0 :: geolocLine nodeId data
    ∃ text stream,
      printed = joinBlank ((geolocLine nodeId data).map printInt) ++ ['\n'] ∧
      (handleIncomingData time.value (readLine printed)).map SensorData.toText =
        some text ∧
      newGeolocStream store text = (store, .ok stream) ∧
      ((stream.convertGeoloc store .doubleDefault).2 =
          .ok (data.map fun sample =>
            { src := wordAddress nodeId
              dest := wordAddress sample.srcId
              rssi := sample.rssi
              timestamp := time.value }) ↔
        ¬ NegativePart (store.filters.find 10) integers ∧
          ¬ MissingPart (store.filters.find 10) integers ∧
            store.Accepts (wordAddress nodeId) ∧
              ∀ sample ∈ data, store.Accepts (wordAddress sample.srcId)) := by
  intro printed integers
  have line : printed = joinBlank ((geolocLine nodeId data).map printInt) ++ ['\n'] :=
    tcpipHandlerGeoloc_printed
      ⟨(length_geolocDataSend nodeId stack few).symm, beyond, rfl⟩ few
  have fits := fitsSigned_geolocLine nodeId few
  have split : ∃ rest, geolocLine nodeId data = 10 :: rest := ⟨_, rfl⟩
  rcases split with ⟨rest, split⟩
  have ten : type.id = 10 := by
    simp only [Store.findType] at registered
    split at registered
    · cases registered
    · next found =>
        cases registered
        simpa using List.find?_some found
  refine ⟨joinBlank ((time.value :: geolocLine nodeId data).map printInt),
    { streamName := "GeolocStream".toList
      timestamp := time.value
      data := integers
      type }, line, ?_, ?_, ?_⟩
  · rw [line, split]
    exact gateway_line time (split ▸ fits) (by decide)
  · rw [newGeolocStream, split, readStream_joinBlank _ _ store time.fitsSigned (split ▸ fits),
      registered]
    simp [Except.map, integers, split]
  · have valid : InputStream.checkValidity
        { streamName := "GeolocStream".toList
          timestamp := time.value
          data := integers
          type } = .ok () := by
      rw [InputStream.checkValidity, if_pos]
      refine ⟨?_, named⟩
      simp only [integers, List.length_cons, length_geolocLine]
      omega
    have rows := postConvertGeoloc_geolocLine nodeId few "GeolocStream".toList time.value
      type store
    simp only [InputStream.convertGeoloc, InputStream.convertValues, valid, ten]
    rcases convertLoop_cases integers (store.filters.sorted_find 10)
        (by decide : Strategy.doubleDefault ≠ .batteryRemaining) with
      ⟨outcome, negative⟩ | ⟨outcome, _, missing⟩ | ⟨noNegative, noMissing, values, outcome, _⟩
    · simp [outcome, negative, bind, Except.bind]
    · simp [outcome, missing, bind, Except.bind]
    · simp only [bind, Except.bind, outcome]
      rw [rows]
      simp [noNegative, noMissing]

/-! ## One sample -/

/-- A neighbour heard with a negative signal strength. -/
def heardSample : GeolocData :=
  { srcId := 2, rssi := -42, low := by decide, high := by decide }

/-- A store that knows the type of the geolocation lines. -/
def geolocStore (filters : FilterTable) : Store :=
  { types := [⟨10, "GeolocStream".toList, 4⟩], filters }

/-- A filter that reads the neighbour of a geolocation line as the first part of a
decimal number. -/
def batteryFilter : Filter :=
  { offset := 5
    className := "BatteryRemaining".toList
    label := "battery".toList
    type := 10 }

theorem geoloc_message_decoded_one :
    ∃ text stream, newGeolocStream (geolocStore {}) text = (geolocStore {}, .ok stream) ∧
      (stream.convertGeoloc (geolocStore {}) .doubleDefault).2 =
        .ok [⟨"1.0".toList, "2.0".toList, -42, 1400000000000⟩] := by
  rcases geoloc_message_decoded 1 [heardSample] (by decide) (fun _ => 7) (fun _ => 0) 0 1
      64 64 0 ⟨1400000000000, by decide, by decide⟩ (geolocStore {}) rfl rfl le_rfl with
    ⟨text, stream, _, _, built, rows⟩
  have noFilter : ∀ filter, filter ∉ liveFilters ((geolocStore {}).filters.find 10) := by
    intro filter member
    cases member
  refine ⟨text, stream, built, rows.2 ⟨?_, ?_, fun taken => ?_, fun _ _ taken => ?_⟩⟩
  · rintro ⟨filter, member, _⟩
    exact noFilter filter member
  · rintro ⟨filter, member, _⟩
    exact noFilter filter member
  · cases taken
  · cases taken

/-- With the filter, the server throws the exception of the decimal number and stores
no sample. -/
theorem geoloc_message_stopped :
    let printed := (tcpipHandler
      (geolocPacket 1 [heardSample] (fun _ => 0) (fun _ => 0) 0 1 64) 64 0).printed
    let store := geolocStore { rows := [batteryFilter] }
    store.findType 10 = .ok ⟨10, "GeolocStream".toList, 4⟩ ∧
    ∃ text stream,
      (handleIncomingData 1400000000000 (readLine printed)).map SensorData.toText =
        some text ∧
      (newGeolocStream store text).2 = .ok stream ∧
      (stream.convertGeoloc store .doubleDefault).2 = .error .numberFormat := by
  refine ⟨rfl, "1400000000000 10 1 1 2 -42".toList,
    { streamName := "GeolocStream".toList
      timestamp := 1400000000000
      data := [0, 10, 1, 1, 2, -42]
      type := ⟨10, "GeolocStream".toList, 4⟩ }, ?_, rfl, rfl⟩
  decide +kernel

end IotLab.Pipeline
