import IotLab.Firmware.Command
import IotLab.Library.Codec
import IotLab.Library.Tokens

/-!
# Data and geolocation messages

A mote sends its measurements in a data message and the neighbours it has heard in
a geolocation message.  The sink prints one line for each message on its serial
port.  Messages are bytes in memory: the handler of the sink reads what it finds
behind `uip_appdata`, and the offsets that it reads are part of its result.
-/

namespace IotLab.Firmware

open IotLab.Library

/-! ## The senders -/

/-- The words of a `struct data_msg`. -/
def dataWords : ℕ := 22

/-- A data message: the sequence number, a byte for alignment and the words of the
`struct data_msg`. -/
structure DataMessage where
  seqno : Byte
  forAlignment : Byte := 0
  msg : List Word
  length_msg : msg.length = dataWords

/-- The bytes that `data_send` hands to `uip_udp_packet_sendto`. -/
def DataMessage.bytes (message : DataMessage) : List Byte :=
  message.seqno :: message.forAlignment :: message.msg.flatMap wordBytes

/-- The next `seqno` of `data_send`: it wraps to 128 to identify restarts. -/
def nextSeqno (seqno : Byte) : Byte :=
  if seqno + 1 = 0 then 128 else seqno + 1

/-- The `seqno` of an emission; the first emission after the start is number 1. -/
def seqnoOf (emission : ℕ) : Byte := nextSeqno^[emission] 0

theorem nextSeqno_mod (seqno : Byte) :
    (nextSeqno seqno).val % 128 = (seqno.val + 1) % 128 := by
  have added : (seqno + 1).val = (seqno.val + 1) % 256 := rfl
  rw [nextSeqno]
  split
  · next wraps =>
      have zero : (seqno + 1).val = 0 := congrArg Fin.val wraps
      have wrapped : (128 : Byte).val % 128 = 0 := rfl
      omega
  · omega

/-- Modulo 128 the sequence wraps regularly. -/
theorem seqnoOf_mod (emission : ℕ) : (seqnoOf emission).val % 128 = emission % 128 := by
  induction emission with
  | zero => rfl
  | succ emission ih =>
      rw [seqnoOf, Function.iterate_succ_apply', nextSeqno_mod, ← seqnoOf, Nat.add_mod, ih,
        ← Nat.add_mod]

example : (seqnoOf 255, seqnoOf 256, seqnoOf 383, seqnoOf 384) = (255, 128, 255, 128) := by
  decide +kernel

/-- `GEOLOC_DATA_LENGTH`. -/
def geolocDataLength : ℕ := 10

/-- A `struct geoloc_data`: the neighbour and the signal strength, which is
signed. -/
structure GeolocData where
  srcId : Word
  rssi : ℤ
  low : -32768 ≤ rssi
  high : rssi < 32768

def GeolocData.words (data : GeolocData) : List Word :=
  [data.srcId, ofInt16 data.rssi]

/-- `geoloc_data_send`: the message holds `nb` samples and, behind them, what the
rest of the array `msg.data` on the stack contains. -/
def geolocDataSend (nodeId : Word) (data : List GeolocData) (stack : Memory) :
    List Byte :=
  let samples := (data.flatMap GeolocData.words).flatMap wordBytes
  wordBytes nodeId ++ (wordBytes (ofInt16 data.length) ++
    (samples ++ (List.range (4 * geolocDataLength - samples.length)).map fun offset =>
      stack (samples.length + offset)))

/-! ## The sink -/

def udpServerPort : ℕ := 3001

def udpGeolocPort : ℕ := 5690

/-- A received UDP packet. -/
structure UdpPacket where
  destport : ℕ
  /-- `srcipaddr.u8[15]` and `srcipaddr.u8[14]`. -/
  srcLow : Byte
  srcHigh : Byte
  ttl : Byte
  /-- `uip_datalen()`, a `uint16_t`. -/
  datalen : Word
  /-- The memory behind `uip_appdata`. -/
  appdata : Memory

/-- What a handler of the sink prints, the offsets from `uip_appdata` that it
reads, and how many bytes it sets to zero. -/
structure SinkOutput where
  printed : Text := []
  reads : List ℕ := []
  cleared : ℕ := 0

/-- `printf` with `%u`. -/
def printUnsigned (value : ℕ) : Text := Nat.toDigits 10 value

/-- The offsets of a word. -/
def wordOffsets (offset : ℕ) : List ℕ := [offset, offset + 1]

/-- `data_recv`, with the payload at an offset of the packet's memory. -/
def dataRecv (memory : Memory) (payload : ℕ) (originator : Byte × Byte)
    (seqno hops : Byte) (payloadLen : ℕ) (time : ℕ) : SinkOutput :=
  let count := payloadLen / 2
  { printed :=
      printUnsigned ((8 + count) % 65536) ++
        ' ' :: printUnsigned (time / 65536 % 65536) ++
        ' ' :: printUnsigned (time % 65536) ++ " 0".toList ++
        ' ' :: printUnsigned (originator.1.val + 256 * originator.2.val) ++
        ' ' :: printUnsigned seqno.val ++ ' ' :: printUnsigned hops.val ++
        ' ' :: printUnsigned 0 ++
        (List.range count).flatMap (fun index =>
          ' ' :: printUnsigned (loadWord memory (payload + 2 * index))) ++ ['\n']
    reads := (List.range count).flatMap fun index =>
      wordOffsets (payload + 2 * index) }

/-- The data branch of `tcpip_handler`.  The length of the payload is computed in
16 bits. -/
def tcpipHandlerData (packet : UdpPacket) (curHopLimit : Byte) (time : ℕ) :
    SinkOutput :=
  let hops : Byte := curHopLimit - packet.ttl + 1
  let received := dataRecv packet.appdata 2 (packet.srcLow, packet.srcHigh)
    (packet.appdata 0) hops ((packet.datalen.val + 65536 - 2) % 65536) time
  { received with
    printed := "0 ".toList ++ received.printed
    reads := 0 :: received.reads }

/-- The geolocation branch of `tcpip_handler`.  The loop runs to `2*nb` in 16-bit
signed arithmetic and prints even values unsigned, odd ones signed. -/
def tcpipHandlerGeoloc (packet : UdpPacket) : SinkOutput :=
  let nodeId := loadWord packet.appdata 0
  let nb := toInt16 (loadWord packet.appdata 2)
  let bound := toInt16 (2 * nb)
  let printed := fun index : ℕ =>
    let data := loadWord packet.appdata (4 + 2 * index)
    if index % 2 = 0 then ' ' :: printUnsigned data
    else ' ' :: printInt (toInt16 data)
  { printed :=
      "10 ".toList ++ printUnsigned nodeId ++ ' ' :: printInt nb ++
        (List.range bound.toNat).flatMap printed ++ ['\n']
    reads := wordOffsets 0 ++ wordOffsets 2 ++
      (List.range bound.toNat).flatMap fun index => wordOffsets (4 + 2 * index)
    cleared := ((4 + bound * 2) % 65536).toNat }

/-- `tcpip_handler`. -/
def tcpipHandler (packet : UdpPacket) (curHopLimit : Byte) (time : ℕ) :
    SinkOutput :=
  if packet.destport = udpServerPort then
    tcpipHandlerData packet curHopLimit time
  else if packet.destport = udpGeolocPort then tcpipHandlerGeoloc packet
  else {}

/-! ## The printed lines -/

/-- The integers of the line for a data message. -/
def dataLine (message : DataMessage) (originator : Byte × Byte) (hops : Byte)
    (time : ℕ) : List ℤ :=
  [0, 30, ((time / 65536 % 65536 : ℕ) : ℤ), ((time % 65536 : ℕ) : ℤ), 0,
    ((originator.1.val + 256 * originator.2.val : ℕ) : ℤ), (message.seqno.val : ℤ),
    (hops.val : ℤ), 0] ++ message.msg.map fun word => (word.val : ℤ)

/-- The integers of the line for a geolocation message. -/
def geolocLine (nodeId : Word) (data : List GeolocData) : List ℤ :=
  [10, (nodeId.val : ℤ), (data.length : ℤ)] ++
    data.flatMap fun sample => [(sample.srcId.val : ℤ), sample.rssi]

/-- The packet of a data message: whatever lies behind it in the buffer, its length
is the length of the message. -/
structure Carries (packet : UdpPacket) (message : List Byte) : Prop where
  datalen : packet.datalen.val = message.length
  appdata : ∃ beyond, packet.appdata = inMemory message beyond

theorem DataMessage.length_bytes (message : DataMessage) :
    message.bytes.length = 46 := by
  have words : ∀ msg : List Word,
      (msg.flatMap wordBytes).length = 2 * msg.length := by
    intro msg
    induction msg with
    | nil => rfl
    | cons word rest ih =>
        rw [List.flatMap_cons, List.length_append, ih, List.length_cons]
        simp only [wordBytes, List.length_cons, List.length_nil]
        omega
  simp only [DataMessage.bytes, List.length_cons, words, message.length_msg,
    dataWords]

/-- The words of a data message are read behind its first two bytes. -/
theorem map_loadWord_dataMessage (message : DataMessage) (beyond : Memory) :
    (List.range dataWords).map (fun index =>
        loadWord (inMemory message.bytes beyond) (2 + 2 * index)) =
      message.msg.map Fin.val := by
  have head : message.bytes = [message.seqno, message.forAlignment] ++
      (message.msg.flatMap wordBytes ++ []) := by
    simp [DataMessage.bytes]
  rw [head]
  have shifted : ∀ index, loadWord (inMemory ([message.seqno, message.forAlignment] ++
        (message.msg.flatMap wordBytes ++ [])) beyond) (2 + 2 * index) =
      loadWord (inMemory (message.msg.flatMap wordBytes ++ []) fun offset =>
        beyond (2 + offset)) (2 * index) :=
    fun index => loadWord_append [message.seqno, message.forAlignment] _ beyond _
  simp only [shifted, ← message.length_msg]
  exact map_loadWord_words message.msg [] _

/-- The line that the sink prints for a data message. -/
theorem tcpipHandlerData_printed {packet : UdpPacket} {message : DataMessage}
    (carries : Carries packet message.bytes) (curHopLimit : Byte) (time : ℕ) :
    (tcpipHandlerData packet curHopLimit time).printed =
      joinBlank ((dataLine message (packet.srcLow, packet.srcHigh)
        (curHopLimit - packet.ttl + 1) time).map printInt) ++ ['\n'] := by
  rcases carries.appdata with ⟨beyond, memory⟩
  have length : (packet.datalen.val + 65536 - 2) % 65536 / 2 = dataWords := by
    rw [carries.datalen, message.length_bytes]
    rfl
  have first : packet.appdata 0 = message.seqno := by
    rw [memory]
    rfl
  have words : (List.range dataWords).flatMap (fun index =>
        ' ' :: printUnsigned (loadWord packet.appdata (2 + 2 * index))) =
      message.msg.flatMap fun word => ' ' :: printUnsigned word.val := by
    rw [memory]
    have values := map_loadWord_dataMessage message beyond
    calc
      _ = ((List.range dataWords).map fun index =>
            loadWord (inMemory message.bytes beyond) (2 + 2 * index)).flatMap
          fun value => ' ' :: printUnsigned value := (List.flatMap_map ..).symm
      _ = (message.msg.map Fin.val).flatMap
          fun value => ' ' :: printUnsigned value := by rw [values]
      _ = _ := List.flatMap_map ..
  have zero : printInt 0 = ['0'] := by decide
  have thirty : printInt 30 = printUnsigned ((8 + dataWords) % 65536) := by decide
  have unsigned : printUnsigned 0 = ['0'] := by decide
  simp only [tcpipHandlerData, dataRecv, length, first, words, dataLine,
    List.cons_append, List.nil_append, List.map_cons, List.map_map,
    joinBlank_eq_append, List.flatMap_cons, List.flatMap_map, zero, thirty, unsigned,
    printInt_natCast, List.append_assoc]
  rfl

/-- Values printed alternately in two ways are the two values of each sample. -/
theorem flatMap_range_pairs {α β γ : Type*} (data : List α) (first second : α → β)
    (even odd : β → List γ) (value : ℕ → β)
    (values : ∀ index (inside : index < data.length),
      value (2 * index) = first data[index] ∧
        value (2 * index + 1) = second data[index]) :
    (List.range (2 * data.length)).flatMap (fun index =>
        if index % 2 = 0 then even (value index) else odd (value index)) =
      data.flatMap fun sample => even (first sample) ++ odd (second sample) := by
  induction data generalizing value with
  | nil => rfl
  | cons sample rest ih =>
      have here := values 0 (Nat.succ_pos _)
      have later := ih (fun index => value (index + 2)) (by
        intro index inside
        have next := values (index + 1) (Nat.succ_lt_succ inside)
        exact next)
      have length : 2 * (sample :: rest).length = 2 * rest.length + 1 + 1 := by
        rw [List.length_cons]
        omega
      rw [length, List.range_succ_eq_map, List.range_succ_eq_map, List.flatMap_cons]
      simp only [List.map_cons, List.flatMap_cons, List.map_map, List.flatMap_map]
      simp only [Function.comp_def, Nat.succ_eq_add_one, Nat.add_assoc,
        Nat.add_mod_right, Nat.reduceAdd] at later ⊢
      rw [later, ← List.append_assoc]
      simp only [Nat.mul_zero, List.getElem_cons_zero] at here
      simp [here]

theorem loadWord_geolocDataSend (nodeId : Word) (data : List GeolocData)
    (stack beyond : Memory) (index : ℕ)
    (inside : index < (data.flatMap GeolocData.words).length) :
    loadWord (inMemory (geolocDataSend nodeId data stack) beyond) (4 + 2 * index) =
      (data.flatMap GeolocData.words)[index].val := by
  have offset : 4 + 2 * index =
      (wordBytes nodeId).length +
        ((wordBytes (ofInt16 data.length)).length + 2 * index) := by
    simp only [wordBytes, List.length_cons, List.length_nil]
    omega
  rw [offset, geolocDataSend, loadWord_append, loadWord_append]
  exact loadWord_words _ _ _ index inside

theorem getElem_flatMap_words (data : List GeolocData) (index : ℕ)
    (inside : index < data.length) :
    (data.flatMap GeolocData.words)[2 * index]? = some data[index].srcId ∧
      (data.flatMap GeolocData.words)[2 * index + 1]? =
        some (ofInt16 data[index].rssi) := by
  induction data generalizing index with
  | nil => cases inside
  | cons sample rest ih =>
      cases index with
      | zero => exact ⟨rfl, rfl⟩
      | succ index => exact ih index (Nat.lt_of_succ_lt_succ inside)

theorem loadWord_geolocDataSend_count (nodeId : Word) (data : List GeolocData)
    (stack beyond : Memory) :
    loadWord (inMemory (geolocDataSend nodeId data stack) beyond) 2 =
      (ofInt16 (data.length : ℤ)).val := by
  rw [geolocDataSend]
  exact (loadWord_append (wordBytes nodeId) _ beyond 0).trans (loadWord_wordBytes _ _ _)

/-- The samples are printed with an unsigned neighbour and a signed strength. -/
theorem flatMap_loadWord_geolocDataSend (nodeId : Word) (data : List GeolocData)
    (stack beyond : Memory) :
    (List.range (2 * data.length)).flatMap (fun index =>
        let value := loadWord (inMemory (geolocDataSend nodeId data stack) beyond)
          (4 + 2 * index)
        if index % 2 = 0 then ' ' :: printUnsigned value
        else ' ' :: printInt (toInt16 value)) =
      data.flatMap fun sample => ' ' :: printUnsigned sample.srcId.val ++
        ' ' :: printInt sample.rssi := by
  have pairs := flatMap_range_pairs data (fun sample => sample.srcId.val)
    (fun sample => (ofInt16 sample.rssi).val)
    (fun value => ' ' :: printUnsigned value)
    (fun value => ' ' :: printInt (toInt16 value))
    (fun index => loadWord (inMemory (geolocDataSend nodeId data stack) beyond)
      (4 + 2 * index)) (by
      intro index inside
      have words := getElem_flatMap_words data index inside
      rcases List.getElem?_eq_some_iff.1 words.1 with ⟨evenInside, even⟩
      rcases List.getElem?_eq_some_iff.1 words.2 with ⟨oddInside, odd⟩
      constructor
      · rw [loadWord_geolocDataSend nodeId data stack beyond _ evenInside, even]
      · rw [loadWord_geolocDataSend nodeId data stack beyond _ oddInside, odd])
  apply pairs.trans
  apply List.flatMap_congr
  intro sample _
  rw [toInt16_ofInt16 sample.low sample.high]

/-- The line that the sink prints for a geolocation message. -/
theorem tcpipHandlerGeoloc_printed {packet : UdpPacket} {nodeId : Word}
    {data : List GeolocData} {stack : Memory}
    (carries : Carries packet (geolocDataSend nodeId data stack))
    (few : data.length ≤ geolocDataLength) :
    (tcpipHandlerGeoloc packet).printed =
      joinBlank ((geolocLine nodeId data).map printInt) ++ ['\n'] := by
  rcases carries.appdata with ⟨beyond, memory⟩
  have few10 : data.length ≤ 10 := few
  have node : loadWord packet.appdata 0 = nodeId.val := by
    rw [memory, geolocDataSend]
    exact loadWord_wordBytes nodeId _ beyond
  have count : toInt16 (loadWord packet.appdata 2) = data.length := by
    rw [memory, loadWord_geolocDataSend_count]
    exact toInt16_ofInt16 (by omega) (by omega)
  have bound : (toInt16 (2 * (data.length : ℤ))).toNat = 2 * data.length := by
    simp only [toInt16]
    omega
  have samples := flatMap_loadWord_geolocDataSend nodeId data stack beyond
  rw [← memory] at samples
  have ten : printInt 10 = ['1', '0'] := by decide
  have tokens : (data.flatMap fun sample => [(sample.srcId.val : ℤ), sample.rssi]).flatMap
        (fun value => ' ' :: printInt value) =
      data.flatMap fun sample => ' ' :: printUnsigned sample.srcId.val ++
        ' ' :: printInt sample.rssi := by
    rw [List.flatMap_assoc]
    apply List.flatMap_congr
    intro sample _
    simp [printUnsigned]
  simp only [tcpipHandlerGeoloc, node, count, bound]
  rw [samples, geolocLine]
  simp only [List.cons_append, List.nil_append, List.map_cons, joinBlank_eq_append,
    List.flatMap_cons, List.flatMap_map, tokens, ten, printInt_natCast,
    List.append_assoc]
  rfl

end IotLab.Firmware
