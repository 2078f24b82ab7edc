import IotLab.Firmware.Sink
import IotLab.Pipeline.Reception
import IotLab.Server.DataStream

/-!
# A data message from the mote to the server

The sink prints a data message as a line of integers, the gateway reads the line,
puts the time of its reception in front and sends it to the server, which reads it
once more.  Every word of the message is found at its place.
-/

namespace IotLab.Pipeline

open IotLab.Library
open IotLab.Firmware
open IotLab.Gateway
open IotLab.Server

/-- A packet that carries a data message, with anything behind it in the buffer. -/
def dataPacket (message : DataMessage) (srcLow srcHigh ttl : Byte) (beyond : Memory) :
    UdpPacket :=
  { destport := udpServerPort
    srcLow
    srcHigh
    ttl
    datalen := ⟨message.bytes.length, by rw [message.length_bytes]; decide⟩
    appdata := inMemory message.bytes beyond }

theorem fitsSigned_dataLine (message : DataMessage) (originator : Byte × Byte)
    (hops : Byte) (clock : ℕ) :
    ∀ value ∈ dataLine message originator hops clock, FitsSigned 32 value := by
  have low := originator.1.isLt
  have high := originator.2.isLt
  have seqno := message.seqno.isLt
  have hop := hops.isLt
  intro value member
  rcases List.mem_append.1 member with header | word
  · simp only [List.mem_cons, List.not_mem_nil, or_false] at header
    rcases header with rfl | rfl | rfl | rfl | rfl | rfl | rfl | rfl | rfl
    · exact fitsSigned_of_lt (by decide : 0 < 65536)
    · exact fitsSigned_of_lt (by decide : 30 < 65536)
    · exact fitsSigned_of_lt (Nat.mod_lt _ (by decide))
    · exact fitsSigned_of_lt (Nat.mod_lt _ (by decide))
    · exact fitsSigned_of_lt (by decide : 0 < 65536)
    · exact fitsSigned_of_lt (by omega)
    · exact fitsSigned_of_lt (by omega)
    · exact fitsSigned_of_lt (by omega)
    · exact fitsSigned_of_lt (by decide : 0 < 65536)
  · rcases List.mem_map.1 word with ⟨stored, _, rfl⟩
    exact fitsSigned_of_lt stored.isLt

theorem lookup_cons {name : Server.Text} {value : JsonValue} {later : JsonBuilder}
    (others : ∀ field ∈ later, field.1 ≠ name) :
    JsonBuilder.lookup ((name, value) :: later) name = some value := by
  have absent : later.reverse.find? (fun field => field.1 = name) = none := by
    apply List.find?_eq_none.2
    intro field member
    simpa using others field (List.mem_reverse.1 member)
  rw [JsonBuilder.lookup, List.reverse_cons, List.find?_append, absent]
  simp

theorem lookup_mote {rows : List Data} {timestamp : ℤ} (value : JsonValue)
    (others : ∀ row ∈ rows, row.label ≠ "mote".toList) :
    JsonBuilder.lookup (("mote".toList, value) ::
      rows.map (fun row => (row.label, .text (formatHundredths row.value))) ++
        [("timestamp".toList, .number timestamp)]) "mote".toList = some value := by
  apply lookup_cons
  intro field member
  rcases List.mem_append.1 member with label | last
  · rcases List.mem_map.1 label with ⟨row, inside, rfl⟩
    exact others row inside
  · rw [List.mem_singleton.1 last]
    exact (by decide : "timestamp".toList ≠ "mote".toList)

/-- A data message arrives at the server word by word.  The printed line announces
its own length; the gateway's line is the time and the same integers; the stream
built from it has the time, the type, the originator, the sequence number and every
word at their places, and the address of the mote is made of the two bytes of the
originator. -/
theorem data_message_decoded (message : DataMessage)
    (srcLow srcHigh ttl curHopLimit : Byte) (beyond : Memory) (clock : ℕ)
    (time : ReceptionTime) (store : Store) :
    let printed := (tcpipHandler (dataPacket message srcLow srcHigh ttl beyond)
      curHopLimit clock).printed
    let address := Nat.toDigits 10 srcLow.val ++ '.' :: Nat.toDigits 10 srcHigh.val
    ∃ integers : List ℤ,
      printed = joinBlank ((0 :: integers).map printInt) ++ ['\n'] ∧
      integers.head? = some (integers.length : ℤ) ∧
      (handleIncomingData time.value (readLine printed)).map SensorData.toText =
        some (printInt time.value ++
          ' ' :: joinBlank ((0 :: integers).map printInt)) ∧
      (newDataStream store (printInt time.value ++
          ' ' :: joinBlank ((0 :: integers).map printInt))).2 =
        (store.findType 0).map (fun type =>
          { streamName := "DataStream".toList
            timestamp := time.value
            data := 0 :: 0 :: integers
            type }) ∧
      (0 :: 0 :: integers)[6]? = some (srcLow.val + 256 * srcHigh.val : ℤ) ∧
      (0 :: 0 :: integers)[7]? = some (message.seqno.val : ℤ) ∧
      message.msg.length = 22 ∧
      (∀ index (_ : index < message.msg.length), (0 :: 0 :: integers)[10 + index]? =
        some (message.msg[index].val : ℤ)) ∧
      (getMote store (srcLow.val + 256 * srcHigh.val)).1 = address ∧
      ∀ (type : StreamType) (rows : List Data),
        ∃ json,
          (InputStream.mk "DataStream".toList time.value (0 :: 0 :: integers)
            type).toJson rows = .ok json ∧
          json = ("mote".toList, .text address) ::
            rows.map (fun row => (row.label, .text (formatHundredths row.value))) ++
              [("timestamp".toList, .number time.value)] ∧
          ((∀ row ∈ rows, row.label ≠ "mote".toList) →
            json.lookup "mote".toList = some (.text address)) := by
  have packet : Carries (dataPacket message srcLow srcHigh ttl beyond) message.bytes :=
    ⟨rfl, beyond, rfl⟩
  have line := tcpipHandlerData_printed packet curHopLimit clock
  have fits := fitsSigned_dataLine message (srcLow, srcHigh) (curHopLimit - ttl + 1) clock
  have split : ∃ integers, dataLine message (srcLow, srcHigh) (curHopLimit - ttl + 1)
      clock = 0 :: integers := ⟨_, rfl⟩
  rcases split with ⟨integers, split⟩
  have parts := List.cons.inj split
  have short : (printInt 0).length ≤ 8 := by decide
  intro printed address
  have printedLine : printed = joinBlank ((0 :: integers).map printInt) ++ ['\n'] :=
    split ▸ line
  rw [split] at fits
  have stamped : joinBlank ((time.value :: 0 :: integers).map printInt) =
      printInt time.value ++ ' ' :: joinBlank ((0 :: integers).map printInt) := by
    rw [List.map_cons, joinBlank_cons (by simp)]
  have sender : moteAddress (srcLow.val + 256 * srcHigh.val) = address :=
    moteAddress_bytes srcLow srcHigh
  have originator : (0 :: 0 :: integers)[6]? =
      some (srcLow.val + 256 * srcHigh.val : ℤ) := by
    rw [← parts.2]
    rfl
  refine ⟨integers, printedLine, ?_, ?_, ?_, originator, ?_, message.length_msg, ?_,
    sender, ?_⟩
  · rw [← parts.2]
    simp [message.length_msg, dataWords]
  · rw [printedLine, ← stamped]
    exact gateway_line time fits short
  · rw [← stamped, newDataStream, readStream_joinBlank _ _ store time.fitsSigned fits]
  · rw [← parts.2]
    rfl
  · intro index inside
    rw [← parts.2, Nat.add_comm 10 index]
    change (message.msg.map fun word => (word.val : ℤ))[index]? = _
    rw [List.getElem?_map, List.getElem?_eq_getElem, Option.map_some]
  · intro type rows
    refine ⟨_, ?_, rfl, ?_⟩
    · have read : readInt (0 :: 0 :: integers) nodeIdOffset =
          .ok (srcLow.val + 256 * srcHigh.val) := by
        rw [readInt, nodeIdOffset, originator]
      rw [InputStream.toJson, read, ← sender]
      rfl
    · exact lookup_mote (.text address)

end IotLab.Pipeline
