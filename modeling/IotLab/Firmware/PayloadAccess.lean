import IotLab.Firmware.Sink

/-!
# What the sink reads of a packet

`tcpip_handler` subtracts the two first bytes from the length of a data message without
looking at it, and takes the number of samples of a geolocation message from the message.
Its accesses are compared with `uip_datalen()`.
-/

namespace IotLab.Firmware

open IotLab.Library

/-- The offsets from `uip_appdata` that a handler reads or sets to zero. -/
def SinkOutput.accesses (output : SinkOutput) : List ℕ :=
  output.reads ++ List.range output.cleared

/-- The handler accesses bytes of the datagram only. -/
def ReadsDatagram (packet : UdpPacket) (curHopLimit : Byte) (time : ℕ) : Prop :=
  ∀ offset ∈ (tcpipHandler packet curHopLimit time).accesses, offset < packet.datalen.val

/-- The declared number of samples modulo 32768. -/
def sampleCount (packet : UdpPacket) : ℕ := loadWord packet.appdata 2 % 32768

/-- The samples of a geolocation message are behind its first four bytes; for a count of
16384 and more, `2*nb` is negative as an `int` and only `memset` accesses samples. -/
def SamplesInside (packet : UdpPacket) : Prop :=
  4 ≤ packet.datalen.val ∧
    if sampleCount packet < 16384 then 4 + 4 * sampleCount packet ≤ packet.datalen.val
    else (4 + 4 * sampleCount packet) % 65536 ≤ packet.datalen.val

instance (packet : UdpPacket) : Decidable (SamplesInside packet) :=
  inferInstanceAs (Decidable (_ ∧ _))

/-! ## Words -/

section Words

variable {start count bound : ℕ}

/-- Consecutive words are below a bound if the last one is. -/
theorem wordOffsets_lt_iff :
    (∀ offset ∈ (List.range count).flatMap fun index => wordOffsets (start + 2 * index),
      offset < bound) ↔ count = 0 ∨ start + 2 * count ≤ bound := by
  constructor
  · intro all
    by_cases empty : count = 0
    · exact .inl empty
    · have last := all (start + 2 * (count - 1) + 1) (List.mem_flatMap.2
        ⟨count - 1, List.mem_range.2 (by omega), by simp [wordOffsets]⟩)
      exact .inr (by omega)
  · intro inside offset member
    obtain ⟨index, here, word⟩ := List.mem_flatMap.1 member
    have low := List.mem_range.1 here
    simp only [wordOffsets, List.mem_cons, List.not_mem_nil, or_false] at word
    omega

theorem range_lt_iff : (∀ offset ∈ List.range count, offset < bound) ↔ count ≤ bound := by
  constructor
  · intro all
    by_contra more
    have last := all bound (List.mem_range.2 (by omega))
    omega
  · intro inside offset member
    have low := List.mem_range.1 member
    omega

end Words

theorem toInt16_double (word : ℕ) :
    toInt16 (2 * toInt16 word) =
      if word % 32768 < 16384 then 2 * (word % 32768 : ℤ)
      else 2 * (word % 32768 : ℤ) - 65536 := by
  simp only [toInt16]
  split
  · omega
  · omega

/-! ## The two ports -/

section Ports

variable {packet : UdpPacket}

/-- A data message: without two bytes the length of the payload wraps around. -/
theorem tcpipHandlerData_accesses_iff (curHopLimit : Byte) (time : ℕ) :
    (∀ offset ∈ (tcpipHandlerData packet curHopLimit time).accesses,
      offset < packet.datalen.val) ↔ 2 ≤ packet.datalen.val := by
  have length := packet.datalen.isLt
  have accesses : (tcpipHandlerData packet curHopLimit time).accesses =
      0 :: (List.range ((packet.datalen.val + 65536 - 2) % 65536 / 2)).flatMap
        fun index => wordOffsets (2 + 2 * index) := by
    rw [SinkOutput.accesses]
    exact List.append_nil _
  rw [accesses, List.forall_mem_cons, wordOffsets_lt_iff]
  omega

/-- A geolocation message: the samples that are read and those that are cleared. -/
theorem tcpipHandlerGeoloc_accesses_iff :
    (∀ offset ∈ (tcpipHandlerGeoloc packet).accesses, offset < packet.datalen.val) ↔
      SamplesInside packet := by
  have length := packet.datalen.isLt
  have header : (∀ offset ∈ wordOffsets 0 ++ wordOffsets 2, offset < packet.datalen.val) ↔
      4 ≤ packet.datalen.val := by
    simp only [wordOffsets, List.cons_append, List.nil_append, List.forall_mem_cons]
    constructor
    · rintro ⟨_, _, _, last, _⟩
      exact last
    · intro inside
      exact ⟨by omega, by omega, by omega, by omega, fun _ none => absurd none List.not_mem_nil⟩
  rw [SinkOutput.accesses, List.forall_mem_append, range_lt_iff]
  simp only [tcpipHandlerGeoloc]
  rw [List.forall_mem_append, header, wordOffsets_lt_iff, SamplesInside, sampleCount,
    toInt16_double]
  by_cases few : loadWord packet.appdata 2 % 32768 < 16384
  · rw [if_pos few, if_pos few]
    omega
  · -- The bound of the loop is negative.
    rw [if_neg few, if_neg few]
    omega

end Ports

/-- The sink accesses bytes of the datagram only if and only if a data message has two bytes,
and a geolocation message holds the samples that it declares. -/
theorem readsDatagram_iff (packet : UdpPacket) (curHopLimit : Byte) (time : ℕ) :
    ReadsDatagram packet curHopLimit time ↔
      (packet.destport = udpServerPort → 2 ≤ packet.datalen.val) ∧
        (packet.destport = udpGeolocPort → SamplesInside packet) := by
  rw [ReadsDatagram, tcpipHandler]
  have apart : udpServerPort ≠ udpGeolocPort := by decide
  split
  · next data =>
      rw [tcpipHandlerData_accesses_iff, data]
      simp [apart]
  · next notData =>
      split
      · next geoloc =>
          rw [tcpipHandlerGeoloc_accesses_iff, geoloc]
          simp [apart.symm]
      · next other => simp [SinkOutput.accesses, notData, other]

/-- An empty data message: 32767 words are read behind it. -/
theorem not_readsDatagram_empty :
    ¬ ReadsDatagram ⟨udpServerPort, 0, 0, 0, 0, fun _ => 0⟩ 64 0 := by
  intro inside
  have first := inside 0 List.mem_cons_self
  exact absurd first (Nat.not_lt_zero 0)

end IotLab.Firmware
