import IotLab.Firmware.Sink
import IotLab.Library.Batches
import IotLab.Library.Runs

/-!
# The geolocation module of a mote

A mote broadcasts periodically and stores a sample for every message that it hears.
Samples wait in two arrays of ten entries: `gdata` for the periodic messages and
`neighbors_resp` for the answers to a request of its own.  Both are filled by the
same helper and sent to the server when they are full, the first one also by a
timer, the second one also when the time for answers is over.  Integers are those
of the motes, where `int` has 16 bits.
-/

namespace IotLab.Firmware

open IotLab.Library

/-! ## The two buffers -/

/-- An entry after `memset`. -/
def GeolocData.zero : GeolocData where
  srcId := 0
  rssi := 0
  low := by decide
  high := by decide

/-- An array after `memset`. -/
def clearedEntries : Vector GeolocData geolocDataLength :=
  Vector.replicate geolocDataLength GeolocData.zero

/-- An array of samples with its counter and the lists of samples that were passed
to `geoloc_data_send` from it. -/
structure GeolocBuffer where
  data : Vector GeolocData geolocDataLength := clearedEntries
  cnt : ℤ := 0
  sent : List (List GeolocData) := []

namespace GeolocBuffer

/-- `geoloc_data_send`: the first `nb` entries are copied to a message and the
array is cleared.  There is no result when the copy leaves the array. -/
def geolocDataSend (buffer : GeolocBuffer) (nb : ℤ) : Option GeolocBuffer :=
  if 0 ≤ nb ∧ nb ≤ geolocDataLength then
    some { buffer with
      data := clearedEntries
      sent := buffer.sent ++ [buffer.data.toList.take nb.toNat] }
  else none

/-- `geoloc_handler`.  There is no result when the entry is outside of the array. -/
def geolocHandler (buffer : GeolocBuffer) (sample : GeolocData) :
    Option GeolocBuffer :=
  if inside : 0 ≤ buffer.cnt ∧ buffer.cnt < geolocDataLength then
    let written : GeolocBuffer := { buffer with
      data := buffer.data.set buffer.cnt.toNat sample (by omega)
      cnt := buffer.cnt + 1 }
    if geolocDataLength ≤ written.cnt then do
      let flushed ← written.geolocDataSend geolocDataLength
      some { flushed with cnt := 0 }
    else some written
  else none

end GeolocBuffer

/-! ## The module -/

def gSimpleSend : Word := 0

def gRequestResponse : Word := 1

def gResponse : Word := 2

def gMcastPort : ℕ := 4444

def rssiOffset : ℤ := -45

/-- `uip_htons` and `uip_ntohs` on a processor that stores the low byte first. -/
def uipHtons (value : Word) : Word :=
  ⟨value.val / 256 + 256 * (value.val % 256), by omega⟩

/-- The static variables of the module.  A flag of a timer holds when
`etimer_expired` does, which is also the case for a timer that was never set. -/
structure GeolocState where
  started : ℤ := 0
  waitingResp : ℤ := 0
  gdata : GeolocBuffer := {}
  neighborsResp : GeolocBuffer := {}
  type : Word := gSimpleSend
  periodicMessagesExpired : Bool := false
  gtimExpired : Bool := false
  gReqExpired : Bool := true
  /-- The payloads handed to `broadcast_doSend`. -/
  broadcasts : List (List Byte) := []

/-- A message from a neighbour. -/
structure Reception where
  /-- `sender_addr->u8[14]` and `sender_addr->u8[15]`. -/
  sender : Byte × Byte
  /-- `packetbuf_attr(PACKETBUF_ATTR_RSSI)`. -/
  rssi : Word
  data : Memory

namespace Reception

/-- The type in the first two bytes of the message. -/
def type (reception : Reception) : Word :=
  uipHtons ⟨loadWord reception.data 0, word_lt _ _⟩

/-- The sample made of the sender's address and the strength of the signal. -/
def sample (reception : Reception) : GeolocData where
  srcId := ⟨reception.sender.2.val + 256 * reception.sender.1.val, word_lt _ _⟩
  rssi := toInt16 (toInt16 reception.rssi.val + rssiOffset)
  low := le_toInt16 _
  high := toInt16_lt _

end Reception

namespace GeolocState

/-- `g_periodic_send`. -/
def gPeriodicSend (state : GeolocState) : GeolocState :=
  { state with
    broadcasts := state.broadcasts ++
      [wordBytes (uipHtons state.type) ++ List.replicate 118 0]
    type := gSimpleSend }

/-- `g_send_req_resp`. -/
def gSendReqResp (state : GeolocState) : GeolocState :=
  { state with type := gRequestResponse }.gPeriodicSend

/-- `g_resp`. -/
def gResp (state : GeolocState) : GeolocState :=
  { state with type := gResponse }.gPeriodicSend

/-- `handle_reception`. -/
def handleReception (state : GeolocState) (reception : Reception) :
    Option GeolocState :=
  if state.started = 0 then some state
  else if reception.type = gSimpleSend ∨
      reception.type = gResponse ∧ state.waitingResp = 0 then do
    let gdata ← state.gdata.geolocHandler reception.sample
    -- a full buffer has been sent, so the timer starts again
    some { state with
      gdata := gdata
      gtimExpired := if gdata.cnt = 0 then false else state.gtimExpired }
  else if reception.type = gRequestResponse then some state.gResp
  else if reception.type = gResponse ∧ state.waitingResp ≠ 0 then do
    let neighborsResp ← state.neighborsResp.geolocHandler reception.sample
    some { state with neighborsResp := neighborsResp }
  else some state

end GeolocState

/-- The events of the process that `geoloc_check` distinguishes. -/
inductive ProcessEvent where
  /-- `tcpip_event`, with the destination port of the packet. -/
  | tcpip (destport : ℕ) (reception : Reception)
  /-- `sensors_event` of the button. -/
  | button
  | other

namespace GeolocState

/-- The time for the answers is over. -/
def checkResponses (state : GeolocState) : Option GeolocState :=
  if 0 < state.neighborsResp.cnt ∧ state.gReqExpired then do
    let flushed ← state.neighborsResp.geolocDataSend state.neighborsResp.cnt
    some { state with
      neighborsResp := { flushed with cnt := 0 }
      gReqExpired := true
      waitingResp := 0 }
  else some state

/-- The timer of the periodic messages. -/
def checkPeriodicMessages (state : GeolocState) : GeolocState :=
  if state.periodicMessagesExpired then
    { state.gPeriodicSend with periodicMessagesExpired := false }
  else state

/-- The timer of the data messages. -/
def checkGtim (state : GeolocState) : Option GeolocState :=
  if state.gtimExpired then
    if 0 < state.gdata.cnt then do
      let flushed ← state.gdata.geolocDataSend state.gdata.cnt
      some { state with gdata := { flushed with cnt := 0 }, gtimExpired := false }
    else some { state with gtimExpired := false }
  else some state

/-- The timers that `geoloc_check` serves before it looks at the event. -/
def checkTimers (state : GeolocState) : Option GeolocState := do
  let served ← state.checkResponses
  served.checkPeriodicMessages.checkGtim

/-- What `geoloc_check` does with the event itself. -/
def checkEvent (state : GeolocState) : ProcessEvent → Option GeolocState
  | .tcpip destport reception =>
      if destport = gMcastPort then state.handleReception reception else some state
  | .button =>
      if state.waitingResp = 0 then
        some { state with gReqExpired := false, waitingResp := 1 }.gSendReqResp
      else some state
  | .other => some state

/-- `geoloc_check`. -/
def geolocCheck (state : GeolocState) (event : ProcessEvent) : Option GeolocState :=
  if state.started = 0 then some state
  else do
    let served ← state.checkTimers
    served.checkEvent event

end GeolocState

/-- The timers of the module. -/
inductive GeolocTimer where
  | periodicMessages
  | gtim
  | gReq
  deriving DecidableEq

/-- What happens to the module. -/
inductive GeolocEvent where
  /-- The process of the mote calls `geoloc_check`. -/
  | check (event : ProcessEvent)
  /-- `reception_callback`. -/
  | receive (reception : Reception)
  | expire (timer : GeolocTimer)
  | geolocStart
  | geolocStop

/-- One event. -/
def geolocStep (state : GeolocState) : GeolocEvent → Option GeolocState
  | .check event => state.geolocCheck event
  | .receive reception => state.handleReception reception
  | .expire .periodicMessages => some { state with periodicMessagesExpired := true }
  | .expire .gtim => some { state with gtimExpired := true }
  | .expire .gReq => some { state with gReqExpired := true }
  | .geolocStart => some { state with started := 1 }
  | .geolocStop => some { state with started := 0 }

/-! ## The buffers are batches -/

namespace GeolocBuffer

/-- The entries that wait and the lists that were sent. -/
def batches (buffer : GeolocBuffer) : Batches GeolocData where
  pending := buffer.data.toList.take buffer.cnt.toNat
  handed := buffer.sent

/-- The counter is an index of the array. -/
def InBounds (buffer : GeolocBuffer) : Prop :=
  0 ≤ buffer.cnt ∧ buffer.cnt < geolocDataLength

theorem geolocDataSend_cnt {buffer : GeolocBuffer} (inBounds : buffer.InBounds) :
    ∃ flushed, buffer.geolocDataSend buffer.cnt = some flushed ∧
      ({ flushed with cnt := 0 } : GeolocBuffer).batches = buffer.batches.flush := by
  refine ⟨_, if_pos ⟨inBounds.1, inBounds.2.le⟩, ?_⟩
  simp [batches, Batches.flush]

/-- The entries that waited have been sent. -/
def Flushed (buffer next : GeolocBuffer) : Prop :=
  0 < buffer.cnt ∧ ∃ flushed, buffer.geolocDataSend buffer.cnt = some flushed ∧
    next = { flushed with cnt := 0 }

theorem Flushed.cnt_eq {buffer next : GeolocBuffer} (flushed : Flushed buffer next) :
    next.cnt = 0 := by
  obtain ⟨_, sent, _, rfl⟩ := flushed
  rfl

theorem Flushed.inBounds {buffer next : GeolocBuffer} (flushed : Flushed buffer next) :
    next.InBounds := by
  rw [InBounds, flushed.cnt_eq]
  exact ⟨le_refl _, Int.natCast_pos.2 (by decide)⟩

theorem Flushed.contents {buffer next : GeolocBuffer} (flushed : Flushed buffer next)
    (inBounds : buffer.InBounds) : next.batches.contents = buffer.batches.contents := by
  obtain ⟨_, sent, called, rfl⟩ := flushed
  obtain ⟨other, same, batches⟩ := geolocDataSend_cnt inBounds
  obtain rfl : sent = other := Option.some.inj (called.symm.trans same)
  rw [batches, Batches.contents_flush]

theorem take_set {buffer : GeolocBuffer} (sample : GeolocData)
    (low : 0 ≤ buffer.cnt) (inside : buffer.cnt.toNat < geolocDataLength) :
    (buffer.data.set buffer.cnt.toNat sample inside).toList.take
        (buffer.cnt + 1).toNat =
      buffer.data.toList.take buffer.cnt.toNat ++ [sample] := by
  have length : buffer.cnt.toNat < buffer.data.toList.length := by
    simpa using inside
  rw [Int.toNat_add low Int.one_nonneg]
  simp only [Vector.toList_set, Int.toNat_one]
  rw [List.take_succ_eq_append_getElem (by simpa using length),
    List.take_set_of_le (le_refl _), List.getElem_set_self]

/-- A sample is put in the batch, the counter stays an index. -/
theorem geolocHandler_put {buffer : GeolocBuffer} (inBounds : buffer.InBounds)
    (sample : GeolocData) :
    ∃ next, buffer.geolocHandler sample = some next ∧ next.InBounds ∧
      next.batches = buffer.batches.put geolocDataLength sample := by
  obtain ⟨low, high⟩ := inBounds
  have inside : buffer.cnt.toNat < geolocDataLength := (Int.toNat_lt low).2 high
  have written := take_set sample low inside
  have length : (buffer.batches.pending ++ [sample]).length = buffer.cnt.toNat + 1 := by
    simp [batches, Nat.min_eq_left inside.le]
  cases lt_or_ge (buffer.cnt + 1) (geolocDataLength : ℤ) with
  | inl room =>
      refine ⟨⟨buffer.data.set buffer.cnt.toNat sample inside, buffer.cnt + 1,
        buffer.sent⟩, ?_, ⟨Int.le_add_one low, room⟩, ?_⟩
      · rw [geolocHandler, dif_pos ⟨low, high⟩, if_neg (Int.not_le.2 room)]
      · have notFull :
            ¬ geolocDataLength ≤ (buffer.batches.pending ++ [sample]).length := by
          rw [length]
          omega
        rw [Batches.put, if_neg notFull]
        simp only [batches, written]
  | inr full =>
      have last : buffer.cnt + 1 = geolocDataLength :=
        Int.le_antisymm (Int.add_one_le_of_lt high) full
      refine ⟨⟨clearedEntries, 0, buffer.sent ++
        [(buffer.data.set buffer.cnt.toNat sample inside).toList.take geolocDataLength]⟩,
        ?_, ⟨le_refl _, Int.natCast_pos.2 (by decide)⟩, ?_⟩
      · rw [geolocHandler, dif_pos ⟨low, high⟩, if_pos full]
        rfl
      · have isFull :
            geolocDataLength ≤ (buffer.batches.pending ++ [sample]).length := by
          rw [length]
          omega
        rw [last, Int.toNat_natCast] at written
        rw [Batches.put, if_pos isFull]
        simp only [batches, Batches.flush, written, Int.toNat_zero, List.take_zero]

end GeolocBuffer

/-! ## Where the samples go -/

/-- The two buffers. -/
inductive Destination where
  | gdata
  | neighborsResp
  deriving DecidableEq

namespace GeolocState

def buffer (state : GeolocState) : Destination → GeolocBuffer
  | .gdata => state.gdata
  | .neighborsResp => state.neighborsResp

/-- The buffer a message belongs to: an answer that the mote waits for goes to the
second one, every other sample to the first one. -/
def destination (state : GeolocState) (reception : Reception) : Option Destination :=
  if state.started = 0 then none
  else if reception.type = gSimpleSend then some .gdata
  else if reception.type = gResponse then
    some (if state.waitingResp = 0 then .gdata else .neighborsResp)
  else none

/-- What a message adds to a buffer. -/
def stored (state : GeolocState) (reception : Reception) (destination : Destination) :
    List GeolocData :=
  if state.destination reception = some destination then [reception.sample] else []

/-- What an event routes to a buffer.  The timers are served before the packet, and
may end the time for answers. -/
def routed (destination : Destination) (state : GeolocState) :
    GeolocEvent → List GeolocData
  | .receive reception => state.stored reception destination
  | .check (.tcpip destport reception) =>
      if state.started ≠ 0 ∧ destport = gMcastPort then
        match state.checkTimers with
        | none => []
        | some served => served.stored reception destination
      else []
  | _ => []

/-- The counters are indices, and answers wait only while the mote waits for them. -/
structure Sound (state : GeolocState) : Prop where
  gdata : state.gdata.InBounds
  neighborsResp : state.neighborsResp.InBounds
  flag : state.waitingResp = 0 ∨ state.waitingResp = 1
  waiting : 0 < state.neighborsResp.cnt → state.waitingResp = 1

/-- A step to a sound state that adds samples at the end of each buffer. -/
structure Adds (state : GeolocState) (added : Destination → List GeolocData)
    (next : GeolocState) : Prop where
  sound : next.Sound
  contents : ∀ destination, (next.buffer destination).batches.contents =
    (state.buffer destination).batches.contents ++ added destination

/-- Nothing happens to the buffers. -/
theorem Sound.same {state next : GeolocState} (sound : state.Sound)
    (gdata : next.gdata = state.gdata)
    (neighborsResp : next.neighborsResp = state.neighborsResp)
    (waitingResp : next.waitingResp = state.waitingResp ∨ next.waitingResp = 1) :
    Adds state (fun _ => []) next := by
  constructor
  · constructor
    · exact gdata ▸ sound.gdata
    · exact neighborsResp ▸ sound.neighborsResp
    · cases waitingResp with
      | inl same => exact same ▸ sound.flag
      | inr set => exact Or.inr set
    · intro answers
      cases waitingResp with
      | inl same => exact same ▸ sound.waiting (neighborsResp ▸ answers)
      | inr set => exact set
  · intro destination
    cases destination with
    | gdata => simp [buffer, gdata]
    | neighborsResp => simp [buffer, neighborsResp]

theorem Adds.trans {first second third : GeolocState}
    {before after : Destination → List GeolocData} (left : Adds first before second)
    (right : Adds second after third) :
    Adds first (fun destination => before destination ++ after destination) third := by
  constructor
  · exact right.sound
  · intro destination
    rw [right.contents, left.contents, List.append_assoc]

/-! ## What the timers do -/

/-- The time for the answers is over and some of them wait to be sent. -/
def EndsWait (state : GeolocState) : Prop :=
  0 < state.neighborsResp.cnt ∧ state.gReqExpired = true

/-- What the timers do to the module. -/
structure Served (state served : GeolocState) : Prop where
  started : served.started = state.started
  gReqExpired : served.gReqExpired = state.gReqExpired
  ended : state.EndsWait → served.waitingResp = 0
  flushed : state.EndsWait → state.neighborsResp.Flushed served.neighborsResp
  kept : ¬ state.EndsWait → served.waitingResp = state.waitingResp ∧
    served.neighborsResp = state.neighborsResp
  gdata : served.gdata = state.gdata ∨ state.gdata.Flushed served.gdata
  broadcasts : served.broadcasts =
    if state.periodicMessagesExpired then state.gPeriodicSend.broadcasts else state.broadcasts
  type : served.type = if state.periodicMessagesExpired then gSimpleSend else state.type
  periodicMessagesExpired : served.periodicMessagesExpired = false

variable {state : GeolocState}

theorem checkResponses_cases {next : GeolocState} (checked : state.checkResponses = some next) :
    (state.EndsWait ∧ ∃ neighborsResp, state.neighborsResp.Flushed neighborsResp ∧
      next = { state with neighborsResp, gReqExpired := true, waitingResp := 0 }) ∨
    (¬ state.EndsWait ∧ next = state) := by
  rw [checkResponses] at checked
  split at checked
  · next ends =>
      obtain ⟨flushed, sent, rest⟩ := Option.bind_eq_some_iff.1 checked
      cases rest
      exact .inl ⟨ends, _, ⟨ends.1, flushed, sent, rfl⟩, rfl⟩
  · next waits =>
      cases checked
      exact .inr ⟨waits, rfl⟩

theorem checkPeriodicMessages_eq (state : GeolocState) :
    state.checkPeriodicMessages =
      { state with
        broadcasts :=
          if state.periodicMessagesExpired then state.gPeriodicSend.broadcasts
          else state.broadcasts
        type := if state.periodicMessagesExpired then gSimpleSend else state.type
        periodicMessagesExpired := false } := by
  rw [checkPeriodicMessages]
  split
  · rfl
  · next waits =>
      rw [Bool.not_eq_true] at waits
      rw [← waits]

theorem checkGtim_cases {next : GeolocState} (checked : state.checkGtim = some next) :
    ∃ gdata gtimExpired, (gdata = state.gdata ∨ state.gdata.Flushed gdata) ∧
      next = { state with gdata, gtimExpired } := by
  rw [checkGtim] at checked
  split at checked
  · split at checked
    · next samples =>
        obtain ⟨flushed, sent, rest⟩ := Option.bind_eq_some_iff.1 checked
        cases rest
        exact ⟨_, _, .inr ⟨samples, flushed, sent, rfl⟩, rfl⟩
    · cases checked
      exact ⟨_, _, .inl rfl, rfl⟩
  · cases checked
    exact ⟨_, _, .inl rfl, rfl⟩

theorem served_checkTimers {served : GeolocState} (checked : state.checkTimers = some served) :
    Served state served := by
  obtain ⟨answered, responses, gtim⟩ := Option.bind_eq_some_iff.1 checked
  rw [checkPeriodicMessages_eq] at gtim
  obtain ⟨gdata, gtimExpired, flushes, rfl⟩ := checkGtim_cases gtim
  rcases checkResponses_cases responses with ⟨ends, _, sent, rfl⟩ | ⟨waits, rfl⟩
  · exact ⟨rfl, ends.2.symm, fun _ => rfl, fun _ => sent, absurd ends, flushes, rfl, rfl, rfl⟩
  · exact ⟨rfl, rfl, fun ends => absurd ends waits, fun ends => absurd ends waits,
      fun _ => ⟨rfl, rfl⟩, flushes, rfl, rfl, rfl⟩

theorem Served.buffer {served : GeolocState} (timers : Served state served)
    (destination : Destination) :
    served.buffer destination = state.buffer destination ∨
      (state.buffer destination).Flushed (served.buffer destination) := by
  cases destination with
  | gdata => exact timers.gdata
  | neighborsResp =>
      by_cases ends : state.EndsWait
      · exact .inr (timers.flushed ends)
      · exact .inl (timers.kept ends).2

theorem Sound.inBounds (sound : state.Sound) (destination : Destination) :
    (state.buffer destination).InBounds := by
  cases destination with
  | gdata => exact sound.gdata
  | neighborsResp => exact sound.neighborsResp

theorem Served.adds {served : GeolocState} (timers : Served state served) (sound : state.Sound) :
    Adds state (fun _ => []) served := by
  have inBounds (destination : Destination) : (served.buffer destination).InBounds := by
    rcases timers.buffer destination with same | flushed
    · exact same ▸ sound.inBounds destination
    · exact flushed.inBounds
  refine ⟨⟨inBounds .gdata, inBounds .neighborsResp, ?_, ?_⟩, fun destination => ?_⟩
  · by_cases ends : state.EndsWait
    · exact .inl (timers.ended ends)
    · exact (timers.kept ends).1 ▸ sound.flag
  · intro answers
    by_cases ends : state.EndsWait
    · exact absurd answers ((timers.flushed ends).cnt_eq ▸ lt_irrefl _)
    · obtain ⟨waitingResp, buffer⟩ := timers.kept ends
      exact waitingResp.trans (sound.waiting (buffer ▸ answers))
  · rw [List.append_nil]
    rcases timers.buffer destination with same | flushed
    · rw [same]
    · exact flushed.contents (sound.inBounds destination)

/-- The timers write nothing outside of the arrays. -/
theorem Sound.checkTimers (sound : state.Sound) : ∃ served, state.checkTimers = some served := by
  obtain ⟨gdata, gdataSent, _⟩ := GeolocBuffer.geolocDataSend_cnt sound.gdata
  obtain ⟨answers, answersSent, _⟩ := GeolocBuffer.geolocDataSend_cnt sound.neighborsResp
  obtain ⟨answered, responses, same⟩ :
      ∃ answered, state.checkResponses = some answered ∧ answered.gdata = state.gdata := by
    rw [checkResponses]
    split
    · rw [answersSent]
      exact ⟨_, rfl, rfl⟩
    · exact ⟨_, rfl, rfl⟩
  rw [GeolocState.checkTimers, responses, Option.bind_eq_bind, Option.bind_some,
    checkPeriodicMessages_eq, checkGtim]
  dsimp only
  rw [same]
  split
  · split
    · rw [gdataSent]
      exact ⟨_, rfl⟩
    · exact ⟨_, rfl⟩
  · exact ⟨_, rfl⟩

/-! ## What the events do -/

theorem Sound.ignores {state next : GeolocState} (sound : state.Sound)
    {reception : Reception} (none : state.destination reception = none)
    (gdata : next.gdata = state.gdata)
    (neighborsResp : next.neighborsResp = state.neighborsResp)
    (waitingResp : next.waitingResp = state.waitingResp ∨ next.waitingResp = 1) :
    Adds state (state.stored reception) next := by
  have nothing : state.stored reception = fun _ => [] := by
    funext destination
    simp [stored, none]
  rw [nothing]
  exact sound.same gdata neighborsResp waitingResp

/-- The handler for the first buffer. -/
theorem geolocHandler_gdata_adds {state : GeolocState} (sound : state.Sound)
    {reception : Reception} (destination : state.destination reception = some .gdata) :
    ∃ filled, state.gdata.geolocHandler reception.sample = some filled ∧
      ∀ expired, Adds state (state.stored reception)
        { state with gdata := filled, gtimExpired := expired } := by
  obtain ⟨filled, handled, inBounds, batches⟩ :=
    GeolocBuffer.geolocHandler_put sound.gdata reception.sample
  refine ⟨filled, handled, fun expired => ⟨?_, ?_⟩⟩
  · exact
      { gdata := inBounds
        neighborsResp := sound.neighborsResp
        flag := sound.flag
        waiting := sound.waiting }
  · intro other
    cases other with
    | gdata => simp [buffer, stored, destination, batches]
    | neighborsResp => simp [buffer, stored, destination]

/-- The handler for the buffer of the answers. -/
theorem geolocHandler_neighborsResp_adds {state : GeolocState} (sound : state.Sound)
    {reception : Reception} (waiting : state.waitingResp ≠ 0)
    (destination : state.destination reception = some .neighborsResp) :
    ∃ filled, state.neighborsResp.geolocHandler reception.sample = some filled ∧
      Adds state (state.stored reception) { state with neighborsResp := filled } := by
  obtain ⟨filled, handled, inBounds, batches⟩ :=
    GeolocBuffer.geolocHandler_put sound.neighborsResp reception.sample
  refine ⟨filled, handled, ?_, ?_⟩
  · exact
      { gdata := sound.gdata
        neighborsResp := inBounds
        flag := sound.flag
        waiting := fun _ => sound.flag.resolve_left waiting }
  · intro other
    cases other with
    | gdata => simp [buffer, stored, destination]
    | neighborsResp => simp [buffer, stored, destination, batches]

/-- A message goes to the handler of its buffer; without one it is at most answered. -/
theorem handleReception_cases (state : GeolocState) (reception : Reception) :
    (state.destination reception = some .gdata ∧
      state.handleReception reception =
        (state.gdata.geolocHandler reception.sample).map fun gdata => { state with
          gdata := gdata
          gtimExpired := if gdata.cnt = 0 then false else state.gtimExpired }) ∨
    (state.destination reception = some .neighborsResp ∧ state.waitingResp ≠ 0 ∧
      state.handleReception reception =
        (state.neighborsResp.geolocHandler reception.sample).map fun neighborsResp =>
          { state with neighborsResp := neighborsResp }) ∨
    (state.destination reception = none ∧
      state.handleReception reception =
        some (if state.started ≠ 0 ∧ reception.type = gRequestResponse then state.gResp
          else state)) := by
  by_cases stopped : state.started = 0
  · refine .inr (.inr ⟨if_pos stopped, ?_⟩)
    rw [handleReception, if_pos stopped, if_neg fun request => request.1 stopped]
  rw [handleReception, GeolocState.destination, if_neg stopped, if_neg stopped]
  by_cases simpleSend : reception.type = gSimpleSend
  · refine .inl ⟨if_pos simpleSend, ?_⟩
    rw [if_pos (Or.inl simpleSend), Option.map_eq_bind]
    rfl
  rw [if_neg simpleSend]
  by_cases response : reception.type = gResponse
  · have noRequest : reception.type ≠ gRequestResponse := by
      rw [response]
      decide
    rw [if_pos response]
    by_cases idle : state.waitingResp = 0
    · refine .inl ⟨congrArg some (if_pos idle), ?_⟩
      rw [if_pos (Or.inr ⟨response, idle⟩), Option.map_eq_bind]
      rfl
    · refine .inr (.inl ⟨congrArg some (if_neg idle), idle, ?_⟩)
      rw [if_neg (by simp [simpleSend, idle]), if_neg noRequest, if_pos ⟨response, idle⟩,
        Option.map_eq_bind]
      rfl
  · refine .inr (.inr ⟨if_neg response, ?_⟩)
    rw [if_neg (by simp [simpleSend, response])]
    by_cases request : reception.type = gRequestResponse
    · rw [if_pos request, if_pos ⟨stopped, request⟩]
    · rw [if_neg request, if_neg fun answer => response answer.1, if_neg fun both => request both.2]

/-- A message adds its sample to the buffer it belongs to. -/
theorem handleReception_adds {state : GeolocState} (sound : state.Sound)
    (reception : Reception) :
    ∃ next, state.handleReception reception = some next ∧
      Adds state (state.stored reception) next := by
  rcases handleReception_cases state reception with
    ⟨destination, handles⟩ | ⟨destination, waiting, handles⟩ | ⟨none, handles⟩
  · obtain ⟨filled, handled, adds⟩ := geolocHandler_gdata_adds sound destination
    refine ⟨_, ?_, adds (if filled.cnt = 0 then false else state.gtimExpired)⟩
    rw [handles, handled]
    rfl
  · obtain ⟨filled, handled, adds⟩ :=
      geolocHandler_neighborsResp_adds sound waiting destination
    refine ⟨_, ?_, adds⟩
    rw [handles, handled]
    rfl
  · refine ⟨_, handles, ?_⟩
    split
    · exact sound.ignores none rfl rfl (Or.inl rfl)
    · exact sound.ignores none rfl rfl (Or.inl rfl)

theorem checkEvent_adds {state : GeolocState} (sound : state.Sound)
    (event : ProcessEvent) :
    ∃ next, state.checkEvent event = some next ∧
      Adds state (match event with
        | .tcpip destport reception =>
            if destport = gMcastPort then state.stored reception else fun _ => []
        | _ => fun _ => []) next := by
  cases event with
  | tcpip destport reception =>
      by_cases mcast : destport = gMcastPort
      · simp only [checkEvent, if_pos mcast]
        exact handleReception_adds sound reception
      · simp only [checkEvent, if_neg mcast]
        exact ⟨state, rfl, sound.same rfl rfl (Or.inl rfl)⟩
  | button =>
      by_cases idle : state.waitingResp = 0
      · exact ⟨_, if_pos idle, sound.same rfl rfl (Or.inr rfl)⟩
      · exact ⟨state, if_neg idle, sound.same rfl rfl (Or.inl rfl)⟩
  | other => exact ⟨state, rfl, sound.same rfl rfl (Or.inl rfl)⟩

theorem geolocCheck_adds {state : GeolocState} (sound : state.Sound)
    (event : ProcessEvent) :
    ∃ next, state.geolocCheck event = some next ∧
      Adds state (fun destination => state.routed destination (.check event)) next := by
  by_cases stopped : state.started = 0
  · refine ⟨state, if_pos stopped, ?_⟩
    have nothing :
        (fun destination => state.routed destination (.check event)) = fun _ => [] := by
      funext destination
      cases event <;> simp [routed, stopped]
    rw [nothing]
    exact sound.same rfl rfl (Or.inl rfl)
  · obtain ⟨served, timers⟩ := sound.checkTimers
    have before := (served_checkTimers timers).adds sound
    obtain ⟨next, executed, after⟩ := checkEvent_adds before.sound event
    refine ⟨next, ?_, ?_⟩
    · rw [geolocCheck, if_neg stopped, timers]
      exact executed
    · have both := before.trans after
      cases event with
      | tcpip destport reception =>
          by_cases mcast : destport = gMcastPort
          · simpa [routed, stopped, mcast, timers] using both
          · simpa [routed, mcast] using both
      | button => exact both
      | other => exact both

end GeolocState

/-! ## One event and all events -/

/-- Every event is handled, keeps the counters in bounds and adds to the buffers what
it routes to them. -/
theorem GeolocState.Sound.step {state : GeolocState} (sound : state.Sound)
    (event : GeolocEvent) :
    ∃ next, geolocStep state event = some next ∧
      state.Adds (fun destination => state.routed destination event) next := by
  cases event with
  | check event => exact GeolocState.geolocCheck_adds sound event
  | receive reception => exact GeolocState.handleReception_adds sound reception
  | expire timer =>
      cases timer with
      | periodicMessages => exact ⟨_, rfl, sound.same rfl rfl (Or.inl rfl)⟩
      | gtim => exact ⟨_, rfl, sound.same rfl rfl (Or.inl rfl)⟩
      | gReq => exact ⟨_, rfl, sound.same rfl rfl (Or.inl rfl)⟩
  | geolocStart => exact ⟨_, rfl, sound.same rfl rfl (Or.inl rfl)⟩
  | geolocStop => exact ⟨_, rfl, sound.same rfl rfl (Or.inl rfl)⟩

theorem geolocSound_initially : ({} : GeolocState).Sound := by
  constructor
  · exact ⟨le_refl _, Int.natCast_pos.2 (by decide)⟩
  · exact ⟨le_refl _, Int.natCast_pos.2 (by decide)⟩
  · exact Or.inl rfl
  · intro answers
    exact absurd answers (lt_irrefl _)

/-- Whatever happens to a mote, no event writes outside of the two arrays, both
counters stay below ten, answers are stored only while the mote waits for them, and
what was sent from a buffer together with what waits in it is what was routed to
it, in order. -/
theorem geolocation_buffers_complete (events : List GeolocEvent) :
    ∃ state, run geolocStep {} events = some state ∧
      (∀ destination, 0 ≤ (state.buffer destination).cnt ∧
        (state.buffer destination).cnt < 10) ∧
      (0 < state.neighborsResp.cnt → state.waitingResp = 1) ∧
      ∀ destination,
        (state.buffer destination).sent.flatten ++
            (state.buffer destination).data.toList.take
              (state.buffer destination).cnt.toNat =
          observed geolocStep (GeolocState.routed destination) {} events := by
  have enabled : ∀ state event, GeolocState.Sound state →
      ∃ next, geolocStep state event = some next ∧ next.Sound := by
    intro state event sound
    obtain ⟨next, stepped, adds⟩ := sound.step event
    exact ⟨next, stepped, adds.sound⟩
  obtain ⟨state, executed, sound⟩ :=
    run_total GeolocState.Sound enabled geolocSound_initially events
  refine ⟨state, executed, ?_, sound.waiting, ?_⟩
  · intro destination
    cases destination with
    | gdata => exact sound.gdata
    | neighborsResp => exact sound.neighborsResp
  · intro destination
    have grown : (state.buffer destination).batches.contents =
        (({} : GeolocState).buffer destination).batches.contents ++
          observed geolocStep (GeolocState.routed destination) {} events := by
      apply run_observed GeolocState.Sound
        (fun state => (state.buffer destination).batches.contents) _ _
        geolocSound_initially executed
      · intro state event next sound stepped
        obtain ⟨other, executed, adds⟩ := sound.step event
        cases executed.symm.trans stepped
        exact adds.sound
      · intro state event next sound stepped
        obtain ⟨other, executed, adds⟩ := sound.step event
        cases executed.symm.trans stepped
        exact adds.contents destination
    have empty : (({} : GeolocState).buffer destination).batches.contents = [] := by
      cases destination with
      | gdata => rfl
      | neighborsResp => rfl
    rw [empty, List.nil_append] at grown
    exact grown

end IotLab.Firmware
