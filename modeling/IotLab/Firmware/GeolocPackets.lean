import IotLab.Firmware.Geolocation

/-!
# The messages for the sink

Whatever happens to a mote, what it has sent stays sent, and a message has one to ten samples.
-/

namespace IotLab.Firmware

/-- One to ten samples. -/
structure IsMessage (data : List GeolocData) : Prop where
  nonempty : data ≠ []
  few : data.length ≤ geolocDataLength

namespace GeolocBuffer

/-- A buffer sends some more messages. -/
def Flushes (buffer next : GeolocBuffer) : Prop :=
  ∃ more, next.sent = buffer.sent ++ more ∧ ∀ data ∈ more, IsMessage data

theorem Flushes.of_same {buffer next : GeolocBuffer} (same : next.sent = buffer.sent) :
    Flushes buffer next :=
  ⟨[], by rw [same, List.append_nil], List.forall_mem_nil _⟩

theorem Flushes.trans {buffer next later : GeolocBuffer} (first : Flushes buffer next)
    (second : Flushes next later) : Flushes buffer later := by
  obtain ⟨some_, sent, full⟩ := first
  obtain ⟨more, others, fullMore⟩ := second
  refine ⟨some_ ++ more, by rw [others, sent, List.append_assoc], fun data member => ?_⟩
  rcases List.mem_append.1 member with early | late
  · exact full data early
  · exact fullMore data late

theorem geolocDataSend_flushes {buffer next : GeolocBuffer} {nb : ℤ} (positive : 0 < nb)
    (sent : buffer.geolocDataSend nb = some next) : Flushes buffer next := by
  rw [geolocDataSend] at sent
  split at sent
  · next possible =>
      cases sent
      refine ⟨_, rfl, fun data member => ?_⟩
      rw [List.mem_singleton] at member
      have length : data.length = nb.toNat := by
        rw [member, List.length_take, Vector.length_toList]
        exact min_eq_left (Int.toNat_le.2 possible.2)
      refine ⟨?_, length.trans_le (Int.toNat_le.2 possible.2)⟩
      rw [← List.length_pos_iff, length]
      exact Int.lt_toNat.2 positive
  · cases sent

theorem geolocHandler_flushes {buffer next : GeolocBuffer} {sample : GeolocData}
    (handled : buffer.geolocHandler sample = some next) : Flushes buffer next := by
  rw [geolocHandler] at handled
  split at handled
  · dsimp only at handled
    split at handled
    · obtain ⟨flushed, sent, rest⟩ := Option.bind_eq_some_iff.1 handled
      have flushes := geolocDataSend_flushes (Int.natCast_pos.2 (by decide)) sent
      cases rest
      exact flushes
    · cases handled
      exact .of_same rfl
  · cases handled

end GeolocBuffer

namespace GeolocState

/-- Both buffers send some more messages. -/
structure Sends (state next : GeolocState) : Prop where
  gdata : state.gdata.Flushes next.gdata
  neighborsResp : state.neighborsResp.Flushes next.neighborsResp

variable {state next : GeolocState}

theorem Sends.of_same (gdata : next.gdata = state.gdata)
    (neighborsResp : next.neighborsResp = state.neighborsResp) : Sends state next :=
  ⟨.of_same (congrArg _ gdata), .of_same (congrArg _ neighborsResp)⟩

theorem Sends.trans {later : GeolocState} (first : Sends state next) (second : Sends next later) :
    Sends state later :=
  ⟨first.gdata.trans second.gdata, first.neighborsResp.trans second.neighborsResp⟩

theorem Served.sends {served : GeolocState} (timers : Served state served) :
    Sends state served := by
  have flushes (destination : Destination) :
      (state.buffer destination).Flushes (served.buffer destination) := by
    rcases timers.buffer destination with same | ⟨waits, flushed, sent, next⟩
    · exact .of_same (congrArg _ same)
    · have flushes := GeolocBuffer.geolocDataSend_flushes waits sent
      rw [next]
      exact flushes
  exact ⟨flushes .gdata, flushes .neighborsResp⟩

theorem handleReception_sends {reception : Reception}
    (handled : state.handleReception reception = some next) : Sends state next := by
  rcases handleReception_cases state reception with
    ⟨_, handles⟩ | ⟨_, _, handles⟩ | ⟨_, handles⟩
  · obtain ⟨filled, put, rfl⟩ := Option.map_eq_some_iff.1 (handles.symm.trans handled)
    exact ⟨GeolocBuffer.geolocHandler_flushes put, .of_same rfl⟩
  · obtain ⟨filled, put, rfl⟩ := Option.map_eq_some_iff.1 (handles.symm.trans handled)
    exact ⟨.of_same rfl, GeolocBuffer.geolocHandler_flushes put⟩
  · cases handles.symm.trans handled
    split
    · exact .of_same rfl rfl
    · exact .of_same rfl rfl

theorem checkEvent_sends {event : ProcessEvent} (checked : state.checkEvent event = some next) :
    Sends state next := by
  cases event with
  | tcpip destport reception =>
      rw [checkEvent] at checked
      split at checked
      · exact handleReception_sends checked
      · cases checked
        exact .of_same rfl rfl
  | button =>
      rw [checkEvent] at checked
      split at checked <;>
        · cases checked
          exact .of_same rfl rfl
  | other =>
      cases checked
      exact .of_same rfl rfl

theorem geolocStep_sends {event : GeolocEvent} (stepped : geolocStep state event = some next) :
    Sends state next := by
  cases event with
  | check event =>
      rw [geolocStep, geolocCheck] at stepped
      split at stepped
      · cases stepped
        exact .of_same rfl rfl
      · obtain ⟨served, timers, rest⟩ := Option.bind_eq_some_iff.1 stepped
        exact (served_checkTimers timers).sends.trans (checkEvent_sends rest)
  | receive reception => exact handleReception_sends stepped
  | expire timer =>
      cases timer <;>
        · cases stepped
          exact .of_same rfl rfl
  | geolocStart =>
      cases stepped
      exact .of_same rfl rfl
  | geolocStop =>
      cases stepped
      exact .of_same rfl rfl

/-- The messages that a step of a mote sends. -/
def newMessages (state next : GeolocState) : List (List GeolocData) :=
  next.gdata.sent.drop state.gdata.sent.length ++
    next.neighborsResp.sent.drop state.neighborsResp.sent.length

/-- The messages of a mote so far. -/
def messages (state : GeolocState) : List (List GeolocData) :=
  state.gdata.sent ++ state.neighborsResp.sent

theorem Sends.messages (sends : Sends state next) :
    next.messages.Perm (state.messages ++ newMessages state next) := by
  obtain ⟨⟨first, gdata, _⟩, ⟨second, neighborsResp, _⟩⟩ := sends
  rw [GeolocState.messages, GeolocState.messages, newMessages, gdata, neighborsResp,
    List.drop_left, List.drop_left]
  exact Library.perm_append_append _ _ _ _

theorem Sends.isMessage (sends : Sends state next) :
    ∀ data ∈ newMessages state next, IsMessage data := by
  obtain ⟨⟨first, gdata, full⟩, ⟨second, neighborsResp, fullMore⟩⟩ := sends
  rw [newMessages, gdata, neighborsResp, List.drop_left, List.drop_left]
  intro data member
  rcases List.mem_append.1 member with early | late
  · exact full data early
  · exact fullMore data late

end GeolocState

end IotLab.Firmware
