import IotLab.Firmware.Geolocation
import IotLab.Library.Ether

/-!
# Motes that hear each other

A broadcast of the geolocation module reaches any of the other motes, once at most and after any
time; a broadcast that nobody hears is lost.  The timers, the buttons and the commands that start
and stop the module come at any time.
-/

namespace IotLab.Firmware

open IotLab.Library

theorem uipHtons_uipHtons (value : Word) : uipHtons (uipHtons value) = value := by
  apply Fin.ext
  simp only [uipHtons]
  omega

/-- What a broadcast is for. -/
inductive BroadcastKind where
  | simpleSend
  | requestResponse
  | response
  deriving DecidableEq, Repr

namespace BroadcastKind

def type : BroadcastKind → Word
  | .simpleSend => gSimpleSend
  | .requestResponse => gRequestResponse
  | .response => gResponse

/-- The 120 bytes of a broadcast. -/
def payload (kind : BroadcastKind) : List Byte :=
  wordBytes (uipHtons kind.type) ++ List.replicate 118 0

theorem type_payload (kind : BroadcastKind) (sender : Byte × Byte) (rssi : Word)
    (beyond : Memory) :
    ({ sender, rssi, data := inMemory kind.payload beyond } : Reception).type = kind.type := by
  simp only [Reception.type, payload, loadWord_wordBytes]
  exact uipHtons_uipHtons kind.type

theorem type_inj {kind other : BroadcastKind} (same : kind.type = other.type) :
    kind = other := by
  cases kind <;> cases other <;> first | rfl | exact absurd same (by decide)

theorem payload_inj {kind other : BroadcastKind} (same : kind.payload = other.payload) :
    kind = other := by
  have read := kind.type_payload (0, 0) 0 fun _ => 0
  rw [same, other.type_payload] at read
  exact (type_inj read).symm

end BroadcastKind

/-- The events that are not about a packet. -/
def GeolocEvent.own : GeolocEvent → Bool
  | .receive _ => false
  | .check (.tcpip destport _) => destport ≠ gMcastPort
  | .check .button | .check .other | .expire _ | .geolocStart | .geolocStop => true

def GeolocEvent.presses : GeolocEvent → Bool
  | .check .button => true
  | _ => false

def GeolocEvent.expires : GeolocEvent → Bool
  | .expire .periodicMessages => true
  | _ => false

/-! ## What a step broadcasts -/

namespace GeolocState

/-- A step adds broadcasts and leaves the type of the next one at `G_SIMPLE_SEND`. -/
structure Emits (state : GeolocState) (kinds : List BroadcastKind) (next : GeolocState) :
    Prop where
  broadcasts : next.broadcasts = state.broadcasts ++ kinds.map BroadcastKind.payload
  type : next.type = gSimpleSend

/-- The timer of the periodic messages has expired, as a number. -/
def due (state : GeolocState) : ℕ := state.periodicMessagesExpired.toNat

variable {state next : GeolocState}

theorem emits_nil (idle : state.type = gSimpleSend)
    (broadcasts : next.broadcasts = state.broadcasts) (type : next.type = state.type) :
    Emits state [] next :=
  ⟨by rw [broadcasts, List.map_nil, List.append_nil], type.trans idle⟩

theorem Emits.trans {later : GeolocState} {kinds more : List BroadcastKind}
    (first : Emits state kinds next) (second : Emits next more later) :
    Emits state (kinds ++ more) later where
  broadcasts := by
    rw [second.broadcasts, first.broadcasts, List.map_append, List.append_assoc]
  type := second.type

theorem emits_gPeriodicSend (state : GeolocState) (kind : BroadcastKind) :
    Emits state [kind] ({ state with type := kind.type }.gPeriodicSend) := ⟨rfl, rfl⟩

/-- The timers broadcast when that of the periodic messages has expired. -/
theorem Served.emits {served : GeolocState} (timers : Served state served)
    (idle : state.type = gSimpleSend) :
    Emits state (List.replicate state.due .simpleSend) served ∧ served.due = 0 := by
  have broadcasts := timers.broadcasts
  have type := timers.type
  rw [due, due, timers.periodicMessagesExpired]
  cases expired : state.periodicMessagesExpired with
  | false =>
      rw [expired, if_neg Bool.false_ne_true] at broadcasts type
      exact ⟨emits_nil idle broadcasts type, rfl⟩
  | true =>
      rw [expired, if_pos rfl] at broadcasts type
      refine ⟨⟨?_, type⟩, rfl⟩
      rw [broadcasts, gPeriodicSend, idle]
      rfl

theorem not_request {reception : Reception} {destination : Destination}
    (some_ : state.destination reception = some destination) :
    ¬ (state.started ≠ 0 ∧ reception.type = gRequestResponse) := by
  rintro ⟨started, request⟩
  rw [GeolocState.destination, if_neg started, request, if_neg (by decide),
    if_neg (by decide)] at some_
  cases some_

/-- A mote answers a request, and nothing else. -/
theorem handleReception_emits (idle : state.type = gSimpleSend) {reception : Reception}
    (handled : state.handleReception reception = some next) :
    Emits state
        (if state.started ≠ 0 ∧ reception.type = gRequestResponse then [.response] else []) next ∧
      next.due = state.due := by
  rcases handleReception_cases state reception with
    ⟨destination, handles⟩ | ⟨destination, _, handles⟩ | ⟨_, handles⟩
  · obtain ⟨gdata, _, rfl⟩ := Option.map_eq_some_iff.1 (handles.symm.trans handled)
    rw [if_neg (not_request destination)]
    exact ⟨emits_nil idle rfl rfl, rfl⟩
  · obtain ⟨neighborsResp, _, rfl⟩ := Option.map_eq_some_iff.1 (handles.symm.trans handled)
    rw [if_neg (not_request destination)]
    exact ⟨emits_nil idle rfl rfl, rfl⟩
  · cases handles.symm.trans handled
    split
    · exact ⟨state.emits_gPeriodicSend .response, rfl⟩
    · exact ⟨emits_nil idle rfl rfl, rfl⟩

/-- A mote broadcasts by itself when the timer has expired, and asks when the button is pressed. -/
theorem own_emits (idle : state.type = gSimpleSend) {event : GeolocEvent} (own : event.own = true)
    (stepped : geolocStep state event = some next) :
    ∃ kinds, Emits state kinds next ∧ .response ∉ kinds ∧
      kinds.count .requestResponse ≤ event.presses.toNat ∧
      kinds.count .simpleSend + next.due ≤ state.due + event.expires.toNat := by
  cases event with
  | receive reception => cases own
  | expire timer =>
      cases timer with
      | periodicMessages =>
          cases stepped
          refine ⟨[], emits_nil idle rfl rfl, List.not_mem_nil, Nat.zero_le _, ?_⟩
          exact (Nat.zero_add _).le.trans (Nat.le_add_left _ _)
      | gtim =>
          cases stepped
          exact ⟨[], emits_nil idle rfl rfl, List.not_mem_nil, Nat.zero_le _, (Nat.zero_add _).le⟩
      | gReq =>
          cases stepped
          exact ⟨[], emits_nil idle rfl rfl, List.not_mem_nil, Nat.zero_le _, (Nat.zero_add _).le⟩
  | geolocStart =>
      cases stepped
      exact ⟨[], emits_nil idle rfl rfl, List.not_mem_nil, Nat.zero_le _, (Nat.zero_add _).le⟩
  | geolocStop =>
      cases stepped
      exact ⟨[], emits_nil idle rfl rfl, List.not_mem_nil, Nat.zero_le _, (Nat.zero_add _).le⟩
  | check event =>
      rw [geolocStep, geolocCheck] at stepped
      split at stepped
      · cases stepped
        refine ⟨[], emits_nil idle rfl rfl, List.not_mem_nil, Nat.zero_le _, ?_⟩
        exact (Nat.zero_add _).le.trans (Nat.le_add_right _ _)
      · obtain ⟨served, timers, rest⟩ := Option.bind_eq_some_iff.1 stepped
        obtain ⟨first, none⟩ := (served_checkTimers timers).emits idle
        have noAnswer :
            BroadcastKind.response ∉ List.replicate state.due BroadcastKind.simpleSend :=
          fun answer => absurd (List.mem_replicate.1 answer).2 (by decide)
        have noRequest :
            (List.replicate state.due BroadcastKind.simpleSend).count .requestResponse = 0 := by
          rw [List.count_replicate]
          rfl
        have sends :
            (List.replicate state.due BroadcastKind.simpleSend).count .simpleSend + served.due =
              state.due := by
          rw [List.count_replicate_self, none, Nat.add_zero]
        cases event with
        | tcpip destport reception =>
            have elsewhere : destport ≠ gMcastPort := by simpa [GeolocEvent.own] using own
            rw [checkEvent, if_neg elsewhere] at rest
            cases rest
            exact ⟨_, first, noAnswer, noRequest.le, sends.le⟩
        | other =>
            cases rest
            exact ⟨_, first, noAnswer, noRequest.le, sends.le⟩
        | button =>
            rw [checkEvent] at rest
            split at rest
            · cases rest
              have asks : Emits served [.requestResponse]
                  { served with gReqExpired := false, waitingResp := 1 }.gSendReqResp := ⟨rfl, rfl⟩
              refine ⟨_, first.trans asks, ?_, ?_, ?_⟩
              · simp
              · rw [List.count_append, noRequest]
                exact le_rfl
              · rw [List.count_append]
                exact sends.le
            · cases rest
              exact ⟨_, first, noAnswer, noRequest.le.trans (Nat.zero_le _), sends.le⟩

end GeolocState

/-! ## The motes -/

/-- A mote has heard a broadcast; its module may have been stopped. -/
structure Hearing (ι : Type*) where
  receiver : ι
  source : ι
  payload : List Byte
  /-- `packetbuf_attr(PACKETBUF_ATTR_RSSI)`. -/
  rssi : Word
  listening : Bool

structure Neighbourhood (ι : Type*) where
  mote : ι → GeolocState := fun _ => {}
  ether : Ether ι (List Byte) := .silent
  hearings : List (Hearing ι) := []

inductive NeighbourhoodAction (ι : Type*) where
  | own (mote : ι) (event : GeolocEvent)
  /-- A mote hears the broadcast at a position; `beyond` is what the buffer holds behind it. -/
  | hear (position : ℕ) (receiver : ι) (rssi : Word) (beyond : Memory)

/-- The mote that acts. -/
def NeighbourhoodAction.mote {ι : Type*} : NeighbourhoodAction ι → ι
  | .own mote _ => mote
  | .hear _ receiver _ _ => receiver

section

variable {ι : Type*} [DecidableEq ι]

namespace Neighbourhood

/-- A mote handles an event; its new broadcasts are on the air. -/
def handle (net : Neighbourhood ι) (mote : ι) (event : GeolocEvent) :
    Option (Neighbourhood ι) :=
  (geolocStep (net.mote mote) event).map fun next => { net with
    mote := Function.update net.mote mote next
    ether := net.ether.send mote (next.broadcasts.drop (net.mote mote).broadcasts.length) }

end Neighbourhood

/-- One action among motes whose addresses end with the bytes `address`. -/
def neighbourhoodStep (address : ι → Byte × Byte) (net : Neighbourhood ι) :
    NeighbourhoodAction ι → Option (Neighbourhood ι)
  | .own mote event => if event.own then net.handle mote event else none
  | .hear position receiver rssi beyond =>
      match there : net.ether.sent[position]? with
      | none => none
      | some (source, payload) =>
          if possible : source ≠ receiver ∧ (position, receiver) ∉ net.ether.heard then
            let listening := (net.mote receiver).started ≠ 0
            let heard : Neighbourhood ι := { net with
              ether := net.ether.hear position receiver (source, payload) there possible.1
                possible.2
              hearings := net.hearings ++ [⟨receiver, source, payload, rssi, listening⟩] }
            heard.handle receiver (.receive ⟨address source, rssi, inMemory payload beyond⟩)
          else none

end

end IotLab.Firmware
