import IotLab.Firmware.Neighbourhood
import IotLab.Library.Runs
import Mathlib.Data.List.Count

/-!
# Runs of a neighbourhood

Whatever is lost or late, a broadcast goes back to a timer of its mote or to a button: answers
make no further broadcasts, and a mote answers a request once at most.  A sample goes back to a
broadcast of the neighbour that it names.
-/

namespace IotLab.Firmware

open IotLab.Library

variable {ι : Type*} [DecidableEq ι]

/-! ## One action -/

namespace Neighbourhood

variable {net next : Neighbourhood ι} {mote : ι} {event : GeolocEvent}

theorem handle_cases (handled : net.handle mote event = some next) :
    ∃ state, geolocStep (net.mote mote) event = some state ∧
      next.mote = Function.update net.mote mote state ∧ next.hearings = net.hearings ∧
      ∀ kinds, GeolocState.Emits (net.mote mote) kinds state →
        next.ether = net.ether.send mote (kinds.map BroadcastKind.payload) := by
  obtain ⟨state, stepped, rfl⟩ := Option.map_eq_some_iff.1 handled
  refine ⟨state, stepped, rfl, rfl, fun kinds emits => ?_⟩
  simp only [emits.broadcasts, List.drop_left]

end Neighbourhood

section

variable {address : ι → Byte × Byte} {net next : Neighbourhood ι}

/-- A mote handles an event of its own, or it hears a broadcast of another one for the first
time. -/
theorem neighbourhoodStep_cases {action : NeighbourhoodAction ι}
    (stepped : neighbourhoodStep address net action = some next) :
    (∃ mote event, action = .own mote event ∧ event.own = true ∧
      net.handle mote event = some next) ∨
    ∃ position receiver rssi beyond source payload,
      ∃ (there : net.ether.sent[position]? = some (source, payload)) (other : source ≠ receiver)
        (fresh : (position, receiver) ∉ net.ether.heard),
        action = .hear position receiver rssi beyond ∧
        Neighbourhood.handle { net with
            ether := net.ether.hear position receiver (source, payload) there other fresh
            hearings := net.hearings ++
              [⟨receiver, source, payload, rssi, (net.mote receiver).started ≠ 0⟩] }
          receiver (.receive ⟨address source, rssi, inMemory payload beyond⟩) = some next := by
  cases action with
  | own mote event =>
      rw [neighbourhoodStep] at stepped
      split at stepped
      · next own => exact .inl ⟨mote, event, rfl, own, stepped⟩
      · cases stepped
  | hear position receiver rssi beyond =>
      simp only [neighbourhoodStep] at stepped
      split at stepped
      · cases stepped
      · next source payload there =>
          split at stepped
          · next possible =>
              exact .inr ⟨position, receiver, rssi, beyond, source, payload, there, possible.1,
                possible.2, rfl, stepped⟩
          · cases stepped

/-- The mote that acts takes a step, and the others do nothing. -/
theorem neighbourhoodStep_mote {action : NeighbourhoodAction ι}
    (stepped : neighbourhoodStep address net action = some next) :
    (∃ event, geolocStep (net.mote action.mote) event = some (next.mote action.mote)) ∧
      ∀ other, other ≠ action.mote → next.mote other = net.mote other := by
  rcases neighbourhoodStep_cases stepped with
    ⟨mote, event, rfl, _, handled⟩ | ⟨_, receiver, _, _, _, _, _, _, _, rfl, handled⟩
  · obtain ⟨state, run, motes, _⟩ := Neighbourhood.handle_cases handled
    rw [motes]
    exact ⟨⟨event, by simpa [NeighbourhoodAction.mote] using run⟩,
      fun other apart => Function.update_of_ne apart _ _⟩
  · obtain ⟨state, run, motes, _⟩ := Neighbourhood.handle_cases handled
    rw [motes]
    exact ⟨⟨_, by simpa [NeighbourhoodAction.mote] using run⟩,
      fun other apart => Function.update_of_ne apart _ _⟩

end

/-! ## The causes of the broadcasts -/

/-- The action lets the timer of the periodic messages of a mote expire. -/
def NeighbourhoodAction.expires (mote : ι) : NeighbourhoodAction ι → Bool
  | .own other event => other = mote && event.expires
  | .hear _ _ _ _ => false

/-- The mote whose button is pressed. -/
def NeighbourhoodAction.presser : NeighbourhoodAction ι → Option ι
  | .own mote event => if event.presses then some mote else none
  | .hear _ _ _ _ => none

/-- Every broadcast has a cause of its own. -/
structure Caused (before : List (NeighbourhoodAction ι)) (net : Neighbourhood ι)
    (calls : List (ι × BroadcastKind)) : Prop where
  idle : ∀ mote, (net.mote mote).type = gSimpleSend
  sent : net.ether.sent = calls.map fun call => (call.1, call.2.payload)
  broadcasts : ∀ mote, (net.mote mote).broadcasts =
    (calls.filter fun call => call.1 = mote).map fun call => call.2.payload
  periodic : ∀ mote, calls.count (mote, .simpleSend) + (net.mote mote).due ≤
    before.countP (NeighbourhoodAction.expires mote)
  requests : ((calls.filter fun call => call.2 = .requestResponse).map Prod.fst).Sublist
    (before.filterMap NeighbourhoodAction.presser)
  responses : ∀ mote, calls.count (mote, .response) ≤
    (net.ether.heardBy mote).countP fun sending =>
      sending.2 = BroadcastKind.requestResponse.payload

theorem count_call (calls : List (ι × BroadcastKind)) (source mote : ι)
    (kinds : List BroadcastKind) (kind : BroadcastKind) :
    (calls ++ kinds.map fun kind => (source, kind)).count (mote, kind) =
      calls.count (mote, kind) + if source = mote then kinds.count kind else 0 := by
  rw [List.count_append]
  congr 1
  split
  · next same =>
      subst same
      exact List.count_map_of_injective kinds _ (fun _ _ same => (Prod.mk.inj same).2) kind
  · next apart =>
      refine List.count_eq_zero.2 fun member => ?_
      obtain ⟨_, _, same⟩ := List.mem_map.1 member
      exact apart (Prod.mk.inj same).1

section

variable {before : List (NeighbourhoodAction ι)} {net next : Neighbourhood ι}
  {calls : List (ι × BroadcastKind)}

/-- A mote broadcasts, if there are causes. -/
theorem Caused.emit {action : NeighbourhoodAction ι} {mote : ι} {kinds : List BroadcastKind}
    {state : GeolocState} (caused : Caused before net calls)
    (emits : GeolocState.Emits (net.mote mote) kinds state)
    (motes : next.mote = Function.update net.mote mote state)
    (ether : next.ether = net.ether.send mote (kinds.map BroadcastKind.payload))
    (timer : kinds.count .simpleSend + state.due ≤
      (net.mote mote).due + (action.expires mote).toNat)
    (asks : kinds.count .requestResponse = 0 ∨
      kinds.count .requestResponse = 1 ∧ action.presser = some mote)
    (answers : calls.count (mote, .response) + kinds.count .response ≤
      (net.ether.heardBy mote).countP fun sending =>
        sending.2 = BroadcastKind.requestResponse.payload) :
    Caused (before ++ [action]) next (calls ++ kinds.map fun kind => (mote, kind)) where
  idle other := by
    rw [motes, Function.update_apply]
    split
    · exact emits.type
    · exact caused.idle other
  sent := by
    rw [ether, Ether.sent_send, caused.sent, List.map_append, List.map_map, List.map_map]
    rfl
  broadcasts other := by
    rw [motes, Function.update_apply, List.filter_append, List.map_append]
    split
    · next same =>
        subst same
        rw [emits.broadcasts, caused.broadcasts, List.filter_map, List.map_map]
        simp [Function.comp_def]
    · next apart =>
        rw [caused.broadcasts, List.filter_map]
        simp [Function.comp_def, Ne.symm apart]
  periodic other := by
    rw [count_call, motes, Function.update_apply, List.countP_append, List.countP_singleton]
    have earlier := caused.periodic other
    by_cases same : mote = other
    · subst same
      rw [if_pos rfl, if_pos rfl]
      cases expired : action.expires mote with
      | false =>
          rw [expired] at timer
          simp only [Bool.toNat_false, Nat.add_zero, Bool.false_eq_true, if_false] at timer ⊢
          omega
      | true =>
          rw [expired] at timer
          simp only [Bool.toNat_true, if_true] at timer ⊢
          omega
    · rw [if_neg same, if_neg (Ne.symm same)]
      exact earlier.trans (Nat.le_add_right _ _)
  requests := by
    rw [List.filter_append, List.map_append, List.filterMap_append]
    refine caused.requests.append ?_
    have asked : ((kinds.map fun kind => (mote, kind)).filter fun call =>
        call.2 = BroadcastKind.requestResponse).map Prod.fst =
          List.replicate (kinds.count .requestResponse) mote := by
      rw [List.filter_map, List.map_map]
      simp only [Function.comp_def, List.filter_eq, List.map_replicate]
    rw [asked]
    rcases asks with none | ⟨one, pressed⟩
    · rw [none]
      exact List.nil_sublist _
    · rw [one, List.filterMap_cons, pressed]
      exact List.Sublist.refl _
  responses other := by
    rw [count_call, ether, Ether.heardBy_send]
    split
    · next same => exact same ▸ answers
    · exact caused.responses other

theorem Caused.step {address : ι → Byte × Byte} {action : NeighbourhoodAction ι}
    (caused : Caused before net calls)
    (stepped : neighbourhoodStep address net action = some next) :
    ∃ later, Caused (before ++ [action]) next later := by
  rcases neighbourhoodStep_cases stepped with
    ⟨mote, event, rfl, own, handled⟩ |
      ⟨position, receiver, rssi, beyond, source, payload, there, other, fresh, rfl, handled⟩
  · obtain ⟨state, run, motes, _, ether⟩ := Neighbourhood.handle_cases handled
    obtain ⟨kinds, emits, noAnswer, asks, sends⟩ :=
      GeolocState.own_emits (caused.idle mote) own run
    refine ⟨_, caused.emit emits motes (ether kinds emits) ?_ ?_ ?_⟩
    · simpa [NeighbourhoodAction.expires] using sends
    · cases pressed : event.presses with
      | false =>
          rw [pressed] at asks
          exact .inl (Nat.le_zero.1 asks)
      | true =>
          rw [pressed] at asks
          rcases Nat.le_one_iff_eq_zero_or_eq_one.1 asks with none | one
          · exact .inl none
          · exact .inr ⟨one, by rw [NeighbourhoodAction.presser, pressed, if_pos rfl]⟩
    · rw [List.count_eq_zero.2 noAnswer]
      exact caused.responses mote
  · obtain ⟨state, run, motes, _, ether⟩ := Neighbourhood.handle_cases handled
    obtain ⟨emits, due⟩ := GeolocState.handleReception_emits (caused.idle receiver) run
    have heard := net.ether.heardBy_hear there other fresh
    let asked : ℕ := if payload = BroadcastKind.requestResponse.payload then 1 else 0
    have grows : (net.ether.heardBy receiver).countP (fun sending =>
          sending.2 = BroadcastKind.requestResponse.payload) + asked =
        ((net.ether.hear position receiver (source, payload) there other fresh).heardBy
          receiver).countP fun sending => sending.2 = BroadcastKind.requestResponse.payload := by
      rw [heard, if_pos rfl, List.countP_append, List.countP_singleton]
      simp only [asked, decide_eq_true_eq]
    have hears : Caused before { net with
        ether := net.ether.hear position receiver (source, payload) there other fresh
        hearings := net.hearings ++
          [⟨receiver, source, payload, rssi, (net.mote receiver).started ≠ 0⟩] } calls :=
      { idle := caused.idle
        sent := caused.sent
        broadcasts := caused.broadcasts
        periodic := caused.periodic
        requests := caused.requests
        responses := fun listener => by
          refine (caused.responses listener).trans ?_
          rw [heard]
          split
          · rw [List.countP_append]
            exact Nat.le_add_right _ _
          · exact le_rfl }
    have answered : (if (net.mote receiver).started ≠ 0 ∧
          ({ sender := address source, rssi, data := inMemory payload beyond } : Reception).type =
            gRequestResponse then [BroadcastKind.response] else []).count .response ≤ asked := by
      split
      · next request =>
          obtain ⟨call, _, same⟩ := List.mem_map.1
            (caused.sent ▸ List.mem_of_getElem? there : (source, payload) ∈ calls.map _)
          cases same
          rw [BroadcastKind.type_payload] at request
          have kind : call.2 = .requestResponse := BroadcastKind.type_inj request.2
          simp [asked, kind]
      · exact Nat.zero_le _
    refine ⟨_, hears.emit emits motes (ether _ emits) ?_ (.inl ?_) ?_⟩
    · rw [due]
      split
      · exact (Nat.zero_add _).le.trans (Nat.le_add_right _ _)
      · exact (Nat.zero_add _).le.trans (Nat.le_add_right _ _)
    · split <;> rfl
    · exact (Nat.add_le_add (caused.responses receiver) answered).trans grows.le

theorem caused_start : ∃ calls, Caused [] ({} : Neighbourhood ι) calls :=
  ⟨[],
    { idle := fun _ => rfl
      sent := rfl
      broadcasts := fun _ => rfl
      periodic := fun _ => le_rfl
      requests := List.Sublist.refl _
      responses := fun _ => le_rfl }⟩

theorem caused_run {address : ι → Byte × Byte} {actions : List (NeighbourhoodAction ι)}
    (executed : run (neighbourhoodStep address) {} actions = some net) :
    ∃ calls, Caused actions net calls :=
  run_recorded (fun before net => ∃ calls, Caused before net calls)
    (fun _ _ _ _ holds stepped => holds.elim fun _ caused => caused.step stepped) caused_start
    executed

/-- There are three kinds of calls. -/
theorem countP_calls (calls : List (ι × BroadcastKind)) (mote : ι) :
    calls.countP (fun call => call.1 = mote) =
      calls.count (mote, .simpleSend) + calls.count (mote, .requestResponse) +
        calls.count (mote, .response) := by
  induction calls with
  | nil => rfl
  | cons call rest ih =>
      obtain ⟨source, kind⟩ := call
      rw [List.countP_cons, List.count_cons, List.count_cons, List.count_cons, ih]
      by_cases same : source = mote
      · subst same
        cases kind <;> simp <;> omega
      · simp [same]

/-- Whatever is lost or late, a mote broadcasts at most once for each time its timer expires and
once for each press of a button, its own or that of another mote. -/
theorem broadcasts_bounded {address : ι → Byte × Byte} {actions : List (NeighbourhoodAction ι)}
    (executed : run (neighbourhoodStep address) {} actions = some net) (mote : ι) :
    (net.mote mote).broadcasts.length ≤
      actions.countP (NeighbourhoodAction.expires mote) +
        actions.countP fun action => action.presser.isSome := by
  obtain ⟨calls, caused⟩ := caused_run executed
  have all : (net.mote mote).broadcasts.length = calls.countP fun call => call.1 = mote := by
    rw [caused.broadcasts, List.length_map, List.countP_eq_length_filter]
  have asked : calls.countP (fun call => call.2 = .requestResponse) ≤
      actions.countP fun action => action.presser.isSome := by
    have listed := caused.requests.length_le
    rwa [List.length_map, ← List.countP_eq_length_filter, List.length_filterMap_eq_countP]
      at listed
  have answered : calls.count (mote, .response) ≤
      calls.countP fun call => call.1 ≠ mote ∧ call.2 = .requestResponse := by
    refine (caused.responses mote).trans ((net.ether.heardBy_subperm mote).countP_le _ |>.trans ?_)
    rw [caused.sent, List.countP_filter, List.countP_map]
    refine List.countP_mono_left fun call _ request => ?_
    simp only [Function.comp_apply, Bool.and_eq_true, decide_eq_true_eq] at request ⊢
    exact ⟨request.2, BroadcastKind.payload_inj request.1⟩
  have split : calls.countP (fun call => call.2 = .requestResponse) =
      calls.count (mote, .requestResponse) +
        calls.countP fun call => call.1 ≠ mote ∧ call.2 = .requestResponse := by
    rw [List.countP_eq_countP_filter_add calls _ fun call => call.1 = mote, List.countP_filter,
      List.countP_filter, List.count]
    congr 1
    · refine List.countP_congr fun call _ => ?_
      simp [Prod.ext_iff, and_comm]
    · refine List.countP_congr fun call _ => ?_
      simp [and_comm]
  have periodic := caused.periodic mote
  rw [all, countP_calls]
  omega

/-- A periodic message of one mote, then a request of the other one and the answer. -/
def askedNeighbour : List (NeighbourhoodAction Bool) :=
  [.own true .geolocStart, .own false .geolocStart, .own true (.expire .periodicMessages),
    .own true (.check .other), .hear 0 false 65500 fun _ => 0, .own false (.check .button),
    .hear 1 true 65490 fun _ => 0, .hear 2 false 65496 fun _ => 0]

def twoAddresses (mote : Bool) : Byte × Byte := if mote then (0, 1) else (0, 2)

/-- The bound is reached. -/
theorem broadcasts_bounded_asked :
    ∃ net, run (neighbourhoodStep twoAddresses) {} askedNeighbour = some net ∧
      (net.mote true).broadcasts.length = 2 ∧
      (net.mote true).broadcasts.length ≤
        askedNeighbour.countP (NeighbourhoodAction.expires true) +
          askedNeighbour.countP fun action => action.presser.isSome := by
  have sends : (run (neighbourhoodStep twoAddresses) {} askedNeighbour).map
      (fun net => (net.mote true).broadcasts.length) = some 2 := by decide
  obtain ⟨net, executed, two⟩ := Option.map_eq_some_iff.1 sends
  exact ⟨net, executed, two, broadcasts_bounded executed true⟩

end

/-! ## The samples -/

namespace GeolocState

/-- The samples that a mote has sent to the server, and those that wait. -/
def samples (state : GeolocState) : List GeolocData :=
  state.gdata.batches.contents ++ state.neighborsResp.batches.contents

theorem routed_own (state : GeolocState) {event : GeolocEvent} (own : event.own = true)
    (destination : Destination) : state.routed destination event = [] := by
  cases event with
  | receive reception => cases own
  | expire timer => rfl
  | geolocStart => rfl
  | geolocStop => rfl
  | check event =>
      cases event with
      | button => rfl
      | other => rfl
      | tcpip destport reception =>
          have elsewhere : destport ≠ gMcastPort := by simpa [GeolocEvent.own] using own
          rw [routed, if_neg fun both => elsewhere both.2]

/-- A message adds a sample to one of the buffers, unless it is a request. -/
theorem stored_both (state : GeolocState) (reception : Reception) {kind : BroadcastKind}
    (type : reception.type = kind.type) :
    state.stored reception .gdata ++ state.stored reception .neighborsResp =
      if state.started ≠ 0 ∧ kind ≠ .requestResponse then [reception.sample] else [] := by
  by_cases stopped : state.started = 0
  · simp [stored, destination, stopped]
  · cases kind with
    | simpleSend => simp [stored, destination, stopped, type, BroadcastKind.type]
    | requestResponse =>
        have noSample : state.destination reception = none := by
          rw [destination, if_neg stopped, type, if_neg (by decide), if_neg (by decide)]
        simp [stored, noSample]
    | response =>
        have sample : state.destination reception =
            some (if state.waitingResp = 0 then .gdata else .neighborsResp) := by
          rw [destination, if_neg stopped, type, if_neg (by decide),
            if_pos (by decide)]
        by_cases idle : state.waitingResp = 0 <;> simp [stored, sample, stopped, idle]

theorem Adds.samples {state next : GeolocState} {added : Destination → List GeolocData}
    (adds : Adds state added next) :
    next.samples.Perm (state.samples ++ (added .gdata ++ added .neighborsResp)) := by
  have first := adds.contents .gdata
  have second := adds.contents .neighborsResp
  simp only [buffer] at first second
  rw [GeolocState.samples, GeolocState.samples, first, second]
  exact perm_append_append _ _ _ _

end GeolocState

/-- The sample of a hearing. -/
def Hearing.sample (address : ι → Byte × Byte) (hearing : Hearing ι) : GeolocData :=
  ({ sender := address hearing.source
     rssi := hearing.rssi
     data := inMemory hearing.payload fun _ => 0 } : Reception).sample

/-- The hearing gives a sample. -/
def Hearing.counts (hearing : Hearing ι) : Bool :=
  hearing.listening && hearing.payload ≠ BroadcastKind.requestResponse.payload

namespace Neighbourhood

/-- What a mote has heard. -/
def hearingsOf (net : Neighbourhood ι) (mote : ι) : List (Hearing ι) :=
  net.hearings.filter fun hearing => hearing.receiver = mote

/-- What a mote has measured. -/
def measured (address : ι → Byte × Byte) (net : Neighbourhood ι) (mote : ι) : List GeolocData :=
  ((net.hearingsOf mote).filter Hearing.counts).map (Hearing.sample address)

end Neighbourhood

omit [DecidableEq ι] in
/-- A hearing that counts is stored. -/
theorem GeolocState.stored_hearing (state : GeolocState) (address : ι → Byte × Byte)
    (receiver source : ι) (kind : BroadcastKind) (rssi : Word) (beyond : Memory) :
    state.stored ⟨address source, rssi, inMemory kind.payload beyond⟩ .gdata ++
        state.stored ⟨address source, rssi, inMemory kind.payload beyond⟩ .neighborsResp =
      (([⟨receiver, source, kind.payload, rssi, state.started ≠ 0⟩] : List (Hearing ι)).filter
        Hearing.counts).map (Hearing.sample address) := by
  rw [state.stored_both _ (kind.type_payload (address source) rssi beyond)]
  by_cases sampled : state.started ≠ 0 ∧ kind ≠ .requestResponse
  · have noRequest : kind.payload ≠ BroadcastKind.requestResponse.payload :=
      fun same => sampled.2 (BroadcastKind.payload_inj same)
    rw [if_pos sampled, List.filter_cons_of_pos (by simp [Hearing.counts, sampled.1, noRequest])]
    rfl
  · have silent : ¬ (state.started ≠ 0 ∧ kind.payload ≠ BroadcastKind.requestResponse.payload) :=
      fun both => sampled ⟨both.1, fun same => both.2 (congrArg _ same)⟩
    rw [if_neg sampled, List.filter_cons_of_neg (by simpa [Hearing.counts] using silent)]
    rfl

/-- The samples are those of the hearings, and what has been heard is what the ether delivered. -/
structure Measures (address : ι → Byte × Byte) (net : Neighbourhood ι) : Prop where
  sound : ∀ mote, (net.mote mote).Sound
  samples : ∀ mote, (net.mote mote).samples.Perm (net.measured address mote)
  heard : ∀ mote, (net.hearingsOf mote).map (fun hearing => (hearing.source, hearing.payload)) =
    net.ether.heardBy mote

section

variable {address : ι → Byte × Byte} {before : List (NeighbourhoodAction ι)}
  {net next : Neighbourhood ι} {calls : List (ι × BroadcastKind)}
  {action : NeighbourhoodAction ι}

theorem Measures.step (measures : Measures address net) (caused : Caused before net calls)
    (stepped : neighbourhoodStep address net action = some next) : Measures address next := by
  rcases neighbourhoodStep_cases stepped with
    ⟨mote, event, rfl, own, handled⟩ |
      ⟨position, receiver, rssi, beyond, source, payload, there, other, fresh, rfl, handled⟩
  · obtain ⟨state, run, motes, hearings, ether⟩ := Neighbourhood.handle_cases handled
    obtain ⟨kinds, emits, _⟩ := GeolocState.own_emits (caused.idle mote) own run
    obtain ⟨same, taken, adds⟩ := (measures.sound mote).step event
    cases taken.symm.trans run
    refine ⟨fun listener => ?_, fun listener => ?_, fun listener => ?_⟩
    · rw [motes, Function.update_apply]
      split
      · exact adds.sound
      · exact measures.sound listener
    · rw [motes, Function.update_apply, Neighbourhood.measured, Neighbourhood.hearingsOf, hearings]
      split
      · next here =>
          subst here
          refine adds.samples.trans ?_
          rw [GeolocState.routed_own _ own, GeolocState.routed_own _ own, List.append_nil,
            List.append_nil]
          exact measures.samples listener
      · exact measures.samples listener
    · rw [ether kinds emits, Ether.heardBy_send, Neighbourhood.hearingsOf, hearings]
      exact measures.heard listener
  · obtain ⟨state, run, motes, hearings, ether⟩ := Neighbourhood.handle_cases handled
    obtain ⟨emits, _⟩ := GeolocState.handleReception_emits (caused.idle receiver) run
    obtain ⟨same, taken, adds⟩ := (measures.sound receiver).step _
    cases taken.symm.trans run
    obtain ⟨call, _, here⟩ := List.mem_map.1
      (caused.sent ▸ List.mem_of_getElem? there : (source, payload) ∈ calls.map _)
    cases here
    have listed : ∀ listener, next.hearingsOf listener = net.hearingsOf listener ++
        if receiver = listener then
          [⟨receiver, call.1, call.2.payload, rssi, (net.mote receiver).started ≠ 0⟩] else [] := by
      intro listener
      rw [Neighbourhood.hearingsOf, hearings, List.filter_append, List.filter_singleton]
      simp [Neighbourhood.hearingsOf]
    refine ⟨fun listener => ?_, fun listener => ?_, fun listener => ?_⟩
    · rw [motes, Function.update_apply]
      split
      · exact adds.sound
      · exact measures.sound listener
    · rw [motes, Function.update_apply, Neighbourhood.measured, listed]
      split
      · next there =>
          subst there
          rw [if_pos rfl]
          refine adds.samples.trans ?_
          rw [List.filter_append, List.map_append]
          exact (measures.samples listener).append
            (List.Perm.of_eq ((net.mote listener).stored_hearing ..))
      · next apart =>
          rw [if_neg (Ne.symm apart), List.append_nil]
          exact measures.samples listener
    · rw [ether _ emits, Ether.heardBy_send, Ether.heardBy_hear, listed, List.map_append,
        measures.heard listener]
      split <;> simp

theorem measures_run {actions : List (NeighbourhoodAction ι)}
    (executed : run (neighbourhoodStep address) {} actions = some net) :
    Measures address net ∧ ∃ calls, Caused actions net calls := by
  refine run_recorded (fun before net => Measures address net ∧ ∃ calls, Caused before net calls)
    ?_ ?_ executed
  · rintro before net action next ⟨measures, calls, caused⟩ stepped
    exact ⟨measures.step caused stepped, caused.step stepped⟩
  · exact ⟨⟨fun _ => geolocSound_initially, fun _ => List.Perm.refl _, fun _ => rfl⟩, caused_start⟩

/-- Each broadcast of a neighbour that a mote hears while the module is started gives exactly one
sample, unless it is a request, and there are no other samples; what a mote hears of a neighbour
is part of what the neighbour has broadcast. -/
theorem samples_heard_once {actions : List (NeighbourhoodAction ι)}
    (executed : run (neighbourhoodStep address) {} actions = some net) (mote : ι) :
    (net.mote mote).samples.Perm (net.measured address mote) ∧
      ∀ source, (((net.hearingsOf mote).filter fun hearing => hearing.source = source).map
        Hearing.payload).Subperm
          (if source = mote then [] else (net.mote source).broadcasts) := by
  obtain ⟨measures, calls, caused⟩ := measures_run executed
  refine ⟨measures.samples mote, fun source => ?_⟩
  have part := (net.ether.heardBy_subperm mote).filter fun sending => sending.1 = source
  rw [← measures.heard mote, caused.sent] at part
  obtain ⟨ordered, perm, inside⟩ := part
  have heard : (((net.hearingsOf mote).map fun hearing =>
        (hearing.source, hearing.payload)).filter fun sending => sending.1 = source).map Prod.snd =
      ((net.hearingsOf mote).filter fun hearing => hearing.source = source).map
        Hearing.payload := by
    rw [List.filter_map, List.map_map]
    rfl
  have sent : (((calls.map fun call => (call.1, call.2.payload)).filter fun sending =>
        sending.1 ≠ mote).filter fun sending => sending.1 = source).map Prod.snd =
      if source = mote then [] else (net.mote source).broadcasts := by
    rw [List.filter_filter, List.filter_map, List.map_map, caused.broadcasts]
    split
    · next own => simp [own]
    · next apart =>
        refine congrArg (List.map _) (List.filter_congr fun call _ => ?_)
        simp only [Function.comp_apply, Bool.and_eq_left_iff_imp, decide_eq_true_eq]
        exact fun same => same ▸ apart
  rw [← heard, ← sent]
  exact ⟨ordered.map Prod.snd, perm.map Prod.snd, inside.map Prod.snd⟩

end

theorem samples_heard_once_asked :
    ∃ net, run (neighbourhoodStep twoAddresses) {} askedNeighbour = some net ∧
      (net.measured twoAddresses false).map (fun sample => (sample.srcId.val, sample.rssi)) =
        [(1, -81), (1, -85)] ∧
      (net.mote false).samples.Perm (net.measured twoAddresses false) ∧
      ∀ source, (((net.hearingsOf false).filter fun hearing => hearing.source = source).map
        Hearing.payload).Subperm
          (if source = false then [] else (net.mote source).broadcasts) := by
  have measures : (run (neighbourhoodStep twoAddresses) {} askedNeighbour).map (fun net =>
      (net.measured twoAddresses false).map fun sample => (sample.srcId.val, sample.rssi)) =
        some [(1, -81), (1, -85)] := by decide
  obtain ⟨net, executed, two⟩ := Option.map_eq_some_iff.1 measures
  exact ⟨net, executed, two, samples_heard_once executed false⟩

end IotLab.Firmware
