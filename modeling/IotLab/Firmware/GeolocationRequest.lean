import IotLab.Firmware.Geolocation

/-!
# The request of a mote

The button starts a request: the mote asks its neighbours and waits for their answers
until a timer expires.  `geoloc_check` ends the wait only while answers are in the
buffer, and `geoloc_handler` empties the buffer with every tenth of them.
-/

namespace IotLab.Firmware

open IotLab.Library

namespace GeolocBuffer

/-- The counter starts again with the last entry of the array. -/
theorem cnt_geolocHandler {buffer next : GeolocBuffer} {sample : GeolocData}
    (inBounds : buffer.InBounds) (handled : buffer.geolocHandler sample = some next) :
    next.cnt = (buffer.cnt + 1) % geolocDataLength := by
  obtain ⟨low, high⟩ := inBounds
  rw [geolocHandler, dif_pos ⟨low, high⟩] at handled
  dsimp only at handled
  split at handled
  · next full =>
      have last : buffer.cnt + 1 = geolocDataLength :=
        Int.le_antisymm (Int.add_one_le_of_lt high) full
      rw [geolocDataSend, if_pos ⟨Int.natCast_nonneg _, le_rfl⟩] at handled
      cases handled
      rw [last, Int.emod_self]
  · next room =>
      cases handled
      exact (Int.emod_eq_of_lt (Int.le_add_one low) (Int.not_le.1 room)).symm

end GeolocBuffer

namespace GeolocState

/-! ## What a step does to a request -/

/-- What a message does to it. -/
structure Received (state : GeolocState) (reception : Reception) (next : GeolocState) :
    Prop where
  started : next.started = state.started
  waitingResp : next.waitingResp = state.waitingResp
  gReqExpired : next.gReqExpired = state.gReqExpired
  cnt : next.neighborsResp.cnt =
    (state.neighborsResp.cnt + (state.stored reception .neighborsResp).length) %
      geolocDataLength

theorem cnt_unchanged {state : GeolocState} (sound : state.Sound) {reception : Reception}
    (elsewhere : state.destination reception ≠ some .neighborsResp) :
    state.neighborsResp.cnt =
      (state.neighborsResp.cnt + (state.stored reception .neighborsResp).length) %
        geolocDataLength := by
  rw [stored, if_neg elsewhere, List.length_nil, Int.natCast_zero, Int.add_zero]
  exact (Int.emod_eq_of_lt sound.neighborsResp.1 sound.neighborsResp.2).symm

theorem received_handleReception {state next : GeolocState} {reception : Reception}
    (sound : state.Sound) (handled : state.handleReception reception = some next) :
    Received state reception next := by
  rcases handleReception_cases state reception with
    ⟨destination, handles⟩ | ⟨destination, _, handles⟩ | ⟨destination, handles⟩
  · have elsewhere : state.destination reception ≠ some .neighborsResp := by
      rw [destination]
      simp
    obtain ⟨gdata, _, rfl⟩ := Option.map_eq_some_iff.1 (handles.symm.trans handled)
    exact ⟨rfl, rfl, rfl, cnt_unchanged sound elsewhere⟩
  · obtain ⟨neighborsResp, filled, rfl⟩ :=
      Option.map_eq_some_iff.1 (handles.symm.trans handled)
    refine ⟨rfl, rfl, rfl, ?_⟩
    rw [stored, if_pos destination]
    exact GeolocBuffer.cnt_geolocHandler sound.neighborsResp filled
  · have elsewhere : state.destination reception ≠ some .neighborsResp := by
      rw [destination]
      simp
    cases handles.symm.trans handled
    split
    · exact ⟨rfl, rfl, rfl, cnt_unchanged sound elsewhere⟩
    · exact ⟨rfl, rfl, rfl, cnt_unchanged sound elsewhere⟩

theorem check_cases {state next : GeolocState} {event : ProcessEvent} (sound : state.Sound)
    (started : state.started ≠ 0) (stepped : geolocStep state (.check event) = some next) :
    ∃ served, state.checkTimers = some served ∧ Served state served ∧ served.Sound ∧
      served.checkEvent event = some next := by
  rw [geolocStep, geolocCheck, if_neg started] at stepped
  obtain ⟨served, checked, rest⟩ := Option.bind_eq_some_iff.1 stepped
  have timers := served_checkTimers checked
  exact ⟨served, checked, timers, (timers.adds sound).sound, rest⟩

/-! ## A request that is over -/

/-- The message of a request. -/
def requestMessage : List Byte :=
  wordBytes (uipHtons gRequestResponse) ++ List.replicate 118 0

/-- The request is over: the button starts the next one, and until then every answer
belongs to the periodic samples. -/
structure Completed (state : GeolocState) : Prop where
  waitingResp : state.waitingResp = 0
  button : state.started ≠ 0 → ∃ next, geolocStep state (.check .button) = some next ∧
    next.waitingResp = 1 ∧ next.gReqExpired = false ∧
      next.broadcasts.getLast? = some requestMessage
  responses : ∀ events later, GeolocEvent.check .button ∉ events →
    run geolocStep state events = some later → later.started ≠ 0 →
      ∀ reception, reception.type = gResponse →
        ∀ event ∈ [GeolocEvent.receive reception, .check (.tcpip gMcastPort reception)],
          later.routed .gdata event = [reception.sample] ∧
            later.routed .neighborsResp event = []

theorem Served.idle {state served : GeolocState} (timers : Served state served)
    (idle : state.waitingResp = 0) : served.waitingResp = 0 := by
  by_cases ends : state.EndsWait
  · exact timers.ended ends
  · exact (timers.kept ends).1.trans idle

/-- Only the button starts a request. -/
theorem step_idle {state next : GeolocState} (sound : state.Sound) {event : GeolocEvent}
    (noButton : event ≠ .check .button) (stepped : geolocStep state event = some next)
    (idle : state.waitingResp = 0) : next.waitingResp = 0 := by
  cases event with
  | check event =>
      by_cases stopped : state.started = 0
      · rw [geolocStep, geolocCheck, if_pos stopped] at stepped
        cases stepped
        exact idle
      · obtain ⟨served, checked, timers, kept, rest⟩ := check_cases sound stopped stepped
        have quiet := timers.idle idle
        cases event with
        | tcpip destport reception =>
            simp only [checkEvent] at rest
            split at rest
            · exact (received_handleReception kept rest).waitingResp.trans quiet
            · cases rest
              exact quiet
        | button => exact absurd rfl noButton
        | other =>
            cases rest
            exact quiet
  | receive reception => exact (received_handleReception sound stepped).waitingResp.trans idle
  | expire timer =>
      cases timer <;>
        · cases stepped
          exact idle
  | geolocStart =>
      cases stepped
      exact idle
  | geolocStop =>
      cases stepped
      exact idle

theorem sound_step {state next : GeolocState} (sound : state.Sound) {event : GeolocEvent}
    (stepped : geolocStep state event = some next) : next.Sound := by
  obtain ⟨other, taken, adds⟩ := sound.step event
  rw [stepped] at taken
  cases taken
  exact adds.sound

/-- Without the button there is no request in a whole run. -/
theorem run_idle {state later : GeolocState} (sound : state.Sound) {events : List GeolocEvent}
    (noButton : GeolocEvent.check .button ∉ events)
    (executed : run geolocStep state events = some later) (idle : state.waitingResp = 0) :
    later.Sound ∧ later.waitingResp = 0 := by
  induction events generalizing state with
  | nil =>
      cases executed
      exact ⟨sound, idle⟩
  | cons event rest ih =>
      obtain ⟨next, stepped, remaining⟩ := run_cons executed
      have other : event ≠ .check .button := fun same => noButton (same ▸ List.mem_cons_self)
      have later : GeolocEvent.check .button ∉ rest :=
        fun member => noButton (List.mem_cons_of_mem _ member)
      exact ih (sound_step sound stepped) later remaining (step_idle sound other stepped idle)

theorem stored_response {state : GeolocState} {reception : Reception}
    (started : state.started ≠ 0) (idle : state.waitingResp = 0)
    (response : reception.type = gResponse) :
    state.stored reception .gdata = [reception.sample] ∧
      state.stored reception .neighborsResp = [] := by
  have here : state.destination reception = some .gdata := by
    rw [destination, if_neg started, response, if_neg (by decide), if_pos rfl, if_pos idle]
  simp [stored, here]

/-- The flag alone decides whether a request is over. -/
theorem completed_iff {state : GeolocState} (sound : state.Sound) :
    state.Completed ↔ state.waitingResp = 0 := by
  refine ⟨Completed.waitingResp, fun idle => ⟨idle, fun started => ?_, ?_⟩⟩
  · obtain ⟨served, timers⟩ := sound.checkTimers
    have quiet := (served_checkTimers timers).idle idle
    refine ⟨{ served with gReqExpired := false, waitingResp := 1 }.gSendReqResp, ?_, rfl, rfl, ?_⟩
    · rw [geolocStep, geolocCheck, if_neg started, timers]
      exact if_pos quiet
    · exact List.getLast?_concat
  · intro events later noButton executed started reception response event member
    obtain ⟨kept, quiet⟩ := run_idle sound noButton executed idle
    have direct := stored_response started quiet response
    obtain ⟨served, checked⟩ := kept.checkTimers
    have timers := served_checkTimers checked
    have afterTimers := stored_response (timers.started ▸ started) (timers.idle quiet) response
    rcases List.mem_cons.1 member with rfl | member
    · exact direct
    · rw [List.mem_singleton] at member
      subst member
      simp only [routed, checked]
      rw [if_pos ⟨started, trivial⟩, if_pos ⟨started, trivial⟩]
      exact afterTimers

/-! ## The answers to a request -/

/-- The event is the start of a request. -/
def requests (state : GeolocState) : GeolocEvent → Bool
  | .check .button =>
      match state.checkTimers with
      | none => false
      | some served => state.started ≠ 0 && served.waitingResp = 0
  | _ => false

/-- The number of answers since the last request. -/
def answersAfter (state : GeolocState) (answers : ℕ) (event : GeolocEvent) : ℕ :=
  if state.requests event then 0
  else answers + (state.routed .neighborsResp event).length

/-- While the mote waits the counter is the number of answers, up to full buffers. -/
structure Counted (state : GeolocState) (answers : ℕ) : Prop where
  sound : state.Sound
  cnt : state.waitingResp ≠ 0 → state.neighborsResp.cnt = (answers % geolocDataLength : ℕ)

theorem Counted.received {state next : GeolocState} {answers : ℕ} {reception : Reception}
    (counted : Counted state answers) (sound : next.Sound)
    (received : Received state reception next) :
    Counted next (answers + (state.stored reception .neighborsResp).length) := by
  refine ⟨sound, fun waiting => ?_⟩
  rw [received.cnt, counted.cnt (received.waitingResp ▸ waiting)]
  push_cast
  exact Int.emod_add_emod _ _ _

theorem Counted.served {state served : GeolocState} {answers : ℕ}
    (counted : Counted state answers) (sound : served.Sound) (timers : Served state served) :
    Counted served answers := by
  refine ⟨sound, fun waiting => ?_⟩
  have goesOn : ¬ state.EndsWait := fun ends => waiting (timers.ended ends)
  obtain ⟨flag, buffer⟩ := timers.kept goesOn
  rw [buffer]
  exact counted.cnt (flag ▸ waiting)

theorem Sound.cnt_eq_zero {state : GeolocState} (sound : state.Sound)
    (idle : state.waitingResp = 0) : state.neighborsResp.cnt = 0 := by
  refine le_antisymm (not_lt.1 fun answers => ?_) sound.neighborsResp.1
  rw [sound.waiting answers] at idle
  cases idle

theorem Counted.check {state next : GeolocState} {answers : ℕ} {event : ProcessEvent}
    (counted : Counted state answers) (started : state.started ≠ 0)
    (stepped : geolocStep state (.check event) = some next) :
    Counted next (state.answersAfter answers (.check event)) := by
  have sound := sound_step counted.sound stepped
  obtain ⟨served, checked, timers, kept, rest⟩ := check_cases counted.sound started stepped
  have waits := counted.served kept timers
  cases event with
  | tcpip destport reception =>
      rw [answersAfter, if_neg (by simp [requests]), routed]
      simp only [checkEvent] at rest
      by_cases mcast : destport = gMcastPort
      · rw [if_pos mcast] at rest
        rw [if_pos ⟨started, mcast⟩, checked]
        exact waits.received sound (received_handleReception kept rest)
      · rw [if_neg mcast] at rest
        rw [if_neg fun both => mcast both.2]
        cases rest
        exact waits
  | button =>
      have same : state.requests (.check .button) = decide (served.waitingResp = 0) := by
        simp [requests, checked, started]
      rw [answersAfter, same]
      rw [checkEvent] at rest
      by_cases idle : served.waitingResp = 0
      · rw [if_pos idle] at rest
        rw [if_pos (by simpa using idle)]
        have empty := kept.cnt_eq_zero idle
        cases rest
        exact ⟨sound, fun _ => empty⟩
      · rw [if_neg idle] at rest
        rw [if_neg (by simpa using idle)]
        cases rest
        exact waits
  | other =>
      cases rest
      exact waits

theorem answersAfter_of_stopped {state : GeolocState} (stopped : state.started = 0)
    {answers : ℕ} {event : ProcessEvent} :
    state.answersAfter answers (.check event) = answers := by
  have noRequest : state.requests (.check event) = false := by
    cases event with
    | tcpip destport reception => rfl
    | button =>
        rw [requests]
        split
        · rfl
        · simp [stopped]
    | other => rfl
  have nothing : state.routed .neighborsResp (.check event) = [] := by
    cases event with
    | tcpip destport reception => simp [routed, stopped]
    | button => rfl
    | other => rfl
  rw [answersAfter, noRequest, nothing]
  rfl

theorem Counted.step {state next : GeolocState} {answers : ℕ} {event : GeolocEvent}
    (counted : Counted state answers) (stepped : geolocStep state event = some next) :
    Counted next (state.answersAfter answers event) := by
  have sound := sound_step counted.sound stepped
  cases event with
  | check event =>
      by_cases stopped : state.started = 0
      · rw [geolocStep, geolocCheck, if_pos stopped] at stepped
        cases stepped
        rw [answersAfter_of_stopped stopped]
        exact counted
      · exact counted.check stopped stepped
  | receive reception =>
      exact counted.received sound (received_handleReception counted.sound stepped)
  | expire timer =>
      cases timer <;>
        · cases stepped
          exact ⟨sound, counted.cnt⟩
  | geolocStart =>
      cases stepped
      exact ⟨sound, counted.cnt⟩
  | geolocStop =>
      cases stepped
      exact ⟨sound, counted.cnt⟩

/-! ## Every request completes, or not -/

/-- After the timers, a request whose time has expired is over exactly if there are
answers that no full buffer has taken. -/
theorem Counted.ends_iff {state served : GeolocState} {answers : ℕ}
    (counted : Counted state answers) (timers : Served state served) :
    (state.gReqExpired = true → served.waitingResp = 0) ↔
      (state.gReqExpired = true → state.waitingResp ≠ 0 → ¬ geolocDataLength ∣ answers) := by
  by_cases idle : state.waitingResp = 0
  · exact iff_of_true (fun _ => timers.idle idle) fun _ waiting => absurd idle waiting
  · have cnt := counted.cnt idle
    have full : 0 < state.neighborsResp.cnt ↔ ¬ geolocDataLength ∣ answers := by
      rw [cnt, Nat.dvd_iff_mod_eq_zero, Int.natCast_pos, Nat.pos_iff_ne_zero]
    constructor
    · intro cleared expired _
      by_contra none
      have goesOn : ¬ state.EndsWait := fun ends => full.1 ends.1 none
      exact idle ((timers.kept goesOn).1 ▸ cleared expired)
    · intro some_ expired
      exact timers.ended ⟨full.2 (some_ expired idle), expired⟩

/-- `geoloc_check` with the timer expired ends the request exactly if there are answers
that no full buffer has taken. -/
theorem Counted.check_completed_iff {state next : GeolocState} {answers : ℕ}
    {event : ProcessEvent} (counted : Counted state answers) (started : state.started ≠ 0)
    (stepped : geolocStep state (.check event) = some next) :
    (next.gReqExpired = true → next.Completed) ↔
      (state.gReqExpired = true → state.waitingResp ≠ 0 → ¬ geolocDataLength ∣ answers) := by
  rw [completed_iff (sound_step counted.sound stepped)]
  obtain ⟨served, checked, timers, kept, rest⟩ := check_cases counted.sound started stepped
  rw [← counted.ends_iff timers, ← timers.gReqExpired]
  cases event with
  | tcpip destport reception =>
      simp only [checkEvent] at rest
      split at rest
      · have received := received_handleReception kept rest
        rw [received.gReqExpired, received.waitingResp]
      · cases rest
        exact Iff.rfl
  | button =>
      rw [checkEvent] at rest
      by_cases idle : served.waitingResp = 0
      · rw [if_pos idle] at rest
        cases rest
        refine iff_of_true ?_ fun _ => idle
        intro expired
        cases expired
      · rw [if_neg idle] at rest
        cases rest
        exact Iff.rfl
  | other =>
      cases rest
      exact Iff.rfl

end GeolocState

/-- A step with the number of answers since the last request. -/
def countedStep (counted : GeolocState × ℕ) (event : GeolocEvent) : Option (GeolocState × ℕ) :=
  (geolocStep counted.1 event).map fun next =>
    (next, counted.1.answersAfter counted.2 event)

theorem countedStep_map (counted : GeolocState × ℕ) (event : GeolocEvent) :
    (countedStep counted event).map Prod.fst = geolocStep counted.1 event := by
  rw [countedStep, Option.map_map]
  exact Option.map_id_apply

/-- In every state after `geoloc_check` the request is over if its timer has expired. -/
def AlwaysCompletes (events : List GeolocEvent) : Prop :=
  ∀ before event, before ++ [.check event] <+: events →
    ∀ state next, run geolocStep {} before = some state → state.started ≠ 0 →
      geolocStep state (.check event) = some next → next.gReqExpired = true → next.Completed

/-- Whenever `geoloc_check` runs with the timer of a request expired, the number of answers
is no multiple of the length of the buffer. -/
def AlwaysAnswered (events : List GeolocEvent) : Prop :=
  ∀ before event, before ++ [.check event] <+: events →
    ∀ state answers, run countedStep ({}, 0) before = some (state, answers) →
      state.started ≠ 0 → state.gReqExpired = true → state.waitingResp ≠ 0 →
        ¬ geolocDataLength ∣ answers

/-- Every run can be counted. -/
theorem exists_counted (events : List GeolocEvent) :
    ∃ state answers, run countedStep ({}, 0) events = some (state, answers) ∧
      run geolocStep {} events = some state ∧ GeolocState.Counted state answers := by
  have enabled : ∀ (counted : GeolocState × ℕ) event,
      GeolocState.Counted counted.1 counted.2 →
        ∃ next, countedStep counted event = some next ∧ GeolocState.Counted next.1 next.2 := by
    intro counted event holds
    obtain ⟨next, stepped, _⟩ := holds.sound.step event
    refine ⟨(next, counted.1.answersAfter counted.2 event), ?_, holds.step stepped⟩
    rw [countedStep, stepped]
    rfl
  let start : GeolocState × ℕ := ({}, 0)
  have initially : GeolocState.Counted start.1 start.2 :=
    ⟨geolocSound_initially, fun waiting => absurd rfl waiting⟩
  obtain ⟨⟨state, answers⟩, executed, counted⟩ :=
    run_total (fun counted : GeolocState × ℕ => GeolocState.Counted counted.1 counted.2)
      enabled initially events
  have plain := run_map Prod.fst countedStep_map start events
  rw [executed] at plain
  exact ⟨state, answers, executed, plain.symm, counted⟩

/-- Requests complete in exactly the runs in which none of them is left with full buffers
only. -/
theorem alwaysCompletes_iff (events : List GeolocEvent) :
    AlwaysCompletes events ↔ AlwaysAnswered events := by
  constructor
  · intro completes before event shorter state answers executed started expired waiting
    obtain ⟨other, count, countedRun, plain, counted⟩ := exists_counted before
    rw [executed] at countedRun
    cases countedRun
    obtain ⟨next, stepped, _⟩ := counted.sound.step (.check event)
    exact (counted.check_completed_iff started stepped).1
      (completes before event shorter state next plain started stepped) expired waiting
  · intro answered before event shorter state next executed started stepped
    obtain ⟨other, answers, countedRun, plain, counted⟩ := exists_counted before
    rw [executed] at plain
    cases plain
    exact (counted.check_completed_iff started stepped).2
      (answered before event shorter state answers countedRun started)

/-- Nobody answers, and the mote still waits when the timer has expired. -/
theorem not_alwaysCompletes :
    ¬ AlwaysCompletes [.geolocStart, .check .button, .expire .gReq, .check .other] := by
  intro completes
  have ended := completes [.geolocStart, .check .button, .expire .gReq] .other List.prefix_rfl
    _ _ rfl (by decide) rfl rfl
  exact absurd ended.waitingResp (by decide)

end IotLab.Firmware
