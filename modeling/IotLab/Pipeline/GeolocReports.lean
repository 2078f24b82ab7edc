import IotLab.Firmware.GeolocPackets
import IotLab.Firmware.NeighbourhoodRuns
import IotLab.Gateway.Router
import IotLab.Pipeline.GeolocMessage
import IotLab.Server.IngestErrors
import Mathlib.Data.List.Flatten

/-!
# From the neighbourhood to the table of the server

The motes measure each other and send their samples to the sink, which prints them; the gateway
posts the lines, and the server takes the posts one after another, in any order.  Every row of the
table goes back to a broadcast that the one mote of the row has heard of the other one.  What the
server takes while the service of the geolocation is disabled, as it is at first, is dropped.
-/

namespace IotLab.Pipeline

open IotLab.Library
open IotLab.Firmware
open IotLab.Gateway
open IotLab.Server

/-! ## The line of a message -/

/-- `n_node_id` of a mote, from `u8[14]` and `u8[15]` of its address. -/
def nodeIdOf (address : Byte × Byte) : Word :=
  ⟨address.2.val + 256 * address.1.val, word_lt _ _⟩

/-- The address of a mote at the server. -/
def macOf (address : Byte × Byte) : Server.Text := wordAddress (nodeIdOf address)

/-- The server takes the geolocation lines of the motes: there is a type for them, none of its
filters reads decimal numbers, and no other mote, such as a sink, has the address of one of
them. -/
structure AcceptsSampleLines {ι : Type} (address : ι → Byte × Byte) (store : Store) : Prop where
  type : ∃ type, store.findType 10 = .ok type ∧ type.minDataNumber ≤ 4 ∧
    type.streamName = "GeolocStream".toList
  filters : ∀ filter ∈ store.filters.find 10,
    strategyNamed filter.className ≠ some .batteryRemaining
  free : ∀ mote, store.Accepts (macOf (address mote))

/-- The text that the gateway posts for a message. -/
def messageText (time : ReceptionTime) (nodeId : Word) (data : List GeolocData) : Server.Text :=
  joinBlank ((time.value :: geolocLine nodeId data).map printInt)

/-- The rows of a message. -/
def messageRows (time : ReceptionTime) (nodeId : Word) (data : List GeolocData) :
    List GeolocationData :=
  data.map fun sample =>
    { src := wordAddress nodeId
      dest := wordAddress sample.srcId
      rssi := sample.rssi
      timestamp := time.value }

section Line

variable {ι : Type} {address : ι → Byte × Byte} {store : Store} {nodeId : Word}
  {data : List GeolocData}

/-- The stream of a message. -/
theorem newGeolocStream_message (accepts : AcceptsSampleLines address store)
    (message : IsMessage data) (time : ReceptionTime) (node : store.Accepts (wordAddress nodeId))
    (neighbours : ∀ sample ∈ data, store.Accepts (wordAddress sample.srcId)) :
    ∃ stream, newGeolocStream store (messageText time nodeId data) = (store, .ok stream) ∧
      (stream.convertGeoloc store .doubleDefault).2 = .ok (messageRows time nodeId data) := by
  obtain ⟨type, registered, short, named⟩ := accepts.type
  have ten : type.id = 10 := by
    simp only [Store.findType] at registered
    split at registered
    · cases registered
    · next found =>
        cases registered
        simpa using List.find?_some found
  obtain ⟨rest, split⟩ : ∃ rest, geolocLine nodeId data = 10 :: rest := ⟨_, rfl⟩
  have fits := fitsSigned_geolocLine nodeId message.few
  refine ⟨⟨"GeolocStream".toList, time.value, 0 :: geolocLine nodeId data, type⟩, ?_, ?_⟩
  · rw [messageText, newGeolocStream, split,
      readStream_joinBlank _ _ store time.fitsSigned (split ▸ fits), registered]
    simp [Except.map]
  · have valid : InputStream.checkValidity
        ⟨"GeolocStream".toList, time.value, 0 :: geolocLine nodeId data, type⟩ = .ok () := by
      rw [InputStream.checkValidity, if_pos]
      refine ⟨?_, named⟩
      simp only [List.length_cons, length_geolocLine]
      omega
    have decimals : ∀ filter ∈ liveFilters (store.filters.find 10),
        strategyNamed filter.className ≠ some .batteryRemaining :=
      fun filter live => accepts.filters filter (List.takeWhile_subset _ live)
    have rows := (postConvertGeoloc_geolocLine nodeId message.few "GeolocStream".toList
      time.value type store).2 ⟨node, neighbours⟩
    simp only [InputStream.convertGeoloc, InputStream.convertValues, valid, ten]
    rcases convertLoop_cases (0 :: geolocLine nodeId data) (store.filters.sorted_find 10)
        (by decide : Strategy.doubleDefault ≠ .batteryRemaining) with
      ⟨_, filter, live, battery, _⟩ | ⟨_, _, filter, live, battery, _⟩ | ⟨_, _, values, outcome, _⟩
    · exact absurd battery (decimals filter live)
    · exact absurd battery (decimals filter live)
    · simp only [bind, Except.bind, outcome]
      exact rows

omit nodeId data in
/-- The server goes on to take the lines when it knows more senders. -/
theorem AcceptsSampleLines.withSenders (accepts : AcceptsSampleLines address store)
    (addresses : List Server.Text) :
    AcceptsSampleLines address (addresses.foldl Store.withSender store) := by
  induction addresses generalizing store with
  | nil => exact accepts
  | cons other rest ih =>
      refine ih ?_
      have free : ∀ mote, (store.withSender other).Accepts (macOf (address mote)) := by
        intro mote taken
        rw [withSender_otherMotes] at taken
        exact subset_withSender store other (accepts.free mote taken)
      rw [sendersOnly_withSender store other] at free ⊢
      exact ⟨accepts.type, accepts.filters, free⟩

/-- The server stores the rows of a message of motes whose addresses it accepts. -/
theorem ingestGeoloc_message (accepts : AcceptsSampleLines address store)
    (message : IsMessage data) (time : ReceptionTime)
    (node : store.Accepts (wordAddress nodeId))
    (neighbours : ∀ sample ∈ data, store.Accepts (wordAddress sample.srcId)) :
    ingestGeoloc store (messageText time nodeId data) = .ok (messageRows time nodeId data) ∧
      AcceptsSampleLines address (store.addGeoloc (messageText time nodeId data)).1 := by
  obtain ⟨stream, built, converted⟩ : ∃ stream,
      newGeolocStream store (messageText time nodeId data) = (store, .ok stream) ∧ _ :=
    newGeolocStream_message accepts message time node neighbours
  refine ⟨?_, ?_⟩
  · simp only [ingestGeoloc, built, bind, Except.bind, converted]
  · obtain ⟨first, rest, split⟩ := List.exists_cons_of_ne_nil message.nonempty
    have senders := convertGeoloc_senders (split ▸ converted)
    simp only [Store.addGeoloc, built, converted]
    rw [senders]
    exact accepts.withSenders _

end Line

/-! ## The site -/

/-- The path of `GeolocResource.add`. -/
def geolocUrl : Server.Text := "/rest/geo".toList

/-- The post that the thread of a line sends to `GeolocResource.add`. -/
def geolocPost (router : Router) (systemTime : ℤ) (line : Server.Text) : Option Server.Text := do
  let request ← router.forwardPost (← handleIncomingData systemTime line)
  if request.url = geolocUrl then some request.data else none

/-- The motes, their messages to the sink, which is `none`, the posts under way, the tables of the
server and the posts that it has dropped. -/
structure GeolocSite (ι : Type) where
  near : Neighbourhood ι := {}
  packets : Ether (Option ι) (List GeolocData) := .silent
  inFlight : List Server.Text := []
  /-- The service `GEOLOCATION` of the manager. -/
  enabled : Bool := false
  store : Store
  rows : List GeolocationData := []
  dropped : List Server.Text := []

inductive GeolocSiteAction (ι : Type) where
  | near (action : NeighbourhoodAction ι)
  /-- The sink receives the message at a position, and its gateway reads what is printed. -/
  | receive (position : ℕ) (stack beyond : Memory) (ttl curHopLimit : Byte) (clock : ℕ)
      (time : ReceptionTime)
  /-- `GeolocationManager.enable` and `GeolocationManager.disable` of the service. -/
  | service (enabled : Bool)
  /-- `GeolocResource.add` handles one of the posts to its end. -/
  | take (index : ℕ)

section Steps

variable {ι : Type} [DecidableEq ι] (router : Router) (address : ι → Byte × Byte)

/-- One step of a site.  A failed post has no result. -/
def geolocSiteStep (site : GeolocSite ι) : GeolocSiteAction ι → Option (GeolocSite ι)
  | .near action =>
      (neighbourhoodStep address site.near action).map fun next => { site with
        near := next
        packets := site.packets.send (some action.mote)
          (GeolocState.newMessages (site.near.mote action.mote) (next.mote action.mote)) }
  | .receive position stack beyond ttl curHopLimit clock time =>
      match there : site.packets.sent[position]? with
      | some (some mote, data) =>
          if fresh : (position, none) ∉ site.packets.heard then
            let packet := geolocPacket (nodeIdOf (address mote)) data stack beyond (address mote).2
              (address mote).1 ttl
            let line := readLine (tcpipHandler packet curHopLimit clock).printed
            some { site with
              packets := site.packets.hear position none (some mote, data) there
                (Option.some_ne_none _) fresh
              inFlight := site.inFlight ++ (geolocPost router time.value line).toList }
          else none
      | _ => none
  | .service enabled => some { site with enabled }
  | .take index =>
      match site.inFlight[index]? with
      | none => none
      | some post =>
          if site.enabled then
            match ingestGeoloc site.store post with
            | .error _ => none
            | .ok rows =>
                some { site with
                  inFlight := site.inFlight.eraseIdx index
                  store := (site.store.addGeoloc post).1
                  rows := site.rows ++ rows }
          else
            some { site with
              inFlight := site.inFlight.eraseIdx index
              dropped := site.dropped ++ [post] }

end Steps

/-- The two motes of a row and the strength of the signal. -/
def triple (row : GeolocationData) : Server.Text × Server.Text × ℤ :=
  (row.src, row.dest, row.rssi)

section Rows

variable {ι : Type} (address : ι → Byte × Byte)

/-- What the row of a sample says. -/
def sampleRow (sampled : ι × GeolocData) : Server.Text × Server.Text × ℤ :=
  (macOf (address sampled.1), wordAddress sampled.2.srcId, sampled.2.rssi)

/-- What the row of a hearing says. -/
def hearingRow (hearing : Hearing ι) : Server.Text × Server.Text × ℤ :=
  (macOf (address hearing.receiver), macOf (address hearing.source), (hearing.sample address).rssi)

/-- The samples of a message with their mote. -/
def samplesOf (sending : Option ι × List GeolocData) : List (ι × GeolocData) :=
  match sending.1 with
  | none => []
  | some mote => sending.2.map fun sample => (mote, sample)

end Rows

/-- The gateways post the geolocation lines to `GeolocResource.add`. -/
structure ForwardsSamples (router : Router) : Prop where
  typeOffset : router.typeOffset = 0
  allowed : 10 ∈ router.allowForwarding
  url : router.url 10 = geolocUrl

section Posts

variable {router : Router}

/-- The line of a message is posted. -/
theorem post_geolocPacket (forwards : ForwardsSamples router) (nodeId : Word)
    {data : List GeolocData} (message : IsMessage data) (stack beyond : Memory)
    (srcLow srcHigh ttl curHopLimit : Byte) (clock : ℕ) (time : ReceptionTime) :
    geolocPost router time.value (readLine (tcpipHandler
        (geolocPacket nodeId data stack beyond srcLow srcHigh ttl) curHopLimit clock).printed) =
      some (messageText time nodeId data) := by
  have printed : (tcpipHandler (geolocPacket nodeId data stack beyond srcLow srcHigh ttl)
      curHopLimit clock).printed = joinBlank ((geolocLine nodeId data).map printInt) ++ ['\n'] :=
    tcpipHandlerGeoloc_printed
      ⟨(length_geolocDataSend nodeId stack message.few).symm, beyond, rfl⟩ message.few
  obtain ⟨rest, split⟩ : ∃ rest, geolocLine nodeId data = 10 :: rest := ⟨_, rfl⟩
  have fits := fitsSigned_geolocLine nodeId message.few
  rw [split] at fits
  have late := time.late
  have parsed : handleIncomingData time.value
      (readLine (joinBlank ((10 :: rest).map printInt) ++ ['\n'])) =
        some ⟨10 :: rest, time.value⟩ := by
    rw [readLine_joinBlank, handleIncomingData_joinBlank time.value fits (by decide)]
  rw [printed, split, geolocPost, parsed]
  simp only [Option.bind_eq_bind, Option.bind_some, Router.forwardPost, SensorData.getValue,
    forwards.typeOffset, List.getElem?_cons_zero, Router.sendPost, if_pos forwards.allowed,
    forwards.url, if_true]
  rw [toText_of_pos (by omega), messageText, split]

end Posts

/-! ## One step of the site -/

/-- The post is that of a message. -/
def IsPost {ι : Type} (address : ι → Byte × Byte) (sending : Option ι × List GeolocData)
    (post : Server.Text) : Prop :=
  ∃ time mote, sending.1 = some mote ∧
    post = messageText time (nodeIdOf (address mote)) sending.2

/-- The messages that have reached the sink are in the table, dropped or under way. -/
structure Stored {ι : Type} [DecidableEq ι] (address : ι → Byte × Byte) (site : GeolocSite ι)
    (taken lost waiting : List (Option ι × List GeolocData)) : Prop where
  reached : ∃ actions, run (neighbourhoodStep address) {} actions = some site.near
  accepts : AcceptsSampleLines address site.store
  sent : ∀ mote, ((site.packets.sent.filter fun sending => sending.1 = some mote).map
    Prod.snd).Perm (site.near.mote mote).messages
  messages : ∀ sending ∈ site.packets.sent, sending.1 ≠ none ∧ IsMessage sending.2
  posts : List.Forall₂ (IsPost address) waiting site.inFlight
  dropped : List.Forall₂ (IsPost address) lost site.dropped
  once : (taken ++ lost ++ waiting).Perm (site.packets.heardBy none)
  rows : site.rows.map triple = (taken.flatMap samplesOf).map (sampleRow address)

section Steps

variable {ι : Type} [DecidableEq ι] {router : Router} {address : ι → Byte × Byte}
  {store : Store} {site next : GeolocSite ι}
  {taken lost waiting : List (Option ι × List GeolocData)}

theorem stored_start (accepts : AcceptsSampleLines address store) :
    Stored address ({ store } : GeolocSite ι) [] [] [] where
  reached := ⟨[], rfl⟩
  accepts := accepts
  sent _ := List.Perm.refl _
  messages := List.forall_mem_nil _
  posts := .nil
  dropped := .nil
  once := List.Perm.refl _
  rows := rfl

/-- The motes take a step. -/
theorem Stored.near (stored : Stored address site taken lost waiting)
    {action : NeighbourhoodAction ι}
    (stepped : geolocSiteStep router address site (.near action) = some next) :
    Stored address next taken lost waiting := by
  obtain ⟨near, moved, rfl⟩ := Option.map_eq_some_iff.1 stepped
  obtain ⟨⟨event, handled⟩, others⟩ := neighbourhoodStep_mote moved
  have sends := GeolocState.geolocStep_sends handled
  obtain ⟨actions, executed⟩ := stored.reached
  constructor
  · refine ⟨actions ++ [action], ?_⟩
    rw [run_append, executed, Option.bind_some, run, moved]
    rfl
  · exact stored.accepts
  · intro mote
    rw [Ether.sent_send, List.filter_append, List.map_append]
    by_cases acts : mote = action.mote
    · subst acts
      refine ((stored.sent _).append_right _).trans ?_
      refine (List.Perm.of_eq ?_).trans sends.messages.symm
      rw [List.filter_map, List.map_map]
      simp [Function.comp_def]
    · rw [others mote acts, List.filter_map]
      simpa [Function.comp_def, Ne.symm acts] using stored.sent mote
  · intro sending member
    rcases List.mem_append.1 member with earlier | new
    · exact stored.messages sending earlier
    · obtain ⟨data, inside, rfl⟩ := List.mem_map.1 new
      exact ⟨Option.some_ne_none _, sends.isMessage data inside⟩
  · exact stored.posts
  · exact stored.dropped
  · rw [Ether.heardBy_send]
    exact stored.once
  · exact stored.rows

/-- The sink receives a message. -/
theorem Stored.receive (forwards : ForwardsSamples router)
    (stored : Stored address site taken lost waiting) {position : ℕ} {stack beyond : Memory}
    {ttl curHopLimit : Byte} {clock : ℕ} {time : ReceptionTime}
    (stepped : geolocSiteStep router address site
      (.receive position stack beyond ttl curHopLimit clock time) = some next) :
    ∃ later, Stored address next taken lost later := by
  simp only [geolocSiteStep] at stepped
  split at stepped
  · next mote data there =>
      split at stepped
      · next fresh =>
          have message := (stored.messages _ (List.mem_of_getElem? there)).2
          rw [post_geolocPacket forwards (nodeIdOf (address mote)) message] at stepped
          cases stepped
          refine ⟨waiting ++ [(some mote, data)], stored.reached, stored.accepts, stored.sent,
            stored.messages, ?_, stored.dropped, ?_, stored.rows⟩
          · exact List.rel_append stored.posts (.cons ⟨time, mote, rfl, rfl⟩ .nil)
          · rw [Ether.heardBy_hear, if_pos rfl, ← List.append_assoc]
            exact stored.once.append_right _
      · cases stepped
  · cases stepped

theorem messages_subperm (state : GeolocState) : state.messages.flatten.Subperm state.samples := by
  rw [GeolocState.messages, List.flatten_append, GeolocState.samples, Batches.contents,
    Batches.contents]
  have grouped := perm_append_append state.gdata.batches.handed.flatten
    state.gdata.batches.pending state.neighborsResp.batches.handed.flatten
    state.neighborsResp.batches.pending
  exact (List.sublist_append_left _ _).subperm.trans grouped.symm.subperm

/-- The samples of one mote are those of its messages. -/
theorem samplesOf_mote (sendings : List (Option ι × List GeolocData)) (mote : ι) :
    ((sendings.flatMap samplesOf).filter fun sampled => sampled.1 = mote).map Prod.snd =
      ((sendings.filter fun sending => sending.1 = some mote).map Prod.snd).flatten := by
  induction sendings with
  | nil => rfl
  | cons first rest ih =>
      obtain ⟨source, data⟩ := first
      rw [List.flatMap_cons, List.filter_append, List.map_append, ih, List.filter_cons]
      cases source with
      | none => rfl
      | some other =>
          by_cases same : other = mote
          · simp [samplesOf, same, List.filter_map, Function.comp_def]
          · simp [samplesOf, same, List.filter_map, Function.comp_def]

/-- What the motes have sent goes back to hearings. -/
theorem Stored.heard (stored : Stored address site taken lost waiting) :
    (site.packets.sent.flatMap samplesOf).Subperm
      ((site.near.hearings.filter Hearing.counts).map fun hearing =>
        (hearing.receiver, hearing.sample address)) := by
  obtain ⟨actions, executed⟩ := stored.reached
  refine subperm_of_keys fun mote => ?_
  have measured : (((site.near.hearings.filter Hearing.counts).map fun hearing =>
        (hearing.receiver, hearing.sample address)).filter fun pair => pair.1 = mote).map Prod.snd =
      site.near.measured address mote := by
    rw [List.filter_map, List.map_map, List.filter_filter, Neighbourhood.measured,
      Neighbourhood.hearingsOf, List.filter_filter]
    refine congrArg (List.map _) (List.filter_congr fun hearing _ => ?_)
    exact Bool.and_comm _ _
  rw [samplesOf_mote, measured]
  exact ((stored.sent mote).flatten.subperm.trans (messages_subperm _)).trans
    ((measures_run executed).1.samples mote).subperm

theorem Stored.named (stored : Stored address site taken lost waiting) {mote : ι}
    {data : List GeolocData} (sent : (some mote, data) ∈ site.packets.sent) :
    ∀ sample ∈ data, ∃ other, sample.srcId = nodeIdOf (address other) := by
  intro sample inside
  obtain ⟨actions, executed⟩ := stored.reached
  have measures := (measures_run executed).1.samples mote
  have message : data ∈ (site.near.mote mote).messages :=
    (stored.sent mote).mem_iff.1 (List.mem_map.2 ⟨_, List.mem_filter.2 ⟨sent, by simp⟩, rfl⟩)
  have measured := measures.mem_iff.1
    ((messages_subperm _).subset (List.mem_flatten.2 ⟨data, message, inside⟩))
  obtain ⟨hearing, _, rfl⟩ := List.mem_map.1 measured
  exact ⟨hearing.source, rfl⟩

/-- The server takes any of the posts, and none of them fails. -/
theorem Stored.take (stored : Stored address site taken lost waiting) {index : ℕ}
    (inside : index < site.inFlight.length) :
    ∃ next, geolocSiteStep router address site (.take index) = some next ∧
      ∃ later fewer others, Stored address next later fewer others := by
  have waits : index < waiting.length := stored.posts.length_eq ▸ inside
  have post : IsPost address waiting[index] site.inFlight[index] := stored.posts.get waits inside
  have rest : List.Forall₂ (IsPost address) (waiting.eraseIdx index)
      (site.inFlight.eraseIdx index) := by
    rw [List.eraseIdx_eq_take_drop_succ, List.eraseIdx_eq_take_drop_succ]
    exact List.rel_append (List.forall₂_take _ stored.posts) (List.forall₂_drop _ stored.posts)
  have moved := (List.getElem_cons_eraseIdx_perm waits).append_left (taken ++ lost)
  by_cases enabled : site.enabled
  · obtain ⟨time, mote, source, post⟩ := post
    have known : waiting[index] ∈ site.packets.sent :=
      (List.mem_filter.1 ((site.packets.heardBy_subperm none).subset (stored.once.mem_iff.1
        (List.mem_append_right _ (List.getElem_mem waits))))).1
    have message := (stored.messages _ known).2
    have whole : waiting[index] = (some mote, waiting[index].2) := Prod.ext source rfl
    have named := stored.named (whole ▸ known)
    obtain ⟨ingested, accepts⟩ := ingestGeoloc_message stored.accepts message time
      (stored.accepts.free mote) fun sample member => by
        obtain ⟨other, same⟩ := named sample member
        rw [same]
        exact stored.accepts.free other
    refine ⟨{ site with
      inFlight := site.inFlight.eraseIdx index
      store := (site.store.addGeoloc
        (messageText time (nodeIdOf (address mote)) waiting[index].2)).1
      rows := site.rows ++ messageRows time (nodeIdOf (address mote)) waiting[index].2 }, ?_,
      taken ++ [waiting[index]], lost, waiting.eraseIdx index, ?_⟩
    · simp only [geolocSiteStep, List.getElem?_eq_getElem inside, post, enabled, if_true, ingested]
    · refine ⟨stored.reached, accepts, stored.sent, stored.messages, rest, stored.dropped, ?_, ?_⟩
      · refine List.Perm.trans ?_ (moved.trans stored.once)
        simp only [List.append_assoc, List.singleton_append]
        exact List.perm_middle.symm.append_left taken
      · rw [List.map_append, stored.rows, List.flatMap_append, List.map_append,
          List.flatMap_singleton, whole]
        simp only [samplesOf, List.map_map, messageRows]
        rfl
  · refine ⟨{ site with
      inFlight := site.inFlight.eraseIdx index
      dropped := site.dropped ++ [site.inFlight[index]] }, ?_, taken, lost ++ [waiting[index]],
      waiting.eraseIdx index, ?_⟩
    · simp only [geolocSiteStep, List.getElem?_eq_getElem inside, if_neg enabled]
    · refine ⟨stored.reached, stored.accepts, stored.sent, stored.messages, rest,
        List.rel_append stored.dropped (.cons post .nil), ?_, stored.rows⟩
      rw [← List.append_assoc, List.append_assoc, List.singleton_append]
      exact moved.trans stored.once

theorem Stored.step (forwards : ForwardsSamples router)
    (stored : Stored address site taken lost waiting) {action : GeolocSiteAction ι}
    (stepped : geolocSiteStep router address site action = some next) :
    ∃ later fewer others, Stored address next later fewer others := by
  cases action with
  | near action => exact ⟨taken, lost, waiting, stored.near stepped⟩
  | receive position stack beyond ttl curHopLimit clock time =>
      exact ⟨taken, lost, stored.receive forwards stepped⟩
  | service enabled =>
      cases stepped
      exact ⟨taken, lost, waiting, stored.reached, stored.accepts, stored.sent, stored.messages,
        stored.posts, stored.dropped, stored.once, stored.rows⟩
  | take index =>
      have inside : index < site.inFlight.length := by
        by_contra outside
        rw [geolocSiteStep, List.getElem?_eq_none (not_lt.1 outside)] at stepped
        cases stepped
      obtain ⟨other, takes, holds⟩ : ∃ other,
          geolocSiteStep router address site (.take index) = some other ∧ _ := stored.take inside
      cases takes.symm.trans stepped
      exact holds

/-- Every row of the table goes back to a hearing of its own: the mote `src` has heard a broadcast
of the mote `dest` with this strength.  No post under way fails, and once all are taken, each
message that has reached the sink is in the table with all of its samples, or was taken while the
service was disabled. -/
theorem geolocation_rows_heard (forwards : ForwardsSamples router)
    (accepts : AcceptsSampleLines address store) {actions : List (GeolocSiteAction ι)}
    {final : GeolocSite ι}
    (executed : run (geolocSiteStep router address) { store } actions = some final) :
    (final.rows.map triple).Subperm
        ((final.near.hearings.filter Hearing.counts).map (hearingRow address)) ∧
      (∀ index < final.inFlight.length,
        ∃ next, geolocSiteStep router address final (.take index) = some next) ∧
      (final.inFlight = [] → ∃ taken lost,
        (taken ++ lost).Perm (final.packets.heardBy none) ∧
          final.rows.map triple = (taken.flatMap samplesOf).map (sampleRow address) ∧
          List.Forall₂ (IsPost address) lost final.dropped) := by
  obtain ⟨taken, lost, waiting, stored⟩ := run_preserves
    (fun site => ∃ taken lost waiting, Stored address site taken lost waiting)
    (fun _ _ _ ⟨_, _, _, stored⟩ stepped => stored.step forwards stepped)
    ⟨[], [], [], stored_start accepts⟩ executed
  refine ⟨?_, fun index inside => ?_, fun empty => ?_⟩
  · have received : (taken.flatMap samplesOf).Subperm (final.packets.sent.flatMap samplesOf) := by
      have part : taken.Subperm final.packets.sent :=
        ((List.sublist_append_left _ _).trans (List.sublist_append_left _ _)).subperm.trans
          (stored.once.subperm.trans
            ((final.packets.heardBy_subperm none).trans List.filter_sublist.subperm))
      obtain ⟨ordered, perm, inside⟩ := part
      exact ⟨_, perm.flatMap_right _, inside.flatMap _⟩
    obtain ⟨ordered, perm, inside⟩ := received.trans stored.heard
    have rows := inside.map (sampleRow address)
    rw [List.map_map] at rows
    rw [stored.rows]
    exact ⟨_, perm.map _, rows⟩
  · obtain ⟨next, takes, _⟩ := stored.take inside
    exact ⟨next, takes⟩
  · have none : waiting = [] :=
      List.length_eq_zero_iff.1 (stored.posts.length_eq.trans (by simp [empty]))
    have once := stored.once
    rw [none, List.append_nil] at once
    exact ⟨taken, lost, once, stored.rows, stored.dropped⟩

end Steps

def geolocRouter : Router where
  typeOffset := 0
  allowForwarding := [0, 1, 10]
  url _ := geolocUrl

/-- The time for the answers is over. -/
def answered : List (NeighbourhoodAction Bool) :=
  askedNeighbour ++ [.own false (.expire .gReq), .own false (.check .other)]

/-- The answer of the neighbour travels to the server, which has the service enabled. -/
def answerAtServer : List (GeolocSiteAction Bool) :=
  answered.map .near ++
    [.receive 0 (fun _ => 7) (fun _ => 0) 64 64 0 ⟨1400000000000, by decide, by decide⟩,
      .service true, .take 0]

/-- A server with the type of the geolocation lines and a sink. -/
def answerStore : Store :=
  { geolocStore ⟨[], unique_noFilters⟩ with otherMotes := ["240.0".toList] }

theorem forwardsSamples_geolocRouter : ForwardsSamples geolocRouter :=
  ⟨rfl, by decide, rfl⟩

theorem accepts_answerStore : AcceptsSampleLines twoAddresses answerStore where
  type := ⟨_, rfl, by decide, rfl⟩
  filters filter member := by
    simp [answerStore, geolocStore, FilterTable.find] at member
  free := by decide

theorem geolocation_rows_heard_answer :
    ∃ final, run (geolocSiteStep geolocRouter twoAddresses)
        { store := answerStore } answerAtServer = some final ∧
      final.rows.map triple = [("2.0".toList, "1.0".toList, -85)] ∧
      (final.rows.map triple).Subperm
        ((final.near.hearings.filter Hearing.counts).map (hearingRow twoAddresses)) := by
  have stores : (run (geolocSiteStep geolocRouter twoAddresses)
      { store := answerStore } answerAtServer).map (fun final => final.rows.map triple) =
        some [("2.0".toList, "1.0".toList, -85)] := by decide +kernel
  obtain ⟨final, executed, rows⟩ := Option.map_eq_some_iff.1 stores
  exact ⟨final, executed, rows, (geolocation_rows_heard forwardsSamples_geolocRouter
    accepts_answerStore executed).1⟩

end IotLab.Pipeline
