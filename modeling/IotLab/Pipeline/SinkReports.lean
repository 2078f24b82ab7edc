import IotLab.Firmware.Sink
import IotLab.Firmware.SinkCommand
import IotLab.Gateway.Router
import IotLab.Library.Runs
import IotLab.Pipeline.Reception
import IotLab.Routing.Repairs
import IotLab.Server.SinkTable
import Mathlib.Data.List.Perm.Basic

/-!
# The versions of the roots at the server

A sink prints its address and the version of its DODAG when a command asks for them.  The
gateway posts the line, and leaves the messages of the firmware alone.  The posts of several
lines are under way at once; the server takes them in any order, but one after another.
-/

namespace IotLab.Pipeline

open IotLab.Library
open IotLab.Firmware
open IotLab.Gateway
open IotLab.Routing
open IotLab.Server

/-! ## The sink -/

/-- A line for the sink: the driver of the serial port ends it at a line break and drops the
carriage returns. -/
structure SerialText where
  text : Server.Text
  unbroken : ∀ char ∈ text, char ≠ '\n' ∧ char ≠ '\r'

/-- The bytes 15 and 14 of the address of a sink. -/
abbrev SinkId := Byte × Byte

/-- The number that a sink prints for its address. -/
def SinkId.number (id : SinkId) : ℕ := id.1.val + 256 * id.2.val

/-- What a call of `printf` on the sink prints. -/
inductive SinkPrint where
  | message (text : Server.Text)
  /-- `print_sink_id_dvn` with the version of the DODAG. -/
  | sinkIdDvn (version : ℕ)

/-- The text that is printed. -/
def SinkPrint.text (id : SinkId) : SinkPrint → Server.Text
  | .message text => text
  | .sinkIdDvn version =>
      '1' :: ' ' :: printUnsigned id.number ++ ' ' :: printInt version ++ ['\n']

/-- A sink: the version of its commands and that of its DODAG, of which it is the root. -/
structure SinkMote where
  command : SinkState := {}
  version : ℕ := lollipopInit

namespace SinkMote

/-- A call out of `command_sink_check`, and what it prints. -/
def call (sink : SinkMote) : SinkCall → SinkMote × List SinkPrint
  | .printf text => (sink, [.message text])
  | .printSinkIdDvn => (sink, [.sinkIdDvn sink.version])
  | .rplRepairRoot => ({ sink with version := lollipopIncrement sink.version }, [])
  | .strdup _ | .free | .multicastSend _ | .setTxpower _ => (sink, [])

/-- Calls, one after the other. -/
def calls (sink : SinkMote) : List SinkCall → SinkMote × List SinkPrint
  | [] => (sink, [])
  | first :: rest =>
      let called := sink.call first
      let later := called.1.calls rest
      (later.1, called.2 ++ later.2)

/-- `command_sink_check`. -/
def commandSinkCheck (sink : SinkMote) (line : SerialText) : SinkMote × List SinkPrint :=
  let reply := sinkCommandCheck sink.command line.text
  { sink with command := reply.state }.calls reply.calls

end SinkMote

/-! ## The site -/

/-- The path of `addSink`. -/
def sinkUrl : Server.Text := "/rest/info/motes/sink/add".toList

/-- The post that the thread of a line sends to `addSink`. -/
def sinkPost (router : Router) (systemTime : ℤ) (line : Server.Text) : Option Server.Text := do
  let request ← router.forwardPost (← handleIncomingData systemTime line)
  if request.url = sinkUrl then some request.data else none

/-- The post for what a sink prints. -/
def SinkPrint.post (router : Router) (time : ReceptionTime) (id : SinkId) (print : SinkPrint) :
    Option Server.Text :=
  sinkPost router time.value (readLine (print.text id))

/-- The server, the posts under way and the sinks with a gateway each.  The lists have the
addresses and versions that have been printed, and those of the rows that `addSink` has
returned. -/
structure Site (ι : Type) where
  sink : ι → SinkMote := fun _ => {}
  inFlight : List Server.Text := []
  sinks : List Sink := []
  reported : List (Server.Text × ℤ) := []
  taken : List (Server.Text × ℤ) := []

inductive SiteAction (ι : Type) where
  /-- A line arrives at a sink; its gateway reads what is printed. -/
  | command (sink : ι) (line : SerialText) (time : ReceptionTime)
  /-- The button of a sink asks for a global repair. -/
  | repairRoot (sink : ι)
  /-- A sink receives a DIO. -/
  | receiveDio (sink : ι) (version : Byte)
  | restart (sink : ι)
  /-- The server takes one of the posts. -/
  | take (index : ℕ)

/-- The server takes the oldest post, if any. -/
def SiteAction.inOrder {ι : Type} : SiteAction ι → Bool
  | .take index => index = 0
  | .command _ _ _ | .repairRoot _ | .receiveDio _ _ | .restart _ => true

/-- What a report says: an address and a version. -/
def SinkPrint.report (id : SinkId) : SinkPrint → Option (Server.Text × ℤ)
  | .message _ => none
  | .sinkIdDvn version => some (moteAddress id.number, version)

section Steps

variable {ι : Type} [DecidableEq ι] (router : Router) (store : Store) (id : ι → SinkId)

/-- One step of a site whose sinks have the addresses `id`. -/
def siteStep (site : Site ι) : SiteAction ι → Option (Site ι)
  | .command sink line time =>
      let checked := (site.sink sink).commandSinkCheck line
      some { site with
        sink := Function.update site.sink sink checked.1
        inFlight := site.inFlight ++ checked.2.filterMap (SinkPrint.post router time (id sink))
        reported := site.reported ++ checked.2.filterMap (SinkPrint.report (id sink)) }
  | .repairRoot sink =>
      some { site with
        sink := Function.update site.sink sink ((site.sink sink).call .rplRepairRoot).1 }
  | .receiveDio sink version =>
      let mote := site.sink sink
      let processed := rplProcessDio newerVersion (some ⟨mote.version, true⟩) version.val
      some { site with
        sink := Function.update site.sink sink { mote with version := processed.2.version } }
  | .restart sink => some { site with sink := Function.update site.sink sink {} }
  | .take index =>
      match site.inFlight[index]? with
      | none => none
      | some post =>
          let waiting := site.inFlight.eraseIdx index
          match addSink store site.sinks post with
          | .error _ => some { site with inFlight := waiting }
          | .ok (sinks, rows) =>
              some { site with
                inFlight := waiting
                sinks
                taken := site.taken ++ rows.map fun row => (row.mac, row.dodagVersionNumber) }

end Steps

/-- The version that the last report of an address has. -/
def lastReport (reports : List (Server.Text × ℤ)) (addr : Server.Text) : Option ℤ :=
  (reports.reverse.find? fun report => report.1 = addr).map Prod.snd

theorem lastReport_concat (reports : List (Server.Text × ℤ)) (addr other : Server.Text)
    (version : ℤ) :
    lastReport (reports ++ [(addr, version)]) other =
      if other = addr then some version else lastReport reports other := by
  rw [lastReport, List.reverse_append, List.reverse_singleton, List.singleton_append, lastReport]
  split
  · next same =>
      subst same
      simp
  · next apart => simp [Ne.symm apart]

/-- The gateways post the reports to `addSink`, which takes them, and no sender has the address
of a sink. -/
structure ForwardsReports {ι : Type} (router : Router) (store : Store) (id : ι → SinkId) :
    Prop where
  typeOffset : router.typeOffset = 0
  allowed : 1 ∈ router.allowForwarding
  url : router.url 1 = sinkUrl
  accepts : AcceptsReports store
  free : ∀ sink, moteAddress (id sink).number ∉ store.senders

/-! ## What the gateway makes of a print -/

theorem trim_cons_of_above {char : Char} (above : ' ' < char) (rest : List Char) :
    ∃ others, trim (char :: rest) = char :: others := by
  have kept := isTrimmed_of_above above
  rw [trim, List.dropWhile_cons_of_neg (by simpa using kept), List.reverse_cons,
    List.dropWhile_append]
  split
  · exact ⟨[], by simp [kept]⟩
  · exact ⟨_, by rw [List.reverse_append, List.reverse_singleton, List.singleton_append]⟩

/-- The first piece begins with the first character. -/
theorem splitRuns_cons_of_above {char : Char} (above : ' ' < char) (rest : List Char) :
    ∃ others pieces, splitRuns isBlank (char :: rest) = (char :: others) :: pieces := by
  rw [splitRuns]
  split
  · have inside : isBlank char = false := isBlank_of_above above
    have pieces : ∃ others later,
        (char :: rest).splitOnP isBlank = (char :: others) :: later := by
      rw [List.splitOnP_cons_eq_if_modifyHead, if_neg (by simp [inside])]
      cases split : rest.splitOnP isBlank with
      | nil => exact absurd split (List.splitOnP_ne_nil _ _)
      | cons first later => exact ⟨first, later, rfl⟩
    obtain ⟨others, later, pieces⟩ := pieces
    rw [pieces, mergeRuns, dropTrailingEmpty_of_nonempty]
    · exact ⟨others, _, rfl⟩
    · intro piece member
      rcases List.mem_cons.1 member with rfl | other
      · exact List.cons_ne_nil _ _
      · have full := (List.mem_filter.1 other).2
        rintro rfl
        simp at full
  · exact ⟨rest, [], rfl⟩

/-- A piece that begins with a letter is no integer. -/
theorem parseSigned_of_letter (bits : ℕ) {char : Char} (letter : 'A' ≤ char)
    (others : List Char) : parseSigned bits (char :: others) = none := by
  have noDigit : char.isDigit = false := by
    rw [Char.isDigit]
    simp only [Bool.and_eq_false_imp, decide_eq_true_eq, decide_eq_false_iff_not, UInt32.not_le]
    intro _
    exact UInt32.lt_of_lt_of_le (by decide : (57 : UInt32) < 'A'.val) letter
  have parsed : parseInt (char :: others) = none := by
    simp only [parseInt]
    split
    · next equality =>
        cases equality
        exact absurd letter (by decide)
    · next equality =>
        cases equality
        exact absurd letter (by decide)
    · rw [parseDigits, if_neg (by simp [noDigit])]
      rfl
  rw [parseSigned, parsed]
  rfl

/-- A line that begins with a letter is no sensor data. -/
theorem handleIncomingData_of_letter (systemTime : ℤ) {char : Char} (letter : 'A' ≤ char)
    (rest : Server.Text) : handleIncomingData systemTime (char :: rest) = none := by
  have above : ' ' < char := UInt32.lt_of_lt_of_le (by decide : ' '.val < 'A'.val) letter
  obtain ⟨trimmed, front⟩ := trim_cons_of_above above rest
  obtain ⟨others, pieces, split⟩ := splitRuns_cons_of_above above trimmed
  have noInteger : parseToInt ((char :: others) :: pieces) = none := by
    rw [parseToInt, List.mapM_cons, parseInteger, parseSigned_of_letter 32 letter]
    rfl
  have noTime : ((some (char :: others)).filter fun first => decide (8 < first.length)).bind
      parseLong = none := by
    rw [Option.filter_some]
    split
    · exact parseSigned_of_letter 64 letter others
    · rfl
  have parsed : parseSensorData (char :: rest) systemTime = none := by
    simp only [parseSensorData, front, split, List.head?_cons, noTime, noInteger, Option.map_none]
  rw [handleIncomingData]
  · exact parsed
  · rintro ⟨⟩
  · rintro tail equality
    cases equality
    exact absurd letter (by decide)

/-- A message of the firmware. -/
def Spoken (text : Server.Text) : Prop := ∃ char rest, 'A' ≤ char ∧ text = char :: rest

theorem post_message (router : Router) (time : ReceptionTime) (id : SinkId) {text : Server.Text}
    (spoken : Spoken text) : (SinkPrint.message text).post router time id = none := by
  obtain ⟨char, rest, letter, rfl⟩ := spoken
  have noBreak : (char != '\n' && char != '\r') = true := by
    simp only [Bool.and_eq_true, bne_iff_ne]
    constructor <;> rintro rfl <;> exact absurd letter (by decide)
  have line : readLine (char :: rest) = char :: readLine rest := by
    simp only [readLine, List.takeWhile_cons, noBreak, if_true]
  rw [SinkPrint.post, SinkPrint.text, line, sinkPost, handleIncomingData_of_letter _ letter]
  rfl

/-- The line that is posted for a report of an address. -/
structure IsReport (store : Store) (post : Server.Text) (report : Server.Text × ℤ) : Prop where
  line : ∃ (time : ReceptionTime) (id : SinkId) (version : ℕ), version < 256 ∧
    report = (moteAddress id.number, (version : ℤ)) ∧
    post = joinBlank ([time.value, 1, (id.number : ℤ), (version : ℤ)].map printInt)
  free : report.1 ∉ store.senders

theorem SinkId.number_lt (id : SinkId) : id.number < 65536 := by
  have low := id.1.isLt
  have high := id.2.isLt
  rw [SinkId.number]
  omega

section Prints

variable {ι : Type} {router : Router} {store : Store} {id : ι → SinkId}

/-- The print of a report is posted. -/
theorem post_sinkIdDvn (forwards : ForwardsReports router store id) (sink : ι)
    (time : ReceptionTime) {version : ℕ} (small : version < 256) :
    (SinkPrint.sinkIdDvn version).post router time (id sink) =
      some (joinBlank ([time.value, 1, ((id sink).number : ℤ), (version : ℤ)].map printInt)) := by
  have fits : ∀ value ∈ [(1 : ℤ), ((id sink).number : ℤ), (version : ℤ)],
      FitsSigned 32 value := by
    intro value member
    simp only [List.mem_cons, List.not_mem_nil, or_false] at member
    rcases member with rfl | rfl | rfl
    · exact fitsSigned_of_lt (by decide : 1 < 65536)
    · exact fitsSigned_of_lt (id sink).number_lt
    · exact fitsSigned_of_lt (by omega)
  have late := time.late
  have one : printInt 1 = ['1'] := by decide
  have printed : (SinkPrint.sinkIdDvn version).text (id sink) =
      joinBlank ([(1 : ℤ), ((id sink).number : ℤ), (version : ℤ)].map printInt) ++ ['\n'] := by
    rw [SinkPrint.text, printUnsigned, ← printInt_natCast, List.map_cons,
      joinBlank_cons (by simp), List.map_cons, joinBlank_cons (by simp), List.map_singleton,
      joinBlank_singleton]
    simp [one]
  have parsed : handleIncomingData time.value
      (readLine (joinBlank ([(1 : ℤ), ((id sink).number : ℤ), (version : ℤ)].map printInt) ++
        ['\n'])) = some ⟨[1, ((id sink).number : ℤ), (version : ℤ)], time.value⟩ := by
    rw [readLine_joinBlank, handleIncomingData_joinBlank time.value fits (by decide)]
  rw [SinkPrint.post, printed, sinkPost, parsed]
  simp only [Option.bind_eq_bind, Option.bind_some, Router.forwardPost, SensorData.getValue,
    forwards.typeOffset, List.getElem?_cons_zero, Router.sendPost, if_pos forwards.allowed,
    forwards.url, if_pos]
  rw [toText_of_pos (by omega)]

/-- A print of the sink: a message or a report. -/
def SinkPrint.Plain : SinkPrint → Prop
  | .message text => Spoken text
  | .sinkIdDvn version => version < 256

/-- The posts are those of the reports, in their order. -/
theorem forall₂_isReport (forwards : ForwardsReports router store id) (sink : ι)
    (time : ReceptionTime) {prints : List SinkPrint} (plain : ∀ print ∈ prints, print.Plain) :
    List.Forall₂ (IsReport store)
      (prints.filterMap (SinkPrint.post router time (id sink)))
      (prints.filterMap (SinkPrint.report (id sink))) := by
  induction prints with
  | nil => exact .nil
  | cons first rest ih =>
      have here := plain first List.mem_cons_self
      have later := ih fun print member => plain print (List.mem_cons_of_mem _ member)
      cases first with
      | message text =>
          rw [List.filterMap_cons_none (post_message router time (id sink) here),
            List.filterMap_cons_none rfl]
          exact later
      | sinkIdDvn version =>
          have report : (SinkPrint.sinkIdDvn version).report (id sink) =
              some (moteAddress (id sink).number, (version : ℤ)) := rfl
          rw [List.filterMap_cons_some (post_sinkIdDvn forwards sink time here),
            List.filterMap_cons_some report]
          refine .cons ⟨⟨time, id sink, version, here, rfl, rfl⟩, forwards.free sink⟩ later

end Prints

/-! ## What a sink prints -/

theorem lollipopIncrement_lt {version : ℕ} : lollipopIncrement version < 256 := by
  rw [lollipopIncrement_eq]
  split <;> omega

theorem rplProcessDio_lt {version : ℕ} (small : version < 256) (newer : Byte) :
    (rplProcessDio newerVersion (some ⟨version, true⟩) newer.val).2.version < 256 := by
  rw [rplProcessDio_some_version]
  split
  · exact newer.isLt
  · exact small

theorem spoken_sinkExecute {state : SinkState} {line command argument text : Server.Text}
    (printed : .printf text ∈ (sinkExecute state line command argument).calls) : Spoken text := by
  rw [sinkExecute] at printed
  split at printed
  · split at printed
    · simp only [List.mem_cons, reduceCtorEq, List.not_mem_nil, false_or, or_false, receivedCommand,
        SinkCall.printf.injEq] at printed
      rcases printed with rfl | rfl
      · exact ⟨'R', _, by decide, rfl⟩
      · exact ⟨'T', _, by decide, rfl⟩
    · simp only [List.mem_cons, reduceCtorEq, List.not_mem_nil, false_or, or_false, receivedCommand,
        SinkCall.printf.injEq] at printed
      exact ⟨'R', _, by decide, printed⟩
  · simp only [List.mem_cons, reduceCtorEq, List.not_mem_nil, false_or, or_false,
      SinkCall.printf.injEq] at printed
    exact ⟨'R', _, by decide, printed⟩
  · simp only [List.mem_cons, reduceCtorEq, List.not_mem_nil, false_or, or_false, receivedCommand,
      SinkCall.printf.injEq] at printed
    exact ⟨'R', _, by decide, printed⟩
  · simp at printed
  · simp only [List.mem_cons, reduceCtorEq, List.not_mem_nil, false_or, or_false,
      SinkCall.printf.injEq] at printed
    exact ⟨'I', _, by decide, printed⟩
  · simp only [List.mem_cons, reduceCtorEq, List.not_mem_nil, false_or, or_false,
      SinkCall.printf.injEq] at printed
    exact ⟨'U', _, by decide, printed⟩

/-- The texts of `command_sink_check` are messages. -/
theorem spoken_sinkCommandCheck {state : SinkState} {data text : Server.Text}
    (printed : .printf text ∈ (sinkCommandCheck state data).calls) : Spoken text := by
  have all := sinkCommandCheck_cases state data
  generalize sinkCommandCheck state data = reply at all printed
  cases all with
  | nullVersion => simp at printed
  | nullCommand => simp at printed
  | noVersion _ _ =>
      simp only [List.mem_cons, reduceCtorEq, List.not_mem_nil, false_or, or_false,
        SinkCall.printf.injEq] at printed
      exact ⟨'C', _, by decide, printed⟩
  | obsolete _ _ _ =>
      simp only [List.mem_cons, reduceCtorEq, List.not_mem_nil, false_or, or_false,
        SinkCall.printf.injEq] at printed
      exact ⟨'O', _, by decide, printed⟩
  | executed command argument _ _ => exact spoken_sinkExecute printed

namespace SinkMote

/-- Calls keep the version a byte, and print messages and reports. -/
theorem calls_spec {sink : SinkMote} (small : sink.version < 256) {calls : List SinkCall}
    (spoken : ∀ text, .printf text ∈ calls → Spoken text) :
    (sink.calls calls).1.version < 256 ∧ ∀ print ∈ (sink.calls calls).2, print.Plain := by
  induction calls generalizing sink with
  | nil => exact ⟨small, by simp [calls]⟩
  | cons first rest ih =>
      have one : (sink.call first).1.version < 256 ∧
          ∀ print ∈ (sink.call first).2, print.Plain := by
        cases first with
        | printf text =>
            refine ⟨small, ?_⟩
            simp only [call, List.mem_singleton, forall_eq]
            exact spoken text List.mem_cons_self
        | printSinkIdDvn =>
            refine ⟨small, ?_⟩
            simp only [call, List.mem_singleton, forall_eq]
            exact small
        | rplRepairRoot => exact ⟨lollipopIncrement_lt, by simp [call]⟩
        | strdup _ | free | multicastSend _ | setTxpower _ => exact ⟨small, by simp [call]⟩
      obtain ⟨lastSmall, later⟩ :=
        ih one.1 fun text member => spoken text (List.mem_cons_of_mem _ member)
      refine ⟨lastSmall, ?_⟩
      intro print member
      rcases List.mem_append.1 member with early | late
      · exact one.2 print early
      · exact later print late

theorem commandSinkCheck_spec {sink : SinkMote} (small : sink.version < 256)
    (line : SerialText) :
    (sink.commandSinkCheck line).1.version < 256 ∧
      ∀ print ∈ (sink.commandSinkCheck line).2, print.Plain := by
  rw [commandSinkCheck]
  refine calls_spec ?_ fun _ printed => spoken_sinkCommandCheck printed
  exact small

end SinkMote

/-! ## One step of the site -/

/-- The posts under way are reports that the table does not have yet. -/
structure Follows {ι : Type} (store : Store) (ordered : Prop) (site : Site ι)
    (waiting : List (Server.Text × ℤ)) : Prop where
  versions : ∀ sink, (site.sink sink).version < 256
  posts : List.Forall₂ (IsReport store) site.inFlight waiting
  unique : (site.sinks.map Sink.mac).Nodup
  table : ∀ addr, versionOf site.sinks addr = lastReport site.taken addr
  once : (site.taken ++ waiting).Perm site.reported
  order : ordered → site.taken ++ waiting = site.reported

theorem follows_start {ι : Type} (store : Store) (ordered : Prop) :
    Follows store ordered ({} : Site ι) [] where
  versions _ := (by decide : lollipopInit < 256)
  posts := .nil
  unique := List.nodup_nil
  table _ := rfl
  once := List.Perm.nil
  order _ := rfl

section Steps

variable {ι : Type} [DecidableEq ι] {router : Router} {store : Store} {id : ι → SinkId}
  {ordered : Prop} {site next : Site ι} {waiting : List (Server.Text × ℤ)}

theorem Follows.update (follows : Follows store ordered site waiting) (sink : ι)
    {mote : SinkMote} (small : mote.version < 256) :
    Follows store ordered { site with sink := Function.update site.sink sink mote } waiting :=
  { follows with
    versions := by
      intro other
      rcases eq_or_ne other sink with rfl | apart
      · simpa using small
      · simpa [apart] using follows.versions other }

/-- A line on a sink: its reports are posted. -/
theorem Follows.command (forwards : ForwardsReports router store id)
    (follows : Follows store ordered site waiting) (sink : ι) (line : SerialText)
    (time : ReceptionTime)
    (stepped : siteStep router store id site (.command sink line time) = some next) :
    ∃ later, Follows store ordered next later := by
  obtain ⟨small, plain⟩ := SinkMote.commandSinkCheck_spec (follows.versions sink) line
  have updated := (follows.update sink small).versions
  cases stepped
  refine ⟨waiting ++ ((site.sink sink).commandSinkCheck line).2.filterMap
    (SinkPrint.report (id sink)), ?_⟩
  constructor
  · exact updated
  · exact List.rel_append follows.posts (forall₂_isReport forwards sink time plain)
  · exact follows.unique
  · exact follows.table
  · rw [← List.append_assoc]
    exact follows.once.append_right _
  · intro holds
    rw [← List.append_assoc, follows.order holds]

/-- The server takes one of the posts. -/
theorem Follows.take (forwards : ForwardsReports router store id)
    (follows : Follows store ordered site waiting) {index : ℕ} (inOrder : ordered → index = 0)
    (stepped : siteStep router store id site (.take index) = some next) :
    ∃ later, Follows store ordered next later := by
  simp only [siteStep] at stepped
  cases found : site.inFlight[index]? with
  | none => simp [found] at stepped
  | some post =>
      obtain ⟨inside, here⟩ := List.getElem?_eq_some_iff.1 found
      have waits : index < waiting.length := follows.posts.length_eq ▸ inside
      have reported : IsReport store post waiting[index] :=
        here ▸ follows.posts.get inside waits
      obtain ⟨⟨time, sender, version, small, report, line⟩, free⟩ := reported
      rw [report] at free
      obtain ⟨merged, stored, holds⟩ : ∃ merged,
          addSink store site.sinks post = .ok (merged.2, [merged.1]) ∧
            Merged site.sinks (moteAddress sender.number) version merged := by
        rw [line]
        exact addSink_report forwards.accepts follows.unique
          (fitsSigned_of_lt sender.number_lt) (fitsSigned_of_lt (by omega : version < 65536))
          (Int.natCast_nonneg _) (Int.natCast_nonneg _) free
      simp only [found, stored, Option.some.injEq, List.map_singleton, holds.mac, holds.version,
        ← report] at stepped
      subst stepped
      refine ⟨waiting.eraseIdx index, follows.versions, ?_, ?_, ?_, ?_, ?_⟩
      · rw [List.eraseIdx_eq_take_drop_succ, List.eraseIdx_eq_take_drop_succ]
        exact List.rel_append (List.forall₂_take _ follows.posts)
          (List.forall₂_drop _ follows.posts)
      · exact holds.unique
      · intro addr
        rw [holds.versions, follows.table, report, lastReport_concat]
      · rw [List.append_assoc, List.singleton_append]
        exact ((List.getElem_cons_eraseIdx_perm waits).append_left _).trans follows.once
      · intro holds
        cases inOrder holds
        cases waiting with
        | nil => exact absurd waits (Nat.not_lt_zero _)
        | cons first rest =>
            rw [← follows.order holds, List.append_assoc]
            rfl

theorem Follows.step (forwards : ForwardsReports router store id)
    (follows : Follows store ordered site waiting) {action : SiteAction ι}
    (inOrder : ordered → action.inOrder = true)
    (stepped : siteStep router store id site action = some next) :
    ∃ later, Follows store ordered next later := by
  cases action with
  | command sink line time => exact follows.command forwards sink line time stepped
  | repairRoot sink =>
      cases stepped
      exact ⟨waiting, follows.update sink lollipopIncrement_lt⟩
  | receiveDio sink version =>
      cases stepped
      exact ⟨waiting, follows.update sink (rplProcessDio_lt (follows.versions sink) version)⟩
  | restart sink =>
      cases stepped
      exact ⟨waiting, follows.update sink (by decide)⟩
  | take index =>
      exact follows.take forwards (fun holds => by simpa [SiteAction.inOrder] using inOrder holds)
        stepped

/-- The table of sinks has one row for an address, with the version of its last report that the
server took; the reports that it has not taken are under way, each of them once.  When the
server takes the posts as they come, they are the latest ones. -/
theorem sink_table_follows_reports (forwards : ForwardsReports router store id)
    {actions : List (SiteAction ι)} {final : Site ι}
    (executed : run (siteStep router store id) {} actions = some final) :
    (final.sinks.map Sink.mac).Nodup ∧
      (∀ addr, versionOf final.sinks addr = lastReport final.taken addr) ∧
      ∃ waiting, waiting.length = final.inFlight.length ∧
        (final.taken ++ waiting).Perm final.reported ∧
        ((∀ action ∈ actions, action.inOrder = true) →
          final.taken ++ waiting = final.reported) := by
  have every : EveryStep (siteStep router store id) (fun _ action =>
      (∀ action ∈ actions, SiteAction.inOrder action = true) → action.inOrder = true) {} actions :=
    everyStep_of_forall (fun action member ordered => ordered action member) _
  obtain ⟨waiting, follows⟩ := every.preserves
    (fun site => ∃ waiting, Follows store (∀ action ∈ actions, action.inOrder = true) site waiting)
    (fun _ _ _ ⟨_, follows⟩ inOrder stepped => follows.step forwards inOrder stepped)
    ⟨[], follows_start store _⟩ executed
  exact ⟨follows.unique, follows.table, waiting, follows.posts.length_eq.symm, follows.once,
    follows.order⟩

end Steps

/-- A router that posts the reports. -/
def reportRouter : Router where
  typeOffset := 0
  allowForwarding := [0, 1, 10]
  url _ := sinkUrl

/-- A server with the type of the reports. -/
def reportStore : Store where
  types := [⟨1, "SinkStream".toList, 4⟩]
  filters := ⟨[], unique_noFilters⟩

theorem forwardsReports_reportRouter :
    ForwardsReports reportRouter reportStore fun _ : Unit => ((2, 1) : SinkId) where
  typeOffset := rfl
  allowed := by decide
  url := rfl
  accepts := ⟨⟨_, rfl, by decide, rfl⟩, by
    intro type _ filter member
    simp [reportStore, FilterTable.find] at member⟩
  free _ := List.not_mem_nil

/-- A report before and one after a global repair; the server takes the second one first. -/
def overtakenReports : List (SiteAction Unit) :=
  [.command () ⟨"1 SINK_ID_DVN".toList, by simp⟩ ⟨100000000, by decide, by decide⟩,
    .command () ⟨"2 GLOBAL_REPAIR".toList, by simp⟩ ⟨100000001, by decide, by decide⟩,
    .command () ⟨"3 SINK_ID_DVN".toList, by simp⟩ ⟨100000002, by decide, by decide⟩,
    .take 1, .take 0]

theorem sink_table_follows_reports_overtaken :
    ∃ final, run (siteStep reportRouter reportStore fun _ => (2, 1)) {} overtakenReports =
        some final ∧
      final.reported = [("2.1".toList, 240), ("2.1".toList, 241)] ∧
      versionOf final.sinks "2.1".toList = lastReport final.taken "2.1".toList ∧
      lastReport final.taken "2.1".toList = some 240 := by
  have executed : run (siteStep reportRouter reportStore fun _ => (2, 1)) {} overtakenReports =
      some _ := rfl
  obtain ⟨_, table, _⟩ := sink_table_follows_reports forwardsReports_reportRouter executed
  exact ⟨_, executed, rfl, table _, rfl⟩

end IotLab.Pipeline
