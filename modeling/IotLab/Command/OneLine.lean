import IotLab.Command.Delivery
import IotLab.Firmware.SerialSchedule
import IotLab.Server.Report

/-!
# One command, one line

The text of a command goes from the form of the user to the serial port of the sink
without any check.  The gateway ends it with a line break; a line break in the text
itself starts a second command, with a version of the user's choice.
-/

namespace IotLab.Command

open IotLab.Firmware
open IotLab.Firmware.SerialLine
open IotLab.Library
open IotLab.Server

/-! ## From the form to the serial port -/

/-- The default charset of the gateway's platform: ASCII characters are encoded as
themselves, the others without the bytes that the serial line knows. -/
structure Charset where
  encode : Char → List Byte
  ascii : ∀ char, (small : char.toNat < 128) → encode char = [⟨char.toNat, by omega⟩]
  other : ∀ char, 128 ≤ char.toNat →
    ∀ byte ∈ encode char, byte ≠ 0 ∧ byte ≠ ignoredByte ∧ byte ≠ endByte

/-- The bytes of a text. -/
def Charset.bytes (charset : Charset) (text : Text) : List Byte :=
  text.flatMap charset.encode

/-- `SerialConnection.writeSerialData`. -/
def writeSerialData (charset : Charset) (lineBreak : LineBreak) (data : Text) :
    List Byte :=
  charset.bytes data ++ lineBreak.bytes

/-- `CommandResource.add`: what is sent for the command of the form, a reset that comes
before it apart. -/
def submitted (server : ServerState) (command : Text) : List Emission :=
  ((sendCommand server command).2.sent.drop server.sent.length).filter fun emission =>
    !emission.reset

/-- A buffer as the text that the sink reads. -/
def asText (buffer : List Byte) : Text := buffer.map fun byte => Char.ofNat byte.val

/-- The sink can read the bytes as these lines. -/
def ReadAs (bytes : List Byte) (lines : List Text) : Prop :=
  ∃ (serial : SerialLine) (actions : List SerialAction) (final : SerialLine),
    serial.Quiet ∧ received actions = bytes ∧
      run serialStep serial actions = some final ∧ final.Idle ∧
        lines = final.posted.map asText

/-- The bytes written for a command are one line with its text and its version, and a
sink that can be reset can still be reset when it has handled them. -/
structure OneLine (charset : Charset) (lineBreak : LineBreak) (emission : Emission) :
    Prop where
  line : ∀ lines, ReadAs (writeSerialData charset lineBreak emission.text) lines →
    lines.map cString = [asText (charset.bytes emission.text)]
  version : ∀ lines, ReadAs (writeSerialData charset lineBreak emission.text) lines →
    lines.map (fun line => commandVersion (cString line)) = [emission.version]
  reset : ∀ lines, ReadAs (writeSerialData charset lineBreak emission.text) lines →
    ∀ sink : SinkState, sink.ccvn < 65535 →
      (sinkCommandCheck (sinkAfter sink lines) resetMessage).verdict.accepted = true

/-- The text has no line break and no NUL, and the line fits into the buffer of the
sink. -/
structure FitsLine (charset : Charset) (emission : Emission) : Prop where
  noLf : '\n' ∉ emission.command
  noCr : '\r' ∉ emission.command
  noNul : '\x00' ∉ emission.command
  short : (charset.bytes emission.text).length ≤ 126

/-! ## Characters and bytes -/

theorem toNat_ofByte (byte : Byte) : (Char.ofNat byte.val).toNat = byte.val := by
  have valid : byte.val.isValidChar := .inl (byte.isLt.trans (by decide))
  rw [Char.ofNat, dif_pos valid]
  rfl

theorem ofByte_eq_iff {byte : Byte} {char : Char} :
    Char.ofNat byte.val = char ↔ byte.val = char.toNat := by
  rw [← Char.toNat_inj, toNat_ofByte]

theorem asText_injective : Function.Injective asText := by
  apply List.map_injective_iff.2
  intro left right same
  rw [ofByte_eq_iff, toNat_ofByte] at same
  exact Fin.ext same

theorem cString_asText (buffer : List Byte) :
    cString (asText buffer) = asText (cBytes buffer) := by
  have nul : ((· != '\x00') ∘ fun byte : Byte => Char.ofNat byte.val) =
      fun byte => decide (byte ≠ 0) := by
    funext byte
    have code : Char.ofNat byte.val = '\x00' ↔ byte = 0 := by
      rw [ofByte_eq_iff]
      exact Fin.val_eq_zero_iff
    rw [Function.comp_apply, Bool.eq_iff_iff, bne_iff_ne, decide_eq_true_iff]
    exact not_congr code
  rw [cString, asText, asText, cBytes, List.takeWhile_map, nul]

theorem Charset.bytes_cons (charset : Charset) {char : Char} (small : char.toNat < 128)
    (text : Text) :
    charset.bytes (char :: text) = ⟨char.toNat, by omega⟩ :: charset.bytes text := by
  rw [bytes, List.flatMap_cons, charset.ascii char small]
  rfl

theorem Charset.asText_bytes_append (charset : Charset) {ascii : Text}
    (small : ∀ char ∈ ascii, char.toNat < 128) (text : Text) :
    asText (charset.bytes (ascii ++ text)) = ascii ++ asText (charset.bytes text) := by
  induction ascii with
  | nil => rfl
  | cons char rest ih =>
      rw [List.forall_mem_cons] at small
      rw [List.cons_append, charset.bytes_cons small.1, asText, List.map_cons]
      change _ :: asText (charset.bytes (rest ++ text)) = _
      rw [ih small.2]
      have code := Char.ofNat_toNat char
      rw [code]
      rfl

/-- A byte with a meaning on the serial line comes from its character only. -/
theorem Charset.mem_bytes (charset : Charset) {char : Char} {byte : Byte}
    (code : byte.val = char.toNat)
    (special : byte = 0 ∨ byte = ignoredByte ∨ byte = endByte) (text : Text) :
    byte ∈ charset.bytes text ↔ char ∈ text := by
  have small : char.toNat < 128 := by
    rw [← code]
    cases special with
    | inl zero => subst zero; decide
    | inr other =>
        cases other with
        | inl cr => subst cr; decide
        | inr lf => subst lf; decide
  rw [bytes, List.mem_flatMap]
  constructor
  · intro ⟨source, member, encoded⟩
    by_cases ascii : source.toNat < 128
    · rw [charset.ascii source ascii, List.mem_singleton] at encoded
      rw [encoded] at code
      exact Char.toNat_inj.1 code ▸ member
    · obtain ⟨noNul, noCr, noLf⟩ := charset.other source (not_lt.1 ascii) byte encoded
      cases special with
      | inl zero => exact absurd zero noNul
      | inr other =>
          cases other with
          | inl cr => exact absurd cr noCr
          | inr lf => exact absurd lf noLf
  · intro member
    refine ⟨char, member, ?_⟩
    rw [charset.ascii char small, List.mem_singleton]
    exact Fin.ext code

/-! ## The submitted command -/

theorem submitted_eq (server : ServerState) (command : Text) :
    submitted server command = [] ∨
      ∃ version < 65535, submitted server command =
        [⟨version, command, false, server.receivers commandType⟩] := by
  rw [submitted]
  cases Nat.eq_zero_or_pos server.connectedGatewayNumber with
  | inl none =>
      left
      rw [sendCommand_of_no_gateway command none, List.drop_length]
      rfl
  | inr gateway =>
      right
      cases Nat.lt_or_ge server.commandVersionNumber 65535 with
      | inl below =>
          refine ⟨_, below, ?_⟩
          rw [sendCommand_of_lt command gateway below]
          simp [ServerState.emit]
      | inr above =>
          refine ⟨1, by decide, ?_⟩
          rw [sendCommand_of_ge command gateway above,
            resetCommandVersionNumber_eq gateway]
          simp [ServerState.emit, List.append_assoc, ServerState.receivers]

theorem mem_submitted {server : ServerState} {command : Text} {emission : Emission}
    (sent : emission ∈ submitted server command) :
    emission.command = command ∧ emission.version < 65535 := by
  cases submitted_eq server command with
  | inl none =>
      rw [none] at sent
      cases sent
  | inr one =>
      obtain ⟨version, below, same⟩ := one
      rw [same, List.mem_singleton] at sent
      subst sent
      exact ⟨rfl, below⟩

/-! ## The line on the sink -/

/-- A command and its reading on the sink have the same version. -/
theorem commandVersion_written (charset : Charset) (emission : Emission) :
    commandVersion (cString (asText (charset.bytes emission.text))) =
      toUInt16 emission.version := by
  have small : ∀ char ∈ Nat.toDigits 10 emission.version ++ [' '], char.toNat < 128 := by
    intro char member
    cases List.mem_append.1 member with
    | inl digit =>
        have decimal := isDigit_of_mem_toDigits digit
        rw [Char.isDigit_iff_toNat] at decimal
        exact decimal.2.trans_lt (by decide)
    | inr blank =>
        rw [List.mem_singleton.1 blank]
        decide
  have text : asText (charset.bytes emission.text) =
      commandMessage emission.version (asText (charset.bytes emission.command)) := by
    have whole := charset.asText_bytes_append small emission.command
    simpa [Emission.text, commandMessage] using whole
  rw [text, commandVersion_commandMessage]

/-- A line with a version below that of a reset leaves the sink ready for a reset. -/
theorem sinkCommandCheck_ready {sink : SinkState} (ready : sink.ccvn < 65535) {line : Text}
    (below : commandVersion (cString line) < 65535) :
    (sinkCommandCheck sink line).state.ccvn < 65535 := by
  cases sinkCommandCheck_outcome sink line with
  | refused _ same =>
      rw [same]
      exact ready
  | silent _ stored =>
      rw [stored]
      exact below
  | multicast kind _ _ stored =>
      rw [stored, SinkState.afterMulticast]
      split
      · decide
      · exact below

theorem reset_accepted {sink : SinkState} (ready : sink.ccvn < 65535) :
    (sinkCommandCheck sink resetMessage).verdict.accepted = true := by
  apply sinkCommandCheck_accepted
  have version : commandVersion (cString resetMessage) = 65535 := by decide
  rw [version]
  exact ready

/-! ## When a command is one line -/

/-- The bytes of a command are those that the serial line does not touch exactly when
it fits. -/
theorem fitsLine_iff {charset : Charset} {emission : Emission} :
    FitsLine charset emission ↔
      endByte ∉ charset.bytes emission.text ∧
        ignoredByte ∉ charset.bytes emission.text ∧
          0 ∉ charset.bytes emission.text ∧
            (charset.bytes emission.text).length < bufSize - 1 := by
  have inCommand : ∀ char : Char, char.isDigit = false → char ≠ ' ' →
      (char ∈ emission.text ↔ char ∈ emission.command) := by
    intro char noDigit noBlank
    have outside : char ∉ Nat.toDigits 10 emission.version := not_mem_toDigits noDigit
    simp [Emission.text, commandMessage, outside, noBlank]
  have lf : endByte ∈ charset.bytes emission.text ↔ '\n' ∈ emission.text :=
    charset.mem_bytes rfl (.inr (.inr rfl)) _
  have cr : ignoredByte ∈ charset.bytes emission.text ↔ '\r' ∈ emission.text :=
    charset.mem_bytes rfl (.inr (.inl rfl)) _
  have nul : 0 ∈ charset.bytes emission.text ↔ '\x00' ∈ emission.text :=
    charset.mem_bytes rfl (.inl rfl) _
  rw [lf, cr, nul, inCommand _ rfl (by decide), inCommand _ rfl (by decide),
    inCommand _ rfl (by decide)]
  constructor
  · intro fits
    exact ⟨fits.noLf, fits.noCr, fits.noNul, Nat.lt_succ_of_le fits.short⟩
  · rintro ⟨noLf, noCr, noNul, short⟩
    exact ⟨noLf, noCr, noNul, Nat.le_of_lt_succ short⟩

theorem map_cString_eq_iff {posted : List (List Byte)} {message : List Byte} :
    (posted.map asText).map cString = [asText message] ↔
      posted.map cBytes = [message] := by
  have swap : (posted.map asText).map cString = (posted.map cBytes).map asText := by
    simp [cString_asText]
  rw [swap]
  exact (List.map_injective_iff.2 asText_injective).eq_iff (b := [message])

/-- A submitted command is one line with its text and its version exactly when it has no
line break and no NUL and is short enough. -/
theorem one_line_iff (charset : Charset) (lineBreak : LineBreak) (server : ServerState)
    (command : Text) {emission : Emission}
    (sent : emission ∈ submitted server command) :
    OneLine charset lineBreak emission ↔ FitsLine charset emission := by
  have below := (mem_submitted sent).2
  rw [fitsLine_iff, ← quiet_init.posts_iff _ lineBreak]
  constructor
  · intro oneLine actions final bytes executed idle
    apply map_cString_eq_iff.1
    exact oneLine.line _ ⟨init, actions, final, quiet_init, bytes, executed, idle, rfl⟩
  · intro posts
    have read : ∀ lines, ReadAs (writeSerialData charset lineBreak emission.text) lines →
        ∃ line, lines = [line] ∧ cString line = asText (charset.bytes emission.text) ∧
          commandVersion (cString line) = emission.version := by
      intro lines ⟨serial, actions, final, quiet, bytes, executed, idle, same⟩
      have fits := (quiet_init.posts_iff _ lineBreak).1 posts
      have posted := (quiet.posts_iff _ lineBreak).2 fits actions final bytes executed idle
      rw [← map_cString_eq_iff, ← same] at posted
      obtain ⟨line, one, text⟩ := List.map_eq_singleton_iff.1 posted
      have version := commandVersion_written charset emission
      rw [toUInt16_natCast (below.trans (by decide)), ← text, cString, cString,
        List.takeWhile_idem] at version
      exact ⟨line, one, text, version⟩
    constructor
    · intro lines readAs
      obtain ⟨line, one, text, _⟩ := read lines readAs
      rw [one, List.map_singleton, text]
    · intro lines readAs
      obtain ⟨line, one, _, version⟩ := read lines readAs
      rw [one, List.map_singleton, version]
    · intro lines readAs sink ready
      obtain ⟨line, one, _, version⟩ := read lines readAs
      rw [one]
      apply reset_accepted
      apply sinkCommandCheck_ready ready
      rw [version]
      exact below

/-- ISO-8859-1: what it does not have is written as a question mark. -/
def latin1 : Charset where
  encode char := if inside : char.toNat < 256 then [⟨char.toNat, inside⟩] else [63]
  ascii := by
    intro char small
    rw [dif_pos (small.trans (by decide))]
  other := by
    intro char large byte member
    split at member
    · rw [List.mem_singleton] at member
      subst member
      refine ⟨?_, ?_, ?_⟩
      all_goals
        intro same
        have code := congrArg Fin.val same
        simp [ignoredByte, endByte] at code
        omega
    · rw [List.mem_singleton] at member
      subst member
      decide

/-- A short command with a gateway. -/
theorem one_line_stop :
    let server := serveSessions [.openConnection 1 commandType true]
    let emission : Emission := ⟨2, "STOP ALL".toList, false, [1]⟩
    emission ∈ submitted server "STOP ALL".toList ∧
      (OneLine latin1 .lf emission ↔ FitsLine latin1 emission) := by
  intro server emission
  have sent : emission ∈ submitted server "STOP ALL".toList := by decide
  exact ⟨sent, one_line_iff latin1 .lf server _ sent⟩

/-- A line break starts a second command, which puts the sink beyond every reset. -/
theorem second_command_of_lineBreak :
    let server := serveSessions [.openConnection 1 commandType true]
    let command := "START ALL\n65535 STOP ALL".toList
    let emission : Emission := ⟨2, command, false, [1]⟩
    emission ∈ submitted server command ∧ ¬ OneLine latin1 .lf emission := by
  intro server command emission
  refine ⟨by decide, ?_⟩
  intro oneLine
  let bytes := writeSerialData latin1 .lf emission.text
  let lines := ["2 START ALL".toList, "65535 STOP ALL".toList]
  have executed : (run serialStep init (bytes.flatMap promptly)).any fun final =>
      final.rxbuf.elements = 0 ∧ final.waiting = false ∧
        lines = final.posted.map asText := by
    decide +kernel
  obtain ⟨final, there, holds⟩ := (Option.any_eq_true _ _).1 executed
  obtain ⟨empty, running, read⟩ := of_decide_eq_true holds
  rw [← RingBuffer.length_contents, List.length_eq_zero_iff] at empty
  have accepted := oneLine.reset lines
    ⟨init, _, final, quiet_init, received_promptly bytes, there, ⟨empty, running⟩, read⟩
    { ccvn := 1 } (by decide)
  have refused : (sinkCommandCheck (sinkAfter { ccvn := 1 } lines)
      resetMessage).verdict.accepted = false := by
    decide +kernel
  rw [refused] at accepted
  cases accepted

end IotLab.Command
