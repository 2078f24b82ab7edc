import IotLab.Library.Codec
import IotLab.Library.Lines
import IotLab.Library.RingBuffer
import IotLab.Library.Runs

/-!
# The serial line driver

An interrupt puts the received bytes into a ring buffer, a process takes them out and
posts a line at every end byte.  The process then waits until the other processes have
handled the line, while the interrupt goes on.  A byte that finds the ring buffer full
is dropped together with the rest of its line.
-/

namespace IotLab.Firmware

open IotLab.Library

/-- `BUFSIZE`. -/
def bufSize : ℕ := 128

/-- The byte of `IGNORE_CHAR`. -/
def ignoredByte : Byte := 0x0d

/-- `END`. -/
def endByte : Byte := 0x0a

/-- The state of the driver. -/
structure SerialLine where
  rxbuf : RingBuffer Byte bufSize
  /-- The static variable of the interrupt. -/
  overflow : Bool := false
  /-- The first `ptr` bytes of `buf`. -/
  buf : List Byte := []
  /-- The process waits for `PROCESS_EVENT_CONTINUE`. -/
  waiting : Bool := false
  /-- The lines posted so far, as they stand in `buf`. -/
  posted : List (List Byte) := []

namespace SerialLine

/-- `serial_line_input_byte`. -/
def inputByte (state : SerialLine) (c : Byte) : SerialLine :=
  if c = ignoredByte then state
  else if state.overflow = false then
    match state.rxbuf.put c with
    | none => { state with overflow := true }
    | some rxbuf => { state with rxbuf }
  else if c = endByte then
    match state.rxbuf.put c with
    | none => state
    | some rxbuf => { state with rxbuf, overflow := false }
  else state

/-- One round of the loop of `serial_line_process`, unless it waits. -/
def round (state : SerialLine) : Option SerialLine :=
  if state.waiting then none
  else
    match state.rxbuf.get with
    | none => none
    | some (c, rxbuf) =>
        if c = endByte then
          some { state with
            rxbuf
            waiting := true
            posted := state.posted ++ [state.buf] }
        else if state.buf.length < bufSize - 1 then
          some { state with rxbuf, buf := state.buf ++ [c] }
        else some { state with rxbuf }

/-- The event for which the process waits, after the line has been handled. -/
def continue_ (state : SerialLine) : Option SerialLine :=
  if state.waiting then some { state with waiting := false, buf := [] } else none

end SerialLine

/-- What can happen in the driver. -/
inductive SerialAction where
  | inputByte (c : Byte)
  | round
  | continue_
  deriving Repr, DecidableEq

/-- One step of the driver. -/
def serialStep (state : SerialLine) : SerialAction → Option SerialLine
  | .inputByte c => some (state.inputByte c)
  | .round => state.round
  | .continue_ => state.continue_

/-- The byte that an action receives. -/
def SerialAction.received : SerialAction → Option Byte
  | .inputByte c => some c
  | .round | .continue_ => none

/-- The bytes that a sequence of actions receives. -/
def received (actions : List SerialAction) : List Byte :=
  actions.filterMap SerialAction.received

/-- The bytes that are not ignored. -/
def significant (bytes : List Byte) : List Byte :=
  bytes.filter fun c => c ≠ ignoredByte

namespace SerialLine

/-- There is nothing left to do. -/
structure Idle (state : SerialLine) : Prop where
  empty : state.rxbuf.contents = []
  running : state.waiting = false

/-- Idle between two lines. -/
structure Quiet (state : SerialLine) : Prop extends Idle state where
  clear : state.overflow = false
  fresh : state.buf = []
  none : state.posted = []

/-- `serial_line_init`. -/
def init : SerialLine where
  rxbuf := ⟨fun _ => 0, 0, 0, by decide, by decide⟩

theorem quiet_init : init.Quiet where
  empty := rfl
  running := rfl
  clear := rfl
  fresh := rfl
  none := rfl

/-! ## The lines that are under way -/

/-- The lines posted and the line in `buf`. -/
def read (state : SerialLine) : Lines Byte where
  complete := state.posted
  rest := if state.waiting then [] else state.buf

/-- The lines when the ring buffer will have been read, too. -/
def ahead (state : SerialLine) : Lines Byte :=
  state.read.feedAll (bufSize - 1) endByte state.rxbuf.contents

theorem Idle.ahead {state : SerialLine} (idle : state.Idle) :
    state.ahead = { complete := state.posted, rest := state.buf } := by
  rw [SerialLine.ahead, idle.empty, read, idle.running]
  rfl

/-- What the interrupt does while the ring buffer has room. -/
theorem inputByte_of_room {state : SerialLine} {c : Byte} (clear : state.overflow = false)
    (room : state.rxbuf.contents.length + (significant [c]).length < bufSize) :
    (state.inputByte c).overflow = false ∧
      (state.inputByte c).waiting = state.waiting ∧
      (state.inputByte c).buf = state.buf ∧
      (state.inputByte c).rxbuf.contents =
        state.rxbuf.contents ++ significant [c] ∧
      (state.inputByte c).ahead =
        state.ahead.feedAll (bufSize - 1) endByte (significant [c]) := by
  by_cases ignored : c = ignoredByte
  · subst ignored
    have dropped : significant [ignoredByte] = [] := rfl
    simp [inputByte, clear, dropped]
  · have all : significant [c] = [c] := by simp [significant, ignored]
    cases added : state.rxbuf.put c with
    | none =>
        have full := RingBuffer.put_eq_none.1 added
        rw [all, List.length_singleton] at room
        omega
    | some rxbuf =>
        have contents := RingBuffer.contents_put added
        simp [inputByte, ignored, clear, added, all, contents, SerialLine.ahead, read]

/-- The process reads what is under way. -/
theorem round_ahead {state next : SerialLine} (stepped : state.round = some next) :
    next.ahead = state.ahead ∧ next.overflow = state.overflow ∧
      state.rxbuf.contents.length = next.rxbuf.contents.length + 1 := by
  rw [round] at stepped
  cases waiting : state.waiting with
  | true => simp [waiting] at stepped
  | false =>
      cases taken : state.rxbuf.get with
      | none => simp [waiting, taken] at stepped
      | some pair =>
          obtain ⟨c, rxbuf⟩ := pair
          have contents := RingBuffer.contents_get taken
          simp only [waiting, taken, Bool.false_eq_true, if_false] at stepped
          simp only [SerialLine.ahead, contents, Lines.feedAll_cons, Lines.feed, read,
            waiting, Bool.false_eq_true, if_false, List.length_cons]
          split at stepped
          · next ends =>
              cases stepped
              simp [ends]
          · next goes =>
              split at stepped
              · next room =>
                  cases stepped
                  simp [goes, room]
              · next full =>
                  cases stepped
                  simp [goes, full]

theorem continue_ahead {state next : SerialLine} (stepped : state.continue_ = some next) :
    next.ahead = state.ahead ∧ next.overflow = state.overflow ∧
      next.rxbuf = state.rxbuf := by
  rw [continue_] at stepped
  cases waiting : state.waiting with
  | false => simp [waiting] at stepped
  | true =>
      rw [waiting, if_pos rfl] at stepped
      cases stepped
      simp [SerialLine.ahead, read, waiting]

/-- A run during which the ring buffer cannot fill up reads all bytes that it received,
in whatever order the interrupt and the process take their turns. -/
theorem run_ahead {actions : List SerialAction} {state final : SerialLine}
    (clear : state.overflow = false)
    (room : state.rxbuf.contents.length + (significant (received actions)).length <
      bufSize)
    (executed : run serialStep state actions = some final) :
    final.overflow = false ∧
      final.ahead = state.ahead.feedAll (bufSize - 1) endByte
        (significant (received actions)) := by
  induction actions generalizing state with
  | nil =>
      cases executed
      exact ⟨clear, rfl⟩
  | cons action rest ih =>
      obtain ⟨next, stepped, remaining⟩ := run_cons executed
      cases action with
      | inputByte c =>
          cases stepped
          have split : significant (received (.inputByte c :: rest)) =
              significant [c] ++ significant (received rest) := by
            rw [significant, significant, significant, ← List.filter_append]
            rfl
          rw [split, List.length_append, ← Nat.add_assoc] at room
          obtain ⟨overflow, _, _, contents, ahead⟩ :=
            inputByte_of_room clear (Nat.lt_of_le_of_lt (Nat.le_add_right _ _) room)
          rw [split, Lines.feedAll_append, ← ahead]
          apply ih overflow _ remaining
          rw [contents, List.length_append]
          exact room
      | round =>
          obtain ⟨ahead, overflow, fewer⟩ := round_ahead stepped
          rw [← ahead]
          apply ih (overflow.trans clear) _ remaining
          change _ + (significant (received rest)).length < _ at room
          omega
      | continue_ =>
          obtain ⟨ahead, overflow, same⟩ := continue_ahead stepped
          rw [← ahead]
          apply ih (overflow.trans clear) _ remaining
          rw [same]
          exact room

end SerialLine

end IotLab.Firmware
