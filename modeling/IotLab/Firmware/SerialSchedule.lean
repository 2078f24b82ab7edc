import IotLab.Firmware.SerialLine
import Mathlib.Data.List.TakeWhile

/-!
# Schedules of the serial line

The interrupt and the process of the driver take their turns in any order.  A line is
posted as it was sent in every schedule exactly when it has none of the bytes with a
meaning of their own and fits into the ring buffer.
-/

namespace IotLab.Firmware

open IotLab.Library

namespace SerialLine

/-! ## Two schedules -/

/-- The process takes its turn after every byte. -/
def promptly (c : Byte) : List SerialAction :=
  if c = ignoredByte then [.inputByte c]
  else if c = endByte then [.inputByte c, .round, .continue_]
  else [.inputByte c, .round]

theorem received_promptly (bytes : List Byte) :
    received (bytes.flatMap promptly) = bytes := by
  induction bytes with
  | nil => rfl
  | cons c rest ih =>
      rw [List.flatMap_cons, received, List.filterMap_append]
      change received (promptly c) ++ received (rest.flatMap promptly) = _
      rw [ih, promptly]
      split
      · rfl
      · split <;> rfl

/-- A process that does not wait takes the oldest byte. -/
theorem round_of_contents {state : SerialLine} {c : Byte} {rest : List Byte}
    (running : state.waiting = false) (contents : state.rxbuf.contents = c :: rest) :
    ∃ next, state.round = some next ∧ next.rxbuf.contents = rest ∧
      next.waiting = decide (c = endByte) ∧
      (c ≠ endByte → next.posted = state.posted) := by
  cases taken : state.rxbuf.get with
  | none =>
      rw [RingBuffer.get_eq_none, contents] at taken
      cases taken
  | some pair =>
      obtain ⟨first, rxbuf⟩ := pair
      have same := RingBuffer.contents_get taken
      rw [contents] at same
      obtain ⟨head, tail⟩ := List.cons.inj same
      subst head
      by_cases ends : c = endByte
      · refine ⟨_, by simp only [round, running, taken, ends]; rfl, tail.symm, ?_, ?_⟩
        · simp [ends]
        · exact absurd ends
      · by_cases room : state.buf.length < bufSize - 1
        · refine ⟨{ state with rxbuf, buf := state.buf ++ [c] }, ?_, tail.symm, ?_, ?_⟩
          · simp [round, running, taken, ends, room]
          · simp [running, ends]
          · exact fun _ => rfl
        · refine ⟨{ state with rxbuf }, ?_, tail.symm, ?_, ?_⟩
          · simp [round, running, taken, ends, room]
          · simp [running, ends]
          · exact fun _ => rfl

theorem Idle.run_promptly {state : SerialLine} (idle : state.Idle)
    (clear : state.overflow = false) (c : Byte) :
    ∃ next, run serialStep state (promptly c) = some next ∧ next.Idle := by
  have room : state.rxbuf.contents.length + (significant [c]).length < bufSize := by
    have short : (significant [c]).length ≤ 1 := List.length_filter_le _ [c]
    rw [idle.empty]
    exact Nat.lt_of_le_of_lt (Nat.add_le_add_left short _) (by decide)
  obtain ⟨_, waiting, _, contents, _⟩ := inputByte_of_room clear room
  rw [idle.empty, List.nil_append] at contents
  rw [idle.running] at waiting
  rw [promptly]
  split
  · next ignored =>
      refine ⟨state.inputByte c, rfl, ?_, waiting⟩
      rw [contents, ignored]
      rfl
  · next kept =>
      have all : significant [c] = [c] := by simp [significant, kept]
      rw [all] at contents
      obtain ⟨next, stepped, empty, waits, _⟩ := round_of_contents waiting contents
      split
      · next ends =>
          rw [decide_eq_true ends] at waits
          refine ⟨{ next with waiting := false, buf := [] }, ?_, empty, rfl⟩
          simp [run, serialStep, stepped, continue_, waits]
      · next goes =>
          rw [decide_eq_false goes] at waits
          refine ⟨next, ?_, empty, waits⟩
          simp [run, serialStep, stepped]

/-- When the process takes its turn after every byte, all bytes are read. -/
theorem Idle.run_allPromptly {state : SerialLine} (idle : state.Idle)
    (clear : state.overflow = false) (bytes : List Byte) :
    ∃ final, run serialStep state (bytes.flatMap promptly) = some final ∧ final.Idle ∧
      final.ahead = state.ahead.feedAll (bufSize - 1) endByte (significant bytes) := by
  induction bytes generalizing state with
  | nil => exact ⟨state, rfl, idle, rfl⟩
  | cons c rest ih =>
      obtain ⟨next, executed, nextIdle⟩ := idle.run_promptly clear c
      have single : received (promptly c) = [c] := by
        simpa using received_promptly [c]
      have room : state.rxbuf.contents.length +
          (significant (received (promptly c))).length < bufSize := by
        have short : (significant [c]).length ≤ 1 := List.length_filter_le _ [c]
        rw [idle.empty, single]
        exact Nat.lt_of_le_of_lt (Nat.add_le_add_left short _) (by decide)
      obtain ⟨nextClear, ahead⟩ := run_ahead clear room executed
      obtain ⟨final, remaining, finalIdle, finally_⟩ := ih nextIdle nextClear
      refine ⟨final, ?_, finalIdle, ?_⟩
      · rw [List.flatMap_cons, run_append, executed]
        exact remaining
      · rw [finally_, ahead, single, ← Lines.feedAll_append, significant, significant,
          ← List.filter_append]
        rfl

theorem run_inputBytes (state : SerialLine) (bytes : List Byte) :
    run serialStep state (bytes.map .inputByte) =
      some (bytes.foldl inputByte state) := by
  induction bytes generalizing state with
  | nil => rfl
  | cons c rest ih => exact ih (state.inputByte c)

theorem inputByte_read (state : SerialLine) (c : Byte) :
    (state.inputByte c).waiting = state.waiting ∧
      (state.inputByte c).posted = state.posted := by
  rw [inputByte]
  split
  · exact ⟨rfl, rfl⟩
  split
  · split <;> exact ⟨rfl, rfl⟩
  split
  · split <;> exact ⟨rfl, rfl⟩
  · exact ⟨rfl, rfl⟩

theorem foldl_inputByte_read (state : SerialLine) (bytes : List Byte) :
    (bytes.foldl inputByte state).waiting = state.waiting ∧
      (bytes.foldl inputByte state).posted = state.posted := by
  induction bytes generalizing state with
  | nil => exact ⟨rfl, rfl⟩
  | cons c rest ih =>
      obtain ⟨waiting, posted⟩ := state.inputByte_read c
      obtain ⟨laterWaiting, laterPosted⟩ := ih (state.inputByte c)
      exact ⟨laterWaiting.trans waiting, laterPosted.trans posted⟩

theorem inputByte_of_full {state : SerialLine} (c : Byte)
    (full : state.rxbuf.contents.length = bufSize - 1) :
    (state.inputByte c).rxbuf = state.rxbuf := by
  have refused : state.rxbuf.put c = none := RingBuffer.put_eq_none.2 full
  rw [inputByte, refused]
  split
  · rfl
  split
  · rfl
  split <;> rfl

theorem foldl_inputByte_of_full {state : SerialLine} (bytes : List Byte)
    (full : state.rxbuf.contents.length = bufSize - 1) :
    (bytes.foldl inputByte state).rxbuf = state.rxbuf := by
  induction bytes generalizing state with
  | nil => rfl
  | cons c rest ih =>
      have same := inputByte_of_full c full
      rw [List.foldl_cons, ih (same ▸ full), same]

/-- Bytes are only dropped while the ring buffer is full. -/
def DropsWhenFull (state : SerialLine) : Prop :=
  state.overflow = true → state.rxbuf.contents.length = bufSize - 1

/-- The ring buffer keeps the first bytes of a line that nobody takes out. -/
theorem inputByte_contents {state : SerialLine} {c : Byte} (drops : state.DropsWhenFull)
    (kept : c ≠ ignoredByte) :
    (state.inputByte c).rxbuf.contents =
        (state.rxbuf.contents ++ [c]).take (bufSize - 1) ∧
      (state.inputByte c).DropsWhenFull := by
  cases added : state.rxbuf.put c with
  | none =>
      have full := RingBuffer.put_eq_none.1 added
      have same := inputByte_of_full c full
      rw [DropsWhenFull, same, ← full, List.take_left]
      exact ⟨rfl, fun _ => rfl⟩
  | some rxbuf =>
      have room : state.rxbuf.contents.length ≠ bufSize - 1 := by
        intro full
        rw [RingBuffer.put_eq_none.2 full] at added
        cases added
      have clear : state.overflow = false := by
        cases overflow : state.overflow with
        | false => rfl
        | true => exact absurd (drops overflow) room
      have next : state.inputByte c = { state with rxbuf } := by
        simp [inputByte, kept, clear, added]
      have few : (state.rxbuf.contents ++ [c]).length ≤ bufSize - 1 := by
        have bound := rxbuf.elements_lt
        rw [← RingBuffer.length_contents, RingBuffer.contents_put added] at bound
        exact Nat.le_sub_one_of_lt bound
      rw [next, List.take_of_length_le few]
      refine ⟨RingBuffer.contents_put added, ?_⟩
      intro overflow
      rw [clear] at overflow
      cases overflow

theorem take_append_take {α : Type*} (count : ℕ) (front back : List α) :
    (front.take count ++ back).take count = (front ++ back).take count := by
  rw [List.take_append, List.take_take, min_self, List.take_append, List.length_take]
  congr 2
  omega

theorem foldl_inputByte_contents {state : SerialLine} {bytes : List Byte}
    (drops : state.DropsWhenFull)
    (kept : ∀ c ∈ bytes, c ≠ ignoredByte)
    (few : state.rxbuf.contents.length ≤ bufSize - 1) :
    (bytes.foldl inputByte state).rxbuf.contents =
      (state.rxbuf.contents ++ bytes).take (bufSize - 1) := by
  induction bytes generalizing state with
  | nil => rw [List.append_nil, List.take_of_length_le few]; rfl
  | cons c rest ih =>
      obtain ⟨contents, nextDrops⟩ := inputByte_contents drops (kept c List.mem_cons_self)
      have bound : (state.inputByte c).rxbuf.contents.length ≤ bufSize - 1 := by
        rw [contents]
        exact List.length_take_le _ _
      rw [List.foldl_cons, ih nextDrops (fun other member =>
        kept other (List.mem_cons_of_mem _ member)) bound, contents]
      have whole : state.rxbuf.contents ++ c :: rest =
          (state.rxbuf.contents ++ [c]) ++ rest := by simp
      rw [whole, take_append_take]

/-- Bytes that are no end bytes are taken out of the ring buffer, and no line is
posted. -/
theorem run_rounds {count : ℕ} {state : SerialLine} (running : state.waiting = false)
    (noEnd : endByte ∉ state.rxbuf.contents)
    (all : state.rxbuf.contents.length = count) :
    ∃ final, run serialStep state (List.replicate count .round) = some final ∧
      final.Idle ∧ final.posted = state.posted := by
  induction count generalizing state with
  | zero => exact ⟨state, rfl, ⟨List.length_eq_zero_iff.1 all, running⟩, rfl⟩
  | succ count ih =>
      obtain ⟨c, rest, contents⟩ := List.exists_cons_of_length_eq_add_one all
      rw [contents, List.mem_cons, not_or] at noEnd
      obtain ⟨next, stepped, remaining, waits, posted⟩ :=
        round_of_contents running contents
      have goes := Ne.symm noEnd.1
      rw [decide_eq_false goes] at waits
      rw [contents, List.length_cons] at all
      obtain ⟨final, executed, idle, same⟩ := ih waits (remaining ▸ noEnd.2)
        (remaining ▸ Nat.succ.inj all)
      refine ⟨final, ?_, idle, same.trans (posted goes)⟩
      rw [List.replicate_succ, run]
      simp only [serialStep, stepped]
      exact executed

/-! ## One line -/

/-- The string in a posted buffer ends before its first NUL. -/
def cBytes (buffer : List Byte) : List Byte := buffer.takeWhile (· ≠ 0)

/-- However the interrupt and the process take their turns, the bytes are posted as these
lines once there is nothing left to do. -/
def Posts (state : SerialLine) (bytes : List Byte) (lines : List (List Byte)) : Prop :=
  ∀ actions final, received actions = bytes →
    run serialStep state actions = some final → final.Idle →
      final.posted.map cBytes = lines

/-- What `println` ends a line with: it depends on the platform. -/
inductive LineBreak where
  | lf
  | crlf
  deriving Repr, DecidableEq

def LineBreak.bytes : LineBreak → List Byte
  | .lf => [endByte]
  | .crlf => [ignoredByte, endByte]

theorem significant_lineBreak (lineBreak : LineBreak) :
    significant lineBreak.bytes = [endByte] := by
  cases lineBreak <;> rfl

theorem Quiet.ahead {state : SerialLine} (quiet : state.Quiet) : state.ahead = {} := by
  rw [quiet.toIdle.ahead, quiet.none, quiet.fresh]

theorem feedAll_line {message : List Byte} (lineBreak : LineBreak)
    (noEnd : endByte ∉ significant message) :
    ({} : Lines Byte).feedAll (bufSize - 1) endByte
        (significant (message ++ lineBreak.bytes)) =
      { complete := [(significant message).take (bufSize - 1)] } := by
  rw [significant, List.filter_append]
  change Lines.feedAll _ _ _ (significant message ++ significant lineBreak.bytes) = _
  rw [significant_lineBreak, Lines.feedAll_append,
    Lines.feedAll_of_not_mem noEnd (Nat.zero_le _), Lines.feedAll_cons,
    Lines.feed_terminator]
  rfl

/-- A line that is longer than the ring buffer is lost when the process takes its turns
after the interrupt. -/
theorem Quiet.lost {state : SerialLine} (quiet : state.Quiet) {message : List Byte}
    (lineBreak : LineBreak) (noEnd : endByte ∉ message) (noCr : ignoredByte ∉ message)
    (long : bufSize - 1 ≤ message.length) :
    ¬ state.Posts (message ++ lineBreak.bytes) [message] := by
  intro posts
  let filled := (message ++ lineBreak.bytes).foldl inputByte state
  have drops : state.DropsWhenFull := by
    intro overflow
    rw [quiet.clear] at overflow
    cases overflow
  have kept : ∀ c ∈ message, c ≠ ignoredByte := by
    intro c member same
    exact noCr (same ▸ member)
  have few : state.rxbuf.contents.length ≤ bufSize - 1 := by
    rw [quiet.empty]
    exact Nat.zero_le _
  have first := foldl_inputByte_contents drops kept few
  rw [quiet.empty, List.nil_append] at first
  have full : (message.foldl inputByte state).rxbuf.contents.length = bufSize - 1 := by
    rw [first, List.length_take, min_eq_left long]
  have contents : filled.rxbuf.contents = message.take (bufSize - 1) := by
    rw [← first]
    simp only [filled, List.foldl_append]
    rw [foldl_inputByte_of_full _ full]
  have unread := foldl_inputByte_read state (message ++ lineBreak.bytes)
  have noEndKept : endByte ∉ filled.rxbuf.contents := by
    rw [contents]
    exact fun member => noEnd (List.mem_of_mem_take member)
  obtain ⟨final, executed, idle, same⟩ :=
    run_rounds (unread.1.trans quiet.running) noEndKept rfl
  have schedule := posts
    ((message ++ lineBreak.bytes).map .inputByte ++
      List.replicate filled.rxbuf.contents.length .round) final ?_ ?_ idle
  · rw [same, unread.2, quiet.none] at schedule
    cases schedule
  · simp [received, SerialAction.received, Function.comp_def]
  · rw [run_append, run_inputBytes]
    exact executed

/-- What is posted as one line fits. -/
theorem Quiet.fits_of_posts {state : SerialLine} (quiet : state.Quiet)
    {message : List Byte} (lineBreak : LineBreak)
    (posts : state.Posts (message ++ lineBreak.bytes) [message]) :
    endByte ∉ message ∧ ignoredByte ∉ message ∧ 0 ∉ message ∧
      message.length < bufSize - 1 := by
  obtain ⟨final, executed, idle, ahead⟩ :=
    quiet.toIdle.run_allPromptly quiet.clear (message ++ lineBreak.bytes)
  have posted := posts _ final (received_promptly _) executed idle
  rw [quiet.ahead, idle.ahead] at ahead
  have noEnd : endByte ∉ significant message := by
    have lines := congrArg (fun lines => lines.complete.length) ahead
    have one := congrArg List.length posted
    rw [List.length_map, List.length_singleton] at one
    dsimp only at lines
    rw [one, Lines.length_complete_feedAll, significant, List.filter_append,
      List.count_append] at lines
    change 1 = 0 + (_ + (significant lineBreak.bytes).count endByte) at lines
    rw [significant_lineBreak, List.count_singleton_self] at lines
    apply List.count_eq_zero.1
    change (List.filter _ message).count endByte = 0
    omega
  rw [feedAll_line lineBreak noEnd] at ahead
  have complete : final.posted = [(significant message).take (bufSize - 1)] :=
    congrArg Lines.complete ahead
  rw [complete, List.map_singleton, List.cons.injEq] at posted
  have within : ∀ c ∈ message, c ∈ significant message ∧ c ≠ 0 := by
    intro c member
    rw [← posted.1] at member
    have kept := List.takeWhile_subset _ member
    have positive := List.mem_takeWhile_imp member
    exact ⟨List.mem_of_mem_take kept, by simpa using positive⟩
  have noEndByte : endByte ∉ message := fun member => noEnd (within _ member).1
  have noCr : ignoredByte ∉ message := by
    intro member
    have kept := (within _ member).1
    simp [significant] at kept
  refine ⟨noEndByte, noCr, fun member => (within _ member).2 rfl, ?_⟩
  by_contra long
  exact quiet.lost lineBreak noEndByte noCr (not_lt.1 long) posts

/-- What fits is posted as one line under every schedule. -/
theorem Quiet.posts_of_fits {state : SerialLine} (quiet : state.Quiet)
    {message : List Byte} (lineBreak : LineBreak)
    (fits : endByte ∉ message ∧ ignoredByte ∉ message ∧ 0 ∉ message ∧
      message.length < bufSize - 1) :
    state.Posts (message ++ lineBreak.bytes) [message] := by
  obtain ⟨noEnd, noCr, noNul, short⟩ := fits
  intro actions final bytes executed idle
  have all : significant message = message := by
    apply List.filter_eq_self.2
    intro c member
    apply decide_eq_true
    exact fun same => noCr (same ▸ member)
  have kept : significant (message ++ lineBreak.bytes) = message ++ [endByte] := by
    rw [significant, List.filter_append]
    change significant message ++ significant lineBreak.bytes = _
    rw [all, significant_lineBreak]
  have room : state.rxbuf.contents.length + (significant (received actions)).length <
      bufSize := by
    rw [quiet.empty, bytes, kept, List.length_append, List.length_nil, Nat.zero_add,
      List.length_singleton]
    exact Nat.add_lt_of_lt_sub short
  have ahead := (run_ahead quiet.clear room executed).2
  rw [idle.ahead, quiet.ahead, bytes, feedAll_line lineBreak (by rwa [all]), all,
    List.take_of_length_le short.le] at ahead
  have posted : final.posted = [message] := congrArg Lines.complete ahead
  rw [posted, List.map_singleton, cBytes]
  congr 1
  apply List.takeWhile_eq_self_iff.2
  intro c member
  apply decide_eq_true
  exact fun same => noNul (same ▸ member)

/-- Bytes are posted as one line exactly when they hold no end byte, no ignored byte and
no NUL and fit into the ring buffer with their end. -/
theorem Quiet.posts_iff {state : SerialLine} (quiet : state.Quiet) (message : List Byte)
    (lineBreak : LineBreak) :
    state.Posts (message ++ lineBreak.bytes) [message] ↔
      endByte ∉ message ∧ ignoredByte ∉ message ∧ 0 ∉ message ∧
        message.length < bufSize - 1 :=
  ⟨quiet.fits_of_posts lineBreak, quiet.posts_of_fits lineBreak⟩

end SerialLine

end IotLab.Firmware
