import IotLab.Library.Positions
import IotLab.Library.Serial
import IotLab.Server.DataStream
import Mathlib.Algebra.BigOperators.Group.Finset.Basic

/-!
# The loss ratio

`DataDAO.getLossRatio` goes once through the rows of all motes.  It keeps its counters
in three lists, and a map gives every mote its position in them.  The sequence numbers
are reduced modulo 128.
-/

namespace IotLab.Server

open IotLab.Library

/-- The local variables of `getLossRatio`. -/
structure LossCounters where
  receivedNb : List ℤ := []
  theoryNb : List ℤ := []
  lastSeqNo : List ℤ := []
  indexOfCnt : AList fun _ : Text => ℕ := ∅
  c : ℕ := 0

/-- The cast `(int)` of a `double`. -/
def castInt (value : ℚ) : ℤ := value.num.tdiv value.den

/-- A mote without a position gets the next one. -/
def LossCounters.addMote (counters : LossCounters) (mac : Text) : LossCounters :=
  if counters.indexOfCnt.lookup mac = none then
    { receivedNb := counters.receivedNb ++ [0]
      theoryNb := counters.theoryNb ++ [0]
      lastSeqNo := counters.lastSeqNo ++ [-1]
      indexOfCnt := counters.indexOfCnt.insert mac counters.c
      c := counters.c + 1 }
  else counters

/-- The body of the first loop for a row of the mote at a position. -/
def LossCounters.countAt (counters : LossCounters) (index : ℕ) (value : ℚ) :
    Except Failure LossCounters := do
  let seqNo := (castInt value).tmod 128
  let received ← readInt counters.receivedNb index
  let last ← readInt counters.lastSeqNo index
  let theory ← readInt counters.theoryNb index
  .ok { counters with
    receivedNb := counters.receivedNb.set index (received + 1)
    theoryNb :=
      if 0 ≤ last then
        counters.theoryNb.set index (theory + max 1 ((seqNo - last + 128).tmod 128))
      else counters.theoryNb
    lastSeqNo := counters.lastSeqNo.set index seqNo }

/-- The body of the first loop. -/
def countRow (counters : LossCounters) (row : Data) : Except Failure LossCounters :=
  let added := counters.addMote row.mote
  match added.indexOfCnt.lookup row.mote with
  | none => .error .indexOutOfBounds
  | some index => added.countAt index row.value

/-- The first loop. -/
def countRows (data : List Data) : Except Failure LossCounters :=
  data.foldlM countRow {}

/-- `1 - received / theory` as `double`s; `none` is the `NaN` of `0 / 0`. -/
def lossOf (received theory : ℤ) : Option ℚ :=
  if theory = 0 then none else some (1 - (received : ℚ) / theory)

/-- The entry of a mote in `lossRatios`. -/
def LossCounters.lossRatio (counters : LossCounters) (index : ℕ) : Option ℚ :=
  lossOf (counters.receivedNb.getD index 0) (counters.theoryNb.getD index 0 + 1)

/-- The entry of a mote in `theoryNb`. -/
def LossCounters.theoryOf (counters : LossCounters) (mac : Text) : Option ℤ :=
  (counters.indexOfCnt.lookup mac).bind fun index => counters.theoryNb[index]?

/-- The sums over all motes. -/
def LossCounters.sums (counters : LossCounters) : ℤ × ℤ :=
  (counters.receivedNb.sum, (counters.theoryNb.map fun theory => theory + 1).sum)

/-- `getLossRatio` on the rows of its query, which are in the order of their ids. -/
def getLossRatio (data : List Data) : Except Failure (AList fun _ : Text => Option ℚ) := do
  let counters ← countRows data
  let lossRatios := counters.indexOfCnt.entries.foldl
    (fun ratios entry => AList.insert entry.1 (counters.lossRatio entry.2) ratios) ∅
  .ok (lossRatios.insert "all".toList (lossOf counters.sums.1 counters.sums.2))

/-! ## The counters of one mote -/

/-- What the counters hold for one mote. -/
structure Tally where
  received : ℤ
  theory : ℤ
  last : ℤ

/-- Before the first row. -/
def Tally.start : Tally := ⟨0, 0, -1⟩

/-- The row with a value. -/
def Tally.add (tally : Tally) (value : ℚ) : Tally :=
  let seqNo := (castInt value).tmod 128
  { received := tally.received + 1
    theory := if 0 ≤ tally.last then tally.theory + serialDistance 128 tally.last seqNo
      else tally.theory
    last := seqNo }

/-- The values of a mote, in order. -/
def valuesOf (data : List Data) (mac : Text) : List ℚ :=
  (data.filter fun row => row.mote = mac).map Data.value

/-- The counters of a mote after some rows. -/
def tallyOf (data : List Data) (mac : Text) : Tally :=
  (valuesOf data mac).foldl Tally.add .start

theorem valuesOf_snoc_self (data : List Data) (row : Data) :
    valuesOf (data ++ [row]) row.mote = valuesOf data row.mote ++ [row.value] := by
  simp [valuesOf]

theorem valuesOf_snoc_ne (data : List Data) {row : Data} {mac : Text}
    (different : mac ≠ row.mote) : valuesOf (data ++ [row]) mac = valuesOf data mac := by
  simp [valuesOf, Ne.symm different]

theorem tallyOf_snoc_self (data : List Data) (row : Data) :
    tallyOf (data ++ [row]) row.mote = (tallyOf data row.mote).add row.value := by
  rw [tallyOf, valuesOf_snoc_self, List.foldl_append]
  rfl

theorem tallyOf_snoc_ne (data : List Data) {row : Data} {mac : Text}
    (different : mac ≠ row.mote) : tallyOf (data ++ [row]) mac = tallyOf data mac := by
  rw [tallyOf, valuesOf_snoc_ne data different, tallyOf]

theorem tallyOf_absent {data : List Data} {mac : Text}
    (absent : mac ∉ data.map Data.mote) : tallyOf data mac = .start := by
  have none : valuesOf data mac = [] := by
    rw [valuesOf, List.map_eq_nil_iff, List.filter_eq_nil_iff]
    intro row member same
    exact absent (List.mem_map.2 ⟨row, member, of_decide_eq_true same⟩)
  rw [tallyOf, none]
  rfl

/-! ## The loop keeps the counters of every mote -/

/-- The counters hold the tallies of the motes. -/
structure Represents (counters : LossCounters) (macs : List Text) (tally : Text → Tally) :
    Prop where
  unique : macs.Nodup
  positions : ∀ mac, counters.indexOfCnt.lookup mac = macs.idxOf? mac
  size : counters.c = macs.length
  received : counters.receivedNb = macs.map fun mac => (tally mac).received
  theory : counters.theoryNb = macs.map fun mac => (tally mac).theory
  last : counters.lastSeqNo = macs.map fun mac => (tally mac).last

section Loop

variable {counters : LossCounters} {macs : List Text} {tally : Text → Tally} {mac : Text}

/-- Afterwards the mote has a position. -/
theorem Represents.addMote (represents : Represents counters macs tally)
    (absent : mac ∉ macs → tally mac = .start) :
    ∃ more, Represents (counters.addMote mac) more tally ∧
      ∀ other, other ∈ more ↔ other = mac ∨ other ∈ macs := by
  rw [LossCounters.addMote, represents.positions]
  by_cases known : mac ∈ macs
  · rw [if_neg]
    · refine ⟨macs, represents, fun other => ⟨.inr, ?_⟩⟩
      rintro (rfl | member)
      · exact known
      · exact member
    · rw [List.idxOf?_eq_none_iff]
      exact fun new => new known
  · rw [if_pos (List.idxOf?_eq_none_iff.2 known)]
    have fresh := absent known
    refine ⟨macs ++ [mac], ⟨?_, ?_, ?_, ?_, ?_, ?_⟩, ?_⟩
    · exact List.nodup_append.2 ⟨represents.unique, List.nodup_singleton mac,
        fun other member last only same =>
          known (List.mem_singleton.1 only ▸ same ▸ member)⟩
    · intro other
      rw [idxOf?_append_new known]
      by_cases same : other = mac
      · subst same
        rw [if_pos rfl, AList.lookup_insert, represents.size]
      · rw [if_neg same, AList.lookup_insert_ne same, represents.positions]
    · simp [represents.size]
    · simp [represents.received, fresh, Tally.start]
    · simp [represents.theory, fresh, Tally.start]
    · simp [represents.last, fresh, Tally.start]
    · intro other
      rw [List.mem_append, List.mem_singleton, or_comm]

theorem readInt_map_position {position : ℕ} (found : macs.idxOf? mac = some position)
    (table : Text → ℤ) : readInt (macs.map table) position = .ok (table mac) := by
  rw [readInt, getElem?_map_position found]

/-- A row adds to the tally of its mote. -/
theorem Represents.countAt (represents : Represents counters macs tally) {position : ℕ}
    (found : macs.idxOf? mac = some position) (value : ℚ) :
    ∃ next, counters.countAt position value = .ok next ∧
      Represents next macs
        (Function.update tally mac ((tally mac).add value)) := by
  have set : ∀ field : Tally → ℤ,
      (macs.map fun other => field (tally other)).set position
          (field ((tally mac).add value)) =
        macs.map fun other =>
          field (Function.update tally mac ((tally mac).add value) other) := by
    intro field
    have changed := map_set_position represents.unique found
      (fun other => field (tally other))
      (fun other => field (Function.update tally mac ((tally mac).add value) other))
      fun other different => by rw [Function.update_of_ne different]
    rw [Function.update_self] at changed
    exact changed
  rw [LossCounters.countAt, represents.received, represents.theory, represents.last,
    readInt_map_position found, readInt_map_position found, readInt_map_position found]
  refine ⟨_, rfl, ⟨represents.unique, represents.positions, represents.size, ?_, ?_, ?_⟩⟩
  · exact set Tally.received
  · rw [← set Tally.theory]
    by_cases started : 0 ≤ (tally mac).last
    · rw [if_pos started, Tally.add, if_pos started]
      rfl
    · rw [if_neg started, Tally.add, if_neg started]
      have here := getElem?_map_position found fun other => (tally other).theory
      have low := (List.getElem?_eq_some_iff.1 here).1
      rw [← Option.some_inj.1 ((List.getElem?_eq_getElem low).symm.trans here),
        List.set_getElem_self]
  · exact set Tally.last

theorem tallyOf_snoc (data : List Data) (row : Data) :
    tallyOf (data ++ [row]) = Function.update (tallyOf data) row.mote
      ((tallyOf data row.mote).add row.value) := by
  funext mac
  by_cases own : mac = row.mote
  · rw [own, Function.update_self, tallyOf_snoc_self]
  · rw [Function.update_of_ne own, tallyOf_snoc_ne data own]

/-- One turn of the loop. -/
theorem Represents.countRow {data : List Data}
    (represents : Represents counters macs (tallyOf data))
    (motes : ∀ mac, mac ∈ macs ↔ mac ∈ data.map Data.mote) (row : Data) :
    ∃ next more, countRow counters row = .ok next ∧
      Represents next more (tallyOf (data ++ [row])) ∧
        ∀ mac, mac ∈ more ↔ mac ∈ (data ++ [row]).map Data.mote := by
  have absent : row.mote ∉ macs → tallyOf data row.mote = .start :=
    fun new => tallyOf_absent fun member => new ((motes row.mote).2 member)
  obtain ⟨more, added, members⟩ := represents.addMote absent
  have member : row.mote ∈ more := (members row.mote).2 (.inl rfl)
  obtain ⟨position, found⟩ := Option.isSome_iff_exists.1
    (List.isSome_idxOf?.2 member)
  obtain ⟨next, counted, kept⟩ := added.countAt found row.value
  refine ⟨next, more, ?_, ?_, ?_⟩
  · simp only [Server.countRow, added.positions, found, counted]
  · rw [tallyOf_snoc]
    exact kept
  · intro mac
    rw [members, motes, List.map_append, List.mem_append, List.map_singleton,
      List.mem_singleton, or_comm]

/-- After the first loop the counters hold the tallies of the motes of the rows. -/
theorem represents_countRows (data : List Data) :
    ∃ counters macs, countRows data = .ok counters ∧
      Represents counters macs (tallyOf data) ∧
        ∀ mac, mac ∈ macs ↔ mac ∈ data.map Data.mote := by
  induction data using List.reverseRecOn with
  | nil =>
      refine ⟨{}, [], rfl, ⟨List.nodup_nil, fun mac => ?_, rfl, rfl, rfl, rfl⟩, ?_⟩
      · exact AList.lookup_empty mac
      · simp
  | append_singleton data row ih =>
      obtain ⟨counters, macs, counted, represents, motes⟩ := ih
      obtain ⟨next, more, stepped, kept, members⟩ := represents.countRow motes row
      refine ⟨next, more, ?_, kept, members⟩
      rw [countRows] at counted
      rw [countRows, List.foldlM_append, counted]
      simp only [List.foldlM_cons, List.foldlM_nil, bind_pure]
      exact stepped

theorem LossCounters.theoryOf_of_represents (counters : LossCounters)
    (represents : Represents counters macs tally) (member : mac ∈ macs) :
    counters.theoryOf mac = some (tally mac).theory := by
  obtain ⟨position, found⟩ := Option.isSome_iff_exists.1 (List.isSome_idxOf?.2 member)
  rw [LossCounters.theoryOf, represents.positions, found, Option.bind_some,
    represents.theory]
  exact getElem?_map_position found _

end Loop

/-! ## The loss ratios -/

/-- The motes of the rows. -/
def motesOf (data : List Data) : Finset Text := (data.map Data.mote).toFinset

/-- There is an entry for each mote and one for all of them, which comes last. -/
theorem getLossRatio_lookup (data : List Data) :
    ∃ ratios, getLossRatio data = .ok ratios ∧
      (∀ mac, mac ≠ "all".toList → ratios.lookup mac =
        if mac ∈ motesOf data then
          some (lossOf (tallyOf data mac).received ((tallyOf data mac).theory + 1))
        else none) ∧
      ratios.lookup "all".toList =
        some (lossOf (∑ mac ∈ motesOf data, (tallyOf data mac).received)
          (∑ mac ∈ motesOf data, ((tallyOf data mac).theory + 1))) := by
  obtain ⟨counters, macs, counted, represents, motes⟩ := represents_countRows data
  have same : motesOf data = macs.toFinset := by
    ext mac
    rw [motesOf, List.mem_toFinset, List.mem_toFinset, motes]
  refine ⟨_, by rw [getLossRatio, counted]; rfl, ?_, ?_⟩
  · intro mac different
    have entry := represents.positions mac
    rw [AList.lookup] at entry
    rw [AList.lookup_insert_ne different, same,
      lookup_foldl_insert _ _ counters.indexOfCnt.nodupKeys, entry]
    by_cases member : mac ∈ macs
    · obtain ⟨position, found⟩ := Option.isSome_iff_exists.1 (List.isSome_idxOf?.2 member)
      rw [found, if_pos (List.mem_toFinset.2 member)]
      simp only [LossCounters.lossRatio, represents.received, represents.theory,
        List.getD_eq_getElem?_getD]
      rw [getElem?_map_position found, getElem?_map_position found]
      rfl
    · rw [List.idxOf?_eq_none_iff.2 member, if_neg fun known => member (List.mem_toFinset.1 known)]
      exact AList.lookup_empty mac
  · rw [AList.lookup_insert, same, List.sum_toFinset _ represents.unique,
      List.sum_toFinset _ represents.unique, LossCounters.sums, represents.received,
      represents.theory, List.map_map]
    rfl

theorem getLossRatio_eq (data : List Data) :
    ∃ ratios, getLossRatio data = .ok ratios ∧
      (∀ mac ∈ motesOf data, mac ≠ "all".toList → ratios.lookup mac =
        some (lossOf (tallyOf data mac).received ((tallyOf data mac).theory + 1))) ∧
      ratios.lookup "all".toList =
        some (lossOf (∑ mac ∈ motesOf data, (tallyOf data mac).received)
          (∑ mac ∈ motesOf data, ((tallyOf data mac).theory + 1))) := by
  obtain ⟨ratios, computed, entries, all⟩ := getLossRatio_lookup data
  refine ⟨ratios, computed, fun mac member different => ?_, all⟩
  rw [entries mac different, if_pos member]

end IotLab.Server
