import IotLab.Server.IngestErrors

/-!
# The table of sinks

`addSink` stores the version that a line of a sink reports.  A sink has one row, so that the
table gives every address its last version.
-/

namespace IotLab.Server

open IotLab.Library

/-- `InfoResource.addSink`: the table and the rows of the stream.  Senders and sinks share the
table of motes. -/
def addSink (store : Store) (sinks : List Sink) (dataStr : Text) :
    Except Failure (List Sink × List Sink) :=
  ingestSink store sinks (store.senders ++ sinks.map Sink.mac) dataStr

/-- The version of the sink with an address. -/
def versionOf (sinks : List Sink) (addr : Text) : Option ℤ :=
  (sinks.find? fun sink => sink.mac = addr).map Sink.dodagVersionNumber

/-- What merging makes of the table: the address gets the version, and no other one does. -/
structure Merged (sinks : List Sink) (addr : Text) (dvn : ℤ) (merged : Sink × List Sink) :
    Prop where
  mac : merged.1.mac = addr
  version : merged.1.dodagVersionNumber = dvn
  unique : (merged.2.map Sink.mac).Nodup
  versions : ∀ other, versionOf merged.2 other =
    if other = addr then some dvn else versionOf sinks other

section Merge

variable {motes : List Text} {sinks : List Sink} {addr : Text} {dvn : ℤ}

/-- With unique addresses a known sink is the only one with its address. -/
theorem filter_mac_of_unique (unique : (sinks.map Sink.mac).Nodup) {sink : Sink}
    (member : sink ∈ sinks) : (sinks.filter fun other => other.mac = sink.mac) = [sink] := by
  induction sinks with
  | nil => cases member
  | cons first rest ih =>
      rw [List.map_cons, List.nodup_cons] at unique
      rcases List.mem_cons.1 member with rfl | later
      · rw [List.filter_cons_of_pos (by simp), List.filter_eq_nil_iff.2]
        intro other inside same
        exact unique.1 (List.mem_map.2 ⟨other, inside, of_decide_eq_true same⟩)
      · have apart : first.mac ≠ sink.mac := fun same =>
          unique.1 (same ▸ List.mem_map_of_mem later)
        rw [List.filter_cons_of_neg (by simpa using apart), ih unique.2 later]

theorem map_mac_update :
    (sinks.map fun other =>
      if other.mac = addr then { other with dodagVersionNumber := dvn } else other).map Sink.mac =
        sinks.map Sink.mac := by
  rw [List.map_map]
  apply List.map_congr_left
  intro other _
  simp only [Function.comp_apply]
  split <;> rfl

/-- A known sink gets its version. -/
theorem merged_update (unique : (sinks.map Sink.mac).Nodup) {sink : Sink} (member : sink ∈ sinks)
    (dvn : ℤ) :
    Merged sinks sink.mac dvn ({ sink with dodagVersionNumber := dvn }, sinks.map fun other =>
      if other.mac = sink.mac then { other with dodagVersionNumber := dvn } else other) := by
  refine ⟨rfl, rfl, ?_, ?_⟩
  · rw [map_mac_update]
    exact unique
  · intro other
    have kept : (fun row : Sink => decide (row.mac = other)) ∘ (fun row : Sink =>
        if row.mac = sink.mac then { row with dodagVersionNumber := dvn } else row) =
          fun row => decide (row.mac = other) := by
      funext row
      simp only [Function.comp_apply]
      split <;> rfl
    rw [versionOf, List.find?_map, kept, versionOf, Option.map_map]
    cases found : sinks.find? fun row => row.mac = other with
    | none =>
        have absent := List.find?_eq_none.1 found sink member
        rw [if_neg]
        · rfl
        · rintro rfl
          exact absent (decide_eq_true rfl)
    | some row =>
        have here : row.mac = other := by simpa using List.find?_some found
        subst here
        simp only [Option.map_some, Function.comp_apply]
        split <;> rfl

/-- A new sink gets a row. -/
theorem merged_new (unique : (sinks.map Sink.mac).Nodup) (unknown : addr ∉ sinks.map Sink.mac)
    (dvn : ℤ) : Merged sinks addr dvn (⟨addr, addr, dvn⟩, sinks ++ [⟨addr, addr, dvn⟩]) := by
  refine ⟨rfl, rfl, ?_, ?_⟩
  · rw [List.map_append, List.nodup_append]
    refine ⟨unique, List.nodup_singleton _, ?_⟩
    rintro _ old _ new rfl
    rw [List.mem_singleton.1 new] at old
    exact unknown old
  · intro other
    rw [versionOf, List.find?_append, versionOf]
    split
    · next here =>
        subst here
        have absent : (sinks.find? fun sink => sink.mac = other) = none :=
          List.find?_eq_none.2 fun sink member same =>
            unknown (List.mem_map.2 ⟨sink, member, of_decide_eq_true same⟩)
        rw [absent]
        simp
    · next apart => simp [Ne.symm apart]

/-- In a table with unique addresses the sink is merged, unless a mote of another kind has its
address. -/
theorem mergeSink_merged (unique : (sinks.map Sink.mac).Nodup)
    (free : addr ∈ motes → addr ∈ sinks.map Sink.mac) (dvn : ℤ) :
    ∃ merged, mergeSink motes sinks addr dvn = .ok merged ∧ Merged sinks addr dvn merged := by
  by_cases known : addr ∈ sinks.map Sink.mac
  · obtain ⟨sink, member, rfl⟩ := List.mem_map.1 known
    refine ⟨_, ?_, merged_update unique member dvn⟩
    simp only [mergeSink, filter_mac_of_unique unique member]
  · have nothing : (sinks.filter fun sink => sink.mac = addr) = [] :=
      List.filter_eq_nil_iff.2 fun sink member same =>
        known (List.mem_map.2 ⟨sink, member, of_decide_eq_true same⟩)
    refine ⟨_, ?_, merged_new unique known dvn⟩
    simp only [mergeSink, nothing, if_neg fun taken => known (free (List.contains_iff_mem.1 taken))]

end Merge

/-! ## The line of a sink -/

/-- The server takes the reports of the sinks: there is a type for them, and no filter reads a
decimal number behind a report. -/
structure AcceptsReports (store : Store) : Prop where
  type : ∃ type, store.findType 1 = .ok type ∧ type.minDataNumber ≤ 4 ∧
    type.streamName = "SinkStream".toList
  filters : ∀ type, store.findType 1 = .ok type → ∀ filter ∈ store.filters.find type.id,
    filter.offset = 4 → strategyNamed filter.className ≠ some .batteryRemaining

section Line

variable {store : Store} {sinks : List Sink} {time nodeId dvn : ℤ}

/-- The stream of a report. -/
theorem newSinkStream_report (idFits : FitsSigned 32 nodeId) (dvnFits : FitsSigned 32 dvn) :
    newSinkStream store (joinBlank ([time, 1, nodeId, dvn].map printInt)) =
      (store, (store.findType 1).map fun type =>
        { streamName := "SinkStream".toList
          timestamp := 0
          data := [0, 1, nodeId, dvn]
          type }) := by
  have fits : ∀ value ∈ [1, nodeId, dvn], FitsSigned 32 value := by
    intro value member
    simp only [List.mem_cons, List.not_mem_nil, or_false] at member
    rcases member with rfl | rfl | rfl
    · decide
    · exact idFits
    · exact dvnFits
  have visible : ∀ token ∈ [time, 1, nodeId, dvn].map printInt, Visible token := by
    intro token member
    rcases List.mem_map.1 member with ⟨value, _, rfl⟩
    exact visible_printInt value
  have tokens : splitEach isSpace (joinBlank ([time, 1, nodeId, dvn].map printInt)) =
      [time, 1, nodeId, dvn].map printInt :=
    splitEach_joinBlank rfl (fun _ above => isSpace_of_above above) (by simp) visible
  have read : sinkTokens (joinBlank ([time, 1, nodeId, dvn].map printInt)) =
      ([0, 1, nodeId, dvn], []) := by
    rw [sinkTokens, tokens]
    exact readTokens_map_printInt "Sink data parsing".toList fits
  have typed : readInt [0, 1, nodeId, dvn] typeOffset = .ok 1 := rfl
  simp only [newSinkStream, read, typed, List.append_nil]
  cases found : store.findType 1 <;> simp [found, bind, Except.bind, Except.map]

/-- A report of a sink whose address no sender has is merged. -/
theorem addSink_report (accepts : AcceptsReports store) (unique : (sinks.map Sink.mac).Nodup)
    (idFits : FitsSigned 32 nodeId) (dvnFits : FitsSigned 32 dvn) (idSign : 0 ≤ nodeId)
    (dvnSign : 0 ≤ dvn) (free : moteAddress nodeId ∉ store.senders) :
    ∃ merged, addSink store sinks (joinBlank ([time, 1, nodeId, dvn].map printInt)) =
        .ok (merged.2, [merged.1]) ∧
      Merged sinks (moteAddress nodeId) dvn merged := by
  obtain ⟨type, found, short, name⟩ := accepts.type
  let stream : InputStream :=
    { streamName := "SinkStream".toList, timestamp := 0, data := [0, 1, nodeId, dvn], type }
  have valid : stream.checkValidity = .ok () := by
    rw [InputStream.checkValidity, if_pos]
    exact ⟨short, name⟩
  have decimals : DecimalsFit store stream := by
    constructor
    · rintro ⟨filter, _, _, part, member, negative⟩
      have inside : part ∈ [0, 1, nodeId, dvn] := List.mem_of_getElem? member
      simp only [List.mem_cons, List.not_mem_nil, or_false] at inside
      omega
    · rintro ⟨filter, member, decimal, last⟩
      exact accepts.filters type found filter ((List.takeWhile_sublist _).subset member) last
        decimal
  obtain ⟨values, computed⟩ := exists_values valid decimals
  have others : moteAddress nodeId ∈ store.senders ++ sinks.map Sink.mac →
      moteAddress nodeId ∈ sinks.map Sink.mac :=
    fun taken => (List.mem_append.1 taken).resolve_left free
  obtain ⟨merged, outcome, holds⟩ := mergeSink_merged unique others dvn
  refine ⟨merged, ?_, holds⟩
  have converted : stream.convertSink store (store.senders ++ sinks.map Sink.mac) sinks
      .doubleDefault = .ok (merged.2, [merged.1]) := by
    have node : readInt [0, 1, nodeId, dvn] sinkIdOffset = .ok nodeId := rfl
    have version : readInt [0, 1, nodeId, dvn] dvnOffset = .ok dvn := rfl
    simp only [InputStream.convertSink, computed, InputStream.postConvertSink, stream, node,
      version, outcome, bind, Except.bind]
  rw [addSink, ingestSink, newSinkStream_report idFits dvnFits, found]
  exact converted

end Line

end IotLab.Server
