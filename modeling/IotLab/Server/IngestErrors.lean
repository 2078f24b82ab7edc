import IotLab.Server.SampleRange
import IotLab.Server.SinkStream
import IotLab.Server.Validity

/-!
# The errors of the streams

The resources answer an `InvalidDataException` and a `DAOException` with a failure; any
other exception escapes them.  The constructors and the conversions read fixed indices
of the line before its length is checked, or behind a check for another length, and they
add motes whose addresses motes of another kind can have.
-/

namespace IotLab.Server

open IotLab.Library

/-- The exceptions that the resources catch. -/
def Failure.Declared : Failure → Prop
  | .invalidData _ => True
  | .dao _ _ => True
  | _ => False

/-- There is a result or an exception that the resources catch. -/
def NothingEscapes {α : Type} (result : Except Failure α) : Prop :=
  ∀ failure, result = .error failure → failure.Declared

/-! ## The three streams -/

/-- A data stream is built and converted. -/
def ingestData (store : Store) (text : Text) : Except Failure (List Data) :=
  let built := newDataStream store text
  built.2 >>= fun stream => (stream.convertData built.1 .doubleDefault).2

/-- A geolocation stream is built and converted. -/
def ingestGeoloc (store : Store) (text : Text) : Except Failure (List GeolocationData) :=
  let built := newGeolocStream store text
  built.2 >>= fun stream => (stream.convertGeoloc built.1 .doubleDefault).2

/-- A sink stream is built and converted; `motes` are the addresses of all motes. -/
def ingestSink (store : Store) (sinks : List Sink) (motes : List Text) (text : Text) :
    Except Failure (List Sink × List Sink) :=
  let built := newSinkStream store text
  built.2 >>= fun stream => stream.convertSink built.1 motes sinks .doubleDefault

/-! ## When no other exception escapes -/

/-- The text has a type behind the first token. -/
def HasType (text : Text) : Prop := 2 ≤ (splitEach isSpace text).length

/-- No filter that is served reads a decimal number in a negative integer or behind the
line. -/
def DecimalsFit (store : Store) (stream : InputStream) : Prop :=
  ¬ NegativePart (store.filters.find stream.type.id) stream.data ∧
    ¬ MissingPart (store.filters.find stream.type.id) stream.data

/-- The line has a node, and every value has a filter of its index and is no address
unless there is no single active experiment. -/
def DataFits (store : Store) (stream : InputStream) : Prop :=
  let filters := store.filters.find stream.type.id
  let length := stream.data.length
  DecimalsFit store stream ∧ nodeIdOffset < length ∧
    ((∀ experiment, store.getActiveExperiment ≠ .ok experiment) ∨
      ¬ AddressReached filters length ∧
        (keptPositions filters length).length ≤ filters.length)

/-- The line has a declared number, and its loop stays in the line. -/
def GeolocFits (store : Store) (stream : InputStream) : Prop :=
  DecimalsFit store stream ∧ ∃ nb, stream.data[dataNbOffset]? = some nb ∧
    (neighborCount stream.data nb = 0 ∨
      firstNeighborId + 2 * neighborCount stream.data nb ≤ stream.data.length)

/-- The line has a node and a version. -/
def SinkFits (store : Store) (stream : InputStream) : Prop :=
  DecimalsFit store stream ∧ dvnOffset < stream.data.length

/-- The address is that of one sink, or of no mote. -/
def AcceptsSink (sinks : List Sink) (motes : List Text) (address : Text) : Prop :=
  address ∈ motes → ∃ sink, (sinks.filter fun sink => sink.mac = address) = [sink]

/-- The stream that a line with a known type stands for, whatever its first token is. -/
def readSinkText (store : Store) (text : Text) : Option InputStream :=
  match splitEach isSpace text with
  | _ :: first :: rest => do
      let type ← store.types.find? fun type => type.id = (parseSigned 32 first).getD 0
      some
        { streamName := "SinkStream".toList
          timestamp := 0
          data := 0 :: (first :: rest).map fun token => (parseSigned 32 token).getD 0
          type }
  | _ => none

section Results

variable {α β : Type} {failure : Failure}

theorem nothingEscapes_ok (value : α) : NothingEscapes (.ok value : Except Failure α) := by
  intro failure fails
  cases fails

theorem nothingEscapes_error_iff :
    NothingEscapes (.error failure : Except Failure α) ↔ failure.Declared := by
  constructor
  · intro ends
    exact ends failure rfl
  · rintro declared _ ⟨⟩
    exact declared

theorem nothingEscapes_bind_iff {first : Except Failure α} {second : α → Except Failure β} :
    NothingEscapes (first >>= second) ↔
      NothingEscapes first ∧ ∀ value, first = .ok value → NothingEscapes (second value) := by
  cases first with
  | error failure =>
      simp only [bind, Except.bind, nothingEscapes_error_iff]
      simp
  | ok value =>
      simp only [bind, Except.bind, nothingEscapes_ok, true_and, Except.ok.injEq, forall_eq']

theorem nothingEscapes_readInt_iff {data : List ℤ} {index : ℕ} :
    NothingEscapes (readInt data index) ↔ index < data.length := by
  by_cases inside : index < data.length
  · rw [readInt_of_lt inside]
    exact iff_of_true (nothingEscapes_ok _) inside
  · rw [readInt_of_le (not_lt.1 inside), nothingEscapes_error_iff]
    exact iff_of_false id inside

theorem nothingEscapes_findType (store : Store) (id : ℤ) :
    NothingEscapes (store.findType id) := by
  rw [Store.findType]
  split
  · exact nothingEscapes_error_iff.2 trivial
  · exact nothingEscapes_ok _

theorem nothingEscapes_getActiveExperiment (store : Store) :
    NothingEscapes store.getActiveExperiment := by
  rw [Store.getActiveExperiment]
  split
  · exact nothingEscapes_error_iff.2 trivial
  · exact nothingEscapes_ok _
  · exact nothingEscapes_error_iff.2 trivial

theorem nothingEscapes_checkValidity (stream : InputStream) :
    NothingEscapes stream.checkValidity := by
  rw [InputStream.checkValidity]
  split
  · exact nothingEscapes_ok _
  · exact nothingEscapes_error_iff.2 trivial

end Results

/-! ## The conversions -/

section Conversions

variable {store : Store} {stream : InputStream}

/-- The values of a valid line are computed without another exception exactly if the
decimal numbers fit. -/
theorem nothingEscapes_convertValues_iff :
    NothingEscapes (stream.convertValues store .doubleDefault) ↔
      (stream.checkValidity = .ok () → DecimalsFit store stream) := by
  rw [InputStream.convertValues, nothingEscapes_bind_iff,
    and_iff_right (nothingEscapes_checkValidity stream)]
  have once : ∀ {property : Prop}, (∀ value : Unit, stream.checkValidity = .ok value →
      property) ↔ (stream.checkValidity = .ok () → property) :=
    ⟨fun every => every (), fun valid _ => valid⟩
  rw [once]
  apply imp_congr_right
  intro _
  obtain ⟨outcome, negative⟩ | ⟨outcome, _, missing⟩ |
      ⟨noNegative, noMissing, values, outcome, _⟩ :=
    convertLoop_cases stream.data (store.filters.sorted_find stream.type.id)
      (by decide : Strategy.doubleDefault ≠ .batteryRemaining)
  · rw [outcome, nothingEscapes_error_iff]
    exact iff_of_false id fun fit => fit.1 negative
  · rw [outcome, nothingEscapes_error_iff]
    exact iff_of_false id fun fit => fit.2 missing
  · rw [outcome]
    exact iff_of_true (nothingEscapes_ok _) ⟨noNegative, noMissing⟩

theorem convertValues_ok {values : List Converted}
    (outcome : stream.convertValues store .doubleDefault = .ok values) :
    stream.checkValidity = .ok () ∧ DecimalsFit store stream ∧
      ValuesOf .doubleDefault (store.filters.find stream.type.id) stream.data.length values := by
  obtain ⟨_, failure, fails⟩ | ⟨runs, others, succeeds, converts⟩ :=
    convertValues_cases store stream
  · rw [fails] at outcome
    cases outcome
  · rw [succeeds] at outcome
    cases outcome
    simp only [ConversionFails, not_or, not_not] at runs
    exact ⟨runs.1, runs.2, converts⟩

theorem exists_values (valid : stream.checkValidity = .ok ())
    (decimals : DecimalsFit store stream) :
    ∃ values, stream.convertValues store .doubleDefault = .ok values := by
  obtain ⟨fails | negative | missing, _⟩ | ⟨_, values, outcome, _⟩ :=
    convertValues_cases store stream
  · exact absurd valid fails
  · exact absurd negative decimals.1
  · exact absurd missing decimals.2
  · exact ⟨values, outcome⟩

/-- Where the values are computed, the rest decides. -/
theorem nothingEscapes_convert_iff {α : Type} {rest : List Converted → Except Failure α}
    {fits : Prop} (decimals : fits → DecimalsFit store stream)
    (decides : ∀ values, stream.convertValues store .doubleDefault = .ok values →
      (NothingEscapes (rest values) ↔ fits)) :
    NothingEscapes (stream.convertValues store .doubleDefault >>= rest) ↔
      (stream.checkValidity = .ok () → fits) := by
  rw [nothingEscapes_bind_iff, nothingEscapes_convertValues_iff]
  constructor
  · rintro ⟨computed, later⟩ valid
    obtain ⟨runs, _⟩ | ⟨_, values, outcome, _⟩ := convertValues_cases store stream
    · have fit := computed valid
      simp only [ConversionFails, valid, not_true, ne_eq, false_or] at runs
      exact absurd runs (not_or.2 fit)
    · exact (decides values outcome).1 (later values outcome)
  · intro accepted
    refine ⟨fun valid => decimals (accepted valid), fun values outcome => ?_⟩
    exact (decides values outcome).2 (accepted (convertValues_ok outcome).1)

theorem nothingEscapes_labelValues_iff {filters : List Filter} {timestamp : ℤ} {mote : Text}
    {experiment : Experiment} {values : List Converted} :
    NothingEscapes (labelValues filters timestamp mote experiment 0 values) ↔
      ∃ rows, labelValues filters timestamp mote experiment 0 values = .ok rows := by
  obtain ⟨outcome, _⟩ | ⟨outcome, _⟩ | ⟨_, rows, outcome, _⟩ :=
    @labelValues_cases filters timestamp mote experiment 0 values (Nat.zero_le _)
  · rw [outcome, nothingEscapes_error_iff]
    simp [Failure.Declared]
  · rw [outcome, nothingEscapes_error_iff]
    simp [Failure.Declared]
  · rw [outcome]
    exact iff_of_true (nothingEscapes_ok _) ⟨rows, rfl⟩

theorem nothingEscapes_convertData_iff :
    NothingEscapes (stream.convertData store .doubleDefault).2 ↔
      (stream.checkValidity = .ok () → DataFits store stream ∧
        ∀ nodeId ∈ stream.data[nodeIdOffset]?, store.Accepts (moteAddress nodeId)) := by
  have parts : (stream.convertData store .doubleDefault).2 =
      stream.convertValues store .doubleDefault >>= fun values =>
        (stream.postConvertData store values).2 := by
    rw [InputStream.convertData]
    cases stream.convertValues store .doubleDefault <;> rfl
  rw [parts]
  apply nothingEscapes_convert_iff fun fits => fits.1.1
  intro values outcome
  obtain ⟨_, decimals, converts⟩ := convertValues_ok outcome
  have sorted := store.filters.sorted_find stream.type.id
  simp only [DataFits, decimals, true_and, InputStream.postConvertData]
  by_cases long : nodeIdOffset < stream.data.length
  · rw [readInt_of_lt long, and_iff_right long, List.getElem?_eq_getElem long]
    simp only [Option.mem_some_iff, forall_eq', getMote]
    rcases mergeSender_cases store (moteAddress stream.data[nodeIdOffset]) with
      ⟨accepts, merged⟩ | ⟨refuses, merged⟩
    · rw [merged, and_iff_left accepts]
      cases active : store.getActiveExperiment with
      | error failure =>
          have declared := nothingEscapes_getActiveExperiment store
          rw [active] at declared
          have none : ∀ experiment : Experiment, Except.error failure ≠ .ok experiment := by
            intro experiment same
            cases same
          exact iff_of_true (nothingEscapes_error_iff.2 (nothingEscapes_error_iff.1 declared))
            (.inl none)
      | ok experiment =>
          have single : ¬ ∀ other, (.ok experiment : Except Failure Experiment) ≠ .ok other :=
            fun every => every experiment rfl
          have size : (keptPositions (store.filters.find stream.type.id)
              stream.data.length).length = values.length := converts.length_eq
          rw [or_iff_right single, size,
            ← addressFrom_iff sorted (by decide : Strategy.doubleDefault ≠ .moteAddr) converts]
          refine nothingEscapes_labelValues_iff.trans ?_
          rw [labelValues_ok_iff (Nat.zero_le _), Nat.zero_add]
    · rw [merged, nothingEscapes_error_iff]
      exact iff_of_false id fun both => refuses both.2
  · rw [readInt_of_le (not_lt.1 long), nothingEscapes_error_iff]
    exact iff_of_false id fun both => long both.1.1

/-- The samples fail behind the line, or where an address is refused. -/
theorem readSamples_error {data : List ℤ} {src : Text} {timestamp : ℤ} {count index : ℕ}
    {failure : Failure}
    (fails : (readSamples data src timestamp count index store).2 = .error failure) :
    failure = .indexOutOfBounds ∨ failure = .duplicateMote := by
  induction count generalizing index store with
  | zero => cases fails
  | succ count ih =>
      obtain ⟨_, outcome⟩ |
        ⟨neighbor, _, ⟨_, outcome⟩ | ⟨_, ⟨_, outcome⟩ | ⟨rssi, _, outcome⟩⟩⟩ :=
          readSamples_cases data src timestamp count index store
      · rw [outcome] at fails
        cases fails
        exact .inl rfl
      · rw [outcome] at fails
        cases fails
        exact .inr rfl
      · rw [outcome] at fails
        cases fails
        exact .inl rfl
      · rw [outcome] at fails
        cases later : (readSamples data src timestamp count (index + 2)
            (store.withSender (moteAddress neighbor))).2 with
        | error failure =>
            rw [later] at fails
            cases fails
            exact ih later
        | ok rows =>
            rw [later] at fails
            cases fails

theorem nothingEscapes_postConvertGeoloc_iff {nb : ℤ}
    (declared : stream.data[dataNbOffset]? = some nb) :
    NothingEscapes (stream.postConvertGeoloc store).2 ↔
      (neighborCount stream.data nb = 0 ∨
          firstNeighborId + 2 * neighborCount stream.data nb ≤ stream.data.length) ∧
        AcceptsSamples store stream := by
  rw [← postConvertGeoloc_ok_iff declared]
  cases outcome : (stream.postConvertGeoloc store).2 with
  | error failure =>
      rw [nothingEscapes_error_iff]
      have undeclared : failure = .indexOutOfBounds ∨ failure = .duplicateMote := by
        have long := (List.getElem?_eq_some_iff.1 declared).1
        have node := List.getElem?_eq_getElem (lt_trans (by decide) long :
          geolocNodeIdOffset < stream.data.length)
        rw [postConvertGeoloc_eq node declared] at outcome
        split at outcome
        · exact readSamples_error outcome
        · cases outcome
          exact .inr rfl
      refine iff_of_false ?_ ?_
      · rcases undeclared with rfl | rfl
        · exact id
        · exact id
      · rintro ⟨rows, succeeds⟩
        cases succeeds
  | ok rows => exact iff_of_true (nothingEscapes_ok _) ⟨rows, rfl⟩

theorem nothingEscapes_convertGeoloc_iff :
    NothingEscapes (stream.convertGeoloc store .doubleDefault).2 ↔
      (stream.checkValidity = .ok () → GeolocFits store stream ∧
        AcceptsSamples store stream) := by
  have parts : (stream.convertGeoloc store .doubleDefault).2 =
      stream.convertValues store .doubleDefault >>= fun _ =>
        (stream.postConvertGeoloc store).2 := by
    rw [InputStream.convertGeoloc]
    cases stream.convertValues store .doubleDefault <;> rfl
  rw [parts]
  apply nothingEscapes_convert_iff fun fits => fits.1.1
  intro values outcome
  rw [GeolocFits, and_assoc, and_iff_right (convertValues_ok outcome).2.1]
  cases declared : stream.data[dataNbOffset]? with
  | none =>
      have short := List.getElem?_eq_none_iff.1 declared
      refine iff_of_false ?_ (by simp)
      rw [InputStream.postConvertGeoloc]
      cases node : stream.data[geolocNodeIdOffset]? with
      | none =>
          simp only [readInt, node]
          exact nothingEscapes_error_iff.1
      | some nodeId =>
          simp only [readInt, node, declared, getMote]
          rcases mergeSender_cases store (moteAddress nodeId) with ⟨_, merged⟩ | ⟨_, merged⟩
          · simp only [merged]
            exact nothingEscapes_error_iff.1
          · simp only [merged]
            exact nothingEscapes_error_iff.1
  | some nb =>
      rw [nothingEscapes_postConvertGeoloc_iff declared]
      simp

theorem nothingEscapes_mergeSink_iff {motes : List Text} {sinks : List Sink} {addr : Text}
    {dvn : ℤ} :
    NothingEscapes (mergeSink motes sinks addr dvn) ↔ AcceptsSink sinks motes addr := by
  rw [mergeSink, AcceptsSink]
  split
  · next sink known =>
      refine iff_of_true (nothingEscapes_ok _) fun _ => ⟨sink, known⟩
  · next several =>
      have unknown : ¬ ∃ sink, (sinks.filter fun sink => sink.mac = addr) = [sink] :=
        fun ⟨sink, known⟩ => several sink known
      split
      · next taken =>
          rw [nothingEscapes_error_iff]
          exact iff_of_false id fun accepts => unknown (accepts (List.contains_iff_mem.1 taken))
      · next free =>
          exact iff_of_true (nothingEscapes_ok _) fun taken =>
            absurd (List.contains_iff_mem.2 taken) free

theorem nothingEscapes_convertSink_iff {motes : List Text} {sinks : List Sink} :
    NothingEscapes (stream.convertSink store motes sinks .doubleDefault) ↔
      (stream.checkValidity = .ok () → SinkFits store stream ∧
        ∀ nodeId ∈ stream.data[sinkIdOffset]?, AcceptsSink sinks motes (moteAddress nodeId)) := by
  rw [InputStream.convertSink]
  apply nothingEscapes_convert_iff fun fits => fits.1.1
  intro values outcome
  rw [SinkFits, and_assoc, and_iff_right (convertValues_ok outcome).2.1,
    InputStream.postConvertSink]
  by_cases long : dvnOffset < stream.data.length
  · have inside : sinkIdOffset < stream.data.length := lt_trans (by decide) long
    rw [readInt_of_lt inside, readInt_of_lt long, List.getElem?_eq_getElem inside,
      and_iff_right long]
    simp only [nothingEscapes_bind_iff, nothingEscapes_ok, nothingEscapes_mergeSink_iff,
      Except.ok.injEq, forall_eq', Option.mem_some_iff, true_and, implies_true, and_true]
  · refine iff_of_false ?_ fun both => long both.1
    rw [readInt_of_le (not_lt.1 long)]
    by_cases inside : sinkIdOffset < stream.data.length
    · rw [readInt_of_lt inside]
      exact nothingEscapes_error_iff.1
    · rw [readInt_of_le (not_lt.1 inside)]
      exact nothingEscapes_error_iff.1

end Conversions

/-! ## The constructors -/

section Constructors

variable {store : Store} {text : Text}

theorem length_readTokens (title : Text) (tokens : List Text) :
    (readTokens title tokens).1.length = tokens.length + 1 := by
  rw [readTokens_data, List.length_cons, List.length_map]

/-- The constructor of a stream with a time throws no other exception exactly if there
are a time and a type. -/
theorem nothingEscapes_readStream_iff (streamName title : Text) :
    NothingEscapes (readStream streamName title store text).2 ↔ Timed text ∧ HasType text := by
  rw [readStream, Timed, HasType]
  cases splitEach isSpace text with
  | nil =>
      simp only [nothingEscapes_error_iff]
      exact iff_of_false id fun both => by simp at both
  | cons time tokens =>
      cases parsed : parseSigned 64 time with
      | none =>
          simp only [parsed, nothingEscapes_error_iff]
          exact iff_of_false id fun both => by simp [parsed] at both
      | some timestamp =>
          have typed : NothingEscapes (readInt (readTokens title tokens).1 typeOffset) ↔
              2 ≤ (time :: tokens).length := by
            rw [nothingEscapes_readInt_iff, length_readTokens]
            rfl
          simp only [parsed, nothingEscapes_bind_iff, typed, nothingEscapes_findType,
            nothingEscapes_ok]
          simp [parsed]

theorem newSinkStream_toOption :
    (newSinkStream store text).2.toOption = readSinkText store text := by
  rw [newSinkStream, readSinkText, sinkTokens]
  cases splitEach isSpace text with
  | nil => rfl
  | cons first tokens =>
      cases tokens with
      | nil => rfl
      | cons first rest =>
          simp only [readTokens_data]
          rw [List.map_cons]
          have typed : readInt (0 :: (parseSigned 32 first).getD 0 ::
              rest.map fun token => (parseSigned 32 token).getD 0) typeOffset =
                .ok ((parseSigned 32 first).getD 0) := rfl
          simp only [typed, bind, Except.bind, Option.bind, Store.findType]
          cases store.types.find? fun type =>
              type.id = (parseSigned 32 first).getD 0 with
          | none => rfl
          | some type => rfl

theorem nothingEscapes_newSinkStream_iff :
    NothingEscapes (newSinkStream store text).2 ↔ HasType text := by
  have typed : NothingEscapes (readInt (sinkTokens text).1 typeOffset) ↔ HasType text := by
    rw [nothingEscapes_readInt_iff, sinkTokens, HasType]
    cases splitEach isSpace text with
    | nil => simp [typeOffset]
    | cons first tokens =>
        rw [length_readTokens]
        rfl
  simp only [newSinkStream, nothingEscapes_bind_iff, typed, nothingEscapes_findType,
    nothingEscapes_ok]
  simp

theorem nothingEscapes_ingest_iff {α : Type} {built : Except Failure InputStream}
    {convert : InputStream → Except Failure α} {read : Option InputStream}
    (same : built.toOption = read) :
    NothingEscapes (built >>= convert) ↔
      NothingEscapes built ∧ ∀ stream, read = some stream → NothingEscapes (convert stream) := by
  subst same
  rw [nothingEscapes_bind_iff]
  cases built with
  | error failure => simp [Except.toOption]
  | ok stream => simp [Except.toOption]

end Constructors

end IotLab.Server
