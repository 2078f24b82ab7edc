import IotLab.Server.Creation

/-!
# Malformed lines

A token that is no `int` clears the static field `valid` of its class of streams and
leaves a zero in the array.  Nothing sets the field again, and `postConvert` does not
ask for it, so the line is converted with its zeros.
-/

namespace IotLab.Server

open IotLab.Library

/-! ## Lines given to the streams -/

/-- The two classes of streams with a time. -/
inductive StreamClass where
  | data
  | geoloc
  deriving Repr, DecidableEq

/-- A line and the class of the stream that is built from it. -/
structure Line where
  stream : StreamClass
  text : Text
  deriving Repr, DecidableEq

/-- The static field `valid` of a class. -/
def Store.valid (store : Store) : StreamClass → Bool
  | .data => store.dataValid
  | .geoloc => store.geolocValid

/-- What a line leaves behind: the store, the rows to persist, and `isValid()` of the
stream if its constructor returns. -/
structure LineResult where
  store : Store
  isValid : Option Bool
  data : List Data := []
  geolocation : List GeolocationData := []

/-- The middle part of `GeolocResource.add`, with the service enabled: the store and the
rows to merge. -/
def Store.addGeoloc (store : Store) (dataStr : Text) : Store × List GeolocationData :=
  let built := newGeolocStream store dataStr
  match built.2 with
  | .error _ => (built.1, [])
  | .ok stream =>
      let converted := stream.convertGeoloc built.1 .doubleDefault
      match converted.2 with
      | .error _ => (converted.1, [])
      | .ok rows => (converted.1, rows)

/-- A line is given to its stream. -/
def Line.take (store : Store) (line : Line) : LineResult :=
  match line.stream with
  | .data =>
      let built := newDataStream store line.text
      let added := store.add line.text
      { store := added.1
        isValid := built.2.toOption.map fun _ => built.1.dataValid
        data := added.2 }
  | .geoloc =>
      let built := newGeolocStream store line.text
      let added := store.addGeoloc line.text
      { store := added.1
        isValid := built.2.toOption.map fun _ => built.1.geolocValid
        geolocation := added.2 }

/-- The store after a history of lines. -/
def storeAfter (store : Store) (history : List Line) : Store :=
  history.foldl (fun store line => (line.take store).store) store

/-- A token behind the time is no `int`. -/
def Malformed (text : Text) : Prop :=
  ∃ token ∈ (splitEach isSpace text).tail, parseSigned 32 token = none

instance (text : Text) : Decidable (Malformed text) :=
  inferInstanceAs (Decidable (∃ token ∈ (splitEach isSpace text).tail, _))

/-- A malformed line creates nothing, and a stream is valid exactly when its own line
is not malformed. -/
structure Separate (store : Store) (line : Line) : Prop where
  nothing : Malformed line.text →
    (line.take store).data = [] ∧ (line.take store).geolocation = [] ∧
      (line.take store).store.senders = store.senders
  own : ∀ valid, (line.take store).isValid = some valid →
    (valid = true ↔ ¬ Malformed line.text)

/-! ## The static field -/

/-- The first token is a time. -/
def Timed (text : Text) : Prop :=
  ∃ time tokens, splitEach isSpace text = time :: tokens ∧
    (parseSigned 64 time).isSome = true

instance (text : Text) : Decidable (Timed text) :=
  match split : splitEach isSpace text with
  | [] => isFalse (by simp [Timed, split])
  | time :: tokens =>
      decidable_of_iff ((parseSigned 64 time).isSome = true) (by simp [Timed, split])

/-- A line that clears the field of its class. -/
def Line.Spoils (line : Line) (stream : StreamClass) : Prop :=
  line.stream = stream ∧ Timed line.text ∧ Malformed line.text

instance (line : Line) (stream : StreamClass) : Decidable (line.Spoils stream) :=
  inferInstanceAs (Decidable (_ ∧ _))

theorem readToken_errors (title : Text) (index : ℕ) (token : Text) :
    (readToken title index token).2 = [] ↔ parseSigned 32 token ≠ none := by
  rw [readToken]
  cases parseSigned 32 token with
  | none => simp
  | some value => simp

theorem readTokens_errors (title : Text) (tokens : List Text) :
    (readTokens title tokens).2 = [] ↔ ∀ token ∈ tokens, parseSigned 32 token ≠ none := by
  simp only [readTokens, List.flatMap_eq_nil_iff, List.mem_mapIdx]
  constructor
  · intro none token member
    obtain ⟨index, inside, there⟩ := List.getElem_of_mem member
    exact (readToken_errors title (index + 1) token).1
      (none _ ⟨index, inside, by rw [there]⟩)
  · intro all read member
    obtain ⟨index, inside, same⟩ := member
    subst same
    exact (readToken_errors title (index + 1) _).2 (all _ (List.getElem_mem inside))

theorem readStream_errors (streamName title : Text) (store : Store) (text : Text) :
    (readStream streamName title store text).1 = [] ↔ ¬ (Timed text ∧ Malformed text) := by
  rw [readStream, Timed, Malformed]
  cases splitEach isSpace text with
  | nil => simp
  | cons time tokens =>
      cases parsed : parseSigned 64 time with
      | none => simp [parsed]
      | some timestamp => simp [parsed, readTokens_errors]

/-! ## The field after a history -/

theorem SendersOnly.valid {store after : Store} (only : SendersOnly store after)
    (stream : StreamClass) : after.valid stream = store.valid stream := by
  rw [SendersOnly] at only
  rw [only]
  cases stream <;> rfl

theorem Line.take_store (store : Store) (line : Line) :
    (line.take store).store =
      match line.stream with
      | .data =>
          match (newDataStream store line.text).2 with
          | .error _ => (newDataStream store line.text).1
          | .ok stream =>
              (stream.convertData (newDataStream store line.text).1 .doubleDefault).1
      | .geoloc =>
          match (newGeolocStream store line.text).2 with
          | .error _ => (newGeolocStream store line.text).1
          | .ok stream =>
              (stream.convertGeoloc (newGeolocStream store line.text).1
                .doubleDefault).1 := by
  rw [Line.take]
  cases line.stream with
  | data =>
      simp only [Store.add]
      cases (newDataStream store line.text).2 with
      | error failure => rfl
      | ok stream =>
          dsimp only
          split <;> rfl
  | geoloc =>
      simp only [Store.addGeoloc]
      cases (newGeolocStream store line.text).2 with
      | error failure => rfl
      | ok stream =>
          dsimp only
          split <;> rfl

/-- The constructors clear the field of their class. -/
theorem newStream_valid (store : Store) (text : Text) (stream : StreamClass) :
    (newDataStream store text).1.valid stream =
        (store.valid stream && !decide (Line.Spoils ⟨.data, text⟩ stream)) ∧
      (newGeolocStream store text).1.valid stream =
        (store.valid stream && !decide (Line.Spoils ⟨.geoloc, text⟩ stream)) := by
  have errors : ∀ streamName title,
      (readStream streamName title store text).1.isEmpty =
        !decide (Timed text ∧ Malformed text) := by
    intro streamName title
    rw [Bool.eq_iff_iff, List.isEmpty_iff, readStream_errors]
    simp [imp_iff_not_or]
  cases stream with
  | data => simp [newDataStream, newGeolocStream, Store.valid, Line.Spoils, errors]
  | geoloc => simp [newDataStream, newGeolocStream, Store.valid, Line.Spoils, errors]

theorem Line.take_valid (store : Store) (line : Line) (stream : StreamClass) :
    (line.take store).store.valid stream =
      (store.valid stream && !decide (line.Spoils stream)) := by
  obtain ⟨ofStream, text⟩ := line
  have built := newStream_valid store text stream
  rw [Line.take_store]
  cases ofStream with
  | data =>
      dsimp only
      rw [← built.1]
      split
      · rfl
      · exact (sendersOnly_convertData _ _ _).valid stream
  | geoloc =>
      dsimp only
      rw [← built.2]
      split
      · rfl
      · exact (sendersOnly_convertGeoloc _ _ _).valid stream

theorem valid_storeAfter (store : Store) (history : List Line) (stream : StreamClass) :
    (storeAfter store history).valid stream = true ↔
      store.valid stream = true ∧ ∀ line ∈ history, ¬ line.Spoils stream := by
  induction history generalizing store with
  | nil => simp [storeAfter]
  | cons line rest ih =>
      rw [storeAfter, List.foldl_cons]
      change (storeAfter (line.take store).store rest).valid stream = true ↔ _
      rw [ih, Line.take_valid]
      simp [and_assoc]

/-! ## Reading a line -/

/-- The stream that a line with a time and a known type stands for: a token that is no
`int` stands for zero. -/
def readText (streamName : Text) (store : Store) (text : Text) : Option InputStream :=
  match splitEach isSpace text with
  | time :: first :: rest => do
      let timestamp ← parseSigned 64 time
      let type ← store.types.find? fun type => type.id = (parseSigned 32 first).getD 0
      some
        { streamName
          timestamp
          data := 0 :: (first :: rest).map fun token => (parseSigned 32 token).getD 0
          type }
  | _ => none

def Line.read (store : Store) (line : Line) : Option InputStream :=
  match line.stream with
  | .data => readText "DataStream".toList store line.text
  | .geoloc => readText "GeolocStream".toList store line.text

/-- The array has a zero in the place of each token that is no `int`. -/
theorem readTokens_data (title : Text) (tokens : List Text) :
    (readTokens title tokens).1 =
      0 :: tokens.map fun token => (parseSigned 32 token).getD 0 := by
  have value : ∀ index token,
      (readToken title index token).1 = (parseSigned 32 token).getD 0 := by
    intro index token
    rw [readToken]
    cases parseSigned 32 token <;> rfl
  apply congrArg (List.cons 0)
  apply List.ext_getElem
  · simp
  · intro index inside _
    simp only [List.getElem_map, List.getElem_mapIdx, value]

theorem readStream_toOption (streamName title : Text) (store : Store) (text : Text) :
    (readStream streamName title store text).2.toOption =
      readText streamName store text := by
  rw [readStream, readText]
  cases splitEach isSpace text with
  | nil => rfl
  | cons time tokens =>
      cases parsed : parseSigned 64 time with
      | none => cases tokens <;> simp [parsed, Except.toOption]
      | some timestamp =>
          cases tokens with
          | nil =>
              simp only [parsed]
              rfl
          | cons first rest =>
              have typed : readInt (readTokens title (first :: rest)).1 typeOffset =
                  .ok ((parseSigned 32 first).getD 0) := by
                rw [readTokens_data]
                rfl
              simp only [typed, bind, Except.bind, parsed, Option.bind, Store.findType]
              cases store.types.find? fun type =>
                  type.id = (parseSigned 32 first).getD 0 with
              | none => rfl
              | some type =>
                  simp only [readTokens_data]
                  rfl

/-- The conversion of what a line is read as creates nothing. -/
def Line.Stops (store : Store) (line : Line) (stream : InputStream) : Prop :=
  match line.stream with
  | .data => DataStops store stream
  | .geoloc => GeolocStops store stream

theorem Store.add_nothing_iff (store : Store) (text : Text) :
    ((store.add text).2 = [] ∧ (store.add text).1.senders = store.senders) ↔
      ∀ stream, readText "DataStream".toList store text = some stream →
        DataStops store stream := by
  have built := readStream_toOption "DataStream".toList "Raw data parsing".toList store text
  have after : (newDataStream store text).1.senders = store.senders := rfl
  rw [Store.add, ← built]
  change _ ↔ ∀ stream, (newDataStream store text).2.toOption = some stream → _
  cases (newDataStream store text).2 with
  | error failure => simp [Except.toOption, after]
  | ok stream =>
      have created := convertData_nothing_iff (newDataStream store text).1 stream
      simp only [Except.toOption, Option.some.injEq, forall_eq']
      change _ ↔ DataStops (newDataStream store text).1 stream
      rw [← created, after]
      cases (stream.convertData (newDataStream store text).1 .doubleDefault).2 with
      | error failure => simp
      | ok rows => simp

theorem Store.addGeoloc_nothing_iff (store : Store) (text : Text) :
    ((store.addGeoloc text).2 = [] ∧
        (store.addGeoloc text).1.senders = store.senders) ↔
      ∀ stream, readText "GeolocStream".toList store text = some stream →
        GeolocStops store stream := by
  have built := readStream_toOption "GeolocStream".toList
    "Geolocation data parsing".toList store text
  have after : (newGeolocStream store text).1.senders = store.senders := rfl
  rw [Store.addGeoloc, ← built]
  change _ ↔ ∀ stream, (newGeolocStream store text).2.toOption = some stream → _
  cases (newGeolocStream store text).2 with
  | error failure => simp [Except.toOption, after]
  | ok stream =>
      have created := convertGeoloc_nothing_iff (newGeolocStream store text).1 stream
      simp only [Except.toOption, Option.some.injEq, forall_eq']
      change _ ↔ GeolocStops (newGeolocStream store text).1 stream
      rw [← created, after]
      cases (stream.convertGeoloc (newGeolocStream store text).1 .doubleDefault).2 with
      | error failure => simp
      | ok rows => simp

theorem Line.take_nothing_iff (store : Store) (line : Line) :
    ((line.take store).data = [] ∧ (line.take store).geolocation = [] ∧
        (line.take store).store.senders = store.senders) ↔
      ∀ stream, line.read store = some stream → line.Stops store stream := by
  obtain ⟨ofStream, text⟩ := line
  cases ofStream with
  | data => simpa [Line.take, Line.read, Line.Stops] using store.add_nothing_iff text
  | geoloc =>
      simpa [Line.take, Line.read, Line.Stops] using store.addGeoloc_nothing_iff text

/-- A stream is valid when neither its line nor an earlier one cleared the field. -/
theorem Line.take_isValid (store : Store) (line : Line) :
    (line.take store).isValid = (line.read store).map fun _ =>
      store.valid line.stream && !decide (line.Spoils line.stream) := by
  obtain ⟨ofStream, text⟩ := line
  have valid := newStream_valid store text ofStream
  cases ofStream with
  | data =>
      dsimp only [Line.read]
      rw [← readStream_toOption _ "Raw data parsing".toList, ← valid.1]
      rfl
  | geoloc =>
      dsimp only [Line.read]
      rw [← readStream_toOption _ "Geolocation data parsing".toList, ← valid.2]
      rfl

/-! ## Sequences of lines -/

/-- The fields of the classes are set when the server starts. -/
def Store.started (tables : Store) : Store :=
  { tables with dataValid := true, geolocValid := true }

theorem timed_of_read {store : Store} {line : Line} {stream : InputStream}
    (read : line.read store = some stream) : Timed line.text := by
  have timed : ∀ streamName, readText streamName store line.text = some stream →
      Timed line.text := by
    intro streamName found
    rw [readText] at found
    split at found
    · next time first rest split =>
        cases parsed : parseSigned 64 time with
        | none =>
            rw [parsed] at found
            cases found
        | some timestamp => exact ⟨time, _, split, by simp [parsed]⟩
    · cases found
  rw [Line.read] at read
  split at read
  · exact timed _ read
  · exact timed _ read

end IotLab.Server
