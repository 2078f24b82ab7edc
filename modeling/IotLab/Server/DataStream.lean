import IotLab.Server.InputStream

/-!
# Data streams

`DataStream` turns the converted values of a line into rows of the table `Data`.
The label of a value is taken from the filter with the value's index in the list of
values, not with its offset.
-/

namespace IotLab.Server

open IotLab.Library

/-- `NODE_ID_OFFSET` of `DataStream`. -/
def nodeIdOffset : ℕ := 6

/-- A row of the table `Data`.  `position` is the index of the integer that the
value was converted from; it is not stored. -/
structure Data where
  value : ℚ
  label : Text
  timestamp : ℤ
  mote : Text
  experiment : Experiment
  position : ℕ
  deriving Repr, DecidableEq

/-- A value of a JSON object. -/
inductive JsonValue where
  | text (text : Text)
  | number (value : ℤ)
  deriving Repr, DecidableEq

/-- The fields given to a JSON object builder, in order; a later field replaces an
earlier one of the same name. -/
abbrev JsonBuilder := List (Text × JsonValue)

/-- The value of a field in the built object. -/
def JsonBuilder.lookup (builder : JsonBuilder) (name : Text) : Option JsonValue :=
  (builder.reverse.find? fun field => field.1 = name).map Prod.snd

/-- The constructor `DataStream(dataStr, dao)`: a token that is no `int` is stored as
an error and clears the static field `valid`. -/
def newDataStream (store : Store) (text : Text) : Store × Except Failure InputStream :=
  let read := readStream "DataStream".toList "Raw data parsing".toList store text
  ({ store with
      errors := store.errors ++ read.1
      dataValid := store.dataValid && read.1.isEmpty }, read.2)

/-- `getMote`: the address, and what `mergeSender` does with it. -/
def getMote (store : Store) (nodeId : ℤ) : Text × Except Failure Store :=
  (moteAddress nodeId, store.mergeSender (moteAddress nodeId))

/-- The loop of `DataStream.postConvert` from an index of `values` on. -/
def labelValues (filters : List Filter) (timestamp : ℤ) (mote : Text)
    (experiment : Experiment) : ℕ → List Converted → Except Failure (List Data)
  | _, [] => .ok []
  | index, converted :: rest => do
      match converted.value with
      | .address _ => .error .classCast
      | .number value =>
          match filters[index]? with
          | none => .error .indexOutOfBounds
          | some filter =>
              let later ← labelValues filters timestamp mote experiment (index + 1) rest
              .ok ({ value
                     label := filter.label
                     timestamp
                     mote
                     experiment
                     position := converted.position } :: later)

/-- `DataStream.postConvert`. -/
def InputStream.postConvertData (stream : InputStream) (store : Store)
    (values : List Converted) : Store × Except Failure (List Data) :=
  match readInt stream.data nodeIdOffset with
  | .error failure => (store, .error failure)
  | .ok nodeId =>
      let mote := getMote store nodeId
      match mote.2 with
      | .error failure => (store, .error failure)
      | .ok merged =>
          (merged, do
            let experiment ← store.getActiveExperiment
            labelValues (store.filters.find stream.type.id) stream.timestamp mote.1
              experiment 0 values)

/-- `DataStream.convert`. -/
def InputStream.convertData (stream : InputStream) (store : Store)
    (default : Strategy) : Store × Except Failure (List Data) :=
  match stream.convertValues store default with
  | .error failure => (store, .error failure)
  | .ok values => stream.postConvertData store values

/-- `String.format("%.2f", value)`: half a hundredth is rounded up in absolute
value. -/
def formatHundredths (value : ℚ) : Text :=
  let hundredths := (max value (-value) * 100 + 1 / 2).floor.natAbs
  let digits := Nat.toDigits 10 (hundredths % 100)
  (if value < 0 then ['-'] else []) ++ Nat.toDigits 10 (hundredths / 100) ++
    '.' :: (if hundredths % 100 < 10 then '0' :: digits else digits)

/-- `DataStream.toJSON`. -/
def InputStream.toJson (stream : InputStream) (rows : List Data) :
    Except Failure JsonBuilder := do
  let nodeId ← readInt stream.data nodeIdOffset
  .ok (("mote".toList, .text (moteAddress nodeId)) ::
    rows.map (fun row => (row.label, .text (formatHundredths row.value))) ++
      [("timestamp".toList, .number stream.timestamp)])

end IotLab.Server
