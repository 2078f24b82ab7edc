import IotLab.Library.Tokens
import IotLab.Server.Store
import Mathlib.Algebra.Order.Ring.Unbundled.Rat

/-!
# Input streams

A stream is built from a line of text: the time, the type and integers.  Its
conversion goes once through the integers and the filters of its type; the
strategy of a filter converts the integer at the filter's offset, the default
strategy all others.  The converted values keep the position of their integer, for
the properties only.
-/

namespace IotLab.Server

open IotLab.Library

/-! ## Strategies -/

/-- A converted value.  The conversion does not check that a strategy of numbers is
used: an address can be among the values. -/
inductive Value where
  | number (value : ℚ)
  | address (text : Text)
  deriving Repr, DecidableEq

/-- The classes that implement `SaveStrategy`. -/
inductive Strategy where
  | batteryRemaining
  | batteryVoltage
  | bestNeighborETX
  | doubleDefault
  | humidity
  | latency
  | light1
  | light2
  | moteAddr
  | temperature
  deriving Repr, DecidableEq

def Strategy.className : Strategy → Text
  | .batteryRemaining => "BatteryRemaining".toList
  | .batteryVoltage => "BatteryVoltageStrategy".toList
  | .bestNeighborETX => "BestNeighborETXStrategy".toList
  | .doubleDefault => "DoubleDefaultStrategy".toList
  | .humidity => "HumidityStrategy".toList
  | .latency => "LatencyStrategy".toList
  | .light1 => "Light1Strategy".toList
  | .light2 => "Light2Strategy".toList
  | .moteAddr => "MoteAddrStrategy".toList
  | .temperature => "TemperatureStrategy".toList

def Strategy.all : List Strategy :=
  [.batteryRemaining, .batteryVoltage, .bestNeighborETX, .doubleDefault, .humidity,
    .latency, .light1, .light2, .moteAddr, .temperature]

/-- `Class.forName(...).newInstance()` in the package of the strategies; `none`
stands for the exceptions that `convert` catches. -/
def strategyNamed (className : Text) : Option Strategy :=
  Strategy.all.find? fun strategy => strategy.className = className

/-- `MoteAddrStrategy.execute` on one integer: the low byte, a point, the high
byte. -/
def moteAddress (nodeId : ℤ) : Text :=
  printInt (nodeId % 256) ++ '.' :: printInt (nodeId / 256 % 256)

/-- `data[i]`. -/
def readInt (data : List ℤ) (index : ℕ) : Except Failure ℤ :=
  match data[index]? with
  | none => .error .indexOutOfBounds
  | some value => .ok value

/-- `BatteryRemaining.execute` on the two integers it reads. -/
def batteryRemainingValue (whole part : ℤ) : Except Failure Value :=
  match parseDecimal (printInt whole ++ '.' :: printInt part) with
  | none => .error .numberFormat
  | some value => .ok (.number value)

/-- What a strategy other than `BatteryRemaining` makes of one integer. -/
def Strategy.convertInt (strategy : Strategy) (value : ℤ) : Value :=
  match strategy with
  | .batteryVoltage => .number (wrapSigned 32 (value * 2) * (5 / 2) / 4096)
  | .bestNeighborETX => .number (value / 8)
  | .humidity => .number (min (-4 + 405 * value / 10000) 100)
  | .latency => .number (value / 32678)
  | .light1 => .number (10 * value / 7)
  | .light2 => .number (46 * value / 10)
  | .moteAddr => .address (moteAddress value)
  | .temperature => .number (-396 / 10 + value / 100)
  | .doubleDefault | .batteryRemaining => .number value

/-- `SaveStrategy.execute`. -/
def Strategy.execute (strategy : Strategy) (data : List ℤ) (index : ℕ) :
    Except Failure Value := do
  let value ← readInt data index
  match strategy with
  | .batteryRemaining => batteryRemainingValue value (← readInt data (index + 1))
  | _ => .ok (strategy.convertInt value)

/-! ## Conversion -/

/-- A value of the list `values`, with the position of its integer. -/
structure Converted where
  position : ℕ
  value : Value
  deriving Repr, DecidableEq

/-- The loop of `InputStream.convert` over the remaining positions, with the
filters from `f` on and the values so far. -/
def convertLoop (default : Strategy) (data : List ℤ) :
    List ℕ → List Filter → List Converted → Except Failure (List Converted)
  | [], _, values => .ok values
  | position :: rest, filters, values => do
      match filters with
      | filter :: later =>
          if (position : ℤ) + 1 = filter.offset then
            match strategyNamed filter.className with
            -- the caught exception leaves `f` where it is
            | none => convertLoop default data rest (filter :: later) values
            | some strategy =>
                let value ← strategy.execute data position
                convertLoop default data rest later (values ++ [⟨position, value⟩])
          else
            let value ← default.execute data position
            convertLoop default data rest (filter :: later)
              (values ++ [⟨position, value⟩])
      | [] =>
          let value ← default.execute data position
          convertLoop default data rest [] (values ++ [⟨position, value⟩])

/-- An object of a class derived from `InputStream`. -/
structure InputStream where
  /-- The simple name of the class. -/
  streamName : Text
  timestamp : ℤ
  data : List ℤ
  type : StreamType
  deriving Repr, DecidableEq

/-- `InputStream.checkValidity`. -/
def InputStream.checkValidity (stream : InputStream) : Except Failure Unit :=
  if stream.type.minDataNumber ≤ stream.data.length ∧
      stream.type.streamName = stream.streamName then .ok ()
  else
    .error (.invalidData
      (stream.type.streamName ++ " : Invalid format or wrong stream name".toList))

/-- `InputStream.convert` up to the call of `postConvert`. -/
def InputStream.convertValues (stream : InputStream) (store : Store)
    (default : Strategy) : Except Failure (List Converted) := do
  stream.checkValidity
  convertLoop default stream.data (List.range stream.data.length)
    (store.filters.find stream.type.id) []

/-! ## Construction -/

/-- `TYPE_OFFSET`. -/
def typeOffset : ℕ := 1

/-- The token at an index is an `int`, otherwise an error is stored and the element
of the array keeps its initial value. -/
def readToken (title : Text) (index : ℕ) (token : Text) : ℤ × List ErrorRow :=
  match parseSigned 32 token with
  | some value => (value, [])
  | none =>
      (0, [{ title
             message := "Data number ".toList ++ printInt index ++
              " is not an integer".toList }])

/-- The array `data` and the stored errors for the tokens behind the time. -/
def readTokens (title : Text) (tokens : List Text) : List ℤ × List ErrorRow :=
  let read := tokens.mapIdx fun index token => readToken title (index + 1) token
  (0 :: read.map Prod.fst, read.flatMap Prod.snd)

/-- What the constructors of the streams with a time have in common: `title` is the
title of the errors.  The result holds the stored errors even when an exception is
thrown later. -/
def readStream (streamName title : Text) (store : Store) (text : Text) :
    List ErrorRow × Except Failure InputStream :=
  match splitEach isSpace text with
  | [] => ([], .error .indexOutOfBounds)
  | time :: tokens =>
      match parseSigned 64 time with
      | none => ([], .error .numberFormat)
      | some timestamp =>
          let read := readTokens title tokens
          (read.2, do
            let type ← store.findType (← readInt read.1 typeOffset)
            .ok { streamName, timestamp, data := read.1, type })

/-! ## Lines of integers -/

/-- Printed integers are read without an error. -/
theorem readTokens_map_printInt (title : Text) {values : List ℤ}
    (fits : ∀ value ∈ values, FitsSigned 32 value) :
    readTokens title (values.map printInt) = (0 :: values, []) := by
  have read : (values.map printInt).mapIdx (fun index token =>
        readToken title (index + 1) token) =
      values.map fun value => (value, ([] : List ErrorRow)) := by
    apply List.ext_getElem
    · simp
    · intro index inside _
      simp only [List.length_mapIdx, List.length_map] at inside
      simp only [List.getElem_mapIdx, List.getElem_map, readToken]
      rw [parseSigned_printInt (fits _ (List.getElem_mem inside))]
  rw [readTokens, read]
  simp [Function.comp_def]

/-- A stream is built from the integers behind the time. -/
theorem readStream_joinBlank (streamName title : Text) (store : Store) {time first : ℤ}
    {rest : List ℤ} (timeFits : FitsSigned 64 time)
    (fits : ∀ value ∈ first :: rest, FitsSigned 32 value) :
    readStream streamName title store
        (joinBlank ((time :: first :: rest).map printInt)) =
      ([], (store.findType first).map fun type =>
        { streamName, timestamp := time, data := 0 :: first :: rest, type }) := by
  have visible : ∀ token ∈ (time :: first :: rest).map printInt, Visible token := by
    intro token member
    rcases List.mem_map.1 member with ⟨value, _, rfl⟩
    exact visible_printInt value
  have tokens : splitEach isSpace (joinBlank ((time :: first :: rest).map printInt)) =
      (time :: first :: rest).map printInt :=
    splitEach_joinBlank rfl (fun _ above => isSpace_of_above above) (by simp) visible
  simp only [readStream, tokens]
  rw [List.map_cons]
  have typed : readInt (0 :: first :: rest) typeOffset = .ok first := rfl
  simp only [parseSigned_printInt timeFits, readTokens_map_printInt title fits, typed]
  cases found : store.findType first <;> simp [found, bind, Except.bind, Except.map]

end IotLab.Server
