import IotLab.Library.Tokens

/-!
# Sensor data on the gateway

The gateway reads lines from the serial port.  A line whose tokens are all
integers is sensor data; it gets the time of its reception and is printed again
for the server, the time in front.
-/

namespace IotLab.Gateway

open IotLab.Library

abbrev Text := List Char

/-- `BufferedReader.readLine` on the output of one `printf` of the sink. -/
def readLine (printed : Text) : Text :=
  printed.takeWhile fun char => char != '\n' && char != '\r'

/-- `Integer.parseInt`. -/
def parseInteger (text : Text) : Option ℤ := parseSigned 32 text

/-- `Long.parseLong`. -/
def parseLong (text : Text) : Option ℤ := parseSigned 64 text

structure SensorData where
  values : List ℤ
  systemTime : ℤ
  deriving Repr, DecidableEq

/-- `SensorData.parseToInt`. -/
def parseToInt (text : List Text) : Option (List ℤ) :=
  text.mapM parseInteger

/-- `SensorData.parseSensorData`: a first token of more than eight characters that
is a `long` takes the place of the time. -/
def parseSensorData (line : Text) (systemTime : ℤ) : Option SensorData :=
  let components := splitRuns isBlank (trim line)
  let prefixed := (components.head?.filter fun first => 8 < first.length).bind parseLong
  match prefixed with
  | some time => (parseToInt components.tail).map fun values => ⟨values, time⟩
  | none => (parseToInt components).map fun values => ⟨values, systemTime⟩

/-- `SensorData.toString`. -/
def SensorData.toText (data : SensorData) : Text :=
  (if 0 < data.systemTime then printInt data.systemTime ++ [' '] else []) ++
    joinBlank (data.values.map printInt)

/-- `Gateway.handleIncomingData`: the sensor data of the line, if it is not
ignored. -/
def handleIncomingData (systemTime : ℤ) (line : Text) : Option SensorData :=
  match line with
  | [] => none
  | '#' :: _ => none
  | line => parseSensorData line systemTime

/-! ## Lines of integers -/

theorem visible_map_printInt (values : List ℤ) :
    ∀ token ∈ values.map printInt, Visible token := by
  intro token member
  rcases List.mem_map.1 member with ⟨value, _, rfl⟩
  exact visible_printInt value

theorem parseToInt_map_printInt {values : List ℤ}
    (fits : ∀ value ∈ values, FitsSigned 32 value) :
    parseToInt (values.map printInt) = some values := by
  induction values with
  | nil => rfl
  | cons value rest ih =>
      have here : parseInteger (printInt value) = some value :=
        parseSigned_printInt (fits value List.mem_cons_self)
      have later := ih fun other member => fits other (List.mem_cons_of_mem _ member)
      rw [parseToInt] at later ⊢
      rw [List.map_cons, List.mapM_cons, here, later]
      rfl

/-- A line is read up to its line break. -/
theorem readLine_joinBlank (values : List ℤ) :
    readLine (joinBlank (values.map printInt) ++ ['\n']) =
      joinBlank (values.map printInt) := by
  have clean : ∀ char ∈ joinBlank (values.map printInt),
      (char != '\n' && char != '\r') = true := by
    intro char member
    have notBreak : char ≠ '\n' ∧ char ≠ '\r' := by
      rcases mem_joinBlank member with rfl | ⟨token, inside, within⟩
      · decide
      · have above := (visible_map_printInt values token inside).above char within
        constructor <;> rintro rfl <;> exact absurd above (by decide)
    simpa using notBreak
  rw [readLine, List.takeWhile_append_of_pos clean]
  simp

/-- A line of integers that begins with a short one is read back and gets the time
of its reception. -/
theorem handleIncomingData_joinBlank {first : ℤ} {rest : List ℤ} (systemTime : ℤ)
    (fits : ∀ value ∈ first :: rest, FitsSigned 32 value)
    (short : (printInt first).length ≤ 8) :
    handleIncomingData systemTime (joinBlank ((first :: rest).map printInt)) =
      some ⟨first :: rest, systemTime⟩ := by
  have visible := visible_map_printInt (first :: rest)
  have some_ : (first :: rest).map printInt ≠ [] := by simp
  have components : splitRuns isBlank
      (trim (joinBlank ((first :: rest).map printInt))) =
        (first :: rest).map printInt := by
    rw [trim_joinBlank visible]
    exact splitRuns_joinBlank rfl (fun _ above => isBlank_of_above above) some_ visible
  have parsed : parseSensorData (joinBlank ((first :: rest).map printInt)) systemTime =
      some ⟨first :: rest, systemTime⟩ := by
    have noTime : (Option.filter (fun token : Text => decide (8 < token.length))
        (some (printInt first))) = none := by
      rw [Option.filter_some, if_neg]
      simpa using short
    simp only [parseSensorData, components, parseToInt_map_printInt fits]
    simp only [List.map_cons, List.head?_cons, noTime, Option.bind_none,
      Option.map_some]
  cases line : joinBlank ((first :: rest).map printInt) with
  | nil => exact absurd line (joinBlank_ne_nil some_ visible)
  | cons char others =>
      rw [line] at parsed
      have notComment : char ≠ '#' := by
        rintro rfl
        have member : '#' ∈ joinBlank ((first :: rest).map printInt) := by
          rw [line]
          exact List.mem_cons_self
        rcases mem_joinBlank member with blank | ⟨token, inside, within⟩
        · exact absurd blank (by decide)
        · rcases List.mem_map.1 inside with ⟨value, _, rfl⟩
          exact not_mem_printInt (by decide) (by decide) within
      rw [← parsed]
      simp only [handleIncomingData]
      split
      · next equality => cases equality
      · next equality =>
          cases equality
          exact absurd rfl notComment
      · rfl

theorem toText_of_pos {first : ℤ} {rest : List ℤ} {systemTime : ℤ}
    (positive : 0 < systemTime) :
    (SensorData.mk (first :: rest) systemTime).toText =
      joinBlank ((systemTime :: first :: rest).map printInt) := by
  simp only [SensorData.toText, if_pos positive, List.map_cons]
  rw [joinBlank_cons (List.cons_ne_nil _ _), List.append_assoc]
  rfl

end IotLab.Gateway
