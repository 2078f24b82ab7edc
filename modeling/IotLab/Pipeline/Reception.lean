import IotLab.Gateway.SensorData
import IotLab.Library.Codec
import IotLab.Server.InputStream
import Mathlib.Tactic.NormNum

/-!
# A line at the gateway

What the gateway makes of a line that the sink has printed, and the address that the
server makes of the two bytes of an originator.
-/

namespace IotLab.Pipeline

open IotLab.Library
open IotLab.Gateway
open IotLab.Server

/-- The time at which the gateway reads a line, in milliseconds. -/
structure ReceptionTime where
  value : ℤ
  late : 10 ^ 8 ≤ value
  fits : value < 2 ^ 63

theorem ReceptionTime.fitsSigned (time : ReceptionTime) : FitsSigned 64 time.value := by
  have late := time.late
  have fits := time.fits
  constructor
  · norm_num at late ⊢
    omega
  · norm_num at fits ⊢
    exact fits

theorem fitsSigned_of_lt {value : ℕ} (small : value < 65536) :
    FitsSigned 32 (value : ℤ) := by
  constructor
  · norm_num
  · norm_num
    omega

theorem fitsSigned_of_int16 {value : ℤ} (low : -32768 ≤ value) (high : value < 32768) :
    FitsSigned 32 value := by
  constructor
  · norm_num
    omega
  · norm_num
    omega

/-- What the gateway makes of a printed line of integers that begins with a short
one. -/
theorem gateway_line {first : ℤ} {rest : List ℤ} (time : ReceptionTime)
    (fits : ∀ value ∈ first :: rest, FitsSigned 32 value)
    (short : (printInt first).length ≤ 8) :
    (handleIncomingData time.value
        (readLine (joinBlank ((first :: rest).map printInt) ++ ['\n']))).map
      SensorData.toText =
        some (joinBlank ((time.value :: first :: rest).map printInt)) := by
  have late := time.late
  rw [readLine_joinBlank, handleIncomingData_joinBlank time.value fits short,
    Option.map_some, toText_of_pos]
  omega

theorem moteAddress_bytes (low high : Byte) :
    moteAddress (low.val + 256 * high.val) =
      Nat.toDigits 10 low.val ++ '.' :: Nat.toDigits 10 high.val := by
  have lowByte : ((low.val : ℤ) + 256 * high.val) % 256 = (low.val : ℤ) := by
    have bounded := low.isLt
    omega
  have highByte : ((low.val : ℤ) + 256 * high.val) / 256 % 256 = (high.val : ℤ) := by
    have lowBounded := low.isLt
    have highBounded := high.isLt
    omega
  rw [moteAddress, lowByte, highByte, printInt_natCast, printInt_natCast]

end IotLab.Pipeline
