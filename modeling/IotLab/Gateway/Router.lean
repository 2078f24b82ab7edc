import IotLab.Gateway.SensorData

/-!
# Forwarding to the server

The router posts sensor data to the path that the configuration gives for its
type, if the type is among those it forwards.
-/

namespace IotLab.Gateway

/-- The fields of the router that `sendPost` reads. -/
structure Router where
  typeOffset : ℕ
  allowForwarding : List ℤ
  /-- `config.get` of a type. -/
  url : ℤ → Text

/-- A request with the parameter `data`. -/
structure Request where
  url : Text
  data : Text
  deriving Repr, DecidableEq

/-- `SensorData.getValue`. -/
def SensorData.getValue (data : SensorData) (index : ℕ) : Option ℤ := data.values[index]?

/-- `Router.sendPost`. -/
def Router.sendPost (router : Router) (sensorData : Text) (type : ℤ) : Option Request :=
  if type ∈ router.allowForwarding then some { url := router.url type, data := sensorData }
  else none

/-- The post of `Router.forward`; without a value at the offset of the type the
thread ends. -/
def Router.forwardPost (router : Router) (data : SensorData) : Option Request :=
  (data.getValue router.typeOffset).bind (router.sendPost data.toText)

end IotLab.Gateway
