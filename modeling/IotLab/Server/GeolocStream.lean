import IotLab.Server.DataStream

/-!
# Geolocation streams

`GeolocStream` turns a line of the form `time 10 node nb id rssi ...` into one row
for each sample.  The converted values are computed like those of a data stream and
not used.
-/

namespace IotLab.Server

/-- A row of the table `GeolocationData`. -/
structure GeolocationData where
  src : Text
  dest : Text
  rssi : ℤ
  timestamp : ℤ
  deriving Repr, DecidableEq

/-- `NODE_ID_OFFSET` of `GeolocStream`. -/
def geolocNodeIdOffset : ℕ := 2

def dataNbOffset : ℕ := 3

def firstNeighborId : ℕ := 4

/-- The constructor `GeolocStream(dataStr, dao)`. -/
def newGeolocStream (store : Store) (text : Text) :
    Store × Except Failure InputStream :=
  let read := readStream "GeolocStream".toList "Geolocation data parsing".toList store
    text
  ({ store with
      errors := store.errors ++ read.1
      geolocValid := store.geolocValid && read.1.isEmpty }, read.2)

/-- The loop of `GeolocStream.postConvert`: `count` more steps from the index
`index` on. -/
def readSamples (data : List ℤ) (src : Text) (timestamp : ℤ) :
    (count index : ℕ) → Store → Store × Except Failure (List GeolocationData)
  | 0, _, store => (store, .ok [])
  | count + 1, index, store =>
      match readInt data index with
      | .error failure => (store, .error failure)
      | .ok neighbor =>
          let dest := getMote store neighbor
          match dest.2 with
          | .error failure => (store, .error failure)
          | .ok merged =>
              match readInt data (index + 1) with
              | .error failure => (merged, .error failure)
              | .ok rssi =>
                  let later := readSamples data src timestamp count (index + 2) merged
                  (later.1, later.2.map fun rows => ⟨src, dest.1, rssi, timestamp⟩ :: rows)

/-- The number of steps of a loop `for (i = first; i < end; i += 2)`. -/
def stepsOfTwo (first end_ : ℤ) : ℕ := ((end_ - first + 1) / 2).toNat

/-- `GeolocStream.postConvert`, in the arithmetic of `int`. -/
def InputStream.postConvertGeoloc (stream : InputStream) (store : Store) :
    Store × Except Failure (List GeolocationData) :=
  match readInt stream.data geolocNodeIdOffset with
  | .error failure => (store, .error failure)
  | .ok nodeId =>
      let src := getMote store nodeId
      match src.2 with
      | .error failure => (store, .error failure)
      | .ok merged =>
          match readInt stream.data dataNbOffset with
          | .error failure => (merged, .error failure)
          | .ok nb =>
              let end_ := min (Library.wrapSigned 32 (nb * 2))
                ((stream.data.length : ℤ) - dataNbOffset)
              readSamples stream.data src.1 stream.timestamp
                (stepsOfTwo firstNeighborId
                  (Library.wrapSigned 32 (end_ + firstNeighborId))) firstNeighborId merged

/-- `GeolocStream.convert`. -/
def InputStream.convertGeoloc (stream : InputStream) (store : Store)
    (default : Strategy) : Store × Except Failure (List GeolocationData) :=
  match stream.convertValues store default with
  | .error failure => (store, .error failure)
  | .ok _ => stream.postConvertGeoloc store

end IotLab.Server
