import IotLab.Server.InputStream

/-!
# Sink streams

`SinkStream` turns a line of the form `? type node version ...` into one row of the
table of sinks.  The first token is not read.
-/

namespace IotLab.Server

open IotLab.Library

/-- `SINK_ID_OFFSET`. -/
def sinkIdOffset : ℕ := 2

def dvnOffset : ℕ := 3

/-- A row of the table `Sink`. -/
structure Sink where
  ipv6 : Text
  mac : Text
  dodagVersionNumber : ℤ
  deriving Repr, DecidableEq

/-- `SinkDAO.mergeSink`: the sink with the address gets the version; without one, and
with several ones, a new sink is added.  The key of the table `Mote` refuses a sink with the
address of another mote. -/
def mergeSink (motes : List Text) (sinks : List Sink) (addr : Text) (dvn : ℤ) :
    Except Failure (Sink × List Sink) :=
  match sinks.filter fun sink => sink.mac = addr with
  | [sink] =>
      .ok ({ sink with dodagVersionNumber := dvn }, sinks.map fun other =>
        if other.mac = addr then { other with dodagVersionNumber := dvn } else other)
  | _ =>
      if motes.contains addr then .error .duplicateMote
      else .ok (⟨addr, addr, dvn⟩, sinks ++ [⟨addr, addr, dvn⟩])

/-- The array of the constructor, which has an element for each token. -/
def sinkTokens (text : Text) : List ℤ × List ErrorRow :=
  match splitEach isSpace text with
  | [] => ([], [])
  | _ :: tokens => readTokens "Sink data parsing".toList tokens

/-- The constructor `SinkStream(dataStr, dao)`.  The stream has no time. -/
def newSinkStream (store : Store) (text : Text) : Store × Except Failure InputStream :=
  let read := sinkTokens text
  ({ store with errors := store.errors ++ read.2 }, do
    let type ← store.findType (← readInt read.1 typeOffset)
    .ok { streamName := "SinkStream".toList, timestamp := 0, data := read.1, type })

/-- `SinkStream.postConvert`: the table of sinks and the list; `motes` are the addresses of all
motes. -/
def InputStream.postConvertSink (stream : InputStream) (motes : List Text) (sinks : List Sink) :
    Except Failure (List Sink × List Sink) := do
  let nodeId ← readInt stream.data sinkIdOffset
  let dvn ← readInt stream.data dvnOffset
  let merged ← mergeSink motes sinks (moteAddress nodeId) dvn
  .ok (merged.2, [merged.1])

/-- `SinkStream.convert`. -/
def InputStream.convertSink (stream : InputStream) (store : Store) (motes : List Text)
    (sinks : List Sink) (default : Strategy) : Except Failure (List Sink × List Sink) := do
  let _ ← stream.convertValues store default
  stream.postConvertSink motes sinks

end IotLab.Server
