import X11Web.Framing
import X11Web.Overwrites
import X11Web.Runs

namespace X11Web.RtcDriver

open Windows Framing Overwrites

def headerBytes : Nat := 8
def chunkTotalBytes : Nat := 16 * 1024
def chunkPayloadBytes : Nat := chunkTotalBytes - headerBytes

def makeChunk (msgId : UInt32) (idx total : UInt16) (part : Bytes) : Bytes :=
  toLeBytes32 msgId.toNat ++ toLeBytes16 idx.toNat ++ toLeBytes16 total.toNat ++ part

def pieces (payload : Bytes) : List Bytes :=
  (List.range ((payload.length + chunkPayloadBytes - 1) / chunkPayloadBytes)).map
    (fun i => slice payload (i * chunkPayloadBytes) chunkPayloadBytes)

/-- The chunks of a message under the identifier that is next; the chunker then
moves to the following one. -/
def chunk (nextMsgId : UInt32) (payload : Bytes) : List Bytes × UInt32 :=
  let parts := pieces payload
  let total : UInt16 := UInt16.ofNat (if payload = [] then 1 else min parts.length 65535)
  if payload = [] then ([makeChunk nextMsgId 0 total []], nextMsgId + 1)
  else (parts.zipIdx.map (fun p => makeChunk nextMsgId (UInt16.ofNat p.2) total p.1), nextMsgId + 1)

/-- What a write on a data channel comes to: `Ok(true)`, `Ok(false)`, `Err`, or
no channel under that identifier. -/
inductive WriteOutcome
  | accepted
  | full
  | failed
  | noChannel
deriving DecidableEq

/-- The state of the task that drives one peer connection, the messages that
the data channels have accepted, and all that was ever sent to the task. -/
structure Drive where
  dcRx : List Bytes
  controlRx : List Bytes
  mediaChannelId : Option Nat
  controlChannelId : Option Nat
  dcOpen : Bool
  controlOpen : Bool
  nextMsgId : UInt32
  pending : List Bytes
  mediaAccepted : List Bytes
  controlAccepted : List Bytes
  mediaSent : List Bytes
  controlSent : List Bytes
deriving DecidableEq

def Drive.new : Drive where
  dcRx := []
  controlRx := []
  mediaChannelId := none
  controlChannelId := none
  dcOpen := false
  controlOpen := false
  nextMsgId := 0
  pending := []
  mediaAccepted := []
  controlAccepted := []
  mediaSent := []
  controlSent := []

/-- Write queued chunks from the `i`-th outcome on, as long as the channel takes
them: those it has accepted, and those that stay queued. -/
def writeChunks (outcome : Nat → WriteOutcome) : Nat → List Bytes → List Bytes × List Bytes
  | _, [] => ([], [])
  | i, c :: cs =>
    match outcome i with
    | .accepted => (c :: (writeChunks outcome (i + 1) cs).1, (writeChunks outcome (i + 1) cs).2)
    | .failed => writeChunks outcome (i + 1) cs
    | .full | .noChannel => ([], c :: cs)

def drainPending (outcome : Nat → WriteOutcome) (d : Drive) : Drive :=
  if d.mediaChannelId.isSome then
    { d with
      mediaAccepted := d.mediaAccepted ++ (writeChunks outcome 0 d.pending).1
      pending := (writeChunks outcome 0 d.pending).2 }
  else d

def channelOpen (id : Nat) (label : String) (d : Drive) : Drive :=
  if label = "control" then { d with controlChannelId := some id, controlOpen := true }
  else { d with mediaChannelId := some id, dcOpen := true }

def channelClose (id : Nat) (d : Drive) : Drive :=
  if d.mediaChannelId = some id then
    { d with mediaChannelId := none, pending := [], dcOpen := false }
  else if d.controlChannelId = some id then { d with controlChannelId := none, controlOpen := false }
  else d

/-- The frame `data` has been received, and with it all that is queued behind:
only the latest frame counts. -/
def recvMedia (data : Bytes) (rest : List Bytes) (d : Drive) : Drive :=
  let latest := rest.getLastD data
  if d.mediaChannelId.isSome then
    { d with
      dcRx := []
      pending := (chunk d.nextMsgId latest).1
      nextMsgId := (chunk d.nextMsgId latest).2 }
  else { d with dcRx := [] }

/-- One control message is taken from the queue and written once. -/
def recvControl (outcome : WriteOutcome) (data : Bytes) (rest : List Bytes) (d : Drive) : Drive :=
  if d.controlChannelId.isSome ∧ outcome = .accepted then
    { d with controlRx := rest, controlAccepted := d.controlAccepted ++ [data] }
  else { d with controlRx := rest }

inductive DriveAction
  | sendMedia (data : Bytes)
  | sendControl (data : Bytes)
  | drainPending (outcome : Nat → WriteOutcome)
  | channelOpen (id : Nat) (label : String)
  | channelClose (id : Nat)
  | recvMedia
  | recvControl (outcome : WriteOutcome)

/-- The steps of the task and of those that send to it, in any order. -/
inductive driveStep : Drive → DriveAction → Drive → Prop
  | sendMedia (d : Drive) (data : Bytes) :
      driveStep d (.sendMedia data)
        { d with dcRx := d.dcRx ++ [data], mediaSent := d.mediaSent ++ [data] }
  | sendControl (d : Drive) (data : Bytes) :
      driveStep d (.sendControl data)
        { d with controlRx := d.controlRx ++ [data], controlSent := d.controlSent ++ [data] }
  | drainPending (d : Drive) (outcome : Nat → WriteOutcome) :
      driveStep d (.drainPending outcome) (drainPending outcome d)
  | channelOpen (d : Drive) (id : Nat) (label : String) :
      driveStep d (.channelOpen id label) (channelOpen id label d)
  | channelClose (d : Drive) (id : Nat) : driveStep d (.channelClose id) (channelClose id d)
  | recvMedia (d : Drive) (data : Bytes) (rest : List Bytes) (h : d.dcRx = data :: rest) :
      driveStep d .recvMedia (recvMedia data rest d)
  | recvControl (d : Drive) (outcome : WriteOutcome) (data : Bytes) (rest : List Bytes)
      (h : d.controlRx = data :: rest) :
      driveStep d (.recvControl outcome) (recvControl outcome data rest d)

end X11Web.RtcDriver
