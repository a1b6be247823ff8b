/-
  The event queue of the AVRCP observer driver
  (`avrcp-sideband/src/nativeldac_avrcp_event_queue_contract.c`), and the records
  that the driver makes of protocol events (`NldAvrcpObserverQueueProtocolEvent`
  in `avrcp-sideband/sys/device.c`).

  The ring buffer is a list, the oldest record first; what a record is does not
  matter to the queue.  Of a record only the fields that the host reads are kept:
  its sequence number, its timestamp, its status and the raw words after the first
  are left out.
-/
import NativeLdac.Agent.AvrcpObserverHost
import NativeLdac.Protocol.Avrcp

namespace NativeLdac.Sideband

open Agent

/-! ## The queue -/

def nldAvrcpEventQueueCapacity : Nat := 64

structure NldAvrcpEventQueue (ρ : Type) where
  events : List ρ := []
  aclGeneration : UInt64 := 0
  droppedEvents : UInt32 := 0
  generationCurrent : Bool := false
  deriving DecidableEq, Repr

namespace NldAvrcpEventQueue

variable {ρ : Type} (queue : NldAvrcpEventQueue ρ)

/-- `NldAvrcpEventQueueAppend`: a full queue drops its oldest record -/
def append (record : ρ) : NldAvrcpEventQueue ρ :=
  if queue.events.length = nldAvrcpEventQueueCapacity then
    { queue with
      events := queue.events.tail ++ [record]
      droppedEvents := queue.droppedEvents + 1 }
  else { queue with events := queue.events ++ [record] }

/-- `NldAvrcpEventQueueBeginGeneration`, with the record of the connection -/
def beginGeneration (aclGeneration : UInt64) (connected : ρ) : Bool × NldAvrcpEventQueue ρ :=
  if ¬ isNewerGeneration aclGeneration queue.aclGeneration then (false, queue)
  else
    (true, append
      { events := []
        aclGeneration := aclGeneration
        droppedEvents := 0
        generationCurrent := true } connected)

/-- `NldAvrcpEventQueueEndGeneration`, with the record of the disconnection -/
def endGeneration (aclGeneration : UInt64) (disconnected : ρ) : Bool × NldAvrcpEventQueue ρ :=
  if ¬ queue.generationCurrent ∨ queue.aclGeneration ≠ aclGeneration then (false, queue)
  else (true, { queue.append disconnected with generationCurrent := false })

/-- `NldAvrcpEventQueuePush`, for a record of a type -/
def push (aclGeneration : UInt64) (type : NldAvrcpObserverEventType) (record : ρ) :
    Bool × NldAvrcpEventQueue ρ :=
  if ¬ queue.generationCurrent ∨ queue.aclGeneration ≠ aclGeneration ∨
      type = .none ∨ type = .aclConnected ∨ type = .aclDisconnected then (false, queue)
  else (true, queue.append record)

/-- `NldAvrcpEventQueuePop` -/
def pop : Option ρ × NldAvrcpEventQueue ρ :=
  match queue.events with
  | [] => (none, queue)
  | record :: rest => (some record, { queue with events := rest })

end NldAvrcpEventQueue

/-! ## Records of protocol events -/

def eventFlagSupported : UInt32 := 0x00000001
def eventFlagReleased : UInt32 := 0x00000002
def eventFlagResponse : UInt32 := 0x00000004
def eventFlagInterim : UInt32 := 0x00000008
def eventFlagRawPrefix : UInt32 := 0x00000020
def eventRawLengthShift : UInt32 := 8
def eventPacketSizeShift : UInt32 := 16
def eventParseStageShift : UInt32 := 24

/-- Four bytes of a word, the low one first; missing bytes are zero. -/
def wordOfBytes (bytes : List UInt8) : UInt32 :=
  (Protocol.byteAt bytes 0).toUInt32 ||| ((Protocol.byteAt bytes 1).toUInt32 <<< 8) |||
    ((Protocol.byteAt bytes 2).toUInt32 <<< 16) ||| ((Protocol.byteAt bytes 3).toUInt32 <<< 24)

/-- `NldAvrcpObserverQueueProtocolEvent`: the record of a protocol event; none for
    an event that is not queued -/
def protocolEventRecord (event : Protocol.AvrcpObserverEvent) : Option NldAvrcpObserverEvent :=
  match event.kind with
  | .none => none
  | .volumeCapability =>
    some
      { type := .volumeCapability
        flags := if event.volumeSupported ≠ 0 then eventFlagSupported else 0
        value0 := event.volumeSupported.toUInt32 }
  | .volumeChanged =>
    some
      { type := .absoluteVolume
        flags := eventFlagResponse |||
          (if event.responseCode = Protocol.avrcpResponseInterim then eventFlagInterim
          else if event.responseCode = Protocol.avrcpResponseChanged then eventFlagChanged
          else 0)
        value0 := event.absoluteVolume.toUInt32 }
  | .passThrough =>
    some
      { type := .passThrough
        flags := if event.released ≠ 0 then eventFlagReleased else 0
        value0 := event.operationId.toUInt32 }
  | .writeResponse =>
    some
      { type := .writeResponse
        value0 := event.pduId.toUInt32
        rawPrefixHigh := wordOfBytes event.parameterBytes }
  | .vendorCommand =>
    some
      { type := .vendorCommand
        value0 := event.pduId.toUInt32
        rawPrefixHigh := wordOfBytes event.parameterBytes }
  | .protocolError =>
    if event.rawPrefix = [] then some { type := .protocolError }
    else
      some
        { type := .protocolError
          flags := eventFlagRawPrefix |||
            (UInt32.ofNat event.rawPrefix.length <<< eventRawLengthShift) |||
            ((event.rawTotalSize.toUInt32 &&& 0xFF) <<< eventPacketSizeShift) |||
            (event.errorStage.toUInt32 <<< eventParseStageShift)
          value0 := wordOfBytes event.rawPrefix
          rawPrefixHigh := wordOfBytes (event.rawPrefix.drop 4) }

end NativeLdac.Sideband
