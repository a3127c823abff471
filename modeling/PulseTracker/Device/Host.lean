/-!
# Audio devices

What a host can say about its output devices, before anything is played.
-/

namespace PulseTracker

inductive SampleFormat where
  | i8
  | i16
  | i32
  | i64
  | u8
  | u16
  | u32
  | u64
  | f32
  | f64
  deriving DecidableEq, Repr

namespace SampleFormat

def label : SampleFormat → String
  | .i8 => "I8"
  | .i16 => "I16"
  | .i32 => "I32"
  | .i64 => "I64"
  | .u8 => "U8"
  | .u16 => "U16"
  | .u32 => "U32"
  | .u64 => "U64"
  | .f32 => "F32"
  | .f64 => "F64"

def streamable : SampleFormat → Bool
  | .f32 => true
  | .i16 => true
  | .u16 => true
  | _ => false

end SampleFormat

inductive HostError where
  | unavailable
  | unsupported
  | specific (message : String)
  deriving DecidableEq, Repr

def HostError.message : HostError → String
  | .unavailable =>
      "The requested device is no longer available. For example, it has been unplugged."
  | .unsupported => "The requested stream type is not supported by the device."
  | .specific message => "A backend-specific error has occurred: " ++ message

structure StreamConfig where
  channels : UInt16
  rate : UInt32
  format : SampleFormat
  deriving DecidableEq, Repr

structure ConfigRange where
  channels : UInt16
  minRate : UInt32
  maxRate : UInt32
  format : SampleFormat
  deriving DecidableEq, Repr

structure OutputDevice where
  /-- Some devices do not tell their name. -/
  name : Option String
  ranges : Except HostError (List ConfigRange)
  config : Except HostError StreamConfig
  building : Except HostError Unit
  starting : Except HostError Unit

def OutputDevice.label (device : OutputDevice) : String := device.name.getD ""

structure AudioHost where
  devices : List OutputDevice
  listing : Except HostError Unit
  default : Option Nat

namespace AudioHost

def silent : AudioHost := { devices := [], listing := .ok (), default := none }

/-- The devices that can play: those with at least one configuration. -/
def outputs (host : AudioHost) : Except HostError (List OutputDevice) :=
  match host.listing with
  | .error error => .error error
  | .ok _ =>
      .ok <| host.devices.filter fun device =>
        match device.ranges with
        | .ok ranges => !ranges.isEmpty
        | .error _ => false

/-- The default device, whether or not it can play. -/
def defaultOutput (host : AudioHost) : Option OutputDevice :=
  host.default.bind fun index => host.devices[index]?

end AudioHost

end PulseTracker
