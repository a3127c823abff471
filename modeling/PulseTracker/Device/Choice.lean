import PulseTracker.Audio.Error
import PulseTracker.Device.Host
import PulseTracker.Log
import PulseTracker.Text.Quoted

/-!
# Choosing a device and a configuration

A request may name a device, a rate and a number of channels.  What it leaves
open is taken from the default.  Of a device's configurations the closest one is
chosen: the rate counts first, then the channels, and of equally close ranges the
one that is listed first.
-/

namespace PulseTracker

structure DeviceRequest where
  device : Option String
  rate : Option UInt32
  channels : Option UInt16
  deriving DecidableEq, Repr

inductive DeviceError where
  | host (error : HostError)
  | notFound (name : String)
  | noDefault
  | noConfig
  | unsupportedFormat (format : SampleFormat)
  deriving DecidableEq, Repr

namespace DeviceError

def message : DeviceError → String
  | .host error => error.message
  | .notFound name => "requested device not found: " ++ name
  | .noDefault => "no default output device"
  | .noConfig => "no supported output configs"
  | .unsupportedFormat format => "unsupported device sample format: " ++ format.label

def toSoundError (error : DeviceError) : SoundError := .device error.message

end DeviceError

namespace AudioHost

/-- Names of the devices that can play; those without a name are left out. -/
def outputNames (host : AudioHost) : Except DeviceError (List String) :=
  match host.outputs with
  | .ok devices => .ok (devices.filterMap (·.name))
  | .error error => .error (.host error)

def pick (host : AudioHost) (name : Option String) : Except DeviceError OutputDevice :=
  match name with
  | none =>
      match host.defaultOutput with
      | some device => .ok device
      | none => .error .noDefault
  | some name =>
      match host.outputs with
      | .error error => .error (.host error)
      | .ok devices =>
          match devices.find? fun device => device.name = some name with
          | some device => .ok device
          | none => .error (.notFound name)

end AudioHost

def distance (a b : Nat) : Nat := (a - b) + (b - a)

namespace ConfigRange

def rateDistance (range : ConfigRange) (rate : UInt32) : Nat :=
  if range.minRate ≤ rate ∧ rate ≤ range.maxRate then 0
  else
    min (distance range.minRate.toNat rate.toNat) (distance range.maxRate.toNat rate.toNat)

def channelDistance (range : ConfigRange) (channels : UInt16) : Nat :=
  distance range.channels.toNat channels.toNat

/-- What one step of the rate counts for against the channels. -/
def rateWeight : Nat := 1000

/-- How far a range is from a request; what is not asked for does not count. -/
def penalty (range : ConfigRange) (rate : Option UInt32) (channels : Option UInt16) : Nat :=
  ((rate.map range.rateDistance).getD 0) * rateWeight +
    (channels.map range.channelDistance).getD 0

/-- The configuration of a range at the rate closest to the one asked for, or at its highest. -/
def configAt (range : ConfigRange) (rate : Option UInt32) : StreamConfig :=
  { channels := range.channels
    rate :=
      match rate with
      | some rate => max range.minRate (min range.maxRate rate)
      | none => range.maxRate
    format := range.format }

def closest (rate : Option UInt32) (channels : Option UInt16) :
    List ConfigRange → Option ConfigRange
  | [] => none
  | range :: rest =>
      match closest rate channels rest with
      | none => some range
      | some other =>
          if other.penalty rate channels < range.penalty rate channels then some other
          else some range

end ConfigRange

def OutputDevice.choose (device : OutputDevice) (rate : Option UInt32)
    (channels : Option UInt16) : Except DeviceError StreamConfig :=
  if rate.isNone ∧ channels.isNone then
    match device.config with
    | .ok config => .ok config
    | .error error => .error (.host error)
  else
    match device.ranges with
    | .error error => .error (.host error)
    | .ok ranges =>
        match ConfigRange.closest rate channels ranges with
        | some range => .ok (range.configAt rate)
        | none => .error .noConfig

namespace AudioHost

def plan (host : AudioHost) (request : DeviceRequest) :
    Except DeviceError (OutputDevice × StreamConfig) :=
  match host.pick request.device with
  | .error error => .error error
  | .ok device =>
      match device.choose request.rate request.channels with
      | .error error => .error error
      | .ok config => .ok (device, config)

def openStream (host : AudioHost) (request : DeviceRequest) : Except SoundError StreamConfig :=
  match host.plan request with
  | .error error => .error error.toSoundError
  | .ok (device, config) =>
      if !config.format.streamable then
        .error (DeviceError.unsupportedFormat config.format).toSoundError
      else
        match device.building, device.starting with
        | .error error, _ => .error (.stream error.message)
        | .ok _, .error error => .error (.stream error.message)
        | .ok _, .ok _ => .ok config

end AudioHost

def deviceTarget : String := "audio::cpal"

def openingRecords (host : AudioHost) (request : DeviceRequest) : List LogRecord :=
  match host.plan request with
  | .error _ => []
  | .ok (device, config) =>
      [{ level := .debug
         target := deviceTarget
         message := s!"opening {Text.quoted device.label}: " ++
           s!"{config.rate} Hz x{config.channels} ({config.format.label})" }]

end PulseTracker
