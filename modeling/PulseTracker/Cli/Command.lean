import PulseTracker.BootSound
import PulseTracker.Cli.Grammar
import PulseTracker.Device.Choice
import PulseTracker.Tone.Sidetone

/-!
# Commands

The commands of the program, their options, and how arguments become a command.
-/

namespace PulseTracker.Cli

/-! ## Values -/

/-- An integer of 64 bits: an optional sign and digits. -/
def integer? (text : String) : Option Int :=
  let (negative, digits) : Bool × List Char :=
    match text.toList with
    | '-' :: digits => (true, digits)
    | '+' :: digits => (false, digits)
    | digits => (false, digits)
  if digits.isEmpty ∨ !digits.all Char.isDigit then none
  else
    let magnitude : Int := Decimal.digitsValue digits
    let value := if negative then -magnitude else magnitude
    if -0x8000000000000000 ≤ value ∧ value < 0x8000000000000000 then some value else none

def below? (bound : Nat) (text : String) : Option Nat :=
  (integer? text).bind fun value =>
    if 0 ≤ value ∧ value < bound then some value.toNat else none

def slot? (text : String) : Option Slot := (below? 256 text).bind Slot.ofNumber?

def rate? (text : String) : Option UInt32 := (below? UInt32.size text).map Nat.toUInt32

def channels? (text : String) : Option UInt16 := (below? UInt16.size text).map Nat.toUInt16

/-- A number of milliseconds: digits with an optional plus sign, of 64 bits. -/
def milliseconds? (text : String) : Option Nat :=
  let digits := match text.toList with
    | '+' :: digits => digits
    | digits => digits
  if digits.isEmpty ∨ !digits.all Char.isDigit then none
  else
    let value := Decimal.digitsValue digits
    if value < UInt64.size then some value else none

def number? (text : String) : Option Float32 := Decimal.read? text

def sound? (text : String) : Option BootSound := BootSound.ofChars? text.toList

/-! ## Options -/

def flag (long about : String) : OptionSpec :=
  { long, short := none, accepts := none, required := false, about, fallback := none }

def valued (long about : String) (accepts : String → Bool) : OptionSpec :=
  { long, short := none, accepts := some accepts, required := false, about, fallback := none }

def storeOption : OptionSpec :=
  valued "store" "Song slot + settings store (TOML). Defaults to <config dir>/chiptune/store.toml"
    fun text => !text.isEmpty

def verboseOption : OptionSpec :=
  { flag "verbose" "Debug logging on stderr" with short := some 'v' }

def globalOptions : List OptionSpec := [storeOption, verboseOption]

def slotOption (about : String) : OptionSpec := valued "slot" about fun text => (slot? text).isSome

def songOptions : List OptionSpec :=
  [slotOption "Play a saved slot (1-3)",
    valued "song" "Play an inline song: \x22tempo=..;d2=..;ns=..;p1=..;p2=..;nz=..;\x22"
      fun _ => true,
    valued "preset" "Boot sound: cute, majestic, gb, song1..song3 (default gb)"
      fun text => (sound? text).isSome,
    flag "sine" "Render voice 1 as a sine instead of a pulse"]

def songRivals : List (String × String) :=
  [("slot", "song"), ("slot", "preset"), ("song", "preset")]

def rateOption : OptionSpec := valued "sample-rate" "" fun text => (rate? text).isSome

def channelsOption : OptionSpec := valued "channels" "" fun text => (channels? text).isSome

def deviceOptions : List OptionSpec :=
  [valued "device" "Output device name (see \x60chiptune devices\x60)" fun _ => true,
    rateOption,
    channelsOption]

def numberOption (long about : String) : OptionSpec :=
  valued long about fun text => (number? text).isSome

/-! ## Specifications -/

def command (name about : String) (options : List OptionSpec) : CommandSpec :=
  { name, about, options := options ++ globalOptions, operands := [], rivals := [],
    outer := false }

def devicesSpec : CommandSpec := command "devices" "List audio output devices" []

def playSpec : CommandSpec :=
  { command "play" "Play through an audio device"
      (songOptions ++ deviceOptions ++
        [numberOption "volume" "0.0-1.0, scaled by the stored master volume"]) with
    rivals := songRivals }

def toneSpec : CommandSpec :=
  command "tone"
    ("Hold a key sidetone. Without --ms, reads \x60<hz> [volume]\x60 lines to retune and " ++
      "stops on an empty line or EOF")
    ([{ numberOption "freq" "" with fallback := some "2300" },
      { numberOption "volume" "" with fallback := some "0.6" },
      valued "ms" "Stop after this many milliseconds" fun text => (milliseconds? text).isSome] ++
      deviceOptions)

def renderSpec : CommandSpec :=
  { command "render" "Render to a 16-bit WAV file"
      ([{ valued "output" "Output .wav path" fun text => !text.isEmpty with
          short := some 'o', required := true }] ++
        songOptions ++
        [{ rateOption with fallback := some "22050" },
          { channelsOption with fallback := some "1" },
          numberOption "volume" ""]) with
    rivals := songRivals }

def saveSpec : CommandSpec :=
  { command "save" "Store a song string in a slot" [{ slotOption "" with required := true }] with
    operands := [("SONG", "Song string; missing or bad fields fall back to defaults")] }

def showSpec : CommandSpec := command "show" "Print saved songs" [slotOption ""]

def settingsSpec : CommandSpec :=
  { command "settings" "Show or change the sound switch and master volume"
      [flag "enable" "", flag "disable" "", numberOption "volume" ""] with
    rivals := [("enable", "disable")] }

def commandSpecs : List CommandSpec :=
  [devicesSpec, playSpec, toneSpec, renderSpec, saveSpec, showSpec, settingsSpec]

def commandSpec? (name : String) : Option CommandSpec :=
  commandSpecs.find? fun spec => spec.name = name

def programSpec : CommandSpec :=
  { name := "chiptune"
    about := "Game Boy style chiptune player"
    options := globalOptions
    operands := []
    rivals := []
    outer := true }

/-! ## Commands -/

structure SongChoice where
  slot : Option Slot
  song : Option String
  preset : Option BootSound
  sine : Bool
  deriving DecidableEq, Repr

inductive Command where
  | devices
  | play (choice : SongChoice) (device : DeviceRequest) (volume : Option Float32)
  | tone (frequency volume : Float32) (milliseconds : Option Nat) (device : DeviceRequest)
  | render (output : String) (choice : SongChoice) (rate : UInt32) (channels : UInt16)
      (volume : Option Float32)
  | save (slot : Slot) (song : String)
  | list (slot : Option Slot)
  | settings (enable disable : Bool) (volume : Option Float32)
  deriving DecidableEq

structure Invocation where
  store : Option String
  verbose : Bool
  command : Command
  deriving DecidableEq

namespace Found

def read? (found : Found) (long : String) (read : String → Option α) : Option α :=
  (found.value? long).bind read

def choice (found : Found) : SongChoice :=
  { slot := found.read? "slot" slot?
    song := found.value? "song"
    preset := found.read? "preset" sound?
    sine := found.has "sine" }

def device (found : Found) : DeviceRequest :=
  { device := found.value? "device"
    rate := found.read? "sample-rate" rate?
    channels := found.read? "channels" channels? }

def volume (found : Found) : Option Float32 := found.read? "volume" number?

def renderRate : UInt32 := 22050

def command? (found : Found) (name : String) : Option Command :=
  if name = "devices" then some .devices
  else if name = "play" then some (.play found.choice found.device found.volume)
  else if name = "tone" then
    some (.tone ((found.read? "freq" number?).getD Sidetone.keyPitch)
      (found.volume.getD Sidetone.keyVolume) (found.read? "ms" milliseconds?) found.device)
  else if name = "render" then
    (found.value? "output").map fun output =>
      .render output found.choice ((found.read? "sample-rate" rate?).getD renderRate)
        ((found.read? "channels" channels?).getD 1) found.volume
  else if name = "save" then
    match found.read? "slot" slot?, found.operands with
    | some slot, [song] => some (.save slot song)
    | _, _ => none
  else if name = "show" then some (.list (found.read? "slot" slot?))
  else if name = "settings" then
    some (.settings (found.has "enable") (found.has "disable") found.volume)
  else none

end Found

def helpFor : List String → Stop
  | [] => .help none
  | [name] => if (commandSpec? name).isSome ∨ name = "help" then .help (some name) else .usage
  | _ => .usage

/-- The command that arguments ask for.  A global option counts where it stands last. -/
def parse (args : List String) : Except Stop Invocation :=
  match programSpec.read args with
  | .error stop => .error stop
  | .ok outer =>
      match outer.rest with
      | [] => .error .usage
      | name :: rest =>
          if name = "help" then .error (helpFor rest)
          else
            match commandSpec? name with
            | none => .error .usage
            | some spec =>
                match spec.read rest with
                | .error stop => .error stop
                | .ok found =>
                    match found.command? name, outer.refused with
                    | some command, false =>
                        .ok
                          { store := (found.value? "store").or (outer.value? "store")
                            verbose := found.has "verbose" || outer.has "verbose"
                            command }
                    | _, _ => .error .usage

end PulseTracker.Cli
