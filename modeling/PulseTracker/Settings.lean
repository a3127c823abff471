import PulseTracker.Decimal.Fixed
import PulseTracker.Decimal.Read
import PulseTracker.Log
import PulseTracker.Sample
import PulseTracker.Store.File
import PulseTracker.Text.Blank
import PulseTracker.Text.Quoted

/-!
# Sound settings

A switch and a master volume, kept in a store as two texts.  Values that are
missing or unreadable count as their defaults.
-/

namespace PulseTracker

structure Settings where
  enabled : Bool
  volume : Float32
  deriving DecidableEq

namespace Settings

instance : Inhabited Settings := ⟨⟨true, 1⟩⟩

def enabledKey : String := "sound_enabled"

def volumeKey : String := "sound_volume"

/-- A change of the volume below this counts as none. -/
def volumeStep : Float32 := 0.001

/-- The value of a key, where an empty text counts as missing. -/
def text? (store : Store κ) (kept : κ) (key : String) : Option String :=
  (store.get? kept key).filter fun text => !text.isEmpty

def enabledOfText (text : String) : Bool := !(text = "false" || text = "0")

/-- The volume a text names; a NaN is none. -/
def volumeOfText? (text : String) : Option Float32 :=
  match Decimal.readChars (Text.trim text.toList) with
  | some volume => if volume.isNaN then none else some (clampTo 0 1 volume)
  | none => none

def load (store : Store κ) (kept : κ) : Settings :=
  { enabled := ((text? store kept enabledKey).map enabledOfText).getD (default : Settings).enabled
    volume := ((text? store kept volumeKey).bind volumeOfText?).getD (default : Settings).volume }

def loadRecords (store : Store κ) (kept : κ) : List LogRecord :=
  match text? store kept volumeKey with
  | some text =>
      if (volumeOfText? text).isSome then []
      else
        [{ level := .warn
           target := storeTarget
           message := s!"ignoring bad {volumeKey} value {Text.quoted text}" }]
  | none => []

def enabledText (settings : Settings) : String :=
  if settings.enabled then "true" else "false"

def volumeText (settings : Settings) : String := Decimal.fixed 3 settings.volume

/-- Keep both values, the switch first. -/
def persist (settings : Settings) (store : Store κ) (kept : κ) :
    Except SoundError Unit × κ :=
  match store.set enabledKey settings.enabledText kept with
  | (.error error, kept) => (.error error, kept)
  | (.ok _, kept) => store.set volumeKey settings.volumeText kept

structure Change (κ : Type) where
  result : Except SoundError Bool
  settings : Settings
  kept : κ

/-- Replace the settings and keep them if asked to.  They stay replaced if that fails. -/
def change (settings : Settings) (persisted : Bool) (store : Store κ) (kept : κ) :
    Change κ :=
  if persisted then
    match settings.persist store kept with
    | (.error error, kept) => ⟨.error error, settings, kept⟩
    | (.ok _, kept) => ⟨.ok true, settings, kept⟩
  else ⟨.ok true, settings, kept⟩

def setEnabled (settings : Settings) (enabled persisted : Bool) (store : Store κ)
    (kept : κ) : Change κ :=
  if settings.enabled = enabled then ⟨.ok false, settings, kept⟩
  else change { settings with enabled } persisted store kept

def near (a b : Float32) : Bool :=
  a - b < volumeStep && -volumeStep < a - b

/-- Set the volume, cut to `[0, 1]`.  A NaN and a change below `volumeStep` change nothing. -/
def setVolume (settings : Settings) (volume : Float32) (persisted : Bool)
    (store : Store κ) (kept : κ) : Change κ :=
  if volume.isNaN || near settings.volume (clampTo 0 1 volume) then ⟨.ok false, settings, kept⟩
  else change { settings with volume := clampTo 0 1 volume } persisted store kept

/-- The master volume on top of another one; nothing is heard while the sound is off. -/
def apply (settings : Settings) (volume : Float32) : Float32 :=
  if settings.enabled then volume * settings.volume else 0

end Settings

end PulseTracker
