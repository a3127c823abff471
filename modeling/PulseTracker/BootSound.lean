import PulseTracker.Decimal.Read
import PulseTracker.Song.Saved
import PulseTracker.Synth.Render
import PulseTracker.Text.Quoted
import PulseTracker.Tone.Sequence

/-!
# Boot sounds

Two tone sequences, a jingle from the synthesizer, and the saved songs.
-/

namespace PulseTracker

/-! ## Tone sequences -/

namespace Pitch

def d4 : Float32 := 293.66
def g4 : Float32 := 392.00
def a4 : Float32 := 440.00
def b4 : Float32 := 493.88
def c5 : Float32 := 523.25
def d5 : Float32 := 587.33
def e5 : Float32 := 659.26
def fSharp5 : Float32 := 739.99
def g5 : Float32 := 783.99
def a5 : Float32 := 880.00
def c6 : Float32 := 1046.50

end Pitch

def cuteTones : List Tone :=
  [⟨Pitch.c5, 80⟩, ⟨Pitch.e5, 80⟩, ⟨Pitch.g5, 80⟩, ⟨Pitch.c6, 100⟩, ⟨Pitch.g5, 60⟩,
    ⟨Pitch.c6, 120⟩, ⟨Pitch.a5, 70⟩, ⟨Pitch.g5, 70⟩, ⟨Pitch.e5, 90⟩, ⟨Pitch.c6, 120⟩]

def majesticTones : List Tone :=
  [⟨Pitch.d4, 180⟩, ⟨Pitch.a4, 180⟩, ⟨Pitch.d5, 260⟩, ⟨Pitch.g4, 160⟩, ⟨Pitch.b4, 160⟩,
    ⟨Pitch.g5, 220⟩, ⟨Pitch.a4, 180⟩, ⟨Pitch.d5, 220⟩, ⟨Pitch.fSharp5, 260⟩,
    ⟨Pitch.e5, 240⟩, ⟨Pitch.d5, 420⟩]

/-! ## The jingle -/

def jingleTempo : UInt32 := 140

def jinglePattern : Pattern :=
  let lead : List (Nat × UInt8) := [(0, 60), (4, 64), (8, 67), (12, 72)]
  let harmony : List (Nat × UInt8) := [(2, 67), (6, 71), (10, 74), (14, 76)]
  let taps : List (Nat × UInt8) := [(3, 3), (7, 2), (11, 3), (15, 1)]
  let pattern : Pattern := default
  let pattern := lead.foldl (fun p entry => p.setLead entry.1 (some entry.2)) pattern
  let pattern := harmony.foldl (fun p entry => p.setHarmony entry.1 (some entry.2)) pattern
  taps.foldl (fun p entry => p.setNoise entry.1 (some entry.2)) pattern

def jingleVoicing : Voicing :=
  { leadDuty := 0.125, harmonyDuty := 0.5, shortNoise := true, sine := false }

/-- Play the jingle, rendered as a whole because it is short. -/
def playJingle (sink : Sink ω) (volume : Float32) (out : ω) : Except SoundError Report × ω :=
  playSamples sink ((Synth.ofRate sink.rate).render jinglePattern jingleTempo jingleVoicing)
    volume out

/-! ## The choice -/

inductive BootSound where
  | cute
  | majestic
  | jingle
  | song (slot : Slot)
  deriving DecidableEq, Repr

namespace BootSound

def name : BootSound → String
  | .cute => "cute"
  | .majestic => "majestic"
  | .jingle => "gb"
  | .song slot => slot.key

def songVolume : Float32 := 0.9

def volume : BootSound → Float32
  | .cute => 0.5
  | .majestic => 0.55
  | .jingle => 0.9
  | .song _ => songVolume

def smallNumber? (text : List Char) : Option Nat :=
  let digits := match text with
    | '+' :: digits => digits
    | digits => digits
  if digits.isEmpty ∨ !digits.all Char.isDigit then none
  else
    let value := Decimal.digitsValue digits
    if value < 256 then some value else none

def songNumber? (text : List Char) : Option Nat :=
  if "song".toList.isPrefixOf text then smallNumber? (text.drop 4) else none

/-- The sound of a name, in any case and with blanks around it. -/
def ofChars? (text : List Char) : Option BootSound :=
  let word := (Text.trim text).map Char.toLower
  if word = "cute".toList then some .cute
  else if word = "majestic".toList then some .majestic
  else if word = "gb".toList then some .jingle
  else ((songNumber? word).bind Slot.ofNumber?).map .song

structure UnknownSound where
  text : String
  deriving DecidableEq, Repr

def UnknownSound.message (unknown : UnknownSound) : String :=
  "unknown boot sound " ++ Text.quoted unknown.text ++ " (cute, majestic, gb, song1..song3)"

def ofText (text : String) : Except UnknownSound BootSound :=
  match ofChars? text.toList with
  | some sound => .ok sound
  | none => .error ⟨text⟩

/-- Play a boot sound; an empty slot plays nothing. -/
def play (sound : BootSound) (sink : Sink ω) (store : Store κ) (kept : κ) (volume : Float32)
    (out : ω) : Except SoundError Report × ω :=
  match sound with
  | .cute => Tone.playAll cuteTones sink volume out
  | .majestic => Tone.playAll majesticTones sink volume out
  | .jingle => playJingle sink volume out
  | .song slot =>
      let (result, out) := slot.play sink store kept volume neverCancelled out
      (result.map fun report => report.getD default, out)

def records (sound : BootSound) (sink : Sink ω) (store : Store κ) (kept : κ)
    (volume : Float32) (result : Except SoundError Report) : List LogRecord :=
  match sound with
  | .cute => Tone.records cuteTones result
  | .majestic => Tone.records majesticTones result
  | .jingle => []
  | .song slot => slot.records sink store kept volume (result.map some)

end BootSound

end PulseTracker
