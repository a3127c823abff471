/-!
# Wave files

Sixteen-bit PCM in a RIFF file.  Up to two channels have the short format chunk;
more channels need the extensible one, which also says which speakers they are.
All numbers are little-endian.
-/

namespace PulseTracker.Wave

/-- The `count` lowest bytes of a number, lowest first. -/
def littleEndian : Nat → Nat → List UInt8
  | 0, _ => []
  | count + 1, n => n.toUInt8 :: littleEndian count (n / 256)

def tag (name : String) : List UInt8 := name.toList.map fun c => c.toNat.toUInt8

def bytesPerSample : Nat := 2

def bitsPerSample : Nat := 16

/-- Highest number of channels with the short format chunk. -/
def plainChannels : Nat := 2

/-- Number of speakers that have a bit in the mask. -/
def speakerCount : Nat := 18

def speakerMask (channels : Nat) : Nat := Nat.pow 2 (min channels speakerCount) - 1

def commonFields (code rate channels : Nat) : List UInt8 :=
  littleEndian 2 code ++
  littleEndian 2 channels ++
  littleEndian 4 rate ++
  littleEndian 4 (rate * bytesPerSample * channels) ++
  littleEndian 2 (bytesPerSample * channels) ++
  littleEndian 2 bitsPerSample

def pcmIdentifier : List UInt8 :=
  [0x01, 0x00, 0x00, 0x00, 0x00, 0x00, 0x10, 0x00, 0x80, 0x00, 0x00, 0xaa, 0x00, 0x38, 0x9b, 0x71]

def formatChunk (rate channels : Nat) : List UInt8 :=
  if channels ≤ plainChannels then commonFields 1 rate channels
  else
    commonFields 0xFFFE rate channels ++
    littleEndian 2 22 ++
    littleEndian 2 bitsPerSample ++
    littleEndian 4 (speakerMask channels) ++
    pcmIdentifier

def header (rate channels dataBytes : Nat) : List UInt8 :=
  let format := formatChunk rate channels
  tag "RIFF" ++ littleEndian 4 (20 + format.length + dataBytes) ++
  tag "WAVE" ++
  tag "fmt " ++ littleEndian 4 format.length ++ format ++
  tag "data" ++ littleEndian 4 dataBytes

def pushSample (bytes : ByteArray) (sample : Int16) : ByteArray :=
  let word := sample.toUInt16
  (bytes.push word.toUInt8).push (word >>> 8).toUInt8

def encode (rate channels : Nat) (samples : Array Int16) : ByteArray :=
  samples.foldl pushSample
    ⟨(header rate channels (bytesPerSample * samples.size)).toArray⟩

end PulseTracker.Wave
