import PulseTracker.Device.Host
import PulseTracker.Wave.Format

/-!
# Samples in a device's format

How a sixteen-bit sample is handed to a device: as it is, moved up by half the
range, or as a fraction of full scale.
-/

namespace PulseTracker

/-- A sample as an unsigned word, with silence in the middle of the range. -/
def offsetSample (sample : Int16) : UInt16 := sample.toUInt16 ^^^ 0x8000

def fractionSample (sample : Int16) : Float32 := sample.toFloat32 / 32768

def SampleFormat.bytes (format : SampleFormat) (sample : Int16) : List UInt8 :=
  match format with
  | .f32 => Wave.littleEndian 4 (fractionSample sample).toBits.toNat
  | .u16 => Wave.littleEndian 2 (offsetSample sample).toNat
  | _ => Wave.littleEndian 2 sample.toUInt16.toNat

end PulseTracker
