import PulseTracker.Audio.Error
import PulseTracker.Audio.Playback
import PulseTracker.Audio.Sink
import PulseTracker.Audio.Source
import PulseTracker.BootSound
import PulseTracker.Cli.Command
import PulseTracker.Cli.Failure
import PulseTracker.Cli.Grammar
import PulseTracker.Cli.Help
import PulseTracker.Cli.Run
import PulseTracker.Cli.Session
import PulseTracker.Decimal.Fixed
import PulseTracker.Decimal.Nearest
import PulseTracker.Decimal.Parts
import PulseTracker.Decimal.Read
import PulseTracker.Decimal.Shortest
import PulseTracker.Device.Choice
import PulseTracker.Device.Encoding
import PulseTracker.Device.Host
import PulseTracker.Device.Output
import PulseTracker.Disk.Basic
import PulseTracker.Disk.Path
import PulseTracker.Embedding
import PulseTracker.Log
import PulseTracker.Main
import PulseTracker.Noise
import PulseTracker.Oscillator
import PulseTracker.Pattern
import PulseTracker.Proofs.Synth.Chunking
import PulseTracker.Proofs.Synth.Tick
import PulseTracker.Sample
import PulseTracker.Settings
import PulseTracker.Song.Basic
import PulseTracker.Song.Saved
import PulseTracker.Song.Stream
import PulseTracker.Song.Text
import PulseTracker.StepFade
import PulseTracker.Store.Basic
import PulseTracker.Store.File
import PulseTracker.Store.Slot
import PulseTracker.Store.Table
import PulseTracker.Synth.Basic
import PulseTracker.Synth.Block
import PulseTracker.Synth.Count
import PulseTracker.Synth.Render
import PulseTracker.Text.Blank
import PulseTracker.Text.Printable
import PulseTracker.Text.Quoted
import PulseTracker.Text.Split
import PulseTracker.Toml.Chars
import PulseTracker.Toml.Reader
import PulseTracker.Toml.Writer
import PulseTracker.Tone.Burst
import PulseTracker.Tone.Sequence
import PulseTracker.Tone.Sidetone
import PulseTracker.Wave.File
import PulseTracker.Wave.Format
import PulseTracker.Worker.Song
import PulseTracker.Worker.Tone
import PulseTracker.Proofs.Noise.Session
import PulseTracker.Proofs.Audio.Delivery
import PulseTracker.Proofs.Song.Delivery
import PulseTracker.Proofs.Song.Number
import PulseTracker.Proofs.Song.RoundTrip
import PulseTracker.Proofs.Audio.Cuts
import PulseTracker.Proofs.Song.Loading
import PulseTracker.Proofs.Worker.Stop
import PulseTracker.Proofs.Device.Order
import PulseTracker.Proofs.Synth.Editing
import PulseTracker.Proofs.Synth.Buffer
import PulseTracker.Proofs.Audio.Likeness
import PulseTracker.Proofs.Store.Law
import PulseTracker.Proofs.Song.Saved
import PulseTracker.Proofs.Settings.Switch
import PulseTracker.Proofs.Toml.Escape
import PulseTracker.Proofs.Toml.Lines
import PulseTracker.Proofs.Toml.RoundTrip
import PulseTracker.Proofs.Disk.ReadBack
import PulseTracker.Proofs.Store.WriteThrough
import PulseTracker.Proofs.Audio.Script
import PulseTracker.Proofs.Audio.Requests
import PulseTracker.Proofs.Worker.Thread
import PulseTracker.Proofs.Worker.Failure
import PulseTracker.Proofs.Worker.Sounding
import PulseTracker.Proofs.Text.Bytes
import PulseTracker.Proofs.Synth.Magnitude
import PulseTracker.Proofs.Embedding.History
import PulseTracker.Proofs.Wave.Take
import PulseTracker.Proofs.Cli.Action
import PulseTracker.Proofs.Cli.Routes
import PulseTracker.Proofs.Device.Choice
import PulseTracker.Proofs.Device.Nearest
import PulseTracker.Proofs.Store.Cells
import PulseTracker.Proofs.Wave.Capture
import PulseTracker.Proofs.Disk.Elsewhere
import PulseTracker.Proofs.Store.Muted
import PulseTracker.Proofs.Cli.Ensures
import PulseTracker.Proofs.Cli.Muting
import PulseTracker.Proofs.Cli.Launches
import PulseTracker.Proofs.Noise.Clocking
import PulseTracker.Proofs.Noise.Coherence
import PulseTracker.Proofs.Synth.Voices
import PulseTracker.Proofs.Audio.Calls
import PulseTracker.Proofs.Audio.Cancelling
import PulseTracker.Proofs.Song.Progress
import PulseTracker.Proofs.Worker.Playhead
import PulseTracker.Proofs.Worker.Retuning
import PulseTracker.Proofs.Audio.Filling
import PulseTracker.Proofs.Tone.Burst
import PulseTracker.Proofs.Tone.Sequence
import PulseTracker.Proofs.Song.Segments
import PulseTracker.Proofs.BootSound.Name
import PulseTracker.Proofs.Synth.Ramps
import PulseTracker.Proofs.Song.Opening
import PulseTracker.Proofs.Decimal.Places
import PulseTracker.Proofs.Settings.Volume
