/-!
# Errors of playing and saving

Every failure is a cause, and the wording of a cause is in one place.
-/

namespace PulseTracker

inductive FileError where
  | missing
  | exists
  | notDirectory
  | isDirectory
  | nameTooLong
  /-- The path has a character that ends texts. -/
  | endedName
  /-- The bytes are no UTF-8 text. -/
  | notText
  | other (message : String)
  deriving DecidableEq, Repr

namespace FileError

/-- The number the system gives a cause, its kind, and its text; other causes have a text alone. -/
def code? : FileError → Option (Nat × String × String)
  | .missing => some (2, "NotFound", "No such file or directory")
  | .exists => some (17, "AlreadyExists", "File exists")
  | .notDirectory => some (20, "NotADirectory", "Not a directory")
  | .isDirectory => some (21, "IsADirectory", "Is a directory")
  | .nameTooLong => some (36, "InvalidFilename", "File name too long")
  | .endedName => none
  | .notText => none
  | .other _ => none

def plainMessage : FileError → String
  | .endedName => "file name contained an unexpected NUL byte"
  | .notText => "stream did not contain valid UTF-8"
  | .other message => message
  | _ => ""

def message (error : FileError) : String :=
  match error.code? with
  | some (number, _, text) => text ++ " (os error " ++ toString number ++ ")"
  | none => error.plainMessage

end FileError

inductive WaveError where
  | file (error : FileError)
  /-- The samples end inside a frame. -/
  | unfinished
  deriving DecidableEq, Repr

def WaveError.message : WaveError → String
  | .file error => error.message
  | .unfinished => "The number of samples written is not a multiple of the number of channels."

inductive SoundError where
  | device (message : String)
  | stream (message : String)
  | wave (error : WaveError)
  | file (error : FileError)
  | store (message : String)
  /-- The other end of the output is gone. -/
  | disconnected
  deriving DecidableEq, Repr

def SoundError.message : SoundError → String
  | .device message => "audio device error: " ++ message
  | .stream message => "audio stream error: " ++ message
  | .wave error => "WAV error: " ++ error.message
  | .file error => "IO error: " ++ error.message
  | .store message => "store error: " ++ message
  | .disconnected => "audio output disconnected"

end PulseTracker
