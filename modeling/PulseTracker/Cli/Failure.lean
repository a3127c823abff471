import PulseTracker.Audio.Error
import PulseTracker.Store.Slot
import PulseTracker.Text.Quoted

/-!
# Failures of commands

A command that fails is reported in one line that names the cause and its parts.
-/

namespace PulseTracker

def recordText (name body : String) : String := name ++ " \x7b " ++ body ++ " \x7d"

def FileError.term (error : FileError) : String :=
  match error.code? with
  | some (number, kind, text) =>
      recordText "Os"
        ("code: " ++ toString number ++ ", kind: " ++ kind ++ ", message: " ++ Text.quoted text)
  | none =>
      match error with
      | .other message => recordText "Custom" ("kind: Other, error: " ++ Text.quoted message)
      | .endedName =>
          recordText "Error" ("kind: InvalidInput, message: " ++ Text.quoted error.message)
      | _ => recordText "Error" ("kind: InvalidData, message: " ++ Text.quoted error.message)

def WaveError.term : WaveError → String
  | .file error => "IoError(" ++ error.term ++ ")"
  | .unfinished => "UnfinishedSample"

def SoundError.term : SoundError → String
  | .device message => "Device(" ++ Text.quoted message ++ ")"
  | .stream message => "Stream(" ++ Text.quoted message ++ ")"
  | .wave error => "Wav(" ++ error.term ++ ")"
  | .file error => "Io(" ++ error.term ++ ")"
  | .store message => "Store(" ++ Text.quoted message ++ ")"
  | .disconnected => "Disconnected"

namespace Cli

inductive Failure where
  | audio (error : SoundError)
  | emptySlot (slot : Slot)
  deriving DecidableEq, Repr

def Failure.term : Failure → String
  | .audio error => error.term
  | .emptySlot slot => Text.quoted ("slot " ++ toString slot.number ++ " is empty")

def Failure.report (failure : Failure) : String := "Error: " ++ failure.term

end Cli

end PulseTracker
