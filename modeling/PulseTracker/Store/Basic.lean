import PulseTracker.Audio.Error
import PulseTracker.Store.Table

/-!
# Stores

A store keeps texts under keys.  It is a record of operations on a state `κ`, so
that songs and settings can be kept in memory or in a file alike.
-/

namespace PulseTracker

structure Store (κ : Type) where
  get? : κ → String → Option String
  /-- Keep a value; the state is given back even when that fails. -/
  set : String → String → κ → Except SoundError Unit × κ

def tableStore : Store Table where
  get? table key := table.get? key
  set key value table := (.ok (), table.insert key value)

end PulseTracker
