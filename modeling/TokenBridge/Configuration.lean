import TokenBridge.Ledger.Table

/-!
# Settings

The settings are made once, when the bridge is set up, and the admin
alone may change them later.
-/

namespace TokenBridge

/-- How many seconds a packet may take, if nothing else is said. -/
def standardTimeout : UInt64 := 600

/-- Whether a timeout is in range: a positive number of seconds, and not
more than thirty days. -/
def checkTimeout (seconds : UInt64) : Except Fault Unit :=
  if seconds = 0 ∨ maxTimeout < seconds then .error .badTimeout else .ok ()

namespace Settings

/-- The settings, which have to be there. -/
def load : Bridge Settings := Table.settings.find () (.notFound .settings)

/-- The settings, for one who may change them. -/
def loadFor (account : Address) : Bridge Settings := do
  let settings ← load
  if account ≠ settings.admin then .throw .unauthorized
  return settings

/-- **Sets the bridge up.** The version is noted before anything is
checked. -/
def establish (admin : String) (timeout : Option UInt64) : Bridge Settings := do
  Table.version.put () .current
  let admin ← .ofExcept ((Address.ofText admin).mapError .badAddress)
  let defaultTimeout := timeout.getD standardTimeout
  .ofExcept (checkTimeout defaultTimeout)
  let settings : Settings := { admin, paused := false, defaultTimeout }
  Table.settings.put () settings
  return settings

/-- **Pauses the bridge**, or lets it go on. Packets that were sent
before are settled all the same. -/
def setPaused (account : Address) (paused : Bool) : Bridge Unit := do
  let settings ← loadFor account
  Table.settings.put () { settings with paused }

/-- Changes how long a packet may take, if its sender does not say. -/
def setDefaultTimeout (account : Address) (seconds : UInt64) : Bridge Unit := do
  let settings ← loadFor account
  .ofExcept (checkTimeout seconds)
  Table.settings.put () { settings with defaultTimeout := seconds }

end Settings

end TokenBridge
