import XdgPortals.Native.Basic

/-!
# Reading properties in parallel

The reads of one batch are sent together. Their replies fill the batch on the worker, and the
caller takes what has arrived once all of them have, or once it gives up.
-/

namespace XdgPortals

def ifaceGameMode : String := "org.freedesktop.portal.GameMode"

def ifaceInhibit : String := "org.freedesktop.portal.Inhibit"

def ifacePowerProfileMonitor : String := "org.freedesktop.portal.PowerProfileMonitor"

def ifaceOpenUri : String := "org.freedesktop.portal.OpenURI"

def ifaceNotification : String := "org.freedesktop.portal.Notification"

def propPowerSaverEnabled : String := "power-saver-enabled"

/-- The interfaces whose version `get_interface_versions` reports. -/
def portalInterfaces : List String :=
  [ifaceGameMode, ifaceInhibit, ifacePowerProfileMonitor, ifaceOpenUri, ifaceNotification]

/-- The outcome of a `Properties.Get` call: the value in the reply, or the error. -/
abbrev PropertyReply := Except (Option GError) GVariant

/-- Whether the error is the portal's own answer that the property does not exist. -/
def isDefinitiveAbsence : Option GError → Bool
  | none   => false
  | some e =>
    e.code == .dbusInvalidArgs || e.code == .dbusUnknownInterface ||
      e.code == .dbusUnknownProperty || e.code == .dbusUnknownMethod || e.code == .dbusUnknownObject

/-- The value a reply carries. -/
def replyValue : PropertyReply → Option GVariant
  | .ok value => some value
  | .error _  => none

/-- Whether a reply is the portal's answer, and not a timeout or a missing service. -/
def isDefinitive : PropertyReply → Bool
  | .ok _        => true
  | .error error => isDefinitiveAbsence error

/-- The results of a parallel read, as far as they have arrived. -/
structure PropertyBatch where
  values : List (Option GVariant)
  definitive : List Bool
  remaining : ℕ

namespace PropertyBatch

/-- A batch of which nothing has arrived. -/
def start (size : ℕ) : PropertyBatch where
  values := List.replicate size none
  definitive := List.replicate size false
  remaining := size

/-- One read has returned. -/
def onPropertyRead (batch : PropertyBatch) (index : ℕ) (reply : PropertyReply) : PropertyBatch where
  values := batch.values.set index (replyValue reply)
  definitive := batch.definitive.set index (isDefinitive reply)
  remaining := batch.remaining - 1

/-- The caller has taken the values. -/
def release (batch : PropertyBatch) : PropertyBatch :=
  { batch with values := batch.values.map fun _ => none }

end PropertyBatch

/-- The values of a batch and which of them are definitive, taken after the replies that have
arrived, each with its index in the batch. -/
def readProperties (connected : Bool) (pProperties : List (String × String))
    (arrived : List (ℕ × PropertyReply)) : List (Option GVariant) × List Bool :=
  if !connected || pProperties.isEmpty then
    (List.replicate pProperties.length none, List.replicate pProperties.length false)
  else
    let batch := arrived.foldl (fun batch read => batch.onPropertyRead read.1 read.2)
      (PropertyBatch.start pProperties.length)
    (batch.values, batch.definitive)

end XdgPortals
