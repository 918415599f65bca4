import XdgPortals.Native.Properties

/-!
# The power-saver state

`apply_power_saver` and the callbacks that feed it. Each returns the signals it decides.
-/

namespace XdgPortals

/-- The boolean a property value carries. -/
def powerSaverOf : Option GVariant → Option Bool
  | some (.boolean value) => some value
  | _                     => none

/-- `g_variant_lookup_value` on an `a{sv}`, for any type. -/
def lookupValue (key : String) : List GVariant → Option GVariant
  | [] => none
  | .dictEntry (.string k) (.variant value) :: rest =>
    if k = key then some value else lookupValue key rest
  | _ :: rest => lookupValue key rest

/-- The power-saver state that a `PropertiesChanged` signal carries. -/
def notifiedPowerSaver : GVariant → Option Bool
  | .tuple [.string interface, .array (.dictEntry .string .variant) changed, .array .string _] =>
    if interface = ifacePowerProfileMonitor then
      powerSaverOf (lookupValue propPowerSaverEnabled changed)
    else none
  | _ => none

namespace XdgPortalNative

/-- Store the state. A notification is reported even when the state was unknown, a re-read only
when it differs from the last one known. -/
def applyPowerSaver (n : XdgPortalNative) (pEnabled pFromSignal : Bool) :
    XdgPortalNative × List Signal :=
  let emit :=
    if pFromSignal then !n.powerSaverKnown || n.powerSaverEnabled != pEnabled
    else n.powerSaverKnownOnce && n.powerSaverEnabled != pEnabled
  ({ n with
      powerSaverKnown := true
      powerSaverKnownOnce := true
      powerSaverEnabled := pEnabled },
    if emit then [.powerSaverChanged pEnabled] else [])

/-- Store the state that was read, if any was. -/
def applyPowerSaver? (n : XdgPortalNative) (value : Option Bool) (pFromSignal : Bool) :
    XdgPortalNative × List Signal :=
  match value with
  | none       => (n, [])
  | some value => n.applyPowerSaver value pFromSignal

/-- The constructor applies the first value of its batch. -/
def seedPowerSaver (n : XdgPortalNative) (values : List (Option GVariant)) :
    XdgPortalNative × List Signal :=
  n.applyPowerSaver? (powerSaverOf values[0]?.join) false

/-- The reply to a re-read. -/
def onPowerSaverRead (n : XdgPortalNative) (reply : PropertyReply) :
    XdgPortalNative × List Signal :=
  n.applyPowerSaver? (powerSaverOf (replyValue reply)) false

/-- A change notification. -/
def onPropertiesChanged (n : XdgPortalNative) (pParameters : GVariant) :
    XdgPortalNative × List Signal :=
  n.applyPowerSaver? (notifiedPowerSaver pParameters) true

/-- 1 or 0, and -1 while the state is unknown. -/
def powerSaverState (n : XdgPortalNative) : ℤ :=
  if n.powerSaverKnown then if n.powerSaverEnabled then 1 else 0 else -1

end XdgPortalNative

end XdgPortals
