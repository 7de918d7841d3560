import RustTgCalls.Models
import RustTgCalls.Media.FrameReader

namespace RustTgCalls.Wrtc

open Media

/-! The factory's monitor, as far as it watches one stack. -/

/-- Nanoseconds of the system clock; zero is no start. -/
structure PcMonitorEntry where
  checkingNs : Int
  everConnected : Bool
  deriving DecidableEq, Repr

/-- What a tick spawns. -/
inductive Spawned where
  | close
  | keepalive
  deriving DecidableEq, Repr

def iceCheckingTimeout : Nat := 35 * 1000000000

namespace PcMonitorEntry

def new : PcMonitorEntry where
  checkingNs := 0
  everConnected := false

def tick (entry : PcMonitorEntry) (state : ConnState) (videoSsrc : UInt32)
    (doKeepalive : Bool) (now : Int) : PcMonitorEntry × Option Spawned :=
  if state ≠ .connected then
    if entry.everConnected then (entry, none)
    else if entry.checkingNs = 0 then ({ entry with checkingNs := now }, none)
    else if (now - entry.checkingNs).natAbs > iceCheckingTimeout then
      (entry, some .close)
    else (entry, none)
  else
    ({ checkingNs := 0, everConnected := true },
      if doKeepalive && videoSsrc != 0 then some .keepalive else none)

end PcMonitorEntry

end RustTgCalls.Wrtc
