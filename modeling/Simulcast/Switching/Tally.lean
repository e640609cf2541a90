import Simulcast.Announcement.Channel
import Simulcast.Json.Wire

/-!
# Statistics

Counts of what an engine decided and did. They are 64-bit words and wrap around.
-/

namespace Simulcast.Switching

/-- The counts. -/
structure Tally where
  /-- Packets that were forwarded. -/
  accepted : UInt64 := 0
  /-- Packets that were not. -/
  dropped : UInt64 := 0
  /-- Packets that were forwarded although no layer selected them. -/
  trickled : UInt64 := 0
  /-- Changes of the current layer. -/
  switches : UInt64 := 0
  /-- Those of them by which the next layer took over. -/
  promotions : UInt64 := 0
  /-- Keyframes asked for. -/
  keyframes : UInt64 := 0
  /-- Announcements that arrived. -/
  sent : UInt64 := 0
  /-- Announcements that were not sent. -/
  skipped : UInt64 := 0
  /-- Announcements that were lost. -/
  failed : UInt64 := 0
  deriving DecidableEq, Repr, Inhabited

namespace Tally

/-! ### Counting -/

/-- Counts a packet. -/
def packet (accepted trickled : Bool) (t : Tally) : Tally :=
  { t with
    accepted := if accepted then t.accepted + 1 else t.accepted
    dropped := if accepted then t.dropped else t.dropped + 1
    trickled := if trickled then t.trickled + 1 else t.trickled }

/-- Counts a change of the current layer. -/
def switch (promoted : Bool) (t : Tally) : Tally :=
  { t with
    switches := t.switches + 1
    promotions := if promoted then t.promotions + 1 else t.promotions }

/-- Counts a keyframe asked for. -/
def keyframe (t : Tally) : Tally := { t with keyframes := t.keyframes + 1 }

/-- Counts an announcement. -/
def announcement (d : Announcement.Delivery) (t : Tally) : Tally :=
  match d with
  | .sent _ => { t with sent := t.sent + 1 }
  | .failed _ _ => { t with failed := t.failed + 1 }
  | .skipped => { t with skipped := t.skipped + 1 }

/-! ### JSON form -/

/-- The counts with their wire names. -/
def members (t : Tally) : List (String × UInt64) :=
  [("packets_accepted", t.accepted), ("packets_dropped", t.dropped),
    ("packets_trickled", t.trickled), ("layer_switches", t.switches),
    ("promotions", t.promotions), ("keyframe_requests", t.keyframes),
    ("notifications_sent", t.sent), ("notifications_skipped", t.skipped),
    ("notifications_failed", t.failed)]

/-- The counts in order. -/
def counts (t : Tally) : List UInt64 := t.members.map (·.2)

instance : Wire Tally where
  encode t := .object (t.members.map fun m => (m.1, Wire.encode m.2))
  reader := .record "SwitchingStats"
    (({} : Tally).members.map fun m => Wire.required UInt64 m.1)
  decode? j := do
    match ← Wire.decodeList? j with
    | [accepted, dropped, trickled, switches, promotions, keyframes, sent, skipped, failed] =>
      pure { accepted, dropped, trickled, switches, promotions, keyframes, sent, skipped, failed }
    | _ => none

end Tally

end Simulcast.Switching
