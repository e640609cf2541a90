import Simulcast.Announcement.Channel

/-!
# Happenings

What an engine asks of those around it: a threshold of the settings, a keyframe of a
layer, an announcement of the channel.
-/

namespace Simulcast.Session

/-- What an engine asked of those around it. -/
inductive Happening where
  /-- A threshold was looked up. -/
  | thresholdRead (key : String) (default : Int32)
  /-- A layer was asked for a keyframe. -/
  | keyframe (layer : Nat)
  /-- An announcement about a layer was handed over. -/
  | announced (kind : Announcement.Kind) (layer : Nat) (delivery : Announcement.Delivery)
  deriving DecidableEq, Repr

/-- What a change of the roles leads to, once it is made. -/
inductive Effect where
  /-- A keyframe of a layer. -/
  | keyframe (layer : Nat)
  /-- An announcement about a layer. -/
  | announcement (kind : Announcement.Kind) (layer : Nat)
  deriving DecidableEq, Repr

end Simulcast.Session
