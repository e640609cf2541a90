import Simulcast.Json.Fault

/-!
# Why a message does not arrive

A message is lost when the channel of its receiver is closed or refuses it. Such a
loss, and a document that is not of the kind asked for, are the failures of this
library; `Failure.message` has their wording.
-/

namespace Simulcast

/-- Why a channel did not take a message. -/
inductive TransportFailure where
  /-- The channel is not open. -/
  | channelClosed
  /-- The channel refused the message for a reason that it states. -/
  | refused (reason : String)
  deriving DecidableEq, Repr

/-- The wording of a transport failure. -/
def TransportFailure.message : TransportFailure → String
  | .channelClosed => "Data channel is not open"
  | .refused reason => "Failed to send message: " ++ reason

/-- A failure of this library. -/
inductive Failure where
  /-- A message was not delivered. -/
  | transport (cause : TransportFailure)
  /-- A document is not of the kind asked for. -/
  | serialization (cause : Json.Mismatch)
  deriving DecidableEq, Repr

/-- The wording of a failure. -/
def Failure.message : Failure → String
  | .transport cause => "Transport error: " ++ cause.message
  | .serialization cause => "Serialization error: " ++ cause.message

end Simulcast
