import TelemetryBridge.Path.Basic

/-!
# Subscribe requests

What the bridge asks of a target: one subscription per path, in order, with the cadence left to the
target. A user name, when there is one, travels beside the request together with the password.
-/

namespace TelemetryBridge

/-- Who decides when a value is sent. -/
inductive SubscriptionMode where
  | targetDefined
  | onChange
  | sample
deriving DecidableEq

/-- A path and the cadence asked for it. -/
structure Subscription where
  path : Path
  mode : SubscriptionMode
deriving DecidableEq

/-- The name the target is addressed by, and the subscriptions. -/
structure SubscribeRequest where
  targetName : String
  subscriptions : List Subscription
deriving DecidableEq

/-- Asks for every path in the order given. -/
def SubscribeRequest.ofPaths (targetName : String) (paths : List Path) : SubscribeRequest :=
  ⟨targetName, paths.map fun path => ⟨path, .targetDefined⟩⟩

/-- Name and password sent with a subscribe call. -/
structure Login where
  username : String
  password : String
deriving DecidableEq

/-- Nothing is sent without a user name; the password may be empty. -/
def Login.ofCredentials (username password : Option String) : Option Login :=
  match username with
  | none => none
  | some "" => none
  | some name => some ⟨name, password.getD ""⟩

end TelemetryBridge
