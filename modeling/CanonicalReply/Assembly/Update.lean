import CanonicalReply.Reply.Completion
import CanonicalReply.Supply

/-!
# Updates of completions

A payload is turned into an update, which is laid over the completion that the caller has so far.
An update leaves alone what its payload does not speak of.
-/

namespace CanonicalReply

/-- What one payload says about a completion. Where it says nothing, there is `none`. -/
structure Update where
  choices : List Choice
  usage : Option Usage
  id : Option String
  created : Option Int64
  /-- The model; it is `some none` if the payload says that there is none. -/
  model : Option (Option String)
  systemFingerprint : Option (Option String)
  side : SideChannel
  headers : Option Headers
  extra : Dict Json
  deriving DecidableEq

namespace Completion

/-- The provider in front of the first slash of a model's name, if there is a slash. -/
def provider? (model : String) : Option String :=
  if model.toList.contains '/' then some (String.ofList (model.toList.takeWhile (· ≠ '/')))
  else none

/-- The name of a model after an update. A name is kept once there is one, but what stands behind
its provider changes. -/
def mergeModel (existing incoming : Option String) : Option String :=
  match existing, incoming with
  | none, incoming => incoming
  | some current, none => some current
  | some current, some model =>
    match provider? current with
    | none => some current
    | some provider => some (provider ++ "/" ++ model)

/-- The completion after an update. -/
def apply (c : Completion) (u : Update) : Completion where
  id := u.id.getD c.id
  object := c.object
  created := u.created.getD c.created
  model :=
    match u.model with
    | none => c.model
    | some incoming => mergeModel c.model incoming
  choices := u.choices
  usage := u.usage.or c.usage
  systemFingerprint := u.systemFingerprint.getD c.systemFingerprint
  extra := c.extra.overlay u.extra
  side := c.side.overlay u.side
  headers := u.headers.or c.headers

/-- A completion without choices under the given supply. -/
def fresh (supply : Supply) : Completion := blank supply.completionId supply.now

/-- The completion after an update; without one so far, the update is laid over a blank one. -/
def merge (supply : Supply) (existing : Option Completion) (u : Update) : Completion :=
  (existing.getD (fresh supply)).apply u

end Completion

end CanonicalReply
