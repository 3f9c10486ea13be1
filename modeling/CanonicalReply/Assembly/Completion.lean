import CanonicalReply.Assembly.Choice
import CanonicalReply.Assembly.Options
import CanonicalReply.Assembly.Update
import CanonicalReply.Provider.Payload

/-!
# Assembling completions

The payload is decoded, its choices are built one by one, and the update that results is laid over
the completion that the caller has.
-/

namespace CanonicalReply

namespace Completion

/-- The id that a payload gives; an empty one is replaced. -/
def idOf (supply : Supply) (id : Option String) : String :=
  (Provider.firstNonEmpty [id]).getD supply.replyId

/-- The time that a payload gives; zero and what is no time are replaced by the present. -/
def createdOf (supply : Supply) (created : Option Json) : Int64 :=
  ((created.bind Provider.unixSeconds).filter (· ≠ 0)).getD supply.now

/-- What a payload says about a completion. -/
def update (s : Settings) (supply : Supply) (payload : Payload) (o : Options) :
    Except Failure Update :=
  match Failure.decoding .completionPayload Provider.Completion.decode (.ofDict payload) with
  | .error e => .error e
  | .ok raw =>
    match raw.choiceValues with
    | .error e => .error e
    | .ok values =>
      match Provider.Message.eachAt (Choice.build s supply (o.jsonMode.getD s.jsonMode)) 0
          values with
      | .error e => .error e
      | .ok choices =>
        raw.decodedUsage.map fun usage =>
          { choices, usage, id := raw.id.map (idOf supply),
            created := raw.created.map (createdOf supply), model := raw.model,
            systemFingerprint := raw.systemFingerprint,
            side := { o.sideChannel s.headerPrefix with responseMs := o.latency },
            headers := o.headers, extra := raw.extra }

/-- The completion of a payload, laid over the caller's. -/
def assemble (s : Settings) (supply : Supply) (payload : Payload) (target : Option Completion)
    (o : Options) : Except Failure Completion :=
  (update s supply payload o).map (merge supply target)

end Completion

end CanonicalReply
