import CanonicalReply.Latency
import CanonicalReply.ResponseHeaders

/-!
# Options of an assembly

What a caller says about one call: when it began and ended, which headers came with its response,
and what else belongs into the side channel.
-/

namespace CanonicalReply

/-- What a caller says about one assembly. -/
structure Options where
  /-- Give a completion as a stream. -/
  stream : Bool
  start : Option Timestamp
  stop : Option Timestamp
  /-- The caller's own parameters for the side channel. -/
  params : Option (Dict Json)
  headers : Option Headers
  /-- Whether the arguments of a single tool call become the message, where that differs from the
  settings. -/
  jsonMode : Option Bool
  deriving DecidableEq

namespace Options

/-- Nothing is said. -/
def none : Options := ⟨false, .none, .none, .none, .none, .none⟩

instance : Inhabited Options := ⟨Options.none⟩

/-- The caller's parameters, and the headers under the given provider's name. -/
def sideChannel (o : Options) (provider : String) : SideChannel :=
  { (o.params.map SideChannel.ofParams).getD .empty with
    additionalHeaders := o.headers.map (Headers.merged provider) }

/-- The milliseconds that the call took. -/
def latency (o : Options) : Option Binary64 := Latency.between o.start o.stop

end Options

end CanonicalReply
