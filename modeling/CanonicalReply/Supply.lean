/-!
# Made-up ids and the clock

Where a provider sends no id or time, one is made up. What an assembly may make up is given to it
beforehand, as one `Supply`: the time, and an identifier for each place that may need one. So an
assembly is a function, and two assemblies can be compared under the same supply.
-/

namespace CanonicalReply

/-- A random identifier of 128 bits. -/
structure Uuid where
  bits : BitVec 128
  deriving DecidableEq

namespace Uuid

/-- The 32 hexadecimal digits. -/
def digits (u : Uuid) : List Char :=
  (List.range 32).map fun i => Nat.digitChar (u.bits.toNat / Nat.pow 16 (31 - i) % 16)

/-- The digits in one piece. -/
def simple (u : Uuid) : String := String.ofList u.digits

/-- The digits in five pieces. -/
def hyphenated (u : Uuid) : String :=
  let ds := u.digits
  String.ofList (ds.take 8 ++ '-' :: (ds.drop 8).take 4 ++ '-' :: (ds.drop 12).take 4 ++
    '-' :: (ds.drop 16).take 4 ++ '-' :: ds.drop 20)

end Uuid

/-- A place that may need an identifier. -/
inductive Supply.Place where
  /-- The response that an assembly starts from when it is given none. -/
  | start
  /-- The response itself, when its provider sends an empty id. -/
  | reply
  /-- A tool call without an id, in a choice and at a position. -/
  | call (choice position : Nat)
  deriving DecidableEq

/-- What one assembly may make up. -/
structure Supply where
  now : Int64
  uuid : Supply.Place → Uuid

namespace Supply

/-- The id of a completion that is not given one. -/
def completionId (s : Supply) : String := "chatcmpl-" ++ (s.uuid .start).hyphenated

/-- The id of a ranking that is not given one. -/
def rankingId (s : Supply) : String := (s.uuid .start).hyphenated

/-- The id of a response that is sent with an empty one. -/
def replyId (s : Supply) : String := (s.uuid .reply).hyphenated

/-- The id of a tool call that is sent without one. -/
def callId (s : Supply) (choice position : Nat) : String :=
  "call_" ++ (s.uuid (.call choice position)).simple

end Supply

end CanonicalReply
