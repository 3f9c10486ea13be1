import CanonicalReply.Provider.Payload
import CanonicalReply.Text.Blank

/-!
# Errors as providers report them

A provider that fails sends an `error` in place of a response, at best an object with a code and a
message. The code may be a number or a text.
-/

namespace CanonicalReply.Provider

/-- What is known of an error that a provider reports. -/
structure ReportedError where
  status : Option UInt16
  message : Option String
  deriving DecidableEq

namespace ReportedError

/-- The number of a text of digits, with a plus sign in front or not, if it fits 16 bits. -/
def statusOfDigits (cs : List Char) : Option UInt16 :=
  let ds := if cs.head? == some '+' then cs.tail else cs
  if ds.isEmpty || !ds.all Char.isDigit then none
  else
    let n := ds.foldl (fun n c => n * 10 + (c.toNat - '0'.toNat)) 0
    if n < UInt16.size then some (UInt16.ofNat n) else none

/-- The status that a code tells: an integer of 16 bits, or a text of one between blanks. -/
def statusOfCode : Json → Option UInt16
  | .num (.int (.ofNat n)) => if n < UInt16.size then some (UInt16.ofNat n) else none
  | .str s => statusOfDigits (Text.trimBlank s.toList)
  | _ => none

/-- The message; one that is not a text is written. -/
def messageText : Json → Option String
  | .null => none
  | .str s => some s
  | v => some v.compact

/-- The error that a payload reports, if its `error` is there and not null. -/
def ofPayload (payload : Payload) : Option ReportedError :=
  match payload.get? "error" with
  | none | some .null => none
  | some error =>
    match error.dict? with
    | none => some ⟨none, none⟩
    | some fields =>
      some ⟨(fields.get? "code").bind statusOfCode, (fields.get? "message").bind messageText⟩

end ReportedError

end CanonicalReply.Provider
