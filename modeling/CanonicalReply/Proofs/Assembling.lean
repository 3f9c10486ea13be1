import CanonicalReply.Proofs.Chunks
import CanonicalReply.Assembly

/-!
# How an assembly ends

An assembly ends in one of three ways: it gives a response, it passes on an
error that the payload reports, or it fails on its own account and says so in a
wrapper.  The three are told apart here for every kind of request.

* `checkReported_eq_ok_iff`: an assembly goes on exactly if no error is
  reported.
* `Failure.Cause`: the failures that an assembly can meet on its own account,
  each with the circumstances in which it does.
* `cause_of_build_eq_error`: there are no others.
* `assemble_taxonomy`: **what a caller can rely on**, whatever is assembled.
-/

namespace CanonicalReply

/-! ## Reported errors -/

/-- A payload reports an error if its `error` is there and not null. -/
def ReportsError (payload : Option Payload) : Prop :=
  ∃ p e, payload = some p ∧ p.get? "error" = some e ∧ e ≠ .null

theorem Provider.ReportedError.ofPayload_eq_none_iff {payload : Payload} :
    ofPayload payload = none ↔ ∀ e, payload.get? "error" = some e → e = .null := by
  rw [ofPayload]
  constructor
  · intro h e he
    split at h
    next hnone => rw [hnone] at he; cases he
    next hnull => exact Option.some.inj (he.symm.trans hnull)
    next error hne herror => split at h <;> cases h
  · intro h
    split
    next => rfl
    next => rfl
    next error hne herror => exact absurd (h error herror) hne

theorem checkReported_eq_ok_iff {s : Settings} {payload : Payload} :
    checkReported s payload = .ok () ↔ ¬ ReportsError (some payload) := by
  have hnone : Provider.ReportedError.ofPayload payload = none ↔ ¬ ReportsError (some payload) := by
    rw [Provider.ReportedError.ofPayload_eq_none_iff]
    constructor
    · rintro h ⟨p, e, hp, he, hne⟩
      cases hp
      exact hne (h e he)
    · intro h e he
      exact Classical.byContradiction fun hne => h ⟨payload, e, rfl, he, hne⟩
  rw [← hnone, checkReported]
  cases Provider.ReportedError.ofPayload payload <;> simp

theorem exists_of_checkReported_eq_error {s : Settings} {payload : Payload} {e : Failure}
    (h : checkReported s payload = .error e) : ∃ status message, e = .reported status message := by
  rw [checkReported] at h
  split at h
  · cases h
  · exact ⟨_, _, (Except.error.inj h).symm⟩

/-! ## Failures on an assembly's own account -/

/-- The failures that an assembly can meet after the payload was found to report
no error, each with the circumstances in which it does. -/
inductive Failure.Cause (s : Settings) (payload : Option Payload) (request : Request)
    (o : Options) : Failure → Prop
  /-- There is nothing to assemble. -/
  | noResponse : payload = none → Cause s payload request o (.malformed .noResponse)
  /-- Only a completion needs choices. -/
  | choices {p : Payload} {e : Failure} : payload = some p → request.kind = .completion →
      Provider.Completion.ChoicesFault p e → Cause s payload request o e
  /-- A part of the payload is not what it ought to be. -/
  | undecodable {p : Payload} (what : Subject) (error : Json.Error) : payload = some p →
      Cause s payload request o (.undecodable what error)
  /-- Only repair looks into packed calls. -/
  | badToolCall {p : Payload} (name : String) (error : Json.Error) : payload = some p →
      request.kind = .completion → o.stream = false → s.repair = true →
        Cause s payload request o (.badToolCall name error)

section Build

variable {s : Settings} {supply : Supply} {payload : Option Payload} {request : Request}
  {o : Options}

/-- A payload that is decoded is there. -/
theorem decodePayload_eq_ok_iff {α : Type} {what : Subject} {decode : Json.Decoder α} {a : α} :
    decodePayload what decode payload = .ok a ↔
      ∃ p, payload = some p ∧ decode (.ofDict p) = .ok a := by
  cases payload with
  | none =>
    constructor
    · exact fun h => nomatch h
    · rintro ⟨_, ⟨⟩, -⟩
  | some p =>
    rw [decodePayload, Failure.decoding_eq_ok_iff]
    constructor
    · exact fun h => ⟨p, rfl, h⟩
    · rintro ⟨_, ⟨⟩, h⟩
      exact h

theorem decodePayload_eq_error {α : Type} {what : Subject} {decode : Json.Decoder α} {e : Failure}
    (h : decodePayload what decode payload = .error e) : Failure.Cause s payload request o e := by
  cases payload with
  | none => exact Except.error.inj h ▸ .noResponse rfl
  | some p =>
    obtain ⟨fault, rfl⟩ := Failure.exists_of_decoding_eq_error h
    exact .undecodable _ _ rfl

/-- **Every failure has one of the causes.** -/
theorem cause_of_build_eq_error {e : Failure} (h : build s supply payload request o = .error e) :
    Failure.Cause s payload request o e := by
  cases request with
  | completion target =>
    cases payload with
    | none => exact Except.error.inj h ▸ .noResponse rfl
    | some p =>
      simp only [build] at h
      split at h
      · have h := Except.map_eq_error_iff.1 (Except.map_eq_error_iff.1 h)
        rcases Chunk.ofPayload_eq_error h with ⟨what, fault, rfl⟩ | hfault
        · exact .undecodable what fault rfl
        · exact .choices rfl rfl hfault
      next hstream =>
        have h := Except.map_eq_error_iff.1 (Except.map_eq_error_iff.1 h)
        rcases Completion.update_eq_error h with
          ⟨what, fault, rfl⟩ | hfault | ⟨hs, name, fault, rfl⟩
        · exact .undecodable what fault rfl
        · exact .choices rfl rfl hfault
        · exact .badToolCall name fault rfl rfl (by simpa using hstream) hs
  | embedding target =>
    exact decodePayload_eq_error (Except.map_eq_error_iff.1 (Except.map_eq_error_iff.1 h))
  | images target =>
    exact decodePayload_eq_error (Except.map_eq_error_iff.1 (Except.map_eq_error_iff.1 h))
  | transcript target =>
    exact decodePayload_eq_error (Except.map_eq_error_iff.1 (Except.map_eq_error_iff.1 h))
  | ranking target =>
    exact decodePayload_eq_error (Except.map_eq_error_iff.1 (Except.map_eq_error_iff.1 h))

end Build

/-! ## What a caller can rely on -/

namespace Failure

/-- The failures that a wrapper may wrap: those of the payload's shape.  Neither
a reported error nor another wrapper is among them. -/
inductive IsInner : Failure → Prop
  | malformed (why : Malformation) : IsInner (.malformed why)
  | undecodable (what : Subject) (error : Json.Error) : IsInner (.undecodable what error)
  | badToolCall (name : String) (error : Json.Error) : IsInner (.badToolCall name error)

variable {s : Settings} {payload : Option Payload} {request : Request} {o : Options} {e : Failure}

theorem Cause.isInner (h : Cause s payload request o e) : e.IsInner := by
  cases h with
  | noResponse => exact .malformed _
  | choices _ _ hfault => cases hfault <;> exact .malformed _
  | undecodable what error => exact .undecodable what error
  | badToolCall name error => exact .badToolCall name error

theorem IsInner.rootCause_eq (h : e.IsInner) : e.rootCause = e := by
  cases h <;> rfl

theorem IsInner.statusCode_eq (h : e.IsInner) : e.statusCode = none := by
  cases h <;> rfl

end Failure

/-- The kind of a response.  A stream is one of the two forms of a completion. -/
def Response.kind : Response → Kind
  | completion _ | stream _ => .completion
  | embedding _ => .embedding
  | images _ => .images
  | transcript _ => .transcript
  | ranking _ => .ranking

theorem kind_of_build {s : Settings} {supply : Supply} {payload : Option Payload}
    {request : Request} {o : Options} {r : Response}
    (h : build s supply payload request o = .ok r) :
    r.kind = request.kind ∧ (r.stream?.isSome ↔ request.kind = .completion ∧ o.stream = true) := by
  cases request with
  | completion target =>
    cases payload with
    | none => cases h
    | some p =>
      simp only [build] at h
      split at h
      next hstream =>
        obtain ⟨chunks, -, rfl⟩ := Except.map_eq_ok_iff.1 h
        exact ⟨rfl, by simp [Response.stream?, Request.kind, hstream]⟩
      next hstream =>
        obtain ⟨c, -, rfl⟩ := Except.map_eq_ok_iff.1 h
        exact ⟨rfl, by simp [Response.stream?, hstream]⟩
  | embedding target =>
    obtain ⟨_, -, rfl⟩ := Except.map_eq_ok_iff.1 h
    exact ⟨rfl, by simp [Response.stream?, Request.kind]⟩
  | images target =>
    obtain ⟨_, -, rfl⟩ := Except.map_eq_ok_iff.1 h
    exact ⟨rfl, by simp [Response.stream?, Request.kind]⟩
  | transcript target =>
    obtain ⟨_, -, rfl⟩ := Except.map_eq_ok_iff.1 h
    exact ⟨rfl, by simp [Response.stream?, Request.kind]⟩
  | ranking target =>
    obtain ⟨_, -, rfl⟩ := Except.map_eq_ok_iff.1 h
    exact ⟨rfl, by simp [Response.stream?, Request.kind]⟩

/-- What a caller can rely on about the result of an assembly. -/
structure Taxonomy (s : Settings) (payload : Option Payload) (request : Request) (o : Options)
    (result : Except Failure Response) : Prop where
  /-- A reported error is passed on as it is, and nothing else looks like one. -/
  reported_iff : (∃ status message, result = .error (.reported status message)) ↔
    ReportsError payload
  /-- Any other failure is wrapped, and wrapped once. -/
  wrapped : ∀ e, result = .error e → ¬ ReportsError payload →
    ∃ source : Failure, source.IsInner ∧ e = .assembly (snapshot s payload request o) source ∧
      e.rootCause = source ∧ e.statusCode = none
  noResponse : payload = none →
    ∃ shape, result = .error (.assembly shape (.malformed .noResponse))
  /-- Only repair of a whole completion finds fault with the calls in a call. -/
  badToolCall : ∀ shape name error, result = .error (.assembly shape (.badToolCall name error)) →
    request.kind = .completion ∧ o.stream = false ∧ s.repair = true
  /-- A payload is malformed only where a completion needs choices. -/
  malformed : ∀ p shape why, payload = some p →
    result = .error (.assembly shape (.malformed why)) → request.kind = .completion ∧
      (p.get? "choices" = none ∨ ∃ v, p.get? "choices" = some v ∧ v.items? = none)
  /-- The response is of the kind that was asked for, and in its form. -/
  kind_eq : ∀ r, result = .ok r → r.kind = request.kind ∧
    (r.stream?.isSome ↔ request.kind = .completion ∧ o.stream = true)

section Assemble

variable {s : Settings} {supply : Supply} {payload : Option Payload} {request : Request}
  {o : Options}

theorem assemble_of_not_reportsError (h : ¬ ReportsError payload) :
    assemble s supply payload request o =
      (build s supply payload request o).mapError (.assembly (snapshot s payload request o)) := by
  cases payload with
  | none => rfl
  | some p => rw [assemble, Option.map_some, Option.getD_some, checkReported_eq_ok_iff.2 h]

theorem exists_of_assemble_of_reportsError (h : ReportsError payload) :
    ∃ status message, assemble s supply payload request o = .error (.reported status message) := by
  cases payload with
  | none =>
    obtain ⟨p, e, hp, -⟩ := h
    cases hp
  | some p =>
    cases hcheck : checkReported s p with
    | ok u => exact absurd h (checkReported_eq_ok_iff.1 hcheck)
    | error e =>
      obtain ⟨status, message, rfl⟩ := exists_of_checkReported_eq_error hcheck
      exact ⟨status, message, by rw [assemble, Option.map_some, Option.getD_some, hcheck]⟩

/-- A response is built from a payload that reports no error. -/
theorem assemble_eq_ok_iff {r : Response} :
    assemble s supply payload request o = .ok r ↔
      ¬ ReportsError payload ∧ build s supply payload request o = .ok r := by
  by_cases h : ReportsError payload
  · have hfails : ∃ status message,
        assemble s supply payload request o = .error (.reported status message) :=
      exists_of_assemble_of_reportsError h
    obtain ⟨status, message, he⟩ := hfails
    simp [h, he]
  · rw [assemble_of_not_reportsError h, Except.mapError_eq_ok_iff]
    simp [h]

/-- Where no stream is wanted, a completion's payload is laid over the caller's
completion. -/
theorem assemble_completion_eq_ok_iff {target : Option Completion} {r : Response}
    (hstream : o.stream = false) :
    assemble s supply payload (.completion target) o = .ok r ↔
      ∃ p c, payload = some p ∧ ¬ ReportsError payload ∧
        Completion.assemble s supply p target o = .ok c ∧ r = .completion c := by
  rw [assemble_eq_ok_iff]
  cases payload with
  | none => simp [build]
  | some p =>
    simp only [build, hstream, Bool.false_eq_true, if_false, Except.map_eq_ok_iff]
    constructor
    · rintro ⟨hreports, c, hc, rfl⟩
      exact ⟨p, c, rfl, hreports, hc, rfl⟩
    · rintro ⟨_, c, ⟨⟩, hreports, hc, rfl⟩
      exact ⟨hreports, c, hc, rfl⟩

/-- A completion that comes out whole was assembled. -/
theorem assemble_eq_ok_completion {target : Option Completion} {c : Completion}
    (h : assemble s supply payload (.completion target) o = .ok (.completion c)) :
    ∃ p, payload = some p ∧ ¬ ReportsError payload ∧
      Completion.assemble s supply p target o = .ok c := by
  have hkind := (kind_of_build (assemble_eq_ok_iff.1 h).2).2
  have hstream : o.stream = false := by simpa [Response.stream?, Request.kind] using hkind
  obtain ⟨p, c', hp, hreports, hc, hsame⟩ := (assemble_completion_eq_ok_iff hstream).1 h
  cases hsame
  exact ⟨p, hp, hreports, hc⟩

/-- A failure is a reported error, or it has a cause and is wrapped. -/
theorem assemble_eq_error {e : Failure} (h : assemble s supply payload request o = .error e) :
    ReportsError payload ∧ (∃ status message, e = .reported status message) ∨
      ¬ ReportsError payload ∧ ∃ source, Failure.Cause s payload request o source ∧
        e = .assembly (snapshot s payload request o) source := by
  by_cases hreports : ReportsError payload
  · have hfails : ∃ status message,
        assemble s supply payload request o = .error (.reported status message) :=
      exists_of_assemble_of_reportsError hreports
    obtain ⟨status, message, he⟩ := hfails
    exact .inl ⟨hreports, status, message, Except.error.inj (h.symm.trans he)⟩
  · rw [assemble_of_not_reportsError hreports] at h
    obtain ⟨source, hbuild, rfl⟩ := Except.mapError_eq_error_iff.1 h
    exact .inr ⟨hreports, source, cause_of_build_eq_error hbuild, rfl⟩

/-- The cause of a wrapped failure is what is wrapped. -/
theorem cause_of_assemble_eq_error {shape : Snapshot} {source : Failure}
    (h : assemble s supply payload request o = .error (.assembly shape source)) :
    Failure.Cause s payload request o source := by
  rcases assemble_eq_error h with ⟨-, status, message, he⟩ | ⟨-, source', hcause, he⟩
  · cases he
  · cases he
    exact hcause

/-- **How assemblies end.**  For every payload, request, choice of options and
settings: a reported error comes through unwrapped and nothing else does; any
other failure is wrapped once and is labelled by its circumstances; a response is
of the kind that was asked for. -/
theorem assemble_taxonomy (s : Settings) (supply : Supply) (payload : Option Payload)
    (request : Request) (o : Options) :
    Taxonomy s payload request o (assemble s supply payload request o) where
  reported_iff := by
    constructor
    · rintro ⟨status, message, h⟩
      rcases assemble_eq_error h with ⟨hreports, -⟩ | ⟨-, source, -, he⟩
      · exact hreports
      · cases he
    · exact exists_of_assemble_of_reportsError
  wrapped := by
    intro e h hreports
    rcases assemble_eq_error h with ⟨hreports', -⟩ | ⟨-, source, hcause, rfl⟩
    · exact absurd hreports' hreports
    · have hinner := hcause.isInner
      exact ⟨source, hinner, rfl, hinner.rootCause_eq, hinner.statusCode_eq⟩
  noResponse := by
    rintro rfl
    cases request <;> exact ⟨_, rfl⟩
  badToolCall := by
    intro shape name error h
    cases cause_of_assemble_eq_error h with
    | choices _ _ hfault => cases hfault
    | badToolCall _ _ _ hkind hstream hrepair => exact ⟨hkind, hstream, hrepair⟩
  malformed := by
    rintro p shape why rfl h
    cases cause_of_assemble_eq_error h with
    | noResponse hnone => cases hnone
    | choices hp hkind hfault =>
      cases hp
      cases hfault with
      | absent hnone => exact ⟨hkind, hnone.imp_right fun hnull => ⟨.null, hnull, rfl⟩⟩
      | notList hv _ hitems => exact ⟨hkind, .inr ⟨_, hv, hitems⟩⟩
  kind_eq := by
    intro r h
    exact kind_of_build (assemble_eq_ok_iff.1 h).2

end Assemble

end CanonicalReply
