import CanonicalReply.Proofs.Assembling

/-!
# The side channel and the written response stay apart

A response is written without its side channel, and a payload is read without
looking at it.  So what an observer puts into one call never shows in what is
written, and what a provider sends never shows in what is observed.

* `Completion.bare` and its like: a response without what is observed.
* `bare_build`: **erasure**: what is built, without what is observed, is built
  from what is given without it.
* `observed_of_build`: what is observed of a response is known before its payload
  is.
* `sideChannelApart`: both directions, for every kind of request.
-/

namespace CanonicalReply

/-! ## Responses without what is observed -/

/-- A completion as it is written. -/
def Completion.bare (c : Completion) : Completion := { c with side := .empty, headers := none }

/-- Embeddings as they are written. -/
def Embedding.bare (e : Embedding) : Embedding := { e with side := .empty, headers := none }

/-- Images as they are written. -/
def Images.bare (i : Images) : Images := { i with side := .empty }

/-- A transcript as it is written. -/
def Transcript.bare (t : Transcript) : Transcript := { t with side := .empty, headers := none }

/-- A ranking as it is written. -/
def Ranking.bare (r : Ranking) : Ranking := { r with side := .empty }

/-- An update of what is written. -/
def Update.bare (u : Update) : Update := { u with side := .empty, headers := none }

/-- A request that shows nothing of what was observed so far. -/
def Request.bare : Request → Request
  | completion t => completion (t.map Completion.bare)
  | embedding t => embedding (t.map Embedding.bare)
  | images t => images (t.map Images.bare)
  | transcript t => transcript (t.map Transcript.bare)
  | ranking t => ranking (t.map Ranking.bare)

/-- The options that say what is wanted, without those that say what was observed:
the times, the caller's parameters and the headers. -/
def Options.bare (o : Options) : Options :=
  { Options.none with stream := o.stream, jsonMode := o.jsonMode }

namespace Response

/-- A response as it is written. -/
def bare : Response → Response
  | completion c => completion c.bare
  | stream chunks => stream chunks
  | embedding e => embedding e.bare
  | images i => images i.bare
  | transcript t => transcript t.bare
  | ranking r => ranking r.bare

/-- The written form; that of a stream is the list of its chunks. -/
def toJson : Response → Json
  | completion c => c.toJson
  | stream chunks => .arr (chunks.map Chunk.toJson)
  | embedding e => e.toJson
  | images i => i.toJson
  | transcript t => t.toJson
  | ranking r => r.toJson

/-- The side channel.  A stream has none. -/
def side : Response → SideChannel
  | completion c => c.side
  | stream _ => .empty
  | embedding e => e.side
  | images i => i.side
  | transcript t => t.side
  | ranking r => r.side

/-- The raw headers, where a response keeps them. -/
def headers : Response → Option Headers
  | completion c => c.headers
  | embedding e => e.headers
  | transcript t => t.headers
  | stream _ | images _ | ranking _ => none

@[simp] theorem toJson_bare (r : Response) : r.bare.toJson = r.toJson := by
  cases r <;> rfl

end Response

/-! ## Nothing that is observed is written -/

/-- An update is laid over a completion without looking at what was observed. -/
theorem Completion.bare_merge (supply : Supply) (target : Option Completion) (u : Update) :
    (merge supply target u).bare = (merge supply (target.map bare) u.bare).bare := by
  cases target <;> rfl

section Erasure

variable {s : Settings} {supply : Supply} {payload : Option Payload}

theorem Completion.bare_update (p : Payload) (o : Options) :
    (update s supply p o).map Update.bare = (update s supply p o.bare).map Update.bare := by
  unfold update
  rw [show o.bare.jsonMode = o.jsonMode from rfl]
  split
  · rfl
  next raw _ =>
    split
    · rfl
    · split
      · rfl
      · cases raw.decodedUsage <;> rfl

theorem Completion.map_bare_assemble (p : Payload) (target : Option Completion) (o : Options) :
    (assemble s supply p target o).map bare =
      ((update s supply p o).map Update.bare).map
        fun u => (merge supply (target.map bare) u).bare := by
  rw [assemble]
  cases update s supply p o with
  | error e => rfl
  | ok u => exact congrArg Except.ok (bare_merge supply target u)

theorem Completion.bare_assemble (p : Payload) (target : Option Completion) (o : Options) :
    (assemble s supply p target o).map bare =
      (assemble s supply p (target.map bare) o.bare).map bare := by
  rw [map_bare_assemble, map_bare_assemble, bare_update, Option.map_map]
  rfl

/-- **Erasure.**  What is built, without what is observed, is built from what is
given without it. -/
theorem bare_build (request : Request) (o : Options) :
    (build s supply payload request o).map Response.bare =
      (build s supply payload request.bare o.bare).map Response.bare := by
  cases request with
  | completion target =>
    cases payload with
    | none => rfl
    | some p =>
      simp only [build, Request.bare]
      rw [show o.bare.stream = o.stream from rfl]
      split
      · rfl
      · have hmap : ∀ x : Except Failure Completion,
            (x.map Response.completion).map Response.bare =
              (x.map Completion.bare).map Response.completion := by
          intro x
          cases x <;> rfl
        rw [hmap, hmap, Completion.bare_assemble]
  | embedding target =>
    simp only [build, Request.bare, Embedding.assemble]
    cases decodePayload .embeddingPayload Provider.Embedding.decode payload <;> cases target <;> rfl
  | images target =>
    simp only [build, Request.bare, Images.assemble]
    cases decodePayload .imagePayload Provider.Images.decode payload <;> cases target <;> rfl
  | transcript target =>
    simp only [build, Request.bare, Transcript.assemble]
    cases decodePayload .transcriptPayload Provider.Transcript.decode payload <;>
      cases target <;> rfl
  | ranking target =>
    simp only [build, Request.bare, Ranking.assemble]
    cases decodePayload .rankingPayload Provider.Ranking.decode payload <;> cases target <;> rfl

end Erasure

/-- Two assemblies end alike, as far as a reader of what is written can tell: they
fail for the same reason, or the same is written. -/
inductive EndAlike : Except Failure Response → Except Failure Response → Prop
  | failed {e e' : Failure} : e.rootCause = e'.rootCause → EndAlike (.error e) (.error e')
  | written {r r' : Response} : r.toJson = r'.toJson → EndAlike (.ok r) (.ok r')

/-- What is observed makes no difference to how an assembly ends. -/
theorem endAlike_assemble {s : Settings} {supply : Supply} {payload : Option Payload}
    {request request' : Request} {o o' : Options} (hrequest : request.bare = request'.bare)
    (ho : o.bare = o'.bare) :
    EndAlike (assemble s supply payload request o) (assemble s supply payload request' o') := by
  have hbuild : (build s supply payload request o).map Response.bare =
      (build s supply payload request' o').map Response.bare := by
    rw [bare_build request o, bare_build request' o', hrequest, ho]
  unfold assemble
  split
  · exact .failed rfl
  · cases h : build s supply payload request o with
    | error e =>
      rw [h] at hbuild
      rw [Except.map_eq_error_iff.1 hbuild.symm]
      exact .failed rfl
    | ok r =>
      rw [h] at hbuild
      obtain ⟨r', hr', hbare⟩ := Except.map_eq_ok_iff.1 hbuild.symm
      rw [hr']
      refine .written ?_
      rw [← r.toJson_bare, ← r'.toJson_bare, hbare]

/-! ## Nothing that is sent is observed -/

/-- What is observed of the response to a request: its side channel and its raw
headers.  The options and the caller's response so far decide it. -/
def Request.observed (s : Settings) (o : Options) : Request → SideChannel × Option Headers
  | completion target =>
    if o.stream then (.empty, none)
    else
      (.overlay ((target.map (·.side)).getD .empty)
          { o.sideChannel s.headerPrefix with responseMs := o.latency },
        o.headers.or (target.bind (·.headers)))
  | embedding target =>
    ({ o.sideChannel s.headerPrefix with
        responseMs := o.latency.or (o.sideChannel s.headerPrefix).responseMs },
      o.headers.or (target.bind (·.headers)))
  | images _ => (o.sideChannel s.headerPrefix, none)
  | transcript target => (o.sideChannel s.headerPrefix, o.headers.or (target.bind (·.headers)))
  | ranking target => ((target.map (·.side)).getD .empty, none)

theorem Completion.side_of_assemble {s : Settings} {supply : Supply} {p : Payload}
    {target : Option Completion} {o : Options} {c : Completion}
    (h : assemble s supply p target o = .ok c) :
    c.side = .overlay ((target.map (·.side)).getD .empty)
        { o.sideChannel s.headerPrefix with responseMs := o.latency } ∧
      c.headers = o.headers.or (target.bind (·.headers)) := by
  obtain ⟨u, hu, rfl⟩ := Except.map_eq_ok_iff.1 h
  obtain ⟨raw, values, choices, usage, -, -, -, -, rfl⟩ := update_eq_ok_iff.1 hu
  cases target <;> exact ⟨rfl, rfl⟩

/-- **What is observed** of a response is known before its payload is. -/
theorem observed_of_build {s : Settings} {supply : Supply} {payload : Option Payload}
    {request : Request} {o : Options} {r : Response}
    (h : build s supply payload request o = .ok r) :
    (r.side, r.headers) = request.observed s o := by
  cases request with
  | completion target =>
    cases payload with
    | none => cases h
    | some p =>
      simp only [build] at h
      rw [Request.observed]
      split at h
      next hstream =>
        obtain ⟨chunks, -, rfl⟩ := Except.map_eq_ok_iff.1 h
        rw [if_pos hstream]
        rfl
      next hstream =>
        obtain ⟨c, hc, rfl⟩ := Except.map_eq_ok_iff.1 h
        obtain ⟨hside, hheaders⟩ := Completion.side_of_assemble hc
        rw [if_neg hstream]
        exact Prod.ext hside hheaders
  | embedding target =>
    obtain ⟨_, he, rfl⟩ := Except.map_eq_ok_iff.1 h
    obtain ⟨raw, -, rfl⟩ := Except.map_eq_ok_iff.1 he
    cases target <;> rfl
  | images target =>
    obtain ⟨_, hi, rfl⟩ := Except.map_eq_ok_iff.1 h
    obtain ⟨raw, -, rfl⟩ := Except.map_eq_ok_iff.1 hi
    rfl
  | transcript target =>
    obtain ⟨_, ht, rfl⟩ := Except.map_eq_ok_iff.1 h
    obtain ⟨raw, -, rfl⟩ := Except.map_eq_ok_iff.1 ht
    cases target <;> rfl
  | ranking target =>
    obtain ⟨_, hr, rfl⟩ := Except.map_eq_ok_iff.1 h
    obtain ⟨raw, -, rfl⟩ := Except.map_eq_ok_iff.1 hr
    cases target <;> rfl

/-! ## Both directions -/

/-- The side channel of a request and what is written for it do not touch. -/
structure SideChannelApart (s : Settings) (request : Request) (o : Options) : Prop where
  /-- Another call that differs in what is observed, and in nothing else, ends
  alike. -/
  unwritten : ∀ (supply : Supply) (payload : Option Payload) (request' : Request) (o' : Options),
    request.bare = request'.bare → o.bare = o'.bare →
      EndAlike (assemble s supply payload request o) (assemble s supply payload request' o')
  /-- Another payload, and whatever else is made up for it, leaves the same to
  observe. -/
  unspoken : ∀ (supply supply' : Supply) (payload payload' : Option Payload) (r r' : Response),
    assemble s supply payload request o = .ok r →
      assemble s supply' payload' request o = .ok r' →
        r.side = r'.side ∧ r.headers = r'.headers

/-- **Both directions.**  For all settings, requests of every kind and options, with
and without a response so far. -/
theorem sideChannelApart (s : Settings) (request : Request) (o : Options) :
    SideChannelApart s request o where
  unwritten := fun _ _ _ _ hrequest ho => endAlike_assemble hrequest ho
  unspoken := by
    intro supply supply' payload payload' r r' h h'
    have hobserved := observed_of_build (assemble_eq_ok_iff.1 h).2
    have hobserved' := observed_of_build (assemble_eq_ok_iff.1 h').2
    rw [← hobserved', Prod.mk.injEq] at hobserved
    exact hobserved

/-- A completion about which something was observed. -/
def observedReply : Completion :=
  { Completion.blank "r" 7 with
    side := ⟨none, none, .ofList [("trace", .bool true)]⟩
    headers := some (.ofList [("date", "now")]) }

/-- A payload that names what is only observed. -/
def spoofingPayload : Payload :=
  .ofList [("choices", .arr []), ("hidden_params", .obj [("trace", .bool false)]),
    ("additional_headers", .obj []), ("response_ms", .num (.int 0)), ("response_headers", .obj [])]

/-- A call of which the caller tells the times and a parameter. -/
def tracedOptions : Options :=
  { Options.none with
    start := some (.monotonic 0), stop := some (.monotonic 2000000)
    params := some (.ofList [("user", .str "u")]) }

theorem sideChannelApart_spoofingPayload :
    EndAlike
        (assemble .standard .plain (some spoofingPayload) (.completion (some observedReply))
          tracedOptions)
        (assemble .standard .plain (some spoofingPayload)
          (.completion (some (Completion.blank "r" 7))) .none) ∧
      ∃ r r', assemble .standard .plain (some spoofingPayload) (.completion (some observedReply))
          tracedOptions = .ok r ∧
        assemble .standard .plain (some (.ofList [("choices", .arr [])]))
          (.completion (some observedReply)) tracedOptions = .ok r' ∧
        r.side = r'.side ∧ r.headers = r'.headers := by
  have hspoofing : (assemble .standard .plain (some spoofingPayload)
      (.completion (some observedReply)) tracedOptions).toOption.isSome = true := by decide +kernel
  have hplain : (assemble .standard .plain (some (.ofList [("choices", .arr [])]))
      (.completion (some observedReply)) tracedOptions).toOption.isSome = true := by decide +kernel
  obtain ⟨r, hr⟩ := Option.isSome_iff_exists.1 hspoofing
  obtain ⟨r', hr'⟩ := Option.isSome_iff_exists.1 hplain
  have hok := Except.toOption_eq_some_iff.1 hr
  have hok' := Except.toOption_eq_some_iff.1 hr'
  have hapart := sideChannelApart .standard (.completion (some observedReply)) tracedOptions
  exact ⟨hapart.unwritten _ _ _ _ rfl rfl, r, r', hok, hok',
    hapart.unspoken _ _ _ _ _ _ hok hok'⟩

end CanonicalReply
