import CanonicalReply.Proofs.ReadBack
import CanonicalReply.Proofs.Separation
import CanonicalReply.Proofs.Written
import CanonicalReply.Reply.Chunk

/-!
# The types of a response read back

Each type of record that occurs in a response has two facts here.  The first one
says when a value reads back: what it holds of other types has to, and what it
passes on as it is must not be null.  The second one says that a value that was
decoded is such a value.

A response is written without its side channel, so what is read is the response
without it.
-/

namespace CanonicalReply

open Json (Fields ReadsBack ReadsBackAs RestOf RoundTrips Shows readsBack_text readsBack_size
  readsBack_int64 readsBack_double readsBack_headers shows_text shows_int64 shows_double
  shows_list shows_listAny)
open Json.Decoder (exists_source_of_distinct exists_rest_of_distinct)

/-! ## Function calls and tool calls -/

theorem FunctionCall.readsBack (f : FunctionCall) : ReadsBack toJson decode f := by
  refine .of_record (by simp) rfl (.next (.first ?name) ?arguments)
  case name => exact .required (readsBack_text f.name)
  case arguments => exact .required (readsBack_text f.arguments)

theorem FunctionCall.shows (f : FunctionCall) : Shows toJson decode f :=
  ⟨by simp [toJson, Json.objectOf], f.readsBack⟩

theorem ToolCall.readsBack (c : ToolCall) : ReadsBack toJson decode c := by
  refine .of_record (by simp) rfl (.next (.next (.first ?id) ?kind) ?function)
  case id => exact .required (readsBack_text c.id)
  case kind => exact .required (readsBack_text c.kind)
  case function => exact .required c.function.readsBack

theorem FunctionDelta.readsBack (f : FunctionDelta) : ReadsBack toJson decode f := by
  refine .of_record (by simp) rfl (.next (.first ?name) ?arguments)
  case name => exact .text
  case arguments => exact .text

theorem FunctionDelta.shows (f : FunctionDelta) : Shows toJson decode f :=
  ⟨by simp [toJson, Json.objectOf], f.readsBack⟩

theorem ToolCallDelta.readsBack (c : ToolCallDelta) : ReadsBack toJson decode c := by
  refine .of_record (by simp) rfl (.next (.next (.next (.first ?index) ?id) ?kind) ?function)
  case index => exact .required (readsBack_size c.index)
  case id => exact .text
  case kind => exact .text
  case function => exact .skipped fun f _ => f.shows

/-! ## Messages -/

theorem Content.readsBack_ofJson {v : Json} (h : v.Distinct) :
    ReadsBack toJson decode (ofJson v) :=
  ⟨by rwa [toJson_ofJson], by rw [toJson_ofJson]; rfl⟩

theorem Content.roundTrips : RoundTrips toJson decode := by
  rintro v _ hv ⟨⟩
  exact readsBack_ofJson hv

theorem Content.shows_ofJson {v : Json} (h : v.IsShown) : Shows toJson decode (ofJson v) :=
  ⟨by rw [toJson_ofJson]; exact h.1, readsBack_ofJson h.2⟩

/-- Content that was read where there was any. -/
theorem Content.shows_of_exists {o : Option Content}
    (h : ∀ c ∈ o, ∃ v : Json, v.IsShown ∧ decode v = .ok c) : ∀ c ∈ o, Shows toJson decode c := by
  intro c hc
  obtain ⟨v, hv, ⟨⟩⟩ := h c hc
  exact shows_ofJson hv

theorem Message.readsBack {m : Message}
    (hcontent : ∀ c ∈ m.content, Shows Content.toJson Content.decode c)
    (haudio : ∀ v ∈ m.audio, v.IsShown) : ReadsBack toJson decode m := by
  refine .of_record (by simp) rfl
    (.next (.next (.next (.next (.first ?role) ?content) ?function) ?calls) ?audio)
  case role => exact .required (readsBack_text m.role)
  case content => exact .shown hcontent
  case function => exact .skipped fun f _ => f.shows
  case calls => exact .skipped fun calls _ => shows_list fun c _ => c.readsBack
  case audio => exact .any haudio

theorem Message.roundTrips : RoundTrips toJson decode := by
  intro v m hv h
  obtain ⟨source, hsource, hfields⟩ := exists_source_of_distinct hv h
  simp only [Fields.seq_eq_ok_iff, Fields.map_eq_ok_iff] at hfields
  obtain ⟨_, ⟨_, ⟨_, ⟨_, ⟨role, -, rfl⟩, content, hcontent, rfl⟩, function, -, rfl⟩, calls, -, rfl⟩,
    audio, haudio, rfl⟩ := hfields
  exact readsBack (Content.shows_of_exists (Fields.exists_of_optional hsource hcontent))
    (Fields.isShown_of_optional hsource haudio)

theorem Delta.readsBack {d : Delta}
    (hcontent : ∀ c ∈ d.content, Shows Content.toJson Content.decode c) :
    ReadsBack toJson decode d := by
  refine .of_record (by simp) rfl
    (.next (.next (.next (.first ?role) ?content) ?function) ?calls)
  case role => exact .text
  case content => exact .skipped hcontent
  case function => exact .skipped fun f _ => f.shows
  case calls => exact .skipped fun calls _ => shows_list fun c _ => c.readsBack

theorem Delta.roundTrips : RoundTrips toJson decode := by
  intro v d hv h
  obtain ⟨source, hsource, hfields⟩ := exists_source_of_distinct hv h
  simp only [Fields.seq_eq_ok_iff, Fields.map_eq_ok_iff] at hfields
  obtain ⟨_, ⟨_, ⟨_, ⟨role, -, rfl⟩, content, hcontent, rfl⟩, function, -, rfl⟩, calls, -, rfl⟩ :=
    hfields
  exact readsBack (Content.shows_of_exists (Fields.exists_of_optional hsource hcontent))

/-! ## Choices -/

theorem Choice.readsBack {c : Choice} (hmessage : ReadsBack Message.toJson Message.decode c.message)
    (hlogprobs : ∀ v ∈ c.logprobs, v.IsShown) (henhancements : ∀ v ∈ c.enhancements, v.IsShown) :
    ReadsBack toJson decode c := by
  refine .of_record (by simp) rfl
    (.next (.next (.next (.next (.first ?index) ?reason) ?message) ?logprobs) ?enhancements)
  case index => exact .required (readsBack_size c.index)
  case reason => exact .required (readsBack_text c.finishReason)
  case message => exact .required hmessage
  case logprobs => exact .any hlogprobs
  case enhancements => exact .any henhancements

theorem Choice.roundTrips : RoundTrips toJson decode := by
  intro v c hv h
  obtain ⟨source, hsource, hfields⟩ := exists_source_of_distinct hv h
  simp only [Fields.seq_eq_ok_iff, Fields.map_eq_ok_iff] at hfields
  obtain ⟨_, ⟨_, ⟨_, ⟨_, ⟨index, -, rfl⟩, reason, -, rfl⟩, message, hmessage, rfl⟩,
    logprobs, hlogprobs, rfl⟩, enhancements, henhancements, rfl⟩ := hfields
  obtain ⟨w, hw, hread⟩ := Fields.exists_of_required hsource hmessage
  exact readsBack (Message.roundTrips w message hw hread)
    (Fields.isShown_of_optional hsource hlogprobs)
    (Fields.isShown_of_optional hsource henhancements)

theorem ChunkChoice.readsBack {c : ChunkChoice}
    (hdelta : ReadsBack Delta.toJson Delta.decode c.delta)
    (hlogprobs : ∀ v ∈ c.logprobs, v.IsShown) (henhancements : ∀ v ∈ c.enhancements, v.IsShown) :
    ReadsBack toJson decode c := by
  refine .of_record (by simp) rfl
    (.next (.next (.next (.next (.first ?index) ?delta) ?reason) ?logprobs) ?enhancements)
  case index => exact .required (readsBack_size c.index)
  case delta => exact .required hdelta
  case reason => exact .text
  case logprobs => exact .any hlogprobs
  case enhancements => exact .any henhancements

theorem ChunkChoice.roundTrips : RoundTrips toJson decode := by
  intro v c hv h
  obtain ⟨source, hsource, hfields⟩ := exists_source_of_distinct hv h
  simp only [Fields.seq_eq_ok_iff, Fields.map_eq_ok_iff] at hfields
  obtain ⟨_, ⟨_, ⟨_, ⟨_, ⟨index, -, rfl⟩, delta, hdelta, rfl⟩, reason, -, rfl⟩,
    logprobs, hlogprobs, rfl⟩, enhancements, henhancements, rfl⟩ := hfields
  obtain ⟨w, hw, hread⟩ := Fields.exists_of_required hsource hdelta
  exact readsBack (Delta.roundTrips w delta hw hread)
    (Fields.isShown_of_optional hsource hlogprobs)
    (Fields.isShown_of_optional hsource henhancements)

/-! ## Usage and the side channel -/

theorem Usage.readsBack {u : Usage} (h : RestOf keys u.extra) : ReadsBack toJson decode u where
  distinct := by
    refine Json.distinct_obj_append (by simp) (by simp [keys]) ?_ h
    simpa using ⟨.num _, .num _, .num _⟩
  decode_eq := decode_toJson h.get?_eq_none

theorem Usage.roundTrips : RoundTrips toJson decode := by
  intro v u hv h
  obtain ⟨source, f, rest, -, hfields, hrest, rfl⟩ := exists_rest_of_distinct hv h
  simp only [Fields.seq_eq_ok_iff, Fields.map_eq_ok_iff] at hfields
  obtain ⟨_, ⟨_, ⟨prompt, -, rfl⟩, completion, -, rfl⟩, total, -, rfl⟩ := hfields
  exact readsBack hrest

theorem Usage.shows_of_decode {v : Json} {u : Usage} (hv : v.Distinct) (h : decode v = .ok u) :
    Shows toJson decode u :=
  ⟨by simp [toJson], roundTrips v u hv h⟩

theorem Usage.shows_ofCounts (prompt completion total : UInt32) :
    Shows toJson decode (ofCounts prompt completion total) :=
  ⟨by simp [toJson], readsBack (.empty keys)⟩

/-- Usage that was read where there was any. -/
theorem Usage.shows_of_exists {o : Option Usage}
    (h : ∀ u ∈ o, ∃ v : Json, v.IsShown ∧ decode v = .ok u) : ∀ u ∈ o, Shows toJson decode u := by
  intro u hu
  obtain ⟨v, hv, hread⟩ := h u hu
  exact shows_of_decode hv.2 hread

theorem SideChannel.readsBack {s : SideChannel}
    (h : RestOf ["additional_headers", "response_ms"] s.extra) : ReadsBack toJson decode s := by
  have hwrite : s.toJson = .obj (([("additional_headers", s.additionalHeaders.map headersJson),
      ("response_ms", s.responseMs.map doubleJson)].filterMap fun e => e.2.map (e.1, ·)) ++
        s.extra.entries) := by
    obtain ⟨headers, ms, extra⟩ := s
    cases headers <;> cases ms <;> rfl
  refine .of_openRecord (by simp) (by simp) hwrite (.next (.first ?headers) ?ms) h rfl
  case headers =>
    exact .skipped fun h _ => ⟨by simp [headersJson, Json.ofDict], readsBack_headers h⟩
  case ms => exact .skipped fun x _ => shows_double x

/-- The parameters of a side channel that was decoded are what the fields leave. -/
theorem SideChannel.restOf_of_decode {v : Json} {s : SideChannel} (hv : v.Distinct)
    (h : decode v = .ok s) : RestOf ["additional_headers", "response_ms"] s.extra := by
  obtain ⟨source, f, rest, -, hfields, hrest, rfl⟩ := exists_rest_of_distinct hv h
  simp only [Fields.seq_eq_ok_iff, Fields.map_eq_ok_iff] at hfields
  obtain ⟨_, ⟨headers, -, rfl⟩, ms, -, rfl⟩ := hfields
  exact hrest

theorem SideChannel.roundTrips : RoundTrips toJson decode :=
  fun _ _ hv h => readsBack (restOf_of_decode hv h)

/-! ## Completions -/

/-- A completion that reads back, except for what was observed. -/
structure Completion.IsWritable (c : Completion) : Prop where
  choices : ∀ choice ∈ c.choices, ReadsBack Choice.toJson Choice.decode choice
  usage : ∀ u ∈ c.usage, Shows Usage.toJson Usage.decode u
  extra : RestOf keys c.extra

theorem Completion.readsBack {c : Completion} (h : c.IsWritable) :
    ReadsBackAs toJson decode c c.bare := by
  have hshape : ∀ e ∈ c.fieldMembers, e.1 ∈ keys := by simp [fieldMembers, keys]
  refine .of_openRecord (by simp [fieldMembers]) hshape rfl (.next (.next (.next (.next (.next
    (.next (.first ?id) ?object) ?created) ?model) ?choices) ?usage) ?fingerprint) h.extra rfl
  case id => exact .required (readsBack_text c.id)
  case object => exact .required (readsBack_text c.object)
  case created => exact .required (readsBack_int64 c.created)
  case model => exact .shown fun s _ => shows_text s
  case choices => exact .required (Json.readsBack_list h.choices)
  case usage => exact .skipped h.usage
  case fingerprint => exact .text

theorem Completion.isWritable_of_decode {v : Json} {c : Completion} (hv : v.Distinct)
    (h : decode v = .ok c) : c.IsWritable ∧ c.bare = c := by
  obtain ⟨source, f, rest, hsource, hfields, hrest, rfl⟩ := exists_rest_of_distinct hv h
  simp only [Fields.seq_eq_ok_iff, Fields.map_eq_ok_iff] at hfields
  obtain ⟨_, ⟨_, ⟨_, ⟨_, ⟨_, ⟨_, ⟨id, -, rfl⟩, object, -, rfl⟩, created, -, rfl⟩, model, -, rfl⟩,
    choices, hchoices, rfl⟩, usage, husage, rfl⟩, fingerprint, -, rfl⟩ := hfields
  obtain ⟨w, hw, hread⟩ := Fields.exists_of_required hsource hchoices
  exact ⟨⟨Choice.roundTrips.list hw hread,
    Usage.shows_of_exists (Fields.exists_of_optional hsource husage), hrest⟩, rfl⟩

theorem Completion.roundTrips : RoundTrips toJson decode := by
  intro v c hv h
  obtain ⟨hwritable, hbare⟩ := isWritable_of_decode hv h
  exact (readsBack hwritable).readsBack hbare

/-- A chunk that reads back. -/
structure Chunk.IsWritable (c : Chunk) : Prop where
  choices : ∀ choice ∈ c.choices, ReadsBack ChunkChoice.toJson ChunkChoice.decode choice
  usage : ∀ u ∈ c.usage, Shows Usage.toJson Usage.decode u

theorem Chunk.readsBack {c : Chunk} (h : c.IsWritable) : ReadsBack toJson decode c := by
  refine .of_record (by simp) rfl (.next (.next (.next (.next (.next (.next (.first ?id) ?object)
    ?created) ?model) ?choices) ?usage) ?fingerprint)
  case id => exact .required (readsBack_text c.id)
  case object => exact .required (readsBack_text c.object)
  case created => exact .required (readsBack_int64 c.created)
  case model => exact .shown fun s _ => shows_text s
  case choices => exact .required (Json.readsBack_list h.choices)
  case usage => exact .skipped h.usage
  case fingerprint => exact .text

theorem Chunk.roundTrips : RoundTrips toJson decode := by
  intro v c hv h
  obtain ⟨source, hsource, hfields⟩ := exists_source_of_distinct hv h
  simp only [Fields.seq_eq_ok_iff, Fields.map_eq_ok_iff] at hfields
  obtain ⟨_, ⟨_, ⟨_, ⟨_, ⟨_, ⟨_, ⟨id, -, rfl⟩, object, -, rfl⟩, created, -, rfl⟩, model, -, rfl⟩,
    choices, hchoices, rfl⟩, usage, husage, rfl⟩, fingerprint, -, rfl⟩ := hfields
  obtain ⟨w, hw, hread⟩ := Fields.exists_of_required hsource hchoices
  exact readsBack ⟨ChunkChoice.roundTrips.list hw hread,
    Usage.shows_of_exists (Fields.exists_of_optional hsource husage)⟩

/-! ## Embeddings, images and transcripts -/

/-- Embeddings that read back, except for what was observed. -/
structure Embedding.IsWritable (e : Embedding) : Prop where
  data : ∀ v ∈ e.data, v.Distinct
  usage : ∀ u ∈ e.usage, Shows Usage.toJson Usage.decode u

theorem Embedding.readsBack {e : Embedding} (h : e.IsWritable) :
    ReadsBackAs toJson decode e e.bare := by
  refine .of_record (by simp) rfl (.next (.next (.next (.first ?model) ?object) ?data) ?usage)
  case model => exact .shown fun s _ => shows_text s
  case object => exact .required (readsBack_text e.object)
  case data => exact .required (Json.readsBack_listAny h.data)
  case usage => exact .skipped h.usage

theorem Embedding.isWritable_of_decode {v : Json} {e : Embedding} (hv : v.Distinct)
    (h : decode v = .ok e) : e.IsWritable ∧ e.bare = e := by
  obtain ⟨source, hsource, hfields⟩ := exists_source_of_distinct hv h
  simp only [Fields.seq_eq_ok_iff, Fields.map_eq_ok_iff] at hfields
  obtain ⟨_, ⟨_, ⟨_, ⟨model, -, rfl⟩, object, -, rfl⟩, data, hdata, rfl⟩, usage, husage, rfl⟩ :=
    hfields
  obtain ⟨w, hw, hread⟩ := Fields.exists_of_required hsource hdata
  exact ⟨⟨Json.distinct_of_listAny hw hread,
    Usage.shows_of_exists (Fields.exists_of_optional hsource husage)⟩, rfl⟩

theorem Embedding.roundTrips : RoundTrips toJson decode := by
  intro v e hv h
  obtain ⟨hwritable, hbare⟩ := isWritable_of_decode hv h
  exact (readsBack hwritable).readsBack hbare

/-- Images that read back, except for what was observed. -/
def Images.IsWritable (i : Images) : Prop := ∀ vs ∈ i.data, ∀ v ∈ vs, v.Distinct

theorem Images.readsBack {i : Images} (h : i.IsWritable) :
    ReadsBackAs toJson decode i i.bare := by
  refine .of_record (by simp) rfl (.next (.first ?created) ?data)
  case created => exact .shown fun t _ => shows_int64 t
  case data => exact .shown fun vs hvs => shows_listAny (h vs hvs)

theorem Images.isWritable_of_decode {v : Json} {i : Images} (hv : v.Distinct)
    (h : decode v = .ok i) : i.IsWritable ∧ i.bare = i := by
  obtain ⟨source, hsource, hfields⟩ := exists_source_of_distinct hv h
  simp only [Fields.seq_eq_ok_iff, Fields.map_eq_ok_iff] at hfields
  obtain ⟨_, ⟨created, -, rfl⟩, data, hdata, rfl⟩ := hfields
  exact ⟨Json.distinct_of_exists_listAny (Fields.exists_of_optional hsource hdata), rfl⟩

theorem Images.roundTrips : RoundTrips toJson decode := by
  intro v i hv h
  obtain ⟨hwritable, hbare⟩ := isWritable_of_decode hv h
  exact (readsBack hwritable).readsBack hbare

/-- A transcript that reads back, except for what was observed. -/
structure Transcript.IsWritable (t : Transcript) : Prop where
  words : ∀ vs ∈ t.words, ∀ v ∈ vs, v.Distinct
  segments : ∀ vs ∈ t.segments, ∀ v ∈ vs, v.Distinct

theorem Transcript.readsBack {t : Transcript} (h : t.IsWritable) :
    ReadsBackAs toJson decode t t.bare := by
  refine .of_record (by simp) rfl (.next (.next (.next (.next (.next (.first ?text) ?language)
    ?task) ?duration) ?words) ?segments)
  case text => exact .shown fun s _ => shows_text s
  case language => exact .text
  case task => exact .text
  case duration => exact .skipped fun x _ => shows_double x
  case words => exact .skipped fun vs hvs => shows_listAny (h.words vs hvs)
  case segments => exact .skipped fun vs hvs => shows_listAny (h.segments vs hvs)

theorem Transcript.isWritable_of_decode {v : Json} {t : Transcript} (hv : v.Distinct)
    (h : decode v = .ok t) : t.IsWritable ∧ t.bare = t := by
  obtain ⟨source, hsource, hfields⟩ := exists_source_of_distinct hv h
  simp only [Fields.seq_eq_ok_iff, Fields.map_eq_ok_iff] at hfields
  obtain ⟨_, ⟨_, ⟨_, ⟨_, ⟨_, ⟨text, -, rfl⟩, language, -, rfl⟩, task, -, rfl⟩, duration, -, rfl⟩,
    words, hwords, rfl⟩, segments, hsegments, rfl⟩ := hfields
  exact ⟨⟨Json.distinct_of_exists_listAny (Fields.exists_of_optional hsource hwords),
    Json.distinct_of_exists_listAny (Fields.exists_of_optional hsource hsegments)⟩, rfl⟩

theorem Transcript.roundTrips : RoundTrips toJson decode := by
  intro v t hv h
  obtain ⟨hwritable, hbare⟩ := isWritable_of_decode hv h
  exact (readsBack hwritable).readsBack hbare

/-! ## Rankings -/

theorem RankedDocument.readsBack {d : RankedDocument} (h : ∀ v ∈ d.document, v.IsShown) :
    ReadsBack toJson decode d := by
  refine .of_record (by simp) rfl (.next (.next (.first ?index) ?score) ?document)
  case index => exact .required (readsBack_size d.index)
  case score => exact .required (readsBack_double d.score)
  case document => exact .any h

theorem RankedDocument.roundTrips : RoundTrips toJson decode := by
  intro v d hv h
  obtain ⟨source, hsource, hfields⟩ := exists_source_of_distinct hv h
  simp only [Fields.seq_eq_ok_iff, Fields.map_eq_ok_iff] at hfields
  obtain ⟨_, ⟨_, ⟨index, -, rfl⟩, score, -, rfl⟩, document, hdocument, rfl⟩ := hfields
  exact readsBack (Fields.isShown_of_optional hsource hdocument)

/-- A ranking that reads back, except for what was observed. -/
structure Ranking.IsWritable (r : Ranking) : Prop where
  results : ∀ ds ∈ r.results, ∀ d ∈ ds, ReadsBack RankedDocument.toJson RankedDocument.decode d
  metadata : (Json.ofDict r.metadata).Distinct

theorem Ranking.readsBack {r : Ranking} (h : r.IsWritable) :
    ReadsBackAs toJson decode r r.bare := by
  refine .of_record (by simp) rfl (.next (.next (.first ?id) ?results) (.defaulted ?metadata))
  case id => exact .required (readsBack_text r.id)
  case results => exact .skipped fun ds hds => shows_list (h.results ds hds)
  case metadata =>
    by_cases hempty : r.metadata.isEmpty = true
    · exact .inl ⟨if_pos hempty, Dict.eq_empty_of_isEmpty hempty⟩
    · exact .inr ⟨_, if_neg hempty, h.metadata, (Json.readsBack_object h.metadata).decode_eq⟩

theorem Ranking.isWritable_of_decode {v : Json} {r : Ranking} (hv : v.Distinct)
    (h : decode v = .ok r) : r.IsWritable ∧ r.bare = r := by
  obtain ⟨source, hsource, hfields⟩ := exists_source_of_distinct hv h
  simp only [Fields.seq_eq_ok_iff, Fields.map_eq_ok_iff] at hfields
  obtain ⟨_, ⟨_, ⟨id, -, rfl⟩, results, hresults, rfl⟩, metadata, hmetadata, rfl⟩ := hfields
  refine ⟨⟨?_, ?_⟩, rfl⟩
  · intro ds hds
    obtain ⟨w, hw, hread⟩ := Fields.exists_of_optional hsource hresults ds hds
    exact RankedDocument.roundTrips.list hw.2 hread
  · rcases Fields.defaulted_eq_ok_iff.1 hmetadata with ⟨-, rfl⟩ | ⟨w, hw, hread⟩
    · exact (RestOf.empty []).distinct
    · exact Json.distinct_of_object (hsource _ _ w hw) hread

theorem Ranking.roundTrips : RoundTrips toJson decode := by
  intro v r hv h
  obtain ⟨hwritable, hbare⟩ := isWritable_of_decode hv h
  exact (readsBack hwritable).readsBack hbare

end CanonicalReply
