import CanonicalReply.Proofs.Assembling
import CanonicalReply.Proofs.Schema

/-!
# What an assembly gives reads back

An assembly takes values from a payload and from the response that the caller has
so far, and passes some of them on as they are.  It never makes up a value that
could not be read again: no content that is null, no part that is null where a
null is not shown, no key of a field among the rest.  That is an invariant of
responses, which assemblies keep.

* `Choice.readsBack_of_build`, `ChunkChoice.readsBack_of_build`: choices that are
  built.
* `isWritable_of_build`: **one step**: a response that is built from a request
  that can be written can be written.
* `Request.Sourced`: requests whose response so far comes from somewhere, and
  `Request.Sourced.isWritable`: they can be written.
* `readingUndoesWriting`: every type of a response, and what assemblies give.
-/

namespace CanonicalReply

open Json (Distinct Fields ReadsBack ReadsBackAs RestOf RoundTrips Shows)
open Json.Decoder (exists_source_of_distinct)

/-! ## What is passed on -/

namespace Provider

/-- What a message passes on can be written. -/
structure Message.IsWritable (m : Message) : Prop where
  content : ∀ c ∈ m.content, Shows Content.toJson Content.decode c
  audio : ∀ v ∈ m.audio, v.IsShown

/-- What a choice passes on can be written. -/
structure Choice.IsWritable (c : Choice) : Prop where
  message : c.message.IsWritable
  logprobs : ∀ v ∈ c.logprobs, v.IsShown
  enhancements : ∀ v ∈ c.enhancements, v.IsShown

theorem Message.isWritable_of_decode {v : Json} {m : Message} (hv : v.Distinct)
    (h : decode v = .ok m) : m.IsWritable := by
  obtain ⟨source, hsource, hfields⟩ := exists_source_of_distinct hv h
  simp only [Fields.seq_eq_ok_iff, Fields.map_eq_ok_iff] at hfields
  obtain ⟨_, ⟨_, ⟨_, ⟨_, ⟨role, -, rfl⟩, content, hcontent, rfl⟩, function, -, rfl⟩, calls, -, rfl⟩,
    audio, haudio, rfl⟩ := hfields
  exact ⟨Content.shows_of_exists (Fields.exists_of_lenient hsource hcontent),
    Fields.isShown_of_lenient hsource haudio⟩

theorem Choice.isWritable_of_decode {v : Json} {c : Choice} (hv : v.Distinct)
    (h : decode v = .ok c) : c.IsWritable := by
  obtain ⟨source, hsource, hfields⟩ := exists_source_of_distinct hv h
  simp only [Fields.seq_eq_ok_iff, Fields.map_eq_ok_iff] at hfields
  obtain ⟨_, ⟨_, ⟨_, ⟨_, ⟨message, hmessage, rfl⟩, reason, -, rfl⟩, details, -, rfl⟩,
    logprobs, hlogprobs, rfl⟩, enhancements, henhancements, rfl⟩ := hfields
  obtain ⟨w, hw, hread⟩ := Fields.exists_of_required hsource hmessage
  exact ⟨Message.isWritable_of_decode hw hread, Fields.isShown_of_lenient hsource hlogprobs,
    Fields.isShown_of_lenient hsource henhancements⟩

/-- Every result of a list that was read comes from one of its entries. -/
theorem Message.exists_of_mem_eachAt {α : Type} {f : Nat → Json → Except Failure α} {start : Nat}
    {vs : List Json} {as : List α} (h : eachAt f start vs = .ok as) {a : α} (ha : a ∈ as) :
    ∃ i, ∃ v ∈ vs, f i v = .ok a := by
  obtain ⟨k, hk⟩ := List.mem_iff_getElem?.1 ha
  obtain ⟨v, hv, hread⟩ := exists_of_eachAt h hk
  exact ⟨_, v, List.mem_of_getElem? hv, hread⟩

end Provider

/-! ## Choices -/

/-- A text that becomes the message can be written, and so can anything that is
passed on. -/
theorem Choice.readsBack_of_build {s : Settings} {supply : Supply} {jsonMode : Bool}
    {index : Nat} {v : Json} {c : Choice} (hv : v.Distinct)
    (h : build s supply jsonMode index v = .ok c) : ReadsBack toJson decode c := by
  obtain ⟨raw, whole, calls, expanded, hraw, -, -, rfl⟩ := build_eq_ok_iff.1 h
  have hwritable := Provider.Choice.isWritable_of_decode hv hraw
  refine readsBack ?_ hwritable.logprobs hwritable.enhancements
  cases hjson : jsonContent jsonMode raw.message calls expanded with
  | some content =>
    rw [body_of_jsonContent_eq_some hjson]
    refine Message.readsBack ?_ nofun
    rintro _ ⟨⟩
    exact Content.shows_ofJson (v := .str content) ⟨by simp, .str content⟩
  | none =>
    rw [body_of_jsonContent_eq_none hjson]
    exact Message.readsBack hwritable.message.content hwritable.message.audio

theorem ChunkChoice.readsBack_of_build {enhanced : Bool} {index : Nat} {v : Json}
    {c : ChunkChoice} (hv : v.Distinct) (h : build enhanced index v = .ok c) :
    ReadsBack toJson decode c := by
  obtain ⟨raw, deltas, hraw, -, rfl⟩ := build_eq_ok_iff.1 h
  have hwritable := Provider.Choice.isWritable_of_decode hv hraw
  refine readsBack (Delta.readsBack hwritable.message.content) hwritable.logprobs ?_
  cases enhanced with
  | true => exact hwritable.enhancements
  | false => exact nofun

/-! ## Completions -/

namespace Provider.Completion.ReadsFrom

variable {raw : Provider.Completion} {payload : Payload}

/-- A decoded payload passes on only what is in the payload. -/
theorem distinct_of_choices {values : List Json} (h : raw.ReadsFrom payload)
    (hpayload : (Json.ofDict payload).Distinct) (hvalues : raw.choices = some (.arr values)) :
    ∀ v ∈ values, v.Distinct :=
  Json.distinct_arr_iff.1 (Json.distinct_ofDict_iff.1 hpayload _ _ (h.get?_choices hvalues))

theorem distinct_of_usage {v : Json} (h : raw.ReadsFrom payload)
    (hpayload : (Json.ofDict payload).Distinct) (hv : raw.usage = some v) : v.Distinct := by
  obtain ⟨w, hw, hnull⟩ := Option.bind_eq_some_iff.1 (h.usage.symm.trans hv)
  obtain ⟨rfl, -⟩ := Json.nonNull?_eq_some_iff.1 hnull
  exact Json.distinct_ofDict_iff.1 hpayload _ _ hw

theorem restOf_extra (h : raw.ReadsFrom payload) (hpayload : (Json.ofDict payload).Distinct) :
    RestOf CanonicalReply.Completion.keys raw.extra := by
  rw [h.extra]
  exact .filterKeys hpayload

end Provider.Completion.ReadsFrom

/-- An update that can be written. -/
structure Update.IsWritable (u : Update) : Prop where
  choices : ∀ choice ∈ u.choices, ReadsBack Choice.toJson Choice.decode choice
  usage : ∀ usage ∈ u.usage, Shows Usage.toJson Usage.decode usage
  extra : RestOf Completion.keys u.extra

namespace Completion

theorem isWritable_blank (id : String) (created : Int64) : (blank id created).IsWritable :=
  ⟨(fun _ h => nomatch h), (fun _ h => nomatch h), .empty keys⟩

theorem isWritable_of_update {s : Settings} {supply : Supply} {payload : Payload} {o : Options}
    {u : Update} (hpayload : (Json.ofDict payload).Distinct)
    (h : update s supply payload o = .ok u) : u.IsWritable := by
  obtain ⟨raw, values, choices, usage, hread, hvalues, hchoices, husage, rfl⟩ :=
    update_eq_ok_iff.1 h
  refine ⟨?_, ?_, hread.restOf_extra hpayload⟩
  · intro choice hchoice
    obtain ⟨i, v, hv, hbuild⟩ := Provider.Message.exists_of_mem_eachAt hchoices hchoice
    exact Choice.readsBack_of_build (hread.distinct_of_choices hpayload hvalues v hv) hbuild
  · rintro u rfl
    rcases Provider.Completion.decodedUsage_eq_ok_iff.1 husage with
      ⟨-, hnone⟩ | ⟨v, u', hv, hu, hsome⟩
    · cases hnone
    · cases hsome
      exact Usage.shows_of_decode (hread.distinct_of_usage hpayload hv) hu

theorem isWritable_apply {c : Completion} {u : Update} (hc : c.IsWritable) (hu : u.IsWritable) :
    (c.apply u).IsWritable where
  choices := hu.choices
  usage := by
    intro usage husage
    rcases Option.or_eq_some_iff.1 husage with husage | ⟨-, husage⟩
    · exact hu.usage usage husage
    · exact hc.usage usage husage
  extra := hc.extra.overlay hu.extra

end Completion

/-- A chunk of either form of a stream can be written. -/
theorem Chunk.isWritable_of_ofPayload {enhanced : Bool} {supply : Supply} {payload : Payload}
    {c : Chunk} (hpayload : (Json.ofDict payload).Distinct)
    (h : ofPayload enhanced supply (some payload) = .ok c) : c.IsWritable := by
  obtain ⟨raw, values, choices, hread, hvalues, hchoices, rfl⟩ := ofPayload_eq_ok_iff.1 h
  refine ⟨?_, ?_⟩
  · intro choice hchoice
    obtain ⟨i, v, hv, hbuild⟩ := Provider.Message.exists_of_mem_eachAt hchoices hchoice
    exact ChunkChoice.readsBack_of_build (hread.distinct_of_choices hpayload hvalues v hv) hbuild
  · intro u hu
    obtain ⟨v, -, rfl⟩ := Option.map_eq_some_iff.1 hu
    exact Usage.shows_ofCounts _ _ _

/-! ## The other kinds -/

section PerField

variable {payload : Option Payload}

theorem exists_of_decodePayload {α : Type} {what : Subject} {decode : Json.Decoder α} {a : α}
    (hpayload : ∀ p ∈ payload, (Json.ofDict p).Distinct)
    (h : decodePayload what decode payload = .ok a) :
    ∃ v : Json, v.Distinct ∧ decode v = .ok a := by
  obtain ⟨p, hp, hread⟩ := decodePayload_eq_ok_iff.1 h
  exact ⟨_, hpayload p hp, hread⟩

theorem Embedding.isWritable_of_assemble {target : Option Embedding} {side : SideChannel}
    {latency : Option Binary64} {headers : Option Headers} {e : Embedding}
    (hpayload : ∀ p ∈ payload, (Json.ofDict p).Distinct) (htarget : (target.getD blank).IsWritable)
    (h : assemble payload target side latency headers = .ok e) : e.IsWritable := by
  obtain ⟨raw, hraw, rfl⟩ := Except.map_eq_ok_iff.1 h
  obtain ⟨v, hv, hread⟩ := exists_of_decodePayload hpayload hraw
  obtain ⟨source, hsource, hfields⟩ := exists_source_of_distinct hv hread
  simp only [Fields.seq_eq_ok_iff, Fields.map_eq_ok_iff] at hfields
  obtain ⟨_, ⟨_, ⟨_, ⟨model, -, rfl⟩, object, -, rfl⟩, data, hdata, rfl⟩, usage, husage, rfl⟩ :=
    hfields
  refine ⟨?_, ?_⟩
  · cases data with
    | none => exact htarget.data
    | some data =>
      exact Json.distinct_of_exists_listAny (Fields.exists_of_lenient hsource hdata) data rfl
  · intro u hu
    rcases Option.or_eq_some_iff.1 hu with hu | ⟨-, hu⟩
    · exact Usage.shows_of_exists (Fields.exists_of_lenient hsource husage) u hu
    · exact htarget.usage u hu

/-- A list that a payload replaces, takes away or leaves alone. -/
theorem distinct_of_presence {source : Json.Source} {shape : Json.Shape} {key : String}
    {o : Option (Option (List Json))} {old : Option (List Json)} (hsource : source.Distinct)
    (h : Fields.presence key (Json.Decoder.list Json.Decoder.any) shape source = .ok o)
    (hold : ∀ vs ∈ old, ∀ v ∈ vs, v.Distinct) : ∀ vs ∈ o.getD old, ∀ v ∈ vs, v.Distinct := by
  cases o with
  | none => exact hold
  | some new => exact Json.distinct_of_exists_listAny (Fields.exists_of_presence hsource h)

theorem Images.isWritable_of_assemble {supply : Supply} {target : Option Images}
    {side : SideChannel} {i : Images} (hpayload : ∀ p ∈ payload, (Json.ofDict p).Distinct)
    (htarget : (target.getD (blank supply.now)).IsWritable)
    (h : assemble supply payload target side = .ok i) : i.IsWritable := by
  obtain ⟨raw, hraw, rfl⟩ := Except.map_eq_ok_iff.1 h
  obtain ⟨v, hv, hread⟩ := exists_of_decodePayload hpayload hraw
  obtain ⟨source, hsource, hfields⟩ := exists_source_of_distinct hv hread
  simp only [Fields.seq_eq_ok_iff, Fields.map_eq_ok_iff] at hfields
  obtain ⟨_, ⟨created, -, rfl⟩, data, hdata, rfl⟩ := hfields
  exact distinct_of_presence hsource hdata htarget

theorem Transcript.isWritable_of_assemble {target : Option Transcript} {side : SideChannel}
    {headers : Option Headers} {t : Transcript}
    (hpayload : ∀ p ∈ payload, (Json.ofDict p).Distinct) (htarget : (target.getD blank).IsWritable)
    (h : assemble payload target side headers = .ok t) : t.IsWritable := by
  obtain ⟨raw, hraw, rfl⟩ := Except.map_eq_ok_iff.1 h
  obtain ⟨v, hv, hread⟩ := exists_of_decodePayload hpayload hraw
  obtain ⟨source, hsource, hfields⟩ := exists_source_of_distinct hv hread
  simp only [Fields.seq_eq_ok_iff, Fields.map_eq_ok_iff] at hfields
  obtain ⟨_, ⟨_, ⟨_, ⟨_, ⟨_, ⟨text, -, rfl⟩, language, -, rfl⟩, task, -, rfl⟩, duration, -, rfl⟩,
    words, hwords, rfl⟩, segments, hsegments, rfl⟩ := hfields
  exact ⟨distinct_of_presence hsource hwords htarget.words,
    distinct_of_presence hsource hsegments htarget.segments⟩

theorem Ranking.isWritable_of_assemble {supply : Supply} {target : Option Ranking} {r : Ranking}
    (hpayload : ∀ p ∈ payload, (Json.ofDict p).Distinct)
    (htarget : (target.getD (fresh supply)).IsWritable)
    (h : assemble supply payload target = .ok r) : r.IsWritable := by
  obtain ⟨raw, hraw, rfl⟩ := Except.map_eq_ok_iff.1 h
  obtain ⟨v, hv, hread⟩ := exists_of_decodePayload hpayload hraw
  obtain ⟨source, hsource, hfields⟩ := exists_source_of_distinct hv hread
  simp only [Fields.seq_eq_ok_iff, Fields.map_eq_ok_iff] at hfields
  obtain ⟨_, ⟨_, ⟨id, -, rfl⟩, results, hresults, rfl⟩, metadata, hmetadata, rfl⟩ := hfields
  refine ⟨?_, ?_⟩
  · intro ds hds
    rcases Option.or_eq_some_iff.1 hds with hds | ⟨-, hds⟩
    · obtain ⟨w, hw, hlist⟩ := Fields.exists_of_lenient hsource hresults ds hds
      exact RankedDocument.roundTrips.list hw.2 hlist
    · exact htarget.results ds hds
  · cases metadata with
    | none => exact htarget.metadata
    | some d =>
      obtain ⟨w, hw, hobject⟩ := Fields.exists_of_lenient hsource hmetadata d rfl
      exact Json.distinct_of_object hw.2 hobject

end PerField

/-! ## Requests and responses -/

/-- A request whose response so far, if there is one, can be written. -/
def Request.IsWritable : Request → Prop
  | completion t => ∀ c ∈ t, c.IsWritable
  | embedding t => ∀ e ∈ t, e.IsWritable
  | images t => ∀ i ∈ t, i.IsWritable
  | transcript t => ∀ w ∈ t, w.IsWritable
  | ranking t => ∀ r ∈ t, r.IsWritable

namespace Response

/-- A response that can be written; of a stream, every chunk can. -/
def IsWritable : Response → Prop
  | completion c => c.IsWritable
  | stream chunks => ∀ c ∈ chunks, c.IsWritable
  | embedding e => e.IsWritable
  | images i => i.IsWritable
  | transcript t => t.IsWritable
  | ranking r => r.IsWritable

/-- What is written of a response repeats no key and is read as the response without
what was observed; a stream is written and read chunk by chunk. -/
def ReadsBack : Response → Prop
  | completion c => ReadsBackAs Completion.toJson Completion.decode c c.bare
  | stream chunks => ∀ c ∈ chunks, Json.ReadsBack Chunk.toJson Chunk.decode c
  | embedding e => ReadsBackAs Embedding.toJson Embedding.decode e e.bare
  | images i => ReadsBackAs Images.toJson Images.decode i i.bare
  | transcript t => ReadsBackAs Transcript.toJson Transcript.decode t t.bare
  | ranking r => ReadsBackAs Ranking.toJson Ranking.decode r r.bare

theorem IsWritable.readsBack {r : Response} (h : r.IsWritable) : r.ReadsBack := by
  cases r with
  | completion c => exact Completion.readsBack h
  | stream chunks => exact fun c hc => Chunk.readsBack (h c hc)
  | embedding e => exact Embedding.readsBack h
  | images i => exact Images.readsBack h
  | transcript t => exact Transcript.readsBack h
  | ranking r => exact Ranking.readsBack h

/-- The request that goes on from a response. -/
theorem IsWritable.next {r : Response} {request : Request} (h : r.IsWritable)
    (hnext : r.next? = some request) : request.IsWritable := by
  cases r with
  | stream chunks => cases hnext
  | _ =>
    cases hnext
    rintro _ ⟨⟩
    exact h

end Response

/-- What is there, or else what stands for it. -/
theorem getD_of_forall {α : Type} {P : α → Prop} {o : Option α} {default : α}
    (h : ∀ a ∈ o, P a) (hdefault : P default) : P (o.getD default) := by
  cases o with
  | none => exact hdefault
  | some a => exact h a rfl

theorem Embedding.isWritable_blank : blank.IsWritable :=
  ⟨(fun _ h => nomatch h), (fun _ h => nomatch h)⟩

theorem Images.isWritable_blank (created : Int64) : (blank created).IsWritable :=
  fun _ h => nomatch h

theorem Transcript.isWritable_blank : blank.IsWritable :=
  ⟨(fun _ h => nomatch h), (fun _ h => nomatch h)⟩

theorem Ranking.isWritable_blank (id : String) : (blank id).IsWritable :=
  ⟨(fun _ h => nomatch h), (RestOf.empty []).distinct⟩

/-- **One step.**  A response that is built from a request that can be written can be
written. -/
theorem isWritable_of_build {s : Settings} {supply : Supply} {payload : Option Payload}
    {request : Request} {o : Options} {r : Response}
    (hpayload : ∀ p ∈ payload, (Json.ofDict p).Distinct) (hrequest : request.IsWritable)
    (h : build s supply payload request o = .ok r) : r.IsWritable := by
  cases request with
  | completion target =>
    cases payload with
    | none => cases h
    | some p =>
      have hp := hpayload p rfl
      simp only [build] at h
      split at h
      · obtain ⟨chunks, hchunks, rfl⟩ := Except.map_eq_ok_iff.1 h
        obtain ⟨chunk, hchunk, rfl⟩ := Except.map_eq_ok_iff.1 hchunks
        intro c hc
        cases List.mem_singleton.1 hc
        exact Chunk.isWritable_of_ofPayload hp hchunk
      · obtain ⟨c, hc, rfl⟩ := Except.map_eq_ok_iff.1 h
        obtain ⟨u, hu, rfl⟩ := Except.map_eq_ok_iff.1 hc
        have hbase := getD_of_forall hrequest
          (Completion.isWritable_blank supply.completionId supply.now)
        exact Completion.isWritable_apply hbase (Completion.isWritable_of_update hp hu)
  | embedding target =>
    obtain ⟨e, he, rfl⟩ := Except.map_eq_ok_iff.1 h
    have hbase := getD_of_forall hrequest Embedding.isWritable_blank
    exact Embedding.isWritable_of_assemble hpayload hbase he
  | images target =>
    obtain ⟨i, hi, rfl⟩ := Except.map_eq_ok_iff.1 h
    have hbase := getD_of_forall hrequest (Images.isWritable_blank supply.now)
    exact Images.isWritable_of_assemble hpayload hbase hi
  | transcript target =>
    obtain ⟨t, ht, rfl⟩ := Except.map_eq_ok_iff.1 h
    have hbase := getD_of_forall hrequest Transcript.isWritable_blank
    exact Transcript.isWritable_of_assemble hpayload hbase ht
  | ranking target =>
    obtain ⟨d, hd, rfl⟩ := Except.map_eq_ok_iff.1 h
    have hbase := getD_of_forall hrequest (Ranking.isWritable_blank supply.rankingId)
    exact Ranking.isWritable_of_assemble hpayload hbase hd

/-! ## Where the response so far comes from -/

namespace Request

/-- A request whose response so far is the default one of its kind. -/
def ofDefault (supply : Supply) : Kind → Request
  | .completion => completion (some (.fresh supply))
  | .embedding => embedding (some .blank)
  | .images => images (some (.blank supply.now))
  | .transcript => transcript (some .blank)
  | .ranking => ranking (some (.fresh supply))

/-- A request whose response so far is decoded. -/
def decode : Kind → Json.Decoder Request
  | .completion => fun v => (Completion.decode v).map fun c => completion (some c)
  | .embedding => fun v => (Embedding.decode v).map fun e => embedding (some e)
  | .images => fun v => (Images.decode v).map fun i => images (some i)
  | .transcript => fun v => (Transcript.decode v).map fun t => transcript (some t)
  | .ranking => fun v => (Ranking.decode v).map fun r => ranking (some r)

/-- The response so far comes from somewhere: there is none, or it is the default
one, or it was decoded, or it was assembled from a request of which the same is
true. -/
inductive Sourced : Request → Prop
  | none (kind : Kind) : Sourced (ofKind kind)
  | default (supply : Supply) (kind : Kind) : Sourced (ofDefault supply kind)
  | decoded {kind : Kind} {v : Json} {request : Request} : v.Distinct →
      decode kind v = .ok request → Sourced request
  | assembled {s : Settings} {supply : Supply} {payload : Option Payload} {request next : Request}
      {o : Options} {r : Response} : Sourced request →
      (∀ p ∈ payload, (Json.ofDict p).Distinct) → assemble s supply payload request o = .ok r →
      r.next? = some next → Sourced next

theorem isWritable_ofDefault (supply : Supply) (kind : Kind) :
    (ofDefault supply kind).IsWritable := by
  cases kind with
  | completion => rintro _ ⟨⟩; exact Completion.isWritable_blank _ _
  | embedding => rintro _ ⟨⟩; exact Embedding.isWritable_blank
  | images => rintro _ ⟨⟩; exact Images.isWritable_blank _
  | transcript => rintro _ ⟨⟩; exact Transcript.isWritable_blank
  | ranking => rintro _ ⟨⟩; exact Ranking.isWritable_blank _

theorem isWritable_of_decode {kind : Kind} {v : Json} {request : Request} (hv : v.Distinct)
    (h : decode kind v = .ok request) : request.IsWritable := by
  cases kind with
  | completion =>
    obtain ⟨c, hc, rfl⟩ := Except.map_eq_ok_iff.1 h
    rintro _ ⟨⟩
    exact (Completion.isWritable_of_decode hv hc).1
  | embedding =>
    obtain ⟨e, he, rfl⟩ := Except.map_eq_ok_iff.1 h
    rintro _ ⟨⟩
    exact (Embedding.isWritable_of_decode hv he).1
  | images =>
    obtain ⟨i, hi, rfl⟩ := Except.map_eq_ok_iff.1 h
    rintro _ ⟨⟩
    exact (Images.isWritable_of_decode hv hi).1
  | transcript =>
    obtain ⟨t, ht, rfl⟩ := Except.map_eq_ok_iff.1 h
    rintro _ ⟨⟩
    exact (Transcript.isWritable_of_decode hv ht).1
  | ranking =>
    obtain ⟨d, hd, rfl⟩ := Except.map_eq_ok_iff.1 h
    rintro _ ⟨⟩
    exact (Ranking.isWritable_of_decode hv hd).1

/-- However many assemblies a response has been through, it can be written. -/
theorem Sourced.isWritable {request : Request} (h : request.Sourced) : request.IsWritable := by
  induction h with
  | none kind => cases kind <;> exact fun _ h => nomatch h
  | default supply kind => exact isWritable_ofDefault supply kind
  | decoded hv hread => exact isWritable_of_decode hv hread
  | assembled _ hpayload hassemble hnext ih =>
    exact (isWritable_of_build hpayload ih (assemble_eq_ok_iff.1 hassemble).2).next hnext

end Request

/-! ## The whole schema -/

/-- Reading undoes writing: for every type of record that occurs in a response, and
for every response that is assembled. -/
structure ReadingUndoesWriting : Prop where
  completion : RoundTrips Completion.toJson Completion.decode
  choice : RoundTrips Choice.toJson Choice.decode
  message : RoundTrips Message.toJson Message.decode
  content : RoundTrips Content.toJson Content.decode
  toolCall : RoundTrips ToolCall.toJson ToolCall.decode
  functionCall : RoundTrips FunctionCall.toJson FunctionCall.decode
  chunk : RoundTrips Chunk.toJson Chunk.decode
  chunkChoice : RoundTrips ChunkChoice.toJson ChunkChoice.decode
  delta : RoundTrips Delta.toJson Delta.decode
  toolCallDelta : RoundTrips ToolCallDelta.toJson ToolCallDelta.decode
  functionDelta : RoundTrips FunctionDelta.toJson FunctionDelta.decode
  usage : RoundTrips Usage.toJson Usage.decode
  sideChannel : RoundTrips SideChannel.toJson SideChannel.decode
  embedding : RoundTrips Embedding.toJson Embedding.decode
  images : RoundTrips Images.toJson Images.decode
  transcript : RoundTrips Transcript.toJson Transcript.decode
  rankedDocument : RoundTrips RankedDocument.toJson RankedDocument.decode
  ranking : RoundTrips Ranking.toJson Ranking.decode
  /-- What is assembled reads back, except for what was observed. -/
  assembled : ∀ (s : Settings) (supply : Supply) (payload : Option Payload) (request : Request)
    (o : Options) (r : Response), (∀ p ∈ payload, (Json.ofDict p).Distinct) → request.Sourced →
      assemble s supply payload request o = .ok r → r.ReadsBack
  /-- The chunk of a replay reads back, with its enhancements or without them. -/
  replayed : ∀ (enhanced : Bool) (supply : Supply) (payload : Payload) (c : Chunk),
    (Json.ofDict payload).Distinct → Chunk.ofPayload enhanced supply (some payload) = .ok c →
      ReadsBack Chunk.toJson Chunk.decode c

/-- **Reading undoes writing.** -/
theorem readingUndoesWriting : ReadingUndoesWriting where
  completion := Completion.roundTrips
  choice := Choice.roundTrips
  message := Message.roundTrips
  content := Content.roundTrips
  toolCall := .of_forall ToolCall.readsBack
  functionCall := .of_forall FunctionCall.readsBack
  chunk := Chunk.roundTrips
  chunkChoice := ChunkChoice.roundTrips
  delta := Delta.roundTrips
  toolCallDelta := .of_forall ToolCallDelta.readsBack
  functionDelta := .of_forall FunctionDelta.readsBack
  usage := Usage.roundTrips
  sideChannel := SideChannel.roundTrips
  embedding := Embedding.roundTrips
  images := Images.roundTrips
  transcript := Transcript.roundTrips
  rankedDocument := RankedDocument.roundTrips
  ranking := Ranking.roundTrips
  assembled := by
    intro s supply payload request o r hpayload hrequest hassemble
    have hbuild := (assemble_eq_ok_iff.1 hassemble).2
    exact (isWritable_of_build hpayload hrequest.isWritable hbuild).readsBack
  replayed := fun _ _ _ _ hpayload h =>
    Chunk.readsBack (Chunk.isWritable_of_ofPayload hpayload h)

/-- A completion that a caller has kept in its written form. -/
def storedReply : Json :=
  .obj [("id", .str "r"), ("object", .str Completion.objectName), ("created", .num (.int 7)),
    ("model", .null), ("choices", .arr []), ("usage", .obj [("cached", .bool true),
      ("prompt_tokens", .null)]), ("seed", .num (.int 4))]

/-- A payload whose message is only heard. -/
def spokenPayload : List (String × Json) :=
  [("choices", .arr [.obj [("message", .obj [("content", .null),
    ("audio", .obj [("id", .str "a")])])]]), ("note", .null)]

theorem readingUndoesWriting_storedReply :
    storedReply.Distinct ∧ (Json.obj spokenPayload).Distinct ∧
      ∃ request r, Request.decode .completion storedReply = .ok request ∧
        assemble .standard .plain (some (.ofList spokenPayload)) request .none = .ok r ∧
          r.ReadsBack := by
  have hstored : storedReply.Distinct := by
    simp [storedReply, Json.distinct_obj_iff, Json.distinct_arr_iff, Distinct.null, Distinct.bool,
      Distinct.num, Distinct.str]
  have hspoken : (Json.obj spokenPayload).Distinct := by
    simp [spokenPayload, Json.distinct_obj_iff, Json.distinct_arr_iff, Distinct.null, Distinct.str]
  have hrequest : (Request.decode .completion storedReply).toOption.isSome = true := by
    decide +kernel
  obtain ⟨request, hdecode⟩ := Option.isSome_iff_exists.1 hrequest
  have hresponse : ((Request.decode .completion storedReply).toOption.bind fun request =>
      (assemble .standard .plain (some (.ofList spokenPayload)) request .none).toOption).isSome =
        true := by decide +kernel
  rw [hdecode, Option.bind_some] at hresponse
  obtain ⟨r, hassemble⟩ := Option.isSome_iff_exists.1 hresponse
  have hread := Except.toOption_eq_some_iff.1 hdecode
  have hok := Except.toOption_eq_some_iff.1 hassemble
  have hpayload : ∀ p ∈ some (Dict.ofList spokenPayload), (Json.ofDict p).Distinct := by
    rintro _ ⟨⟩
    exact hspoken.ofList
  have hreads := readingUndoesWriting.assembled .standard .plain _ request .none r hpayload
    (.decoded hstored hread) hok
  exact ⟨hstored, hspoken, request, r, hread, hok, hreads⟩

end CanonicalReply
