import CanonicalReply.Proofs.Accumulation

/-!
# What a run of embeddings, images, transcripts or rankings adds up to

These responses are laid over the caller's one field at a time.  Some fields can
be taken away by a null, and others only replaced; in either case the last step
that says something about a field has the last word, and a field that no step
speaks of stays as it was.

* `Step.given`, `Step.spoken`: what a step says about a field of either sort.
* `Embedding.OverlaidBy` and its like: a response has in each field what the last
  step says that speaks of it.
* `Embedding.overlaidBy_of_assemble` and its like: **the step**.
* `exists_held_of_run`: **the run**, for any kind of response whose steps can be
  put one behind the other.
* `overlaysFields`: every kind, and every run of it.
-/

namespace CanonicalReply

open Json (nonNull?)

/-! ## Reading a field off its value -/

namespace Json

/-- The double of a number. -/
def double? : Json → Option Binary64
  | .num n => some n.toDouble
  | _ => none

/-- What a decoder gives of a value can be seen by looking at it; a null is seen as
nothing. -/
def SeenBy {α : Type} (decode : Decoder α) (look : Json → Option α) : Prop :=
  ∀ v o, Decoder.nullable decode v = .ok o → o = look v

theorem seenBy_text : SeenBy Decoder.text text? := by
  intro v o h
  rw [Decoder.nullable_text_eq_ok_iff] at h
  rw [h]
  exact (Step.text?_orNull o).symm

theorem seenBy_double : SeenBy Decoder.double double? := by
  intro v o h
  cases v <;> cases h <;> rfl

theorem seenBy_items : SeenBy (Decoder.list Decoder.any) items? := by
  intro v o h
  cases v with
  | arr vs =>
    have hread : Decoder.nullable (Decoder.list Decoder.any) (.arr vs) = .ok (some vs) :=
      congrArg (Except.map some) (Decoder.list_any vs)
    exact Except.ok.inj (h.symm.trans hread)
  | _ => cases h <;> rfl

theorem seenBy_dict : SeenBy Decoder.object dict? := by
  intro v o h
  cases v <;> cases h <;> rfl

theorem seenBy_any : SeenBy Decoder.any nonNull? := by
  intro v o h
  rw [Decoder.nullable_any] at h
  exact (Except.ok.inj h).symm

namespace Fields

variable {α : Type} {shape : Shape} {source : Source} {key : String} {decode : Decoder α}
  {look : Json → Option α}

theorem presence_eq_map (hlook : SeenBy decode look) {o : Option (Option α)}
    (h : presence key decode shape source = .ok o) : o = (source.value? shape key).map look := by
  rcases presence_eq_ok_iff.1 h with ⟨hnone, rfl⟩ | ⟨v, o', hv, ho, rfl⟩
  · rw [hnone]
    rfl
  · rw [hv, hlook v o' ho]
    rfl

theorem lenient_eq_bind (hlook : SeenBy decode look) {o : Option α}
    (h : lenient key decode shape source = .ok o) : o = (source.value? shape key).bind look := by
  rcases lenient_eq_ok_iff.1 h with ⟨hnone, rfl⟩ | ⟨v, hv, ho⟩
  · rw [hnone]
    rfl
  · rw [hv, hlook v o ho]
    rfl

/-- A value that can only be decoded is what the decoder gives. -/
theorem lenient_map_ok {o : Option α} (h : lenient key decode shape source = .ok o) :
    o.map Except.ok = ((source.value? shape key).bind nonNull?).map decode := by
  rcases lenient_eq_ok_iff.1 h with ⟨hnone, rfl⟩ | ⟨v, hv, ho⟩
  · rw [hnone]
    rfl
  · rw [hv, Option.bind_some]
    rcases Decoder.nullable_eq_ok_iff.1 ho with ⟨rfl, rfl⟩ | ⟨hne, a, ha, rfl⟩
    · rfl
    · rw [nonNull?_of_ne_null hne, Option.map_some, Option.map_some, ha]

end Fields

end Json

/-! ## What a step says about a field -/

namespace Step

variable {β : Type}

/-- What a step gives for a field, where a null takes away what was there. -/
def given (key : String) (look : Json → Option β) (step : Step) : Option (Option β) :=
  (step.member key).map look

/-- What a step gives for a field, where a null says nothing. -/
def spoken (key : String) (look : Json → Option β) (step : Step) : Option β :=
  (step.member key).bind look

/-- The ranked documents, as far as they can be decoded.  A null says nothing. -/
def results? (step : Step) : Option (Except Json.Fault (List RankedDocument)) :=
  ((step.member "results").bind nonNull?).map (Json.Decoder.list RankedDocument.decode)

/-- The side channel that a step makes: its own headers and parameters, and nothing
of what was there before. -/
def ownSide (s : Settings) (step : Step) : SideChannel :=
  ⟨step.shownHeaders? s, none, step.options.params.getD .empty⟩

/-- The same with the time that the step took. -/
def timedSide (s : Settings) (step : Step) : SideChannel :=
  { step.ownSide s with responseMs := step.options.latency }

theorem sideChannel_eq_ownSide (s : Settings) (step : Step) :
    step.options.sideChannel s.headerPrefix = step.ownSide s := by
  rw [Options.sideChannel, ownSide, shownHeaders?]
  cases step.options.params <;> rfl

/-! ### The last step that speaks -/

@[simp] theorem lastSaid_nil (said : Step → Option β) : lastSaid said [] = none := rfl

@[simp] theorem lastSaid_singleton (said : Step → Option β) (step : Step) :
    lastSaid said [step] = said step := by
  rw [lastSaid_cons, lastSaid_nil, Option.none_or]

theorem getD_lastSaid_cons (said : Step → Option β) (step : Step) (rest : List Step) (b : β) :
    (lastSaid said rest).getD ((lastSaid said [step]).getD b) =
      (lastSaid said (step :: rest)).getD b := by
  rw [lastSaid_cons said step rest, lastSaid_singleton, Option.getD_or]

theorem lastSaid_or_cons (said : Step → Option β) (step : Step) (rest : List Step)
    (o : Option β) :
    (lastSaid said rest).or ((lastSaid said [step]).or o) =
      (lastSaid said (step :: rest)).or o := by
  rw [lastSaid_cons said step rest, lastSaid_singleton, Option.or_assoc]

/-- What is made anew at every step is what the last step makes. -/
theorem getD_getLast?_cons (made : Step → β) (step : Step) (rest : List Step) (b : β) :
    (rest.getLast?.map made).getD (([step].getLast?.map made).getD b) =
      ((step :: rest).getLast?.map made).getD b := by
  cases hlast : rest.getLast? <;> simp [List.getLast?_cons, hlast]

end Step

/-! ## Embeddings -/

section Overlaid

variable {s : Settings} {step : Step} {rest : List Step}

/-- Embeddings with the last word about each field, on top of those at the start. -/
structure Embedding.OverlaidBy (e : Embedding) (s : Settings) (steps : List Step)
    (start : Embedding) : Prop where
  model : e.model = (Step.lastSaid (Step.given "model" Json.text?) steps).getD start.model
  object : e.object = (Step.lastSaid (Step.spoken "object" Json.text?) steps).getD start.object
  data : e.data = (Step.lastSaid (Step.spoken "data" Json.items?) steps).getD start.data
  usage : e.usage.map Except.ok = (Step.lastSaid Step.usage? steps).or (start.usage.map .ok)
  /-- The last step alone makes the side channel. -/
  side : e.side = (steps.getLast?.map (Step.timedSide s)).getD start.side
  headers : e.headers = (Step.lastSaid (·.options.headers) steps).or start.headers

theorem Embedding.OverlaidBy.cons {start mid e : Embedding} (h : mid.OverlaidBy s [step] start)
    (hrest : e.OverlaidBy s rest mid) : e.OverlaidBy s (step :: rest) start where
  model := by rw [hrest.model, h.model, Step.getD_lastSaid_cons]
  object := by rw [hrest.object, h.object, Step.getD_lastSaid_cons]
  data := by rw [hrest.data, h.data, Step.getD_lastSaid_cons]
  usage := by rw [hrest.usage, h.usage, Step.lastSaid_or_cons]
  side := by rw [hrest.side, h.side, Step.getD_getLast?_cons]
  headers := by rw [hrest.headers, h.headers, Step.lastSaid_or_cons]

/-- The members of a step are those that its payload is read from. -/
theorem Step.value?_eq_member {p : Payload} (hp : step.payload = some p) (shape : Json.Shape)
    (key : String) :
    (Json.Source.byKey (Dict.ofList p.entries)).value? shape key = step.member key := by
  rw [Dict.ofList_entries, Json.Source.value?_byKey, member, hp, Option.bind_some]

/-- **The step**, for embeddings. -/
theorem Embedding.overlaidBy_of_assemble {target : Option Embedding} {e : Embedding}
    (h : assemble step.payload target (step.options.sideChannel s.headerPrefix)
      step.options.latency step.options.headers = .ok e) :
    e.OverlaidBy s [step] (target.getD blank) := by
  obtain ⟨raw, hraw, rfl⟩ := Except.map_eq_ok_iff.1 h
  obtain ⟨p, hp, hread⟩ := decodePayload_eq_ok_iff.1 hraw
  have hfields := Json.Decoder.record_obj_eq_ok_iff.1 hread
  simp only [Json.Fields.seq_eq_ok_iff, Json.Fields.map_eq_ok_iff] at hfields
  obtain ⟨_, ⟨_, ⟨_, ⟨model, hmodel, rfl⟩, object, hobject, rfl⟩, data, hdata, rfl⟩, usage, husage,
    rfl⟩ := hfields
  have hmodel := Json.Fields.presence_eq_map Json.seenBy_text hmodel
  have hobject := Json.Fields.lenient_eq_bind Json.seenBy_text hobject
  have hdata := Json.Fields.lenient_eq_bind Json.seenBy_items hdata
  have husage := Json.Fields.lenient_map_ok husage
  rw [Step.value?_eq_member hp] at hmodel hobject hdata husage
  simp only [Step.sideChannel_eq_ownSide]
  refine ⟨?_, ?_, ?_, ?_, ?_, ?_⟩
  · rw [Step.lastSaid_singleton, Step.given, ← hmodel, apply]
  · rw [Step.lastSaid_singleton, Step.spoken, ← hobject, apply]
  · rw [Step.lastSaid_singleton, Step.spoken, ← hdata, apply]
  · rw [Step.lastSaid_singleton, Step.usage?, ← husage, apply, Option.map_or]
  · rw [apply, Step.ownSide, Option.or_none]
    rfl
  · rw [Step.lastSaid_singleton, apply]

/-! ## Images -/

/-- Images with the last word about each field, on top of those at the start. -/
structure Images.OverlaidBy (i : Images) (s : Settings) (steps : List Step) (start : Images) :
    Prop where
  /-- A time that is no number is no time. -/
  created : i.created =
    (Step.lastSaid (Step.given "created" Provider.unixSeconds) steps).getD start.created
  data : i.data = (Step.lastSaid (Step.given "data" Json.items?) steps).getD start.data
  /-- The last step alone makes the side channel. -/
  side : i.side = (steps.getLast?.map (Step.ownSide s)).getD start.side

theorem Images.OverlaidBy.cons {start mid i : Images} (h : mid.OverlaidBy s [step] start)
    (hrest : i.OverlaidBy s rest mid) : i.OverlaidBy s (step :: rest) start where
  created := by rw [hrest.created, h.created, Step.getD_lastSaid_cons]
  data := by rw [hrest.data, h.data, Step.getD_lastSaid_cons]
  side := by rw [hrest.side, h.side, Step.getD_getLast?_cons]

/-- **The step**, for images. -/
theorem Images.overlaidBy_of_assemble {target : Option Images} {i : Images}
    (h : assemble step.supply step.payload target (step.options.sideChannel s.headerPrefix) =
      .ok i) : i.OverlaidBy s [step] (target.getD (blank step.supply.now)) := by
  obtain ⟨raw, hraw, rfl⟩ := Except.map_eq_ok_iff.1 h
  obtain ⟨p, hp, hread⟩ := decodePayload_eq_ok_iff.1 hraw
  have hfields := Json.Decoder.record_obj_eq_ok_iff.1 hread
  simp only [Json.Fields.seq_eq_ok_iff, Json.Fields.map_eq_ok_iff] at hfields
  obtain ⟨_, ⟨created, hcreated, rfl⟩, data, hdata, rfl⟩ := hfields
  have hcreated := Json.Fields.presence_eq_map Json.seenBy_any hcreated
  have hdata := Json.Fields.presence_eq_map Json.seenBy_items hdata
  rw [Step.value?_eq_member hp] at hcreated hdata
  simp only [Step.sideChannel_eq_ownSide]
  have hseconds : (created.map fun v => v.bind Provider.unixSeconds) =
      step.given "created" Provider.unixSeconds := by
    rw [hcreated, Option.map_map, Step.given]
    exact congrArg (Option.map · _) (funext Step.unixSeconds_nonNull)
  refine ⟨?_, ?_, rfl⟩
  · rw [Step.lastSaid_singleton, ← hseconds, apply]
  · rw [Step.lastSaid_singleton, Step.given, ← hdata, apply]

/-! ## Transcripts -/

/-- A transcript with the last word about each field, on top of the one at the
start. -/
structure Transcript.OverlaidBy (t : Transcript) (s : Settings) (steps : List Step)
    (start : Transcript) : Prop where
  text : t.text = (Step.lastSaid (Step.given "text" Json.text?) steps).getD start.text
  language :
    t.language = (Step.lastSaid (Step.given "language" Json.text?) steps).getD start.language
  task : t.task = (Step.lastSaid (Step.given "task" Json.text?) steps).getD start.task
  duration :
    t.duration = (Step.lastSaid (Step.given "duration" Json.double?) steps).getD start.duration
  words : t.words = (Step.lastSaid (Step.given "words" Json.items?) steps).getD start.words
  segments :
    t.segments = (Step.lastSaid (Step.given "segments" Json.items?) steps).getD start.segments
  /-- The last step alone makes the side channel. -/
  side : t.side = (steps.getLast?.map (Step.ownSide s)).getD start.side
  headers : t.headers = (Step.lastSaid (·.options.headers) steps).or start.headers

theorem Transcript.OverlaidBy.cons {start mid t : Transcript} (h : mid.OverlaidBy s [step] start)
    (hrest : t.OverlaidBy s rest mid) : t.OverlaidBy s (step :: rest) start where
  text := by rw [hrest.text, h.text, Step.getD_lastSaid_cons]
  language := by rw [hrest.language, h.language, Step.getD_lastSaid_cons]
  task := by rw [hrest.task, h.task, Step.getD_lastSaid_cons]
  duration := by rw [hrest.duration, h.duration, Step.getD_lastSaid_cons]
  words := by rw [hrest.words, h.words, Step.getD_lastSaid_cons]
  segments := by rw [hrest.segments, h.segments, Step.getD_lastSaid_cons]
  side := by rw [hrest.side, h.side, Step.getD_getLast?_cons]
  headers := by rw [hrest.headers, h.headers, Step.lastSaid_or_cons]

/-- **The step**, for transcripts. -/
theorem Transcript.overlaidBy_of_assemble {target : Option Transcript} {t : Transcript}
    (h : assemble step.payload target (step.options.sideChannel s.headerPrefix)
      step.options.headers = .ok t) : t.OverlaidBy s [step] (target.getD blank) := by
  obtain ⟨raw, hraw, rfl⟩ := Except.map_eq_ok_iff.1 h
  obtain ⟨p, hp, hread⟩ := decodePayload_eq_ok_iff.1 hraw
  have hfields := Json.Decoder.record_obj_eq_ok_iff.1 hread
  simp only [Json.Fields.seq_eq_ok_iff, Json.Fields.map_eq_ok_iff] at hfields
  obtain ⟨_, ⟨_, ⟨_, ⟨_, ⟨_, ⟨text, htext, rfl⟩, language, hlanguage, rfl⟩, task, htask, rfl⟩,
    duration, hduration, rfl⟩, words, hwords, rfl⟩, segments, hsegments, rfl⟩ := hfields
  have htext := Json.Fields.presence_eq_map Json.seenBy_text htext
  have hlanguage := Json.Fields.presence_eq_map Json.seenBy_text hlanguage
  have htask := Json.Fields.presence_eq_map Json.seenBy_text htask
  have hduration := Json.Fields.presence_eq_map Json.seenBy_double hduration
  have hwords := Json.Fields.presence_eq_map Json.seenBy_items hwords
  have hsegments := Json.Fields.presence_eq_map Json.seenBy_items hsegments
  rw [Step.value?_eq_member hp] at htext hlanguage htask hduration hwords hsegments
  simp only [Step.sideChannel_eq_ownSide]
  refine ⟨?_, ?_, ?_, ?_, ?_, ?_, rfl, ?_⟩
  · rw [Step.lastSaid_singleton, Step.given, ← htext, apply]
  · rw [Step.lastSaid_singleton, Step.given, ← hlanguage, apply]
  · rw [Step.lastSaid_singleton, Step.given, ← htask, apply]
  · rw [Step.lastSaid_singleton, Step.given, ← hduration, apply]
  · rw [Step.lastSaid_singleton, Step.given, ← hwords, apply]
  · rw [Step.lastSaid_singleton, Step.given, ← hsegments, apply]
  · rw [Step.lastSaid_singleton, apply]

/-! ## Rankings -/

/-- A ranking with the last word about each field, on top of the one at the start.
Its side channel stays. -/
structure Ranking.OverlaidBy (r : Ranking) (steps : List Step) (start : Ranking) : Prop where
  id : r.id = (Step.lastSaid (Step.spoken "id" Json.text?) steps).getD start.id
  results : r.results.map Except.ok =
    (Step.lastSaid Step.results? steps).or (start.results.map .ok)
  metadata : r.metadata = (Step.lastSaid (Step.spoken "meta" Json.dict?) steps).getD start.metadata
  side : r.side = start.side

theorem Ranking.OverlaidBy.cons {start mid r : Ranking} (h : mid.OverlaidBy [step] start)
    (hrest : r.OverlaidBy rest mid) : r.OverlaidBy (step :: rest) start where
  id := by rw [hrest.id, h.id, Step.getD_lastSaid_cons]
  results := by rw [hrest.results, h.results, Step.lastSaid_or_cons]
  metadata := by rw [hrest.metadata, h.metadata, Step.getD_lastSaid_cons]
  side := by rw [hrest.side, h.side]

/-- **The step**, for rankings. -/
theorem Ranking.overlaidBy_of_assemble {target : Option Ranking} {r : Ranking}
    (h : assemble step.supply step.payload target = .ok r) :
    r.OverlaidBy [step] (target.getD (fresh step.supply)) := by
  obtain ⟨raw, hraw, rfl⟩ := Except.map_eq_ok_iff.1 h
  obtain ⟨p, hp, hread⟩ := decodePayload_eq_ok_iff.1 hraw
  have hfields := Json.Decoder.record_obj_eq_ok_iff.1 hread
  simp only [Json.Fields.seq_eq_ok_iff, Json.Fields.map_eq_ok_iff] at hfields
  obtain ⟨_, ⟨_, ⟨id, hid, rfl⟩, results, hresults, rfl⟩, metadata, hmetadata, rfl⟩ := hfields
  have hid := Json.Fields.lenient_eq_bind Json.seenBy_text hid
  have hresults := Json.Fields.lenient_map_ok hresults
  have hmetadata := Json.Fields.lenient_eq_bind Json.seenBy_dict hmetadata
  rw [Step.value?_eq_member hp] at hid hresults hmetadata
  refine ⟨?_, ?_, ?_, rfl⟩
  · rw [Step.lastSaid_singleton, Step.spoken, ← hid, apply]
  · rw [Step.lastSaid_singleton, Step.results?, ← hresults, apply, Option.map_or]
  · rw [Step.lastSaid_singleton, Step.spoken, ← hmetadata, apply]

end Overlaid

/-! ## Runs -/

/-- The response that a caller holds in the end: the last one that came out, or the
one from the start. -/
def held (start : Response) (results : List (Except Failure Response)) : Response :=
  (results.filterMap Except.toOption).getLast?.getD start

theorem held_cons_ok (start r : Response) (results : List (Except Failure Response)) :
    held start (.ok r :: results) = held r results := by
  have hkept : (Except.ok r :: results).filterMap Except.toOption =
      r :: results.filterMap Except.toOption := rfl
  rw [held, held, hkept, List.getLast?_cons, Option.getD_some]

/-- No step of a run fails. -/
def Succeeds (s : Settings) (request : Request) (steps : List Step) : Prop :=
  ∀ result ∈ run s request steps, ∃ r, result = .ok r

/-- The supply of the first step; the given one stands for it where there is no step. -/
def openingSupply (supply : Supply) (steps : List Step) : Supply :=
  (steps.head?.map Step.supply).getD supply

section Runs

variable {α : Type} {s : Settings} (ask : Option α → Request) (wrap : α → Response)
  (fresh : Supply → α) (overlaid : List Step → α → α → Prop)

/-- **The run.**  A kind of response whose steps can be put one behind the other is
overlaid by a run as by its steps. -/
theorem exists_held_of_run (hnext : ∀ a, (wrap a).next? = some (ask (some a)))
    (hstep : ∀ (step : Step) target r,
      build s step.supply step.payload (ask target) step.options = .ok r →
        ∃ a, r = wrap a ∧ overlaid [step] (target.getD (fresh step.supply)) a)
    (hnil : ∀ a, overlaid [] a a)
    (hcons : ∀ step rest a b c, overlaid [step] a b → overlaid rest b c →
      overlaid (step :: rest) a c)
    {steps : List Step} (hsame : ∀ step ∈ steps, step.request = none) (supply : Supply)
    {target : Option α} (hok : Succeeds s (ask target) steps) :
    ∃ a, held (wrap (target.getD (fresh (openingSupply supply steps)))) (run s (ask target) steps)
        = wrap a ∧ overlaid steps (target.getD (fresh (openingSupply supply steps))) a := by
  induction steps generalizing target with
  | nil => exact ⟨_, rfl, hnil _⟩
  | cons step rest ih =>
    obtain ⟨hrequest, hrest⟩ := List.forall_mem_cons.1 hsame
    rw [Succeeds, run, hrequest, Option.getD_none] at hok
    obtain ⟨⟨r, hr⟩, hlater⟩ := List.forall_mem_cons.1 hok
    obtain ⟨b, rfl, hb⟩ := hstep step target r (assemble_eq_ok_iff.1 hr).2
    have hgoesOn : ((assemble s step.supply step.payload (ask target) step.options).toOption.bind
        Response.next?).getD (ask target) = ask (some b) := by
      rw [hr, Except.toOption, Option.bind_some, hnext, Option.getD_some]
    rw [hgoesOn] at hlater
    obtain ⟨c, hheld, hc⟩ := ih hrest hlater
    refine ⟨c, ?_, hcons step rest _ b c hb hc⟩
    rw [run, hrequest, Option.getD_none, hgoesOn, hr, held_cons_ok]
    exact hheld

end Runs

/-- What runs of embeddings, images, transcripts and rankings add up to, from
whatever the caller has at the start, or from a blank response. -/
structure OverlaysFields (s : Settings) (supply : Supply) (steps : List Step) : Prop where
  embedding : ∀ target, Succeeds s (.embedding target) steps →
    ∃ e, held (.embedding (target.getD .blank)) (run s (.embedding target) steps) =
        .embedding e ∧ e.OverlaidBy s steps (target.getD .blank)
  images : ∀ target, Succeeds s (.images target) steps →
    ∃ i, held (.images (target.getD (.blank (openingSupply supply steps).now)))
          (run s (.images target) steps) = .images i ∧
        i.OverlaidBy s steps (target.getD (.blank (openingSupply supply steps).now))
  transcript : ∀ target, Succeeds s (.transcript target) steps →
    ∃ t, held (.transcript (target.getD .blank)) (run s (.transcript target) steps) =
        .transcript t ∧ t.OverlaidBy s steps (target.getD .blank)
  ranking : ∀ target, Succeeds s (.ranking target) steps →
    ∃ r, held (.ranking (target.getD (.fresh (openingSupply supply steps))))
          (run s (.ranking target) steps) = .ranking r ∧
        r.OverlaidBy steps (target.getD (.fresh (openingSupply supply steps)))

/-- **What a run adds up to**, whatever the settings, the start and the steps, none
or many, of which none asks for something else. -/
theorem overlaysFields (s : Settings) (supply : Supply) (steps : List Step)
    (hsame : ∀ step ∈ steps, step.request = none) : OverlaysFields s supply steps where
  embedding := by
    intro target hok
    refine exists_held_of_run .embedding .embedding (fun _ => .blank)
      (fun steps start e => Embedding.OverlaidBy e s steps start) (fun _ => rfl) ?_
      (fun _ => ⟨rfl, rfl, rfl, rfl, rfl, rfl⟩) (fun _ _ _ _ _ h hrest => h.cons hrest) hsame supply
      hok
    intro step target r h
    obtain ⟨e, he, rfl⟩ := Except.map_eq_ok_iff.1 h
    exact ⟨e, rfl, Embedding.overlaidBy_of_assemble he⟩
  images := by
    intro target hok
    refine exists_held_of_run .images .images (fun supply => .blank supply.now)
      (fun steps start i => Images.OverlaidBy i s steps start) (fun _ => rfl) ?_
      (fun _ => ⟨rfl, rfl, rfl⟩) (fun _ _ _ _ _ h hrest => h.cons hrest) hsame supply hok
    intro step target r h
    obtain ⟨i, hi, rfl⟩ := Except.map_eq_ok_iff.1 h
    exact ⟨i, rfl, Images.overlaidBy_of_assemble hi⟩
  transcript := by
    intro target hok
    refine exists_held_of_run .transcript .transcript (fun _ => .blank)
      (fun steps start t => Transcript.OverlaidBy t s steps start) (fun _ => rfl) ?_
      (fun _ => ⟨rfl, rfl, rfl, rfl, rfl, rfl, rfl, rfl⟩) (fun _ _ _ _ _ h hrest => h.cons hrest)
      hsame supply hok
    intro step target r h
    obtain ⟨t, ht, rfl⟩ := Except.map_eq_ok_iff.1 h
    exact ⟨t, rfl, Transcript.overlaidBy_of_assemble ht⟩
  ranking := by
    intro target hok
    refine exists_held_of_run .ranking .ranking .fresh
      (fun steps start r => Ranking.OverlaidBy r steps start) (fun _ => rfl) ?_
      (fun _ => ⟨rfl, rfl, rfl, rfl⟩) (fun _ _ _ _ _ h hrest => h.cons hrest) hsame supply hok
    intro step target r h
    obtain ⟨a, ha, rfl⟩ := Except.map_eq_ok_iff.1 h
    exact ⟨a, rfl, Ranking.overlaidBy_of_assemble ha⟩

/-- A recording in three steps.  The first one brings a text, its language, how long it
took, and headers; the second one takes the text away and brings words; the third
one says nothing. -/
def recording : List Step :=
  [⟨.plain, none, some (.ofList [("text", .str "hi"), ("language", .str "en"),
      ("duration", .num (.int 3))]), { Options.none with
        headers := some (.ofList [("date", "now")])
        params := some (.ofList [("trace", .bool true)]) }⟩,
    ⟨.plain, none, some (.ofList [("text", .null), ("words", .arr [])]), .none⟩,
    ⟨.plain, none, some .empty, .none⟩]

theorem overlaysFields_recording :
    (∀ step ∈ recording, step.request = none) ∧
      Succeeds .standard (.transcript none) recording ∧
      ∃ t, held (.transcript .blank) (run .standard (.transcript none) recording) =
          .transcript t ∧ t.OverlaidBy .standard recording .blank := by
  have hsame : ∀ step ∈ recording, step.request = none := by simp [recording]
  have hall : (run .standard (.transcript none) recording).all (·.toOption.isSome) = true := by
    decide +kernel
  have hok : Succeeds .standard (.transcript none) recording := by
    intro result hresult
    obtain ⟨r, hr⟩ := Option.isSome_iff_exists.1 (List.all_eq_true.1 hall result hresult)
    exact ⟨r, Except.toOption_eq_some_iff.1 hr⟩
  exact ⟨hsame, hok, (overlaysFields .standard .plain recording hsame).transcript none hok⟩

end CanonicalReply
