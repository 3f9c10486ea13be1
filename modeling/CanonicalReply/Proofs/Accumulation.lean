import CanonicalReply.Proofs.Assembling
import CanonicalReply.Proofs.RoutedModel

/-!
# What a run of completions adds up to

Completions are assembled one over the other.  What comes out in the end can be
said without the completions in between: every field has its own rule of when a
payload speaks of it, and the last step that speaks of it counts.

* `Step.id?`, `Step.usage?` and so on: what a step says about a field, read off
  its payload and its options.
* `Step.Says`, `Step.says_of_update`: **the step**: the update of a payload says
  just that.
* `Completion.Reaches`: a run of such steps, from one completion to another.
* `Completion.Reaches.eq_or`: **the run**, for any field that a step sets or
  leaves alone.
* `accumulates_of_run`: all fields of the last completion.
-/

namespace CanonicalReply

/-! ## What a step says -/

namespace Step

/-- The member of a step's payload with the given key. -/
def member (step : Step) (key : String) : Option Json := step.payload.bind (·.get? key)

/-- The usage, as far as it can be decoded.  A null says nothing. -/
def usage? (step : Step) : Option (Except Json.Fault Usage) :=
  ((step.member "usage").bind Json.nonNull?).map Usage.decode

/-- The id: a text that is not empty, or else one that is made up. -/
def id? (step : Step) : Option String :=
  (step.member "id").map fun v => (v.text?.filter (· ≠ "")).getD step.supply.replyId

/-- The time: a number other than zero, or else the present. -/
def created? (step : Step) : Option Int64 :=
  (step.member "created").map fun v =>
    ((Provider.unixSeconds v).filter (· ≠ 0)).getD step.supply.now

/-- The fingerprint.  A null says that there is none. -/
def fingerprint? (step : Step) : Option (Option String) :=
  (step.member "system_fingerprint").map Json.text?

/-- The name of the model. -/
def model? (step : Step) : Option String := (step.member "model").bind Json.text?

/-- A member beside those that have a field of their own, be it null. -/
def rest? (step : Step) (key : String) : Option Json :=
  if key ∈ Completion.keys then none else step.member key

/-- A parameter of the caller's. -/
def param? (step : Step) (key : String) : Option Json := step.options.params.bind (·.get? key)

/-- The headers as they are shown. -/
def shownHeaders? (s : Settings) (step : Step) : Option Headers :=
  step.options.headers.map (Headers.merged s.headerPrefix)

/-- What the last step says that says anything. -/
def lastSaid {β : Type} (said : Step → Option β) (steps : List Step) : Option β :=
  (steps.filterMap said).getLast?

/-- Later steps are asked first. -/
theorem lastSaid_cons {β : Type} (said : Step → Option β) (step : Step) (rest : List Step) :
    lastSaid said (step :: rest) = (lastSaid said rest).or (said step) := by
  unfold lastSaid
  cases h : said step with
  | none => simp [h]
  | some b =>
    rw [List.filterMap_cons_some h, List.getLast?_cons]
    cases (rest.filterMap said).getLast? <;> rfl

/-- The choices of a step are built from its payload, and from nothing else. -/
def BuildsChoices (s : Settings) (step : Step) (choices : List Choice) : Prop :=
  ∃ values, step.member "choices" = some (.arr values) ∧
    Provider.Message.eachAt
      (Choice.build s step.supply (step.options.jsonMode.getD s.jsonMode)) 0 values = .ok choices

/-- An update says what the step says. -/
structure Says (s : Settings) (step : Step) (u : Update) : Prop where
  choices : step.BuildsChoices s u.choices
  usage : u.usage.map .ok = step.usage?
  id : u.id = step.id?
  created : u.created = step.created?
  model : u.model.join = step.model?
  systemFingerprint : u.systemFingerprint = step.fingerprint?
  extra : ∀ key, u.extra.get? key = step.rest? key
  additionalHeaders : u.side.additionalHeaders = step.shownHeaders? s
  responseMs : u.side.responseMs = step.options.latency
  params : ∀ key, u.side.extra.get? key = step.param? key
  headers : u.headers = step.options.headers

/-! ## The update of a payload -/

/-- A text that may be null is read off its member. -/
theorem text?_orNull (o : Option String) : (Json.orNull (o.map .str)).text? = o := by
  cases o <;> rfl

theorem usage_map_ok {raw : Provider.Completion} {usage : Option Usage}
    (h : raw.decodedUsage = .ok usage) : usage.map .ok = raw.usage.map Usage.decode := by
  rcases Provider.Completion.decodedUsage_eq_ok_iff.1 h with ⟨hraw, rfl⟩ | ⟨v, u, hraw, hu, rfl⟩
  · rw [hraw]
    rfl
  · rw [hraw, Option.map_some, Option.map_some, hu]

theorem unixSeconds_nonNull (v : Json) :
    v.nonNull?.bind Provider.unixSeconds = Provider.unixSeconds v := by
  cases v <;> rfl

/-- **The step.**  The update of a payload says what the step says. -/
theorem says_of_update {s : Settings} {step : Step} {p : Payload} {u : Update}
    (hp : step.payload = some p)
    (h : Completion.update s step.supply p step.options = .ok u) : step.Says s u := by
  obtain ⟨raw, values, choices, usage, hraw, hvalues, hchoices, husage, rfl⟩ :=
    Completion.update_eq_ok_iff.1 h
  have hmember : ∀ key, step.member key = p.get? key := by
    intro key
    rw [member, hp, Option.bind_some]
  refine ⟨⟨values, ?_, hchoices⟩, ?_, ?_, ?_, ?_, ?_, ?_, rfl, rfl, ?_, rfl⟩
  · rw [hmember, hraw.get?_choices hvalues]
  · rw [usage?, hmember, ← hraw.usage]
    exact usage_map_ok husage
  · rw [id?, hmember, hraw.id, Option.map_map]
    show raw.id.map _ = _
    congr 1
    funext t
    rw [Completion.idOf, Provider.firstNonEmpty_singleton, Function.comp_apply, text?_orNull]
  · rw [created?, hmember]
    show raw.created.map _ = _
    rw [hraw.created, Option.map_map]
    congr 1
    funext v
    rw [Function.comp_apply, Completion.createdOf, unixSeconds_nonNull]
  · rw [model?, hmember, hraw.model]
    show raw.model.join = _
    cases raw.model with
    | none => rfl
    | some o => exact (text?_orNull o).symm
  · rw [fingerprint?, hmember, hraw.systemFingerprint, Option.map_map]
    show raw.systemFingerprint = _
    cases raw.systemFingerprint with
    | none => rfl
    | some o => exact congrArg some (text?_orNull o).symm
  · intro key
    show raw.extra.get? key = _
    rw [hraw.extra, Dict.get?_filterKeys, rest?, hmember]
    by_cases hkey : key ∈ Completion.keys <;> simp [hkey]
  · intro key
    rw [param?]
    show ((step.options.params.map SideChannel.ofParams).getD .empty).extra.get? key = _
    cases step.options.params <;> rfl

end Step

/-! ## Runs of steps -/

namespace Completion

/-- A completion comes from another one by steps whose updates are laid over it,
one after the other. -/
inductive Reaches (s : Settings) : Completion → List Step → Completion → Prop
  | done (c : Completion) : Reaches s c [] c
  | step {c d : Completion} {step : Step} {u : Update} {rest : List Step} :
      step.Says s u → Reaches s (c.apply u) rest d → Reaches s c (step :: rest) d

section Reaches

variable {s : Settings} {start c : Completion} {steps : List Step} {β : Type}

/-- **The run.**  Where a step sets a field or leaves it alone, the last step that
sets it counts. -/
theorem Reaches.eq_or (field : Completion → Option β) (said : Step → Option β)
    (hstep : ∀ {c step u}, Step.Says s step u → field (c.apply u) = (said step).or (field c))
    (h : Reaches s start steps c) :
    field c = (Step.lastSaid said steps).or (field start) := by
  induction h with
  | done c => rfl
  | step hsays _ ih => rw [ih, hstep hsays, Step.lastSaid_cons, Option.or_assoc]

/-- The same for a field that always has a value. -/
theorem Reaches.eq_getD (field : Completion → β) (said : Step → Option β)
    (hstep : ∀ {c step u}, Step.Says s step u → field (c.apply u) = (said step).getD (field c))
    (h : Reaches s start steps c) :
    field c = (Step.lastSaid said steps).getD (field start) := by
  have hor : some (field c) = (Step.lastSaid said steps).or (some (field start)) := by
    refine h.eq_or (fun c => some (field c)) said fun {c step u} hsays => ?_
    rw [hstep hsays]
    cases said step <;> rfl
  cases hlast : Step.lastSaid said steps <;> simpa [hlast] using hor

/-- The name of the model is merged step by step. -/
theorem Reaches.model_eq (h : Reaches s start steps c) :
    c.model = (steps.map Step.model?).foldl mergeModel start.model := by
  induction h with
  | done c => rfl
  | step hsays _ ih => rw [ih, model_apply, hsays.model, List.map_cons, List.foldl_cons]

theorem Reaches.object_eq (h : Reaches s start steps c) : c.object = start.object := by
  induction h with
  | done c => rfl
  | step _ _ ih => exact ih

/-- The last step has the last word about the choices. -/
theorem Reaches.choices {last : Step} (h : Reaches s start steps c)
    (hlast : steps.getLast? = some last) : last.BuildsChoices s c.choices := by
  induction h with
  | done c => cases hlast
  | @step c d step u rest hsays hrest ih =>
    cases rest with
    | nil =>
      cases hrest
      cases hlast
      exact hsays.choices
    | cons next rest => exact ih (by simpa [List.getLast?_cons] using hlast)

end Reaches

/-- A completion adds up what the steps say about each field, on top of the
completion that they start from. -/
structure Accumulates (c : Completion) (s : Settings) (start : Completion) (steps : List Step)
    (last : Step) : Prop where
  /-- The choices are those of the last step alone. -/
  choices : last.BuildsChoices s c.choices
  usage : c.usage.map Except.ok = (Step.lastSaid Step.usage? steps).or (start.usage.map .ok)
  id : c.id = (Step.lastSaid Step.id? steps).getD start.id
  created : c.created = (Step.lastSaid Step.created? steps).getD start.created
  model : c.model = (steps.map Step.model?).foldl mergeModel start.model
  systemFingerprint : c.systemFingerprint =
    (Step.lastSaid Step.fingerprint? steps).getD start.systemFingerprint
  object : c.object = start.object
  extra : ∀ key, c.extra.get? key = (Step.lastSaid (·.rest? key) steps).or (start.extra.get? key)
  params : ∀ key,
    c.side.extra.get? key = (Step.lastSaid (·.param? key) steps).or (start.side.extra.get? key)
  responseMs : c.side.responseMs =
    (Step.lastSaid (·.options.latency) steps).or start.side.responseMs
  headers : c.headers = (Step.lastSaid (·.options.headers) steps).or start.headers
  additionalHeaders : c.side.additionalHeaders =
    (Step.lastSaid (Step.shownHeaders? s) steps).or start.side.additionalHeaders

theorem Reaches.accumulates {s : Settings} {start c : Completion} {steps : List Step} {last : Step}
    (h : Reaches s start steps c) (hlast : steps.getLast? = some last) :
    c.Accumulates s start steps last where
  choices := h.choices hlast
  usage := h.eq_or (·.usage.map .ok) Step.usage? fun hsays => by
    rw [← hsays.usage, apply, Option.map_or]
  id := h.eq_getD (·.id) Step.id? fun hsays => by rw [← hsays.id, apply]
  created := h.eq_getD (·.created) Step.created? fun hsays => by rw [← hsays.created, apply]
  model := h.model_eq
  systemFingerprint := h.eq_getD (·.systemFingerprint) Step.fingerprint? fun hsays => by
    rw [← hsays.systemFingerprint, apply]
  object := h.object_eq
  extra := fun key => h.eq_or (·.extra.get? key) (·.rest? key) fun hsays => by
    rw [← hsays.extra, apply, Dict.get?_overlay]
  params := fun key => h.eq_or (·.side.extra.get? key) (·.param? key) fun hsays => by
    rw [← hsays.params, apply, SideChannel.overlay, Dict.get?_overlay]
  responseMs := h.eq_or (·.side.responseMs) (·.options.latency) fun hsays => by
    rw [← hsays.responseMs, apply, SideChannel.overlay]
  headers := h.eq_or (·.headers) (·.options.headers) fun hsays => by rw [← hsays.headers, apply]
  additionalHeaders := h.eq_or (·.side.additionalHeaders) (Step.shownHeaders? s) fun hsays => by
    rw [← hsays.additionalHeaders, apply, SideChannel.overlay]

end Completion

/-! ## Runs of assemblies -/

/-- A run of completions of which none fails reaches its last one from the
caller's, or from a blank one. -/
theorem reaches_of_run {s : Settings} {target : Option Completion} {steps : List Step}
    (hsteps : steps ≠ [])
    (hplain : ∀ step ∈ steps, step.request = none ∧ step.options.stream = false)
    (hok : ∀ result ∈ run s (.completion target) steps, ∃ r, result = .ok r) :
    ∃ c, (run s (.completion target) steps).getLast? = some (.ok (.completion c)) ∧
      Completion.Reaches s (target.getD (.fresh (steps.head hsteps).supply)) steps c := by
  induction steps generalizing target with
  | nil => exact absurd rfl hsteps
  | cons step rest ih =>
    obtain ⟨hrequest, hstream⟩ := hplain step (List.mem_cons_self ..)
    rw [run, hrequest, Option.getD_none] at hok ⊢
    obtain ⟨r, hr⟩ := hok _ (List.mem_cons_self ..)
    obtain ⟨p, c, hp, -, hc, rfl⟩ := (assemble_completion_eq_ok_iff hstream).1 hr
    obtain ⟨u, hu, rfl⟩ := Except.map_eq_ok_iff.1 hc
    have hsays := Step.says_of_update hp hu
    rw [hr] at hok ⊢
    cases rest with
    | nil => exact ⟨_, rfl, .step hsays (.done _)⟩
    | cons next rest =>
      have hrest : ∀ result ∈ run s (.completion (some (.merge step.supply target u)))
          (next :: rest), ∃ r, result = .ok r :=
        fun result hresult => hok result (List.mem_cons_of_mem _ hresult)
      obtain ⟨d, hlast, hreaches⟩ := ih (List.cons_ne_nil _ _)
        (fun step hstep => hplain step (List.mem_cons_of_mem _ hstep)) hrest
      exact ⟨d, by rw [List.getLast?_cons]; exact congrArg _ (congrArg (Option.getD · _) hlast),
        .step hsays hreaches⟩

/-- **What a run adds up to.**  Whatever the caller's completion, if any, whatever
the settings and however many steps: if none of them fails, the last completion
has in each field what the last step says that speaks of it. -/
theorem accumulates_of_run (s : Settings) (target : Option Completion) (steps : List Step)
    (hsteps : steps ≠ [])
    (hplain : ∀ step ∈ steps, step.request = none ∧ step.options.stream = false)
    (hok : ∀ result ∈ run s (.completion target) steps, ∃ r, result = .ok r) :
    ∃ c, (run s (.completion target) steps).getLast? = some (.ok (.completion c)) ∧
      c.Accumulates s (target.getD (.fresh (steps.head hsteps).supply)) steps
        (steps.getLast hsteps) := by
  obtain ⟨c, hlast, hreaches⟩ := reaches_of_run hsteps hplain hok
  exact ⟨c, hlast, hreaches.accumulates (List.getLast?_eq_some_getLast hsteps)⟩

/-- A completion that a caller has set up before the first payload comes. -/
def routedReply : Completion :=
  { Completion.blank "r" 7 with
    model := some "azure/m"
    usage := some (.ofCounts 1 2 3)
    systemFingerprint := some "fp"
    extra := .ofList [("seed", .num (.int 4))] }

/-- Three steps over it.  The first one brings an empty id, a usage and headers, the
second one takes the fingerprint away, and the third one has a choice and says
nothing else. -/
def spokenSteps : List Step :=
  [⟨.plain, none, some (.ofList [("id", .str ""), ("note", .null), ("choices", .arr []),
      ("usage", .obj [("total_tokens", .num (.int 5))])]),
      { Options.none with
        headers := some (.ofList [("date", "now")])
        params := some (.ofList [("trace", .bool true)]) }⟩,
    ⟨.plain, none, some (.ofList [("created", .null), ("model", .str "n/o"), ("choices", .arr []),
      ("system_fingerprint", .null)]), .none⟩,
    ⟨.plain, none, some (.ofList [("usage", .null), ("choices", .arr [.obj [
      ("message", .obj [("content", .str "hi")])]])]), .none⟩]

theorem accumulates_of_run_spokenSteps :
    (∀ step ∈ spokenSteps, step.request = none ∧ step.options.stream = false) ∧
      (∀ result ∈ run .standard (.completion (some routedReply)) spokenSteps,
        ∃ r, result = .ok r) ∧
      ∃ c, (run .standard (.completion (some routedReply)) spokenSteps).getLast? =
          some (.ok (.completion c)) ∧
        c.Accumulates .standard routedReply spokenSteps
          (spokenSteps.getLast (List.cons_ne_nil _ _)) := by
  have hplain : ∀ step ∈ spokenSteps, step.request = none ∧ step.options.stream = false := by
    simp [spokenSteps, Options.none]
  have hall : (run .standard (.completion (some routedReply)) spokenSteps).all
      (·.toOption.isSome) = true := by decide +kernel
  have hok : ∀ result ∈ run .standard (.completion (some routedReply)) spokenSteps,
      ∃ r, result = .ok r := by
    intro result hresult
    obtain ⟨r, hr⟩ := Option.isSome_iff_exists.1 (List.all_eq_true.1 hall result hresult)
    exact ⟨r, Except.toOption_eq_some_iff.1 hr⟩
  exact ⟨hplain, hok, accumulates_of_run .standard (some routedReply) spokenSteps
    (List.cons_ne_nil _ _) hplain hok⟩

end CanonicalReply
