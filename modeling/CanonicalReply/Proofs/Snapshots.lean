import CanonicalReply.Dict.Lemmas
import CanonicalReply.Proofs.Assembling

/-!
# What a snapshot shows

A failure that is wrapped carries a snapshot of the call.  It goes into logs that
others read, so it may show the shape of the call and must not show what went into
it: of the payload it has the first keys, counts the others and the choices, and of
the caller's response and the headers it says whether they were there.

* `keysOf`, `HasChoices`: what there is to show of a payload.
* `LookAlike`: two calls of the same shape.
* `describes_snapshot`: a snapshot shows the shape, at any limit on the keys.
* `snapshot_eq_of_lookAlike`: **and nothing else**: calls of the same shape have the
  same snapshot.
* `showsShapeAlone`: both of these, for every failure that is wrapped.
-/

namespace CanonicalReply

/-! ## The shape of a payload -/

/-- A payload has a key.  A payload that is absent has none. -/
def HasKey (payload : Option Payload) (key : String) : Prop :=
  ∃ p, payload = some p ∧ p.contains key = true

/-- The choices of a payload are a list of so many. -/
def HasChoices (payload : Option Payload) (n : Nat) : Prop :=
  ∃ p items, payload = some p ∧ p.get? "choices" = some (.arr items) ∧ items.length = n

/-- The keys of a payload, in order. -/
def keysOf (payload : Option Payload) : List String := (payload.map Dict.keys).getD []

section Shape

variable {payload payload' : Option Payload}

/-- For its keys a payload that is absent is as good as an empty one. -/
theorem keysOf_eq (payload : Option Payload) : keysOf payload = (payload.getD .empty).keys := by
  cases payload <;> rfl

theorem hasKey_iff {key : String} :
    HasKey payload key ↔ (payload.getD .empty).contains key = true := by
  cases payload with
  | none =>
    constructor
    · rintro ⟨_, ⟨⟩, -⟩
    · exact fun h => nomatch h
  | some p =>
    constructor
    · rintro ⟨_, ⟨⟩, h⟩
      exact h
    · exact fun h => ⟨p, rfl, h⟩

theorem mem_keysOf {key : String} : key ∈ keysOf payload ↔ HasKey payload key := by
  rw [keysOf_eq, Dict.mem_keys, hasKey_iff]

theorem pairwise_keysOf (payload : Option Payload) : (keysOf payload).Pairwise (· < ·) := by
  rw [keysOf_eq]
  exact Dict.pairwise_keys _

/-- Which keys a payload has decides in which order they come. -/
theorem keysOf_eq_of_hasKey_iff (h : ∀ key, HasKey payload key ↔ HasKey payload' key) :
    keysOf payload = keysOf payload' := by
  rw [keysOf_eq, keysOf_eq]
  refine Dict.keys_eq_of_contains_iff fun key => ?_
  rw [← hasKey_iff, ← hasKey_iff]
  exact h key

/-- The number of choices that a snapshot shows is that of a list. -/
theorem choiceCount_snapshot_eq_some_iff {s : Settings} {request : Request} {o : Options}
    {n : Nat} : (snapshot s payload request o).choiceCount = some n ↔ HasChoices payload n := by
  simp only [snapshot, HasChoices, Option.map_eq_some_iff, Option.bind_eq_some_iff]
  constructor
  · rintro ⟨items, ⟨v, ⟨p, hp, hv⟩, hitems⟩, hlength⟩
    cases v with
    | arr _ =>
      cases hitems
      exact ⟨p, items, hp, hv, hlength⟩
    | _ => cases hitems
  · rintro ⟨p, items, hp, hv, hlength⟩
    exact ⟨items, ⟨_, ⟨p, hp, hv⟩, rfl⟩, hlength⟩

end Shape

/-! ## What is shown -/

/-- What a snapshot tells about its call. -/
structure Snapshot.Describes (shape : Snapshot) (s : Settings) (payload : Option Payload)
    (request : Request) (o : Options) : Prop where
  kind_eq : shape.kind = request.kind
  stream_eq : shape.stream = o.stream
  hasTarget_eq : shape.hasTarget = request.hasTarget
  hasHeaders_eq : shape.hasHeaders = o.headers.isSome
  /-- The keys that are shown are the first ones. -/
  payloadKeys_prefix : shape.payloadKeys <+: keysOf payload
  /-- They are as many as the settings allow, or as there are. -/
  length_payloadKeys :
    shape.payloadKeys.length = min s.snapshotKeys.toNat (keysOf payload).length
  /-- Any other key comes behind them. -/
  lt_of_not_mem : ∀ shown ∈ shape.payloadKeys, ∀ key, HasKey payload key →
    key ∉ shape.payloadKeys → shown < key
  /-- The other keys are counted. -/
  omittedKeys_add : shape.omittedKeys + shape.payloadKeys.length = (keysOf payload).length
  /-- Choices are counted where they are a list. -/
  choiceCount_eq_some_iff : ∀ n, shape.choiceCount = some n ↔ HasChoices payload n
  /-- Where the program stood is not recorded. -/
  backtrace_eq : shape.backtrace = ""

section Snapshots

variable {s : Settings} {supply : Supply} {payload payload' : Option Payload}
  {request request' : Request} {o o' : Options}

/-- A snapshot shows the shape of its call. -/
theorem describes_snapshot (s : Settings) (payload : Option Payload) (request : Request)
    (o : Options) : (snapshot s payload request o).Describes s payload request o where
  kind_eq := rfl
  stream_eq := rfl
  hasTarget_eq := rfl
  hasHeaders_eq := rfl
  payloadKeys_prefix := List.take_prefix _ _
  length_payloadKeys := List.length_take
  lt_of_not_mem := by
    intro shown hshown key hkey hout
    have hparts : keysOf payload = (snapshot s payload request o).payloadKeys ++
        (keysOf payload).drop s.snapshotKeys.toNat := (List.take_append_drop _ _).symm
    have hordered := pairwise_keysOf payload
    have hmem := mem_keysOf.2 hkey
    rw [hparts] at hordered hmem
    have hrest := (List.mem_append.1 hmem).resolve_left hout
    exact (List.pairwise_append.1 hordered).2.2 shown hshown key hrest
  omittedKeys_add := by
    have htaken : (snapshot s payload request o).payloadKeys.length =
        min s.snapshotKeys.toNat (keysOf payload).length := List.length_take
    have homitted : (snapshot s payload request o).omittedKeys =
        (keysOf payload).length - s.snapshotKeys.toNat := rfl
    omega
  choiceCount_eq_some_iff := fun _ => choiceCount_snapshot_eq_some_iff
  backtrace_eq := rfl

/-! ## What is not shown -/

/-- Two calls look alike: the same is wanted of payloads with the same keys and as many
choices, and there is a response so far, and there are headers, in both calls or in
neither. -/
structure LookAlike (payload payload' : Option Payload) (request request' : Request)
    (o o' : Options) : Prop where
  kind_eq : request.kind = request'.kind
  stream_eq : o.stream = o'.stream
  hasTarget_eq : request.hasTarget = request'.hasTarget
  hasHeaders_eq : o.headers.isSome = o'.headers.isSome
  hasKey_iff : ∀ key, HasKey payload key ↔ HasKey payload' key
  hasChoices_iff : ∀ n, HasChoices payload n ↔ HasChoices payload' n

/-- **Calls that look alike** have the same snapshot, whatever went into them. -/
theorem snapshot_eq_of_lookAlike (h : LookAlike payload payload' request request' o o') :
    snapshot s payload request o = snapshot s payload' request' o' := by
  have hkeys : keysOf payload = keysOf payload' := keysOf_eq_of_hasKey_iff h.hasKey_iff
  have hchoices : (snapshot s payload request o).choiceCount =
      (snapshot s payload' request' o').choiceCount := by
    refine Option.ext fun n => ?_
    rw [choiceCount_snapshot_eq_some_iff, choiceCount_snapshot_eq_some_iff]
    exact h.hasChoices_iff n
  simp only [keysOf] at hkeys
  simp only [snapshot] at hchoices
  simp only [snapshot, h.kind_eq, h.stream_eq, h.hasTarget_eq, h.hasHeaders_eq, hkeys, hchoices]

/-- The snapshot in which a failure is wrapped is that of its call. -/
theorem shape_of_assemble_eq_error {shape : Snapshot} {source : Failure}
    (h : assemble s supply payload request o = .error (.assembly shape source)) :
    shape = snapshot s payload request o := by
  rcases assemble_eq_error h with ⟨-, status, message, he⟩ | ⟨-, source', -, he⟩
  · cases he
  · cases he
    rfl

/-- A snapshot shows the shape of its call and nothing else. -/
structure ShowsShapeAlone (s : Settings) (payload : Option Payload) (request : Request)
    (o : Options) (shape : Snapshot) : Prop where
  describes : shape.Describes s payload request o
  /-- A call that looks alike and fails as well is not told from this one, neither by its
  snapshot nor by the text of it. -/
  alike : ∀ (supply' : Supply) (payload' : Option Payload) (request' : Request) (o' : Options)
    (shape' : Snapshot) (source' : Failure), LookAlike payload payload' request request' o o' →
      assemble s supply' payload' request' o' = .error (.assembly shape' source') →
        shape' = shape ∧ shape'.message = shape.message

/-- **The shape alone**, of every call of any kind that fails on its own account, whatever
its payload, its response so far, its options and the settings. -/
theorem showsShapeAlone {shape : Snapshot} {source : Failure}
    (h : assemble s supply payload request o = .error (.assembly shape source)) :
    ShowsShapeAlone s payload request o shape := by
  have hshape := shape_of_assemble_eq_error h
  refine ⟨hshape ▸ describes_snapshot s payload request o, ?_⟩
  intro supply' payload' request' o' shape' source' halike h'
  have hsame : shape' = shape := by
    rw [hshape, shape_of_assemble_eq_error h', snapshot_eq_of_lookAlike halike]
  exact ⟨hsame, congrArg Snapshot.message hsame⟩

end Snapshots

/-! ## Two calls with different secrets -/

/-- The snapshot of a failure that is wrapped, and what is wrapped in it. -/
def wrapped? : Except Failure Response → Option (Snapshot × Failure)
  | .error (.assembly shape source) => some (shape, source)
  | _ => none

theorem eq_error_of_wrapped?_eq_some {result : Except Failure Response} {shape : Snapshot}
    {source : Failure} (h : wrapped? result = some (shape, source)) :
    result = .error (.assembly shape source) := by
  cases result with
  | ok r => cases h
  | error e =>
    cases e with
    | assembly shape' source' =>
      cases h
      rfl
    | _ => cases h

/-- Settings that let a snapshot show one key. -/
def sparing : Settings := { Settings.standard with snapshotKeys := 1 }

/-- A payload with a text that nobody else should see, also where a choice should be. -/
def sealedPayload (secret : String) : Payload :=
  .ofList [("api_key", .str secret), ("choices", .arr [.str secret])]

/-- A request that goes on from a completion with such a text. -/
def sealedRequest (secret : String) : Request := .completion (some (.blank secret 7))

/-- Options with such a text in a header. -/
def sealedOptions (secret : String) : Options :=
  { Options.none with headers := some (.ofList [("cookie", secret)]) }

theorem get?_sealedPayload (secret key : String) : (sealedPayload secret).get? key =
    if key = "api_key" then some (.str secret)
    else if key = "choices" then some (.arr [.str secret]) else none := by
  rw [sealedPayload, Dict.get?_ofList (by simp)]
  simp only [Dict.lookup_cons_eq_ite, List.lookup_nil]

theorem lookAlike_sealed (a b : String) :
    LookAlike (some (sealedPayload a)) (some (sealedPayload b)) (sealedRequest a)
      (sealedRequest b) (sealedOptions a) (sealedOptions b) where
  kind_eq := rfl
  stream_eq := rfl
  hasTarget_eq := rfl
  hasHeaders_eq := rfl
  hasKey_iff := by
    intro key
    simp only [hasKey_iff, Option.getD_some, Dict.contains, get?_sealedPayload]
    split
    · simp
    · split <;> simp
  hasChoices_iff := by
    intro n
    simp [HasChoices, get?_sealedPayload]

theorem showsShapeAlone_sealed :
    ∃ shape source shape' source',
      assemble sparing .plain (some (sealedPayload "sk-1")) (sealedRequest "sk-1")
          (sealedOptions "sk-1") = .error (.assembly shape source) ∧
        assemble sparing .plain (some (sealedPayload "sk-2")) (sealedRequest "sk-2")
          (sealedOptions "sk-2") = .error (.assembly shape' source') ∧
        source ≠ source' ∧
        ShowsShapeAlone sparing (some (sealedPayload "sk-1")) (sealedRequest "sk-1")
          (sealedOptions "sk-1") shape ∧
        shape' = shape ∧
        shape'.message = "received_args: kind=completion, stream=false, has_target=true, " ++
          "has_headers=true, payload_keys=[api_key] (+1 more), choices=1" := by
  have hfails : ∀ secret ∈ ["sk-1", "sk-2"],
      wrapped? (assemble sparing .plain (some (sealedPayload secret)) (sealedRequest secret)
          (sealedOptions secret)) =
        some (⟨.completion, false, ["api_key"], 1, some 1, true, true, ""⟩,
          .undecodable .choice ⟨.invalidType (.text secret) "struct RawChoice", none⟩) := by
    decide +kernel
  have hfirst := eq_error_of_wrapped?_eq_some (hfails "sk-1" (by simp))
  have hsecond := eq_error_of_wrapped?_eq_some (hfails "sk-2" (by simp))
  have hshows := showsShapeAlone hfirst
  obtain ⟨hsame, htext⟩ :=
    hshows.alike _ _ _ _ _ _ (lookAlike_sealed "sk-1" "sk-2") hsecond
  exact ⟨_, _, _, _, hfirst, hsecond, by simp, hshows, hsame, htext.trans (by decide +kernel)⟩

end CanonicalReply
