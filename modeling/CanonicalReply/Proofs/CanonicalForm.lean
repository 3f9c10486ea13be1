import CanonicalReply.Proofs.Assembling

/-!
# The canonical form, along whole runs

A completion that an assembly gives has one form, whatever its provider sent:
everything that has to be named is named, finish reasons are in the four common
words wherever they are known, and the written headers are those of the raw ones.

* `Choice.IsCanonical`, `Completion.IsCanonical` — the form.
* `Choice.isCanonical_of_build` — a choice that is built has it.
* `Completion.isCanonical_merge` — **the step**: an update of a payload keeps it,
  whether it is laid over nothing or over a completion that has it.
* `isCanonical_of_mem_run` — **the run**: every response of a run of completions
  has it, however many steps fail on the way.
-/

namespace CanonicalReply

/-! ## Finish reasons -/

namespace FinishReason

/-- None of the common words is the word of a provider. -/
theorem lookup_meaning : ∀ e ∈ meanings, meanings.lookup e.2 = none := by
  decide

/-- A reason is its own meaning exactly when it is no provider's word. -/
theorem canonical_eq_self_iff {reason : String} :
    canonical reason = reason ↔ ∀ e ∈ meanings, reason ≠ e.1 := by
  have hnone : meanings.lookup reason = none ↔ ∀ e ∈ meanings, reason ≠ e.1 := by
    simp [List.lookup_eq_none_iff]
  rw [← hnone, canonical]
  cases h : meanings.lookup reason with
  | none => simp
  | some meaning =>
    simp only [Option.getD_some, reduceCtorEq, iff_false]
    rintro rfl
    obtain ⟨l₁, l₂, hsplit, -⟩ := List.lookup_eq_some_iff.1 h
    have hmem : (meaning, meaning) ∈ meanings := by
      rw [hsplit]
      exact List.mem_append_right _ (List.mem_cons_self ..)
    have := lookup_meaning _ hmem
    rw [h] at this
    cases this

/-- A meaning means itself. -/
theorem canonical_canonical (reason : String) :
    canonical (canonical reason) = canonical reason := by
  rw [canonical_eq_self_iff]
  cases h : meanings.lookup reason with
  | none =>
    have hself : canonical reason = reason := by rw [canonical, h]; rfl
    rw [hself]
    exact canonical_eq_self_iff.1 hself
  | some meaning =>
    obtain ⟨l₁, l₂, hsplit, -⟩ := List.lookup_eq_some_iff.1 h
    have hmem : (reason, meaning) ∈ meanings := by
      rw [hsplit]
      exact List.mem_append_right _ (List.mem_cons_self ..)
    have hcanonical : canonical reason = meaning := by rw [canonical, h]; rfl
    rw [hcanonical]
    simpa [List.lookup_eq_none_iff] using lookup_meaning _ hmem

end FinishReason

/-! ## Made-up ids -/

namespace Supply

theorem replyId_ne_empty (supply : Supply) : supply.replyId ≠ "" := by
  intro h
  have := congrArg String.toList h
  simp [replyId, Uuid.hyphenated] at this

theorem completionId_ne_empty (supply : Supply) : supply.completionId ≠ "" := by
  simp [completionId]

theorem callId_ne_empty (supply : Supply) (choice position : Nat) :
    supply.callId choice position ≠ "" := by
  simp [callId]

end Supply

/-! ## The form -/

/-- The canonical form of the choice at a position. -/
structure Choice.IsCanonical (s : Settings) (position : Nat) (c : Choice) : Prop where
  index_eq : c.index = position
  role_ne_empty : c.message.role ≠ ""
  finishReason_fixed : FinishReason.canonical c.finishReason = c.finishReason
  /-- No provider's word is left. -/
  finishReason_ne : ∀ e ∈ FinishReason.meanings, c.finishReason ≠ e.1
  callId_ne_empty : ∀ calls ∈ c.message.toolCalls, ∀ call ∈ calls, call.id ≠ ""
  /-- Where repair is wanted, no call packs others. -/
  callName_ne : s.repair = true →
    ∀ calls ∈ c.message.toolCalls, ∀ call ∈ calls, call.function.name ≠ ToolCall.parallelName

/-- The canonical form of a completion. -/
structure Completion.IsCanonical (s : Settings) (c : Completion) : Prop where
  id_ne_empty : c.id ≠ ""
  choices : ∀ (i : Nat) (choice : Choice), c.choices[i]? = some choice → choice.IsCanonical s i
  /-- No key that has a field is kept among the others. -/
  extra_eq_none : ∀ key ∈ Completion.keys, c.extra.get? key = none
  /-- The written headers are the raw ones, under the configured provider's name. -/
  headers_eq : c.side.additionalHeaders = c.headers.map (Headers.merged s.headerPrefix)

/-! ## Choices -/

/-- The role and the calls of a body: those of JSON mode, or those of the
message as it was sent. -/
theorem Choice.body_cases (jsonMode : Bool) (raw : Provider.Choice)
    (calls : Option (List ToolCall)) (expanded : Bool) :
    (∃ content, body jsonMode raw calls expanded = (.assistant content, FinishReason.stop)) ∨
      (body jsonMode raw calls expanded).1.role = raw.message.roleOrDefault ∧
        (body jsonMode raw calls expanded).1.toolCalls = calls := by
  cases h : jsonContent jsonMode raw.message calls expanded with
  | some content => exact .inl ⟨content, body_of_jsonContent_eq_some h⟩
  | none =>
    rw [body_of_jsonContent_eq_none h]
    exact .inr ⟨rfl, rfl⟩

/-- A choice that is built is in canonical form. -/
theorem Choice.isCanonical_of_build {s : Settings} {supply : Supply} {jsonMode : Bool}
    {position : Nat} {v : Json} {c : Choice} (h : build s supply jsonMode position v = .ok c) :
    c.IsCanonical s position := by
  obtain ⟨raw, whole, calls, expanded, -, hwhole, hcalls, rfl⟩ := build_eq_ok_iff.1 h
  have hfixed := FinishReason.canonical_canonical (body jsonMode raw calls expanded).2
  have hrole : (body jsonMode raw calls expanded).1.role ≠ "" := by
    rcases body_cases jsonMode raw calls expanded with ⟨content, hbody⟩ | ⟨hbody, -⟩
    · rw [hbody]
      exact (by decide : Message.assistantRole ≠ "")
    · rw [hbody]
      exact raw.message.roleOrDefault_ne_empty
  -- JSON mode leaves no calls, so those that are left are the effective ones
  have heffective : ∀ given ∈ (body jsonMode raw calls expanded).1.toolCalls,
      calls = some given := by
    intro given hgiven
    rcases body_cases jsonMode raw calls expanded with ⟨content, hbody⟩ | ⟨-, hbody⟩
    · rw [hbody] at hgiven
      cases hgiven
    · rw [← hbody]
      exact hgiven
  refine ⟨rfl, hrole, hfixed, FinishReason.canonical_eq_self_iff.1 hfixed, ?_, ?_⟩
  · intro given hgiven call hcall
    rw [heffective given hgiven] at hcalls
    cases whole with
    | none =>
      rcases effectiveCalls_eq_ok_iff.1 hcalls with ⟨-, hr⟩ | ⟨_, hsome, -⟩
      · cases hr
      · cases hsome
    | some before =>
      have hids : ∀ c ∈ before, c.id ≠ "" := fun c hc =>
        Provider.Message.id_ne_empty_of_wholeToolCalls
          (supply.callId_ne_empty position) hwhole hc
      exact id_ne_empty_of_effectiveCalls hids hcalls hcall
  · intro hs given hgiven call hcall
    rw [heffective given hgiven] at hcalls
    intro hname
    have hpacked := not_isPacked_of_effectiveCalls hs hcalls hcall
    rw [ToolCall.isPacked_eq_true_iff.2 hname] at hpacked
    cases hpacked

/-! ## Completions -/

namespace Completion

/-- **The step.**  What a payload's update is laid over, nothing or a completion
in canonical form, the result is in canonical form. -/
theorem isCanonical_merge {s : Settings} {supply : Supply} {payload : Payload} {o : Options}
    {target : Option Completion} {u : Update} (htarget : ∀ c ∈ target, c.IsCanonical s)
    (h : update s supply payload o = .ok u) : (merge supply target u).IsCanonical s := by
  obtain ⟨raw, values, choices, usage, hraw, -, hchoices, -, rfl⟩ := update_eq_ok_iff.1 h
  have hbase : (target.getD (fresh supply)).id ≠ "" ∧
      (∀ key ∈ keys, (target.getD (fresh supply)).extra.get? key = none) ∧
        (target.getD (fresh supply)).side.additionalHeaders =
          (target.getD (fresh supply)).headers.map (Headers.merged s.headerPrefix) := by
    cases target with
    | none => exact ⟨supply.completionId_ne_empty, fun key _ => rfl, rfl⟩
    | some c =>
      obtain ⟨hid, -, hextra, hheaders⟩ := htarget c rfl
      exact ⟨hid, hextra, hheaders⟩
  obtain ⟨hid, hextra, hheaders⟩ := hbase
  refine ⟨?_, ?_, ?_, ?_⟩
  · show ((raw.id.map (idOf supply)).getD _) ≠ ""
    cases raw.id with
    | none => exact hid
    | some id => exact Provider.firstNonEmpty_getD_ne_empty supply.replyId_ne_empty
  · intro i choice hi
    obtain ⟨v, -, hbuild⟩ := Provider.Message.exists_of_eachAt hchoices hi
    rw [Nat.zero_add] at hbuild
    exact Choice.isCanonical_of_build hbuild
  · intro key hkey
    show (Dict.overlay _ raw.extra).get? key = none
    rw [Dict.get?_overlay, hextra key hkey, hraw.extra, Dict.get?_filterKeys,
      if_neg (by simp [hkey])]
    rfl
  · show Option.or (o.headers.map _) _ = Option.map _ (o.headers.or _)
    rw [hheaders]
    cases o.headers <;> rfl

/-- What is assembled over nothing or a completion in canonical form is in
canonical form. -/
theorem isCanonical_of_assemble {s : Settings} {supply : Supply} {payload : Payload} {o : Options}
    {target : Option Completion} {c : Completion} (htarget : ∀ c ∈ target, c.IsCanonical s)
    (h : assemble s supply payload target o = .ok c) : c.IsCanonical s := by
  obtain ⟨u, hu, rfl⟩ := Except.map_eq_ok_iff.1 h
  exact isCanonical_merge htarget hu

end Completion

/-! ## Runs -/

/-- **The step, for a caller.**  A completion that is no stream comes out in
canonical form. -/
theorem isCanonical_of_assemble_completion {s : Settings} {supply : Supply}
    {payload : Option Payload} {target : Option Completion} {o : Options} {r : Response}
    (htarget : ∀ c ∈ target, c.IsCanonical s) (hstream : o.stream = false)
    (h : assemble s supply payload (.completion target) o = .ok r) :
    ∃ c, r = .completion c ∧ c.IsCanonical s := by
  obtain ⟨p, c, -, -, hc, rfl⟩ := (assemble_completion_eq_ok_iff hstream).1 h
  exact ⟨c, rfl, Completion.isCanonical_of_assemble htarget hc⟩

/-- A run that goes on from a completion in canonical form, or from none, gives
completions in canonical form. -/
theorem isCanonical_of_mem_run_target {s : Settings} {steps : List Step}
    (hsteps : ∀ step ∈ steps, step.request = none ∧ step.options.stream = false)
    {target : Option Completion} (htarget : ∀ c ∈ target, c.IsCanonical s) {r : Response}
    (hr : .ok r ∈ run s (.completion target) steps) :
    ∃ c, r = .completion c ∧ c.IsCanonical s := by
  induction steps generalizing target with
  | nil => cases hr
  | cons step rest ih =>
    obtain ⟨hrequest, hstream⟩ := hsteps step (List.mem_cons_self ..)
    have hrest : ∀ step ∈ rest, step.request = none ∧ step.options.stream = false :=
      fun step hstep => hsteps step (List.mem_cons_of_mem _ hstep)
    rw [run, hrequest, Option.getD_none] at hr
    rcases List.mem_cons.1 hr with hnow | hlater
    · exact isCanonical_of_assemble_completion htarget hstream hnow.symm
    · cases hresult : assemble s step.supply step.payload (.completion target) step.options with
      | error e =>
        -- a failed step leaves the target
        rw [hresult] at hlater
        exact ih hrest htarget hlater
      | ok r' =>
        obtain ⟨c, rfl, hc⟩ := isCanonical_of_assemble_completion htarget hstream hresult
        rw [hresult] at hlater
        have htarget : ∀ c' ∈ some c, c'.IsCanonical s := by
          rintro _ ⟨⟩
          exact hc
        exact ih hrest htarget hlater

/-- **The run.**  Start with nothing and assemble completions one over the other:
however many steps there are, whatever their payloads and options, and whichever
of them fail, every completion that comes out is in canonical form. -/
theorem isCanonical_of_mem_run (s : Settings) (steps : List Step)
    (hsteps : ∀ step ∈ steps, step.request = none ∧ step.options.stream = false) (r : Response)
    (hr : .ok r ∈ run s (.completion none) steps) :
    ∃ c, r = .completion c ∧ c.IsCanonical s := by
  refine isCanonical_of_mem_run_target hsteps ?_ hr
  intro c hc
  cases hc

/-- The arguments of a call that packs one other. -/
def packedArguments : String :=
  "\x7b\"tool_uses\":[\x7b\"recipient_name\":\"f\",\"parameters\":\x7b\x7d\x7d]\x7d"

/-- Three steps: a packed call under an empty id, then nothing at all, then the
payload of a provider that has words of its own. -/
def threeSteps : List Step :=
  [⟨.plain, none, some (.ofList [("id", .str ""), ("seed", .num (.int 4)),
      ("choices", .arr [.obj [("finish_reason", .str "tool_use"),
        ("message", .obj [("role", .str ""), ("tool_calls", .arr [.obj [("function",
          .obj [("name", .str ToolCall.parallelName),
            ("arguments", .str packedArguments)])]])])]])]),
      { Options.none with headers := some (.ofList [("date", "now")]) }⟩,
    ⟨.plain, none, none, .none⟩,
    ⟨.plain, none, some (.ofList [("choices", .arr [.obj [("finish_reason", .str "MAX_TOKENS"),
        ("message", .obj [])]])]), .none⟩]

/-- What the third step gives: its own choice, the rest of the first step. -/
def thirdReply : Completion :=
  { Completion.blank Supply.plain.replyId 1 with
    choices := [⟨0, "length", ⟨Message.assistantRole, none, none, none, none⟩, none, none⟩]
    extra := .ofList [("seed", .num (.int 4))]
    side := ⟨some (.ofList [("llm_provider-date", "now")]), none, .empty⟩
    headers := some (.ofList [("date", "now")]) }

theorem isCanonical_of_mem_run_threeSteps :
    .ok (.completion thirdReply) ∈ run .standard (.completion none) threeSteps ∧
      ∃ c, .completion thirdReply = Response.completion c ∧ c.IsCanonical .standard := by
  have hthird : ∃ result ∈ run .standard (.completion none) threeSteps,
      result.toOption = some (.completion thirdReply) := by decide +kernel
  obtain ⟨result, hmem, hok⟩ := hthird
  rw [Except.toOption_eq_some_iff.1 hok] at hmem
  have hsteps : ∀ step ∈ threeSteps, step.request = none ∧ step.options.stream = false := by
    simp [threeSteps, Options.none]
  exact ⟨hmem, isCanonical_of_mem_run .standard threeSteps hsteps _ hmem⟩

end CanonicalReply
