import CanonicalReply.Assembly.Update
import CanonicalReply.Proofs.Outcome

/-!
# The name of the model, over whole runs

A completion keeps the name of its model once it has one.  Only what stands
behind the provider's segment gives way to the names that payloads bring, and the
segment itself stays for good.

* `Completion.provider?_eq_some_iff`: the provider's segment ends at the first
  slash.
* `Completion.model_apply`: **the step**: an update sees nothing of a completion
  but its name, and a null is the same as silence.
* `Completion.foldl_mergeModel_plain`, `Completion.foldl_mergeModel_routed`,
  `Completion.foldl_mergeModel_absent`: where a run of names ends, by what it
  starts from.
* `Completion.routesModel`: **the run**, for updates with whatever else in them.
-/

namespace CanonicalReply.Completion

/-! ## The provider's segment -/

theorem provider?_eq_none_iff {name : String} : provider? name = none ↔ '/' ∉ name.toList := by
  simp [provider?]

theorem provider?_append {provider : String} (h : '/' ∉ provider.toList) (rest : String) :
    provider? (provider ++ "/" ++ rest) = some provider := by
  have hlist : (provider ++ "/" ++ rest).toList = provider.toList ++ '/' :: rest.toList := by simp
  have hall : ∀ c ∈ provider.toList, decide (c ≠ '/') = true := by
    intro c hc
    simpa using fun (hslash : c = '/') => h (hslash ▸ hc)
  have htake : (provider.toList ++ '/' :: rest.toList).takeWhile (· ≠ '/') = provider.toList := by
    rw [List.takeWhile_append_of_pos hall, List.takeWhile_cons, if_neg (by simp), List.append_nil]
  rw [provider?, hlist, htake, if_pos (by simp), String.ofList_toList]

/-- A name with a slash is a segment without one, the slash and the rest. -/
theorem exists_eq_append_of_slash {name : String} (h : '/' ∈ name.toList) :
    ∃ provider rest, '/' ∉ provider.toList ∧ name = provider ++ "/" ++ rest := by
  obtain ⟨as, bs, hsplit, has⟩ := List.eq_append_cons_of_mem h
  refine ⟨String.ofList as, String.ofList bs, by rwa [String.toList_ofList], ?_⟩
  rw [← String.toList_inj, hsplit]
  simp

/-- **The segment** is what stands in front of the first slash. -/
theorem provider?_eq_some_iff {name provider : String} :
    provider? name = some provider ↔
      '/' ∉ provider.toList ∧ ∃ rest, name = provider ++ "/" ++ rest := by
  constructor
  · intro h
    have hslash : '/' ∈ name.toList := by
      refine Classical.byContradiction fun hno => ?_
      rw [provider?_eq_none_iff.2 hno] at h
      cases h
    obtain ⟨segment, rest, hsegment, rfl⟩ := exists_eq_append_of_slash hslash
    rw [provider?_append hsegment] at h
    cases h
    exact ⟨hsegment, rest, rfl⟩
  · rintro ⟨hprovider, rest, rfl⟩
    exact provider?_append hprovider rest

/-! ## One name after the other -/

@[simp] theorem mergeModel_none_right (existing : Option String) :
    mergeModel existing none = existing := by
  cases existing <;> rfl

theorem mergeModel_plain {name : String} (h : '/' ∉ name.toList) (incoming : Option String) :
    mergeModel (some name) incoming = some name := by
  cases incoming with
  | none => rfl
  | some m => rw [mergeModel, provider?_eq_none_iff.2 h]

theorem mergeModel_routed {provider : String} (h : '/' ∉ provider.toList) (rest m : String) :
    mergeModel (some (provider ++ "/" ++ rest)) (some m) = some (provider ++ "/" ++ m) := by
  rw [mergeModel, provider?_append h]

/-- A name without a slash stays. -/
theorem foldl_mergeModel_plain {name : String} (h : '/' ∉ name.toList)
    (incoming : List (Option String)) : incoming.foldl mergeModel (some name) = some name := by
  induction incoming with
  | nil => rfl
  | cons m rest ih => rw [List.foldl_cons, mergeModel_plain h, ih]

/-- Behind a provider stands the last name that came in. -/
theorem foldl_mergeModel_routed {provider : String} (h : '/' ∉ provider.toList) (behind : String)
    (incoming : List (Option String)) :
    incoming.foldl mergeModel (some (provider ++ "/" ++ behind)) =
      some (provider ++ "/" ++ (incoming.filterMap fun m => m).getLast?.getD behind) := by
  induction incoming generalizing behind with
  | nil => rfl
  | cons m rest ih =>
    cases m with
    | none => rw [List.foldl_cons, mergeModel_none_right, ih]; rfl
    | some m =>
      rw [List.foldl_cons, mergeModel_routed h, ih]
      simp [List.getLast?_cons]

example : [some "n/o", none, some "p"].foldl mergeModel (some "azure/m/x") = some "azure/p" := by
  decide +kernel

/-- Without a name there is none until one comes in. -/
theorem foldl_mergeModel_absent {incoming : List (Option String)}
    (h : incoming.filterMap (fun m => m) = []) : incoming.foldl mergeModel none = none := by
  induction incoming with
  | nil => rfl
  | cons m rest ih =>
    cases m with
    | none => exact ih (by simpa using h)
    | some m => simp at h

/-! ## Updates -/

/-- The name of a model where the caller may have no completion. -/
def modelOf (existing : Option Completion) : Option String := existing.bind (·.model)

/-- The completion after updates that are merged one after the other, each under
a supply of its own. -/
def mergeAll (existing : Option Completion) (updates : List (Supply × Update)) :
    Option Completion :=
  updates.foldl (fun c u => some (merge u.1 c u.2)) existing

/-- The names that updates bring, in order; a null brings none. -/
def incomingModels (updates : List (Supply × Update)) : List String :=
  updates.filterMap fun u => u.2.model.join

/-- **The step.**  An update sees nothing of a completion but its name. -/
theorem model_apply (c : Completion) (u : Update) :
    (c.apply u).model = mergeModel c.model u.model.join := by
  cases hmodel : u.model with
  | none => simp [apply, hmodel]
  | some incoming => simp [apply, hmodel]

theorem modelOf_merge (supply : Supply) (existing : Option Completion) (u : Update) :
    modelOf (some (merge supply existing u)) = mergeModel (modelOf existing) u.model.join := by
  cases existing with
  | none => exact model_apply (fresh supply) u
  | some c => exact model_apply c u

theorem modelOf_mergeAll (existing : Option Completion) (updates : List (Supply × Update)) :
    modelOf (mergeAll existing updates) =
      (updates.map (·.2.model.join)).foldl mergeModel (modelOf existing) := by
  induction updates generalizing existing with
  | nil => rfl
  | cons u rest ih =>
    rw [List.map_cons, List.foldl_cons, ← modelOf_merge u.1]
    exact ih (some (merge u.1 existing u.2))

theorem filterMap_join (updates : List (Supply × Update)) :
    (updates.map (·.2.model.join)).filterMap (fun m => m) = incomingModels updates := by
  rw [List.filterMap_map]
  rfl

theorem mergeAll_append (existing : Option Completion) (before after : List (Supply × Update)) :
    mergeAll existing (before ++ after) = mergeAll (mergeAll existing before) after :=
  List.foldl_append

/-- Where a run of updates leads the name of a model. -/
structure RoutesModel (existing : Option Completion) (updates : List (Supply × Update)) : Prop where
  /-- A name without a slash stays. -/
  plain : ∀ name, modelOf existing = some name → '/' ∉ name.toList →
    modelOf (mergeAll existing updates) = some name
  /-- Of a name with one, what stands in front of the first slash stays, and the
  last name that came in stands behind it. -/
  routed : ∀ name, modelOf existing = some name → '/' ∈ name.toList →
    ∃ provider rest, '/' ∉ provider.toList ∧ name = provider ++ "/" ++ rest ∧
      (incomingModels updates = [] → modelOf (mergeAll existing updates) = some name) ∧
      ∀ m, (incomingModels updates).getLast? = some m →
        modelOf (mergeAll existing updates) = some (provider ++ "/" ++ m)
  /-- No name comes from nowhere. -/
  absent : modelOf existing = none → incomingModels updates = [] →
    modelOf (mergeAll existing updates) = none
  /-- The first name that comes in is adopted, and the run goes on as one that
  started from it. -/
  adopted : modelOf existing = none → ∀ before u after m, updates = before ++ u :: after →
    incomingModels before = [] → u.2.model = some (some m) →
      modelOf (mergeAll existing before) = none ∧
        modelOf (mergeAll existing (before ++ [u])) = some m ∧
          ∀ c : Completion, c.model = some m →
            modelOf (mergeAll existing updates) = modelOf (mergeAll (some c) after)
  /-- A provider is never changed and never lost. -/
  provider_kept : ∀ name provider, modelOf existing = some name →
    provider? name = some provider →
      ∃ name', modelOf (mergeAll existing updates) = some name' ∧ provider? name' = some provider

/-- Where a name has a provider, a run leaves the last name that came in behind
it. -/
theorem modelOf_mergeAll_routed {existing : Option Completion} {provider rest : String}
    (hprovider : '/' ∉ provider.toList)
    (h : modelOf existing = some (provider ++ "/" ++ rest)) (updates : List (Supply × Update)) :
    modelOf (mergeAll existing updates) =
      some (provider ++ "/" ++ (incomingModels updates).getLast?.getD rest) := by
  rw [modelOf_mergeAll, h, foldl_mergeModel_routed hprovider, filterMap_join]

/-- Where there is no name, a run without names leaves none. -/
theorem modelOf_mergeAll_absent {existing : Option Completion} (h : modelOf existing = none)
    {updates : List (Supply × Update)} (hincoming : incomingModels updates = []) :
    modelOf (mergeAll existing updates) = none := by
  rw [modelOf_mergeAll, h]
  exact foldl_mergeModel_absent ((filterMap_join updates).trans hincoming)

/-- **The run.**  Whatever the completion that a run starts from, if any, and
whatever its updates: the name of the model at its end is known from the one at
its start and the names that came in. -/
theorem routesModel (existing : Option Completion) (updates : List (Supply × Update)) :
    RoutesModel existing updates where
  plain := by
    intro name hname hslash
    rw [modelOf_mergeAll, hname, foldl_mergeModel_plain hslash]
  routed := by
    intro name hname hslash
    obtain ⟨provider, rest, hprovider, rfl⟩ := exists_eq_append_of_slash hslash
    have hend := modelOf_mergeAll_routed hprovider hname updates
    refine ⟨provider, rest, hprovider, rfl, ?_, ?_⟩
    · intro hnone
      rw [hend, hnone]
      rfl
    · intro m hm
      rw [hend, hm]
      rfl
  absent := fun hnone hincoming => modelOf_mergeAll_absent hnone hincoming
  adopted := by
    rintro hnone before u after m rfl hbefore hm
    have hsilent := modelOf_mergeAll_absent hnone hbefore
    have hadopted : modelOf (some (merge u.1 (mergeAll existing before) u.2)) = some m := by
      rw [modelOf_merge, hsilent, hm]
      rfl
    refine ⟨hsilent, ?_, ?_⟩
    · rw [mergeAll_append]
      exact hadopted
    · intro c hc
      have hstep : mergeAll existing (before ++ u :: after) =
          mergeAll (some (merge u.1 (mergeAll existing before) u.2)) after :=
        mergeAll_append existing before (u :: after)
      have hstart : modelOf (some c) = some m := hc
      rw [hstep, modelOf_mergeAll, modelOf_mergeAll, hadopted, hstart]
  provider_kept := by
    intro name provider hname hsegment
    obtain ⟨hprovider, rest, rfl⟩ := provider?_eq_some_iff.1 hsegment
    exact ⟨_, modelOf_mergeAll_routed hprovider hname updates, provider?_append hprovider _⟩

/-- An update that says nothing but the name of the model. -/
def ofModel (model : Option (Option String)) : Supply × Update :=
  (.plain, ⟨[], none, none, none, model, none, .empty, none, .empty⟩)

theorem routesModel_routed :
    modelOf (some { blank "r" 7 with model := some "azure/m" }) = some "azure/m" ∧
      provider? "azure/m" = some "azure" ∧
        ∃ name, modelOf (mergeAll (some { blank "r" 7 with model := some "azure/m" })
            [ofModel (some (some "n/o")), ofModel none, ofModel (some none)]) = some name ∧
          provider? name = some "azure" := by
  have hsegment : provider? "azure/m" = some "azure" := by decide +kernel
  have hroutes := routesModel (some { blank "r" 7 with model := some "azure/m" })
    [ofModel (some (some "n/o")), ofModel none, ofModel (some none)]
  exact ⟨rfl, hsegment, hroutes.provider_kept "azure/m" "azure" rfl hsegment⟩

end CanonicalReply.Completion
