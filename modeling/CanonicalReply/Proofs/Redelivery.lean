import CanonicalReply.Proofs.RoutedModel
import CanonicalReply.Proofs.SideChannels

/-!
# Updates that are delivered twice

An update that is delivered again finds a completion that already took it.  What
it sets, it has set; what it lays over a map, lies there.  Only the name of the
model is made from itself: a name that was adopted whole, provider and all, is
taken for one with a provider in front of it when it comes a second time.

* `Completion.apply_apply`: all fields but the model's name are at rest after one
  delivery.
* `Completion.mergeModel_again_iff`: when the name is.
* `Completion.takesAgain`: **one delivery and the next**, and any number of
  deliveries behind them.
-/

namespace CanonicalReply

namespace Completion

/-! ## The name of the model -/

/-- A name that is there already takes an update once. -/
theorem mergeModel_again_some (name : String) (incoming : Option String) :
    mergeModel (mergeModel (some name) incoming) incoming = mergeModel (some name) incoming := by
  by_cases hslash : '/' ∈ name.toList
  · obtain ⟨provider, rest, hprovider, rfl⟩ := exists_eq_append_of_slash hslash
    cases incoming with
    | none => rfl
    | some m => rw [mergeModel_routed hprovider, mergeModel_routed hprovider]
  · have hstays := mergeModel_plain hslash incoming
    rw [hstays, hstays]

/-- A name with a provider that meets itself comes to stand behind that provider. -/
theorem mergeModel_itself {provider : String} (h : '/' ∉ provider.toList) (rest : String) :
    mergeModel (some (provider ++ "/" ++ rest)) (some (provider ++ "/" ++ rest)) =
      some (provider ++ "/" ++ (provider ++ "/" ++ rest)) :=
  mergeModel_routed h rest _

theorem provider_append_ne (provider m : String) : provider ++ "/" ++ m ≠ m := by
  intro h
  have hlength := congrArg String.length h
  have hslash : "/".length = 1 := rfl
  rw [String.length_append, String.length_append, hslash] at hlength
  omega

/-- **The name** is at rest after one delivery, unless it was adopted with its
provider. -/
theorem mergeModel_again_iff {existing incoming : Option String} :
    mergeModel (mergeModel existing incoming) incoming = mergeModel existing incoming ↔
      ¬ (existing = none ∧ ∃ m, incoming = some m ∧ '/' ∈ m.toList) := by
  cases existing with
  | some name =>
    refine iff_of_true (mergeModel_again_some name incoming) ?_
    rintro ⟨hnone, -⟩
    cases hnone
  | none =>
    cases incoming with
    | none =>
      refine iff_of_true rfl ?_
      rintro ⟨-, m, hm, -⟩
      cases hm
    | some m =>
      have hadopted : mergeModel none (some m) = some m := rfl
      rw [hadopted]
      by_cases hslash : '/' ∈ m.toList
      · refine iff_of_false ?_ fun h => h ⟨rfl, m, rfl, hslash⟩
        obtain ⟨provider, rest, hprovider, rfl⟩ := exists_eq_append_of_slash hslash
        rw [mergeModel_itself hprovider]
        exact fun h => provider_append_ne provider _ (Option.some.inj h)
      · refine iff_of_true (mergeModel_plain hslash _) ?_
        rintro ⟨-, n, hn, hmem⟩
        cases hn
        exact hslash hmem

/-! ## The whole completion -/

/-- **The step.**  The second delivery of an update changes nothing but, perhaps,
the name of the model. -/
theorem apply_apply (c : Completion) (u : Update) :
    (c.apply u).apply u = { c.apply u with model := ((c.apply u).apply u).model } := by
  have hside : (c.side.overlay u.side).overlay u.side = c.side.overlay u.side := by
    rw [SideChannel.overlay_assoc, SideChannel.overlay_self]
  have hextra : (c.extra.overlay u.extra).overlay u.extra = c.extra.overlay u.extra := by
    rw [Dict.overlay_assoc, Dict.overlay_self]
  have husage : u.usage.or (u.usage.or c.usage) = u.usage.or c.usage := by
    rw [← Option.or_assoc, Option.or_self]
  have hheaders : u.headers.or (u.headers.or c.headers) = u.headers.or c.headers := by
    rw [← Option.or_assoc, Option.or_self]
  have hgetD : ∀ {β : Type} (o : Option β) (b : β), o.getD (o.getD b) = o.getD b := by
    intro β o b
    cases o <;> rfl
  simp only [apply, hside, hextra, husage, hheaders, hgetD]

/-- An update gives a completion its first name, and that name has a provider. -/
def NamesRouted (existing : Option Completion) (u : Update) : Prop :=
  modelOf existing = none ∧ ∃ m, u.model = some (some m) ∧ '/' ∈ m.toList

/-- The completion after an update is at rest where the name of its model is. -/
theorem apply_eq_self_iff (supply : Supply) (existing : Option Completion) (u : Update) :
    (merge supply existing u).apply u = merge supply existing u ↔ ¬ NamesRouted existing u := by
  have honce : (merge supply existing u).model = mergeModel (modelOf existing) u.model.join :=
    modelOf_merge supply existing u
  have htwice := model_apply (merge supply existing u) u
  have hrouted : NamesRouted existing u ↔
      modelOf existing = none ∧ ∃ m, u.model.join = some m ∧ '/' ∈ m.toList := by
    simp only [NamesRouted, Option.join_eq_some_iff]
  have hwhole : (merge supply existing u).apply u = merge supply existing u ↔
      ((merge supply existing u).apply u).model = (merge supply existing u).model := by
    constructor
    · intro h
      rw [h]
    · intro h
      have hstep := apply_apply (existing.getD (fresh supply)) u
      exact hstep.trans (congrArg (fun m => { merge supply existing u with model := m }) h)
  rw [hwhole, hrouted, htwice, honce, mergeModel_again_iff]

/-- What becomes of a completion by an update that is delivered once and twice. -/
structure TakesAgain (existing : Option Completion) (u : Update) (once twice : Completion) :
    Prop where
  /-- The second delivery shows only where the first one brought a first name with
  a provider. -/
  same_iff : twice = once ↔ ¬ NamesRouted existing u
  /-- It shows in the name of the model alone. -/
  elsewhere : twice = { once with model := twice.model }
  /-- The provider, which ends at the first slash, then stands in front of the whole
  name. -/
  routed : ∀ m, modelOf existing = none → u.model = some (some m) → '/' ∈ m.toList →
    ∃ provider rest, '/' ∉ provider.toList ∧ m = provider ++ "/" ++ rest ∧
      once.model = some m ∧ twice.model = some (provider ++ "/" ++ m)
  /-- However often the update is delivered behind these, nothing changes. -/
  settled : ∀ later : List Supply, mergeAll (some twice) (later.map (·, u)) = some twice

/-- After the second delivery everything is at rest. -/
theorem apply_apply_apply (c : Completion) (u : Update) :
    ((c.apply u).apply u).apply u = (c.apply u).apply u := by
  refine (apply_eq_self_iff .plain (some (c.apply u)) u).2 ?_
  rintro ⟨hnone, m, hm, -⟩
  -- a name that came in once is still there
  have hname : (c.apply u).model = mergeModel c.model (some m) := by rw [model_apply, hm]; rfl
  have habsent : mergeModel c.model (some m) = none := hname.symm.trans hnone
  cases hmodel : c.model with
  | none =>
    rw [hmodel] at habsent
    cases habsent
  | some name =>
    rw [hmodel, mergeModel] at habsent
    split at habsent <;> cases habsent

/-- A completion that is at rest under an update stays as it is, however often that
comes. -/
theorem mergeAll_of_apply_eq_self {c : Completion} {u : Update} (h : c.apply u = c)
    (later : List Supply) : mergeAll (some c) (later.map (·, u)) = some c := by
  induction later with
  | nil => rfl
  | cons supply later ih =>
    have hstep : mergeAll (some c) ((supply :: later).map (·, u)) =
        mergeAll (some (c.apply u)) (later.map (·, u)) := rfl
    rw [hstep, h, ih]

/-- **Redelivery.**  Whatever the completion, if any, whatever the update, and
whatever the supplies: a second delivery is told from the first one in one case
only, and no later one is told from the second. -/
theorem takesAgain (supply again : Supply) (existing : Option Completion) (u : Update) :
    TakesAgain existing u (merge supply existing u)
      (merge again (some (merge supply existing u)) u) where
  same_iff := apply_eq_self_iff supply existing u
  elsewhere := apply_apply (existing.getD (fresh supply)) u
  routed := by
    intro m hnone hm hslash
    obtain ⟨provider, rest, hprovider, rfl⟩ := exists_eq_append_of_slash hslash
    have honce : (merge supply existing u).model = some (provider ++ "/" ++ rest) := by
      have hname : (merge supply existing u).model = mergeModel (modelOf existing) u.model.join :=
        modelOf_merge supply existing u
      rw [hname, hnone, hm]
      rfl
    refine ⟨provider, rest, hprovider, rfl, honce, ?_⟩
    have htwice := model_apply (merge supply existing u) u
    rw [honce, hm] at htwice
    exact htwice.trans (mergeModel_itself hprovider rest)
  settled := mergeAll_of_apply_eq_self (apply_apply_apply (existing.getD (fresh supply)) u)

example : mergeAll none [ofModel (some (some "a/b/c")), ofModel (some (some "a/b/c"))] =
    some { blank Supply.plain.completionId 1 with model := some "a/a/b/c" } := by
  decide +kernel

end Completion

end CanonicalReply
