import CanonicalReply.Dict.Lemmas
import CanonicalReply.ResponseHeaders
import Mathlib.Data.Finset.Card
import Mathlib.Data.List.Infix

/-!
# Which headers are shown, and under which names

All headers of a response are shown under the provider's name, and over them lie the
rate limits under their own.  Nothing a provider sends is lost in this, unless the
provider's name turns one header's name into the name of a rate limit that came as
well.  Only the beginning of such a name can do that, and there are four of those.

* `Dict.size_overlay_add`: how many entries an overlay has.
* `get?_merged_eq_some_iff`: **what is found** under a key, and nothing else is.
* `get?_merged_underProvider`: a header is read under the provider's name.
* `beginsLimit_iff`: the providers' names that can make two headers one.
* `size_merged_add`: how many headers are shown, with those that clash.
* `showsEach`: what this says of all headers of a response.
-/

namespace CanonicalReply

namespace Dict

universe u

variable {α : Type u}

/-! ## The keys of a map as a set -/

/-- The keys of a map, as a set. -/
def keySet (d : Dict α) : Finset String := d.keys.toFinset

@[simp] theorem mem_keySet {d : Dict α} {k : String} : k ∈ d.keySet ↔ d.contains k = true := by
  rw [keySet, List.mem_toFinset, mem_keys]

/-- A map has as many entries as keys. -/
theorem card_keySet (d : Dict α) : d.keySet.card = d.size := by
  have hnodup : d.keys.Nodup := List.pairwise_map.2 d.pairwise_ne
  rw [keySet, List.toFinset_card_of_nodup hnodup, keys, List.length_map, size]

theorem keySet_overlay (base later : Dict α) :
    (base.overlay later).keySet = base.keySet ∪ later.keySet := by
  ext k
  simp only [Finset.mem_union, mem_keySet, contains, get?_overlay, Option.isSome_or,
    Bool.or_eq_true]
  exact Or.comm

/-- An overlay has the entries of both maps, those with a common key once. -/
theorem size_overlay_add (base later : Dict α) :
    (base.overlay later).size + (base.keySet ∩ later.keySet).card = base.size + later.size := by
  rw [← card_keySet, keySet_overlay, Finset.card_union_add_card_inter, card_keySet, card_keySet]

end Dict

namespace Headers

variable {provider : String} {h : Headers}

/-! ## Names under a provider -/

theorem toList_underProvider (provider name : String) :
    (underProvider provider name).toList = provider.toList ++ '-' :: name.toList := by
  rw [underProvider, String.toList_append, String.toList_append, List.append_assoc]
  rfl

/-- Different names stay different under a provider. -/
theorem underProvider_injective (provider : String) :
    Function.Injective (underProvider provider) := by
  intro a b heq
  have hlists := congrArg String.toList heq
  rw [toList_underProvider, toList_underProvider] at hlists
  exact String.toList_inj.1 (List.cons.inj (List.append_cancel_left hlists)).2

/-- Entries under the provider's name. -/
def entriesUnder (provider : String) (l : List (String × String)) : List (String × String) :=
  l.map fun e => (underProvider provider e.1, e.2)

theorem pairwise_entriesUnder {l : List (String × String)}
    (hl : l.Pairwise (fun a b => a.1 ≠ b.1)) :
    (entriesUnder provider l).Pairwise (fun a b => a.1 ≠ b.1) :=
  List.pairwise_map.2 (hl.imp fun hne heq => hne (underProvider_injective provider heq))

/-! ## What is found -/

/-- A key is the name of a rate limit that is there. -/
def IsLimit (h : Headers) (key : String) : Prop := key ∈ rateLimitNames ∧ h.contains key = true

theorem get?_rateLimits (h : Headers) (key : String) :
    h.rateLimits.get? key = if key ∈ rateLimitNames then h.get? key else none := by
  rw [rateLimits, Dict.get?_filterKeys]
  simp only [List.contains_iff_mem]

theorem contains_rateLimits_iff {key : String} :
    h.rateLimits.contains key = true ↔ h.IsLimit key := by
  rw [Dict.contains, get?_rateLimits, IsLimit]
  by_cases hkey : key ∈ rateLimitNames <;> simp [hkey, Dict.contains]

theorem get?_namespaced_eq_some_iff {key value : String} :
    (h.namespaced provider).get? key = some value ↔
      ∃ name, key = underProvider provider name ∧ h.get? name = some value := by
  have hentries := @pairwise_entriesUnder provider _ h.pairwise_ne
  rw [namespaced, ← entriesUnder, Dict.get?_ofList hentries, Dict.lookup_eq_some_iff_mem hentries,
    entriesUnder, List.mem_map]
  constructor
  · rintro ⟨⟨name, v⟩, hmem, heq⟩
    cases heq
    exact ⟨name, rfl, Dict.get?_eq_some_iff.2 hmem⟩
  · rintro ⟨name, rfl, hname⟩
    exact ⟨(name, value), Dict.get?_eq_some_iff.1 hname, rfl⟩

/-- **What is found** under a key: the rate limit of that name, if it is there; if not,
the header whose name it is under the provider's; and otherwise nothing. -/
theorem get?_merged_eq_some_iff {key value : String} :
    (h.merged provider).get? key = some value ↔
      (h.IsLimit key ∧ h.get? key = some value) ∨
        (¬ h.IsLimit key ∧
          ∃ name, key = underProvider provider name ∧ h.get? name = some value) := by
  rw [merged, Dict.get?_overlay, ← get?_namespaced_eq_some_iff]
  by_cases hlimit : h.IsLimit key
  · obtain ⟨v, hv⟩ := Option.isSome_iff_exists.1 hlimit.2
    have hfound : h.rateLimits.get? key = some v := by
      rw [get?_rateLimits, if_pos hlimit.1, hv]
    simp [hfound, hv, hlimit]
  · have hnone : h.rateLimits.get? key = none := by
      rw [← Option.not_isSome_iff_eq_none]
      exact fun hsome => hlimit (contains_rateLimits_iff.1 hsome)
    simp [hnone, hlimit]

/-- A header is read under the provider's name, unless that makes its name the name of a
rate limit that is there. -/
theorem get?_merged_underProvider {name value : String} (hname : h.get? name = some value)
    (hclear : ¬ h.IsLimit (underProvider provider name)) :
    (h.merged provider).get? (underProvider provider name) = some value :=
  get?_merged_eq_some_iff.2 (.inr ⟨hclear, name, rfl, hname⟩)

/-- The headers as they are shown, gathered from entries in some order: all of them under
the provider's name, and then those that tell the rate limits. -/
def gathered (provider : String) (all limits : List (String × String)) : Headers :=
  .ofList (entriesUnder provider all ++ limits)

theorem gathered_eq_of_perm {all limits : List (String × String)} (hall : all.Perm h.entries)
    (hlimits : limits.Perm h.rateLimits.entries) :
    gathered provider all limits = h.merged provider := by
  have hsymm : ∀ {a b : String × String}, a.1 ≠ b.1 → b.1 ≠ a.1 := fun hne => hne.symm
  have hdistinct := hlimits.symm.pairwise h.rateLimits.pairwise_ne hsymm
  have hunder : (entriesUnder provider all).Perm (entriesUnder provider h.entries) := hall.map _
  have hdistinctUnder := hunder.symm.pairwise (pairwise_entriesUnder h.pairwise_ne) hsymm
  rw [gathered, Dict.ofList_append, Dict.ofList_eq_of_perm hunder hdistinctUnder,
    Dict.ofList_eq_of_perm hlimits hdistinct, Dict.ofList_entries]
  rfl

/-! ## When two headers take one name -/

/-- A provider's name is the beginning of the name of a rate limit, up to one of its
dashes. -/
def BeginsLimit (provider : String) : Prop :=
  ∃ name ∈ rateLimitNames, provider.toList ++ ['-'] <+: name.toList

theorem beginsLimit_of_mem {name : String} (hname : underProvider provider name ∈ rateLimitNames) :
    BeginsLimit provider := by
  refine ⟨underProvider provider name, hname, name.toList, ?_⟩
  rw [toList_underProvider, List.append_assoc]
  rfl

/-- The beginnings of the names of the rate limits. -/
def limitBeginnings : List String :=
  ["x", "x-ratelimit", "x-ratelimit-limit", "x-ratelimit-remaining"]

/-- **Four names** of providers can make one header look like another. -/
theorem beginsLimit_iff : BeginsLimit provider ↔ provider ∈ limitBeginnings := by
  constructor
  · rintro ⟨name, hname, hprefix⟩
    have hall : ∀ name ∈ rateLimitNames, ∀ cs ∈ name.toList.inits, cs.getLast? = some '-' →
        String.ofList cs.dropLast ∈ limitBeginnings := by decide +kernel
    have hprovider :=
      hall name hname _ ((List.mem_inits _ _).2 hprefix) List.getLast?_concat
    rwa [List.dropLast_concat, String.ofList_toList] at hprovider
  · have hall : ∀ p ∈ limitBeginnings,
        ∃ name ∈ rateLimitNames, p.toList ++ ['-'] <+: name.toList := by decide +kernel
    exact hall provider

/-! ## How many are shown -/

theorem size_namespaced (provider : String) (h : Headers) :
    (h.namespaced provider).size = h.size := by
  have himage : (h.namespaced provider).keySet = h.keySet.image (underProvider provider) := by
    ext key
    simp only [Dict.mem_keySet, Finset.mem_image, Dict.contains, Option.isSome_iff_exists,
      get?_namespaced_eq_some_iff]
    constructor
    · rintro ⟨value, name, rfl, hname⟩
      exact ⟨name, ⟨value, hname⟩, rfl⟩
    · rintro ⟨name, ⟨value, hname⟩, rfl⟩
      exact ⟨value, name, rfl, hname⟩
  rw [← Dict.card_keySet, himage,
    Finset.card_image_of_injective _ (underProvider_injective provider), Dict.card_keySet]

theorem size_rateLimits (h : Headers) : h.rateLimits.size = rateLimitNames.countP h.contains := by
  have hnodup : (rateLimitNames.filter h.contains).Nodup := List.Nodup.filter _ (by decide)
  have hset : h.rateLimits.keySet = (rateLimitNames.filter h.contains).toFinset := by
    ext key
    rw [Dict.mem_keySet, contains_rateLimits_iff, List.mem_toFinset, List.mem_filter, IsLimit]
  rw [← Dict.card_keySet, hset, List.toFinset_card_of_nodup hnodup, List.countP_eq_length_filter]

/-- The names of the rate limits that are there, and that other headers take under the
provider's name. -/
def clashes (provider : String) (h : Headers) : List String :=
  rateLimitNames.filter fun name => h.contains name && (h.namespaced provider).contains name

/-- As many headers are shown as there are, and the rate limits once more, but for each
name that two of these take. -/
theorem size_merged_add (provider : String) (h : Headers) :
    (h.merged provider).size + (clashes provider h).length =
      h.size + rateLimitNames.countP h.contains := by
  have hnodup : (clashes provider h).Nodup := List.Nodup.filter _ (by decide)
  have hcommon : (h.namespaced provider).keySet ∩ h.rateLimits.keySet =
      (clashes provider h).toFinset := by
    ext key
    rw [Finset.mem_inter, Dict.mem_keySet, Dict.mem_keySet, contains_rateLimits_iff,
      List.mem_toFinset, clashes, List.mem_filter, IsLimit, Bool.and_eq_true, and_comm, and_assoc]
  rw [← List.toFinset_card_of_nodup hnodup, ← hcommon, merged, Dict.size_overlay_add,
    size_namespaced, size_rateLimits]

theorem clashes_eq_nil (hclear : ¬ BeginsLimit provider) (h : Headers) :
    clashes provider h = [] := by
  refine List.filter_eq_nil_iff.2 fun name hname hclash => hclear ?_
  rw [Bool.and_eq_true, Dict.contains, Dict.contains, Option.isSome_iff_exists,
    Option.isSome_iff_exists] at hclash
  obtain ⟨-, value, hvalue⟩ := hclash
  obtain ⟨other, rfl, -⟩ := get?_namespaced_eq_some_iff.1 hvalue
  exact beginsLimit_of_mem hname

/-! ## All headers of a response -/

/-- How the headers of a response are shown under a provider. -/
structure ShowsEach (provider : String) (h : Headers) : Prop where
  /-- What is found under a key: the rate limit of that name, if it is there; if not, the
  header whose name it is under the provider's; and otherwise nothing. -/
  found : ∀ key value, (h.merged provider).get? key = some value ↔
    (h.IsLimit key ∧ h.get? key = some value) ∨
      (¬ h.IsLimit key ∧ ∃ name, key = underProvider provider name ∧ h.get? name = some value)
  /-- It does not matter in which order the headers are gone through. -/
  inAnyOrder : ∀ all limits, all.Perm h.entries → limits.Perm h.rateLimits.entries →
    gathered provider all limits = h.merged provider
  /-- A header is read under the provider's name, unless that makes its name the name of a
  rate limit that is there. -/
  readable : ∀ name value, h.get? name = some value →
    ¬ h.IsLimit (underProvider provider name) →
      (h.merged provider).get? (underProvider provider name) = some value
  /-- Only the beginning of such a name, up to a dash, can do that. -/
  clashing : ∀ name, h.IsLimit (underProvider provider name) → BeginsLimit provider
  /-- There are four of these. -/
  beginnings : BeginsLimit provider ↔ provider ∈ limitBeginnings
  /-- Each name that two headers take is one less. -/
  counted : (h.merged provider).size + (clashes provider h).length =
    h.size + rateLimitNames.countP h.contains
  /-- Under any other name nothing is lost. -/
  size_eq : ¬ BeginsLimit provider →
    (h.merged provider).size = h.size + rateLimitNames.countP h.contains

/-- **Every header is shown**, whatever the headers and whatever the provider's name. -/
theorem showsEach (provider : String) (h : Headers) : ShowsEach provider h where
  found := fun _ _ => get?_merged_eq_some_iff
  inAnyOrder := fun _ _ => gathered_eq_of_perm
  readable := fun _ _ => get?_merged_underProvider
  clashing := fun _ hlimit => beginsLimit_of_mem hlimit.1
  beginnings := beginsLimit_iff
  counted := size_merged_add provider h
  size_eq := by
    intro hclear
    have hcounted := size_merged_add provider h
    rwa [clashes_eq_nil hclear, List.length_nil, Nat.add_zero] at hcounted

example : (merged "x" (.ofList [("ratelimit-limit-tokens", "1"), ("x-ratelimit-limit-tokens", "2"),
    ("via", "3")])).entries = [("x-ratelimit-limit-tokens", "2"), ("x-via", "3"),
      ("x-x-ratelimit-limit-tokens", "2")] := by
  decide +kernel

end Headers

end CanonicalReply
