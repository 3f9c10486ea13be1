import CanonicalReply.Proofs.Schema

/-!
# Side channels that lie over each other

What is known about a call comes together from several sides, each laid over what was
known before.  It does not matter how the layers are grouped, a layer that says nothing
changes nothing, and a layer that comes twice changes nothing the second time.

The parameters of the caller are written side by side with the fields, so a parameter
with the name of a field would be read as the field.  What was read has no such
parameter, and layers without one have none together: so a side channel that is put
together from such layers can always be read back.

* `SideChannel.overlay_assoc`, `SideChannel.overlay_self`: the laws of layers.
* `SideChannel.overlay_eq_empty_iff`: layers that say nothing.
* `SideChannel.readsBack_iff`: **what can be read back**: a side channel whose
  parameters leave the names of the fields alone.
* `SideChannel.isClear_after`, `SideChannel.isClear_run`: no step gives up this
  property, so no run does.
* `SideChannel.layersWell`: all of this together.
-/

namespace CanonicalReply.SideChannel

open Json (ReadsBack RestOf)

variable {a b s : SideChannel}

/-! ## The laws of layers -/

theorem overlay_assoc (a b c : SideChannel) :
    (a.overlay b).overlay c = a.overlay (b.overlay c) := by
  simp [overlay, Option.or_assoc, Dict.overlay_assoc]

theorem overlay_self (a : SideChannel) : a.overlay a = a := by
  simp [overlay]

@[simp] theorem overlay_empty (a : SideChannel) : a.overlay empty = a := by
  simp [overlay, empty]

@[simp] theorem empty_overlay (a : SideChannel) : empty.overlay a = a := by
  simp [overlay, empty]

theorem isEmpty_iff : s.isEmpty = true ↔ s = empty := by
  obtain ⟨headers, ms, extra⟩ := s
  simp [isEmpty, empty, Dict.isEmpty_iff, and_assoc]

/-- Layers say nothing together if each says nothing. -/
theorem overlay_eq_empty_iff : a.overlay b = empty ↔ a = empty ∧ b = empty := by
  obtain ⟨headers, ms, extra⟩ := a
  obtain ⟨headers', ms', extra'⟩ := b
  simp only [overlay, empty, mk.injEq, Option.or_eq_none_iff, Dict.overlay_eq_empty_iff]
  constructor
  · rintro ⟨⟨hheaders', hheaders⟩, ⟨hms', hms⟩, hextra, hextra'⟩
    exact ⟨⟨hheaders, hms, hextra⟩, hheaders', hms', hextra'⟩
  · rintro ⟨⟨hheaders, hms, hextra⟩, hheaders', hms', hextra'⟩
    exact ⟨⟨hheaders', hheaders⟩, ⟨hms', hms⟩, hextra, hextra'⟩

/-! ## Parameters that leave the fields alone -/

/-- The names of the fields. -/
def fieldKeys : List String := ["additional_headers", "response_ms"]

/-- No parameter has the name of a field. -/
def LeavesFields (s : SideChannel) : Prop := ∀ key ∈ fieldKeys, s.extra.contains key = false

/-- Layers leave the fields alone together if each does. -/
theorem leavesFields_overlay_iff :
    (a.overlay b).LeavesFields ↔ a.LeavesFields ∧ b.LeavesFields := by
  simp only [LeavesFields, overlay, Dict.contains, Dict.get?_overlay, Option.isSome_or,
    Bool.or_eq_false_iff]
  constructor
  · intro h
    exact ⟨fun key hkey => (h key hkey).2, fun key hkey => (h key hkey).1⟩
  · rintro ⟨ha, hb⟩ key hkey
    exact ⟨hb key hkey, ha key hkey⟩

/-- The parameters leave the fields alone, and repeat no key themselves. -/
def IsClear (s : SideChannel) : Prop := RestOf fieldKeys s.extra

theorem isClear_iff : s.IsClear ↔ s.LeavesFields ∧ (Json.ofDict s.extra).Distinct := by
  simp only [LeavesFields, Dict.contains, Option.isSome_eq_false_iff, Option.isNone_iff_eq_none]
  exact ⟨fun h => ⟨h.get?_eq_none, h.distinct⟩, fun h => ⟨h.1, h.2⟩⟩

/-- **What can be read back.** -/
theorem readsBack_iff : ReadsBack toJson decode s ↔ s.IsClear :=
  ⟨fun h => restOf_of_decode h.distinct h.decode_eq, readsBack⟩

theorem isClear_empty : empty.IsClear := .empty fieldKeys

theorem IsClear.overlay (ha : a.IsClear) (hb : b.IsClear) : (a.overlay b).IsClear :=
  RestOf.overlay ha hb

/-! ## Runs -/

/-- What can be done to a side channel. -/
inductive Step where
  /-- Decode another one, which takes its place. -/
  | decode (v : Json)
  /-- Put one of a caller's parameters in its place. -/
  | ofParams (params : Dict Json)
  /-- Lay another one over it. -/
  | overlay (later : SideChannel)

/-- The side channel after a step.  A value that cannot be decoded leaves it as it
was. -/
def after (s : SideChannel) : Step → SideChannel
  | .decode v => (SideChannel.decode v).toOption.getD s
  | .ofParams params => .ofParams params
  | .overlay later => s.overlay later

/-- The side channel after a run of steps. -/
def run (s : SideChannel) (steps : List Step) : SideChannel := steps.foldl after s

/-- A step brings no parameter with the name of a field. -/
def Step.IsClear : Step → Prop
  | decode v => v.Distinct
  | ofParams params => (SideChannel.ofParams params).IsClear
  | overlay later => later.IsClear

/-- **One step.** -/
theorem isClear_after {step : Step} (hs : s.IsClear) (hstep : step.IsClear) :
    (s.after step).IsClear := by
  cases step with
  | decode v =>
    show ((SideChannel.decode v).toOption.getD s).IsClear
    cases h : SideChannel.decode v with
    | error e => exact hs
    | ok read => exact restOf_of_decode hstep h
  | ofParams params => exact hstep
  | overlay later => exact hs.overlay hstep

/-- **A run.** -/
theorem isClear_run {steps : List Step} (hs : s.IsClear) (hsteps : ∀ step ∈ steps, step.IsClear) :
    (s.run steps).IsClear := by
  induction steps generalizing s with
  | nil => exact hs
  | cons step rest ih =>
    have hafter := isClear_after hs (hsteps step (List.mem_cons_self ..))
    exact ih hafter fun later hlater => hsteps later (List.mem_cons_of_mem _ hlater)

/-! ## All together -/

/-- What side channels can be relied on for. -/
structure LayersWell : Prop where
  overlay_assoc : ∀ a b c : SideChannel, (a.overlay b).overlay c = a.overlay (b.overlay c)
  overlay_empty : ∀ a : SideChannel, a.overlay empty = a
  empty_overlay : ∀ a : SideChannel, empty.overlay a = a
  overlay_self : ∀ a : SideChannel, a.overlay a = a
  /-- A parameter is that of the later layer if it has one of that name, and else that of
  the earlier one; no parameter is lost and none is added. -/
  extra_iff : ∀ (a b : SideChannel) key v, (a.overlay b).extra.get? key = some v ↔
    b.extra.get? key = some v ∨ b.extra.get? key = none ∧ a.extra.get? key = some v
  /-- It is the same with the fields. -/
  additionalHeaders_iff : ∀ (a b : SideChannel) h, (a.overlay b).additionalHeaders = some h ↔
    b.additionalHeaders = some h ∨ b.additionalHeaders = none ∧ a.additionalHeaders = some h
  responseMs_iff : ∀ (a b : SideChannel) x, (a.overlay b).responseMs = some x ↔
    b.responseMs = some x ∨ b.responseMs = none ∧ a.responseMs = some x
  isEmpty_iff : ∀ a b : SideChannel, (a.overlay b).isEmpty = true ↔
    a.isEmpty = true ∧ b.isEmpty = true
  leavesFields_iff : ∀ a b : SideChannel, (a.overlay b).LeavesFields ↔
    a.LeavesFields ∧ b.LeavesFields
  /-- A caller's parameters never become fields, whatever their names. -/
  ofParams_eq : ∀ params, (ofParams params).additionalHeaders = none ∧
    (ofParams params).responseMs = none ∧ (ofParams params).extra = params
  /-- The parameters decide what can be read back. -/
  readsBack_iff : ∀ s : SideChannel, ReadsBack toJson decode s ↔
    s.LeavesFields ∧ (Json.ofDict s.extra).Distinct
  /-- Whatever was done, step by step, the outcome can be read back; so it may be laid
  over another one in its turn. -/
  readsBack_run : ∀ steps : List Step, (∀ step ∈ steps, step.IsClear) →
    ReadsBack toJson decode (empty.run steps)

/-- **Layers of side channels**, in any number and in any order. -/
theorem layersWell : LayersWell where
  overlay_assoc := SideChannel.overlay_assoc
  overlay_empty := SideChannel.overlay_empty
  empty_overlay := SideChannel.empty_overlay
  overlay_self := SideChannel.overlay_self
  extra_iff := by
    intro a b key v
    rw [overlay, Dict.get?_overlay, Option.or_eq_some_iff]
  additionalHeaders_iff := fun _ _ _ => Option.or_eq_some_iff
  responseMs_iff := fun _ _ _ => Option.or_eq_some_iff
  isEmpty_iff := by
    intro a b
    rw [SideChannel.isEmpty_iff, SideChannel.isEmpty_iff, SideChannel.isEmpty_iff,
      overlay_eq_empty_iff]
  leavesFields_iff := fun _ _ => leavesFields_overlay_iff
  ofParams_eq := fun _ => ⟨rfl, rfl, rfl⟩
  readsBack_iff := fun _ => SideChannel.readsBack_iff.trans isClear_iff
  readsBack_run := fun _ hsteps => SideChannel.readsBack_iff.2 (isClear_run isClear_empty hsteps)

end CanonicalReply.SideChannel
