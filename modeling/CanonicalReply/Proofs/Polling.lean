import CanonicalReply.Proofs.Chunks

/-!
# The two forms of a replay

A replay is given as a whole, or it is polled: then it gives its chunk, lets others
run once, and ends.  Both forms read the payload in the same way, and the one that is
polled leaves the enhancements out.  So a caller may choose between them by the way
the chunk is waited for, and loses the enhancements by the choice and nothing else.

* `Chunk.material_false`: **the flag** that leaves out the enhancements does nothing
  else, and cannot make a reading fail.
* `Chunk.ofRaw_eq_of_suppliesAlike`: what is made up shows only where the payload
  says nothing.
* `Replay.State.polls_holding`: what any number of polls give.
* `Replay.formsAgree`: the two forms, for every payload and without one.
-/

namespace CanonicalReply

/-! ## Without enhancements -/

/-- A part of a choice without its enhancements. -/
def ChunkChoice.plain (c : ChunkChoice) : ChunkChoice := { c with enhancements := none }

/-- A chunk without the enhancements of its choices. -/
def Chunk.plain (c : Chunk) : Chunk := { c with choices := c.choices.map ChunkChoice.plain }

/-- Enhancements are left out of a choice after everything else was read. -/
theorem ChunkChoice.build_false (index : Nat) (v : Json) :
    build false index v = (build true index v).map plain := by
  rw [build, build]
  split
  · rfl
  next c _ => cases c.message.toolCallDeltas <;> rfl

namespace Chunk

/-- **The flag** leaves the enhancements out and does nothing else. -/
theorem material_false (payload : Option Payload) :
    material false payload =
      (material true payload).map fun m => (m.1, m.2.map ChunkChoice.plain) := by
  cases payload with
  | none => rfl
  | some p =>
    have hbuild : ChunkChoice.build false =
        fun i v => (ChunkChoice.build true i v).map ChunkChoice.plain :=
      funext fun i => funext fun v => ChunkChoice.build_false i v
    unfold material
    simp only
    split
    · rfl
    · split
      · rfl
      next values _ =>
        rw [hbuild, Provider.Message.eachAt_map]
        cases Provider.Message.eachAt (ChunkChoice.build true) 0 values <;> rfl

end Chunk

/-! ## What is made up -/

/-- Two supplies make up the same for a payload: an id, unless the payload has a text
for one, and a time, unless the payload has a number for one. -/
structure SuppliesAlike (payload : Option Payload) (supply supply' : Supply) : Prop where
  id : (∃ p t, payload = some p ∧ p.get? "id" = some (.str t)) ∨
    supply'.completionId = supply.completionId
  now : (∃ p n, payload = some p ∧ p.get? "created" = some (.num n)) ∨ supply'.now = supply.now

/-- Every number is a time. -/
theorem Provider.exists_unixSeconds_num (n : Json.Number) :
    ∃ t, Provider.unixSeconds (.num n) = some t := by
  cases n <;> exact ⟨_, rfl⟩

/-- Where supplies make up the same, they make the same chunk. -/
theorem Chunk.ofRaw_eq_of_suppliesAlike {supply supply' : Supply} {payload : Payload}
    {raw : Provider.Completion} (hraw : raw.ReadsFrom payload)
    (halike : SuppliesAlike (some payload) supply supply') (choices : List ChunkChoice) :
    ofRaw supply' raw choices = ofRaw supply raw choices := by
  have hid : raw.id.join.getD supply'.completionId = raw.id.join.getD supply.completionId := by
    rcases halike.id with ⟨_, t, ⟨⟩, ht⟩ | hsame
    · rw [hraw.id_eq ht, Option.join_some, Option.getD_some, Option.getD_some]
    · rw [hsame]
  have hcreated : (raw.created.join.bind Provider.unixSeconds).getD supply'.now =
      (raw.created.join.bind Provider.unixSeconds).getD supply.now := by
    rcases halike.now with ⟨_, n, ⟨⟩, hn⟩ | hsame
    · obtain ⟨t, ht⟩ := Provider.exists_unixSeconds_num n
      rw [hraw.created_eq hn (by simp), Option.join_some, Option.bind_some, ht, Option.getD_some,
        Option.getD_some]
    · rw [hsame]
  simp only [ofRaw, hid, hcreated, fresh, blank]

namespace Replay

/-! ## Polling -/

theorem State.polls_ended (n : Nat) : ended.polls n = List.replicate n .finished := by
  induction n with
  | zero => rfl
  | succ n ih =>
    rw [polls, List.replicate_succ]
    exact congrArg (Poll.finished :: ·) ih

/-- What so many polls of a stream give: its chunk, then nothing once, and from then
on that it is over. -/
def given (chunk : Chunk) (n : Nat) : List Poll :=
  (.chunk chunk :: .pending :: List.replicate n .finished).take n

/-- **Polling.**  Each poll is one step, and the third one comes to the end. -/
theorem State.polls_holding (chunk : Chunk) (n : Nat) :
    (holding chunk).polls n = given chunk n := by
  match n with
  | 0 => rfl
  | 1 => rfl
  | n + 2 =>
    have hrest : (List.replicate (n + 2) Poll.finished).take n = List.replicate n .finished := by
      rw [List.take_replicate, Nat.min_eq_left (by omega)]
    rw [given, List.take_succ_cons, List.take_succ_cons, hrest, ← State.polls_ended]
    rfl

/-! ## The two forms -/

/-- What the two forms of a replay have to do with each other, each with a supply of
its own. -/
structure FormsAgree (payload : Option Payload) (supply supply' : Supply) : Prop where
  /-- They fail together and for the same reason. -/
  error_iff : ∀ e, cooperative supply' payload = .error e ↔ blocking supply payload = .error e
  /-- The blocking form gives one chunk; the other one gives a chunk when it is polled,
  then nothing once, and then it is over. -/
  one_chunk : ∀ chunks, blocking supply payload = .ok chunks →
    ∃ chunk state chunk', chunks = [chunk] ∧ cooperative supply' payload = .ok state ∧
      (∀ n, state.polls n = given chunk' n) ∧
      -- without its enhancements it is the same chunk, up to what is made up for it
      chunk' = { chunk.plain with id := chunk'.id, created := chunk'.created } ∧
      (SuppliesAlike payload supply supply' → chunk' = chunk.plain)

/-- **The two forms agree**, for every payload and without one, and whatever is made up
for them. -/
theorem formsAgree (payload : Option Payload) (supply supply' : Supply) :
    FormsAgree payload supply supply' where
  error_iff := by
    intro e
    rw [cooperative, blocking, Chunk.ofPayload_eq_map_material, Chunk.ofPayload_eq_map_material,
      Chunk.material_false]
    simp only [Except.map_eq_error_iff]
  one_chunk := by
    intro chunks h
    obtain ⟨chunk, hchunk, rfl⟩ := Except.map_eq_ok_iff.1 h
    rw [Chunk.ofPayload_eq_map_material] at hchunk
    obtain ⟨⟨raw, choices⟩, hmaterial, rfl⟩ := Except.map_eq_ok_iff.1 hchunk
    have hplain : Chunk.ofPayload false supply' payload =
        .ok (Chunk.ofRaw supply' raw (choices.map ChunkChoice.plain)) := by
      rw [Chunk.ofPayload_eq_map_material, Chunk.material_false, hmaterial]
      rfl
    refine ⟨_, _, _, rfl, Except.map_eq_ok_iff.2 ⟨_, hplain, rfl⟩, State.polls_holding _, rfl, ?_⟩
    intro halike
    cases payload with
    | none => cases hmaterial
    | some p =>
      obtain ⟨_, hraw, -, -⟩ := Chunk.material_eq_ok_iff.1 hmaterial
      rw [Chunk.ofRaw_eq_of_suppliesAlike hraw halike]
      rfl

end Replay

end CanonicalReply
