import CanonicalReply.Proofs.Decoding
import CanonicalReply.Proofs.Expansion
import CanonicalReply.Proofs.RecordText

/-!
# Repair undoes packing

Calls that are packed into the arguments of one call, as a model ought to pack them,
come out of repair as they went in: their names without the beginning that was put
in front, and their parameters as the text that says them.

* `Json.depth`, `Json.Integral`: how deep a value is nested, and whether its text
  says it exactly.
* `PackedUse.Entries`: what is written of the calls that are packed.
* `PackedUse.parseAll_packing`: **the packed list is read back**.
* `ToolCall.repair_packing`: **repair** gives the calls, in their order.
-/

namespace CanonicalReply

namespace Json

/-! ## Nesting -/

mutual

/-- The levels of nesting of a value; only lists and objects have any. -/
def depth : Json → Nat
  | .arr items => itemsDepth items + 1
  | .obj members => membersDepth members + 1
  | _ => 0

/-- The levels of nesting of the deepest item. -/
def itemsDepth : List Json → Nat
  | [] => 0
  | v :: rest => Nat.max v.depth (itemsDepth rest)

/-- The levels of nesting of the deepest member. -/
def membersDepth : List (String × Json) → Nat
  | [] => 0
  | e :: rest => Nat.max e.2.depth (membersDepth rest)

end

theorem depth_le_itemsDepth {v : Json} {vs : List Json} (h : v ∈ vs) : v.depth ≤ itemsDepth vs := by
  induction vs with
  | nil => cases h
  | cons w vs ih =>
    rw [itemsDepth]
    rcases List.mem_cons.1 h with rfl | h
    · exact Nat.le_max_left _ _
    · exact Nat.le_trans (ih h) (Nat.le_max_right _ _)

theorem depth_le_membersDepth {e : String × Json} {es : List (String × Json)} (h : e ∈ es) :
    e.2.depth ≤ membersDepth es := by
  induction es with
  | nil => cases h
  | cons f es ih =>
    rw [membersDepth]
    rcases List.mem_cons.1 h with rfl | h
    · exact Nat.le_max_left _ _
    · exact Nat.le_trans (ih h) (Nat.le_max_right _ _)

/-- A value that its text says exactly: every number in it is an integer of 64 bits, and
the members of its objects stand in key order, each with a key of its own. -/
def Integral (v : Json) : Prop := ∃ depth, Exact depth v

/-- Such a value is said exactly at any depth that it stays within. -/
theorem Exact.of_depth_le {depth n : Nat} {v : Json} (h : Exact depth v) (hn : v.depth ≤ n) :
    Exact n v := by
  induction h generalizing n with
  | null => exact .null
  | bool b => exact .bool b
  | int hlow hhigh => exact .int hlow hhigh
  | str s => exact .str s
  | @arr _ vs _ ih =>
    rw [Json.depth] at hn
    cases n with
    | zero => cases hn
    | succ n =>
      refine .arr fun v hv => ih v hv ?_
      exact Nat.le_trans (depth_le_itemsDepth hv) (Nat.le_of_succ_le_succ hn)
  | @obj _ d _ ih =>
    rw [ofDict, Json.depth] at hn
    cases n with
    | zero => cases hn
    | succ n =>
      refine .obj fun e he => ih e he ?_
      exact Nat.le_trans (depth_le_membersDepth he) (Nat.le_of_succ_le_succ hn)

theorem Integral.exact {v : Json} (h : v.Integral) {n : Nat} (hn : v.depth ≤ n) : Exact n v := by
  obtain ⟨depth, hexact⟩ := h
  exact hexact.of_depth_le hn

end Json

namespace PackedUse

open Json (Exact Stops ReadsItems)

/-! ## Packed lists -/

/-- The member that names the function of a packed call. -/
def recipientMember (name : String) : String × Json :=
  ("recipient_name", .str (ToolCall.functionsPrefix ++ name))

/-- The member that holds the parameters of a packed call. -/
def parametersMember (parameters : Json) : String × Json := ("parameters", parameters)

/-- Calls, told by their names and parameters, with the entries in which they are
written.  The two members of an entry may stand in either order. -/
inductive Entries : List (String × Json) → List Json → Prop
  | nil : Entries [] []
  | cons {name : String} {parameters : Json} {members : List (String × Json)}
      {uses : List (String × Json)} {entries : List Json}
      (hmembers : members = [recipientMember name, parametersMember parameters] ∨
        members = [parametersMember parameters, recipientMember name])
      (hlater : Entries uses entries) :
      Entries ((name, parameters) :: uses) (.obj members :: entries)

/-- What a call that packs others has as its arguments. -/
def packing (entries : List Json) : Json := .obj [("tool_uses", .arr entries)]

/-- Parameters are nested three levels less deep than the list in which they are
packed. -/
theorem Entries.depth_le {uses : List (String × Json)} {entries : List Json}
    (h : Entries uses entries) {n : Nat} (hn : (packing entries).depth ≤ n + 3) :
    ∀ u ∈ uses, u.2.depth ≤ n := by
  have hitems : Json.itemsDepth entries ≤ n + 1 := by
    simp only [packing, Json.depth, Json.membersDepth] at hn
    have hle : Json.itemsDepth entries + 1 ≤ Nat.max (Json.itemsDepth entries + 1) 0 :=
      Nat.le_max_left _ _
    omega
  clear hn
  induction h with
  | nil => exact fun _ hu => nomatch hu
  | @cons name parameters members uses entries hmembers _ ih =>
    rw [Json.itemsDepth] at hitems
    have hfirst : (Json.obj members).depth ≤ n + 1 := Nat.le_trans (Nat.le_max_left _ _) hitems
    have hlater := ih (Nat.le_trans (Nat.le_max_right _ _) hitems)
    refine List.forall_mem_cons.2 ⟨?_, hlater⟩
    have hmem : parametersMember parameters ∈ members := by
      rcases hmembers with rfl | rfl <;> simp
    have hparameters : parameters.depth ≤ Json.membersDepth members :=
      Json.depth_le_membersDepth hmem
    rw [Json.depth] at hfirst
    exact Nat.le_trans hparameters (Nat.le_of_succ_le_succ hfirst)

/-! ## Reading them -/

section Reads

variable {depth : Nat} {parameters : Json}

theorem map_readRecipient (draft : Draft) (name : String) {rest : List Char}
    (hrest : Stops rest) :
    ((Json.readScalar "a string" Json.Decoder.text ((Json.str name).chars ++ rest)).map fun r =>
        ({ draft with recipient := some r.1 }, r.2)) =
      .ok ({ draft with recipient := some name }, rest) :=
  Json.map_readScalar_append (.str name) (Json.Decoder.text_str _).2
    (fun t => { draft with recipient := some t }) hrest

theorem map_readParameters (draft : Draft) (h : Exact depth parameters) {rest : List Char}
    (hrest : Stops rest) :
    ((Json.readValue (Json.stepLimit (parameters.chars ++ rest)) depth
        (parameters.chars ++ rest)).map fun r => ({ draft with parameters := some r.1 }, r.2)) =
      .ok ({ draft with parameters := some parameters }, rest) := by
  have hsteps : parameters.chars.length < Json.stepLimit (parameters.chars ++ rest) := by
    rw [Json.stepLimit, List.length_append]
    omega
  rw [h.readsText _ rest hsteps hrest]
  rfl

/-- The reader of packed calls takes the two members in either order. -/
theorem takes_reader (recipient : String) (h : Exact depth parameters)
    {members : List (String × Json)}
    (hmembers : members = [("recipient_name", .str recipient), ("parameters", parameters)] ∨
      members = [("parameters", parameters), ("recipient_name", .str recipient)]) :
    reader.Takes depth reader.start members ⟨some recipient, some parameters⟩ := by
  rcases hmembers with rfl | rfl
  · refine .cons rfl rfl (fun _ hrest => map_readRecipient _ recipient hrest) ?_
    exact .cons rfl rfl (fun _ hrest => map_readParameters _ h hrest) (.nil _)
  · refine .cons rfl rfl (fun _ hrest => map_readParameters _ h hrest) ?_
    exact .cons rfl rfl (fun _ hrest => map_readRecipient _ recipient hrest) (.nil _)

/-- What is read of a call that was packed. -/
def ofPair (u : String × Json) : PackedUse := ⟨ToolCall.functionsPrefix ++ u.1, u.2⟩

theorem Entries.readsItems {uses : List (String × Json)} {entries : List Json}
    (h : Entries uses entries) (hexact : ∀ u ∈ uses, Exact depth u.2) :
    ReadsItems (reader.read (depth + 1)) entries (uses.map ofPair) := by
  induction h with
  | nil => exact .nil
  | cons hmembers _ ih =>
    obtain ⟨hfirst, hlater⟩ := List.forall_mem_cons.1 hexact
    refine .cons (by rw [Json.chars]) rfl (by decide) (fun rest _ => ?_) (ih hlater)
    exact Json.RecordReader.read_of_takes (takes_reader _ hfirst hmembers) rfl rest

/-- **The packed list is read back**, as far as texts are nested at all. -/
theorem parseAll_packing {uses : List (String × Json)} {entries : List Json}
    (hentries : Entries uses entries) (hvalues : ∀ u ∈ uses, u.2.Integral)
    (hdepth : (packing entries).depth ≤ Json.depthLimit) :
    parseAll (packing entries).compact = .ok (uses.map ofPair) := by
  have hlimit : Json.depthLimit = 124 + 3 := rfl
  have hexact : ∀ u ∈ uses, Exact 124 u.2 := fun u hu =>
    (hvalues u hu).exact (hentries.depth_le (hlimit ▸ hdepth) u hu)
  have htakes : listReader.Takes (124 + 2) listReader.start [("tool_uses", .arr entries)]
      (some (uses.map ofPair)) := by
    refine .cons rfl rfl (fun rest _ => ?_) (.nil _)
    have hread : Json.readListOf reader.read (124 + 2) ((Json.arr entries).chars ++ rest) =
        .ok (uses.map ofPair, rest) := Json.readListOf_append (hentries.readsItems hexact) rest
    exact congrArg (Except.map fun r => (some r.1, r.2)) hread
  exact Json.RecordReader.parse_of_takes htakes rfl

end Reads

end PackedUse

namespace ToolCall

open PackedUse (Entries packing)

/-! ## Repair -/

theorem packedName_ofPair (u : String × Json) : packedName (PackedUse.ofPair u) = u.1 :=
  dropBeginning_append functionsPrefix u.1

/-- The call that a packed one becomes. -/
def unpackedFrom (id : String) (u : (String × Json) × Nat) : ToolCall :=
  .ofFunction (packedId id u.2) u.1.1 u.1.2.compact

/-- Calls that do not pack others in turn are unpacked one by one. -/
theorem ofPacked_map_ofPair (id : String) {uses : List (String × Json)}
    (hnames : ∀ u ∈ uses, u.1 ≠ parallelName) (start : Nat) :
    ofPacked id start (uses.map PackedUse.ofPair) = (uses.zipIdx start).map (unpackedFrom id) := by
  induction uses generalizing start with
  | nil => rfl
  | cons u uses ih =>
    obtain ⟨hname, hlater⟩ := List.forall_mem_cons.1 hnames
    rw [List.map_cons, ofPacked, packedName_ofPair, if_neg hname, ih hlater, List.zipIdx_cons,
      List.map_cons]
    rfl

/-- **Repair undoes packing.**  Calls with any names and parameters that were packed
into one are its expansion, and the text of each one's arguments says its parameters. -/
theorem repair_packing (id kind : String) {uses : List (String × Json)} {entries : List Json}
    (hnames : ∀ u ∈ uses, u.1 ≠ parallelName) (hvalues : ∀ u ∈ uses, u.2.Integral)
    (hentries : Entries uses entries) (hdepth : (packing entries).depth ≤ Json.depthLimit) :
    repair [⟨id, kind, ⟨parallelName, (packing entries).compact⟩⟩] =
        .ok (.expanded (uses.zipIdx.map (unpackedFrom id))) ∧
      ∀ u ∈ uses, Json.parse u.2.compact = .ok u.2 := by
  constructor
  · have hread := PackedUse.parseAll_packing hentries hvalues hdepth
    have hunpack : unpack ⟨id, kind, ⟨parallelName, (packing entries).compact⟩⟩ =
        .ok (uses.zipIdx.map (unpackedFrom id)) := by
      refine unpack_eq_ok_iff.2 (.inr ⟨isPacked_eq_true_iff.2 rfl, _, hread, ?_⟩)
      exact (ofPacked_map_ofPair id hnames 0).symm
    have hall : unpackAll [⟨id, kind, ⟨parallelName, (packing entries).compact⟩⟩] =
        .ok (uses.zipIdx.map (unpackedFrom id)) := by
      rw [unpackAll, hunpack]
      simp [unpackAll, Except.map]
    rw [repair, if_pos (any_isPacked_iff.2 ⟨_, List.mem_singleton_self _, rfl⟩), hall, Except.map]
  · intro u hu
    have hlimit : Json.depthLimit = 124 + 3 := rfl
    have hdeep := hentries.depth_le (hlimit ▸ hdepth) u hu
    exact Json.Exact.parse_compact ((hvalues u hu).exact (Nat.le_trans hdeep (by decide)))

/-- Two calls to be packed.  The first one's name has the beginning that packing puts
in front, and its parameters have a text to be escaped and the largest integer. -/
def twoUses : List (String × Json) :=
  [("functions.f", .obj [("q\"\n", .arr [.num (.int 18446744073709551615), .null])]),
    ("g", .str "é\u0001\\")]

/-- Their entries, with the members in different orders. -/
def twoEntries : List Json :=
  [.obj [PackedUse.recipientMember "functions.f",
      PackedUse.parametersMember
        (.obj [("q\"\n", .arr [.num (.int 18446744073709551615), .null])])],
    .obj [PackedUse.parametersMember (.str "é\u0001\\"), PackedUse.recipientMember "g"]]

theorem repair_packing_twoUses :
    Entries twoUses twoEntries ∧ (packing twoEntries).depth = 5 ∧
      repair [⟨"p", "function", ⟨parallelName, (packing twoEntries).compact⟩⟩] =
        .ok (.expanded [
          .ofFunction "p_0" "functions.f" "\x7b\"q\\\"\\n\":[18446744073709551615,null]\x7d",
          .ofFunction "p_1" "g" "\"é\\u0001\\\\\""]) ∧
        ∀ u ∈ twoUses, Json.parse u.2.compact = .ok u.2 := by
  have hentries : Entries twoUses twoEntries := .cons (.inl rfl) (.cons (.inr rfl) .nil)
  have hdepth : (packing twoEntries).depth = 5 := by decide +kernel
  have hnames : ∀ u ∈ twoUses, u.1 ≠ parallelName := by decide
  have hdict : Json.Exact 2 (.ofDict (.ofList
      [("q\"\n", .arr [.num (.int 18446744073709551615), .null])])) := by
    refine .obj fun e he => ?_
    obtain rfl : e = _ := List.mem_singleton.1 he
    refine .arr (List.forall_mem_cons.2 ⟨.nat (by decide), ?_⟩)
    exact List.forall_mem_cons.2 ⟨.null, List.forall_mem_nil _⟩
  have hvalues : ∀ u ∈ twoUses, u.2.Integral :=
    List.forall_mem_cons.2 ⟨⟨2, hdict⟩,
      List.forall_mem_cons.2 ⟨⟨0, .str _⟩, List.forall_mem_nil _⟩⟩
  obtain ⟨hrepair, hparse⟩ := repair_packing "p" "function" hnames hvalues hentries
    (by rw [hdepth]; decide)
  have htexts : twoUses.zipIdx.map (unpackedFrom "p") = [
      .ofFunction "p_0" "functions.f" "\x7b\"q\\\"\\n\":[18446744073709551615,null]\x7d",
      .ofFunction "p_1" "g" "\"é\\u0001\\\\\""] := by decide +kernel
  exact ⟨hentries, hdepth, htexts ▸ hrepair, hparse⟩

end ToolCall

end CanonicalReply
