import Conduit.Proofs.Json.Document
import Conduit.Proofs.Time.Document
import Conduit.Store.Basic

/-!
# Documents of workflows

A workflow comes out of its document as it went in, apart from infinities and NaN.
-/

namespace Conduit

/-- A step without infinities and NaN. -/
def Step.finite (s : Step) : Step :=
  { s with
    inputSchema := Value.finiteMembers s.inputSchema
    outputSchema := Value.finiteMembers s.outputSchema
    config := Value.finiteMembers s.config }

/-- A mapping without infinities and NaN. -/
def Mapping.finite (m : Mapping) : Mapping := { m with value := m.value.finite }

/-- A workflow without infinities and NaN. -/
def Definition.finite (d : Definition) : Definition :=
  { d with
    steps := d.steps.map Step.finite
    mappings := d.mappings.map Mapping.finite
    inputSchema := Value.finiteMembers d.inputSchema }

/-- How many lists and objects may stand inside each other in the values of a workflow. -/
def Definition.nestingLimit : Nat := 250

/-- A step that a document can hold. -/
structure Step.Storable (s : Step) : Prop where
  /-- A document can hold what its input looks like. -/
  inputSchema : (Value.object s.inputSchema).fits Definition.nestingLimit
  /-- A document can hold what its output looks like. -/
  outputSchema : (Value.object s.outputSchema).fits Definition.nestingLimit
  /-- A document can hold its settings. -/
  config : (Value.object s.config).fits Definition.nestingLimit

/-- A mapping that a document can hold. -/
structure Mapping.Storable (m : Mapping) : Prop where
  /-- The id of its source stands for it. -/
  source : Origin.ofId m.source.id = m.source
  /-- The id of its target stands for it. -/
  target : Destination.ofId m.target.id = m.target
  /-- A document can hold its value. -/
  value : m.value.fits Definition.nestingLimit

/-- A workflow that a store in files can hold. -/
structure Definition.Storable (d : Definition) : Prop where
  /-- Its id may be the name of a directory. -/
  id : FileTree.isSafeId d.id
  /-- A document can hold its steps. -/
  steps : ∀ s ∈ d.steps, s.Storable
  /-- A document can hold its mappings. -/
  mappings : ∀ m ∈ d.mappings, m.Storable
  /-- A document can hold what its inputs look like. -/
  inputSchema : (Value.object d.inputSchema).fits nestingLimit

/-- A workflow that was stored. -/
structure Definition.Stored (d : Definition) : Prop where
  /-- A store in files can hold it. -/
  storable : d.Storable
  /-- Its version is not too long to be read. -/
  version : Numeral.isShort d.version.natAbs
  /-- It was stored at a reading of a clock. -/
  lastModified : ∃ m, d.lastModified = some m ∧ m.IsReading

/-! ## Decoding -/

namespace Decode

variable {α : Type}

theorem field_eq {m : Members} {name : String} {v : Value} {inner : Decoder α} {a : α}
    (there : m.get? name = some v) (h : inner v = .ok a) : field m name inner = .ok a := by
  rw [field, there]
  simp only [h]
  rfl

theorem optional_eq {m : Members} {name : String} {v : Value} {inner : Decoder α} {absent a : α}
    (there : m.get? name = some v) (h : inner v = .ok a) :
    optional m name absent inner = .ok a := by
  rw [optional, there]
  simp only [h]
  rfl

theorem map_eq {β : Type} (f : α → β) {x : Decoded α} {a : α} (h : x = .ok a) :
    f <$> x = .ok (f a) := by
  rw [h]
  rfl

theorem seq_eq {β : Type} {f : Decoded (α → β)} {x : Decoded α} {g : α → β} {a : α}
    (hf : f = .ok g) (hx : x = .ok a) : f <*> x = .ok (g a) := by
  rw [hf, hx]
  rfl

/-- Behind good fields a record is as good as its last field. -/
theorem seq_last {β : Type} {f : Decoded (α → β)} {g : α → β} (hf : f = .ok g) (x : Decoded α) :
    f <*> x = x.map g := by
  rw [hf]
  cases x <;> rfl

theorem exists_of_map_eq_ok {β : Type} {f : α → β} {x : Decoded α} {b : β}
    (h : (x.map f).toExcept = .ok b) : ∃ a, b = f a := by
  cases x with
  | ok a =>
    cases h
    exact ⟨a, rfl⟩
  | bad first more => cases h

theorem nullable_text (t : Option String) : nullable text (.ofText? t) = .ok t := by
  cases t <;> rfl

theorem list_map {inner : Decoder α} {encode : α → Value} {l : List α}
    (h : ∀ a ∈ l, inner (encode a) = .ok a) : list inner (.list (l.map encode)) = .ok l := by
  have hitems : ∀ (l : List α) (index : Nat), (∀ a ∈ l, inner (encode a) = .ok a) →
      items inner index (l.map encode) = .ok l := by
    intro l
    induction l with
    | nil => intro _ _; rfl
    | cons a rest ih =>
      intro index h
      rw [List.map_cons, items, h a (List.mem_cons_self ..),
        ih (index + 1) fun b hb => h b (List.mem_cons_of_mem _ hb)]
      rfl
  exact hitems l 0 h

end Decode

open Decode

theorem StepKind.word_name (k : StepKind) :
    word .notWord (StepKind.all.map fun k => (k.name, k)) (.str k.name) = .ok k := by
  cases k <;> rfl

/-- A step is decoded from its members. -/
theorem Step.decode_encode (otherwise : IssueKind) (s : Step) :
    record otherwise Step.decode s.encode = .ok s := by
  obtain ⟨id, kind, name, description, toolkit, action, table, code, input, output, config⟩ := s
  simp only [record, Step.encode, Step.decode]
  -- the fields from the last to the first
  refine seq_eq ?_ (optional_eq rfl rfl)
  refine seq_eq ?_ (optional_eq rfl rfl)
  refine seq_eq ?_ (optional_eq rfl rfl)
  refine seq_eq ?_ (optional_eq rfl (nullable_text code))
  refine seq_eq ?_ (optional_eq rfl (nullable_text table))
  refine seq_eq ?_ (optional_eq rfl (nullable_text action))
  refine seq_eq ?_ (optional_eq rfl (nullable_text toolkit))
  refine seq_eq ?_ (optional_eq rfl (nullable_text description))
  refine seq_eq ?_ (optional_eq rfl rfl)
  refine seq_eq ?_ (field_eq rfl kind.word_name)
  exact map_eq Step.mk (field_eq rfl rfl)

/-- A mapping is decoded from its members when the ids of its ends stand for them. -/
theorem Mapping.decode_encode (otherwise : IssueKind) {m : Mapping}
    (source : Origin.ofId m.source.id = m.source)
    (target : Destination.ofId m.target.id = m.target) :
    record otherwise Mapping.decode m.encode = .ok m := by
  obtain ⟨origin, sourcePath, destination, targetPath, transform, value⟩ := m
  simp only [record, Mapping.encode, Mapping.decode]
  refine seq_eq ?_ (optional_eq rfl rfl)
  refine seq_eq ?_ (optional_eq rfl (nullable_text transform))
  refine seq_eq ?_ (field_eq rfl rfl)
  refine seq_eq ?_ (field_eq rfl (congrArg Decoded.ok target))
  refine seq_eq ?_ (optional_eq rfl rfl)
  exact map_eq Mapping.mk (field_eq rfl (congrArg Decoded.ok source))

/-- A workflow is decoded from its members as far as the moment of its last change is, when the ids
of the ends of its mappings stand for them. -/
theorem Definition.ofValue_plain_eq {d : Definition}
    (ends : ∀ m ∈ d.mappings, Origin.ofId m.source.id = m.source ∧
      Destination.ofId m.target.id = m.target) :
    Definition.ofValue d.plain =
      ((nullable moment (.ofText? (d.lastModified.map Moment.documentText))).under
        (.field "last_modified")).map fun modified => { d with lastModified := modified } := by
  have hsteps := list_map fun s (_ : s ∈ d.steps) => Step.decode_encode .notRecord s
  have hmappings := list_map fun m (hm : m ∈ d.mappings) =>
    Mapping.decode_encode .notRecord (ends m hm).1 (ends m hm).2
  obtain ⟨id, name, description, steps, mappings, input, version, lastModified⟩ := d
  simp only [ofValue, record, plain, Definition.decode]
  refine seq_last (g := Definition.mk id name description steps mappings input version) ?_ _
  refine seq_eq ?_ (optional_eq rfl rfl)
  refine seq_eq ?_ (optional_eq rfl rfl)
  refine seq_eq ?_ (optional_eq rfl hmappings)
  refine seq_eq ?_ (optional_eq rfl hsteps)
  refine seq_eq ?_ (optional_eq rfl rfl)
  refine seq_eq ?_ (field_eq rfl rfl)
  exact map_eq Definition.mk (field_eq rfl rfl)

/-- A workflow is decoded from its members when the ids of the ends of its mappings stand for them
and it was stored at a reading of a clock. -/
theorem Definition.ofValue_plain {d : Definition}
    (ends : ∀ m ∈ d.mappings, Origin.ofId m.source.id = m.source ∧
      Destination.ofId m.target.id = m.target)
    (reading : ∀ m ∈ d.lastModified, m.IsReading) : Definition.ofValue d.plain = .ok d := by
  have hmoment : nullable moment (.ofText? (d.lastModified.map Moment.documentText)) =
      .ok d.lastModified := by
    cases hm : d.lastModified with
    | none => rfl
    | some m =>
      have hread := moment_documentText (reading m hm)
      change (moment (.str m.documentText)).map some = _
      rw [hread]
      rfl
  rw [ofValue_plain_eq ends, hmoment]
  rfl

/-! ## Encoding -/

@[simp] theorem Value.finite_ofText? (t : Option String) : (ofText? t).finite = ofText? t := by
  cases t <;> rfl

theorem Step.finite_encode (s : Step) : s.encode.finite = s.finite.encode := by
  simp only [encode, Value.finite, Value.finiteMembers, Value.finite_ofText?]
  rfl

theorem Mapping.finite_encode (m : Mapping) : m.encode.finite = m.finite.encode := by
  simp only [encode, Value.finite, Value.finiteMembers, Value.finite_ofText?]
  rfl

/-- The document of a workflow is made of what is left of it without infinities and NaN. -/
theorem Definition.encode_eq (d : Definition) : d.encode = d.finite.plain := by
  simp only [encode, plain, Value.finite, Value.finiteMembers, Value.finiteItems_eq, List.map_map,
    Value.finite_ofText?, Function.comp_def, Step.finite_encode, Mapping.finite_encode, finite]

theorem Step.finite_finite (s : Step) : s.finite.finite = s.finite := by
  simp only [finite, Value.finiteMembers_finite]

theorem Mapping.finite_finite (m : Mapping) : m.finite.finite = m.finite := by
  simp only [finite, Value.finite_finite]

theorem Definition.finite_finite (d : Definition) : d.finite.finite = d.finite := by
  simp only [finite, List.map_map, Function.comp_def, Step.finite_finite, Mapping.finite_finite,
    Value.finiteMembers_finite]

theorem Value.fits_ofText? (t : Option String) (room : Nat) : (ofText? t).fits room := by
  cases t <;> simp [ofText?, fits]

/-! ## Documents -/

theorem Step.Storable.fits_encode {s : Step} (h : s.Storable) :
    s.encode.fits (Definition.nestingLimit + 1) := by
  refine Value.fits_object.2 ⟨by simp [Members.keys], ?_⟩
  simp [Value.fitMembers, Value.fits_ofText?, Value.fits_str, h.inputSchema, h.outputSchema,
    h.config]

theorem Mapping.Storable.fits_encode {m : Mapping} (h : m.Storable) :
    m.encode.fits (Definition.nestingLimit + 1) := by
  refine Value.fits_object.2 ⟨by simp [Members.keys], ?_⟩
  simp [Value.fitMembers, Value.fits_ofText?, Value.fits_str, h.value]

/-- A document can hold a stored workflow. -/
theorem Definition.Stored.fits_plain {d : Definition} (h : d.Stored) :
    d.plain.fits (nestingLimit + 3) := by
  have hsteps : (Value.list (d.steps.map Step.encode)).fits (nestingLimit + 2) :=
    Value.fits_list.2 fun v hv => by
      obtain ⟨s, hs, rfl⟩ := List.mem_map.1 hv
      exact (h.storable.steps s hs).fits_encode
  have hmappings : (Value.list (d.mappings.map Mapping.encode)).fits (nestingLimit + 2) :=
    Value.fits_list.2 fun v hv => by
      obtain ⟨m, hm, rfl⟩ := List.mem_map.1 hv
      exact (h.storable.mappings m hm).fits_encode
  have hinputs : (Value.object d.inputSchema).fits (nestingLimit + 2) :=
    Value.fits_mono h.storable.inputSchema (by omega)
  have hversion : (Value.int d.version).fits (nestingLimit + 2) := by
    simpa [Value.fits] using h.version
  refine Value.fits_object.2 ⟨by simp [Members.keys], ?_⟩
  simp [Value.fitMembers, Value.fits_ofText?, Value.fits_str, hsteps, hmappings, hinputs, hversion]

/-! ## Texts of workflows -/

theorem Value.documentFlaw?_ofText? (t : Option String) (room : Nat) :
    (ofText? t).documentFlaw? (room + 1) = none := by
  cases t <;> rfl

theorem Value.documentFlaw?_str (t : String) (room : Nat) :
    (str t).documentFlaw? (room + 1) = none := rfl

theorem Step.documentFlaw?_encode {s : Step} {room : Nat}
    (h : ∀ v ∈ s.values, v.documentFlaw? room = none) :
    s.encode.documentFlaw? (room + 2) = none := by
  have hschema : ∀ members : Members, (∀ m ∈ members, m.2 ∈ s.values) →
      (Value.object members).documentFlaw? (room + 1) = none := by
    intro members hmem
    refine Value.documentFlaw?_succ_eq_none_iff.2 ⟨by simp, List.forall_mem_map.2 fun m hm => ?_⟩
    exact h m.2 (hmem m hm)
  have hinput := hschema s.inputSchema fun m hm => by
    simp only [values, List.map_append, List.mem_append, List.mem_map]
    exact .inl (.inl ⟨m, hm, rfl⟩)
  have houtput := hschema s.outputSchema fun m hm => by
    simp only [values, List.map_append, List.mem_append, List.mem_map]
    exact .inl (.inr ⟨m, hm, rfl⟩)
  have hconfig := hschema s.config fun m hm => by
    simp only [values, List.map_append, List.mem_append, List.mem_map]
    exact .inr ⟨m, hm, rfl⟩
  refine Value.documentFlaw?_succ_eq_none_iff.2 ⟨by simp [encode], ?_⟩
  simp [encode, Value.children, Value.documentFlaw?_ofText?, Value.documentFlaw?_str, hinput,
    houtput, hconfig]

theorem Mapping.documentFlaw?_encode {m : Mapping} {room : Nat}
    (h : m.value.documentFlaw? (room + 1) = none) :
    m.encode.documentFlaw? (room + 2) = none := by
  refine Value.documentFlaw?_succ_eq_none_iff.2 ⟨by simp [encode], ?_⟩
  simp [encode, Value.children, Value.documentFlaw?_ofText?, Value.documentFlaw?_str, h]

/-- A workflow has a document when all values that it holds have a place there. -/
theorem Definition.exists_page {d : Definition} (h : d.documentFlaw? = none) :
    ∃ text, Json.page? 0 d.encode = some text := by
  have hvalues : ∀ v ∈ d.values, v.documentFlaw? Value.documentDepth = none :=
    List.findSome?_eq_none_iff.1 h
  simp only [values, List.mem_append, List.mem_flatMap, List.mem_map] at hvalues
  have hsteps : ∀ s ∈ d.steps, s.encode.documentFlaw? (Value.documentDepth + 2) = none :=
    fun s hs => Step.documentFlaw?_encode fun v hv => hvalues v (.inl (.inl ⟨s, hs, hv⟩))
  have hmappings : ∀ m ∈ d.mappings, m.encode.documentFlaw? (Value.documentDepth + 2) = none :=
    fun m hm => Mapping.documentFlaw?_encode
      (Value.documentFlaw?_mono (hvalues m.value (.inl (.inr ⟨m, hm, rfl⟩))) (Nat.le_succ _))
  have hinputs : ∀ m ∈ d.inputSchema, m.2.documentFlaw? (Value.documentDepth + 2) = none :=
    fun m hm => Value.documentFlaw?_mono (hvalues m.2 (.inr ⟨m, hm, rfl⟩)) (by omega)
  have hplain : d.plain.documentFlaw? (Value.documentDepth + 4) = none := by
    refine Value.documentFlaw?_succ_eq_none_iff.2 ⟨by simp [plain], ?_⟩
    simp only [plain, Value.children, List.map_cons, List.map_nil, List.forall_mem_cons]
    have hlist : ∀ {items : List Value},
        (∀ v ∈ items, v.documentFlaw? (Value.documentDepth + 2) = none) →
          (Value.list items).documentFlaw? (Value.documentDepth + 3) = none :=
      fun h => Value.documentFlaw?_succ_eq_none_iff.2 ⟨by simp, h⟩
    have hobject : (Value.object d.inputSchema).documentFlaw? (Value.documentDepth + 3) = none :=
      Value.documentFlaw?_succ_eq_none_iff.2 ⟨by simp, List.forall_mem_map.2 hinputs⟩
    exact ⟨rfl, rfl, rfl, hlist (List.forall_mem_map.2 hsteps),
      hlist (List.forall_mem_map.2 hmappings), hobject, rfl, Value.documentFlaw?_ofText? _ _,
      by simp⟩
  exact Json.exists_page ((Value.documentFlaw?_finite _ _).2 hplain) 0

namespace FileTree

/-- The text of a workflow that has a place in a document. -/
theorem exists_documentText {d : Definition} (h : d.documentFlaw? = none) :
    ∃ text, documentText d = .ok text ∧ Json.page? 0 d.encode = some text := by
  obtain ⟨text, htext⟩ := d.exists_page h
  exact ⟨text, by rw [documentText, h, htext], htext⟩

theorem page?_of_documentText {d : Definition} {text : String} (h : documentText d = .ok text) :
    Json.page? 0 d.encode = some text := by
  unfold documentText at h
  split at h
  · next hpage =>
    cases h
    exact hpage
  · cases h

/-- What keeps a workflow out of a document is what its file is not written for. -/
theorem documentText_eq_error_iff {d : Definition} {fault : Fault} :
    documentText d = .error fault ↔
      ∃ flaw, d.documentFlaw? = some flaw ∧ fault = .notDocument flaw := by
  cases hflaw : d.documentFlaw? with
  | none =>
    obtain ⟨text, htext, -⟩ := exists_documentText hflaw
    simp [htext]
  | some flaw =>
    rw [documentText, hflaw]
    simp [eq_comm]

/-- A workflow after it went through its document, unless that is not written or not read. -/
def reloaded (id : String) (d : Definition) : Except Trouble Definition := do
  definitionOf id (← lift (documentText d))

end FileTree

theorem Value.documentFlaw?_of_fits_object {members : Members} {room : Nat}
    (h : (Value.object members).fits room) (hlt : room < Value.documentDepth) :
    ∀ m ∈ members, m.2.documentFlaw? Value.documentDepth = none := by
  intro m hm
  rw [Value.fits, Bool.and_eq_true, Value.fitMembers_iff] at h
  exact Value.documentFlaw?_of_fits (h.2 m hm) (by omega)

/-- What a store in files can hold has a place in a document. -/
theorem Definition.Storable.documentFlaw?_eq_none {d : Definition} (h : d.Storable) :
    d.documentFlaw? = none := by
  have hroom : nestingLimit < Value.documentDepth := by decide
  have hmembers := fun {members : Members} (h : (Value.object members).fits nestingLimit) =>
    Value.documentFlaw?_of_fits_object h hroom
  refine List.findSome?_eq_none_iff.2 fun v hv => ?_
  simp only [values, Step.values, List.map_append, List.mem_append, List.mem_flatMap,
    List.mem_map] at hv
  rcases hv with (⟨s, hs, (⟨m, hm, rfl⟩ | ⟨m, hm, rfl⟩) | ⟨m, hm, rfl⟩⟩ | ⟨m, hm, rfl⟩) |
    ⟨m, hm, rfl⟩
  · exact hmembers (h.steps s hs).inputSchema m hm
  · exact hmembers (h.steps s hs).outputSchema m hm
  · exact hmembers (h.steps s hs).config m hm
  · exact Value.documentFlaw?_of_fits (h.mappings m hm).value hroom
  · exact hmembers h.inputSchema m hm

/-- The document of a stored workflow stands for it, but for infinities and NaN. -/
theorem Definition.Stored.reloaded {d : Definition} (h : d.Stored) (id : String) :
    FileTree.reloaded id d = .ok d.finite := by
  obtain ⟨m, hm, hreading⟩ := h.lastModified
  have hdecode : Definition.ofValue d.finite.plain = .ok d.finite := by
    refine ofValue_plain ?_ ?_
    · intro p hp
      obtain ⟨q, hq, rfl⟩ := List.mem_map.1 hp
      exact ⟨(h.storable.mappings q hq).source, (h.storable.mappings q hq).target⟩
    · intro p hp
      obtain rfl : m = p := Option.some.inj (hm.symm.trans hp)
      exact hreading
  have hfits : d.finite.plain.fits Json.depthLimit := by
    rw [← encode_eq]
    exact Value.fits_mono (Value.fits_finite h.fits_plain) (by decide)
  have hself : d.finite.plain.finite = d.finite.plain := by
    rw [← encode, encode_eq, finite_finite]
  obtain ⟨text, hdocument, htext⟩ :=
    FileTree.exists_documentText h.storable.documentFlaw?_eq_none
  obtain ⟨members, hmembers⟩ : ∃ l, d.finite.plain = .object l := ⟨_, rfl⟩
  rw [encode_eq, hmembers] at htext
  rw [hmembers] at hdecode hfits hself
  have hread := Json.readChars_page htext hfits
  rw [← Value.finite, hself] at hread
  rw [FileTree.reloaded, hdocument]
  change FileTree.definitionOf id text = _
  rw [FileTree.definitionOf, hread]
  dsimp only
  rw [show Definition.decode .notRecord members = .ok d.finite from hdecode]
  rfl

/-- A short description says nothing of values. -/
theorem Definition.summary_finite (d : Definition) : d.finite.summary = d.summary := by
  have htoolkits : d.finite.toolkits = d.toolkits := by
    rw [toolkits, finite, List.filterMap_map]
    rfl
  rw [summary, htoolkits]
  simp [finite, summary]

end Conduit
