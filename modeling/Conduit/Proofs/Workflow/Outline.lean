import Conduit.Catalog
import Conduit.Proofs.Json.Reread
import Conduit.Proofs.Workflow.Document
import Conduit.Proofs.Workflow.Validity

/-!
# What the checks of a workflow look at

Whether a workflow is valid depends on the ids of its steps and on the ends and paths of its
mappings, and on nothing else. The catalog leaves these alone, stamping does, and so does a document
wherever it can be read.

* `Definition.outline`, `Definition.valid_iff_of_outline` — what the checks look at;
* `Definition.outline_hydrate`, `Definition.outline_stamped` — schemas, versions and moments are not
  part of it;
* `Definition.reread`, `Definition.Valid.eq_of_reloaded` — a workflow after it went through a
  document.
-/

namespace Conduit

/-- A mapping without its transform and its value: its ends, and the paths there. -/
def Mapping.wire (m : Mapping) : Mapping := { m with transform := none, value := .null }

/-- What the checks of a workflow look at: the ids of its steps and the wires of its mappings. -/
def Definition.outline (d : Definition) : Definition where
  id := ""
  name := ""
  steps := d.stepIds.map fun id => { id := id, kind := .controlFlow }
  mappings := d.mappings.map Mapping.wire

namespace Definition

theorem stepIds_outline (d : Definition) : d.outline.stepIds = d.stepIds := by
  simp [outline, stepIds]

theorem fits_outline (d : Definition) (m : Mapping) : d.outline.Fits m.wire ↔ d.Fits m := by
  rw [Fits, Fits, stepIds_outline]
  exact ⟨fun ⟨ends, paths⟩ => ⟨⟨ends.1, ends.2⟩, ⟨paths.1, paths.2, paths.3⟩⟩,
    fun ⟨ends, paths⟩ => ⟨⟨ends.1, ends.2⟩, ⟨paths.1, paths.2, paths.3⟩⟩⟩

theorem feeds_outline (d : Definition) : d.outline.Feeds = d.Feeds := by
  funext source target
  refine propext ⟨?_, ?_⟩
  · rintro ⟨m, hm, hsource, htarget⟩
    obtain ⟨n, hn, rfl⟩ := List.mem_map.1 hm
    exact ⟨n, hn, hsource, htarget⟩
  · rintro ⟨m, hm, hsource, htarget⟩
    exact ⟨m.wire, List.mem_map_of_mem hm, hsource, htarget⟩

/-- A workflow is as it should be when its outline is. -/
theorem valid_outline (d : Definition) : d.outline.Valid ↔ d.Valid := by
  have hids : d.outline.IdsFit ↔ d.IdsFit := by rw [IdsFit, IdsFit, stepIds_outline]
  have hmappings : (∀ m ∈ d.outline.mappings, d.outline.Fits m) ↔ ∀ m ∈ d.mappings, d.Fits m := by
    simp only [outline, List.forall_mem_map]
    exact forall₂_congr fun m _ => d.fits_outline m
  have hplaces : Unambiguous d.outline.mappings ↔ Unambiguous d.mappings := List.pairwise_map
  have hacyclic : d.outline.Acyclic ↔ d.Acyclic := by rw [Acyclic, Acyclic, feeds_outline]
  constructor
  · intro h
    exact ⟨hids.1 h.ids, hmappings.1 h.mappings, hplaces.1 h.places, hacyclic.1 h.acyclic⟩
  · intro h
    exact ⟨hids.2 h.ids, hmappings.2 h.mappings, hplaces.2 h.places, hacyclic.2 h.acyclic⟩

/-- Of two workflows with the same outline both are as they should be, or neither. -/
theorem valid_iff_of_outline {d d' : Definition} (h : d'.outline = d.outline) :
    d'.Valid ↔ d.Valid := by
  rw [← valid_outline d', h, valid_outline]

/-! ## The catalog and the stamp -/

theorem id_hydrateStep (c : Catalog) (s : Step) : (c.hydrateStep s).id = s.id := by
  unfold Catalog.hydrateStep
  split
  · split <;> rfl
  · rfl

/-- The catalog fills in schemas alone. -/
theorem outline_hydrate (c : Catalog) (d : Definition) : (c.hydrate d).outline = d.outline := by
  have hids : (c.hydrate d).stepIds = d.stepIds := by
    simp only [stepIds, Catalog.hydrate, List.map_map, Function.comp_def, id_hydrateStep]
  rw [outline, hids]
  rfl

theorem outline_stamped (d : Definition) (previous : Option Definition) (now : Moment) :
    (d.stamped previous now).outline = d.outline := rfl

end Definition

/-! ## Documents -/

/-- A step after it went through a document. -/
def Step.reread (s : Step) : Step :=
  { s with
    inputSchema := Members.ofPairs (Value.rereadMembers s.inputSchema)
    outputSchema := Members.ofPairs (Value.rereadMembers s.outputSchema)
    config := Members.ofPairs (Value.rereadMembers s.config) }

/-- A mapping after it went through a document. -/
def Mapping.reread (m : Mapping) : Mapping := { m with value := m.value.reread }

/-- A workflow after it went through a document. -/
def Definition.reread (d : Definition) : Definition :=
  { d with
    steps := d.steps.map Step.reread
    mappings := d.mappings.map Mapping.reread
    inputSchema := Members.ofPairs (Value.rereadMembers d.inputSchema) }

theorem Step.reread_encode (s : Step) : s.encode.reread = s.reread.encode := by
  simp only [encode, Value.reread, Value.rereadMembers, Value.reread_ofText?]
  exact congrArg Value.object (Json.ofPairs_eq (by simp [Members.keys]))

theorem Mapping.reread_encode (m : Mapping) : m.encode.reread = m.reread.encode := by
  simp only [encode, Value.reread, Value.rereadMembers, Value.reread_ofText?]
  exact congrArg Value.object (Json.ofPairs_eq (by simp [Members.keys]))

namespace Definition

theorem reread_plain (d : Definition) : d.plain.reread = d.reread.plain := by
  simp only [plain, Value.reread, Value.rereadMembers, Value.rereadItems_eq, Value.reread_ofText?,
    List.map_map, Function.comp_def, Step.reread_encode, Mapping.reread_encode]
  refine (congrArg Value.object (Json.ofPairs_eq (by simp [Members.keys]))).trans ?_
  simp only [reread, List.map_map, Function.comp_def]

/-- The ids of the ends of its mappings stand for them in a workflow that is as it should be. -/
theorem Valid.ends {d : Definition} (h : d.Valid) {m : Mapping} (hm : m ∈ d.mappings) :
    Origin.ofId m.source.id = m.source ∧ Destination.ofId m.target.id = m.target := by
  obtain ⟨⟨hsource, htarget⟩, -⟩ := h.mappings m hm
  have hallowed : ∀ id ∈ d.stepIds, id ≠ "__input__" ∧ id ≠ "__static__" ∧ id ≠ "__output__" := by
    intro id hid
    simpa [reservedIds, Origin.id, Destination.id] using h.ids.2 id hid
  constructor
  · rcases hsource with heq | heq | ⟨id, hid, heq⟩ <;> rw [heq]
    · rfl
    · rfl
    · obtain ⟨hinput, hfixed, -⟩ := hallowed id hid
      rw [Origin.id, Origin.ofId, if_neg hinput, if_neg hfixed]
  · rcases htarget with heq | ⟨id, hid, heq⟩ <;> rw [heq]
    · rfl
    · rw [Destination.id, Destination.ofId, if_neg (hallowed id hid).2.2]

theorem outline_finite (d : Definition) : d.finite.outline = d.outline := by
  simp only [outline, stepIds, finite, List.map_map]
  rfl

theorem outline_reread (d : Definition) : d.reread.outline = d.outline := by
  simp only [outline, stepIds, reread, List.map_map]
  rfl

/-- Whatever workflow is read of the document of a workflow that is as it should be is that
workflow, but for what a document leaves out and for the moment of its last change. -/
theorem Valid.eq_of_reloaded {d d' : Definition} (valid : d.Valid) {id : String}
    (h : FileTree.reloaded id d = .ok d') :
    d' = { d.finite.reread with lastModified := d'.lastModified } := by
  obtain ⟨text, htext, h⟩ := except_bind_eq_ok.1 h
  have hpage : Json.page? 0 d.encode = some text := by
    cases hdocument : FileTree.documentText d with
    | error fault =>
      rw [hdocument] at htext
      cases htext
    | ok found =>
      rw [hdocument] at htext
      cases htext
      exact FileTree.page?_of_documentText hdocument
  have hvalid : d.finite.reread.Valid :=
    (valid_iff_of_outline ((outline_reread _).trans (outline_finite d))).2 valid
  unfold FileTree.definitionOf at h
  split at h
  · cases h
  · cases h
  · next members hread =>
    have hmembers : Value.object members = d.finite.reread.plain := by
      rw [Json.eq_reread_of_readChars hpage hread]
      exact (congrArg Value.reread d.encode_eq).trans (reread_plain _)
    have hdecode := ofValue_plain_eq fun m hm => hvalid.ends hm
    rw [← hmembers] at hdecode
    change Definition.decode .notRecord members = _ at hdecode
    rw [hdecode] at h
    split at h
    · next hok =>
      cases h
      obtain ⟨modified, rfl⟩ := Decode.exists_of_map_eq_ok hok
      rfl
    · cases h
  · cases h

theorem Valid.of_reloaded {d d' : Definition} (valid : d.Valid) {id : String}
    (h : FileTree.reloaded id d = .ok d') : d'.id = d.id ∧ d'.Valid := by
  have heq := valid.eq_of_reloaded h
  have houtline : d'.outline = d.outline := by
    rw [heq]
    exact (outline_reread _).trans (outline_finite d)
  refine ⟨?_, (valid_iff_of_outline houtline).2 valid⟩
  rw [heq]
  rfl

end Definition

end Conduit
