import Conduit.Proofs.Store.Files
import Conduit.Proofs.Workflow.Outline

/-!
# Stores of valid workflows

A store that valid workflows alone were put into holds valid workflows alone: in memory as they are,
in files by their documents. What is loaded from either is valid, and where a request to store a
workflow fails, what is stored stays as it was.

* `Store.Sound` — a store holds valid workflows only;
* `Store.Sound.load`, `Store.Sound.list` — what is loaded and listed;
* `Store.Unchanged`, `Store.Refuses` — what a request that fails leaves, and why it fails;
* `Store.Sound.save_cases`, `Store.Sound.delete`, `Store.Sound.saveListing` — the requests.
-/

namespace Conduit

/-- Every workflow of a store in memory is valid and stands under its id, and under no other. -/
structure MemoryStore.Sound (m : MemoryStore) : Prop where
  distinct : (m.definitions.map (·.1)).Nodup
  valid : ∀ id d, m.definitions.lookup id = some d → d.id = id ∧ d.Valid

namespace MemoryStore.Sound

variable {m : MemoryStore}

theorem put (h : m.Sound) {d : Definition} (valid : d.Valid) :
    MemoryStore.Sound { m with definitions := putEntry d.id d m.definitions } where
  distinct := nodup_keys_putEntry h.distinct
  valid id other hother := by
    rw [lookup_putEntry] at hother
    split at hother
    · next heq =>
      cases hother
      exact ⟨heq.symm, valid⟩
    · exact h.valid id other hother

theorem delete (h : m.Sound) (id : String) : (m.delete id).1.Sound := by
  unfold MemoryStore.delete
  split
  · refine ⟨h.distinct.sublist (List.filter_sublist.map _), fun other d hd => ?_⟩
    rw [MemoryStore.without, lookup_filter_bne] at hd
    split at hd
    · cases hd
    · exact h.valid other d hd
  · exact h

theorem saveListing (h : m.Sound) (id code : String) : (m.saveListing id code).1.Sound :=
  ⟨h.distinct, h.valid⟩

end MemoryStore.Sound

namespace FileTree

theorem isSafeId_of_directoryOf {id : String} {path : List String}
    (h : directoryOf id = .ok path) : isSafeId id := by
  unfold directoryOf at h
  split at h
  · assumption
  · cases h

variable {t : FileTree} {m : MemoryStore}

/-- A workflow is not stored when it cannot be told which one it replaces. -/
theorem saveDefinition_eq_error {d : Definition} {now : Moment} {trouble : Trouble}
    (h : t.previous d.id = .error trouble) : t.saveDefinition d now = (t, .error trouble) := by
  have hprepared : t.prepared d now = .error trouble := by
    unfold prepared
    cases hdirectory : directoryOf d.id with
    | error e =>
      unfold previous at h
      rw [hdirectory] at h
      cases h
      rfl
    | ok path =>
      rw [h]
      rfl
  rw [saveDefinition, hprepared]

/-- What is loaded from the documents of valid workflows is valid. -/
theorem Keeps.valid (h : Keeps t m) (sound : m.Sound) {id : String} {d : Definition}
    (hload : t.loadDefinition id = .ok d) : d.id = id ∧ d.Valid := by
  obtain ⟨path, hpath, -⟩ := except_bind_eq_ok.1 hload
  rw [h.loadDefinition_eq (isSafeId_of_directoryOf hpath)] at hload
  split at hload
  · next stored hstored =>
    obtain ⟨rfl, hvalid⟩ := sound.valid id stored hstored
    exact hvalid.of_reloaded hload
  · cases hload

theorem kind_of_definitionOf_eq_error {id text : String} {f : Failure}
    (h : definitionOf id text = .error (.failure f)) : f.kind = .definitionStore := by
  unfold definitionOf at h
  split at h
  · cases h
  · cases h
    rfl
  · split at h <;> cases h
    rfl
  · cases h

theorem kind_of_loadDefinition_eq_error {id : String} {f : Failure}
    (h : t.loadDefinition id = .error (.failure f)) :
    f.kind = .workflowNotFound ∨ f.kind = .definitionStore := by
  rcases except_bind_eq_error.1 h with hdirectory | ⟨path, -, hload⟩
  · unfold directoryOf at hdirectory
    split at hdirectory <;> cases hdirectory
    exact .inr rfl
  · dsimp only at hload
    split at hload
    · rcases except_bind_eq_error.1 hload with hread | ⟨text, -, hdefinition⟩
      · cases hfile : t.read? (path ++ [definitionName]) <;> rw [hfile] at hread <;> cases hread
      · exact .inr (kind_of_definitionOf_eq_error hdefinition)
    · cases hload
      exact .inl rfl

/-- What is listed was loaded under some name. -/
theorem exists_loadDefinition {names : List String} {l : List Definition}
    (h : t.loadAll names = .ok l) : ∀ d ∈ l, ∃ name, t.loadDefinition name = .ok d := by
  induction names generalizing l with
  | nil =>
    cases h
    simp
  | cons name rest ih =>
    rw [loadAll] at h
    split at h
    · next d hd =>
      obtain ⟨more, hmore, hl⟩ := except_bind_eq_ok.1 h
      cases hl
      exact List.forall_mem_cons.2 ⟨⟨name, hd⟩, ih hmore⟩
    · split at h
      · exact ih h
      · cases h
    · cases h

end FileTree

namespace Store

/-- A store holds valid workflows only, be it as they are or by their documents. -/
def Sound : Store → Prop
  | memory m => m.Sound
  | files t => ∃ m : MemoryStore, m.Sound ∧ t.Keeps m

/-- The workflow that a new one of an id replaces. -/
def replaced : Store → String → Except Trouble (Option Definition)
  | memory m, id => .ok (m.definitions.lookup id)
  | files t, id => t.previous id

/-- What is stored is the same later on: the workflows and the listings, and in files every file.
Only directories may have been made meanwhile. -/
def SameContents : Store → Store → Prop
  | memory m, memory m' => m' = m
  | files t, files t' =>
    t'.root = t.root ∧ t'.files = t.files ∧ ∀ path ∈ t.directories, path ∈ t'.directories
  | _, _ => False

/-- What is stored is the same later on, and is loaded and listed as before. -/
structure Unchanged (s s' : Store) : Prop where
  /-- It is the same. -/
  contents : s.SameContents s'
  /-- It is loaded as before. -/
  load : ∀ id, s'.load id = s.load id
  /-- It is listed as before. -/
  list : s'.list = s.list

theorem Unchanged.refl (s : Store) : s.Unchanged s where
  contents := by
    cases s
    · exact rfl
    · exact ⟨rfl, rfl, fun _ h => h⟩
  load _ := rfl
  list := rfl

/-- Why a store does not store a workflow: it cannot be told which one it replaces, or it is to be
written into a file and something in it has no place in a document. -/
def Refuses (s : Store) (d : Definition) (trouble : Trouble) : Prop :=
  s.replaced d.id = .error trouble ∨
    (∃ before, s.replaced d.id = .ok before) ∧ (∃ t, s = files t) ∧
      ∃ flaw, d.documentFlaw? = some flaw ∧ trouble = .fault (.notDocument flaw)

/-- Where a workflow cannot be loaded for a failure, it is not stored or cannot be read. -/
theorem kind_of_load_eq_error {s : Store} {id : String} {f : Failure}
    (h : s.load id = .error (.failure f)) :
    f.kind = .workflowNotFound ∨ f.kind = .definitionStore := by
  cases s with
  | memory m =>
    change m.load id = _ at h
    unfold MemoryStore.load at h
    split at h <;> cases h
    exact .inl rfl
  | files t => exact FileTree.kind_of_loadDefinition_eq_error h

/-- A new store holds nothing. -/
theorem sound_ofKind {kind root : String} {s : Store} (h : ofKind kind root = .ok s) : s.Sound := by
  have hempty : MemoryStore.Sound {} := ⟨.nil, by simp⟩
  unfold ofKind at h
  split at h
  · cases h
    exact ⟨{}, hempty, .empty root⟩
  · split at h
    · cases h
      exact hempty
    · cases h

namespace Sound

variable {s : Store}

/-- Whatever is loaded is valid, and has the id that was asked for. -/
theorem load (h : s.Sound) {id : String} {d : Definition} (hload : s.load id = .ok d) :
    d.id = id ∧ d.Valid := by
  cases s with
  | memory m =>
    change m.load id = .ok d at hload
    unfold MemoryStore.load at hload
    split at hload
    · next found hfound =>
      cases hload
      exact h.valid id _ hfound
    · cases hload
  | files t =>
    obtain ⟨m, sound, keeps⟩ := h
    exact keeps.valid sound hload

/-- Whatever is listed is loaded under its id. -/
theorem list (h : s.Sound) {l : List Definition} (hlist : s.list = .ok l) {d : Definition}
    (hd : d ∈ l) : s.load d.id = .ok d := by
  cases s with
  | memory m =>
    cases hlist
    obtain ⟨⟨id, stored⟩, hentry, rfl⟩ := List.mem_map.1 hd
    have hfound := (mem_iff_lookup h.distinct).1 ((MemoryStore.perm_sorted _).mem_iff.1 hentry)
    change m.load stored.id = .ok stored
    rw [MemoryStore.load, (h.valid id stored hfound).1, hfound]
  | files t =>
    obtain ⟨m, sound, keeps⟩ := h
    obtain ⟨name, hname⟩ := FileTree.exists_loadDefinition hlist d hd
    change t.loadDefinition d.id = .ok d
    rw [(keeps.valid sound hname).1, hname]

/-- A workflow is stored, or there is a reason why not; then what is stored stays as it was. -/
theorem save_cases (h : s.Sound) (d : Definition) (now : Moment) :
    (∃ before, s.replaced d.id = .ok before ∧ (s.save d now).2 = .ok (d.stamped before now) ∧
        (d.Valid → (s.save d now).1.Sound)) ∨
      ∃ trouble, (s.save d now).2 = .error trouble ∧ s.Refuses d trouble ∧
        (s.save d now).1.Sound ∧ s.Unchanged (s.save d now).1 := by
  have hstamped : ∀ before, d.Valid → (d.stamped before now).Valid := fun before =>
    (Definition.valid_iff_of_outline (d.outline_stamped before now)).2
  cases s with
  | memory m =>
    exact .inl ⟨_, rfl, rfl, fun valid => MemoryStore.Sound.put h (hstamped _ valid)⟩
  | files t =>
    obtain ⟨m, sound, keeps⟩ := h
    cases hbefore : t.previous d.id with
    | error trouble =>
      rw [Store.save, FileTree.saveDefinition_eq_error hbefore]
      exact .inr ⟨trouble, rfl, .inl hbefore, ⟨m, sound, keeps⟩, .refl _⟩
    | ok before =>
      cases htext : FileTree.documentText (d.stamped before now) with
      | ok text =>
        obtain ⟨t', hsave, hkeeps, -⟩ := keeps.save d now hbefore htext
        rw [Store.save, hsave]
        refine .inl ⟨before, hbefore, rfl, fun valid => ?_⟩
        exact ⟨_, sound.put (hstamped before valid), hkeeps⟩
      | error fault =>
        obtain ⟨hsave, hkeeps⟩ := keeps.save_failing d now hbefore htext
        obtain ⟨flaw, hflaw, rfl⟩ := FileTree.documentText_eq_error_iff.1 htext
        rw [Store.save, hsave]
        refine .inr ⟨_, rfl, .inr ⟨⟨before, hbefore⟩, ⟨t, rfl⟩, flaw, hflaw, rfl⟩,
          ⟨m, sound, hkeeps⟩, ⟨⟨?_, FileTree.Laid.files_addDirectory t _, ?_⟩,
            congrFun (keeps.loadDefinition_congr hkeeps), keeps.definitions_congr hkeeps⟩⟩
        · unfold FileTree.addDirectory
          split <;> rfl
        · exact fun path hpath => (FileTree.Laid.mem_addDirectory t d.id path).2 (.inr hpath)

theorem delete (h : s.Sound) (id : String) : (s.delete id).1.Sound := by
  cases s with
  | memory m => exact MemoryStore.Sound.delete h id
  | files t =>
    obtain ⟨m, sound, keeps⟩ := h
    rw [Store.delete]
    by_cases safe : FileTree.isSafeId id
    · rw [keeps.deleteDefinition_eq safe]
      have hremoved := sound.delete id
      rw [MemoryStore.delete] at hremoved
      split
      · next there =>
        rw [if_pos there] at hremoved
        exact ⟨_, hremoved, keeps.removed id⟩
      · exact ⟨m, sound, keeps⟩
    · have hstored : ∃ trouble, t.stored id = .error trouble := by
        unfold FileTree.stored FileTree.directoryOf
        rw [if_neg safe]
        exact ⟨_, rfl⟩
      obtain ⟨trouble, hstored⟩ := hstored
      rw [FileTree.deleteDefinition, hstored]
      exact ⟨m, sound, keeps⟩

theorem saveListing (h : s.Sound) (id code : String) : (s.saveListing id code).1.Sound := by
  cases s with
  | memory m => exact MemoryStore.Sound.saveListing h id code
  | files t =>
    obtain ⟨m, sound, keeps⟩ := h
    rw [Store.saveListing]
    by_cases safe : FileTree.isSafeId id
    · obtain ⟨t', path, hsaved, hkeeps, -⟩ := keeps.saveListing safe code
      rw [hsaved]
      exact ⟨_, sound.saveListing id code, hkeeps⟩
    · rw [FileTree.saveListing, FileTree.directoryOf, if_neg safe]
      exact ⟨m, sound, keeps⟩

end Sound

end Store

end Conduit
