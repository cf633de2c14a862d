import Conduit.Proofs.Workflow.Document
import Mathlib.Data.List.Nodup
import Mathlib.Data.List.Perm.Basic

/-!
# The files of a store

A store in files has the same workflows and listings as a store in memory: one directory for each
id that has either, with the document of the workflow and the listing in it.

* `FileTree.Keeps` — the files hold the documents of what a store in memory holds;
* `FileTree.Mirrors` — they hold the workflows and listings themselves;
* `FileTree.Mirrors.load`, `save`, `delete`, `list`, `saveListing` — each request finds and leaves
  both stores so.
-/

namespace Conduit

/-! ## Entries -/

/-- The first entry is found under its key, every other one behind it. -/
theorem lookup_first {κ α : Type} [BEq κ] [LawfulBEq κ] [DecidableEq κ] (key other : κ) (a : α)
    (rest : List (κ × α)) :
    ((key, a) :: rest).lookup other = if other = key then some a else rest.lookup other := by
  rw [List.lookup_cons]
  by_cases h : other = key
  · simp [h]
  · rw [beq_eq_false_iff_ne.2 h, if_neg h]

theorem lookup_putEntry {α : Type} (key other : String) (a : α) (l : List (String × α)) :
    (putEntry key a l).lookup other = if other = key then some a else l.lookup other := by
  induction l with
  | nil => rw [putEntry, lookup_first]
  | cons entry rest ih =>
    obtain ⟨k, b⟩ := entry
    rw [putEntry]
    by_cases hk : k = key
    · rw [if_pos hk, lookup_first, lookup_first, hk]
      split <;> rfl
    · rw [if_neg hk, lookup_first, lookup_first, ih]
      by_cases h : other = k
      · rw [if_pos h, if_pos h, if_neg (h ▸ hk)]
      · rw [if_neg h, if_neg h]

theorem lookup_filter_bne {κ α : Type} [BEq κ] [LawfulBEq κ] [DecidableEq κ] (key other : κ)
    (l : List (κ × α)) :
    (l.filter fun entry => entry.1 != key).lookup other =
      if other = key then none else l.lookup other := by
  induction l with
  | nil => simp
  | cons entry rest ih =>
    obtain ⟨k, b⟩ := entry
    rw [lookup_first]
    by_cases hk : k = key
    · rw [List.filter_cons_of_neg (by simp [hk]), ih, hk]
      split <;> rfl
    · rw [List.filter_cons_of_pos (by simp [hk]), lookup_first, ih]
      by_cases h : other = k
      · rw [if_pos h, if_pos h, if_neg (h ▸ hk)]
      · rw [if_neg h, if_neg h]

theorem mem_keys_iff {κ α : Type} [BEq κ] [LawfulBEq κ] [DecidableEq κ] {key : κ}
    {l : List (κ × α)} : key ∈ l.map (·.1) ↔ (l.lookup key).isSome := by
  induction l with
  | nil => simp
  | cons entry rest ih =>
    obtain ⟨k, b⟩ := entry
    rw [lookup_first, List.map_cons, List.mem_cons, ih]
    by_cases h : key = k <;> simp [h]

/-- Under distinct keys an entry is what is found under its key. -/
theorem mem_iff_lookup {κ α : Type} [BEq κ] [LawfulBEq κ] [DecidableEq κ] {key : κ} {a : α}
    {l : List (κ × α)} (h : (l.map (·.1)).Nodup) : (key, a) ∈ l ↔ l.lookup key = some a := by
  induction l with
  | nil => simp
  | cons entry rest ih =>
    obtain ⟨k, b⟩ := entry
    rw [List.map_cons, List.nodup_cons] at h
    rw [lookup_first, List.mem_cons, ih h.2, Prod.mk.injEq]
    by_cases hk : key = k
    · have hnot : rest.lookup key ≠ some a := fun hl =>
        h.1 (hk ▸ mem_keys_iff.2 (by rw [hl]; rfl))
      simp [hk, eq_comm, hk ▸ hnot]
    · simp [hk]

theorem keys_putEntry {α : Type} (key : String) (a : α) (l : List (String × α)) :
    (putEntry key a l).map (·.1) =
      if key ∈ l.map (·.1) then l.map (·.1) else l.map (·.1) ++ [key] := by
  induction l with
  | nil => simp [putEntry]
  | cons entry rest ih =>
    obtain ⟨k, b⟩ := entry
    by_cases hk : k = key
    · simp [putEntry, hk]
    · by_cases h : key ∈ rest.map (·.1) <;>
        simp_all [putEntry, Ne.symm hk]

theorem nodup_keys_putEntry {α : Type} {key : String} {a : α} {l : List (String × α)}
    (h : (l.map (·.1)).Nodup) : ((putEntry key a l).map (·.1)).Nodup := by
  rw [keys_putEntry]
  split
  · exact h
  · next hkey => exact List.nodup_append.2 ⟨h, by simp, by
      rintro b hb c hc rfl
      rw [List.mem_singleton] at hc
      exact hkey (hc ▸ hb)⟩

/-! ## Order of names -/

namespace FileTree

theorem perm_insertName (name : String) (l : List String) :
    (insertName name l).Perm (name :: l) := by
  induction l with
  | nil => rfl
  | cons other rest ih =>
    rw [insertName]
    split
    · exact (ih.cons other).trans (.swap name other rest)
    · rfl

theorem ascending_insertName {name : String} {l : List String} (h : l.Pairwise (· ≤ ·)) :
    (insertName name l).Pairwise (· ≤ ·) := by
  induction l with
  | nil => simp [insertName]
  | cons other rest ih =>
    rw [List.pairwise_cons] at h
    rw [insertName]
    split
    · next hlt =>
      refine List.pairwise_cons.2 ⟨fun b hb => ?_, ih h.2⟩
      rcases List.mem_cons.1 ((perm_insertName name rest).mem_iff.1 hb) with rfl | hb
      · exact Std.le_of_not_ge fun hle => String.not_le.2 hlt hle
      · exact h.1 b hb
    · next hnot =>
      have hle : name ≤ other := String.not_lt.1 hnot
      refine List.pairwise_cons.2 ⟨fun b hb => ?_, List.pairwise_cons.2 h⟩
      rcases List.mem_cons.1 hb with rfl | hb
      · exact hle
      · exact String.le_trans hle (h.1 b hb)

theorem perm_sortNames (l : List String) : (l.foldr insertName []).Perm l := by
  induction l with
  | nil => rfl
  | cons name rest ih => exact (perm_insertName name _).trans (ih.cons name)

theorem ascending_sortNames (l : List String) : (l.foldr insertName []).Pairwise (· ≤ ·) := by
  induction l with
  | nil => exact .nil
  | cons name rest ih => exact ascending_insertName ih

/-- Ascending lists of the same names are the same. -/
theorem eq_of_ascending {l l' : List String} (h : l.Pairwise (· ≤ ·)) (h' : l'.Pairwise (· ≤ ·))
    (hperm : l.Perm l') : l = l' :=
  hperm.eq_of_pairwise (fun _ _ _ _ => String.le_antisymm) h h'

end FileTree

/-- Whether a store in memory has anything under an id. -/
def MemoryStore.has (m : MemoryStore) (id : String) : Prop :=
  (m.definitions.lookup id).isSome ∨ (m.listings.lookup id).isSome

theorem MemoryStore.keys_insertById (entry : String × Definition)
    (l : List (String × Definition)) :
    (insertById entry l).map (·.1) = FileTree.insertName entry.1 (l.map (·.1)) := by
  induction l with
  | nil => rfl
  | cons other rest ih =>
    rw [insertById, List.map_cons, FileTree.insertName]
    split
    · rw [List.map_cons, ih]
    · rfl

theorem MemoryStore.keys_sorted (l : List (String × Definition)) :
    (l.foldr insertById []).map (·.1) = (l.map (·.1)).foldr FileTree.insertName [] := by
  induction l with
  | nil => rfl
  | cons entry rest ih => rw [List.foldr_cons, keys_insertById, ih, List.map_cons, List.foldr_cons]

theorem MemoryStore.perm_insertById (entry : String × Definition)
    (l : List (String × Definition)) : (insertById entry l).Perm (entry :: l) := by
  induction l with
  | nil => rfl
  | cons other rest ih =>
    rw [insertById]
    split
    · exact (ih.cons other).trans (.swap entry other rest)
    · rfl

theorem MemoryStore.perm_sorted (l : List (String × Definition)) :
    (l.foldr insertById []).Perm l := by
  induction l with
  | nil => rfl
  | cons entry rest ih => exact (perm_insertById entry _).trans (ih.cons entry)

namespace FileTree

theorem lookup_putFile (path other : List String) (text : String)
    (l : List (List String × String)) :
    (putFile path text l).lookup other = if other = path then some text else l.lookup other := by
  induction l with
  | nil => rw [putFile, lookup_first]
  | cons entry rest ih =>
    obtain ⟨k, b⟩ := entry
    rw [putFile]
    by_cases hk : k = path
    · rw [if_pos hk, lookup_first, lookup_first, hk]
      split <;> rfl
    · rw [if_neg hk, lookup_first, lookup_first, ih]
      by_cases h : other = k
      · rw [if_pos h, if_pos h, if_neg (h ▸ hk)]
      · rw [if_neg h, if_neg h]

/-! ## The files of workflows -/

/-- Where the document of a workflow is. -/
abbrev documentPath (id : String) : List String := [id, definitionName]

/-- Where the listing of a workflow is. -/
abbrev listingPath (id : String) : List String := [id, listingName]

theorem documentPath_ne_listingPath (id other : String) : documentPath id ≠ listingPath other := by
  simp [definitionName, listingName]

/-- The files lie where those of a store in memory would. A directory may have nothing in it. -/
structure Laid (t : FileTree) (m : MemoryStore) : Prop where
  /-- There are no files but documents and listings. -/
  file : ∀ path, (t.files.lookup path).isSome → ∃ id, path = documentPath id ∨ path = listingPath id
  /-- Every directory has the name of an id. -/
  directory : ∀ path ∈ t.directories, ∃ id, path = [id] ∧ isSafeId id
  /-- There is a directory for every id. -/
  place : ∀ id, m.has id → [id] ∈ t.directories
  /-- There is one directory for an id. -/
  once : t.directories.Nodup

namespace Laid

variable {t : FileTree} {m : MemoryStore}

theorem safe_of_mem (h : Laid t m) {id : String} (hid : [id] ∈ t.directories) : isSafeId id := by
  obtain ⟨other, heq, safe⟩ := h.directory _ hid
  cases heq
  exact safe

/-- Every id may be the name of a directory. -/
theorem safe (h : Laid t m) {id : String} (has : m.has id) : isSafeId id :=
  h.safe_of_mem (h.place id has)

theorem pair_notMem (h : Laid t m) (id name : String) : [id, name] ∉ t.directories := by
  intro hmem
  obtain ⟨other, heq, -⟩ := h.directory _ hmem
  cases heq

theorem isDirectory_pair (h : Laid t m) (id name : String) : t.isDirectory [id, name] = false := by
  rw [isDirectory, List.isEmpty_cons, Bool.false_or, List.contains_eq_mem, decide_eq_false_iff_not]
  exact h.pair_notMem id name

theorem isFile_single (h : Laid t m) (id : String) : t.isFile [id] = false := by
  rw [isFile, ← Bool.not_eq_true]
  intro hsome
  obtain ⟨other, heq | heq⟩ := h.file _ hsome <;> cases heq

theorem mem_addDirectory (t : FileTree) (id : String) (path : List String) :
    path ∈ (t.addDirectory [id]).directories ↔ path = [id] ∨ path ∈ t.directories := by
  unfold addDirectory isDirectory
  split
  · next h =>
    have hmem : [id] ∈ t.directories := by simpa using h
    exact ⟨.inr, fun h => h.elim (fun heq => heq ▸ hmem) fun h => h⟩
  · simp [or_comm]

theorem once_addDirectory (once : t.directories.Nodup) (id : String) :
    (t.addDirectory [id]).directories.Nodup := by
  unfold addDirectory isDirectory
  split
  · exact once
  · next h =>
    have hnot : [id] ∉ t.directories := by simpa using h
    exact List.nodup_append.2 ⟨once, by simp, by
      rintro path hpath other hother rfl
      exact hnot (List.mem_singleton.1 hother ▸ hpath)⟩

theorem makeDirectory (h : Laid t m) (id : String) :
    t.makeDirectory [id] = .ok (t.addDirectory [id]) := by
  change (if t.isFile [id] then _ else Except.ok (t.addDirectory [id])) = _
  rw [h.isFile_single]
  rfl

theorem files_addDirectory (t : FileTree) (path : List String) :
    (t.addDirectory path).files = t.files := by
  unfold addDirectory
  split <;> rfl

/-- A directory alone leaves the files where they lie. -/
theorem addDirectory (h : Laid t m) {id : String} (safe : isSafeId id) :
    Laid (t.addDirectory [id]) m where
  file path hpath := h.file path (by rwa [files_addDirectory] at hpath)
  directory path hpath := by
    rcases (mem_addDirectory t id path).1 hpath with rfl | hpath
    · exact ⟨id, rfl, safe⟩
    · exact h.directory path hpath
  place other has := (mem_addDirectory t id _).2 (.inr (h.place other has))
  once := once_addDirectory h.once id

theorem write (h : Laid t m) {id : String} (safe : isSafeId id) (name text : String) :
    (t.addDirectory [id]).write [id, name] text =
      .ok { t.addDirectory [id] with files := putFile [id, name] text t.files } := by
  rw [FileTree.write, (h.addDirectory safe).isDirectory_pair, files_addDirectory]
  rfl

/-- A file is placed in the directory of an id, or there is no text to write. -/
theorem place_eq (h : Laid t m) {id : String} (safe : isSafeId id) (name : String)
    (text : Except Fault String) :
    FileTree.place t [id] name text =
      match text with
      | .ok text =>
        ({ t.addDirectory [id] with files := putFile [id, name] text t.files }, .ok ())
      | .error fault => (t.addDirectory [id], .error fault) := by
  rw [FileTree.place, h.makeDirectory]
  cases text with
  | error fault => rfl
  | ok text =>
    simp only [bind, Except.bind, List.singleton_append, h.write safe]

theorem nameIn_eq_some {directory path : List String} {name : String} :
    nameIn directory path = some name ↔ path = directory ++ [name] := by
  unfold nameIn
  constructor
  · intro h
    split at h
    · split at h
      · next heq =>
        cases h
        exact heq.symm
      · cases h
    · cases h
  · rintro rfl
    simp

/-- The files without those of an id. -/
def without (t : FileTree) (id : String) : FileTree :=
  { t with
    files := (t.files.filter fun entry => entry.1 != documentPath id).filter fun entry =>
      entry.1 != listingPath id }

theorem lookup_without (t : FileTree) (id : String) (path : List String) :
    (without t id).files.lookup path =
      if path = documentPath id ∨ path = listingPath id then none else t.files.lookup path := by
  rw [without, lookup_filter_bne, lookup_filter_bne]
  by_cases hl : path = listingPath id <;> by_cases hd : path = documentPath id <;> simp [hl, hd]

/-- Without its files nothing is left in the directory of an id. -/
theorem names_without (h : Laid t m) (id : String) : (without t id).names [id] = [] := by
  have hnone : ∀ path ∈ (without t id).files.map (·.1) ++ (without t id).directories,
      nameIn [id] path = none := by
    intro path hpath
    rw [Option.eq_none_iff_forall_ne_some]
    intro name hname
    obtain rfl := nameIn_eq_some.1 hname
    rcases List.mem_append.1 hpath with hfile | hdirectory
    · rw [mem_keys_iff, lookup_without] at hfile
      split at hfile
      · cases hfile
      · next hnot =>
        obtain ⟨other, heq | heq⟩ := h.file _ hfile <;> cases heq <;> simp at hnot
    · exact absurd hdirectory (h.pair_notMem id name)
  rw [names, List.filterMap_eq_nil_iff.2 hnone]
  rfl

/-- Removing the files of an id removes its directory. -/
theorem remove (h : Laid t m) {m' : MemoryStore} {id : String}
    (has : ∀ other, m'.has other ↔ other ≠ id ∧ m.has other) :
    Laid ((without t id).removeIfEmpty [id]) m' := by
  rw [removeIfEmpty, h.names_without]
  constructor
  case file =>
    intro path hpath
    change ((without t id).files.lookup path).isSome at hpath
    rw [lookup_without] at hpath
    split at hpath
    · cases hpath
    · exact h.file path hpath
  case directory => exact fun path hpath => h.directory path (List.mem_of_mem_filter hpath)
  case place =>
    intro other hother
    obtain ⟨hne, hother⟩ := (has other).1 hother
    exact List.mem_filter.2 ⟨h.place other hother, by simpa using hne⟩
  case once => exact h.once.filter _

/-- Writing a file of an id adds the id. -/
theorem put (h : Laid t m) {m' : MemoryStore} {id : String} (safe : isSafeId id)
    (has : ∀ other, m'.has other ↔ other = id ∨ m.has other) {path : List String}
    (hpath : path = documentPath id ∨ path = listingPath id) (text : String) :
    Laid { t.addDirectory [id] with files := putFile path text t.files } m' where
  file other hother := by
    rw [lookup_putFile] at hother
    split at hother
    · next heq => exact ⟨id, heq ▸ hpath⟩
    · exact h.file other hother
  directory := (h.addDirectory safe).directory
  place other hother := by
    refine (mem_addDirectory t id _).2 ?_
    rcases (has other).1 hother with rfl | hother
    · exact .inl rfl
    · exact .inr (h.place other hother)
  once := once_addDirectory h.once id

end Laid

end FileTree

/-! ## What a store in memory has after a request -/

namespace MemoryStore

theorem has_put (m : MemoryStore) (key : String) (d : Definition) (id : String) :
    MemoryStore.has { m with definitions := putEntry key d m.definitions } id ↔
      id = key ∨ m.has id := by
  rw [MemoryStore.has, lookup_putEntry]
  by_cases h : id = key <;> simp [h, MemoryStore.has]

theorem has_saveListing (m : MemoryStore) (id code other : String) :
    (m.saveListing id code).1.has other ↔ other = id ∨ m.has other := by
  rw [MemoryStore.has, MemoryStore.saveListing, lookup_putEntry]
  by_cases h : other = id <;> simp [h, MemoryStore.has]

theorem has_without (m : MemoryStore) (id other : String) :
    (m.without id).has other ↔ other ≠ id ∧ m.has other := by
  rw [MemoryStore.has, MemoryStore.without, lookup_filter_bne, lookup_filter_bne]
  by_cases heq : other = id <;> simp [heq, MemoryStore.has]

end MemoryStore

namespace FileTree

/-! ## Documents -/

/-- The files hold the documents of the workflows that a store in memory holds. -/
structure Keeps (t : FileTree) (m : MemoryStore) : Prop extends Laid t m where
  /-- No two workflows have the same id. -/
  distinct : (m.definitions.map (·.1)).Nodup
  /-- Every workflow has its document. -/
  document : ∀ id,
    (t.files.lookup (documentPath id)).map .ok = (m.definitions.lookup id).map documentText

namespace Keeps

variable {t : FileTree} {m : MemoryStore}

/-- A new tree has nothing to hold. -/
theorem empty (root : String) : Keeps { root := root } {} where
  file := by simp
  directory := by simp
  place := by simp [MemoryStore.has]
  once := .nil
  distinct := .nil
  document := by simp

theorem isSome_document (h : Keeps t m) (id : String) :
    (t.files.lookup (documentPath id)).isSome = (m.definitions.lookup id).isSome := by
  simpa using congrArg Option.isSome (h.document id)

theorem exists_document (h : Keeps t m) (id : String) :
    t.exists? (documentPath id) = (m.definitions.lookup id).isSome := by
  rw [exists?, h.isDirectory_pair, Bool.or_false, isFile, h.isSome_document]

/-- What is loaded is what is read of the document. -/
theorem loadDefinition_eq (h : Keeps t m) {id : String} (safe : isSafeId id) :
    t.loadDefinition id =
      match m.definitions.lookup id with
      | some d => reloaded id d
      | none => .error (.failure (Failure.workflowNotFound id)) := by
  unfold loadDefinition
  rw [directoryOf, if_pos safe]
  change (if t.exists? (documentPath id) then _ else _) = _
  rw [h.exists_document]
  cases hd : m.definitions.lookup id with
  | none => rfl
  | some d =>
    have hdocument := h.document id
    rw [hd, Option.map_some, Option.map_eq_some_iff] at hdocument
    obtain ⟨text, hlookup, htext⟩ := hdocument
    have hread : t.read? (documentPath id) = .ok text := by rw [read?, hlookup]
    change (lift (t.read? (documentPath id)) >>= definitionOf id) = _
    rw [hread]
    dsimp only
    rw [reloaded, ← htext]

/-- Trees that hold the same documents load the same workflows. -/
theorem loadDefinition_congr (h : Keeps t m) {t' : FileTree} (h' : Keeps t' m) :
    t'.loadDefinition = t.loadDefinition := by
  funext id
  by_cases safe : isSafeId id
  · rw [h.loadDefinition_eq safe, h'.loadDefinition_eq safe]
  · unfold loadDefinition
    rw [directoryOf, if_neg safe]
    rfl

/-- Where a workflow is stored, and as what, is known when it is known what it replaces. -/
theorem prepared_eq {d : Definition} {before : Option Definition}
    (hprevious : t.previous d.id = .ok before) (now : Moment) :
    isSafeId d.id ∧ t.prepared d now = .ok ([d.id], d.stamped before now) := by
  have safe : isSafeId d.id := by
    unfold FileTree.previous directoryOf at hprevious
    split at hprevious
    · assumption
    · cases hprevious
  refine ⟨safe, ?_⟩
  unfold prepared
  rw [hprevious, directoryOf, if_pos safe]
  rfl

/-- Once it is known what it replaces, a workflow that has a text is stored with its document. -/
theorem save (h : Keeps t m) (d : Definition) (now : Moment) {before : Option Definition}
    (hprevious : t.previous d.id = .ok before) {text : String}
    (htext : documentText (d.stamped before now) = .ok text) :
    ∃ t', t.saveDefinition d now = (t', .ok (d.stamped before now)) ∧
      Keeps t' { m with definitions := putEntry d.id (d.stamped before now) m.definitions } ∧
      ∀ id, t'.files.lookup (listingPath id) = t.files.lookup (listingPath id) := by
  obtain ⟨safe, hprepared⟩ := prepared_eq hprevious now
  refine ⟨{ t.addDirectory [d.id] with files := putFile (documentPath d.id) text t.files }, ?_, ?_,
    fun id => ?_⟩
  · rw [saveDefinition, hprepared]
    dsimp only
    rw [h.place_eq safe, htext]
    rfl
  · refine { h.put safe (m.has_put d.id _) (.inl rfl) _ with
      distinct := nodup_keys_putEntry h.distinct
      document := fun id => ?_ }
    rw [lookup_putFile, lookup_putEntry]
    by_cases heq : id = d.id
    · rw [heq, if_pos rfl, if_pos rfl, Option.map_some, Option.map_some, htext]
    · rw [if_neg (by simpa using heq), if_neg heq]
      exact h.document id
  · rw [lookup_putFile, if_neg (documentPath_ne_listingPath _ _).symm]

/-- A workflow that has no text is not stored; a directory for it is left. -/
theorem save_failing (h : Keeps t m) (d : Definition) (now : Moment) {before : Option Definition}
    (hprevious : t.previous d.id = .ok before) {fault : Fault}
    (htext : documentText (d.stamped before now) = .error fault) :
    t.saveDefinition d now = (t.addDirectory [d.id], .error (.fault fault)) ∧
      Keeps (t.addDirectory [d.id]) m := by
  obtain ⟨safe, hprepared⟩ := prepared_eq hprevious now
  constructor
  · rw [saveDefinition, hprepared]
    dsimp only
    rw [h.place_eq safe, htext]
    rfl
  · refine { h.toLaid.addDirectory safe with distinct := h.distinct, document := fun id => ?_ }
    rw [Laid.files_addDirectory]
    exact h.document id

/-- A listing is kept beside the documents. -/
theorem saveListing (h : Keeps t m) {id : String} (safe : isSafeId id) (code : String) :
    ∃ t' path, t.saveListing id code = (t', .ok path) ∧ Keeps t' (m.saveListing id code).1 ∧
      ∀ other, t'.files.lookup (listingPath other) =
        if other = id then some code else t.files.lookup (listingPath other) := by
  refine ⟨{ t.addDirectory [id] with files := putFile (listingPath id) code t.files },
    t.pathText (listingPath id), ?_, ?_, fun other => ?_⟩
  · rw [FileTree.saveListing, directoryOf, if_pos safe]
    dsimp only
    rw [h.place_eq safe]
    rfl
  · refine { h.put safe (m.has_saveListing id code) (.inr rfl) _ with
      distinct := h.distinct
      document := fun other => ?_ }
    rw [lookup_putFile, if_neg (documentPath_ne_listingPath _ _)]
    exact h.document other
  · rw [lookup_putFile]
    by_cases heq : other = id
    · rw [heq, if_pos rfl, if_pos rfl]
    · rw [if_neg (by simpa using heq), if_neg heq]

/-- After the first of some files of a directory, the others are removed. -/
theorem removeAll_cons {t removed : FileTree} {directory : List String} {name : String}
    (h : t.remove (directory ++ [name]) = .ok removed) (rest : List String) :
    t.removeAll directory (name :: rest) = removed.removeAll directory rest := by
  rw [removeAll, h]

/-- Deleting a workflow removes both files of its id, and then its directory. -/
theorem deleteDefinition_eq (h : Keeps t m) {id : String} (safe : isSafeId id) :
    t.deleteDefinition id =
      if (m.definitions.lookup id).isSome then
        ((Laid.without t id).removeIfEmpty [id], .ok ())
      else (t, .error (.failure (Failure.workflowNotFound id))) := by
  have hstored : t.stored id =
      if (m.definitions.lookup id).isSome then .ok [id]
      else .error (.failure (Failure.workflowNotFound id)) := by
    unfold FileTree.stored
    rw [directoryOf, if_pos safe]
    change (if t.exists? (documentPath id) then _ else _) = _
    rw [h.exists_document]
    rfl
  rw [deleteDefinition, hstored]
  by_cases there : (m.definitions.lookup id).isSome
  · rw [if_pos there, if_pos there]
    have hremove : t.remove (documentPath id) = .ok
        { t with files := t.files.filter fun entry => entry.1 != documentPath id } := by
      rw [FileTree.remove, h.isDirectory_pair]
      rfl
    have hagain : FileTree.remove
        { t with files := t.files.filter fun entry => entry.1 != documentPath id }
        (listingPath id) = .ok (Laid.without t id) := by
      change (if t.isDirectory (listingPath id) then _ else _) = _
      rw [h.isDirectory_pair]
      rfl
    have hboth : t.removeAll [id] [definitionName, listingName] =
        ((Laid.without t id).removeIfEmpty [id], .ok ()) := by
      rw [removeAll_cons hremove, removeAll_cons hagain, removeAll]
    dsimp only
    rw [hboth]
    rfl
  · rw [if_neg there, if_neg there]

/-- Removing the files of an id leaves all others. -/
theorem lookup_removed (t : FileTree) (id : String) (path : List String) :
    ((Laid.without t id).removeIfEmpty [id]).files.lookup path =
      if path = documentPath id ∨ path = listingPath id then none else t.files.lookup path := by
  have hfiles : ((Laid.without t id).removeIfEmpty [id]).files = (Laid.without t id).files := by
    unfold removeIfEmpty
    split <;> rfl
  rw [hfiles, Laid.lookup_without]

/-- Without the files of an id there are the documents of what memory holds without its entries. -/
theorem removed (h : Keeps t m) (id : String) :
    Keeps ((Laid.without t id).removeIfEmpty [id]) (m.without id) := by
  refine { h.remove (m.has_without id) with
    distinct := h.distinct.sublist (List.filter_sublist.map _)
    document := fun other => ?_ }
  rw [lookup_removed, MemoryStore.without, lookup_filter_bne]
  by_cases heq : other = id
  · simp [heq]
  · simpa [heq, definitionName, listingName] using h.document other

/-! ### Listing -/

/-- The id of a workflow does not begin with a point. -/
theorem head_ne_point {id : String} (safe : isSafeId id) : id.toList.head? ≠ some '.' := by
  intro hhead
  have hpoint : isPlain '.' = false := by decide
  unfold isSafeId at safe
  obtain ⟨chars, hchars⟩ := List.head?_eq_some_iff.1 hhead
  cases hreverse : id.toList.reverse with
  | nil => simp [hchars] at hreverse
  | cons last rest =>
    have hlist : id.toList = rest.reverse ++ [last] := by
      rw [← List.reverse_reverse id.toList, hreverse, List.reverse_cons]
    rw [hreverse] at safe
    by_cases hlast : last = '\n'
    · subst hlast
      cases hrest : rest.reverse with
      | nil =>
        rw [hlist, hrest] at hchars
        cases hchars
      | cons c more =>
        rw [hlist, hrest, List.cons_append, List.cons.injEq] at hchars
        simp [hrest, hchars.1, hpoint] at safe
    · simp [hlast, hchars, hpoint] at safe

/-- The directories of workflows come in the order in which memory lists the workflows. -/
theorem names_eq (h : Keeps t m) :
    (t.names []).filter t.isWorkflow =
      (m.definitions.foldr MemoryStore.insertById []).map (·.1) := by
  have hmem : ∀ name, name ∈ (t.files.map (·.1) ++ t.directories).filterMap (nameIn []) ↔
      [name] ∈ t.directories := by
    intro name
    rw [List.mem_filterMap]
    constructor
    · rintro ⟨path, hpath, hname⟩
      obtain rfl := Laid.nameIn_eq_some.1 hname
      rcases List.mem_append.1 hpath with hfile | hdirectory
      · obtain ⟨other, heq | heq⟩ := h.file _ (mem_keys_iff.1 hfile) <;> cases heq
      · exact hdirectory
    · intro hname
      exact ⟨[name], List.mem_append_right _ hname, Laid.nameIn_eq_some.2 rfl⟩
  have hnodup : ((t.files.map (·.1) ++ t.directories).filterMap (nameIn [])).Nodup := by
    have hfiles : (t.files.map (·.1)).filterMap (nameIn []) = [] := by
      refine List.filterMap_eq_nil_iff.2 fun path hpath => ?_
      rw [Option.eq_none_iff_forall_ne_some]
      intro name hname
      obtain rfl := Laid.nameIn_eq_some.1 hname
      obtain ⟨other, heq | heq⟩ := h.file _ (mem_keys_iff.1 hpath) <;> cases heq
    rw [List.filterMap_append, hfiles, List.nil_append]
    refine h.once.filterMap fun path other name hpath hother => ?_
    rw [Laid.nameIn_eq_some.1 hpath, Laid.nameIn_eq_some.1 hother]
  have hworkflow : ∀ name, [name] ∈ t.directories →
      t.isWorkflow name = (m.definitions.lookup name).isSome := by
    intro name hname
    have hdirectory : t.isDirectory [name] = true := by simpa [isDirectory] using hname
    rw [isWorkflow, hdirectory, h.exists_document, Bool.true_and,
      bne_iff_ne.2 (head_ne_point (h.safe_of_mem hname)), Bool.true_and]
  rw [MemoryStore.keys_sorted]
  refine eq_of_ascending ((ascending_sortNames _).filter _) (ascending_sortNames _) ?_
  refine (((perm_sortNames _).filter _).trans ?_).trans (perm_sortNames _).symm
  rw [List.perm_ext_iff_of_nodup (hnodup.filter _) h.distinct]
  intro name
  rw [List.mem_filter, hmem, mem_keys_iff]
  exact ⟨fun ⟨hname, hw⟩ => hworkflow name hname ▸ hw,
    fun hd => ⟨h.place name (.inl hd), (hworkflow name (h.place name (.inl hd))).trans hd⟩⟩

/-- Trees that hold the same documents list the same workflows. -/
theorem definitions_congr (h : Keeps t m) {t' : FileTree} (h' : Keeps t' m) :
    t'.definitions = t.definitions := by
  have hload : ∀ names, t'.loadAll names = t.loadAll names := by
    intro names
    induction names with
    | nil => rfl
    | cons name rest ih => rw [loadAll, loadAll, h.loadDefinition_congr h', ih]
  rw [definitions, definitions, h.names_eq, h'.names_eq, hload]

end Keeps

/-- The files hold what a store in memory holds. -/
structure Mirrors (t : FileTree) (m : MemoryStore) : Prop extends Keeps t m where
  /-- Every workflow was stored under its id. -/
  stored : ∀ id d, m.definitions.lookup id = some d → d.Stored ∧ d.id = id
  /-- Every listing has its file. -/
  listing : ∀ id, (t.files.lookup (listingPath id)).isSome = (m.listings.lookup id).isSome

namespace Mirrors

variable {t : FileTree} {m : MemoryStore}

/-! ### Loading -/

/-- What is read from a file is what is in memory, but for infinities and NaN. -/
theorem load (h : Mirrors t m) {id : String} (safe : isSafeId id) :
    t.loadDefinition id = (m.load id).map Definition.finite := by
  rw [h.loadDefinition_eq safe, MemoryStore.load]
  cases hd : m.definitions.lookup id with
  | none => rfl
  | some d => exact (h.stored id d hd).1.reloaded id

theorem previous (h : Mirrors t m) {id : String} (safe : isSafeId id) :
    t.previous id = .ok ((m.definitions.lookup id).map Definition.finite) := by
  unfold FileTree.previous
  rw [directoryOf, if_pos safe]
  change (if t.exists? (documentPath id) then _ else _) = _
  rw [h.exists_document, h.load safe, MemoryStore.load]
  cases m.definitions.lookup id <;> rfl

/-! ### Saving -/

/-- Saving a workflow stores the same one in both stores. -/
theorem save (h : Mirrors t m) {d : Definition} {now : Moment}
    (stored : (m.save d now).2.Stored) :
    ∃ t', t.saveDefinition d now = (t', .ok (m.save d now).2) ∧ Mirrors t' (m.save d now).1 := by
  have safe : isSafeId d.id := stored.storable.id
  have hsame : d.stamped ((m.definitions.lookup d.id).map Definition.finite) now =
      (m.save d now).2 := by
    rw [MemoryStore.save]
    cases m.definitions.lookup d.id <;> rfl
  obtain ⟨text, htext, -⟩ := exists_documentText stored.storable.documentFlaw?_eq_none
  rw [← hsame] at htext
  obtain ⟨t', hsave, hkeeps, hlisting⟩ := h.toKeeps.save d now (h.previous safe) htext
  rw [hsame] at hsave hkeeps
  refine ⟨t', hsave, { hkeeps with
    stored := fun id d' hd => ?_
    listing := fun id => by rw [hlisting]; exact h.listing id }⟩
  rw [MemoryStore.save, lookup_putEntry] at hd
  split at hd
  · next heq =>
    cases hd
    exact ⟨stored, heq.symm⟩
  · exact h.stored id d' hd

/-- A listing is kept in both stores. -/
theorem saveListing (h : Mirrors t m) {id : String} (safe : isSafeId id) (code : String) :
    ∃ t' path, t.saveListing id code = (t', .ok path) ∧ Mirrors t' (m.saveListing id code).1 := by
  obtain ⟨t', path, hsave, hkeeps, hlisting⟩ := h.toKeeps.saveListing safe code
  refine ⟨t', path, hsave, { hkeeps with
    stored := h.stored
    listing := fun other => ?_ }⟩
  rw [hlisting, MemoryStore.saveListing, lookup_putEntry]
  split
  · rfl
  · exact h.listing other

/-! ### Deleting -/

/-- Without the files of an id the files hold what memory holds without its entries. -/
theorem removed (h : Mirrors t m) (id : String) :
    Mirrors ((Laid.without t id).removeIfEmpty [id]) (m.without id) := by
  refine { h.toKeeps.removed id with
    stored := fun other d' hother => ?_
    listing := fun other => ?_ }
  · rw [MemoryStore.without, lookup_filter_bne] at hother
    split at hother
    · cases hother
    · exact h.stored other d' hother
  · rw [Keeps.lookup_removed, MemoryStore.without, lookup_filter_bne]
    by_cases heq : other = id
    · simp [heq]
    · simpa [heq, definitionName, listingName] using h.listing other

/-- Deleting a workflow deletes it from both stores, or fails in both and leaves them. -/
theorem delete (h : Mirrors t m) {id : String} (safe : isSafeId id) :
    ∃ t', Mirrors t' (m.delete id).1 ∧ t.deleteDefinition id = (t', (m.delete id).2) := by
  rw [h.deleteDefinition_eq safe, MemoryStore.delete]
  split
  · exact ⟨_, h.removed id, rfl⟩
  · exact ⟨t, h, rfl⟩

/-! ### Listing -/

theorem loadAll_eq (h : Mirrors t m) {l : List (String × Definition)}
    (hl : ∀ entry ∈ l, m.definitions.lookup entry.1 = some entry.2) :
    t.loadAll (l.map (·.1)) = .ok (l.map fun entry => entry.2.finite) := by
  induction l with
  | nil => rfl
  | cons entry rest ih =>
    have hentry := hl entry (List.mem_cons_self ..)
    have hload : t.loadDefinition entry.1 = .ok entry.2.finite := by
      rw [h.load (h.safe (.inl (by rw [hentry]; rfl))), MemoryStore.load, hentry]
      rfl
    rw [List.map_cons, loadAll, hload, List.map_cons]
    change (do return entry.2.finite :: (← t.loadAll (rest.map Prod.fst))) = _
    have hrest : ∀ other ∈ rest, m.definitions.lookup other.1 = some other.2 := fun other hother =>
      hl other (List.mem_cons_of_mem _ hother)
    rw [ih hrest]
    rfl

/-- Both stores list the same workflows in the same order. -/
theorem list_eq (h : Mirrors t m) : t.definitions = .ok (m.sorted.map Definition.finite) := by
  have hentries : ∀ entry ∈ m.definitions.foldr MemoryStore.insertById [],
      m.definitions.lookup entry.1 = some entry.2 := by
    intro entry hentry
    exact (mem_iff_lookup h.distinct).1 ((MemoryStore.perm_sorted _).mem_iff.1 hentry)
  rw [FileTree.definitions, h.names_eq, h.loadAll_eq hentries, MemoryStore.sorted, List.map_map]
  rfl

theorem mem_sorted (h : Mirrors t m) (d : Definition) :
    d ∈ m.sorted ↔ m.definitions.lookup d.id = some d := by
  rw [MemoryStore.sorted, List.mem_map]
  constructor
  · rintro ⟨⟨id, d⟩, hentry, rfl⟩
    have hd := (mem_iff_lookup h.distinct).1 ((MemoryStore.perm_sorted _).mem_iff.1 hentry)
    rwa [(h.stored id d hd).2]
  · intro hd
    exact ⟨(d.id, d), (MemoryStore.perm_sorted _).mem_iff.2 ((mem_iff_lookup h.distinct).2 hd), rfl⟩

theorem ids_sorted (h : Mirrors t m) :
    m.sorted.map (·.id) = (m.definitions.map (·.1)).foldr insertName [] := by
  rw [← MemoryStore.keys_sorted, MemoryStore.sorted, List.map_map]
  refine List.map_congr_left fun entry hentry => ?_
  exact (h.stored entry.1 entry.2
    ((mem_iff_lookup h.distinct).1 ((MemoryStore.perm_sorted _).mem_iff.1 hentry))).2

/-- The workflows are listed by their ids. -/
theorem ascending_ids (h : Mirrors t m) : (m.sorted.map (·.id)).Pairwise (· < ·) := by
  rw [h.ids_sorted]
  have hnodup : ((m.definitions.map (·.1)).foldr insertName []).Nodup :=
    (perm_sortNames _).nodup_iff.2 h.distinct
  refine ((ascending_sortNames _).and hnodup).imp fun {a b} hab => ?_
  exact String.not_le.1 fun hle => hab.2 (String.le_antisymm hab.1 hle)

end Mirrors

end FileTree

end Conduit
