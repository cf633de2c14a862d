import Conduit.Engine.Basic
import Conduit.Proofs.Store.Sound

/-!
# The stored workflows of an engine

Whatever an engine is asked to save, to delete and to generate, the workflows that it stores are
valid, with the schemas of its catalog and without them. A workflow that it does not save leaves
what is stored as it was.

* `Engine.Task`, `Engine.attemptAll` — tasks, and histories of them;
* `Engine.attempt_sound` — each task leaves a store of valid workflows as one;
* `Engine.stored_valid` — what can be said of the stored workflows after any history.
-/

namespace Conduit

namespace Engine

/-- What an engine can be asked to do with its workflows. -/
inductive Task where
  /-- To save a workflow. -/
  | save (d : Definition)
  /-- To remove a workflow. -/
  | delete (id : String)
  /-- To generate the listing of a workflow, and to keep it or not. -/
  | generate (id : String) (keep : Bool)

/-- Carries out a task at a reading of the clock, and says whether it failed. -/
def attempt (e : Engine) (time : Nat) : Task → Engine × Except Trouble Unit
  | .save d =>
    let (after, saved) := { e with now := time }.saveWorkflow d
    (after, saved.map fun _ => ())
  | .delete id => { e with now := time }.deleteWorkflow id
  | .generate id keep =>
    let (after, made) := { e with now := time }.generate id keep
    (after, made.map fun _ => ())

/-- Carries out tasks one after the other, also after one that fails. -/
def attemptAll (e : Engine) (history : List (Nat × Task)) : Engine :=
  history.foldl (fun e entry => (e.attempt entry.1 entry.2).1) e

/-! ## Graphs -/

/-- The schemas of the catalog neither make a workflow valid nor keep it from being so. -/
theorem valid_hydrate (e : Engine) (d : Definition) : (e.hydrate d).Valid ↔ d.Valid :=
  Definition.valid_iff_of_outline (d.outline_hydrate _)

/-- A valid workflow has a graph with the schemas of the catalog. -/
theorem exists_graphOf (e : Engine) {d : Definition} (valid : d.Valid) :
    ∃ g, e.graphOf d = .ok g ∧ g.definition = e.hydrate d := by
  have hcheck := (e.hydrate d).check_eq_ok_iff.2 ((e.valid_hydrate d).2 valid)
  refine ⟨⟨e.hydrate d, hcheck⟩, ?_, rfl⟩
  rw [graphOf, Graph.ofDefinition_of_check hcheck]

/-- A workflow that has a graph is valid without these schemas too. -/
theorem valid_of_graphOf {e : Engine} {d : Definition} {g : Graph} (h : e.graphOf d = .ok g) :
    d.Valid := by
  unfold graphOf at h
  split at h
  · next g' hg' =>
    have hvalid := g'.valid
    rw [Graph.definition_of_ofDefinition hg'] at hvalid
    exact (e.valid_hydrate d).1 hvalid
  · cases h

/-! ## Tasks -/

/-- A workflow is refused when it is not well formed or when the store refuses it, and for no other
reason. What is stored then stays as it was. -/
theorem saveWorkflow_cases (e : Engine) (sound : e.store.Sound) (d : Definition) :
    (∃ before, (e.saveWorkflow d).2 = .ok (d.stamped before e.moment) ∧
        (e.saveWorkflow d).1.store.Sound) ∨
      ∃ trouble, (e.saveWorkflow d).2 = .error trouble ∧
        (e.graphOf d = .error trouble ∨
          (∃ g, e.graphOf d = .ok g) ∧ e.store.Refuses d trouble) ∧
        ∃ s, s.Sound ∧ e.store.Unchanged s ∧ (e.saveWorkflow d).1 = { e with store := s } := by
  unfold saveWorkflow
  cases hgraph : e.graphOf d with
  | error trouble => exact .inr ⟨trouble, rfl, .inl rfl, e.store, sound, .refl _, rfl⟩
  | ok g =>
    rcases sound.save_cases d e.moment with
      ⟨before, -, hsave, hsound⟩ | ⟨trouble, hsave, hrefuses, hsound, hunchanged⟩
    · exact .inl ⟨before, hsave, hsound (valid_of_graphOf hgraph)⟩
    · exact .inr ⟨trouble, hsave, .inr ⟨⟨g, rfl⟩, hrefuses⟩, _, hsound, hunchanged, rfl⟩

theorem generate_sound {e : Engine} (sound : e.store.Sound) (id : String) (keep : Bool) :
    (e.generate id keep).1.store.Sound := by
  unfold generate
  split
  · exact sound
  · exact sound
  · exact sound.saveListing id _

theorem attempt_save (e : Engine) (time : Nat) (d : Definition) :
    e.attempt time (.save d) =
      (({ e with now := time }.saveWorkflow d).1,
        ({ e with now := time }.saveWorkflow d).2.map fun _ => ()) := rfl

/-- A task leaves a store of valid workflows as one, whether it fails or not. -/
theorem attempt_sound {e : Engine} (sound : e.store.Sound) (time : Nat) (task : Task) :
    (e.attempt time task).1.store.Sound := by
  cases task with
  | save d =>
    rcases saveWorkflow_cases { e with now := time } sound d with
      ⟨before, -, hsound⟩ | ⟨trouble, -, -, s, hsound, -, hafter⟩
    · exact hsound
    · rw [attempt_save, hafter]
      exact hsound
  | delete id => exact sound.delete id
  | generate id keep => exact generate_sound (e := { e with now := time }) sound id keep

/-- No history of tasks leaves anything else. -/
theorem attemptAll_sound {e : Engine} (sound : e.store.Sound) (history : List (Nat × Task)) :
    (e.attemptAll history).store.Sound := by
  induction history generalizing e with
  | nil => exact sound
  | cons entry rest ih => exact ih (attempt_sound sound entry.1 entry.2)

/-! ## The stored workflows -/

/-- After any history of tasks from an empty store of either kind:

* all that is stored is valid, in memory or by its document;
* whatever is loaded passes the checks, as it is and with the schemas of the catalog;
* every listed workflow has its graph under its id, and no id at all is refused for a workflow that
  is not well formed;
* a workflow that is not saved was refused by the checks, or it could not be told which one it
  replaces, or something in it has no place in its document; then the engine is left as it is, and
  all that is stored, be it a workflow, its version or a listing. -/
theorem stored_valid {kind root : String} {e : Engine} (empty : Store.ofKind kind root = .ok e.store)
    (history : List (Nat × Task)) :
    (e.attemptAll history).store.Sound ∧
      (∀ id d, (e.attemptAll history).store.load id = .ok d → d.id = id ∧ d.check = .ok () ∧
        ((e.attemptAll history).hydrate d).check = .ok ()) ∧
      (∀ l, (e.attemptAll history).store.list = .ok l → ∀ d ∈ l,
        ∃ g, (e.attemptAll history).validateWorkflow d.id = .ok g ∧
          g.definition = (e.attemptAll history).hydrate d) ∧
      (∀ id f, (e.attemptAll history).validateWorkflow id = .error (.failure f) →
        f.kind = .workflowNotFound ∨ f.kind = .definitionStore) ∧
      ∀ time d trouble, ((e.attemptAll history).attempt time (.save d)).2 = .error trouble →
        ((e.attemptAll history).graphOf d = .error trouble ∨
            (∃ g, (e.attemptAll history).graphOf d = .ok g) ∧
              (e.attemptAll history).store.Refuses d trouble) ∧
          ∃ s, (e.attemptAll history).store.Unchanged s ∧
            ((e.attemptAll history).attempt time (.save d)).1 =
              { e.attemptAll history with now := time, store := s } := by
  have sound := attemptAll_sound (Store.sound_ofKind empty) history
  generalize e.attemptAll history = after at sound ⊢
  have hvalidate : ∀ {id d}, after.store.load id = .ok d →
      ∃ g, after.validateWorkflow id = .ok g ∧ g.definition = after.hydrate d := by
    intro id d hload
    obtain ⟨g, hg, hdefinition⟩ := after.exists_graphOf (sound.load hload).2
    refine ⟨g, ?_, hdefinition⟩
    rw [validateWorkflow, workflow, hload]
    exact hg
  refine ⟨sound, fun id d hload => ?_, fun l hlist d hd => hvalidate (sound.list hlist hd),
    fun id f hfailure => ?_, fun time d trouble hrefused => ?_⟩
  · obtain ⟨hid, hvalid⟩ := sound.load hload
    exact ⟨hid, d.check_eq_ok_iff.2 hvalid,
      (after.hydrate d).check_eq_ok_iff.2 ((after.valid_hydrate d).2 hvalid)⟩
  · cases hload : after.store.load id with
    | ok d =>
      obtain ⟨g, hg, -⟩ := hvalidate hload
      cases hg.symm.trans hfailure
    | error trouble =>
      rw [validateWorkflow, workflow, hload] at hfailure
      cases hfailure
      exact Store.kind_of_load_eq_error hload
  · rcases saveWorkflow_cases { after with now := time } sound d with
      ⟨before, hsaved, -⟩ | ⟨trouble', hsaved, hwhy, s, -, hunchanged, hafter⟩
    · rw [attempt_save, hsaved] at hrefused
      cases hrefused
    · rw [attempt_save, hsaved] at hrefused
      cases hrefused
      exact ⟨hwhy, s, hunchanged, hafter⟩

/-! ## A workflow that is saved again -/

/-- A workflow of two steps, one after the other. -/
def straight : Definition where
  id := "w"
  name := "W"
  steps := [{ id := "a", kind := .controlFlow }, { id := "b", kind := .controlFlow }]
  mappings := [{ source := .step "a", target := .step "b", targetPath := "x" }]

/-- The same workflow with a mapping back. -/
def looped : Definition :=
  { straight with
    mappings :=
      straight.mappings ++ [{ source := .step "b", target := .step "a", targetPath := "x" }] }

/-- The same workflow with a handle in what its inputs look like. -/
def handled : Definition := { straight with inputSchema := [("x", .opaqueHandle)] }

/-- An engine without workflows. -/
def blank (store : Store) : Engine where
  store := store
  executor := { registry := .ofConnectors {} [], concurrency := 1, concurrency_pos := Nat.one_pos }
  origin := default

/-- The workflow is saved twice and its listing kept; in between saving it with the mapping back
fails. -/
def upkeep : List (Nat × Task) :=
  [(1, .save straight), (2, .save looped), (3, .generate "w" true), (4, .save straight)]

/-- The workflow is loaded as it was saved last, and a file is not written for the one that has no
place in a document. -/
theorem stored_valid_upkeep :
    (Store.ofKind "memory" "" = .ok (blank (.memory {})).store ∧
      ∃ d, ((blank (.memory {})).attemptAll upkeep).store.load "w" = .ok d ∧ d.version = 2 ∧
        d.check = .ok () ∧ (((blank (.memory {})).attemptAll upkeep).hydrate d).check = .ok ()) ∧
    Store.ofKind "file" "workflows" = .ok (blank (.files { root := "workflows" })).store ∧
      ∃ trouble s, ((blank (.files { root := "workflows" })).attempt 5 (.save handled)).2 =
          .error trouble ∧
        (blank (.files { root := "workflows" })).store.Refuses handled trouble ∧
        (blank (.files { root := "workflows" })).store.Unchanged s ∧
        ((blank (.files { root := "workflows" })).attempt 5 (.save handled)).1 =
          { blank (.files { root := "workflows" }) with now := 5, store := s } := by
  have memory : Store.ofKind "memory" "" = .ok (blank (.memory {})).store := rfl
  have files : Store.ofKind "file" "workflows" =
      .ok (blank (.files { root := "workflows" })).store := rfl
  refine ⟨⟨memory, ?_⟩, files, ?_⟩
  · have hversion : (((blank (.memory {})).attemptAll upkeep).store.load "w").toOption.map
        (·.version) = some 2 := by decide +kernel
    obtain ⟨-, hloads, -⟩ := stored_valid memory upkeep
    cases hload : ((blank (.memory {})).attemptAll upkeep).store.load "w" with
    | ok d =>
      rw [hload] at hversion
      exact ⟨d, rfl, Option.some.inj hversion, (hloads "w" d hload).2⟩
    | error trouble =>
      rw [hload] at hversion
      cases hversion
  · have hgraph : ((blank (.files { root := "workflows" })).graphOf handled).isOk = true := by
      decide +kernel
    have hfails : ((blank (.files { root := "workflows" })).attempt 5 (.save handled)).2.isOk =
        false := by decide +kernel
    obtain ⟨-, -, -, -, hrefuses⟩ := stored_valid files []
    cases hsave : ((blank (.files { root := "workflows" })).attempt 5 (.save handled)).2 with
    | ok saved =>
      rw [hsave] at hfails
      cases hfails
    | error trouble =>
      obtain ⟨hwhy, s, hunchanged, hafter⟩ := hrefuses 5 handled trouble hsave
      refine ⟨trouble, s, rfl, ?_, hunchanged, hafter⟩
      rcases hwhy with hgraph' | ⟨-, hstore⟩
      · rw [show (blank (.files { root := "workflows" })).graphOf handled = .error trouble from
          hgraph'] at hgraph
        cases hgraph
      · exact hstore

end Engine

end Conduit
