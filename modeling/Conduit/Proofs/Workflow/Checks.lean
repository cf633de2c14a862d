import Conduit.Workflow.Graph
import Mathlib.Data.List.Nodup

/-!
# What the checks of a workflow find

Each check of a workflow passes exactly when the workflow is as it should be in one respect, and a
check that fails reports a fault of the kind that belongs to it.

* `except_bind_eq_ok`, `except_bind_eq_error`, `foldlM_eq_error_iff` — take a chain of checks apart;
* `checkIds_eq_ok_iff`, `failure_of_checkIds` — ids;
* `Mapping.EndsKnown`, `Mapping.PathsFit`, `checkMapping_cases` — the ends and paths of a mapping;
* `checkMappings_cases` — mappings, of which the first that fails is reported;
* `Unambiguous`, `checkDistinct_cases` — places that mappings write to.
-/

namespace Conduit

/-- A chain of two computations succeeds when both do. -/
theorem except_bind_eq_ok {ε α β : Type} {x : Except ε α} {f : α → Except ε β} {b : β} :
    x >>= f = .ok b ↔ ∃ a, x = .ok a ∧ f a = .ok b := by
  cases x with
  | error e => simp [bind, Except.bind]
  | ok a => simp [bind, Except.bind]

/-- A chain of two computations fails when the first does, or the second after it. -/
theorem except_bind_eq_error {ε α β : Type} {x : Except ε α} {f : α → Except ε β} {e : ε} :
    x >>= f = .error e ↔ x = .error e ∨ ∃ a, x = .ok a ∧ f a = .error e := by
  cases x with
  | error e' => simp [bind, Except.bind]
  | ok a => simp [bind, Except.bind]

/-- A computation succeeds unless it fails. -/
theorem exists_ok_iff {ε α : Type} {x : Except ε α} : (∃ a, x = .ok a) ↔ ¬∃ e, x = .error e := by
  cases x <;> simp

/-- A fold that fails has failed at some item, after it went well up to there. -/
theorem foldlM_eq_error_iff {ε α β : Type} {f : β → α → Except ε β} {l : List α} {e : ε} :
    ∀ {start : β}, l.foldlM f start = .error e ↔
      ∃ front a back reached, l = front ++ a :: back ∧ front.foldlM f start = .ok reached ∧
        f reached a = .error e := by
  induction l with
  | nil =>
    intro start
    exact iff_of_false nofun (by simp)
  | cons a rest ih =>
    intro start
    rw [List.foldlM_cons, except_bind_eq_error]
    constructor
    · rintro (h | ⟨next, hnext, h⟩)
      · exact ⟨[], a, rest, start, rfl, rfl, h⟩
      · obtain ⟨front, c, back, reached, rfl, hfront, hfails⟩ := ih.1 h
        refine ⟨a :: front, c, back, reached, rfl, ?_, hfails⟩
        rw [List.foldlM_cons, hnext]
        exact hfront
    · rintro ⟨front, c, back, reached, hsplit, hfront, hfails⟩
      cases front with
      | nil =>
        cases hsplit
        cases hfront
        exact .inl hfails
      | cons d front =>
        cases hsplit
        rw [List.foldlM_cons, except_bind_eq_ok] at hfront
        obtain ⟨next, hnext, hfront⟩ := hfront
        exact .inr ⟨next, hnext, ih.2 ⟨front, c, back, reached, rfl, hfront, hfails⟩⟩

/-! ## Ids -/

/-- Ids pass when they are distinct, not seen before and not reserved. -/
theorem checkIds_eq_ok_iff {seen ids : List String} :
    checkIds seen ids = .ok () ↔
      ids.Nodup ∧ (∀ id ∈ ids, id ∉ seen) ∧ ∀ id ∈ ids, id ∉ reservedIds := by
  -- the ids seen so far grow with every check, so they stay general
  induction ids generalizing seen with
  | nil => simp [checkIds]
  | cons id rest ih =>
    rw [checkIds]
    by_cases hseen : id ∈ seen
    · simp [hseen]
    · by_cases hreserved : id ∈ reservedIds
      · simp [hseen, hreserved]
      · rw [if_neg hseen, if_neg hreserved, ih]
        simp only [List.nodup_cons, List.forall_mem_cons]
        simp only [List.mem_cons, not_or]
        constructor
        · rintro ⟨hnodup, hfresh, hallowed⟩
          exact ⟨⟨fun h => (hfresh id h).1 rfl, hnodup⟩, ⟨hseen, fun x hx => (hfresh x hx).2⟩,
            hreserved, hallowed⟩
        · rintro ⟨⟨hnew, hnodup⟩, ⟨-, hfresh⟩, -, hallowed⟩
          exact ⟨hnodup, fun x hx => ⟨fun h => hnew (h ▸ hx), hfresh x hx⟩, hallowed⟩

/-- A check of ids that fails reports an id that is taken. -/
theorem failure_of_checkIds {seen ids : List String} {fault : GraphFault}
    (h : checkIds seen ids = .error fault) : fault.failure.kind = .duplicateNode := by
  induction ids generalizing seen with
  | nil => cases h
  | cons id rest ih =>
    rw [checkIds] at h
    split at h
    · cases h
      rfl
    · split at h
      · cases h
        rfl
      · exact ih h

/-! ## Mappings -/

namespace Mapping

/-- Both ends of a mapping are there. -/
structure EndsKnown (known : List String) (m : Mapping) : Prop where
  source : m.source = .input ∨ m.source = .fixed ∨ ∃ id ∈ known, m.source = .step id
  target : m.target = .output ∨ ∃ id ∈ known, m.target = .step id

/-- The paths of a mapping can be used at its ends: both have segments, only the output of the run
is written as a whole, and a fixed value is not read at a place. -/
structure PathsFit (m : Mapping) : Prop where
  target : ∃ segments, Path.split m.targetPath = .ok segments ∧
    (segments = [] → m.target = .output)
  source : ∃ segments, Path.split m.sourcePath = .ok segments
  fixed : m.source = .fixed → m.sourcePath = ""

end Mapping

theorem Origin.isKnown_iff {known : List String} {origin : Origin} :
    origin.isKnown known = true ↔
      origin = .input ∨ origin = .fixed ∨ ∃ id ∈ known, origin = .step id := by
  cases origin <;> simp [Origin.isKnown]

theorem Destination.isKnown_iff {known : List String} {destination : Destination} :
    destination.isKnown known = true ↔
      destination = .output ∨ ∃ id ∈ known, destination = .step id := by
  cases destination <;> simp [Destination.isKnown]

/-- A path passes when it has segments, unless none are needed; otherwise it is reported. -/
theorem checkPath_cases (target : Destination) (path : String) (mayBeEmpty : Bool) :
    (checkPath target path mayBeEmpty = .ok () ∧
        ∃ segments, Path.split path = .ok segments ∧ (segments = [] → mayBeEmpty = true)) ∨
      ∃ fault, checkPath target path mayBeEmpty = .error fault ∧
        fault.failure.kind = .invalidFieldPath ∧
        ¬∃ segments, Path.split path = .ok segments ∧ (segments = [] → mayBeEmpty = true) := by
  unfold checkPath
  cases Path.split path with
  | error fault => exact .inr ⟨_, rfl, rfl, by simp⟩
  | ok segments =>
    dsimp only
    cases hempty : segments.isEmpty && !mayBeEmpty with
    | true =>
      rw [Bool.and_eq_true, List.isEmpty_iff, Bool.not_eq_true'] at hempty
      refine .inr ⟨_, if_pos rfl, rfl, ?_⟩
      rintro ⟨_, hsegments, hallowed⟩
      cases hsegments
      exact absurd (hallowed hempty.1) (by simp [hempty.2])
    | false =>
      refine .inl ⟨if_neg (by simp), segments, rfl, ?_⟩
      rintro rfl
      simpa using hempty

/-- A mapping is checked end by end and then path by path. -/
theorem checkMapping_cases (known : List String) (m : Mapping) :
    (checkMapping known m = .ok () ∧ m.EndsKnown known ∧ m.PathsFit) ∨
      (∃ fault, checkMapping known m = .error fault ∧
        fault.failure.kind = .unknownReference ∧ ¬m.EndsKnown known) ∨
      ∃ fault, checkMapping known m = .error fault ∧
        fault.failure.kind = .invalidFieldPath ∧ m.EndsKnown known ∧ ¬m.PathsFit := by
  unfold checkMapping
  by_cases hsource : m.source.isKnown known = true
  swap
  · refine .inr (.inl ⟨.unknownStep .source m.source.id, ?_, rfl, ?_⟩)
    · rw [if_pos (by simpa using hsource)]
      rfl
    · exact fun h => hsource (Origin.isKnown_iff.2 h.source)
  by_cases htarget : m.target.isKnown known = true
  swap
  · refine .inr (.inl ⟨.unknownStep .target m.target.id, ?_, rfl, ?_⟩)
    · rw [if_neg (by simpa using hsource), if_pos (by simpa using htarget)]
      rfl
    · exact fun h => htarget (Destination.isKnown_iff.2 h.target)
  have hknown : m.EndsKnown known := ⟨Origin.isKnown_iff.1 hsource, Destination.isKnown_iff.1 htarget⟩
  rw [if_neg (by simpa using hsource), if_neg (by simpa using htarget)]
  dsimp only
  rcases checkPath_cases m.target m.targetPath (m.target == .output) with
    ⟨htpath, hteq⟩ | ⟨fault, htpath, hkind, hne⟩
  swap
  · refine .inr (.inr ⟨fault, by rw [htpath]; rfl, hkind, hknown, fun h => hne ?_⟩)
    simpa using h.target
  rcases checkPath_cases m.target m.sourcePath true with
    ⟨hspath, hseq⟩ | ⟨fault, hspath, hkind, hne⟩
  swap
  · refine .inr (.inr ⟨fault, by rw [htpath, hspath]; rfl, hkind, hknown, fun h => hne ?_⟩)
    simpa using h.source
  rw [htpath, hspath]
  by_cases hfixed : m.source = .fixed ∧ m.sourcePath ≠ ""
  · refine .inr (.inr ⟨.fixedWithPath m.target.id m.targetPath, ?_, rfl, hknown, fun h => ?_⟩)
    · simp only [if_pos hfixed]
      rfl
    · exact hfixed.2 (h.fixed hfixed.1)
  · refine .inl ⟨?_, hknown, by simpa using hteq, by simpa using hseq, fun h => ?_⟩
    · simp only [if_neg hfixed]
      rfl
    · by_contra hpath
      exact hfixed ⟨h, hpath⟩

theorem checkMapping_eq_ok_iff {known : List String} {m : Mapping} :
    checkMapping known m = .ok () ↔ m.EndsKnown known ∧ m.PathsFit := by
  rcases checkMapping_cases known m with
    ⟨h, hfit⟩ | ⟨fault, h, -, hends⟩ | ⟨fault, h, -, -, hpaths⟩
  · exact ⟨fun _ => hfit, fun _ => h⟩
  · simp [h, hends]
  · simp [h, hpaths]

/-- Mappings are checked one by one, and the first that fails is reported. -/
theorem checkMappings_cases (known : List String) (mappings : List Mapping) :
    (checkMappings known mappings = .ok () ∧ ∀ m ∈ mappings, checkMapping known m = .ok ()) ∨
      ∃ front m back fault, mappings = front ++ m :: back ∧
        (∀ other ∈ front, checkMapping known other = .ok ()) ∧
        checkMapping known m = .error fault ∧ checkMappings known mappings = .error fault := by
  induction mappings with
  | nil => exact .inl ⟨rfl, by simp⟩
  | cons m rest ih =>
    rw [checkMappings]
    cases hm : checkMapping known m with
    | error fault => exact .inr ⟨[], m, rest, fault, rfl, by simp, hm, rfl⟩
    | ok =>
      rcases ih with ⟨h, hall⟩ | ⟨front, other, back, fault, rfl, hfront, hother, h⟩
      · exact .inl ⟨h, List.forall_mem_cons.2 ⟨hm, hall⟩⟩
      · exact .inr ⟨m :: front, other, back, fault, rfl, List.forall_mem_cons.2 ⟨hm, hfront⟩,
          hother, h⟩

/-- Mappings pass when each of them does. -/
theorem checkMappings_eq_ok_iff {known : List String} {mappings : List Mapping} :
    checkMappings known mappings = .ok () ↔ ∀ m ∈ mappings, checkMapping known m = .ok () := by
  rcases checkMappings_cases known mappings with
    ⟨h, hall⟩ | ⟨front, m, back, fault, rfl, -, hm, h⟩
  · exact ⟨fun _ => hall, fun _ => h⟩
  · refine ⟨fun hok => absurd (h.symm.trans hok) (by simp), fun hall => ?_⟩
    exact absurd (hm.symm.trans (hall m (by simp))) (by simp)

/-! ## Ambiguity -/

/-- Two paths overlap when one of them begins with the other. -/
theorem overlaps_iff {p q : List String} : overlaps p q = true ↔ p <+: q ∨ q <+: p := by
  induction p generalizing q with
  | nil => simp [overlaps]
  | cons a p ih =>
    cases q with
    | nil => simp [overlaps]
    | cons b q =>
      rw [overlaps, Bool.and_eq_true, beq_iff_eq, ih, List.cons_prefix_cons, List.cons_prefix_cons]
      constructor
      · rintro ⟨rfl, h⟩
        exact h.imp (⟨rfl, ·⟩) (⟨rfl, ·⟩)
      · rintro (⟨rfl, h⟩ | ⟨rfl, h⟩)
        · exact ⟨rfl, .inl h⟩
        · exact ⟨rfl, .inr h⟩

/-- Two mappings write to different places: they lead to different targets, or neither of their
target paths begins with the other. -/
def Mapping.Apart (m other : Mapping) : Prop :=
  m.target = other.target → ¬m.targetSegments <+: other.targetSegments ∧
    ¬other.targetSegments <+: m.targetSegments

/-- No two mappings write to places one of which is within the other. -/
def Unambiguous (mappings : List Mapping) : Prop := mappings.Pairwise Mapping.Apart

/-- Mappings pass when each writes apart from those before it. -/
theorem checkDistinct_cases (before mappings : List Mapping) :
    (checkDistinct before mappings = .ok () ∧ Unambiguous mappings ∧
        ∀ m ∈ before, ∀ other ∈ mappings, m.Apart other) ∨
      ∃ fault, checkDistinct before mappings = .error fault ∧
        fault.failure.kind = .ambiguousMapping ∧
        ¬(Unambiguous mappings ∧ ∀ m ∈ before, ∀ other ∈ mappings, m.Apart other) := by
  induction mappings generalizing before with
  | nil => exact .inl ⟨rfl, List.Pairwise.nil, by simp⟩
  | cons m rest ih =>
    rw [checkDistinct]
    -- an earlier mapping is found exactly when it is not apart
    have hfound : ∀ other : Mapping, (other.target == m.target &&
        overlaps m.targetSegments other.targetSegments) = true ↔ ¬other.Apart m := by
      intro other
      rw [Bool.and_eq_true, beq_iff_eq, overlaps_iff, Mapping.Apart]
      tauto
    cases hfind : before.find? fun other => other.target == m.target &&
        overlaps m.targetSegments other.targetSegments with
    | some other =>
      refine .inr ⟨_, rfl, rfl, fun h => ?_⟩
      obtain ⟨htest, -⟩ := List.find?_eq_some_iff_append.1 hfind
      have hapart := h.2 other (List.mem_of_find?_eq_some hfind) m List.mem_cons_self
      exact (hfound other).1 htest hapart
    | none =>
      have hm : ∀ other ∈ before, other.Apart m := by
        intro other hother
        by_contra hclash
        exact List.find?_eq_none.1 hfind other hother ((hfound other).2 hclash)
      -- what is before the rest is what was before and the mapping itself
      have hiff : (Unambiguous (m :: rest) ∧ ∀ other ∈ before, ∀ x ∈ m :: rest, other.Apart x) ↔
          Unambiguous rest ∧ ∀ other ∈ before ++ [m], ∀ x ∈ rest, other.Apart x := by
        simp only [Unambiguous, List.pairwise_cons, List.forall_mem_cons, List.forall_mem_append]
        constructor
        · rintro ⟨⟨hrest, hall⟩, hbefore⟩
          exact ⟨hall, fun other hother => (hbefore other hother).2, hrest, by simp⟩
        · rintro ⟨hall, hbefore, hrest, -⟩
          exact ⟨⟨hrest, hall⟩, fun other hother => ⟨hm other hother, hbefore other hother⟩⟩
      rw [hiff]
      exact ih (before ++ [m])

namespace Graph

/-- The checks of a graph, one by one. -/
theorem checks (g : Graph) :
    checkIds [] g.definition.stepIds = .ok () ∧
      checkMappings g.definition.stepIds g.definition.mappings = .ok () := by
  have h := g.checked
  rw [Definition.check, except_bind_eq_ok] at h
  obtain ⟨⟨⟩, hids, h⟩ := h
  rw [except_bind_eq_ok] at h
  obtain ⟨⟨⟩, hmappings, -⟩ := h
  exact ⟨hids, hmappings⟩

/-- The ids of the steps of a graph are distinct. -/
theorem stepIds_nodup (g : Graph) : g.definition.stepIds.Nodup :=
  (checkIds_eq_ok_iff.1 g.checks.1).1

/-- A step that a mapping of a graph takes its value from is a step of the workflow. -/
theorem mem_stepIds_of_source (g : Graph) {m : Mapping} {id : String}
    (hm : m ∈ g.definition.mappings) (hs : m.source = .step id) : id ∈ g.definition.stepIds := by
  have hknown := (checkMapping_eq_ok_iff.1 (checkMappings_eq_ok_iff.1 g.checks.2 m hm)).1.source
  simpa [hs] using hknown

/-- A step that a mapping of a graph takes its value to is a step of the workflow. -/
theorem mem_stepIds_of_target (g : Graph) {m : Mapping} {id : String}
    (hm : m ∈ g.definition.mappings) (ht : m.target = .step id) : id ∈ g.definition.stepIds := by
  have hknown := (checkMapping_eq_ok_iff.1 (checkMappings_eq_ok_iff.1 g.checks.2 m hm)).1.target
  simpa [ht] using hknown

end Graph

end Conduit
