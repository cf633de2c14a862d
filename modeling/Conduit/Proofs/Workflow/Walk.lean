import Conduit.Proofs.Workflow.Validity
import Conduit.Workflow.Walk
import Mathlib.Algebra.GroupWithZero.Nat

/-!
# The search for a cycle, move by move

The search that keeps its place in a path, lists of what is left to be looked at and a table of
colours ends after a number of moves that the size of the workflow bounds, and never asks for
anything that is not there. Its answer is that of the search that recurs from step to step: between
two moves, grey are the steps of the path, black are the steps that the recursive search is done
with, and what is left to be looked at belongs to the steps of the path one by one.

* `work`, `work_lt_of_move` — what is left to do, which every move makes less;
* `standing` — where the walk is when the recursive search stands at a path;
* `Answers`, `searchFrom_answers`, `searchAll_answers` — the walk follows the recursive search;
* `Definition.search_exact` — the search of a workflow, as a whole.
-/

namespace Conduit

namespace Walk

/-! ## How long a search takes -/

/-- What has to be done for the steps that have not been met: to go to each, to look at all steps
next to it, and to go back. -/
def unmet (next : List (String × List String)) (colours : List (String × Colour)) : Nat :=
  (colours.map fun row => if row.2 = .white then (entryOf next row.1).length + 2 else 0).sum

/-- What is left to do in a search. -/
def work (next : List (String × List String)) (w : Walk) : Nat :=
  w.roots.length + (w.pending.map fun children => children.length + 1).sum + unmet next w.colours

section Work

variable {next : List (String × List String)} {colour : Colour} {id : String}

variable (next) in
theorem unmet_paint_le (met : colour ≠ .white) (id : String) (colours : List (String × Colour)) :
    unmet next (paint colour id colours) ≤ unmet next colours := by
  induction colours with
  | nil => exact Nat.le_refl _
  | cons row rest ih =>
    simp only [unmet, paint, amend, List.map_cons, List.sum_cons] at ih ⊢
    by_cases heq : row.1 = id
    · rw [if_pos heq, if_neg met]
      omega
    · rw [if_neg heq]
      omega

variable (next) in
/-- A step that is met has not to be met again. -/
theorem unmet_paint_add_le (met : colour ≠ .white) {colours : List (String × Colour)}
    (white : colours.lookup id = some .white) :
    unmet next (paint colour id colours) + ((entryOf next id).length + 2) ≤ unmet next colours := by
  induction colours with
  | nil => cases white
  | cons row rest ih =>
    obtain ⟨key, old⟩ := row
    rw [lookup_cons_eq_ite] at white
    have hle := unmet_paint_le next met id rest
    simp only [unmet, paint, amend, List.map_cons, List.sum_cons] at ih hle ⊢
    by_cases heq : id = key
    · rw [if_pos heq] at white
      cases white
      rw [if_pos heq.symm, if_neg met, if_pos rfl, heq]
      rw [heq] at hle
      omega
    · rw [if_neg heq] at white
      have hother : ¬key = id := fun h => heq h.symm
      rw [if_neg hother]
      have hrest := ih white
      dsimp only
      omega

theorem entryOf_eq_of_lookup {children : List String} (h : next.lookup id = some children) :
    entryOf next id = children := by
  rw [entryOf, h]
  rfl

/-- Every move leaves less to do. -/
theorem work_lt_of_move {w w' : Walk} (h : w.move next = .on w') : w'.work next < w.work next := by
  obtain ⟨roots, path, pending, colours⟩ := w
  unfold move at h
  split at h
  · next hpending =>
    obtain rfl : pending = [] := hpending
    simp only [begun] at h
    split at h
    · cases h
    · next root rest =>
      split at h
      · cases h
      · next white =>
        split at h
        · cases h
        · next children hchildren =>
          cases h
          have hle := unmet_paint_add_le next (by decide : Colour.grey ≠ .white) white
          rw [entryOf_eq_of_lookup hchildren] at hle
          simp only [work, List.length_cons, List.map_cons, List.map_nil, List.sum_cons,
            List.sum_nil]
          omega
      · cases h
        simp only [work, List.length_cons]
        omega
  · next rest hpending =>
    obtain rfl : pending = [] :: rest := hpending
    simp only [back] at h
    split at h
    · cases h
    · next node _ =>
      cases h
      have hle := unmet_paint_le next (by decide : Colour.black ≠ .white) node colours
      simp only [work, List.map_cons, List.sum_cons, List.length_nil]
      omega
  · next child children rest hpending =>
    obtain rfl : pending = (child :: children) :: rest := hpending
    simp only [look] at h
    split at h
    · cases h
    · split at h
      · cases h
      · cases h
    · next white =>
      split at h
      · cases h
      · next grandchildren hchildren =>
        cases h
        have hle := unmet_paint_add_le next (by decide : Colour.grey ≠ .white) white
        rw [entryOf_eq_of_lookup hchildren] at hle
        simp only [work, List.map_cons, List.sum_cons, List.length_cons]
        omega
    · cases h
      simp only [work, List.map_cons, List.sum_cons, List.length_cons]
      omega

end Work

/-- A search comes from one place to another. -/
def Reaches (next : List (String × List String)) : Walk → Walk → Prop :=
  Relation.ReflTransGen fun w w' => w.move next = .on w'

/-- A search ends with an answer. -/
def Ends (next : List (String × List String)) (w : Walk) (answer : Option (List String)) : Prop :=
  ∃ w', Reaches next w w' ∧ w'.move next = .done answer

section Ends

variable {next : List (String × List String)} {w w' : Walk} {answer : Option (List String)}

theorem Reaches.move (h : w.move next = .on w') : Reaches next w w' := .single h

theorem Reaches.ends (h : Reaches next w w') (ends : Ends next w' answer) :
    Ends next w answer := by
  obtain ⟨last, hlast, hdone⟩ := ends
  exact ⟨last, h.trans hlast, hdone⟩

/-- A search that ends has done so after more moves than there was work. -/
theorem Ends.follow_eq (h : Ends next w answer) :
    ∀ n, w.work next < n → w.follow next n = .done answer := by
  obtain ⟨last, hreaches, hdone⟩ := h
  induction hreaches using Relation.ReflTransGen.head_induction_on with
  | refl =>
    intro n hn
    obtain ⟨n, rfl⟩ : ∃ k, n = k + 1 := ⟨n - 1, by omega⟩
    rw [follow, hdone]
  | head hmove _ ih =>
    intro n hn
    obtain ⟨n, rfl⟩ : ∃ k, n = k + 1 := ⟨n - 1, by omega⟩
    have hless := work_lt_of_move hmove
    rw [follow, hmove]
    exact ih n (by omega)

end Ends

/-! ## Where the recursive search stands -/

/-- The colour of a step for a search with a path that is done with `finished`. -/
def colourOf (path finished : List String) (id : String) : Colour :=
  if id ∈ path then .grey else if id ∈ finished then .black else .white

/-- The colours of all steps. -/
def colouring (ids path finished : List String) : List (String × Colour) :=
  ids.map fun id => (id, colourOf path finished id)

/-- Where the walk is when the recursive search stands at a path and is done with `finished`. The
recursive search has the last step of its path in front. -/
def standing (ids roots path : List String) (pending : List (List String))
    (finished : List String) : Walk where
  roots := roots
  path := path.reverse
  pending := pending
  colours := colouring ids path finished

section Standing

variable {ids roots path finished : List String} {pending : List (List String)} {id : String}

theorem begin_eq_standing (ids : List String) : begin ids = standing ids ids [] [] [] := by
  simp [begin, standing, colouring, colourOf]

theorem lookup_colouring (known : id ∈ ids) :
    (colouring ids path finished).lookup id = some (colourOf path finished id) := by
  rw [colouring, lookup_map_pair, if_pos known]

theorem paint_grey (ids path finished : List String) (id : String) :
    paint .grey id (colouring ids path finished) = colouring ids (id :: path) finished := by
  rw [paint, amend, colouring, colouring, List.map_map]
  refine List.map_congr_left fun other _ => ?_
  by_cases heq : other = id <;> simp [colourOf, heq]

/-- A step that leaves the path and is done with turns black. -/
theorem paint_black {node : String} {ancestors : List String} (new : node ∉ ancestors) :
    paint .black node (colouring ids (node :: ancestors) finished) =
      colouring ids ancestors (node :: finished) := by
  rw [paint, amend, colouring, colouring, List.map_map]
  refine List.map_congr_left fun other _ => ?_
  by_cases heq : other = node
  · simp [colourOf, heq, new]
  · simp [colourOf, heq]

/-- The part of a path from a step on. -/
theorem drop_idxOf_reverse {child : String} (nodup : path.Nodup) (mem : child ∈ path) :
    path.reverse.drop (path.reverse.idxOf child) =
      (path.takeWhile (· ≠ child) ++ [child]).reverse := by
  obtain ⟨front, back, rfl, hfront⟩ := List.eq_append_cons_of_mem mem
  have hback : child ∉ back.reverse := fun h =>
    (List.nodup_cons.1 (List.nodup_append'.1 nodup).2.1).1 (List.mem_reverse.1 h)
  have htake : (front ++ child :: back).takeWhile (· ≠ child) = front := by
    rw [List.takeWhile_append_of_pos fun id hid => ?_]
    · simp
    · exact decide_eq_true fun heq => hfront (heq ▸ hid)
  have hsplit : (front ++ child :: back).reverse = back.reverse ++ child :: front.reverse := by
    simp
  rw [htake, hsplit, List.idxOf_append_of_notMem hback, List.idxOf_cons_self]
  simp

end Standing

/-! ## The moves -/

section Moves

variable {next : List (String × List String)} {ids : List String}
  (keys : next.map Prod.fst = ids)

include keys

theorem lookup_eq_entryOf {id : String} (known : id ∈ ids) :
    next.lookup id = some (entryOf next id) := by
  obtain ⟨children, h⟩ := Option.isSome_iff_exists.1 (isSome_lookup_of_mem_keys (keys ▸ known))
  rw [entryOf_eq_of_lookup h, h]

theorem move_root {root : String} {roots finished : List String} (known : root ∈ ids)
    (new : root ∉ finished) :
    (standing ids (root :: roots) [] [] finished).move next =
      .on (standing ids roots [root] [entryOf next root] finished) := by
  have hcolour : colourOf [] finished root = .white := by simp [colourOf, new]
  simp only [move, begun, standing, lookup_colouring known, hcolour, lookup_eq_entryOf keys known,
    paint_grey, List.reverse_singleton]

omit keys in
theorem move_root_of_mem {root : String} {roots finished : List String} (known : root ∈ ids)
    (done : root ∈ finished) :
    (standing ids (root :: roots) [] [] finished).move next =
      .on (standing ids roots [] [] finished) := by
  have hcolour : colourOf [] finished root = .black := by simp [colourOf, done]
  simp only [move, begun, standing, lookup_colouring known, hcolour]

omit keys in
theorem move_back {node : String} {ancestors roots finished : List String}
    {pending : List (List String)} (new : node ∉ ancestors) :
    (standing ids roots (node :: ancestors) ([] :: pending) finished).move next =
      .on (standing ids roots ancestors pending (node :: finished)) := by
  simp [move, back, standing, paint_black new]

variable {child : String} {path roots finished children : List String}
  {pending : List (List String)}

omit keys in
theorem move_look_of_mem_path (known : child ∈ ids) (nodup : path.Nodup) (mem : child ∈ path) :
    (standing ids roots path ((child :: children) :: pending) finished).move next =
      .done (some ((path.takeWhile (· ≠ child) ++ [child]).reverse ++ [child])) := by
  have hcolour : colourOf path finished child = .grey := by simp [colourOf, mem]
  simp only [move, look, standing, lookup_colouring known, hcolour]
  refine (if_pos (List.mem_reverse.2 mem)).trans ?_
  rw [drop_idxOf_reverse nodup mem]

omit keys in
theorem move_look_of_mem_finished (known : child ∈ ids) (off : child ∉ path)
    (done : child ∈ finished) :
    (standing ids roots path ((child :: children) :: pending) finished).move next =
      .on (standing ids roots path (children :: pending) finished) := by
  have hcolour : colourOf path finished child = .black := by simp [colourOf, off, done]
  simp only [move, look, standing, lookup_colouring known, hcolour]

theorem move_look (known : child ∈ ids) (off : child ∉ path) (new : child ∉ finished) :
    (standing ids roots path ((child :: children) :: pending) finished).move next =
      .on (standing ids roots (child :: path) (entryOf next child :: children :: pending)
        finished) := by
  have hcolour : colourOf path finished child = .white := by simp [colourOf, off, new]
  simp only [move, look, standing, lookup_colouring known, hcolour, lookup_eq_entryOf keys known,
    paint_grey, List.reverse_cons]

end Moves

/-! ## The walk follows the recursive search -/

/-- The walk gives the answer of a recursive search: it arrives where that search is done with more
steps, none of which is on the path, or it ends with the cycle that that search has met. -/
def Answers (next : List (String × List String)) (path : List String) (w : Walk)
    (arrival : List String → Walk) : Except (List String) (List String) → Prop
  | .ok found => Reaches next w (arrival found) ∧ ∀ id ∈ found, id ∉ path
  | .error cycle => Ends next w (some cycle)

section Answers

variable {next : List (String × List String)}

theorem Answers.of_reaches {path : List String} {w w' : Walk} {arrival : List String → Walk}
    {result : Except (List String) (List String)} (h : Reaches next w w')
    (answers : Answers next path w' arrival result) : Answers next path w arrival result := by
  cases result with
  | ok found => exact ⟨h.trans answers.1, answers.2⟩
  | error cycle => exact h.ends answers

theorem Answers.bind {path path' : List String} {w : Walk} {arrival arrival' : List String → Walk}
    {result : Except (List String) (List String)}
    {f : List String → Except (List String) (List String)}
    (h : Answers next path w arrival result)
    (further : ∀ found, (∀ id ∈ found, id ∉ path) →
      Answers next path' (arrival found) arrival' (f found)) :
    Answers next path' w arrival' (result >>= f) := by
  cases result with
  | ok found => exact .of_reaches h.1 (further found h.2)
  | error cycle => exact h

variable {ids : List String}

/-- The walk looks at the steps next to a step one by one, as the recursive search does. -/
theorem foldlM_answers {roots path : List String} {pending : List (List String)}
    {search : List String → String → Except (List String) (List String)} (children : List String)
    (step : ∀ child ∈ children, ∀ rest finished, (∀ id ∈ finished, id ∉ path) →
      Answers next path (standing ids roots path ((child :: rest) :: pending) finished)
        (standing ids roots path (rest :: pending)) (search finished child)) :
    ∀ finished, (∀ id ∈ finished, id ∉ path) →
      Answers next path (standing ids roots path (children :: pending) finished)
        (standing ids roots path ([] :: pending)) (children.foldlM search finished) := by
  induction children with
  | nil =>
    intro finished off
    exact ⟨.refl, off⟩
  | cons child rest ih =>
    intro finished off
    rw [List.foldlM_cons]
    exact (step child List.mem_cons_self rest finished off).bind
      (ih fun child hchild => step child (List.mem_cons_of_mem _ hchild))

variable (keys : next.map Prod.fst = ids)
  (closed : ∀ id ∈ ids, ∀ child ∈ entryOf next id, child ∈ ids)

include keys closed

/-- From a step that it has just come to, the walk does what the recursive search does there, and
goes back. The path has no step twice, so the fuel of that search never runs out. -/
theorem searchFrom_answers (roots : List String) (fuel : Nat) :
    ∀ (node : String) (ancestors finished : List String) (pending : List (List String)),
      (node :: ancestors).Nodup → (∀ id ∈ node :: ancestors, id ∈ ids) →
      ids.length < ancestors.length + 1 + fuel → (∀ id ∈ finished, id ∉ node :: ancestors) →
      Answers next ancestors
        (standing ids roots (node :: ancestors) (entryOf next node :: pending) finished)
        (standing ids roots ancestors pending)
        (searchFrom (entryOf next) fuel (node :: ancestors) finished) := by
  induction fuel with
  | zero =>
    intro node ancestors finished pending nodup known enough
    have hle := (List.subperm_of_subset nodup known).length_le
    rw [List.length_cons] at hle
    omega
  | succ fuel ih =>
    intro node ancestors finished pending nodup known enough off
    have hnew := (List.nodup_cons.1 nodup).1
    rw [searchFrom]
    refine (foldlM_answers (entryOf next node) ?_ finished off).bind fun found hfound => ?_
    · intro child hchild rest finished off
      have hknown := closed node (known node List.mem_cons_self) child hchild
      by_cases hpath : child ∈ node :: ancestors
      · rw [if_pos hpath]
        exact ⟨_, .refl, move_look_of_mem_path hknown nodup hpath⟩
      rw [if_neg hpath]
      by_cases hdone : child ∈ finished
      · rw [if_pos hdone]
        exact ⟨.move (move_look_of_mem_finished hknown hpath hdone), off⟩
      rw [if_neg hdone]
      refine .of_reaches (.move (move_look keys hknown hpath hdone)) ?_
      refine ih child (node :: ancestors) finished (rest :: pending)
        (List.nodup_cons.2 ⟨hpath, nodup⟩) (List.forall_mem_cons.2 ⟨hknown, known⟩) ?_ ?_
      · rw [List.length_cons]
        omega
      · intro id hid hmem
        rcases List.mem_cons.1 hmem with rfl | hmem
        · exact hdone hid
        · exact off id hid hmem
    · refine ⟨.move (move_back hnew), ?_⟩
      rw [List.forall_mem_cons]
      exact ⟨hnew, fun id hid hmem => hfound id hid (List.mem_cons_of_mem _ hmem)⟩

/-- The walk that has still to begin at some steps ends with the answer of the recursive search. -/
theorem searchAll_answers (roots : List String) :
    ∀ finished, (∀ id ∈ roots, id ∈ ids) →
      Ends next (standing ids roots [] [] finished)
        (match searchAll (entryOf next) (ids.length + 1) roots finished with
          | .error cycle => some cycle
          | .ok _ => none) := by
  induction roots with
  | nil =>
    intro finished _
    exact ⟨_, .refl, rfl⟩
  | cons root rest ih =>
    intro finished known
    rw [List.forall_mem_cons] at known
    rw [searchAll]
    by_cases hdone : root ∈ finished
    · rw [if_pos hdone]
      exact (Reaches.move (move_root_of_mem known.1 hdone)).ends (ih finished known.2)
    rw [if_neg hdone]
    have hanswers := searchFrom_answers keys closed rest (ids.length + 1) root [] finished []
      (List.nodup_singleton root) (by simpa using known.1) (by simp; omega)
      (fun id hid hmem => hdone (List.mem_singleton.1 hmem ▸ hid))
    refine (Reaches.move (move_root keys known.1 hdone)).ends ?_
    cases hresult : searchFrom (entryOf next) (ids.length + 1) [root] finished with
    | error cycle =>
      rw [hresult] at hanswers
      exact hanswers
    | ok found =>
      rw [hresult] at hanswers
      exact hanswers.1.ends (ih found known.2)

/-- The walk from all steps ends with the cycle that the recursive search meets, if any. -/
theorem begin_ends : Ends next (begin ids) (findCycle? ids (entryOf next)) := by
  rw [begin_eq_standing]
  exact searchAll_answers keys closed ids [] fun _ h => h

end Answers

/-- The work of a search at its beginning: every step is begun at, gone to and left, and every link
is looked at once. -/
theorem work_begin (next : List (String × List String)) (ids : List String) :
    (begin ids).work next = 3 * ids.length + (ids.map fun id => (entryOf next id).length).sum := by
  have hunmet : unmet next (ids.map fun id => (id, .white)) =
      2 * ids.length + (ids.map fun id => (entryOf next id).length).sum := by
    unfold unmet
    induction ids with
    | nil => rfl
    | cons id rest ih =>
      simp only [List.map_cons, List.sum_cons, List.length_cons, if_pos] at ih ⊢
      omega
  simp only [work, begin, List.map_nil, List.sum_nil, hunmet]
  omega

end Walk

/-! ## Workflows -/

namespace Definition

/-- A cycle of dependencies: at least two ids, of which the first is repeated at the end and all
others are distinct, each of a step that feeds the next. -/
structure IsLoop (d : Definition) (cycle : List String) : Prop where
  long : 2 ≤ cycle.length
  closed : cycle.head? = cycle.getLast?
  distinct : cycle.dropLast.Nodup
  linked : cycle.IsChain d.Feeds

theorem isLoop_of_isCycle {d : Definition} {next : String → List String} {cycle : List String}
    (feeds : ∀ source target, target ∈ next source → d.Feeds source target)
    (h : IsCycle next cycle) : d.IsLoop cycle := by
  obtain ⟨first, rest, rfl, hnodup, hchain⟩ := h
  refine ⟨by simp, ?_, ?_, hchain.imp feeds⟩
  · rw [List.getLast?_concat]
    rfl
  · rw [List.dropLast_concat]
    exact hnodup

/-- The search for a cycle of a workflow that has passed the checks before it ends within a number
of moves that the steps and links bound, without asking for anything that is not there. It finds
nothing exactly if no step leads back to itself, and a loop otherwise; the checks end by that. -/
theorem search_exact (d : Definition) (ids : checkIds [] d.stepIds = .ok ())
    (mappings : checkMappings d.stepIds d.mappings = .ok ())
    (places : checkDistinct [] d.mappings = .ok ()) :
    (∀ n, 3 * d.stepIds.length + (d.stepIds.map fun id => (d.successors id).length).sum < n →
        (Walk.begin d.stepIds).follow d.links.downstream n =
          .done (findCycle? d.stepIds d.successors)) ∧
      (findCycle? d.stepIds d.successors = none ↔ d.Acyclic) ∧
      (∀ cycle, findCycle? d.stepIds d.successors = some cycle → d.IsLoop cycle) ∧
      d.check =
        match findCycle? d.stepIds d.successors with
        | some cycle => .error (.cycle cycle)
        | none => .ok () := by
  have hfits : ∀ m ∈ d.mappings, d.Fits m := by
    rcases checkMappings_cases d.stepIds d.mappings with
      ⟨-, hall⟩ | ⟨_, _, _, fault, -, -, -, hfault⟩
    · exact fun m hm => checkMapping_eq_ok_iff.1 (hall m hm)
    · exact absurd (mappings.symm.trans hfault) nofun
  have hclosed : ∀ source ∈ d.stepIds, ∀ target ∈ d.successors source, target ∈ d.stepIds :=
    fun source _ target htarget => (((feeds_iff_mem_successors hfits).2 htarget).known hfits).2
  have hends := Walk.begin_ends d.links_lists.downstream_keys hclosed
  refine ⟨fun n hn => hends.follow_eq n ?_, findCycle?_eq_none_iff_acyclic hfits, ?_, ?_⟩
  · rw [Walk.work_begin]
    exact hn
  · intro cycle hcycle
    exact isLoop_of_isCycle (fun _ _ => (feeds_iff_mem_successors hfits).2)
      (isCycle_of_findCycle? hclosed hcycle).1
  · rw [check_eq, ids, mappings, places]
    rfl

/-- A workflow in which a step leads to an end, and then around to itself by two others. -/
def tangled : Definition where
  id := "w"
  name := "W"
  steps :=
    [{ id := "start", kind := .controlFlow }, { id := "a", kind := .controlFlow },
     { id := "end", kind := .controlFlow }, { id := "b", kind := .controlFlow },
     { id := "c", kind := .controlFlow }]
  mappings :=
    [{ source := .step "start", target := .step "a", targetPath := "x" },
     { source := .step "a", target := .step "end", targetPath := "x" },
     { source := .step "a", target := .step "b", targetPath := "x" },
     { source := .step "b", target := .step "end", targetPath := "y" },
     { source := .step "b", target := .step "c", targetPath := "x" },
     { source := .step "c", target := .step "a", targetPath := "y" }]

/-- The search goes back from the end, which is done with when it is met again, and then meets the
loop, which does not hold the step that it began at. -/
theorem search_exact_tangled :
    checkIds [] tangled.stepIds = .ok () ∧
      checkMappings tangled.stepIds tangled.mappings = .ok () ∧
      checkDistinct [] tangled.mappings = .ok () ∧
      (Walk.begin tangled.stepIds).follow tangled.links.downstream 22 =
        .done (some ["a", "b", "c", "a"]) ∧
      tangled.IsLoop ["a", "b", "c", "a"] ∧ ¬tangled.Acyclic ∧
      tangled.check = .error (.cycle ["a", "b", "c", "a"]) := by
  have hids : checkIds [] tangled.stepIds = .ok () := by decide +kernel
  have hmappings : checkMappings tangled.stepIds tangled.mappings = .ok () := by decide +kernel
  have hplaces : checkDistinct [] tangled.mappings = .ok () := by decide +kernel
  have hcycle : findCycle? tangled.stepIds tangled.successors = some ["a", "b", "c", "a"] := by
    decide +kernel
  obtain ⟨hends, hacyclic, hloop, hcheck⟩ := search_exact tangled hids hmappings hplaces
  rw [hcycle] at hends hacyclic hcheck
  have hcyclic : ¬tangled.Acyclic := fun h => nomatch hacyclic.2 h
  exact ⟨hids, hmappings, hplaces, hends 22 (by decide +kernel), hloop _ hcycle, hcyclic, hcheck⟩

end Definition

end Conduit
