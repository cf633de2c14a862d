import Conduit.Pipeline.Listing
import Conduit.Proofs.Pipeline.Supply

/-!
# What listings build

A listing writes down, statement by statement, what a mapper does at once. Its statements put values
into a draft and, like the mapper, pass over a value that is not there; only a statement that takes
another value for the whole draft takes it without looking, so that nothing at all can be left.

A listing does not copy what it takes from the inputs and from the outputs of steps. Its draft
shares these values with whoever holds them, and writing inside one would change it for all of them.
So a draft keeps book of where it put such values, and of whether a statement wrote inside one: as
long as none did, sharing a value and copying it are the same.

* `Path.passes` — whether writing at a place changes what stands at another;
* `Listing.Draft`, `Listing.Statement.run`, `Listing.execute` — what a listing does;
* `Listing.Draft.Follows` — the draft while bindings write;
* `Pipeline.listing_builds` — what is left in the end.
-/

namespace Conduit

/-! ## Passing through a place -/

namespace Path

/-- Whether writing at the second path goes into the container that stands at the first. -/
def passes : Value → List String → List String → Bool
  | .object _, [], _ :: _ => true
  | .list _, [], next :: _ => isPosition next
  | .object members, a :: p, b :: q =>
    a == b &&
      match Members.get? members a with
      | some v => passes v p q
      | none => false
  | .list items, a :: p, b :: q =>
    isPosition a && isPosition b &&
      match position a, position b with
      | .ok i, .ok j =>
        i == j &&
          match items[i]? with
          | some v => passes v p q
          | none => false
      | _, _ => false
  | _, _, _ => false

/-- No path goes into what stands at another if the two are told apart. -/
theorem not_apart_of_passes {c : Value} {p q : List String} (h : passes c p q = true) :
    ¬Apart p q := by
  induction p generalizing c q with
  | nil => simp [Apart]
  | cons a p ih =>
    cases q with
    | nil => simp [Apart]
    | cons b q =>
      rw [Apart]
      cases c with
      | object members =>
        simp only [passes, Bool.and_eq_true, beq_iff_eq] at h
        obtain ⟨rfl, h⟩ := h
        rw [if_pos rfl]
        split at h
        · exact ih h
        · cases h
      | list items =>
        simp only [passes, Bool.and_eq_true] at h
        obtain ⟨⟨hdigits, -⟩, h⟩ := h
        split at h
        · next i j hi hj =>
          rw [Bool.and_eq_true, beq_iff_eq] at h
          obtain ⟨rfl, h⟩ := h
          split at h
          · split
            · exact ih h
            · exact fun happart => ih h ((happart hdigits).2 (hi.trans hj.symm))
          · cases h
        · cases h
      | _ => simp [passes] at h

/-- In an object, no path goes into what stands at another if the two are told apart in objects. -/
theorem not_diverge_of_passes {members : Members} {p q : List String}
    (h : passes (.object members) p q = true) : ¬Diverge p q := by
  cases p with
  | nil => simp [Diverge]
  | cons a p =>
    cases q with
    | nil => simp [Diverge]
    | cons b q =>
      simp only [passes, Bool.and_eq_true, beq_iff_eq] at h
      obtain ⟨rfl, h⟩ := h
      split at h
      · exact fun hdiverge => not_apart_of_passes h (hdiverge rfl)
      · cases h

end Path

/-! ## What a listing does -/

namespace Listing

/-- Why a listing stops. -/
inductive Halt where
  /-- An operation does not take its values. -/
  | fault (fault : Fault)
  /-- A name stands for nothing yet. -/
  | undefined (name : String)
deriving DecidableEq, Inhabited

/-- The value of an expression, if it is there. Transforms need to be told of. -/
def Expression.eval (known : Bool) (outputs : String → Option Value) (inputs : Members) :
    Expression → Except Halt (Option Value)
  | value v => .ok (some v)
  | inInputs path => (Path.lookup? (.object inputs) path).mapError .fault
  | inOutput step path =>
    match outputs step with
    | none => .error (.fault (.noMember step))
    | some v => (Path.lookup? v path).mapError .fault
  | transformed t e =>
    if known then
      match e.eval known outputs inputs with
      | .error halt => .error halt
      | .ok none => .ok none
      | .ok (some v) => ((t.apply v).mapError .fault).map some
    else .error (.undefined "_transform")

/-- Whether the result of a transform may be what it was given, or a part of that. -/
def passesOn (t : Transform) : Bool := t = .json || t = .first || t = .last

/-- Whether the value of an expression may be held elsewhere, too. -/
def Expression.isShared : Expression → Bool
  | value _ => false
  | inInputs _ => true
  | inOutput _ _ => true
  | transformed t e => passesOn t && e.isShared

/-- The value that a listing has made so far. -/
structure Draft where
  /-- The value, none after taking one that is not there. It is kept as if what is shared had been
  copied, which makes no difference before something is written inside that. -/
  value : Option Value := none
  /-- Whether it was said how transforms are applied. -/
  transforms : Bool := false
  /-- Where values were put that may be held elsewhere, too. -/
  shared : List (List String) := []
  /-- Whether something was written inside what stood there. -/
  intruded : Bool := false
deriving DecidableEq, Inhabited

/-- The fault of writing to what has no parts. -/
def noPlace (kind : String) (rest : List String) : Fault :=
  if rest.isEmpty then .other .type ("'" ++ kind ++ "' object does not support item assignment")
  else .noOperation kind "get"

/-- The draft after a value, which may be held elsewhere, was written at a place of its target. -/
def Draft.advance (draft : Draft) (target written : Value) (place : List String) (shared : Bool) :
    Draft where
  value := some written
  transforms := draft.transforms
  shared := if shared then place :: draft.shared else draft.shared
  intruded := draft.intruded || draft.shared.any fun p => Path.passes target p place

/-- Writes a value, which may be held elsewhere, at a place in a draft. -/
def Draft.write (draft : Draft) (path : String) (v : Value) (shared : Bool) : Except Halt Draft :=
  match Path.split path with
  | .error fault => .error (.fault fault)
  | .ok [] => .error (.fault (.other .value "Cannot assign to an empty path"))
  | .ok (segment :: rest) =>
    match draft.value with
    | none => .error (.fault (noPlace "object" rest))
    | some target =>
      if target.isObject || target.isList then
        match Path.assign target (segment :: rest) v with
        | (_, some fault) => .error (.fault fault)
        | (written, none) => .ok (draft.advance target written (segment :: rest) shared)
      else .error (.fault (noPlace target.kindName rest))

/-- Runs a statement. -/
def Statement.run (outputs : String → Option Value) (inputs : Members) (draft : Draft) :
    Statement → Except Halt Draft
  | transforms => .ok { draft with transforms := true }
  | begin v => .ok { draft with value := some v, shared := [] }
  | put path e =>
    match e.eval draft.transforms outputs inputs with
    | .error halt => .error halt
    | .ok none => .ok draft
    | .ok (some v) => draft.write path v e.isShared
  | become e =>
    match e.eval draft.transforms outputs inputs with
    | .error halt => .error halt
    | .ok v? => .ok { draft with value := v?, shared := if e.isShared then [[]] else [] }

/-- Runs statements one after the other. -/
def execute (outputs : String → Option Value) (inputs : Members) (statements : List Statement) :
    Except Halt Draft :=
  statements.foldlM (fun draft s => s.run outputs inputs draft) {}

variable {outputs : String → Option Value} {inputs : Members}

/-! ## Bindings -/

/-- The step that a binding reads has an output. -/
def Present (outputs : String → Option Value) (b : Binding) : Prop :=
  ∀ id index path, b.source = .step id index path → (outputs id).isSome = true

theorem eval_sourceExpression {b : Binding} (present : Present outputs b) (known : Bool) :
    (sourceExpression b.source).eval known outputs inputs =
      (b.resolve outputs inputs).mapError .fault := by
  rw [Binding.resolve]
  cases hsource : b.source with
  | fixed v => rfl
  | input path => rfl
  | step id index path =>
    obtain ⟨v, hv⟩ := Option.isSome_iff_exists.1 (present id index path hsource)
    simp only [sourceExpression, Expression.eval, hv]

/-- The expression of a binding has a value if the binding writes, and this is what it writes. -/
theorem eval_bindingExpression {b : Binding} (present : Present outputs b) {known : Bool}
    (told : b.transform.isSome = true → known = true) {result after : Value}
    (h : b.run outputs inputs result = .ok after) :
    ((bindingExpression b).eval known outputs inputs = .ok none ∧ ¬b.Writes outputs inputs ∧
        after = result) ∨
      ∃ w, (bindingExpression b).eval known outputs inputs = .ok (some w) ∧
        b.Writes outputs inputs ∧ b.write result w = .ok after := by
  have hsource : (sourceExpression b.source).eval known outputs inputs = _ :=
    eval_sourceExpression present known
  rw [Binding.run] at h
  cases hresolve : b.resolve outputs inputs with
  | error fault =>
    rw [hresolve] at h
    cases h
  | ok v? =>
    rw [hresolve] at h hsource
    cases v? with
    | none =>
      cases h
      refine .inl ⟨?_, fun ⟨v, hv⟩ => ?_, rfl⟩
      · rw [bindingExpression]
        split
        · exact hsource
        · next t ht =>
          rw [Expression.eval, if_pos (told (ht ▸ rfl)), hsource]
          rfl
      · rw [hresolve] at hv
        cases hv
    | some v =>
      dsimp only at h
      split at h
      · cases h
      · next w hconvert =>
        refine .inr ⟨w, ?_, ⟨v, hresolve⟩, h⟩
        rw [Binding.convert] at hconvert
        rw [bindingExpression]
        cases ht : b.transform with
        | none =>
          rw [ht] at hconvert
          cases hconvert
          exact hsource
        | some t =>
          rw [ht] at hconvert
          dsimp only at hconvert ⊢
          rw [Expression.eval, if_pos (told (ht ▸ rfl)), hsource]
          cases happly : t.apply v with
          | ok w' =>
            rw [happly] at hconvert
            cases hconvert
            simp [Except.mapError, Except.map, happly]
          | error fault =>
            rw [happly] at hconvert
            cases hconvert

/-! ## Drafts -/

/-- A binding goes into the place of an earlier one. -/
def Entangled (outputs : String → Option Value) (inputs : Members) (bindings : List Binding) :
    Prop :=
  ∃ b c, [b, c].Sublist bindings ∧ b.Writes outputs inputs ∧ c.Writes outputs inputs ∧ b.Meets c

/-- A draft follows bindings that have written: it holds the object that they built, and the values
that it shares stand where they wrote. -/
structure Draft.Follows (outputs : String → Option Value) (inputs : Members) (draft : Draft)
    (front : List Binding) (result : Value) : Prop where
  value : draft.value = some result
  object : ∃ members, result = .object members
  shared : ∀ p ∈ draft.shared, ∃ b ∈ front, b.Writes outputs inputs ∧ Path.split b.target = .ok p
  intruded : draft.intruded = true → Entangled outputs inputs front

theorem Entangled.append {front : List Binding} (h : Entangled outputs inputs front)
    (back : List Binding) : Entangled outputs inputs (front ++ back) := by
  obtain ⟨b, c, hsub, hwrites⟩ := h
  exact ⟨b, c, hsub.trans (List.sublist_append_left front back), hwrites⟩

namespace Draft.Follows

variable {draft : Draft} {front : List Binding} {result : Value} {b : Binding}

/-- A binding that writes nothing changes nothing. -/
theorem skip (follows : draft.Follows outputs inputs front result) (b : Binding) :
    draft.Follows outputs inputs (front ++ [b]) result where
  value := follows.value
  object := follows.object
  shared p hp :=
    let ⟨c, hc, hwrites⟩ := follows.shared p hp
    ⟨c, List.mem_append_left _ hc, hwrites⟩
  intruded h := (follows.intruded h).append [b]

/-- Taking the inputs as a whole leaves an object. -/
theorem become (follows : draft.Follows outputs inputs front result) :
    Draft.Follows outputs inputs { draft with value := some (.object inputs), shared := [[]] }
      (front ++ [.ofField ""]) (.object inputs) where
  value := rfl
  object := ⟨inputs, rfl⟩
  shared p hp := by
    obtain rfl := List.mem_singleton.1 hp
    exact ⟨.ofField "", List.mem_append_right _ List.mem_cons_self, ⟨.object inputs, rfl⟩, rfl⟩
  intruded h := (follows.intruded h).append _

/-- Writing goes inside a shared value only if the binding goes into the place of an earlier one. -/
theorem put (follows : draft.Follows outputs inputs front result) {w after : Value}
    (part : b.target ≠ "") (writes : b.Writes outputs inputs) (h : b.write result w = .ok after)
    (shared : Bool) :
    ∃ next, draft.write b.target w shared = .ok next ∧
      next.Follows outputs inputs (front ++ [b]) after ∧ next.transforms = draft.transforms := by
  obtain ⟨members, rfl⟩ := follows.object
  rcases Binding.write_cases h with ⟨hsplit, -⟩ | ⟨a, q, written, hsplit, rfl, hassign⟩
  · exact absurd (Path.split_eq_nil_iff.1 hsplit) part
  · have hassign : Path.assign (.object members) (a :: q) w = (.object written, none) := hassign
    have hwrite : draft.write b.target w shared =
        .ok (draft.advance (.object members) (.object written) (a :: q) shared) := by
      simp [Draft.write, hsplit, follows.value, hassign, Value.isObject]
    refine ⟨_, hwrite, ?_, rfl⟩
    have hb : b ∈ front ++ [b] := List.mem_append_right _ List.mem_cons_self
    refine ⟨rfl, ⟨written, rfl⟩, fun p hp => ?_, fun hintruded => ?_⟩
    · have hp : p = a :: q ∨ p ∈ draft.shared := by
        cases shared with
        | true => exact List.mem_cons.1 hp
        | false => exact .inr hp
      rcases hp with rfl | hp
      · exact ⟨b, hb, writes, hsplit⟩
      · obtain ⟨c, hc, hwrites⟩ := follows.shared p hp
        exact ⟨c, List.mem_append_left _ hc, hwrites⟩
    · rcases Bool.or_eq_true_iff.1 hintruded with hbefore | hnow
      · exact (follows.intruded hbefore).append [b]
      · obtain ⟨p, hp, hpasses⟩ := List.any_eq_true.1 hnow
        obtain ⟨c, hc, hwrites, hplace⟩ := follows.shared p hp
        have hsub : [c, b].Sublist (front ++ [b]) :=
          (List.singleton_sublist.2 hc).append (List.Sublist.refl [b])
        exact ⟨c, b, hsub, hwrites, writes, p, a :: q, hplace, hsplit,
          Path.not_diverge_of_passes hpasses⟩

/-- The statement of a binding does what the binding does. -/
theorem step (follows : draft.Follows outputs inputs front result) {after : Value}
    (present : Present outputs b) (told : b.transform.isSome = true → draft.transforms = true)
    (whole : b.target = "" → b = .ofField "") (h : b.run outputs inputs result = .ok after) :
    ∃ next, (bindingStatement b).run outputs inputs draft = .ok next ∧
      next.Follows outputs inputs (front ++ [b]) after ∧ next.transforms = draft.transforms := by
  by_cases hpart : b.target = ""
  · cases whole hpart
    cases h
    exact ⟨_, rfl, follows.become, rfl⟩
  · have hstatement : bindingStatement b = .put b.target (bindingExpression b) := by
      rw [bindingStatement, if_neg (by simpa using hpart)]
    rw [hstatement, Statement.run]
    rcases eval_bindingExpression present told h with ⟨heval, -, rfl⟩ | ⟨w, heval, hwrites, hwrite⟩
    · rw [heval]
      exact ⟨draft, rfl, follows.skip b, rfl⟩
    · rw [heval]
      exact follows.put hpart hwrites hwrite _

/-- The statements of bindings do what the bindings do. -/
theorem run (bindings : List Binding) {built : Value}
    (follows : draft.Follows outputs inputs front result)
    (present : ∀ b ∈ bindings, Present outputs b)
    (told : ∀ b ∈ bindings, b.transform.isSome = true → draft.transforms = true)
    (whole : ∀ b ∈ bindings, b.target = "" → b = .ofField "")
    (h : bindings.foldlM (fun result b => b.run outputs inputs result) result = .ok built) :
    ∃ left, (bindings.map bindingStatement).foldlM (fun draft s => s.run outputs inputs draft)
        draft = .ok left ∧ left.Follows outputs inputs (front ++ bindings) built := by
  induction bindings generalizing draft front result with
  | nil =>
    cases h
    exact ⟨draft, rfl, (List.append_nil front).symm ▸ follows⟩
  | cons b rest ih =>
    rw [List.forall_mem_cons] at present told whole
    rw [List.foldlM_cons, except_bind_eq_ok] at h
    obtain ⟨after, hrun, h⟩ := h
    obtain ⟨next, hnext, hfollows, htransforms⟩ := follows.step present.1 told.1 whole.1 hrun
    obtain ⟨left, hleft, hend⟩ := ih hfollows present.2 (htransforms ▸ told.2) whole.2 h
    rw [List.append_assoc] at hend
    refine ⟨left, ?_, hend⟩
    rw [List.map_cons, List.foldlM_cons, except_bind_eq_ok]
    exact ⟨next, hnext, hleft⟩

end Draft.Follows

/-! ## Mappers -/

/-- A listing begins with the defaults, and says how transforms are applied if there are any. -/
theorem execute_mapperStatements (m : Mapper) :
    execute outputs inputs (mapperStatements m) =
      (m.bindings.map bindingStatement).foldlM (fun draft s => s.run outputs inputs draft)
        { value := some m.base, transforms := m.bindings.any (·.transform.isSome) } := by
  rw [execute, mapperStatements]
  split
  · next h =>
    rw [h]
    rfl
  · next h =>
    rw [Bool.not_eq_true] at h
    rw [h]
    rfl

end Listing

/-! ## The mappers of a pipeline -/

/-- Of the mappings into one place, one that writes all of it is the only one. -/
theorem Definition.Valid.into_eq_singleton {d : Definition} (valid : d.Valid) {m : Mapping}
    {target : Destination} (hm : m ∈ d.into target) (whole : m.targetPath = "") :
    d.into target = [m] := by
  have hsame : ∀ other ∈ d.into target, other.target = target := fun other hother =>
    beq_iff_eq.1 (List.mem_filter.1 hother).2
  have hpairs : (d.into target).Pairwise Mapping.Apart := valid.places.filter _
  have hsegments : m.targetSegments = [] := by
    rw [Mapping.targetSegments, whole]
    rfl
  obtain ⟨front, back, hsplit⟩ := List.append_of_mem hm
  rw [hsplit] at hpairs hsame
  rw [List.pairwise_append, List.pairwise_cons] at hpairs
  -- the empty path begins every other, so there is none before it and none after it
  have hfront : front = [] := by
    refine List.eq_nil_iff_forall_not_mem.2 fun other hother => ?_
    have hother' := hsame other (List.mem_append_left _ hother)
    have hm' := hsame m (List.mem_append_right _ List.mem_cons_self)
    have happart := hpairs.2.2 other hother m List.mem_cons_self (hother'.trans hm'.symm)
    rw [hsegments] at happart
    exact happart.2 List.nil_prefix
  have hback : back = [] := by
    refine List.eq_nil_iff_forall_not_mem.2 fun other hother => ?_
    have hother' := hsame other (List.mem_append_right _ (List.mem_cons_of_mem _ hother))
    have hm' := hsame m (List.mem_append_right _ List.mem_cons_self)
    have happart := hpairs.2.1.1 other hother (hm'.trans hother'.symm)
    rw [hsegments] at happart
    exact happart.1 List.nil_prefix
  rw [hsplit, hfront, hback, List.nil_append]

/-- The output of a pipeline has no defaults. -/
theorem Graph.defaults_of_outputMapper {g : Graph} {schema : Option Members} {p : Pipeline}
    (h : g.compile schema = .ok p) {mapper : Mapper} (hmapper : p.outputMapper = some mapper) :
    mapper.defaults = [] := by
  rw [Graph.compile] at h
  simp only [except_bind_eq_ok] at h
  obtain ⟨order, -, steps, -, outputs, -, h⟩ := h
  cases h
  change (if outputs.isEmpty then none else some { bindings := outputs }) = some mapper at hmapper
  split at hmapper
  · cases hmapper
  · cases hmapper
    rfl

namespace Pipeline

/-- A binding of a pipeline that writes the whole takes the inputs, or it is all of its mapper. -/
theorem whole_cases {d : Definition} {schema : Option Members} {p : Pipeline}
    (compiled : d.compile schema = .ok p) {mapper : Mapper} (hmapper : mapper ∈ p.mappers) :
    (∀ b ∈ mapper.bindings, b.target = "" → b = .ofField "") ∨
      ∃ b, mapper = ⟨[b], []⟩ ∧ b.target = "" := by
  obtain ⟨g, rfl, hg⟩ := exists_graph_of_compile compiled
  have hcompiles := Graph.compiles hg
  rcases List.mem_append.1 hmapper with hstep | houtput
  · obtain ⟨s, hs, rfl⟩ := List.mem_map.1 hstep
    obtain ⟨explicit, fields, required, hcomposed⟩ :=
      Step.composed_of_mapper? (hcompiles.steps s hs).1
    have hvalid : (g.surroundings schema).definition.Valid := g.valid
    refine .inl fun b hb hwhole => ?_
    rw [hcomposed.bindings] at hb
    rcases List.mem_append.1 hb with hb | hb
    · obtain ⟨m, hm, hbinding⟩ := mem_of_mapM_eq_ok hcomposed.mapped b hb
      obtain ⟨hmapping, htarget⟩ := List.mem_filter.1 hm
      obtain ⟨q, hq⟩ :=
        Mapping.exists_split (hvalid.mappings m hmapping).2 (beq_iff_eq.1 htarget) hbinding
      rw [hwhole] at hq
      cases hq
    · obtain ⟨name, -, rfl⟩ := List.mem_map.1 hb
      exact congrArg Binding.ofField hwhole
  · have houtput := Option.mem_toList.1 houtput
    have hbindings := hcompiles.output mapper houtput
    by_cases hwhole : ∃ b ∈ mapper.bindings, b.target = ""
    · obtain ⟨b, hb, hb'⟩ := hwhole
      obtain ⟨m, hm, hbinding⟩ := mem_of_mapM_eq_ok hbindings b hb
      have htarget := (Mapping.binding?_eq hbinding).1
      have halone := g.valid.into_eq_singleton hm (htarget.symm.trans hb')
      rw [halone, List.mapM_cons, hbinding] at hbindings
      have hdefaults := Graph.defaults_of_outputMapper hg houtput
      refine .inr ⟨b, ?_, hb'⟩
      cases mapper
      cases hdefaults
      cases hbindings
      rfl
    · exact .inl fun b hb hb' => absurd ⟨b, hb, hb'⟩ hwhole

end Pipeline

namespace Listing

variable {outputs : String → Option Value} {inputs : Members}

/-- What a listing has in the end, where a mapper builds a value: the same, or nothing at all if it
takes a value for the whole that is not there. The mapper passes over this value, and leaves the
empty object that it began with. -/
inductive Leaves (outputs : String → Option Value) (inputs : Members) (m : Mapper) (built : Value) :
    Option Value → Prop
  | built (there : ∀ b ∈ m.bindings, b.target = "" → b.Writes outputs inputs) :
      Leaves outputs inputs m built (some built)
  | nothing {b : Binding} (only : m = ⟨[b], []⟩) (whole : b.target = "")
      (silent : ¬b.Writes outputs inputs) (empty : built = .object []) :
      Leaves outputs inputs m built none

/-- A listing of one binding that writes the whole has its value, also if that is not there. -/
theorem execute_whole {b : Binding} (present : Present outputs b) (whole : b.target = "")
    {built : Value} (builds : (⟨[b], []⟩ : Mapper).build outputs inputs = .ok built) :
    ∃ left, execute outputs inputs (mapperStatements ⟨[b], []⟩) = .ok left ∧
      Leaves outputs inputs ⟨[b], []⟩ built left.value ∧ left.intruded = false := by
  have hstatement : bindingStatement b = .become (bindingExpression b) := by
    rw [bindingStatement, if_pos (by simp [whole])]
  rw [Mapper.build, List.foldlM_cons, except_bind_eq_ok] at builds
  obtain ⟨after, hrun, ⟨⟩⟩ := builds
  have htold : b.transform.isSome = true → [b].any (·.transform.isSome) = true := fun h => by
    simp [h]
  rw [execute_mapperStatements, List.map_singleton, hstatement, List.foldlM_cons]
  rcases eval_bindingExpression present htold hrun with ⟨heval, hsilent, rfl⟩ |
    ⟨w, heval, hwrites, hwrite⟩
  · simp only [Statement.run, heval]
    exact ⟨_, rfl, .nothing rfl whole hsilent rfl, rfl⟩
  · rw [Binding.write, if_pos (by simp [whole])] at hwrite
    cases hwrite
    simp only [Statement.run, heval]
    exact ⟨_, rfl, .built (by simpa using fun _ => hwrites), rfl⟩

end Listing

namespace Pipeline

/-- When a mapper of a compiled workflow builds a value and all steps that it reads have outputs,
the statements of its listing run, and they leave this value; only where the listing takes a value
for the whole that is not there, it has nothing, while the mapper leaves an empty object. On the
way, nothing is written inside a value that is held elsewhere unless two bindings displace each
other. -/
theorem listing_builds {d : Definition} {schema : Option Members} {p : Pipeline}
    (compiled : d.compile schema = .ok p) {mapper : Mapper} (hmapper : mapper ∈ p.mappers)
    {outputs : String → Option Value} {inputs : Members}
    (present : ∀ id ∈ mapper.sourceSteps, (outputs id).isSome = true) {built : Value}
    (builds : mapper.build outputs inputs = .ok built) :
    ∃ left, Listing.execute outputs inputs (Listing.mapperStatements mapper) = .ok left ∧
      Listing.Leaves outputs inputs mapper built left.value ∧
      (left.intruded = true → ∃ b c, [b, c].Sublist mapper.bindings ∧ b.Writes outputs inputs ∧
        c.Writes outputs inputs ∧ b.Displaces c) := by
  have hpresent : ∀ b ∈ mapper.bindings, Listing.Present outputs b := by
    intro b hb id index path hsource
    refine present id (List.mem_eraseDups.2 (List.mem_filterMap.2 ⟨b, hb, ?_⟩))
    rw [hsource]
  rcases whole_cases compiled hmapper with hwhole | ⟨b, rfl, hb⟩
  · have hbase : Listing.Draft.Follows outputs inputs
        { value := some mapper.base, transforms := mapper.bindings.any (·.transform.isSome) } []
        mapper.base := ⟨rfl, ⟨_, rfl⟩, nofun, nofun⟩
    have htold : ∀ b ∈ mapper.bindings, b.transform.isSome = true →
        mapper.bindings.any (·.transform.isSome) = true := fun b hb h =>
      List.any_eq_true.2 ⟨b, hb, h⟩
    obtain ⟨left, hleft, hfollows⟩ := hbase.run mapper.bindings hpresent htold hwhole builds
    refine ⟨left, (Listing.execute_mapperStatements mapper).trans hleft, ?_, fun hintruded => ?_⟩
    · rw [hfollows.value]
      refine .built fun b hb hb' => ?_
      rw [hwhole b hb hb']
      exact ⟨.object inputs, rfl⟩
    · obtain ⟨b, c, hsub, hwrites, hwrites', hmeets⟩ := hfollows.intruded hintruded
      exact ⟨b, c, hsub, hwrites, hwrites',
        List.pairwise_iff_forall_sublist.1 (pairwise_checked compiled hmapper) hsub hmeets⟩
  · obtain ⟨left, hleft, hleaves, hintruded⟩ :=
      Listing.execute_whole (hpresent b List.mem_cons_self) hb builds
    refine ⟨left, hleft, hleaves, fun h => ?_⟩
    rw [hintruded] at h
    cases h

/-! ## Listings of concrete workflows -/

/-- A workflow of two steps. The second takes a field through a transform, a field that may not be
there and a fixed value, over a default. -/
def relay : Definition where
  id := "w"
  name := "W"
  steps :=
    [{ id := "a", kind := .controlFlow },
     { id := "b", kind := .controlFlow,
       inputSchema := [("properties", .object [("d", .object [("default", .int 5)])])] }]
  mappings :=
    [{ source := .step "a", target := .step "b", sourcePath := "x", targetPath := "p",
       transform := some "trim" },
     { source := .step "a", target := .step "b", sourcePath := "y", targetPath := "q" },
     { source := .fixed, target := .step "b", targetPath := "r.c", value := .int 1 }]

/-- The mapper of the second step. -/
def relayMapper : Mapper where
  bindings :=
    [{ target := "p", source := .step "a" 0 "x", transform := some .trim },
     { target := "q", source := .step "a" 0 "y" },
     { target := "r.c", source := .fixed (.int 1) }]
  defaults := [("d", .int 5)]

/-- The pipeline of that workflow. -/
def relayPipeline : Pipeline := ((relay.compile none).toOption).getD default

/-- Every step has put out an object with a member `x`. -/
def relayOutputs (_ : String) : Option Value := some (.object [("x", .str " t ")])

theorem relay_compile : relay.compile none = .ok relayPipeline :=
  Definition.compile_of_isSome (by decide +kernel)

theorem listing_builds_relay :
    ∃ left, Listing.execute relayOutputs [] (Listing.mapperStatements relayMapper) = .ok left ∧
      Listing.Leaves relayOutputs [] relayMapper
        (.object [("d", .int 5), ("p", .str "t"), ("r", .object [("c", .int 1)])]) left.value ∧
      (left.intruded = true → ∃ b c, [b, c].Sublist relayMapper.bindings ∧
        b.Writes relayOutputs [] ∧ c.Writes relayOutputs [] ∧ b.Displaces c) :=
  listing_builds relay_compile (by decide +kernel) (fun _ _ => rfl) (by decide +kernel)

/-- A workflow of two steps. Two mappings take the same object into the second step, and its field
`p.k` is read as a path into one of the two. -/
def doubled : Definition where
  id := "w"
  name := "W"
  inputSchema := [("properties", .object [("p.k", .object [])])]
  steps :=
    [{ id := "a", kind := .controlFlow },
     { id := "b", kind := .controlFlow,
       inputSchema := [("properties", .object [("p.k", .object [])])] }]
  mappings :=
    [{ source := .step "a", target := .step "b", sourcePath := "o", targetPath := "p" },
     { source := .step "a", target := .step "b", sourcePath := "o", targetPath := "q" }]

/-- The mapper of the second step. -/
def doubledMapper : Mapper where
  bindings :=
    [{ target := "p", source := .step "a" 0 "o" }, { target := "q", source := .step "a" 0 "o" },
     .ofField "p.k"]

/-- The pipeline of that workflow. -/
def doubledPipeline : Pipeline := ((doubled.compile none).toOption).getD default

/-- Every step has put out an object with an empty object in it. -/
def nestedOutputs (_ : String) : Option Value := some (.object [("o", .object [])])

/-- The mapper builds two objects, of which one gets the member `k`. The listing writes this member
inside the object that both of its fields share, and that the first step has put out. -/
theorem doubled_intruded :
    doubled.compile none = .ok doubledPipeline ∧ doubledMapper ∈ doubledPipeline.mappers ∧
      doubledMapper.build nestedOutputs [("p", .object [("k", .int 1)])] =
        .ok (.object [("p", .object [("k", .int 1)]), ("q", .object [])]) ∧
      ∃ left, Listing.execute nestedOutputs [("p", .object [("k", .int 1)])]
          (Listing.mapperStatements doubledMapper) = .ok left ∧
        left.shared = [["p", "k"], ["q"], ["p"]] ∧ left.intruded = true :=
  ⟨Definition.compile_of_isSome (by decide +kernel), by decide +kernel, by decide +kernel,
    { value := some (.object [("p", .object [("k", .int 1)]), ("q", .object [])]),
      shared := [["p", "k"], ["q"], ["p"]], intruded := true }, by decide +kernel, rfl, rfl⟩

/-- A workflow of one step, the output of which is a field of that of the step. -/
def extract : Definition where
  id := "w"
  name := "W"
  steps := [{ id := "a", kind := .controlFlow }]
  mappings := [{ source := .step "a", target := .output, sourcePath := "x", targetPath := "" }]

/-- The mapper of its output. -/
def extractMapper : Mapper where
  bindings := [{ target := "", source := .step "a" 0 "x" }]

/-- The pipeline of that workflow. -/
def extractPipeline : Pipeline := ((extract.compile none).toOption).getD default

/-- Every step has put out an empty object. -/
def bareOutputs (_ : String) : Option Value := some (.object [])

/-- When the field is not there, the mapper builds an empty object and the listing has nothing. -/
theorem extract_leaves_nothing :
    extract.compile none = .ok extractPipeline ∧ extractMapper ∈ extractPipeline.mappers ∧
      (∀ id ∈ extractMapper.sourceSteps, (bareOutputs id).isSome = true) ∧
      extractMapper.build bareOutputs [] = .ok (.object []) ∧
      ∃ left, Listing.execute bareOutputs [] (Listing.mapperStatements extractMapper) = .ok left ∧
        left.value = none := by
  refine ⟨Definition.compile_of_isSome (by decide +kernel), by decide +kernel, fun _ _ => rfl,
    by decide +kernel, { value := none, shared := [[]] }, by decide +kernel, rfl⟩

end Pipeline

end Conduit
