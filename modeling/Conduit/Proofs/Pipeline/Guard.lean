import Conduit.Proofs.Number.Rounding
import Conduit.Proofs.Pipeline.Layout
import Conduit.Proofs.Pipeline.Overwrite

/-!
# What building lets through

Building the input of a step gives a value, or fails with a failure of an input mapping. But only
the call of a transform is guarded, and only against values of a wrong kind or that cannot be used.
Other faults come out as they are: a transform can overflow or run out of depth, a segment of a path
can look like a position and be none, and a position can lie beyond what a list has room for.

* `Transform.Slips`, `Transform.slips_iff` — the faults of transforms that are let through;
* `Binding.Slips`, `Binding.Legible.slips_iff` — where a binding lets a fault through;
* `Mapper.Slips`, `Pipeline.build_slips_iff` — where the mappers of a pipeline do.
-/

namespace Conduit

/-- A computation ends in a fault that no guard around a transform holds back. -/
def Unguarded {α : Type} (x : Except Fault α) : Prop :=
  ∃ fault, x = .error fault ∧ fault.kind.isRefusal = false

section Unguarded

variable {α β : Type}

@[simp] theorem not_unguarded_ok (a : α) : ¬Unguarded (.ok a : Except Fault α) := by
  simp [Unguarded]

@[simp] theorem unguarded_error_iff {fault : Fault} :
    Unguarded (.error fault : Except Fault α) ↔ fault.kind.isRefusal = false := by
  simp [Unguarded]

@[simp] theorem unguarded_map_iff {x : Except Fault α} {f : α → β} :
    Unguarded (x.map f) ↔ Unguarded x := by
  cases x <;> simp [Unguarded, Except.map]

end Unguarded

/-! ## Transforms -/

namespace Transform

-- whether a guard holds a fault back is read off the fault
attribute [local simp] Fault.kind FaultClass.isRefusal

/-- A transform comes to a value that it fails on in another way than by refusing it: an integer
beyond every double, an infinity that is to be an integer, or a document that is nested too deep. -/
inductive Slips : Transform → Value → Prop
  | number {n : Int} (beyond : twoTo 1024 - twoTo 970 ≤ n.natAbs) : Slips .number (.int n)
  | integer {x : Double} (infinite : x.isInfinite = true) : Slips .integer (.float x)
  | json {s : String} {kind : Json.Nesting} (deep : Json.read s = .error (.tooDeep kind)) :
      Slips .json (.str s)

theorem not_unguarded_textOf (v : Value) : ¬Unguarded (textOf v) := by
  cases v with
  | int n =>
    rw [textOf]
    split <;> simp
  | list items | object members =>
    simp only [textOf]
    split
    · exact not_unguarded_ok _
    · next flaw _ => cases flaw <;> simp [ofLineFlaw]
  | _ => exact not_unguarded_ok _

theorem unguarded_realOf_iff {v : Value} : Unguarded (realOf v) ↔ Slips .number v := by
  cases v with
  | int n =>
    have hslips : Slips .number (.int n) ↔ Double.ofInt? n = none := by
      rw [Double.ofInt?_eq_none_iff]
      constructor
      · intro h
        cases h with
        | number beyond => exact beyond
      · exact .number
    rw [hslips, realOf]
    cases Double.ofInt? n <;> simp
  | str s =>
    refine iff_of_false ?_ nofun
    rw [realOf]
    cases Numeral.real? s.toList <;> simp
  | _ => exact iff_of_false (by simp [realOf]) nofun

theorem unguarded_integerOf_iff {v : Value} : Unguarded (integerOf v) ↔ Slips .integer v := by
  cases v with
  | float x =>
    have hslips : Slips .integer (.float x) ↔ x.isFinite = false ∧ x.isNaN = false := by
      rw [← Double.isInfinite_iff]
      constructor
      · intro h
        cases h with
        | integer infinite => exact infinite
      · exact .integer
    rw [hslips, integerOf, Double.truncate?]
    cases x.isFinite <;> cases x.isNaN <;> simp
  | str s =>
    refine iff_of_false ?_ nofun
    rw [integerOf]
    cases Numeral.integer s.toList with
    | ok n => simp
    | error flaw => cases flaw <;> simp [Fault.ofNumeral]
  | _ => exact iff_of_false (by simp [integerOf]) nofun

theorem unguarded_documentOf_iff {v : Value} : Unguarded (documentOf v) ↔ Slips .json v := by
  cases v with
  | str s =>
    have hslips : Slips .json (.str s) ↔ ∃ kind, Json.read s = .error (.tooDeep kind) := by
      constructor
      · intro h
        cases h with
        | json deep => exact ⟨_, deep⟩
      · rintro ⟨kind, deep⟩
        exact .json deep
    rw [hslips, documentOf]
    cases Json.read s with
    | ok v => simp
    | error error => cases error <;> simp
  | _ => exact iff_of_false (not_unguarded_ok _) nofun

/-- The faults of a transform that no guard holds back. -/
theorem slips_iff {t : Transform} {v : Value} : Unguarded (t.apply v) ↔ t.Slips v := by
  cases t with
  | number => rw [apply, unguarded_map_iff, unguarded_realOf_iff]
  | integer => rw [apply, unguarded_map_iff, unguarded_integerOf_iff]
  | json => rw [apply, unguarded_documentOf_iff]
  | string =>
    rw [apply, unguarded_map_iff]
    exact iff_of_false (not_unguarded_textOf v) nofun
  | lower | upper | trim =>
    rw [apply, mapText, unguarded_map_iff]
    exact iff_of_false (not_unguarded_textOf v) nofun
  | boolean => exact iff_of_false (not_unguarded_ok _) nofun
  | length =>
    refine iff_of_false ?_ nofun
    rw [apply, unguarded_map_iff]
    cases v <;> simp [lengthOf, bind, Except.bind, pure, Except.pure]
  | first | last =>
    refine iff_of_false ?_ nofun
    cases v <;> exact not_unguarded_ok _

end Transform

/-! ## Bindings -/

/-- Building ends in something else than a value or a failure of an input mapping. -/
def LetsThrough (x : Except BuildFault Value) : Prop :=
  ∃ fault, x = .error fault ∧ ∀ f, fault.trouble = .failure f → f.kind ≠ .inputMapping

@[simp] theorem not_letsThrough_ok (v : Value) : ¬LetsThrough (.ok v) := by
  simp [LetsThrough]

@[simp] theorem not_letsThrough_transform (t : Transform) (target : String) (fault : Fault) :
    ¬LetsThrough (.error (.transform t target fault)) := by
  rintro ⟨_, ⟨⟩, h⟩
  exact h _ rfl rfl

@[simp] theorem letsThrough_other (fault : Fault) : LetsThrough (.error (.other fault)) :=
  ⟨_, rfl, nofun⟩

namespace Binding

variable {b : Binding} {outputs : String → Option Value} {inputs : Members} {result : Value}

/-- The value and the path at which a source is read. -/
inductive Reads (outputs : String → Option Value) (inputs : Members) :
    Source → Value → String → Prop
  | input (path : String) : Reads outputs inputs (.input path) (.object inputs) path
  | step {id path : String} {index : Nat} {v : Value} (there : outputs id = some v) :
      Reads outputs inputs (.step id index path) v path

/-- Reading the source of a binding is a fault exactly if its path cannot be read. -/
theorem resolve_eq_error_iff :
    (∃ fault, b.resolve outputs inputs = .error fault) ↔
      ∃ v path, Reads outputs inputs b.source v path ∧ Path.Unreadable v path := by
  unfold resolve
  split
  · next hsource =>
    refine iff_of_false nofun ?_
    rintro ⟨v, path, hreads, -⟩
    rw [hsource] at hreads
    cases hreads
  · next path hsource =>
    rw [Path.lookup?_eq_error_iff, hsource]
    constructor
    · exact fun h => ⟨_, _, .input path, h⟩
    · rintro ⟨_, _, ⟨⟩, h⟩
      exact h
  · next id index path hsource =>
    rw [hsource]
    split
    · next hmissing =>
      refine iff_of_false nofun ?_
      rintro ⟨v, path', hreads, -⟩
      cases hreads with
      | step there => cases hmissing.symm.trans there
    · next v hthere =>
      rw [Path.lookup?_eq_error_iff]
      constructor
      · exact fun h => ⟨_, _, .step hthere, h⟩
      · rintro ⟨v', path', hreads, h⟩
        cases hreads with
        | step there =>
          cases hthere.symm.trans there
          exact h

/-- The paths of a binding have segments, unless it takes the input of a name. -/
inductive Legible (b : Binding) : Prop
  | paths {q : List String} (target : Path.split b.target = .ok q)
      (source : ∀ {outputs inputs v path}, Reads outputs inputs b.source v path →
        ∃ p, Path.split path = .ok p)
  | named {name : String} (named : b = .ofField name)

/-- The source of a binding is not read: the binding takes the input of a name that has no segments,
or the path comes to a list with a segment that looks like a position and is none. -/
inductive Stumbles (b : Binding) (outputs : String → Option Value) (inputs : Members) : Prop
  | name (implicit : b.implicit = true) (odd : ∃ fault, Path.split b.target = .error fault)
  | path {v : Value} {path : String} {p : List String} (reads : Reads outputs inputs b.source v path)
      (segments : Path.split path = .ok p) (stuck : Path.Stuck v p)

theorem Legible.stumbles_iff (legible : b.Legible) :
    (∃ fault, b.resolve outputs inputs = .error fault) ↔ b.Stumbles outputs inputs := by
  rw [resolve_eq_error_iff]
  constructor
  · rintro ⟨v, path, reads, unreadable⟩
    cases hsplit : Path.split path with
    | ok p => exact .path reads hsplit (unreadable p hsplit)
    | error fault =>
      cases legible with
      | paths target source =>
        obtain ⟨p, segments⟩ := source reads
        cases hsplit.symm.trans segments
      | named named =>
        subst named
        cases reads
        exact .name rfl ⟨fault, hsplit⟩
  · intro h
    cases h with
    | path reads segments stuck =>
      refine ⟨_, _, reads, fun p hp => ?_⟩
      cases segments.symm.trans hp
      exact stuck
    | name implicit odd =>
      obtain ⟨fault, hsplit⟩ := odd
      cases legible with
      | paths target source => cases hsplit.symm.trans target
      | named named =>
        subst named
        refine ⟨_, _, .input _, fun p hp => ?_⟩
        cases hsplit.symm.trans hp

/-- A binding that carries a value has a place for it. -/
theorem Legible.exists_segments (legible : b.Legible) {found : Option Value}
    (resolved : b.resolve outputs inputs = .ok found) : ∃ q, Path.split b.target = .ok q := by
  cases legible with
  | paths target source => exact ⟨_, target⟩
  | @named name named =>
    subst named
    change Path.lookup? (.object inputs) name = .ok found at resolved
    change ∃ q, Path.split name = .ok q
    unfold Path.lookup? at resolved
    cases hsplit : Path.split name with
    | ok q => exact ⟨q, rfl⟩
    | error fault => simp [hsplit] at resolved

/-- The transform of a binding lets a fault through exactly if it slips. -/
theorem convert_letsThrough_iff {v : Value} :
    LetsThrough (b.convert v) ↔ ∃ t, b.transform = some t ∧ t.Slips v := by
  unfold convert
  cases b.transform with
  | none => exact iff_of_false (not_letsThrough_ok v) nofun
  | some t =>
    have hslips : (∃ t', some t = some t' ∧ t'.Slips v) ↔ Unguarded (t.apply v) := by
      rw [Transform.slips_iff]
      simp
    rw [hslips]
    dsimp only
    cases t.apply v with
    | ok w => simp
    | error fault => cases h : fault.kind.isRefusal <;> simp [h]

/-- Writing at a place lets a fault through exactly if the place is blocked. -/
theorem write_letsThrough_iff {q : List String} (segments : Path.split b.target = .ok q) {w : Value} :
    LetsThrough (b.write result w) ↔
      ∃ a p, q = a :: p ∧ Path.Blocked (.object (result.members?.getD [])) (a :: p) := by
  unfold write
  cases q with
  | nil =>
    rw [Path.split_eq_nil_iff.1 segments, if_pos (by decide)]
    exact iff_of_false (not_letsThrough_ok w) nofun
  | cons a p =>
    have hnonempty : ¬b.target.isEmpty = true := by
      intro hempty
      rw [Path.split_eq_nil_iff.2 (String.isEmpty_iff.1 hempty)] at segments
      cases segments
    have hblocked : (∃ a' p', a :: p = a' :: p' ∧
        Path.Blocked (.object (result.members?.getD [])) (a' :: p')) ↔
          ∃ fault, (Path.assignAt (result.members?.getD []) b.target w).2 = some fault := by
      rw [Path.assignAt_fault_iff segments]
      constructor
      · rintro ⟨_, _, ⟨⟩, blocked⟩
        exact blocked
      · exact fun blocked => ⟨a, p, rfl, blocked⟩
    rw [if_neg hnonempty, hblocked]
    split
    · next written hassign => simp [hassign]
    · next written fault hassign => simp [hassign]

/-- Where a binding lets a fault through when it writes into what was built so far. -/
inductive Slips (b : Binding) (outputs : String → Option Value) (inputs : Members)
    (result : Value) : Prop
  /-- It does not come to its source. -/
  | source (stumbles : b.Stumbles outputs inputs)
  /-- Its transform slips on the value that it carries. -/
  | transform {t : Transform} {v : Value} (resolved : b.resolve outputs inputs = .ok (some v))
      (transforms : b.transform = some t) (slips : t.Slips v)
  /-- The path of its target comes to a list in which the next segment has no place. -/
  | place {v w : Value} {a : String} {p : List String}
      (resolved : b.resolve outputs inputs = .ok (some v)) (converted : b.convert v = .ok w)
      (segments : Path.split b.target = .ok (a :: p))
      (blocked : Path.Blocked (.object (result.members?.getD [])) (a :: p))

/-- A binding lets a fault through exactly where it slips. -/
theorem Legible.slips_iff (legible : b.Legible) :
    LetsThrough (b.run outputs inputs result) ↔ b.Slips outputs inputs result := by
  have hstumbles : (∃ fault, b.resolve outputs inputs = .error fault) ↔ b.Stumbles outputs inputs :=
    legible.stumbles_iff
  unfold run
  cases hresolve : b.resolve outputs inputs with
  | error fault =>
    exact iff_of_true (letsThrough_other fault) (.source (hstumbles.1 ⟨fault, hresolve⟩))
  | ok found =>
    have hreaches : ¬b.Stumbles outputs inputs := by
      rw [← hstumbles, hresolve]
      exact nofun
    cases found with
    | none =>
      refine iff_of_false (not_letsThrough_ok result) ?_
      rintro (hsource | ⟨resolved, -, -⟩ | ⟨resolved, -, -, -⟩)
      · exact hreaches hsource
      · cases hresolve.symm.trans resolved
      · cases hresolve.symm.trans resolved
    | some v =>
      have htransform := b.convert_letsThrough_iff (v := v)
      dsimp only
      cases hconvert : b.convert v with
      | error fault =>
        rw [hconvert] at htransform
        dsimp only
        rw [htransform]
        constructor
        · rintro ⟨t, transforms, slips⟩
          exact .transform hresolve transforms slips
        · rintro (hsource | ⟨resolved, transforms, slips⟩ | ⟨resolved, converted, -, -⟩)
          · exact absurd hsource hreaches
          · cases hresolve.symm.trans resolved
            exact ⟨_, transforms, slips⟩
          · cases hresolve.symm.trans resolved
            cases hconvert.symm.trans converted
      | ok w =>
        have htame : ¬∃ t, b.transform = some t ∧ t.Slips v := by
          rw [← htransform, hconvert]
          exact not_letsThrough_ok w
        obtain ⟨q, hq⟩ := legible.exists_segments hresolve
        dsimp only
        rw [write_letsThrough_iff hq]
        constructor
        · rintro ⟨a, p, rfl, blocked⟩
          exact .place hresolve hconvert hq blocked
        · rintro (hsource | ⟨resolved, transforms, slips⟩ | ⟨resolved, -, segments, blocked⟩)
          · exact absurd hsource hreaches
          · cases hresolve.symm.trans resolved
            exact absurd ⟨_, transforms, slips⟩ htame
          · cases hq.symm.trans segments
            exact ⟨_, _, rfl, blocked⟩

end Binding

/-! ## Mappers -/

/-- Building stops at a binding that slips on what the ones before it have built. -/
def Mapper.Slips (m : Mapper) (outputs : String → Option Value) (inputs : Members) : Prop :=
  ∃ front b back result, m.bindings = front ++ b :: back ∧
    { m with bindings := front }.build outputs inputs = .ok result ∧ b.Slips outputs inputs result

theorem Mapper.slips_iff {m : Mapper} {outputs : String → Option Value} {inputs : Members}
    (legible : ∀ b ∈ m.bindings, b.Legible) :
    LetsThrough (m.build outputs inputs) ↔ m.Slips outputs inputs := by
  have hbinding : ∀ b ∈ m.bindings, ∀ result,
      LetsThrough (b.run outputs inputs result) ↔ b.Slips outputs inputs result :=
    fun b hb result => (legible b hb).slips_iff
  constructor
  · rintro ⟨fault, hbuild, hfault⟩
    obtain ⟨front, b, back, result, hsplit, hfront, hrun⟩ := foldlM_eq_error_iff.1 hbuild
    have hb : b ∈ m.bindings := hsplit ▸ List.mem_append_right _ List.mem_cons_self
    exact ⟨front, b, back, result, hsplit, hfront, (hbinding b hb result).1 ⟨fault, hrun, hfault⟩⟩
  · rintro ⟨front, b, back, result, hsplit, hfront, hslips⟩
    have hb : b ∈ m.bindings := hsplit ▸ List.mem_append_right _ List.mem_cons_self
    obtain ⟨fault, hrun, hfault⟩ := (hbinding b hb result).2 hslips
    exact ⟨fault, foldlM_eq_error_iff.2 ⟨front, b, back, result, hsplit, hfront, hrun⟩, hfault⟩

namespace Pipeline

/-- The paths of a binding of a mapping have segments. -/
theorem Binds.legible {p : Pipeline} {m : Mapping} {b : Binding} (binds : p.Binds m b)
    (fits : m.PathsFit) : b.Legible := by
  obtain ⟨q, hq, -⟩ := fits.target
  obtain ⟨s, hs⟩ := fits.source
  refine .paths (binds.target ▸ hq) fun {outputs inputs v path} reads => ?_
  have hshows := binds.source
  generalize b.source = source at *
  cases hshows with
  | fixed => cases reads
  | input =>
    cases reads
    exact ⟨s, hs⟩
  | step =>
    cases reads
    exact ⟨s, hs⟩

theorem legible_of_compile {d : Definition} {schema : Option Members} {p : Pipeline}
    (compiled : d.compile schema = .ok p) {m : Mapper} (hm : m ∈ p.mappers) :
    ∀ b ∈ m.bindings, b.Legible := by
  obtain ⟨g, rfl, hg⟩ := exists_graph_of_compile compiled
  have hcompiles := Graph.compiles hg
  have hmapped : ∀ target bindings,
      (g.definition.into target).mapM (fun m => m.binding? (g.surroundings schema)) = .ok bindings →
        ∀ b ∈ bindings, b.Legible := by
    intro target bindings h b hb
    obtain ⟨mapping, hmapping, hbinding⟩ := mem_of_mapM_eq_ok h b hb
    have hmem := List.mem_of_mem_filter hmapping
    exact (Mapping.binds_of_binding? hcompiles.stepIds hmem hbinding).legible
      (g.valid.mappings mapping hmem).2
  rcases List.mem_append.1 hm with hstep | houtput
  · obtain ⟨s, hs, rfl⟩ := List.mem_map.1 hstep
    obtain ⟨explicit, fields, hbindings, hexplicit, -⟩ :=
      Step.bindings_of_mapper? (hcompiles.steps s hs).1
    intro b hb
    rw [hbindings] at hb
    rcases List.mem_append.1 hb with hb | hb
    · exact hmapped _ _ hexplicit b hb
    · obtain ⟨name, -, rfl⟩ := List.mem_map.1 hb
      exact .named rfl
  · exact hmapped _ _ (hcompiles.output m (Option.mem_toList.1 houtput))

/-- A mapper of a compiled workflow builds a value or fails with a failure of an input mapping,
unless it slips; and where it slips something else comes out. -/
theorem build_slips_iff {d : Definition} {schema : Option Members} {p : Pipeline}
    (compiled : d.compile schema = .ok p) {m : Mapper} (hm : m ∈ p.mappers)
    (outputs : String → Option Value) (inputs : Members) :
    LetsThrough (m.build outputs inputs) ↔ m.Slips outputs inputs :=
  Mapper.slips_iff (legible_of_compile compiled hm)

/-! ## A number that is too large -/

/-- A workflow that gives out a field of its step as a number. -/
def measured : Definition where
  id := "w"
  name := "W"
  steps := [{ id := "a", kind := .controlFlow }]
  mappings :=
    [{ source := .step "a", sourcePath := "n", target := .output, targetPath := "n",
       transform := some "number" }]

/-- The mapper of its output. -/
def measuredMapper : Mapper where
  bindings := [{ target := "n", source := .step "a" 0 "n", transform := some .number }]

/-- The pipeline of that workflow. -/
def measuredPipeline : Pipeline := ((measured.compile none).toOption).getD default

/-- The step answers with a one and four hundred zeros. -/
def measuredOutputs (id : String) : Option Value :=
  if id = "a" then some (.object [("n", .int (tenTo 400))]) else none

theorem measured_compile : measured.compile none = .ok measuredPipeline :=
  Definition.compile_of_isSome (by decide +kernel)

theorem mem_mappers_measured : measuredMapper ∈ measuredPipeline.mappers := by
  decide +kernel

theorem build_measured :
    measuredMapper.build measuredOutputs [] = .error (.other .beyondDouble) := by
  decide +kernel

theorem build_slips_iff_measured :
    LetsThrough (measuredMapper.build measuredOutputs []) ∧
      measuredMapper.Slips measuredOutputs [] := by
  have hthrough : LetsThrough (measuredMapper.build measuredOutputs []) :=
    build_measured ▸ letsThrough_other .beyondDouble
  exact ⟨hthrough,
    (build_slips_iff measured_compile mem_mappers_measured measuredOutputs []).1 hthrough⟩

/-- The overflow comes out of building as it is. -/
theorem measured_overflows :
    measured.compile none = .ok measuredPipeline ∧ measuredMapper ∈ measuredPipeline.mappers ∧
      measuredMapper.build measuredOutputs [] = .error (.other .beyondDouble) ∧
      (BuildFault.other .beyondDouble).trouble = .fault .beyondDouble :=
  ⟨measured_compile, mem_mappers_measured, build_measured, rfl⟩

end Pipeline

end Conduit
