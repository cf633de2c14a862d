import Conduit.Proofs.Path
import Conduit.Proofs.Pipeline.Coverage

/-!
# Bindings that overwrite each other

A mapper lets its bindings write one after the other, and a later one may undo what an earlier one
wrote. The check of a workflow rules out that one path of two mappings begins with the other. It
compares segments as texts, whereas writing goes by the containers it meets: of a list in the value
it takes the position that a segment stands for, and a segment that is no position puts an object in
the place of the list. So a mapping to `x.y` after one to `x.0` undoes it. Names of fields that take
the input of their name are not compared at all, and such a name is read as a path.

* `Path.Apart`, `Path.Diverge`, `Path.Diverge.spares` — paths that are told apart in every value;
* `Path.Overlooked` — two paths that pass the check and are not;
* `Mapper.kept_or_written_over` — what a binding wrote stays until a later one writes over it;
* `Binding.Displaces`, `Pipeline.kept_or_displaced` — which later bindings of a pipeline can do
  that.
-/

namespace Conduit

/-! ## Paths that are told apart -/

namespace Path

/-- The segments below a common start are told apart, whichever containers are met. -/
def Apart : List String → List String → Prop
  | a :: p, b :: q =>
    if a = b then Apart p q
    else isPosition a = true →
      isPosition b = true ∧ (position a = position b → Apart p q)
  | _, _ => False

/-- The segments are told apart in every object: by their first names, or below. -/
def Diverge : List String → List String → Prop
  | a :: p, b :: q => a = b → Apart p q
  | _, _ => False

/-- The segments of two paths, neither of which begins with the other, part where the first goes on
with a position in a list and the second with a name, or with another text for the same position. -/
def Overlooked (p q : List String) : Prop :=
  ∃ start a b p' q', start ≠ [] ∧ p = start ++ a :: p' ∧ q = start ++ b :: q' ∧ a ≠ b ∧
    isPosition a = true ∧ (isPosition b = false ∨ position a = position b)

theorem Apart.spares {c u : Value} {p q : List String} (apart : Apart p q)
    (present : get? c p = .ok (some u)) : Spares c p q := by
  induction p generalizing c q with
  | nil => exact absurd apart (by simp [Apart])
  | cons a p ih =>
    cases q with
    | nil => exact absurd apart (by simp [Apart])
    | cons b q =>
      rw [Apart] at apart
      obtain ⟨v, holds, hread⟩ := get?_cons_eq_some_iff.1 present
      cases holds with
      | member there =>
        by_cases hab : a = b
        · subst hab
          rw [if_pos rfl] at apart
          exact .member there (ih apart hread)
        · exact .members hab
      | @item items _ i _ digits stands there =>
        by_cases hab : a = b
        · subst hab
          rw [if_pos rfl] at apart
          exact .item stands digits stands there (ih apart hread)
        · rw [if_neg hab] at apart
          obtain ⟨hdigits, hsame⟩ := apart digits
          -- two texts for one position lead on into the same item
          by_cases hb : position b = .ok i
          · exact .item stands hdigits hb there (ih (hsame (stands.trans hb.symm)) hread)
          · exact .items stands hdigits hb

/-- Writing at a path that is told apart spares what is there. -/
theorem Diverge.spares {members : Members} {u : Value} {p q : List String} (diverge : Diverge p q)
    (present : get? (.object members) p = .ok (some u)) : Spares (.object members) p q := by
  cases p with
  | nil => exact absurd diverge (by simp [Diverge])
  | cons a p =>
    cases q with
    | nil => exact absurd diverge (by simp [Diverge])
    | cons b q =>
      by_cases hab : a = b
      · subst hab
        obtain ⟨v, holds, hread⟩ := get?_cons_eq_some_iff.1 present
        cases holds with
        | member there => exact .member there ((diverge rfl).spares hread)
      · exact .members hab

theorem diverge_of_ne {a b : String} {p q : List String} (ne : a ≠ b) :
    Diverge (a :: p) (b :: q) := fun h => absurd h ne

/-- Below a common start, paths that are not told apart and of which neither begins with the other
part at a position. -/
theorem exists_parting {p q : List String} (apart : ¬Apart p q) (hp : ¬p <+: q) (hq : ¬q <+: p) :
    ∃ start a b p' q', p = start ++ a :: p' ∧ q = start ++ b :: q' ∧ a ≠ b ∧
      isPosition a = true ∧ (isPosition b = false ∨ position a = position b) := by
  induction p generalizing q with
  | nil => exact absurd (List.nil_prefix) hp
  | cons a p ih =>
    cases q with
    | nil => exact absurd (List.nil_prefix) hq
    | cons b q =>
      rw [Apart] at apart
      by_cases hab : a = b
      · subst hab
        rw [if_pos rfl] at apart
        rw [List.cons_prefix_cons] at hp hq
        obtain ⟨start, a', b', p', q', rfl, rfl, hparts⟩ :=
          ih apart (fun h => hp ⟨rfl, h⟩) fun h => hq ⟨rfl, h⟩
        exact ⟨a :: start, a', b', p', q', rfl, rfl, hparts⟩
      · rw [if_neg hab] at apart
        push Not at apart
        obtain ⟨hdigits, hapart⟩ := apart
        refine ⟨[], a, b, p, q, rfl, rfl, hab, hdigits, ?_⟩
        cases hb : isPosition b with
        | false => exact .inl rfl
        | true => exact .inr (hapart hb).1

/-- Paths of which neither begins with the other are told apart or overlooked. -/
theorem diverge_or_overlooked {p q : List String} (hp : ¬p <+: q) (hq : ¬q <+: p) :
    Diverge p q ∨ Overlooked p q := by
  cases p with
  | nil => exact absurd (List.nil_prefix) hp
  | cons a p =>
    cases q with
    | nil => exact absurd (List.nil_prefix) hq
    | cons b q =>
      by_cases hab : a = b
      · subst hab
        rw [List.cons_prefix_cons] at hp hq
        by_cases hapart : Apart p q
        · exact .inl fun _ => hapart
        · obtain ⟨start, a', b', p', q', rfl, rfl, hparts⟩ :=
            exists_parting hapart (fun h => hp ⟨rfl, h⟩) fun h => hq ⟨rfl, h⟩
          exact .inr ⟨a :: start, a', b', p', q', by simp, rfl, rfl, hparts⟩
      · exact .inl (diverge_of_ne hab)

end Path

/-! ## Building -/

namespace Binding

/-- A binding writes something. -/
def Writes (b : Binding) (outputs : String → Option Value) (inputs : Members) : Prop :=
  ∃ v, b.resolve outputs inputs = .ok (some v)

/-- The places of two bindings are not told apart. -/
def Meets (b other : Binding) : Prop :=
  ∃ p q, Path.split b.target = .ok p ∧ Path.split other.target = .ok q ∧ ¬Path.Diverge p q

/-- A value stands at the segments of a path. Unless that is the whole, it stands in an object. -/
structure Stands (p : List String) (w result : Value) : Prop where
  read : Path.get? result p = .ok (some w)
  object : p ≠ [] → ∃ members, result = .object members

/-- A binding that writes puts its value in the place of everything, or assigns it in an object. -/
theorem write_cases {b : Binding} {result after w : Value} (h : b.write result w = .ok after) :
    (Path.split b.target = .ok [] ∧ after = w) ∨
      ∃ a q written, Path.split b.target = .ok (a :: q) ∧ after = .object written ∧
        Path.assign (.object (result.members?.getD [])) (a :: q) w = (.object written, none) := by
  unfold write at h
  by_cases hempty : b.target.isEmpty = true
  · rw [if_pos hempty] at h
    cases h
    exact .inl ⟨by rw [Path.split, if_pos hempty], rfl⟩
  · rw [if_neg hempty] at h
    split at h
    · next written hassign =>
      cases h
      obtain ⟨a, q, hsplit, hassign⟩ := Path.assignAt_eq_iff.1 hassign
      exact .inr ⟨a, q, written, hsplit, rfl, hassign⟩
    · cases h

/-- What a binding writes stands at its place. -/
theorem stands_write {b : Binding} {result after w : Value} (h : b.write result w = .ok after) :
    ∃ p, Path.split b.target = .ok p ∧ Stands p w after := by
  rcases write_cases h with ⟨hsplit, rfl⟩ | ⟨a, q, written, hsplit, rfl, hassign⟩
  · exact ⟨[], hsplit, rfl, fun h => absurd rfl h⟩
  · exact ⟨a :: q, hsplit, Path.get?_assign (Path.admits_object _ a) hassign, fun _ => ⟨written, rfl⟩⟩

/-- A binding that writes at a place that is told apart leaves what stands. -/
theorem Stands.write {b : Binding} {p q : List String} {w v result after : Value}
    (stands : Stands p w result) (split : Path.split b.target = .ok q) (diverge : Path.Diverge p q)
    (h : b.write result v = .ok after) : Stands p w after := by
  rcases write_cases h with ⟨hsplit, -⟩ | ⟨a, q', written, hsplit, rfl, hassign⟩
  · rw [split] at hsplit
    cases hsplit
    cases p <;> exact absurd diverge (by simp [Path.Diverge])
  · rw [split] at hsplit
    cases hsplit
    have hp : p ≠ [] := by
      rintro rfl
      exact absurd diverge (by simp [Path.Diverge])
    obtain ⟨members, rfl⟩ := stands.object hp
    refine ⟨?_, fun _ => ⟨written, rfl⟩⟩
    exact Path.get?_assign_of_spares (diverge.spares stands.read) stands.read hassign

/-- What a binding wrote stays through another, or the other writes over it. -/
theorem Stands.run {b later : Binding} {p : List String} {w result after : Value}
    {outputs : String → Option Value} {inputs : Members} (stands : Stands p w result)
    (split : Path.split b.target = .ok p) (h : later.run outputs inputs result = .ok after) :
    Stands p w after ∨ later.Writes outputs inputs ∧ b.Meets later := by
  unfold Binding.run at h
  split at h
  · cases h
  · cases h
    exact .inl stands
  · next v hresolve =>
    split at h
    · cases h
    · next x hconvert =>
      obtain ⟨q, hq, -⟩ := stands_write h
      by_cases hdiverge : Path.Diverge p q
      · exact .inl (stands.write hq hdiverge h)
      · exact .inr ⟨⟨v, hresolve⟩, p, q, split, hq, hdiverge⟩

/-- What a binding wrote stays through all that follow, or one of them writes over it. -/
theorem Stands.foldlM {b : Binding} {p : List String} {w : Value}
    {outputs : String → Option Value} {inputs : Members} (split : Path.split b.target = .ok p)
    (bindings : List Binding) :
    ∀ result built, Stands p w result →
      bindings.foldlM (fun result c => c.run outputs inputs result) result = .ok built →
      Stands p w built ∨ ∃ later ∈ bindings, later.Writes outputs inputs ∧ b.Meets later := by
  induction bindings with
  | nil =>
    intro result built stands h
    cases h
    exact .inl stands
  | cons c rest ih =>
    intro result built stands h
    rw [List.foldlM_cons, except_bind_eq_ok] at h
    obtain ⟨after, hrun, h⟩ := h
    rcases stands.run split hrun with hafter | hover
    · refine (ih after built hafter h).imp_right ?_
      rintro ⟨later, hlater, hover⟩
      exact ⟨later, List.mem_cons_of_mem _ hlater, hover⟩
    · exact .inr ⟨c, List.mem_cons_self, hover⟩

end Binding

/-- The value that a binding carries is read at its place in what the mapper builds, unless a later
binding writes over it. -/
theorem Mapper.kept_or_written_over {mapper : Mapper} {outputs : String → Option Value}
    {inputs : Members} {built v : Value} (builds : mapper.build outputs inputs = .ok built)
    {front back : List Binding} {b : Binding} (order : mapper.bindings = front ++ b :: back)
    (resolved : b.resolve outputs inputs = .ok (some v)) :
    ∃ w, b.convert v = .ok w ∧ (Path.lookup? built b.target = .ok (some w) ∨
      ∃ later ∈ back, later.Writes outputs inputs ∧ b.Meets later) := by
  unfold build at builds
  rw [order, List.foldlM_append, except_bind_eq_ok] at builds
  obtain ⟨before, -, builds⟩ := builds
  rw [List.foldlM_cons, except_bind_eq_ok] at builds
  obtain ⟨after, hrun, hback⟩ := builds
  unfold Binding.run at hrun
  rw [resolved] at hrun
  dsimp only at hrun
  split at hrun
  · cases hrun
  · next w hconvert =>
    obtain ⟨p, hsplit, hstands⟩ := Binding.stands_write hrun
    refine ⟨w, hconvert, ?_⟩
    refine (Binding.Stands.foldlM hsplit back after built hstands hback).imp_left fun hbuilt => ?_
    unfold Path.lookup?
    rw [hsplit]
    exact hbuilt.read

/-! ## The bindings of a pipeline -/

/-- The later of two bindings may undo what the earlier one wrote: their places are not told apart,
and either both come from mappings and the check overlooked them, or one of them takes the input of
a name that is read as a path of other segments. -/
inductive Binding.Displaces (b later : Binding) : Prop
  | overlooked {p q : List String} (mapped : b.implicit = false ∧ later.implicit = false)
      (place : Path.split b.target = .ok p) (other : Path.split later.target = .ok q)
      (overlooked : Path.Overlooked p q)
  | named (meets : b.Meets later)
      (odd : (b.implicit = true ∧ Path.split b.target ≠ .ok [b.target]) ∨
        (later.implicit = true ∧ Path.split later.target ≠ .ok [later.target]))

/-- Bindings whose places are not told apart displace each other. -/
def Binding.Checked (b later : Binding) : Prop := b.Meets later → b.Displaces later

/-- Bindings of mappings into one place displace each other only where the check overlooks it. -/
theorem Definition.Valid.pairwise_checked {d : Definition} (valid : d.Valid)
    {around : Surroundings} {target : Destination} {bindings : List Binding}
    (h : (d.into target).mapM (fun m => m.binding? around) = .ok bindings) :
    bindings.Pairwise Binding.Checked := by
  have hpairs : (d.into target).Pairwise fun m other =>
      ∃ p q, Path.split m.targetPath = .ok p ∧ Path.split other.targetPath = .ok q ∧
        ¬p <+: q ∧ ¬q <+: p := by
    refine (valid.places.filter _).imp_of_mem fun {m other} hm hother apart => ?_
    obtain ⟨hm, htarget⟩ := List.mem_filter.1 hm
    obtain ⟨hother, htarget'⟩ := List.mem_filter.1 hother
    obtain ⟨p, hp, -⟩ := (valid.mappings m hm).2.target
    obtain ⟨q, hq, -⟩ := (valid.mappings other hother).2.target
    have hsame : m.target = other.target := by
      rw [beq_iff_eq] at htarget htarget'
      rw [htarget, htarget']
    have happart := apart hsame
    rw [Mapping.targetSegments, Mapping.targetSegments, hp, hq] at happart
    exact ⟨p, q, hp, hq, happart⟩
  refine pairwise_of_mapM_eq_ok h hpairs ?_
  rintro m other b later ⟨p, q, hp, hq, hpq, hqp⟩ hb hlater ⟨p', q', hp', hq', hnot⟩
  obtain ⟨htarget, himplicit⟩ := Mapping.binding?_eq hb
  obtain ⟨htarget', himplicit'⟩ := Mapping.binding?_eq hlater
  rw [htarget, hp] at hp'
  rw [htarget', hq] at hq'
  cases hp'
  cases hq'
  refine .overlooked ⟨himplicit, himplicit'⟩ (htarget ▸ hp) (htarget' ▸ hq) ?_
  exact (Path.diverge_or_overlooked hpq hqp).resolve_left hnot

/-- Of two bindings that take the input of different names, one has an odd name if they displace
each other. -/
theorem Binding.checked_ofField {name name' : String} (ne : name ≠ name') :
    (Binding.ofField name).Checked (Binding.ofField name') := by
  intro meets
  refine .named meets ?_
  by_contra hodd
  rw [not_or] at hodd
  obtain ⟨hplain, hplain'⟩ := hodd
  obtain ⟨p, q, hp, hq, hnot⟩ := meets
  have hp' : Path.split name = .ok [name] := by
    by_contra hsplit
    exact hplain ⟨rfl, hsplit⟩
  have hq' : Path.split name' = .ok [name'] := by
    by_contra hsplit
    exact hplain' ⟨rfl, hsplit⟩
  cases hp'.symm.trans hp
  cases hq'.symm.trans hq
  exact hnot (Path.diverge_of_ne ne)

/-- A field is not mapped to, so the binding that takes the input of its name displaces none that
comes from a mapping, unless the name is odd. -/
theorem Mapping.checked_ofField {m : Mapping} {around : Surroundings} {b : Binding} {id name : String}
    (fits : m.PathsFit) (into : m.target = .step id) (h : m.binding? around = .ok b)
    (ne : name ≠ m.targetHead) : b.Checked (Binding.ofField name) := by
  intro meets
  refine .named meets (.inr ⟨rfl, fun hplain => ?_⟩)
  obtain ⟨p, q, hp, hq, hnot⟩ := meets
  cases hplain.symm.trans hq
  obtain ⟨segments, hsegments, hempty⟩ := fits.target
  rw [(Mapping.binding?_eq h).1, hsegments] at hp
  cases hp
  cases p with
  | nil =>
    rw [into] at hempty
    cases hempty rfl
  | cons a rest =>
    -- the path of the mapping begins with another name
    have hhead : m.targetHead = a := by
      unfold Mapping.targetHead Mapping.targetSegments
      rw [hsegments]
      rfl
    exact hnot (Path.diverge_of_ne fun ha => ne (ha.symm.trans hhead.symm))

theorem Step.pairwise_checked {s : Step} {around : Surroundings} {mapper : Mapper}
    (valid : around.definition.Valid) (h : s.mapper? around = .ok mapper) :
    mapper.bindings.Pairwise Binding.Checked := by
  obtain ⟨explicit, fields, hbindings, hexplicit, hnodup, hapart⟩ := s.bindings_of_mapper? h
  rw [hbindings, List.pairwise_append]
  refine ⟨valid.pairwise_checked hexplicit, ?_, ?_⟩
  · exact List.pairwise_map.2 (hnodup.imp fun hne => Binding.checked_ofField hne)
  · intro b hb later hlater
    obtain ⟨m, hm, hbinding⟩ := mem_of_mapM_eq_ok hexplicit b hb
    obtain ⟨name, hname, rfl⟩ := List.mem_map.1 hlater
    obtain ⟨hmapping, htarget⟩ := List.mem_filter.1 hm
    exact Mapping.checked_ofField (valid.mappings m hmapping).2 (beq_iff_eq.1 htarget) hbinding
      (hapart name hname m hm)

namespace Pipeline

/-- The mappers of a pipeline: those of its steps, and the one that builds its output. -/
def mappers (p : Pipeline) : List Mapper := p.steps.map PipelineStep.mapper ++ p.outputMapper.toList

theorem pairwise_checked {d : Definition} {schema : Option Members} {p : Pipeline}
    (compiled : d.compile schema = .ok p) {mapper : Mapper} (hmapper : mapper ∈ p.mappers) :
    mapper.bindings.Pairwise Binding.Checked := by
  obtain ⟨g, rfl, hg⟩ := exists_graph_of_compile compiled
  have hcompiles := Graph.compiles hg
  rcases List.mem_append.1 hmapper with hstep | houtput
  · obtain ⟨s, hs, rfl⟩ := List.mem_map.1 hstep
    have hvalid : (g.surroundings schema).definition.Valid := g.valid
    exact Step.pairwise_checked hvalid (hcompiles.steps s hs).1
  · exact g.valid.pairwise_checked (hcompiles.output mapper (Option.mem_toList.1 houtput))

/-- The value that a binding of a compiled workflow carries, after its transform, is read at its
place in whatever its mapper builds, unless a later binding that writes something displaces it. -/
theorem kept_or_displaced {d : Definition} {schema : Option Members} {p : Pipeline}
    (compiled : d.compile schema = .ok p) {mapper : Mapper} (hmapper : mapper ∈ p.mappers)
    {outputs : String → Option Value} {inputs : Members} {built : Value}
    (builds : mapper.build outputs inputs = .ok built) {front back : List Binding} {b : Binding}
    (order : mapper.bindings = front ++ b :: back) {v : Value}
    (resolved : b.resolve outputs inputs = .ok (some v)) :
    ∃ w, b.convert v = .ok w ∧ (Path.lookup? built b.target = .ok (some w) ∨
      ∃ later ∈ back, later.Writes outputs inputs ∧ b.Displaces later) := by
  have hchecked := pairwise_checked compiled hmapper
  rw [order, List.pairwise_append, List.pairwise_cons] at hchecked
  obtain ⟨w, hconvert, hkept⟩ := Mapper.kept_or_written_over builds order resolved
  refine ⟨w, hconvert, hkept.imp_right ?_⟩
  rintro ⟨later, hlater, hwrites, hmeets⟩
  exact ⟨later, hlater, hwrites, hchecked.2.1.1 later hlater hmeets⟩

/-! ## A mapping that is undone -/

/-- A workflow of one step with mappings to `x.0` and to `x.y`. -/
def itemAndName : Definition where
  id := "w"
  name := "W"
  steps := [{ id := "a", kind := .controlFlow }]
  mappings :=
    [{ source := .fixed, target := .step "a", targetPath := "x.0", value := .int 1 },
     { source := .fixed, target := .step "a", targetPath := "x.y", value := .int 2 }]

/-- The binding of a fixed value. -/
def fixedBinding (path : String) (n : Int) : Binding where
  target := path
  source := .fixed (.int n)

/-- The mapper of that step. -/
def itemAndNameMapper : Mapper where
  bindings := [fixedBinding "x.0" 1, fixedBinding "x.y" 2]

/-- The pipeline of that workflow. -/
def itemAndNamePipeline : Pipeline := ((itemAndName.compile none).toOption).getD default

theorem itemAndName_compile : itemAndName.compile none = .ok itemAndNamePipeline :=
  Definition.compile_of_isSome (by decide +kernel)

theorem mem_mappers_itemAndName : itemAndNameMapper ∈ itemAndNamePipeline.mappers := by
  decide +kernel

theorem itemAndName_build : itemAndNameMapper.build (fun _ => none) [] =
    .ok (.object [("x", .object [("y", .int 2)])]) := by
  decide +kernel

theorem kept_or_displaced_itemAndName :
    ∃ built, itemAndNameMapper.build (fun _ => none) [] = .ok built ∧
      ∃ w, (fixedBinding "x.0" 1).convert (.int 1) = .ok w ∧
        (Path.lookup? built "x.0" = .ok (some w) ∨
          ∃ later ∈ [fixedBinding "x.y" 2], later.Writes (fun _ => none) [] ∧
            (fixedBinding "x.0" 1).Displaces later) := by
  have horder : itemAndNameMapper.bindings =
      [] ++ fixedBinding "x.0" 1 :: [fixedBinding "x.y" 2] := rfl
  exact ⟨_, itemAndName_build,
    kept_or_displaced itemAndName_compile mem_mappers_itemAndName itemAndName_build horder rfl⟩

/-- The mapping to `x.y` puts an object in the place of the list that the mapping to `x.0` made, and
nothing is read at `x.0` any more. -/
theorem itemAndName_displaced :
    itemAndName.compile none = .ok itemAndNamePipeline ∧
      itemAndNameMapper ∈ itemAndNamePipeline.mappers ∧
      fixedBinding "x.0" 1 ∈ itemAndNameMapper.bindings ∧
      (fixedBinding "x.0" 1).resolve (fun _ => none) [] = .ok (some (.int 1)) ∧
      (fixedBinding "x.0" 1).convert (.int 1) = .ok (.int 1) ∧
      ∃ built, itemAndNameMapper.build (fun _ => none) [] = .ok built ∧
        Path.lookup? built "x.0" = .ok none := by
  refine ⟨itemAndName_compile, mem_mappers_itemAndName, List.mem_cons_self, rfl, rfl,
    _, itemAndName_build, ?_⟩
  decide +kernel

end Pipeline

end Conduit
