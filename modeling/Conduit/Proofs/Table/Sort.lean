import Conduit.Proofs.Workflow.Checks
import Conduit.Table.Sort

/-!
# What sorting fails with

Sorting by a comparison that may fail compares items of the list and nothing else: when it fails,
two items of the list were compared and that comparison failed. The items that are held back, moved
and merged on the way stay those of the list.

* `Fair`, `FairFrom` — a computation that fails only as it may, and gives what it should;
* `sortBy_error`, `sortByDescending_error` — what sorting fails with.
-/

namespace Conduit.Table

variable {α β γ ε : Type} {blame : ε → Prop}

/-! ## Computations -/

/-- A computation that fails only as it may, and gives what it should. -/
def Fair (blame : ε → Prop) (fits : β → Prop) (x : Except ε β) : Prop :=
  match x with
  | .ok b => fits b
  | .error e => blame e

theorem Fair.bind {fits : β → Prop} {fits' : γ → Prop} {x : Except ε β} {f : β → Except ε γ}
    (hx : Fair blame fits x) (hf : ∀ b, fits b → Fair blame fits' (f b)) :
    Fair blame fits' (x >>= f) := by
  cases x with
  | ok b => exact hf b hx
  | error e => exact hx

theorem Fair.pure {fits : β → Prop} {b : β} (h : fits b) :
    Fair blame fits (Pure.pure b : Except ε β) := h

/-- The same of a computation that keeps how soon leaps are tried. -/
def FairFrom (blame : ε → Prop) (fits : β → Prop) (x : Comparing ε β) : Prop :=
  ∀ patience, Fair blame (fun r => fits r.1) (x.run patience)

namespace FairFrom

variable {fits : β → Prop} {fits' : γ → Prop}

theorem pure {b : β} (h : fits b) : FairFrom blame fits (Pure.pure b : Comparing ε β) :=
  fun _ => h

theorem bind {x : Comparing ε β} {f : β → Comparing ε γ} (hx : FairFrom blame fits x)
    (hf : ∀ b, fits b → FairFrom blame fits' (f b)) : FairFrom blame fits' (x >>= f) := by
  intro patience
  rw [StateT.run_bind]
  exact (hx patience).bind fun r hr => hf r.1 hr r.2

theorem lift {x : Except ε β} (h : Fair blame fits x) :
    FairFrom blame fits (liftM x : Comparing ε β) := by
  intro patience
  change Fair blame _ (x >>= fun b => Pure.pure (b, patience))
  exact h.bind fun _ hb => hb

theorem map {f : β → γ} {x : Comparing ε β} (hx : FairFrom blame fits x)
    (hf : ∀ b, fits b → fits' (f b)) : FairFrom blame fits' (f <$> x) := by
  rw [map_eq_pure_bind]
  exact hx.bind fun b hb => .pure (hf b hb)

/-- What only looks at, or changes, how soon leaps are tried. -/
theorem of_run {x : Comparing ε β} (h : ∀ patience, ∃ r, x.run patience = .ok r) :
    FairFrom blame (fun _ => True) x := by
  intro patience
  obtain ⟨r, hr⟩ := h patience
  rw [hr]
  trivial

end FairFrom

/-! ## Searching -/

section

variable {test : α → Except ε Bool} {items : List α}

/-- Searching a list tests its items only. -/
theorem halve_fair (fair : ∀ a ∈ items, Fair blame (fun _ => True) (test a)) (lower : Bool)
    (fuel : Nat) :
    ∀ low high, Fair blame (fun _ => True) (halve lower test items fuel low high) := by
  induction fuel with
  | zero => exact fun _ _ => trivial
  | succ fuel ih =>
    intro low high
    rw [halve]
    split
    · dsimp only
      split
      · trivial
      · next x hx =>
        refine (fair x (List.mem_of_getElem? hx)).bind fun passed _ => ?_
        split
        · exact ih _ _
        · exact ih _ _
    · trivial

theorem stretch_fair (fair : ∀ a ∈ items, Fair blame (fun _ => True) (test a)) (fuel : Nat) :
    ∀ low high, Fair blame (fun _ => True) (stretch test items fuel low high) := by
  induction fuel with
  | zero => exact fun _ _ => trivial
  | succ fuel ih =>
    intro low high
    rw [stretch]
    split
    · trivial
    · next x hx =>
      refine (fair x (List.mem_of_getElem? hx)).bind fun passed _ => ?_
      split
      · exact ih _ _
      · trivial

theorem leading_fair (fair : ∀ a ∈ items, Fair blame (fun _ => True) (test a)) (lower : Bool) :
    Fair blame (fun _ => True) (leading lower test items) := by
  unfold leading
  split
  · trivial
  · next x rest =>
    refine (fair x List.mem_cons_self).bind fun passed _ => ?_
    split
    · exact (stretch_fair fair _ _ _).bind fun _ _ => halve_fair fair _ _ _ _
    · trivial

end

/-! ## Merging -/

/-- The items of a list are of a kind. -/
def AreAll (kind : α → Prop) (l : List α) : Prop := ∀ a ∈ l, kind a

section Merging

variable {kind : α → Prop}

theorem AreAll.append {l l' : List α} (h : AreAll kind l) (h' : AreAll kind l') :
    AreAll kind (l ++ l') := fun a ha => (List.mem_append.1 ha).elim (h a) (h' a)

theorem AreAll.reverse {l : List α} (h : AreAll kind l) : AreAll kind l.reverse :=
  fun a ha => h a (List.mem_reverse.1 ha)

theorem AreAll.take {l : List α} (h : AreAll kind l) (n : Nat) : AreAll kind (l.take n) :=
  fun a ha => h a (List.mem_of_mem_take ha)

theorem AreAll.drop {l : List α} (h : AreAll kind l) (n : Nat) : AreAll kind (l.drop n) :=
  fun a ha => h a (List.mem_of_mem_drop ha)

/-- A comparison that may be made: of two items of a kind it fails only as it may. -/
def Compares (blame : ε → Prop) (kind : α → Prop) (less : α → α → Except ε Bool) : Prop :=
  ∀ a b, kind a → kind b → Fair blame (fun _ => True) (less a b)

/-- The items of a merge are of a kind. -/
structure Front.Holds (kind : α → Prop) (f : Front α) : Prop where
  short : AreAll kind f.short
  long : AreAll kind f.long
  merged : AreAll kind f.merged

namespace Front.Holds

variable {f : Front α}

theorem moveShort (h : f.Holds kind) (count : Nat) : (f.moveShort count).Holds kind where
  short := h.short.drop count
  long := h.long
  merged := (h.short.take count).reverse.append h.merged

theorem moveLong (h : f.Holds kind) (count : Nat) : (f.moveLong count).Holds kind where
  short := h.short
  long := h.long.drop count
  merged := (h.long.take count).reverse.append h.merged

theorem items (h : f.Holds kind) : AreAll kind f.items :=
  h.merged.reverse.append (h.long.append h.short)

end Front.Holds

variable {ahead : α → α → Except ε Bool} (compares : Compares blame kind ahead)

include compares

theorem leapShort_fair (lower : Bool) {f : Front α} (h : f.Holds kind) :
    Fair blame (fun r => r.2.Holds kind) (f.leapShort ahead lower) := by
  unfold Front.leapShort
  split
  · exact h
  · next next rest hlong =>
    have hnext : kind next := h.long next (hlong ▸ List.mem_cons_self)
    split
    · exact h
    · refine (leading_fair (fun x hx => ?_) lower).bind fun count _ => ?_
      · exact (compares next x hnext (h.short x hx)).bind fun _ _ => trivial
      · refine Fair.pure ?_
        dsimp only
        split
        · exact h.moveShort count
        · exact (h.moveShort count).moveLong 1

theorem leapLong_fair (lower : Bool) {f : Front α} (h : f.Holds kind) :
    Fair blame (fun r => r.2.Holds kind) (f.leapLong ahead lower) := by
  unfold Front.leapLong
  split
  · exact h
  · next next rest hshort =>
    have hnext : kind next := h.short next (hshort ▸ List.mem_cons_self)
    split
    · exact h
    · refine (leading_fair (fun y hy => ?_) lower).bind fun count _ => ?_
      · exact compares y next (h.long y hy) hnext
      · refine Fair.pure ?_
        dsimp only
        split
        · exact h.moveLong count
        · exact (h.moveLong count).moveShort 1

theorem leap_fair (lower : Bool) {f : Front α} (h : f.Holds kind) :
    Fair blame (fun r => r.2.Holds kind) (f.leap ahead lower) := by
  unfold Front.leap
  cases lower with
  | true =>
    refine (leapLong_fair compares true h).bind fun r hr => ?_
    exact (leapShort_fair compares true hr).bind fun r' hr' => hr'
  | false =>
    refine (leapShort_fair compares false h).bind fun r hr => ?_
    exact (leapLong_fair compares false hr).bind fun r' hr' => hr'

theorem advance_fair (lower : Bool) (fuel : Nat) : ∀ (pace : Pace) {f : Front α}, f.Holds kind →
    FairFrom blame (fun f => f.Holds kind) (advance ahead lower fuel pace f) := by
  induction fuel with
  | zero =>
    intro pace f h
    rw [advance]
    exact .pure h
  | succ fuel ih =>
    intro pace f h
    cases pace with
    | single fromShort fromLong =>
      rw [advance]
      split
      · next x xs y ys hshort hlong =>
        have hx : kind x := h.short x (hshort ▸ List.mem_cons_self)
        have hy : kind y := h.long y (hlong ▸ List.mem_cons_self)
        refine FairFrom.bind (.lift (compares y x hy hx)) fun isAhead _ => ?_
        have hmoved : (if isAhead then f.moveLong 1 else f.moveShort 1).Holds kind := by
          split
          · exact h.moveLong 1
          · exact h.moveShort 1
        dsimp only
        generalize (if isAhead then f.moveLong 1 else f.moveShort 1) = moved at hmoved ⊢
        generalize (if isAhead then 0 else fromShort + 1) = fromShort
        generalize (if isAhead then fromLong + 1 else 0) = fromLong
        refine FairFrom.bind (.of_run fun patience => ⟨_, rfl⟩) fun patience _ => ?_
        split
        · exact .pure hmoved
        · split
          · exact FairFrom.bind (.of_run fun patience => ⟨_, rfl⟩) fun _ _ => ih _ hmoved
          · exact ih _ hmoved
      · exact .pure h
    | leaping =>
      rw [advance]
      refine FairFrom.bind (.of_run fun patience => ⟨_, rfl⟩) fun _ _ => ?_
      refine FairFrom.bind (.lift (leap_fair compares lower h)) fun r hr => ?_
      dsimp only
      split
      · exact .pure hr
      · split
        · exact ih _ hr
        · exact FairFrom.bind (.of_run fun patience => ⟨_, rfl⟩) fun _ _ => ih _ hr

theorem mergeFrom_fair (lower : Bool) {short long : List α} (hshort : AreAll kind short)
    (hlong : AreAll kind long) :
    FairFrom blame (AreAll kind) (mergeFrom ahead lower short long) := by
  have hstart : (Front.moveLong ⟨short, long, []⟩ 1).Holds kind :=
    Front.Holds.moveLong ⟨hshort, hlong, nofun⟩ 1
  unfold mergeFrom
  dsimp only
  split
  · exact .pure hstart.items
  · exact (advance_fair compares lower _ _ hstart).bind fun f hf => .pure hf.items

omit compares in
theorem Compares.flip {less : α → α → Except ε Bool} (compares : Compares blame kind less) :
    Compares blame kind fun y x => less x y := fun a b ha hb => compares b a hb ha

omit compares in
/-- A test that an item comes before another is a comparison, and so is its opposite. -/
theorem Compares.not {less : α → α → Except ε Bool} (compares : Compares blame kind less) {a b : α}
    (ha : kind a) (hb : kind b) :
    Fair blame (fun _ => True) (do return !(← less a b) : Except ε Bool) :=
  (compares a b ha hb).bind fun _ _ => trivial

theorem merge_fair {a b : List α} (ha : AreAll kind a) (hb : AreAll kind b) :
    FairFrom blame (AreAll kind) (merge ahead a b) := by
  unfold merge
  split
  · exact .pure ha
  · next least rest =>
    have hleast : kind least := hb least List.mem_cons_self
    refine FairFrom.bind (.lift (leading_fair (fun x hx => ?_) false)) fun below _ => ?_
    · exact compares.not hleast (ha x hx)
    · dsimp only
      split
      · exact .pure (ha.append hb)
      · next greatest hgreatest =>
        have hlast : kind greatest := ha.drop below _ (List.mem_of_getLast? hgreatest)
        refine FairFrom.bind (.lift (leading_fair (fun y hy => ?_) true)) fun above _ => ?_
        · exact compares.not (hb y (List.mem_reverse.1 hy)) hlast
        · have hleft : AreAll kind (a.drop below) := ha.drop below
          have hright : AreAll kind ((least :: rest).take ((least :: rest).length - above)) :=
            hb.take _
          have hjoined : ∀ middle, AreAll kind middle → AreAll kind (a.take below ++
              (middle ++ (least :: rest).drop ((least :: rest).length - above))) :=
            fun middle hmiddle => (ha.take below).append (hmiddle.append (hb.drop _))
          split
          · exact .pure (hjoined _ hleft)
          · split
            · exact (mergeFrom_fair compares false hleft hright).bind fun middle hmiddle =>
                .pure (hjoined middle hmiddle)
            · refine FairFrom.bind ((mergeFrom_fair compares.flip true hright.reverse
                hleft.reverse).map fun middle hmiddle => hmiddle.reverse) fun middle hmiddle => ?_
              exact .pure (hjoined middle hmiddle)

end Merging

/-! ## Runs -/

section Runs

variable {kind : α → Prop} {less : α → α → Except ε Bool} (compares : Compares blame kind less)

include compares

theorem descendingRun_fair (rest : List α) : ∀ {previous : α}, kind previous → AreAll kind rest →
    Fair blame (fun _ => True) (descendingRun less previous rest) := by
  induction rest with
  | nil => exact fun _ _ => trivial
  | cons x rest ih =>
    intro previous hprevious hrest
    have hx : kind x := hrest x List.mem_cons_self
    rw [descendingRun]
    refine (compares x previous hx hprevious).bind fun isLess _ => ?_
    split
    · exact (ih hx fun a ha => hrest a (List.mem_cons_of_mem _ ha)).bind fun _ _ => trivial
    · trivial

theorem ascendingRun_fair (rest : List α) : ∀ {previous : α}, kind previous → AreAll kind rest →
    Fair blame (fun _ => True) (ascendingRun less previous rest) := by
  induction rest with
  | nil => exact fun _ _ => trivial
  | cons x rest ih =>
    intro previous hprevious hrest
    have hx : kind x := hrest x List.mem_cons_self
    rw [ascendingRun]
    refine (compares x previous hx hprevious).bind fun isLess _ => ?_
    split
    · trivial
    · exact (ih hx fun a ha => hrest a (List.mem_cons_of_mem _ ha)).bind fun _ _ => trivial

/-- Two lists of items of a kind. -/
def AreBoth (kind : α → Prop) (r : List α × List α) : Prop := AreAll kind r.1 ∧ AreAll kind r.2

theorem firstRun_fair {items : List α} (h : AreAll kind items) :
    Fair blame (AreBoth kind) (firstRun less items) := by
  unfold firstRun
  split
  · exact ⟨h, h⟩
  · exact ⟨h, nofun⟩
  · next x y rest =>
    have hx : kind x := h x List.mem_cons_self
    have hy : kind y := h y (List.mem_cons_of_mem _ List.mem_cons_self)
    have hrest : AreAll kind rest := fun a ha =>
      h a (List.mem_cons_of_mem _ (List.mem_cons_of_mem _ ha))
    have hrun : ∀ n, AreAll kind (x :: y :: rest.take n) := fun n =>
      (h.take (n + 2) : AreAll kind ((x :: y :: rest).take (n + 2)))
    refine (compares y x hy hx).bind fun isLess _ => ?_
    split
    · exact (descendingRun_fair compares rest hy hrest).bind fun n _ =>
        ⟨(hrun n).reverse, hrest.drop n⟩
    · exact (ascendingRun_fair compares rest hy hrest).bind fun n _ => ⟨hrun n, hrest.drop n⟩

theorem insert_fair {sorted : List α} {x : α} (hsorted : AreAll kind sorted) (hx : kind x) :
    Fair blame (AreAll kind) (insert less sorted x) := by
  unfold insert
  refine (halve_fair (fun y hy => ?_) false _ _ _).bind fun i _ => ?_
  · exact compares.not hx (hsorted y hy)
  · exact (hsorted.take i).append (List.forall_mem_cons.2 ⟨hx, hsorted.drop i⟩)

theorem insertAll_fair (items : List α) : ∀ {sorted : List α}, AreAll kind sorted →
    AreAll kind items → Fair blame (AreAll kind) (items.foldlM (insert less) sorted) := by
  induction items with
  | nil => exact fun hsorted _ => hsorted
  | cons x rest ih =>
    intro sorted hsorted hitems
    obtain ⟨hx, hrest⟩ := List.forall_mem_cons.1 hitems
    rw [List.foldlM_cons]
    exact (insert_fair compares hsorted hx).bind fun sorted' hsorted' => ih hsorted' hrest

theorem takeRun_fair (least : Nat) {items : List α} (h : AreAll kind items) :
    Fair blame (AreBoth kind) (takeRun less least items) := by
  unfold takeRun
  refine (firstRun_fair compares h).bind fun r hr => ?_
  refine (insertAll_fair compares _ hr.1 (hr.2.take _)).bind fun run hrun => ?_
  exact ⟨hrun, hr.2.drop _⟩

/-- The items of runs that wait are of a kind. -/
def AreWaiting (kind : α → Prop) (waiting : List (Waiting α)) : Prop :=
  ∀ w ∈ waiting, AreAll kind w.items

theorem settle_fair (level : Nat) (waiting : List (Waiting α)) : ∀ {last : List α},
    AreWaiting kind waiting → AreAll kind last →
    FairFrom blame (fun r => AreWaiting kind r.1 ∧ AreAll kind r.2)
      (settle less level waiting last) := by
  induction waiting with
  | nil => exact fun hwaiting hlast => .pure ⟨hwaiting, hlast⟩
  | cons w before ih =>
    intro last hwaiting hlast
    obtain ⟨hw, hbefore⟩ := List.forall_mem_cons.1 hwaiting
    rw [settle]
    split
    · exact (merge_fair compares hw hlast).bind fun merged hmerged => ih hbefore hmerged
    · exact .pure ⟨hwaiting, hlast⟩

theorem mergeRuns_fair (length fuel : Nat) : ∀ {waiting : List (Waiting α)} {last items : List α},
    AreWaiting kind waiting → AreAll kind last → AreAll kind items →
    FairFrom blame (fun r => AreWaiting kind r.1 ∧ AreAll kind r.2)
      (mergeRuns less length fuel waiting last items) := by
  induction fuel with
  | zero => exact fun hwaiting hlast _ => .pure ⟨hwaiting, hlast⟩
  | succ fuel ih =>
    intro waiting last items hwaiting hlast hitems
    cases items with
    | nil => exact .pure ⟨hwaiting, hlast⟩
    | cons x rest =>
      change FairFrom blame _ (liftM (takeRun less (leastRun length) (x :: rest)) >>= _)
      refine FairFrom.bind (.lift (takeRun_fair compares _ hitems)) fun r hr => ?_
      refine (settle_fair compares _ waiting hwaiting hlast).bind fun r' hr' => ?_
      exact ih (List.forall_mem_cons.2 ⟨hr'.2, hr'.1⟩) hr.1 hr.2

theorem mergeAll_fair (waiting : List (List α)) (last : List α) :
    (∀ l ∈ waiting, AreAll kind l) → AreAll kind last →
    FairFrom blame (AreAll kind) (mergeAll less waiting last) := by
  induction waiting, last using mergeAll.induct with
  | case1 last => 
    intro _ hlast
    rw [mergeAll]
    exact .pure hlast
  | case2 b last =>
    intro hwaiting hlast
    rw [mergeAll]
    exact merge_fair compares (hwaiting b List.mem_cons_self) hlast
  | case3 b a before last shorter ih =>
    intro hwaiting hlast
    rw [mergeAll, if_pos shorter]
    obtain ⟨hb, ha, hbefore⟩ : AreAll kind b ∧ AreAll kind a ∧ ∀ l ∈ before, AreAll kind l := by
      simpa using hwaiting
    exact (merge_fair compares ha hb).bind fun merged hmerged =>
      ih merged (List.forall_mem_cons.2 ⟨hmerged, hbefore⟩) hlast
  | case4 b a before last longer ih =>
    intro hwaiting hlast
    rw [mergeAll, if_neg longer]
    obtain ⟨hb, hbefore⟩ := List.forall_mem_cons.1 hwaiting
    exact (merge_fair compares hb hlast).bind fun merged hmerged => ih merged hbefore hmerged

/-- Sorting a list compares its items only, and gives back nothing else. -/
theorem sortBy_fair {l : List α} (h : AreAll kind l) : Fair blame (AreAll kind) (sortBy less l) := by
  unfold sortBy
  refine (takeRun_fair compares _ h).bind fun r hr => ?_
  refine Fair.bind (?_ : Fair blame (fun r' => AreAll kind r'.1) _) fun r' hr' => Fair.pure hr'
  have hsorted : FairFrom blame (AreAll kind) (mergeRuns less l.length l.length [] r.1 r.2 >>=
      fun merged => mergeAll less (merged.1.map fun w => w.items) merged.2) := by
    refine (mergeRuns_fair compares _ _ (List.forall_mem_nil _) hr.1 hr.2).bind fun r' hr' => ?_
    exact mergeAll_fair compares _ _ (List.forall_mem_map.2 hr'.1) hr'.2
  exact hsorted leapLength

end Runs

/-! ## Sorting -/

variable {less : α → α → Except ε Bool} {l : List α} {e : ε}

/-- Sorting fails only because two items of the list cannot be compared. -/
theorem sortBy_error (h : sortBy less l = .error e) : ∃ a ∈ l, ∃ b ∈ l, less a b = .error e := by
  have hfair : Fair (fun e => ∃ a ∈ l, ∃ b ∈ l, less a b = .error e) (AreAll (· ∈ l))
      (sortBy less l) := by
    refine sortBy_fair (fun a b ha hb => ?_) fun _ ha => ha
    cases hless : less a b with
    | ok answer => trivial
    | error e => exact ⟨a, ha, b, hb, hless⟩
  rw [h] at hfair
  exact hfair

theorem sortByDescending_error (h : sortByDescending less l = .error e) :
    ∃ a ∈ l, ∃ b ∈ l, less a b = .error e := by
  rw [sortByDescending, except_bind_eq_error] at h
  rcases h with h | ⟨sorted, -, h⟩
  · simpa using sortBy_error h
  · cases h

end Conduit.Table
