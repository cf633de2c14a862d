import Conduit.Proofs.Table.Sort
import Conduit.Proofs.Table.Weave
import Mathlib.Data.Nat.Basic

/-!
# What merging gives

When the comparison of two items always works and compares their keys, merging does not fail and
gives the two runs woven into one. The places that are searched for are where a test on a run in
order turns, the front of a merge moves on without changing what it will all be, and a merge from
the other side is one by the opposite order.

* `Weighs` — a comparison of keys;
* `Cuts`, `leading_cuts` — the place where a test turns;
* `Front.Sound`, `Front.whole` — what a merge is on the way, and what it will all be;
* `merge_weaves` — merging weaves.
-/

namespace Conduit.Table

variable {α β κ ε : Type} [LinearOrder κ] {key : α → κ} {kind : α → Prop}

/-- No failure may be. -/
def Never (_ : ε) : Prop := False

/-- What may not fail succeeds. -/
theorem Fair.exists_ok {fits : β → Prop} {x : Except ε β} (h : Fair Never fits x) :
    ∃ b, x = .ok b ∧ fits b := by
  cases x with
  | ok b => exact ⟨b, rfl, h⟩
  | error e => exact h.elim

/-- Comparing two items of a kind works, and compares their keys. -/
def Weighs (kind : α → Prop) (key : α → κ) (less : α → α → Except ε Bool) : Prop :=
  ∀ a b, kind a → kind b → less a b = .ok (decide (key a < key b))

/-- The items that do not come before an item, tested for. -/
theorem Weighs.not {less : α → α → Except ε Bool} (weighs : Weighs kind key less) {a b : α}
    (ha : kind a) (hb : kind b) :
    (do return !(← less a b) : Except ε Bool) = .ok (decide (key b ≤ key a)) := by
  rw [weighs a b ha hb]
  change Except.ok (!decide (key a < key b)) = _
  rw [← decide_not, decide_eq_decide.2 not_lt]

theorem Weighs.flip {κ' : Type} [LinearOrder κ'] {key' : α → κ'} (opposite : Opposite key key')
    {less : α → α → Except ε Bool} (weighs : Weighs kind key less) :
    Weighs kind key' fun a b => less b a := fun a b ha hb =>
  (weighs b a hb ha).trans (congrArg Except.ok (decide_eq_decide.2 opposite.lt_iff.symm))

/-! ## Searching -/

/-- A list is cut at a place: a test passes for the items before it and for none behind it. -/
structure Cuts (p : α → Bool) (items : List α) (n : Nat) : Prop where
  bound : n ≤ items.length
  before : ∀ a ∈ items.take n, p a = true
  behind : ∀ a ∈ items.drop n, p a = false

section Searching

variable {p : α → Bool} {test : α → Except ε Bool} {items : List α} {n : Nat}

theorem Cuts.apply_eq (cuts : Cuts p items n) {i : Nat} (h : i < items.length) :
    p items[i] = decide (i < n) := by
  by_cases hi : i < n
  · rw [decide_eq_true hi]
    exact cuts.before _ (List.mem_take_iff_getElem.2 ⟨i, by omega, rfl⟩)
  · rw [decide_eq_false hi]
    refine cuts.behind _ (List.mem_drop_iff_getElem.2 ⟨i - n, by omega, ?_⟩)
    congr 1
    omega

/-- A cut of a list backwards, told of the items at its end. -/
theorem Cuts.at_end (cuts : Cuts p items.reverse n) {a : α}
    (h : a ∈ items.drop (items.length - n)) : p a = true :=
  cuts.before a (by rwa [List.take_reverse, List.mem_reverse])

/-- A cut of a list backwards, told of the items at its beginning. -/
theorem Cuts.at_start (cuts : Cuts p items.reverse n) {a : α}
    (h : a ∈ items.take (items.length - n)) : p a = false :=
  cuts.behind a (by rwa [List.drop_reverse, List.mem_reverse])

/-- A test that fails for all items after one for which it fails cuts the list. -/
theorem exists_cuts (falls : items.Pairwise fun a b => p b = true → p a = true) :
    ∃ n, Cuts p items n := by
  induction items with
  | nil => exact ⟨0, le_rfl, nofun, nofun⟩
  | cons a rest ih =>
    obtain ⟨ha, hrest⟩ := List.pairwise_cons.1 falls
    cases hp : p a with
    | true =>
      obtain ⟨n, hn, hbefore, hbehind⟩ := ih hrest
      exact ⟨n + 1, Nat.succ_le_succ hn, List.forall_mem_cons.2 ⟨hp, hbefore⟩, hbehind⟩
    | false =>
      refine ⟨0, Nat.zero_le _, nofun, List.forall_mem_cons.2 ⟨hp, fun b hb => ?_⟩⟩
      exact Bool.eq_false_iff.2 fun hpb => Bool.eq_false_iff.1 hp (ha b hb hpb)

variable (tests : ∀ a ∈ items, test a = .ok (p a)) (cuts : Cuts p items n)

include tests cuts

/-- Halving finds the place where a list is cut. -/
theorem halve_cuts (lower : Bool) (fuel : Nat) : ∀ {low high : Nat}, low ≤ n → n ≤ high →
    high ≤ items.length → high - low ≤ fuel → halve lower test items fuel low high = .ok n := by
  induction fuel with
  | zero =>
    intro low high hlow hhigh _ hfuel
    obtain rfl : low = n := by omega
    rfl
  | succ fuel ih =>
    intro low high hlow hhigh hlength hfuel
    rw [halve]
    split
    · next hlt =>
      dsimp only
      generalize hmiddle : low + (high - low - if lower then 1 else 0) / 2 = middle
      have hbetween : low ≤ middle ∧ middle < high := by
        split at hmiddle <;> omega
      have hin : middle < items.length := by omega
      rw [List.getElem?_eq_getElem hin]
      dsimp only
      rw [tests _ (List.getElem_mem hin), cuts.apply_eq hin]
      by_cases hcut : middle < n
      · rw [decide_eq_true hcut]
        exact ih (by omega) hhigh hlength (by omega)
      · rw [decide_eq_false hcut]
        exact ih hlow (by omega) (by omega) (by omega)
    · next hnot =>
      obtain rfl : low = n := by omega
      rfl

/-- Doubling finds a place before the cut and one that is not. -/
theorem stretch_cuts (fuel : Nat) : ∀ {low high : Nat}, low < n → items.length ≤ high + fuel →
    Fair Never (fun r => r.1 < n ∧ n ≤ r.2 ∧ r.2 ≤ items.length)
      (stretch test items fuel low high) := by
  have hbound := cuts.bound
  induction fuel with
  | zero =>
    intro low high hlow hfuel
    refine ⟨hlow, ?_, min_le_right _ _⟩
    exact le_min (hbound.trans (by omega)) hbound
  | succ fuel ih =>
    intro low high hlow hfuel
    rw [stretch]
    split
    · exact ⟨hlow, hbound, le_rfl⟩
    · next x hx =>
      obtain ⟨hin, rfl⟩ := List.getElem?_eq_some_iff.1 hx
      rw [tests _ (List.getElem_mem hin), cuts.apply_eq hin]
      by_cases hcut : high < n
      · rw [decide_eq_true hcut]
        exact ih hcut (by omega)
      · rw [decide_eq_false hcut]
        exact ⟨hlow, by omega, hin.le⟩

omit cuts in
/-- Leaping stops where the test turns. -/
theorem leading_cuts (falls : items.Pairwise fun a b => p b = true → p a = true) (lower : Bool) :
    Fair Never (Cuts p items) (leading lower test items) := by
  obtain ⟨n, cuts⟩ := exists_cuts falls
  cases items with
  | nil => exact ⟨le_rfl, nofun, nofun⟩
  | cons x rest =>
    have hfirst : p x = decide (0 < n) := cuts.apply_eq (i := 0) (by simp)
    unfold leading
    dsimp only
    rw [tests x List.mem_cons_self, hfirst]
    by_cases hn : 0 < n
    · rw [decide_eq_true hn]
      have hstretch : Fair Never (fun r => r.1 < n ∧ n ≤ r.2 ∧ r.2 ≤ (x :: rest).length)
          (stretch test (x :: rest) (x :: rest).length 0 1) :=
        stretch_cuts tests cuts _ hn (by omega)
      change Fair Never _ (stretch test (x :: rest) (x :: rest).length 0 1 >>= _)
      refine hstretch.bind fun r hr => ?_
      have hhalve : halve lower test (x :: rest) (x :: rest).length (r.1 + 1) r.2 = .ok n :=
        halve_cuts tests cuts lower _ hr.1 hr.2.1 hr.2.2 (by omega)
      rw [hhalve]
      exact cuts
    · obtain rfl : n = 0 := by omega
      exact cuts

end Searching

/-! ## The front of a merge -/

namespace Front

/-- All items of a merge as they will stand in the end. -/
def whole (key : α → κ) (f : Front α) : List α := f.merged.reverse ++ weave key f.short f.long

/-- How many items are left to merge. -/
def size (f : Front α) : Nat := f.short.length + f.long.length

/-- What holds on the way: what is left of both runs is in order, and the last item of the shorter
run comes behind all of the longer one. -/
structure Sound (kind : α → Prop) (key : α → κ) (f : Front α) : Prop where
  holds : f.Holds kind
  short : Ascends key f.short
  long : Ascends key f.long
  last : ∀ x ∈ f.short.getLast?, ∀ y ∈ f.long, key y < key x

variable {f g : Front α}

/-- A merge that is over has all its items in their places. -/
theorem Sound.items_eq (sound : f.Sound kind key) (ended : f.isOver = true) :
    f.items = f.whole key := by
  rw [items, whole]
  congr 1
  rw [isOver, Bool.or_eq_true, List.isEmpty_iff, decide_eq_true_eq] at ended
  rcases ended with hlong | hshort
  · rw [hlong, weave_nil_right, List.nil_append]
  · match hf : f.short, hshort with
    | [], _ => rw [weave_nil_left, List.append_nil]
    | [x], _ =>
      have hbehind : ∀ y ∈ f.long, ∀ z ∈ [x], key y < key z := by
        intro y hy z hz
        obtain rfl := List.mem_singleton.1 hz
        exact sound.last z (by rw [hf]; rfl) y hy
      simpa using (weave_append_right (b := []) hbehind).symm

theorem Sound.moveShort (sound : f.Sound kind key) (count : Nat) :
    (f.moveShort count).Sound kind key where
  holds := sound.holds.moveShort count
  short := sound.short.sublist (List.drop_sublist ..)
  long := sound.long
  last := by
    intro x hx y hy
    refine sound.last x ?_ y hy
    have hlast : (f.short.drop count).getLast? = some x := hx
    rw [List.getLast?_drop] at hlast
    split at hlast
    · cases hlast
    · exact hlast

theorem Sound.moveLong (sound : f.Sound kind key) (count : Nat) :
    (f.moveLong count).Sound kind key where
  holds := sound.holds.moveLong count
  short := sound.short
  long := sound.long.sublist (List.drop_sublist ..)
  last x hx y hy := sound.last x hx y (List.mem_of_mem_drop hy)

/-- Items of the shorter run are moved rightly when they come before all of the longer one. -/
theorem whole_moveShort {count : Nat}
    (first : ∀ x ∈ f.short.take count, ∀ y ∈ f.long, key x ≤ key y) :
    (f.moveShort count).whole key = f.whole key := by
  have hweave := weave_append_left (a := f.short.drop count) first
  rw [List.take_append_drop] at hweave
  rw [whole, whole, hweave]
  simp [Front.moveShort]

/-- Items of the longer run are moved rightly when they come before all of the shorter one. -/
theorem whole_moveLong {count : Nat}
    (first : ∀ y ∈ f.long.take count, ∀ x ∈ f.short, key y < key x) :
    (f.moveLong count).whole key = f.whole key := by
  have hweave := weave_append_right (b := f.long.drop count) first
  rw [List.take_append_drop] at hweave
  rw [whole, whole, hweave]
  simp [Front.moveLong]

/-- A merge has gone on from one front to another. -/
structure Leads (kind : α → Prop) (key : α → κ) (f g : Front α) : Prop where
  sound : g.Sound kind key
  whole : g.whole key = f.whole key
  size : g.size ≤ f.size
  onward : g.isOver = true ∨ g.size < f.size

theorem Leads.trans {h : Front α} (fg : Leads kind key f g) (gh : Leads kind key g h) :
    Leads kind key f h where
  sound := gh.sound
  whole := gh.whole.trans fg.whole
  size := gh.size.trans fg.size
  onward := gh.onward.imp_right fun hlt => hlt.trans_le fg.size

/-- A merge goes on by a move that changes nothing about the whole, and by another one unless it is
over by then. -/
theorem Leads.step {h : Front α} (sound : g.Sound kind key) (whole : g.whole key = f.whole key)
    (size : g.size ≤ f.size) (next : Leads kind key g h) :
    Leads kind key f (if g.isOver then g else h) := by
  split
  · next ended => exact ⟨sound, whole, size, .inl ended⟩
  · exact ⟨next.sound, next.whole.trans whole, next.size.trans size,
      next.onward.imp_right fun hlt => hlt.trans_le size⟩

/-- The first item of the longer run is moved when all of the shorter one come behind it. -/
theorem Sound.leads_moveLong (sound : f.Sound kind key) {y : α} {rest : List α}
    (hlong : f.long = y :: rest) (first : ∀ x ∈ f.short, key y < key x) :
    Leads kind key f (f.moveLong 1) where
  sound := sound.moveLong 1
  whole := by
    refine whole_moveLong ?_
    rw [hlong]
    simpa using first
  size := by simp [Front.size, Front.moveLong]
  onward := by
    right
    simp [Front.size, Front.moveLong, hlong]

/-- The first item of the shorter run is moved when all of the longer one come behind it. -/
theorem Sound.leads_moveShort (sound : f.Sound kind key) {x : α} {rest : List α}
    (hshort : f.short = x :: rest) (first : ∀ y ∈ f.long, key x ≤ key y) :
    Leads kind key f (f.moveShort 1) where
  sound := sound.moveShort 1
  whole := by
    refine whole_moveShort ?_
    rw [hshort]
    simpa using first
  size := by simp [Front.size, Front.moveShort]
  onward := by
    right
    simp [Front.size, Front.moveShort, hshort]

end Front

/-! ## Merging -/

section Merging

variable {ahead : α → α → Except ε Bool}

theorem Front.Sound.leads_self {f : Front α} (sound : f.Sound kind key) (ended : f.isOver = true) :
    Front.Leads kind key f f :=
  ⟨sound, rfl, le_rfl, .inl ended⟩

section

variable (weighs : Weighs kind key ahead) {f : Front α} (sound : f.Sound kind key)

include weighs sound

theorem leapShort_leads (lower : Bool) :
    Fair Never (fun r => Front.Leads kind key f r.2) (f.leapShort ahead lower) := by
  unfold Front.leapShort
  split
  · next hlong => exact sound.leads_self (by simp [Front.isOver, hlong])
  · next next rest hlong =>
    have hnext : kind next := sound.holds.long next (hlong ▸ List.mem_cons_self)
    have hfirst : ∀ y ∈ f.long, key next ≤ key y := sound.long.head_le hlong
    split
    · next ended => exact sound.leads_self ended
    · refine (leading_cuts (fun x hx => weighs.not hnext (sound.holds.short x hx)) ?_ lower).bind
        fun count cuts => ?_
      · exact sound.short.imp fun hab h => decide_eq_true (hab.trans (of_decide_eq_true h))
      · have hmoved := sound.moveShort count
        have hwhole : (f.moveShort count).whole key = f.whole key :=
          Front.whole_moveShort fun x hx y hy =>
            (of_decide_eq_true (cuts.before x hx)).trans (hfirst y hy)
        have hsize : (f.moveShort count).size ≤ f.size := by simp [Front.size, Front.moveShort]
        refine Fair.pure (Front.Leads.step hmoved hwhole hsize ?_)
        exact hmoved.leads_moveLong hlong fun x hx =>
          not_le.1 (of_decide_eq_false (cuts.behind x hx))

theorem leapLong_leads (lower : Bool) :
    Fair Never (fun r => Front.Leads kind key f r.2) (f.leapLong ahead lower) := by
  unfold Front.leapLong
  split
  · next hshort => exact sound.leads_self (by simp [Front.isOver, hshort])
  · next next rest hshort =>
    have hnext : kind next := sound.holds.short next (hshort ▸ List.mem_cons_self)
    have hfirst : ∀ x ∈ f.short, key next ≤ key x := sound.short.head_le hshort
    split
    · next ended => exact sound.leads_self ended
    · refine (leading_cuts (fun y hy => weighs y next (sound.holds.long y hy) hnext) ?_ lower).bind
        fun count cuts => ?_
      · exact sound.long.imp fun hab h => decide_eq_true (hab.trans_lt (of_decide_eq_true h))
      · have hmoved := sound.moveLong count
        have hwhole : (f.moveLong count).whole key = f.whole key :=
          Front.whole_moveLong fun y hy x hx =>
            (of_decide_eq_true (cuts.before y hy)).trans_le (hfirst x hx)
        have hsize : (f.moveLong count).size ≤ f.size := by simp [Front.size, Front.moveLong]
        refine Fair.pure (Front.Leads.step hmoved hwhole hsize ?_)
        exact hmoved.leads_moveShort hshort fun y hy =>
          not_lt.1 (of_decide_eq_false (cuts.behind y hy))

theorem leap_leads (lower : Bool) :
    Fair Never (fun r => Front.Leads kind key f r.2) (f.leap ahead lower) := by
  unfold Front.leap
  cases lower with
  | true =>
    refine (leapLong_leads weighs sound true).bind fun r hr => ?_
    exact (leapShort_leads weighs hr.sound true).bind fun r' hr' => hr.trans hr'
  | false =>
    refine (leapShort_leads weighs sound false).bind fun r hr => ?_
    exact (leapLong_leads weighs hr.sound false).bind fun r' hr' => hr.trans hr'

end

/-- The lesser one of the next two items is moved, that of the shorter run if they are tied. -/
theorem Front.Sound.leads_single {f : Front α} (sound : f.Sound kind key) {x y : α} {xs ys : List α}
    (hshort : f.short = x :: xs) (hlong : f.long = y :: ys) {isAhead : Bool}
    (hahead : isAhead = decide (key y < key x)) :
    Front.Leads kind key f (if isAhead then f.moveLong 1 else f.moveShort 1) := by
  subst hahead
  by_cases hlt : key y < key x
  · rw [if_pos (decide_eq_true hlt)]
    exact sound.leads_moveLong hlong fun z hz => hlt.trans_le (sound.short.head_le hshort z hz)
  · rw [if_neg (by simpa using hlt)]
    exact sound.leads_moveShort hshort fun z hz =>
      (not_lt.1 hlt).trans (sound.long.head_le hlong z hz)

/-- A merge is over once either run has no first item. -/
theorem Front.isOver_of_bare {f : Front α}
    (bare : ∀ x xs y ys, f.short = x :: xs → f.long = y :: ys → False) : f.isOver = true := by
  cases hshort : f.short with
  | nil => simp [Front.isOver, hshort]
  | cons x xs =>
    cases hlong : f.long with
    | nil => simp [Front.isOver, hlong]
    | cons y ys => exact (bare x xs y ys hshort hlong).elim

/-- A merge that goes on ends with all items in their places. -/
theorem advance_whole (weighs : Weighs kind key ahead) (lower : Bool) (fuel : Nat) :
    ∀ (pace : Pace) {f : Front α}, f.Sound kind key → f.size ≤ fuel →
      FairFrom Never (fun g => g.items = f.whole key) (advance ahead lower fuel pace f) := by
  induction fuel with
  | zero =>
    intro pace f sound hsize
    have hlong : f.long = [] := List.eq_nil_of_length_eq_zero (by rw [Front.size] at hsize; omega)
    rw [advance]
    exact .pure (sound.items_eq (by simp [Front.isOver, hlong]))
  | succ fuel ih =>
    intro pace f sound hsize
    -- wherever a merge has gone on to, it is over or what is left to do is less
    have hgo : ∀ (pace : Pace) {g : Front α}, Front.Leads kind key f g → g.isOver = false →
        FairFrom Never (fun g => g.items = f.whole key) (advance ahead lower fuel pace g) := by
      intro pace g leads going
      rw [← leads.whole]
      refine ih pace leads.sound ?_
      have hless := leads.onward.resolve_left (by rw [going]; exact Bool.false_ne_true)
      omega
    have hend : ∀ {g : Front α}, Front.Leads kind key f g → g.isOver = true →
        g.items = f.whole key := fun leads ended =>
      (leads.sound.items_eq ended).trans leads.whole
    cases pace with
    | single fromShort fromLong =>
      rw [advance]
      split
      · next x xs y ys hshort hlong =>
        have hx : kind x := sound.holds.short x (hshort ▸ List.mem_cons_self)
        have hy : kind y := sound.holds.long y (hlong ▸ List.mem_cons_self)
        rw [weighs y x hy hx]
        have hdecides : Fair Never (fun isAhead => isAhead = decide (key y < key x))
            (.ok (decide (key y < key x)) : Except ε Bool) := rfl
        refine FairFrom.bind (.lift hdecides) fun isAhead hahead => ?_
        have hmoved := sound.leads_single hshort hlong hahead
        dsimp only
        generalize (if isAhead then f.moveLong 1 else f.moveShort 1) = moved at hmoved ⊢
        generalize (if isAhead then 0 else fromShort + 1) = fromShort
        generalize (if isAhead then fromLong + 1 else 0) = fromLong
        refine FairFrom.bind (.of_run fun patience => ⟨_, rfl⟩) fun patience _ => ?_
        cases hover : moved.isOver with
        | true => exact .pure (hend hmoved hover)
        | false =>
          rw [if_neg Bool.false_ne_true]
          split
          · exact FairFrom.bind (.of_run fun patience => ⟨_, rfl⟩) fun _ _ => hgo _ hmoved hover
          · exact hgo _ hmoved hover
      · next hnot =>
        exact .pure (sound.items_eq (Front.isOver_of_bare hnot))
    | leaping =>
      rw [advance]
      refine FairFrom.bind (.of_run fun patience => ⟨_, rfl⟩) fun _ _ => ?_
      refine FairFrom.bind (.lift (leap_leads weighs sound lower)) fun r hr => ?_
      dsimp only
      cases hover : r.2.isOver with
      | true => exact .pure (hend hr hover)
      | false =>
        rw [if_neg Bool.false_ne_true]
        split
        · exact hgo _ hr hover
        · exact FairFrom.bind (.of_run fun patience => ⟨_, rfl⟩) fun _ _ => hgo _ hr hover

/-- Merging two runs weaves them, if the first item of the longer one comes before all of the
shorter one and the last item of the shorter one behind all of the longer one. -/
theorem mergeFrom_weaves (weighs : Weighs kind key ahead) (lower : Bool) {short long : List α}
    (hshort : AreAll kind short) (hlong : AreAll kind long) (ashort : Ascends key short)
    (along : Ascends key long) (first : ∀ y ∈ long.head?, ∀ x ∈ short, key y < key x)
    (last : ∀ x ∈ short.getLast?, ∀ y ∈ long, key y < key x) :
    FairFrom Never (· = weave key short long) (mergeFrom ahead lower short long) := by
  have hsound : Front.Sound kind key (⟨short, long, []⟩ : Front α) :=
    ⟨⟨hshort, hlong, nofun⟩, ashort, along, last⟩
  have hstart := hsound.moveLong 1
  have hwhole : (Front.moveLong ⟨short, long, []⟩ 1).whole key = weave key short long := by
    refine Front.whole_moveLong fun y hy => first y ?_
    have hhead : y ∈ long.take 1 := hy
    rw [List.take_one, Option.mem_toList] at hhead
    exact hhead
  unfold mergeFrom
  dsimp only
  split
  · next ended => exact .pure ((hstart.items_eq ended).trans hwhole)
  · refine (advance_whole weighs lower _ _ hstart ?_).bind fun f hf => .pure (hf.trans hwhole)
    simp [Front.size, Front.moveLong]

/-- The same from the side of the shorter run, whichever it is, and then on with the woven run. -/
theorem closer_weaves {less : α → α → Except ε Bool} (weighs : Weighs kind key less)
    {left right : List α} (hleft : AreAll kind left) (hright : AreAll kind right)
    (aleft : Ascends key left) (aright : Ascends key right)
    (first : ∀ y ∈ right.head?, ∀ x ∈ left, key y < key x)
    (last : ∀ x ∈ left.getLast?, ∀ y ∈ right, key y < key x) {fits : β → Prop}
    {next : List α → Comparing ε β} (hnext : FairFrom Never fits (next (weave key left right))) :
    FairFrom Never fits
      (if right.isEmpty then pure left >>= next
        else if left.length ≤ right.length then mergeFrom less false left right >>= next
        else List.reverse <$> mergeFrom (fun y x => less x y) true right.reverse left.reverse
          >>= next) := by
  have hwoven : ∀ middle, middle = weave key left right → FairFrom Never fits (next middle) :=
    fun middle hmiddle => hmiddle ▸ hnext
  split
  · next hempty =>
    exact FairFrom.bind (.pure (by rw [List.isEmpty_iff.1 hempty, weave_nil_right])) hwoven
  · split
    · exact (mergeFrom_weaves weighs false hleft hright aleft aright first last).bind hwoven
    · have opposite := opposite_dual key
      refine ((mergeFrom_weaves (weighs.flip opposite) true hright.reverse hleft.reverse
        (opposite.ascends_reverse.2 aright) (opposite.ascends_reverse.2 aleft) ?_ ?_).map
        fun middle hmiddle =>
          (congrArg List.reverse hmiddle).trans (weave_reverse opposite aleft aright)).bind hwoven
      · intro y hy x hx
        rw [List.head?_reverse] at hy
        exact opposite.lt_iff.2 (last y hy x (List.mem_reverse.1 hx))
      · intro x hx y hy
        rw [List.getLast?_reverse] at hx
        exact opposite.lt_iff.2 (first x hx y (List.mem_reverse.1 hy))

end Merging

/-- Merging two runs in order weaves them. -/
theorem merge_weaves {less : α → α → Except ε Bool} (weighs : Weighs kind key less) {a b : List α}
    (ha : AreAll kind a) (hb : AreAll kind b) (asca : Ascends key a) (ascb : Ascends key b) :
    FairFrom Never (· = weave key a b) (merge less a b) := by
  unfold merge
  split
  · exact .pure (weave_nil_right a).symm
  · next least rest =>
    generalize hwhole : least :: rest = b at hb ascb ⊢
    have hleast : kind least := hb least (hwhole ▸ List.mem_cons_self)
    refine FairFrom.bind (.lift (leading_cuts (fun x hx => weighs.not hleast (ha x hx)) ?_ false))
      fun below hbelow => ?_
    · exact asca.imp fun hxy h => decide_eq_true (hxy.trans (of_decide_eq_true h))
    -- what comes before the second run stays in front
    have hfront : weave key a b = a.take below ++ weave key (a.drop below) b := by
      conv_lhs => rw [← List.take_append_drop below a]
      exact weave_append_left fun x hx y hy =>
        (of_decide_eq_true (hbelow.before x hx)).trans (ascb.head_le hwhole.symm y hy)
    have hdrop : ∀ x ∈ a.drop below, key least < key x := fun x hx =>
      not_le.1 (of_decide_eq_false (hbelow.behind x hx))
    dsimp only
    split
    · next hnone =>
      have hnothing : a.drop below = [] := List.getLast?_eq_none_iff.1 hnone
      have hall := List.take_append_drop below a
      rw [hnothing, List.append_nil] at hall
      refine .pure ?_
      rw [hfront, hnothing, weave_nil_left, hall]
    · next greatest hgreatest =>
      have hgreatest' : kind greatest := ha.drop below _ (List.mem_of_getLast? hgreatest)
      refine FairFrom.bind (.lift (leading_cuts (p := fun y => decide (key greatest ≤ key y))
        (fun y hy => weighs.not (hb y (List.mem_reverse.1 hy)) hgreatest') ?_ true))
        fun above habove => ?_
      · refine List.pairwise_reverse.2 (ascb.imp fun hxy h => ?_)
        exact decide_eq_true ((of_decide_eq_true h).trans hxy)
      have hbehind : ∀ y ∈ b.drop (b.length - above), key greatest ≤ key y :=
        fun y hy => of_decide_eq_true (habove.at_end hy)
      have hless : ∀ y ∈ b.take (b.length - above), key y < key greatest :=
        fun y hy => not_le.1 (of_decide_eq_false (habove.at_start hy))
      generalize hleft : a.drop below = left at hfront hdrop hgreatest ⊢
      generalize hright : b.take (b.length - above) = right at hless ⊢
      generalize hupper : b.drop (b.length - above) = upper at hbehind ⊢
      have hparts : right ++ upper = b := by rw [← hright, ← hupper, List.take_append_drop]
      have aleft : Ascends key left := hleft ▸ asca.sublist (List.drop_sublist ..)
      have aright : Ascends key right := hright ▸ ascb.sublist (List.take_sublist ..)
      have hkindLeft : AreAll kind left := hleft ▸ ha.drop below
      have hkindRight : AreAll kind right := hright ▸ hb.take _
      have hfirst : ∀ y ∈ right.head?, ∀ x ∈ left, key y < key x := by
        intro y hy x hx
        obtain ⟨tail, rfl⟩ := List.head?_eq_some_iff.1 hy
        obtain rfl : y = least := (List.cons.inj (hparts.trans hwhole.symm)).1
        exact hdrop x hx
      have hlast : ∀ x ∈ left.getLast?, ∀ y ∈ right, key y < key x := by
        intro x hx y hy
        obtain rfl : greatest = x := Option.some.inj (hgreatest.symm.trans hx)
        exact hless y hy
      -- what comes behind the first run stays behind
      have hjoined : a.take below ++ (weave key left right ++ upper) = weave key a b := by
        rw [hfront, ← hparts, weave_append_behind fun x hx y hy =>
          (aleft.le_last hgreatest x hx).trans (hbehind y hy)]
      exact closer_weaves weighs hkindLeft hkindRight aleft aright hfirst hlast (.pure hjoined)

end Conduit.Table
