import Conduit.Proofs.Run.Places

/-!
# What is not taken back

The clock does not go back, and neither does what was told, reported or asked for. A step that was
put in flight does not come to wait again.

* `Run.Onward` — a run that comes after another;
* `Run.Change.onward`, `Run.Changes.onward` — changes go onward.
-/

namespace Conduit.Run

/-- `r'` comes after `r`: no event, no report and no request to cancel is taken back, and no step
waits or is in flight that did neither. -/
structure Onward (r r' : Run) : Prop where
  now : r.now ≤ r'.now
  events : r.events <+: r'.events
  reports : r.reports <+: r'.reports
  cancelled : r.cancelled = true → r'.cancelled = true
  heeded : r.heeded = true → r'.heeded = true
  places : ∀ id, id ∈ r'.waitingIds ∨ id ∈ r'.flightIds → id ∈ r.waitingIds ∨ id ∈ r.flightIds

theorem Onward.refl (r : Run) : Onward r r :=
  ⟨Nat.le_refl _, List.prefix_rfl, List.prefix_rfl, id, id, fun _ => id⟩

theorem Onward.trans {r q s : Run} (h : Onward r q) (h' : Onward q s) : Onward r s where
  now := Nat.le_trans h.now h'.now
  events := h.events.trans h'.events
  reports := h.reports.trans h'.reports
  cancelled := fun hc => h'.cancelled (h.cancelled hc)
  heeded := fun hh => h'.heeded (h.heeded hh)
  places := fun id hid => h.places id (h'.places id hid)

theorem Alike.onward {r r' : Run} (alike : Alike r r') : Onward r r' where
  now := alike.now
  events := by
    rcases alike.events with hsame | ⟨result, hmore⟩
    · exact hsame ▸ List.prefix_rfl
    · exact ⟨_, hmore.symm⟩
  reports := alike.reports ▸ List.prefix_rfl
  cancelled := alike.cancelled
  heeded := fun hh => alike.heeded.trans hh
  places := by
    rw [alike.waitingIds, alike.flightIds]
    exact fun _ => id

theorem Shift.onward {r r' : Run} {g : Flight} {told : List RunEvent} {outputs : Outputs}
    (shift : Shift r r' g told outputs) : Onward r r' where
  now := Nat.le_of_eq shift.now.symm
  events := ⟨told, shift.events.symm⟩
  reports := shift.reports ▸ List.prefix_rfl
  cancelled := shift.cancelled
  heeded := fun hh => shift.heeded.trans hh
  places := by
    rw [shift.waitingIds, shift.flightIds]
    exact fun _ => id

theorem collect_onward (r : Run) : Onward r r.collect := by
  rw [collect_eq]
  refine { Onward.refl r with reports := List.prefix_append _ _, places := fun id => ?_ }
  exact Or.imp_right fun hid => (List.filter_sublist.map Flight.id).subset hid

theorem launch_onward {r : Run} {s : PipelineStep} (hs : s ∈ r.waiting) : Onward r (r.launch s) := by
  refine { Onward.refl r with places := fun id hid => ?_ }
  rw [mem_waitingIds_launch, flightIds_launch, List.mem_append, List.mem_singleton] at hid
  -- the step that is put in flight waited
  rcases hid with ⟨hwaits, -⟩ | hflies | rfl
  · exact .inl hwaits
  · exact .inr hflies
  · exact .inl (List.mem_map_of_mem hs)

/-- Every change goes onward. -/
theorem Change.onward {r r' : Run} {lost : List String} (h : Change r r' lost) : Onward r r' := by
  cases h with
  | stirs stir => exact stir.toAlike.onward
  | moves flies move => cases move <;> rename_i shift <;> exact shift.onward
  | cuts called flies cut =>
    cases cut with
    | past stage same => rw [same]; exact { Onward.refl r with }
    | drops stage shift => exact shift.onward
    | loses report givenUp stage shift => exact shift.onward
    | stops due stage shift => exact shift.onward
  | heeds running asked => exact { Onward.refl r with heeded := fun _ => rfl }
  | collects running => exact collect_onward r
  | launches running may first => exact launch_onward (List.mem_of_find?_eq_some first)
  | concludes running idle stuck => exact (conclude_alike r).onward
  | closes phase => exact (close_alike r _).onward

theorem Changes.onward {r r' : Run} {lost : List String} (h : Changes r r' lost) :
    Onward r r' := by
  induction h with
  | refl => exact .refl _
  | tail _ last ih => exact ih.trans last.onward

end Conduit.Run
