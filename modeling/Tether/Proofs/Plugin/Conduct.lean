import Tether.Plugin.Roster

/-!
# What a reload leaves alone

A reload makes instances, starts them and finishes them, and the shop is touched by
nothing else. Making an instance counts it, and every call is noted. So whatever one reads
of a shop that is the same after each of these three is the same after a reload
(`Roster.reload_untouched`), and so it is after all plugins are finished.

Two readings are like that. One is how the plugins of a maker answer: no call could change
it, so what plugins may ask of a device is settled before a reload and the same after it.
The other is which packets plugins were handed: a reload hands none.
-/

namespace Tether.Plugin

namespace Shop

/-- A reading of a shop that is the same after every call that a reload may make. -/
structure Untouched {α : Type} (f : Shop → α) : Prop where
  start : ∀ s i, f (s.start i).2 = f s
  finish : ∀ s i, f (s.finish i) = f s
  create : ∀ s id key owner, f (s.create id key owner).2 = f s

end Shop

namespace Reload

open Shop (Untouched)

variable {α : Type} {f : Shop → α}

theorem keep_untouched (h : Untouched f) (r : Reload) (key : String) (i : Instance) :
    f (r.keep key i).2.shop = f r.shop := by
  simp only [keep]
  split
  · rfl
  · split
    · exact h.finish _ _
    · rfl

theorem start_untouched (h : Untouched f) (r : Reload) (key : String) (i : Instance) :
    f (r.start key i).2.shop = f r.shop := by
  have hstart := h.start r.shop i
  simp only [start]
  split
  · exact hstart
  · exact (h.finish _ _).trans hstart
  · exact hstart

theorem make_untouched (h : Untouched f) (r : Reload) (owner : Owner) (c : Candidate) :
    f (r.make owner c).2.shop = f r.shop := by
  have hcreate := h.create r.shop c.maker c.info.key owner
  rw [make]
  split
  · next shop hmade =>
      rw [hmade] at hcreate
      exact hcreate
  · next i shop hmade =>
      rw [hmade] at hcreate
      dsimp only
      split
      · exact hcreate
      · split
        · exact hcreate
        · rw [start_untouched h]
          exact hcreate

theorem add_untouched (h : Untouched f) (r : Reload) (owner : Owner) (c : Candidate) :
    f (r.add owner c).2.shop = f r.shop := by
  rw [add]
  split
  · exact keep_untouched h r _ _
  · exact make_untouched h r owner c

theorem remove_untouched (h : Untouched f) (r : Reload) (key : String) :
    f (r.remove key).shop = f r.shop := by
  rw [remove]
  split
  · exact h.finish _ _
  · rfl

theorem consider_untouched (h : Untouched f) (owner : Owner) (r : Reload) (c : Candidate) :
    f (consider owner r c).shop = f r.shop := by
  have hadd := add_untouched h r owner c
  have hforget : ∀ (r : Reload) (key : String), f (r.forget key).shop = f r.shop :=
    fun _ _ => rfl
  simp only [consider]
  split
  · split
    · split <;> exact hadd
    · rw [remove_untouched h, hadd]
  · simp [hforget, remove_untouched h]

theorem dismiss_untouched (h : Untouched f) (r : Reload) (key : String) :
    f (r.dismiss key).shop = f r.shop := by
  show f (r.remove key).shop = f r.shop
  exact remove_untouched h r key

/-- What each step of a walk leaves alone is left alone by the walk. -/
theorem foldl_untouched {β : Type} {step : Reload → β → Reload}
    (h : ∀ r b, f (step r b).shop = f r.shop) (items : List β) (r : Reload) :
    f (items.foldl step r).shop = f r.shop := by
  induction items generalizing r with
  | nil => rfl
  | cons b rest ih => rw [List.foldl_cons, ih, h]

end Reload

namespace Roster

open Shop (Untouched)

variable {α : Type} {f : Shop → α}

theorem reload_untouched (h : Untouched f) (roster : Roster) (shop : Shop) (owner : Owner)
    (candidates : List Candidate) :
    f (roster.reload shop owner candidates).2 = f shop := by
  simp only [reload]
  rw [Reload.foldl_untouched (Reload.dismiss_untouched h),
    Reload.foldl_untouched (Reload.consider_untouched h owner)]

theorem clear_untouched (h : Untouched f) (roster : Roster) (shop : Shop) :
    f (roster.clear shop) = f shop := by
  rw [clear, Reload.foldl_untouched (Reload.remove_untouched h)]

end Roster

/-! ## Conduct -/

namespace Shop

/-- How the plugins of each maker answer. -/
def conducts (s : Shop) (id : String) : Conduct :=
  (s.maker id).conduct

@[simp] theorem conducts_handle (s : Shop) (i : Instance) (paired : Bool) (p : Packet) :
    (s.handle i paired p).2.conducts = s.conducts := rfl

theorem conducts_create (s : Shop) (id key : String) (owner : Owner) :
    (s.create id key owner).2.conducts = s.conducts := by
  rw [create]
  split
  · funext other
    by_cases h : id = other
    · subst h
      simp [conducts, maker, note]
    · simp [conducts, maker, note, Dict.find?_put_of_ne h]
  · rfl

theorem create_refused {s s' : Shop} {id key : String} {owner : Owner}
    (h : s.create id key owner = (none, s')) : (s.conducts id).creates = false := by
  rw [create] at h
  split at h
  · cases h
  · next hno => exact Bool.eq_false_iff.mpr hno

theorem create_made {s s' : Shop} {id key : String} {owner : Owner} {i : Instance}
    (h : s.create id key owner = (some i, s')) :
    (s.conducts id).creates = true ∧ i.key = key ∧ i.maker = id := by
  rw [create] at h
  split at h
  · next hyes =>
      cases h
      exact ⟨hyes, rfl, rfl⟩
  · cases h

theorem conducts_untouched : Untouched conducts :=
  ⟨fun _ _ => rfl, fun _ _ => rfl, conducts_create⟩

end Shop

theorem Roster.conducts_reload (roster : Roster) (shop : Shop) (owner : Owner)
    (candidates : List Candidate) :
    (roster.reload shop owner candidates).2.conducts = shop.conducts :=
  roster.reload_untouched Shop.conducts_untouched shop owner candidates

theorem Roster.conducts_clear (roster : Roster) (shop : Shop) :
    (roster.clear shop).conducts = shop.conducts :=
  roster.clear_untouched Shop.conducts_untouched shop

/-! ## Packets -/

/-- The packet that an instance was called with, and whether it was one of a paired
device. -/
def Note.packet? : Note → Option (Bool × Packet)
  | packet paired p _ => some (paired, p)
  | _ => none

namespace Shop

/-- The packets that were handed to instances, in order. -/
def handed (s : Shop) : List (Instance × Bool × Packet) :=
  s.notes.filterMap fun n => n.2.packet?.map (n.1, ·)

@[simp] theorem handed_handle (s : Shop) (i : Instance) (paired : Bool) (p : Packet) :
    (s.handle i paired p).2.handed = s.handed ++ [(i, paired, p)] := by
  simp [handle, handed, note, Note.packet?]

theorem handed_untouched : Untouched handed := by
  refine ⟨?_, ?_, ?_⟩
  · intro s i
    simp [start, handed, note, Note.packet?]
  · intro s i
    simp [finish, handed, note, Note.packet?]
  · intro s id key owner
    rw [create]
    split <;> simp [handed, note, Note.packet?]

end Shop

end Tether.Plugin
