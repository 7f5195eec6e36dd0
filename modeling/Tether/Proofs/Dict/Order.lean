import Mathlib.Data.List.Sort
import Mathlib.Data.String.Basic
import Tether.Dict

/-!
# Order in dictionaries and rolls

Look-up needs no order, so nothing about look-up was proved from it. What order gives is
extensionality: an ascending roll is known by its members and an ascending dictionary by
its look-ups. Two ways of making one that agree on these agree altogether, and so the
order in which entries came never shows.

Every operation keeps what is ascending so, and a list of entries that is ascending
already is the dictionary of its entries (`ofEntries_eq_self`).
-/

namespace Tether

namespace Roll

/-- Each name stands once and in its place. -/
def Ascending (r : Roll) : Prop :=
  r.Pairwise (· < ·)

theorem Ascending.nodup {r : Roll} (h : r.Ascending) : r.Nodup :=
  h.imp fun hlt => ne_of_lt hlt

theorem Ascending.filter {r : Roll} (h : r.Ascending) (p : String → Bool) :
    Ascending (r.filter p) :=
  List.Pairwise.filter p h

/-- An ascending roll is known by its members. -/
theorem Ascending.ext {r r' : Roll} (h : r.Ascending) (h' : r'.Ascending)
    (hmem : ∀ name, name ∈ r ↔ name ∈ r') : r = r' :=
  List.Pairwise.eq_of_mem_iff h h' hmem

theorem Ascending.enter {r : Roll} (h : r.Ascending) (name : String) :
    (enter name r).Ascending := by
  induction r with
  | nil => exact List.pairwise_singleton _ _
  | cons n rest ih =>
      obtain ⟨hn, hrest⟩ := List.pairwise_cons.mp h
      rw [Roll.enter]
      split
      · exact h
      · next hne =>
          split
          · next hlt =>
              refine List.pairwise_cons.mpr ⟨?_, h⟩
              intro other hother
              rcases List.mem_cons.mp hother with rfl | hmem
              · exact hlt
              · exact hlt.trans (hn other hmem)
          · next hge =>
              refine List.pairwise_cons.mpr ⟨?_, ih hrest⟩
              intro other hother
              rcases mem_enter.mp hother with rfl | hmem
              · exact lt_of_le_of_ne (not_lt.mp hge) hne
              · exact hn other hmem

theorem ascending_ofList (names : List String) : (ofList names).Ascending := by
  suffices h : ∀ r : Roll, r.Ascending →
      (names.foldl (fun r n => Roll.enter n r) r).Ascending from
    h [] List.Pairwise.nil
  induction names with
  | nil => exact fun _ hr => hr
  | cons n rest ih => exact fun r hr => ih _ (hr.enter n)

/-- The names of a roll make it up. -/
theorem Ascending.ofList_eq {r : Roll} (h : r.Ascending) : ofList r = r :=
  (ascending_ofList r).ext h fun _ => mem_ofList

end Roll

namespace Dict

variable {β : Type u} {d d' : Dict β} {key other : String} {value : β}

/-- The keys are ascending. -/
def Ascending (d : Dict β) : Prop :=
  Roll.Ascending d.names

/-! ## Look-up and membership -/

theorem mem_of_find? (h : find? d key = some value) : (key, value) ∈ d := by
  induction d with
  | nil => cases h
  | cons e rest ih =>
      obtain ⟨k, v⟩ := e
      rw [find?] at h
      split at h
      · next hk =>
          cases h
          rw [hk]
          exact List.mem_cons_self
      · exact List.mem_cons_of_mem _ (ih h)

theorem find?_eq_none_iff : find? d key = none ↔ key ∉ d.names := by
  induction d with
  | nil => simp [names]
  | cons e rest ih =>
      obtain ⟨k, v⟩ := e
      rw [find?]
      split
      · next hk => simp [names, hk]
      · next hk =>
          rw [ih]
          simp [names, Ne.symm hk]

theorem isSome_find?_iff : (find? d key).isSome ↔ key ∈ d.names := by
  rw [← Option.ne_none_iff_isSome, Ne, find?_eq_none_iff, not_not]

theorem find?_of_mem (h : d.names.Nodup) (hmem : (key, value) ∈ d) :
    find? d key = some value := by
  induction d with
  | nil => cases hmem
  | cons e rest ih =>
      obtain ⟨k, v⟩ := e
      obtain ⟨hk, hrest⟩ := List.nodup_cons.mp h
      rw [find?]
      rcases List.mem_cons.mp hmem with heq | hlater
      · cases heq
        rw [if_pos rfl]
      · have hname : key ∈ names rest := List.mem_map.mpr ⟨_, hlater, rfl⟩
        have hne : k ≠ key := fun heq => hk (heq ▸ hname)
        rw [if_neg hne]
        exact ih hrest hlater

theorem Ascending.find?_iff (h : d.Ascending) :
    find? d key = some value ↔ (key, value) ∈ d :=
  ⟨mem_of_find?, find?_of_mem (Roll.Ascending.nodup h)⟩

/-- An ascending dictionary is known by its entries. -/
theorem Ascending.eq_of_mem_iff (h : d.Ascending) (h' : d'.Ascending)
    (hmem : ∀ e, e ∈ d ↔ e ∈ d') : d = d' := by
  have hirrefl : Std.Irrefl fun a b : String × β => a.1 < b.1 :=
    ⟨fun a => lt_irrefl a.1⟩
  have hantisymm : Std.Antisymm fun a b : String × β => a.1 < b.1 :=
    ⟨fun _ _ hlt hgt => absurd hgt (lt_asymm hlt)⟩
  exact List.Pairwise.eq_of_mem_iff (List.pairwise_map.mp h) (List.pairwise_map.mp h') hmem

/-- Look-up after new values were given. -/
theorem find?_map {γ : Type v} (f : β → γ) (d : Dict β) (key : String) :
    find? (d.map fun e => (e.1, f e.2)) key = (find? d key).map f := by
  induction d with
  | nil => rfl
  | cons e rest ih =>
      rw [List.map_cons, find?, find?, ih]
      split <;> rfl

/-- Look-up after the value of one key was replaced. -/
theorem find?_adjust (key other : String) (f : β → β) (d : Dict β) :
    find? (adjust key f d) other =
      (find? d other).map fun v => if other = key then f v else v := by
  induction d with
  | nil => rfl
  | cons e rest ih =>
      obtain ⟨k, v⟩ := e
      have hhead : (if k = key then (k, f v) else (k, v)) = (k, if k = key then f v else v) := by
        split <;> rfl
      rw [adjust, List.map_cons, hhead, find?, find?]
      split
      · next hk => rw [hk, Option.map_some]
      · exact ih

/-! ## Operations -/

theorem mem_names_put : other ∈ names (put key value d) ↔ other = key ∨ other ∈ names d := by
  rw [← isSome_find?_iff, ← isSome_find?_iff]
  by_cases h : key = other
  · subst h
    simp
  · simp [find?_put_of_ne h, Ne.symm h]

theorem names_put_cons (k : String) (v : β) :
    names (put key value ((k, v) :: d)) =
      if k = key then key :: names d
      else if key < k then key :: k :: names d
      else k :: names (put key value d) := by
  rw [put]
  split
  · rfl
  · split <;> rfl

theorem Ascending.put (h : d.Ascending) (key : String) (value : β) :
    (put key value d).Ascending := by
  induction d with
  | nil => exact List.pairwise_singleton _ _
  | cons e rest ih =>
      obtain ⟨k, v⟩ := e
      obtain ⟨hk, hrest⟩ := List.pairwise_cons.mp h
      rw [Ascending, names_put_cons]
      split
      · next heq => exact heq ▸ h
      · next hne =>
          split
          · next hlt =>
              refine List.pairwise_cons.mpr ⟨?_, h⟩
              intro other hother
              rcases List.mem_cons.mp hother with rfl | hmem
              · exact hlt
              · exact hlt.trans (hk other hmem)
          · next hge =>
              refine List.pairwise_cons.mpr ⟨?_, ih hrest⟩
              intro other hother
              rcases mem_names_put.mp hother with rfl | hmem
              · exact lt_of_le_of_ne (not_lt.mp hge) hne
              · exact hk other hmem

theorem Ascending.filter (h : d.Ascending) (p : String × β → Bool) :
    Ascending (List.filter p d) :=
  List.Pairwise.sublist (List.filter_sublist.map Prod.fst) h

/-- New values do not change the order. -/
theorem Ascending.map {γ : Type v} (h : d.Ascending) (f : String × β → γ) :
    Ascending (d.map fun e => (e.1, f e)) := by
  rw [Ascending, names, List.map_map]
  exact h

theorem Ascending.drop (h : d.Ascending) (key : String) : (drop key d).Ascending :=
  h.filter _

theorem ascending_ofEntries (entries : List (String × β)) : (ofEntries entries).Ascending := by
  suffices h : ∀ d : Dict β, d.Ascending →
      (entries.foldl (fun d e => Dict.put e.1 e.2 d) d).Ascending from
    h [] List.Pairwise.nil
  induction entries with
  | nil => exact fun _ hd => hd
  | cons e rest ih => exact fun d hd => ih _ (hd.put e.1 e.2)

theorem eq_or_mem_of_mem_put {e : String × β} (h : e ∈ put key value d) :
    e = (key, value) ∨ e ∈ d := by
  induction d with
  | nil => exact .inl (List.mem_singleton.mp h)
  | cons f rest ih =>
      obtain ⟨k, v⟩ := f
      rw [put] at h
      split at h
      · exact (List.mem_cons.mp h).imp_right (List.mem_cons_of_mem _)
      · split at h
        · exact List.mem_cons.mp h
        · rcases List.mem_cons.mp h with rfl | hlater
          · exact .inr List.mem_cons_self
          · exact (ih hlater).imp_right (List.mem_cons_of_mem _)

theorem mem_of_mem_ofEntries {entries : List (String × β)} {e : String × β}
    (h : e ∈ ofEntries entries) : e ∈ entries := by
  suffices hfold : ∀ d : Dict β, e ∈ entries.foldl (fun d e => put e.1 e.2 d) d →
      e ∈ entries ∨ e ∈ d from (hfold [] h).resolve_right List.not_mem_nil
  clear h
  induction entries with
  | nil => exact fun _ hd => .inr hd
  | cons f rest ih =>
      intro d hd
      rcases ih _ hd with hrest | hput
      · exact .inl (List.mem_cons_of_mem f hrest)
      · rcases eq_or_mem_of_mem_put hput with rfl | hmem
        · exact .inl List.mem_cons_self
        · exact .inr hmem

/-- Nothing is lost where no key comes twice. -/
theorem mem_ofEntries {entries : List (String × β)} (h : (entries.map Prod.fst).Nodup)
    {e : String × β} (he : e ∈ entries) : e ∈ ofEntries entries := by
  suffices hfold : ∀ d : Dict β, find? d e.1 = some e.2 ∨ e ∈ entries →
      (∀ f ∈ entries, f.1 = e.1 → f = e) →
      find? (entries.foldl (fun d e => put e.1 e.2 d) d) e.1 = some e.2 from
    mem_of_find? (hfold [] (.inr he) fun f hf hkey => List.inj_on_of_nodup_map h hf he hkey)
  clear h he
  induction entries with
  | nil => exact fun _ hd _ => hd.resolve_right List.not_mem_nil
  | cons f rest ih =>
      intro d hd honly
      obtain ⟨hf, hrest⟩ := List.forall_mem_cons.mp honly
      refine ih _ ?_ hrest
      by_cases hkey : f.1 = e.1
      · left
        rw [hf hkey, find?_put_self]
      · rw [find?_put_of_ne hkey]
        exact hd.imp_right fun he => (List.mem_cons.mp he).resolve_left (by rintro rfl; exact hkey rfl)

/-- The entries of a dictionary make it up in any order. -/
theorem Ascending.ofEntries_perm {entries : List (String × β)} (h : d.Ascending)
    (hperm : entries.Perm d) : ofEntries entries = d := by
  refine Ascending.eq_of_mem_iff (ascending_ofEntries entries) h fun e => ?_
  have hnodup : (entries.map Prod.fst).Nodup :=
    (hperm.map Prod.fst).nodup_iff.mpr (Roll.Ascending.nodup h)
  exact ⟨fun he => hperm.mem_iff.mp (mem_of_mem_ofEntries he),
    fun he => mem_ofEntries hnodup (hperm.mem_iff.mpr he)⟩

/-- Where no key comes twice, look-up does not mind the order of entries. -/
theorem find?_perm {entries entries' : List (String × β)} (h : (entries.map Prod.fst).Nodup)
    (hperm : entries.Perm entries') (key : String) : find? entries key = find? entries' key := by
  have h' : (entries'.map Prod.fst).Nodup := (hperm.map Prod.fst).nodup_iff.mp h
  ext value
  exact ⟨fun hfind => find?_of_mem h' (hperm.mem_iff.mp (mem_of_find? hfind)),
    fun hfind => find?_of_mem h (hperm.mem_iff.mpr (mem_of_find? hfind))⟩

/-- Where no key comes twice, entries make up one dictionary in any order. -/
theorem ofEntries_perm {entries entries' : List (String × β)} (h : (entries.map Prod.fst).Nodup)
    (hperm : entries.Perm entries') : ofEntries entries = ofEntries entries' := by
  have h' : (entries'.map Prod.fst).Nodup := (hperm.map Prod.fst).nodup_iff.mp h
  refine Ascending.eq_of_mem_iff (ascending_ofEntries _) (ascending_ofEntries _) fun e => ?_
  exact ⟨fun he => mem_ofEntries h' (hperm.mem_iff.mp (mem_of_mem_ofEntries he)),
    fun he => mem_ofEntries h (hperm.mem_iff.mpr (mem_of_mem_ofEntries he))⟩

/-- A key beyond all others goes to the end. -/
theorem put_concat (h : ∀ name ∈ names d, name < key) :
    put key value d = d ++ [(key, value)] := by
  induction d with
  | nil => rfl
  | cons e rest ih =>
      obtain ⟨k, v⟩ := e
      have hk : k < key := h k List.mem_cons_self
      rw [put, if_neg (ne_of_lt hk), if_neg (lt_asymm hk),
        ih fun name hname => h name (List.mem_cons_of_mem k hname)]
      rfl

/-- Entries that are ascending already are a dictionary. -/
theorem ofEntries_eq_self {entries : List (String × β)} (h : Ascending entries) :
    ofEntries entries = entries := by
  suffices hfold : ∀ d : Dict β, Ascending (d ++ entries) →
      entries.foldl (fun d e => put e.1 e.2 d) d = d ++ entries from hfold [] h
  clear h
  induction entries with
  | nil => exact fun d _ => (List.append_nil d).symm
  | cons e rest ih =>
      intro d hd
      have hbeyond : ∀ name ∈ names d, name < e.1 := by
        rw [Ascending, Roll.Ascending, names, List.map_append, List.pairwise_append] at hd
        intro name hname
        exact hd.2.2 name hname e.1 List.mem_cons_self
      rw [List.append_cons] at hd ⊢
      rw [List.foldl_cons, put_concat hbeyond, ih _ hd]

theorem put_map {γ : Type v} (f : β → γ) (key : String) (value : β) (d : Dict β) :
    put key (f value) (d.map fun e => (e.1, f e.2)) =
      (put key value d).map fun e => (e.1, f e.2) := by
  induction d with
  | nil => rfl
  | cons e rest ih =>
      obtain ⟨k, v⟩ := e
      rw [List.map_cons, put, put]
      split
      · rfl
      · split
        · rfl
        · rw [ih, List.map_cons]

/-- The values may be changed before the entries are put in order, or after. -/
theorem ofEntries_map {γ : Type v} (f : β → γ) (entries : List (String × β)) :
    ofEntries (entries.map fun e => (e.1, f e.2)) =
      (ofEntries entries).map fun e => (e.1, f e.2) := by
  suffices hfold : ∀ d : Dict β, (entries.map fun e => (e.1, f e.2)).foldl
      (fun d e => put e.1 e.2 d) (d.map fun e => (e.1, f e.2)) =
        (entries.foldl (fun d e => put e.1 e.2 d) d).map fun e => (e.1, f e.2) from hfold []
  induction entries with
  | nil => exact fun _ => rfl
  | cons e rest ih =>
      intro d
      have hput := put_map f e.1 e.2 d
      rw [List.map_cons, List.foldl_cons, List.foldl_cons, hput, ih]

end Dict

end Tether
