import Mathlib.Data.List.Induction
import Tether.Proofs.Env.Alike
import Tether.Proofs.Plugin.Bench
import Tether.Proofs.Plugin.Standing

/-!
# Instances that lack something

What a roster says of instances that lack something should agree with what is at work: those
that lack what they cannot work without are not at work, and those that lack something they can
work without are. The first holds after any reloads. The second does not, and neither does it
hold that whoever is found not to fit in here is forgotten. Two entries can be left over.

An instance at work that was entered as lacking something may be found unfit to stay. It ends,
and its entry stays (`Lapsed`). Nothing looks at it again until the plugin is started anew or is
not wanted any more, or until everything is cleared.

An instance that lacks what it cannot work without is kept, and the next reload makes another
one in its place. If there is none, or the new one does not fit in here, the old one is still
there (`LeftInert`), though nobody asked it.

These are all there are (`lacking_or_left`). The invariant for it is `Accounted`: whoever is
entered as lacking something is at work itself, or lapsed.
-/

namespace Tether

open Plugin

namespace Plugin

variable {conducts : String → Conduct} {c : Candidate} {s s' : Standing} {i : Instance}

/-- Whether a candidate is found not to fit in here: its instance at work, or else a new one. -/
def Candidate.foundIncompatible (c : Candidate) (conducts : String → Conduct) :
    Option Instance → Bool
  | some i => c.enable && !(conducts i.maker).compatible
  | none => c.enable && (conducts c.maker).creates && !(conducts c.maker).compatible

theorem Judged.inert_of_atWork (h : Judged conducts c s s')
    (hs : s.atWork.isSome → s.inert = none) (hs' : s'.atWork.isSome) : s'.inert = none := by
  cases h with
  | kept enable old => exact hs (by rw [old]; rfl)
  | begun => rfl
  | _ => simp_all

/-- Who is entered as lacking something is at work, or was entered before. -/
theorem Judged.lacking_cases (h : Judged conducts c s s') (hi : s'.lacking = some i) :
    s'.atWork = some i ∨ s'.atWork = none ∧ s.lacking = some i ∧
      (s.atWork = none ∨ c.enable = true ∧ ∃ j, s.atWork = some j ∧
        ((conducts j.maker).compatible = false ∨ (conducts j.maker).hasRequired = false)) := by
  have hlacking : ∀ {conduct : Conduct} {j : Instance}, conduct.lacking? j = some i → j = i := by
    intro conduct j hj
    rw [Conduct.lacking?] at hj
    split at hj
    · cases hj
    · exact Option.some.inj hj
  cases h with
  | unwanted => cases hi
  | unfit enable old compatible =>
      exact .inr ⟨rfl, hi, .inr ⟨enable, _, old, .inl compatible⟩⟩
  | demoted enable old compatible required =>
      exact .inr ⟨rfl, hi, .inr ⟨enable, _, old, .inr required⟩⟩
  | kept enable old => exact .inl (hlacking hi ▸ old)
  | unmade enable old => exact .inr ⟨old, hi, .inl old⟩
  | unsuited enable old => exact .inr ⟨old, hi, .inl old⟩
  | inert enable old => exact .inr ⟨old, hi, .inl old⟩
  | begun => exact .inl (hlacking hi ▸ rfl)
  | failed => cases hi

/-- Who lacks what it cannot work without was found so, or was there before and nobody took its
place. -/
theorem Judged.inert_cases (h : Judged conducts c s s')
    (hs : s.atWork.isSome → s.inert = none) (hi : s'.inert = some i) :
    s'.atWork = none ∧ c.enable = true ∧
      ((conducts i.maker).compatible = true ∧ (conducts i.maker).hasRequired = false ∨
        s.atWork = none ∧ s.inert = some i ∧
          ((conducts c.maker).creates = false ∨ (conducts c.maker).compatible = false)) := by
  have hkept : ∀ j, s.atWork = some j → s.inert ≠ some i := by
    intro j hj hinert
    rw [hs (by rw [hj]; rfl)] at hinert
    cases hinert
  cases h with
  | unwanted => cases hi
  | unfit enable old => exact absurd hi (hkept _ old)
  | demoted enable old compatible required =>
      cases hi
      exact ⟨rfl, enable, .inl ⟨compatible, required⟩⟩
  | kept enable old => exact absurd hi (hkept _ old)
  | unmade enable old creates => exact ⟨old, enable, .inr ⟨old, hi, .inl creates⟩⟩
  | unsuited enable old creates compatible =>
      exact ⟨old, enable, .inr ⟨old, hi, .inr compatible⟩⟩
  | inert enable old maker compatible required =>
      cases hi
      rw [maker]
      exact ⟨old, enable, .inl ⟨compatible, required⟩⟩
  | begun => cases hi
  | failed => cases hi

/-- Who is found not to fit in here is not at work, and is neither entered nor struck as lacking
what it cannot work without. -/
theorem Judged.of_foundIncompatible (h : Judged conducts c s s')
    (hfound : c.foundIncompatible conducts s.atWork = true) :
    s'.atWork = none ∧ s'.inert = s.inert := by
  cases h with
  | unfit => exact ⟨rfl, rfl⟩
  | unmade enable old => exact ⟨old, rfl⟩
  | unsuited enable old => exact ⟨old, rfl⟩
  | unwanted enable =>
      cases hold : s.atWork <;> simp [hold, Candidate.foundIncompatible, enable] at hfound
  | demoted _ old compatible => simp [old, Candidate.foundIncompatible, compatible] at hfound
  | kept _ old compatible => simp [old, Candidate.foundIncompatible, compatible] at hfound
  | inert _ old _ compatible => simp [old, Candidate.foundIncompatible, compatible] at hfound
  | begun _ old _ compatible => simp [old, Candidate.foundIncompatible, compatible] at hfound
  | failed _ old compatible => simp [old, Candidate.foundIncompatible, compatible] at hfound

end Plugin

namespace Bench

/-- In one call no key comes twice. -/
def Turn.Distinct : Turn → Prop
  | .reload _ candidates => (candidates.map Candidate.key).Nodup
  | _ => True

instance (t : Turn) : Decidable t.Distinct :=
  match t with
  | .reload _ _ => inferInstanceAs (Decidable (List.Nodup _))
  | .clear => .isTrue trivial
  | .meanwhile _ _ _ => .isTrue trivial

/-- What is held under a key. -/
def standing (b : Bench) (key : String) : Standing :=
  b.roster.standing key

/-- A reload found an instance at work unfit to stay, which was entered as lacking something. It
has been entered ever since, with nothing at work under its key. -/
def Lapsed (start : Bench) (turns : List Turn) (key : String) (i : Instance) : Prop :=
  ∃ earlier owner cs later c, turns = earlier ++ .reload owner cs :: later ∧
    c ∈ cs ∧ c.key = key ∧ c.enable = true ∧
    ((start.run earlier).standing key).atWork = some i ∧
    ((start.run earlier).standing key).lacking = some i ∧
    (((start.run earlier).env.conducts i.maker).compatible = false ∨
      ((start.run earlier).env.conducts i.maker).hasRequired = false) ∧
    ∀ since, since <+: later →
      ((start.run (earlier ++ .reload owner cs :: since)).standing key).atWork = none ∧
      ((start.run (earlier ++ .reload owner cs :: since)).standing key).lacking = some i

/-- An instance lacked what it cannot work without before a reload that made none in its place, or
one that does not fit in here. -/
def LeftInert (old : Bench) (c : Candidate) (i : Instance) : Prop :=
  (old.standing c.key).atWork = none ∧ (old.standing c.key).inert = some i ∧
    ((old.env.conducts c.maker).creates = false ∨ (old.env.conducts c.maker).compatible = false)

variable {start b : Bench} {turns : List Turn} {t : Turn} {key : String} {i : Instance}

theorem run_concat (start : Bench) (turns : List Turn) (t : Turn) :
    start.run (turns ++ [t]) = (start.run turns).turn t :=
  List.foldl_concat ..

theorem standing_turn (b : Bench) (ht : t.Distinct) (key : String) :
    (b.turn t).standing key = b.standing key ∨ (b.turn t).standing key = {} ∨
      ∃ owner cs c, t = .reload owner cs ∧ c ∈ cs ∧ c.key = key ∧
        Judged b.env.conducts c (b.standing key) ((b.turn t).standing key) := by
  cases t with
  | reload owner cs =>
      obtain ⟨hjudged, hothers⟩ := b.roster.judged_reload ⟨b.env.makers, []⟩ owner ht
      by_cases hkey : key ∈ cs.map Candidate.key
      · obtain ⟨c, hc, rfl⟩ := List.mem_map.mp hkey
        exact .inr (.inr ⟨owner, cs, c, rfl, hc, rfl, hjudged c hc⟩)
      · have hother : (b.turn (.reload owner cs)).standing key = _ := hothers key hkey
        split at hother
        · exact .inr (.inl hother)
        · exact .inl hother
  | clear => exact .inr (.inl rfl)
  | meanwhile => exact .inl rfl

theorem Lapsed.concat (h : Lapsed start turns key i)
    (hnone : ((start.run (turns ++ [t])).standing key).atWork = none)
    (hi : ((start.run (turns ++ [t])).standing key).lacking = some i) :
    Lapsed start (turns ++ [t]) key i := by
  obtain ⟨earlier, owner, cs, later, c, rfl, hc, hkey, henable, hold, hlacking, hunfit, hsince⟩ := h
  rw [List.append_assoc, List.cons_append] at hnone hi
  refine ⟨earlier, owner, cs, later ++ [t], c, by simp, hc, hkey, henable, hold, hlacking, hunfit,
    ?_⟩
  intro since hprefix
  rcases List.prefix_concat_iff.mp hprefix with rfl | hprefix
  · exact ⟨hnone, hi⟩
  · exact hsince since hprefix

/-- Who is at work does not lack what it cannot work without, and who is entered as lacking
something else is at work or lapsed. -/
structure Accounted (start : Bench) (turns : List Turn) : Prop where
  inert : ∀ key, ((start.run turns).standing key).atWork.isSome →
    ((start.run turns).standing key).inert = none
  lacking : ∀ key i, ((start.run turns).standing key).lacking = some i →
    ((start.run turns).standing key).atWork = some i ∨
      ((start.run turns).standing key).atWork = none ∧ Lapsed start turns key i

theorem accounted_start (env : Env) : Accounted { env } [] :=
  ⟨fun _ _ => rfl, nofun⟩

theorem Accounted.concat (h : Accounted start turns) (ht : t.Distinct) :
    Accounted start (turns ++ [t]) := by
  have hturn := run_concat start turns t
  have hlapsed : ∀ key i, ((start.run (turns ++ [t])).standing key).atWork = none →
      ((start.run (turns ++ [t])).standing key).lacking = some i →
      ((start.run turns).standing key).atWork = none →
      ((start.run turns).standing key).lacking = some i → Lapsed start (turns ++ [t]) key i := by
    intro key i hnone hi hold hlacking
    rcases h.lacking key i hlacking with hwork | ⟨-, hlapsed⟩
    · rw [hold] at hwork
      cases hwork
    · exact hlapsed.concat hnone hi
  refine ⟨?_, ?_⟩
  · intro key hwork
    rw [hturn] at hwork ⊢
    rcases (start.run turns).standing_turn ht key with hsame | hempty | ⟨_, _, c, -, -, -, hjudged⟩
    · rw [hsame] at hwork ⊢
      exact h.inert key hwork
    · rw [hempty]
    · exact hjudged.inert_of_atWork (h.inert key) hwork
  · intro key i hi
    rcases (start.run turns).standing_turn ht key with
      hsame | hempty | ⟨owner, cs, c, rfl, hc, hkey, hjudged⟩
    · rw [← hturn] at hsame
      rw [hsame] at hi ⊢
      refine (h.lacking key i hi).imp_right fun ⟨hnone, _⟩ => ⟨hnone, ?_⟩
      exact hlapsed key i (by rw [hsame, hnone]) (by rw [hsame, hi]) hnone hi
    · rw [hturn, hempty] at hi
      cases hi
    · rw [← hturn] at hjudged
      rcases hjudged.lacking_cases hi with hwork | ⟨hnone, hlacking, hbefore⟩
      · exact .inl hwork
      · refine .inr ⟨hnone, ?_⟩
        rcases hbefore with hidle | ⟨henable, j, hj, hunfit⟩
        · exact hlapsed key i hnone hi hidle hlacking
        · -- Only the instance at work can be the one that was entered.
          obtain rfl : j = i := by
            rcases h.lacking key i hlacking with hwork | ⟨hidle, -⟩
            · rw [hj] at hwork
              exact Option.some.inj hwork
            · rw [hj] at hidle
              cases hidle
          refine ⟨turns, owner, cs, [], c, rfl, hc, hkey, henable, hj, hlacking, hunfit, ?_⟩
          intro since hprefix
          rw [List.prefix_nil.mp hprefix]
          exact ⟨hnone, hi⟩

theorem accounted_run (env : Env) (hturns : ∀ t ∈ turns, t.Distinct) :
    Accounted { env } turns := by
  induction turns using List.reverseRecOn with
  | nil => exact accounted_start env
  | append_singleton turns t ih =>
      refine (ih fun u hu => hturns u (List.mem_append_left _ hu)).concat ?_
      exact hturns t (List.mem_append_right _ (List.mem_singleton_self t))

/-- After a reload, a plugin that is entered as lacking something it can work without is at work,
unless its instance lapsed. One that lacks what it cannot work without is not at work, the reload
was to put it to work, and it was found so, unless it was left from before. A plugin that was
found not to fit in here is nowhere, but for these two. -/
theorem lacking_or_left (makers : Dict Maker) (hturns : ∀ t ∈ turns, t.Distinct) (owner : Owner)
    {cs : List Candidate} (hcs : (cs.map Candidate.key).Nodup) :
    let start : Bench := { env := { makers } }
    let old := start.run turns
    let new := old.turn (.reload owner cs)
    (∀ key i, Dict.find? new.roster.withoutOptional key = some i →
      new.roster.plugin? key = some i ∨ new.roster.plugin? key = none ∧
        Lapsed start (turns ++ [.reload owner cs]) key i) ∧
    (∀ key i, Dict.find? new.roster.withoutPermissions key = some i →
      new.roster.plugin? key = none ∧ ∃ c ∈ cs, c.key = key ∧ c.enable = true ∧
        ((old.env.conducts i.maker).compatible = true ∧
          (old.env.conducts i.maker).hasRequired = false ∨ LeftInert old c i)) ∧
    ∀ c ∈ cs, c.foundIncompatible old.env.conducts (old.roster.plugin? c.key) = true →
      new.roster.plugin? c.key = none ∧
      (∀ i, Dict.find? new.roster.withoutPermissions c.key = some i → LeftInert old c i) ∧
      ∀ i, Dict.find? new.roster.withoutOptional c.key = some i →
        Lapsed start (turns ++ [.reload owner cs]) c.key i := by
  intro start old new
  have hold : Accounted start turns := accounted_run { makers } hturns
  have hdistinct : Turn.Distinct (.reload owner cs) := hcs
  have hnew : Accounted start (turns ++ [.reload owner cs]) := hold.concat hdistinct
  have hrun : start.run (turns ++ [.reload owner cs]) = new := run_concat ..
  obtain ⟨hjudged, hothers⟩ := old.roster.judged_reload ⟨old.env.makers, []⟩ owner hcs
  have hlacking : ∀ key i, (new.standing key).lacking = some i →
      (new.standing key).atWork = some i ∨ (new.standing key).atWork = none ∧
        Lapsed start (turns ++ [.reload owner cs]) key i := by
    rw [← hrun]
    exact hnew.lacking
  refine ⟨hlacking, ?_, ?_⟩
  · intro key i hi
    by_cases hkey : key ∈ cs.map Candidate.key
    · obtain ⟨c, hc, rfl⟩ := List.mem_map.mp hkey
      obtain ⟨hnone, henable, hfound⟩ := (hjudged c hc).inert_cases (hold.inert c.key) hi
      exact ⟨hnone, c, hc, rfl, henable, hfound⟩
    · -- Whoever no candidate stands for is stale.
      have hother : new.standing key = _ := hothers key hkey
      have hinert : (new.standing key).inert = some i := hi
      rw [hother] at hinert
      split at hinert
      · cases hinert
      · next hfresh =>
          rw [hinert] at hfresh
          exact absurd (.inr rfl) hfresh
  · intro c hc hfound
    obtain ⟨hnone, hsame⟩ := (hjudged c hc).of_foundIncompatible hfound
    refine ⟨hnone, ?_, ?_⟩
    · intro i hi
      have hinert : (old.standing c.key).inert = some i := hsame.symm.trans hi
      cases hatWork : (old.standing c.key).atWork with
      | some j =>
          have hsome : (old.standing c.key).atWork.isSome = true := by rw [hatWork]; rfl
          have hempty := hold.inert c.key hsome
          rw [show start.run turns = old from rfl, hinert] at hempty
          cases hempty
      | none =>
          rw [show old.roster.plugin? c.key = none from hatWork, Candidate.foundIncompatible,
            Bool.and_eq_true, Bool.not_eq_true'] at hfound
          exact ⟨hatWork, hinert, .inr hfound.2⟩
    · intro i hi
      rcases hlacking c.key i hi with hwork | ⟨-, hlapsed⟩
      · rw [show (new.standing c.key).atWork = none from hnone] at hwork
        cases hwork
      · exact hlapsed

/-- One plugin lapses. The instance of another one is left from before, when the new one does not
fit in here. -/
theorem lacking_or_left_both :
    let share : Candidate := ⟨"share", { key := "share", name := "Share" }, true⟩
    let sms : Candidate := ⟨"sms", { key := "sms", name := "SMS" }, true⟩
    let turns : List Turn :=
      [.meanwhile "share" { hasOptional := false } 0, .meanwhile "sms" { hasRequired := false } 0,
        .reload {} [share, sms],
        .meanwhile "share" { hasOptional := false, hasRequired := false } 0,
        .meanwhile "sms" { compatible := false } 0]
    (∀ t ∈ turns, t.Distinct) ∧ [share, sms].map Candidate.key = ["share", "sms"] ∧
      Lapsed {} (turns ++ [.reload {} [share, sms]]) "share" ⟨"share", "share", 1⟩ ∧
      LeftInert (run {} turns) sms ⟨"sms", "sms", 1⟩ := by
  intro share sms turns
  have hturns : ∀ t ∈ turns, t.Distinct := by decide
  have hcs : ([share, sms].map Candidate.key).Nodup := by decide
  obtain ⟨hlacking, -, hincompatible⟩ := lacking_or_left [] hturns {} hcs
  refine ⟨hturns, rfl, ?_, ?_⟩
  · rcases hlacking "share" ⟨"share", "share", 1⟩ (by decide) with hwork | ⟨-, hlapsed⟩
    · exact absurd hwork (by decide)
    · exact hlapsed
  · exact (hincompatible sms (by decide) (by decide)).2.1 ⟨"sms", "sms", 1⟩ (by decide)

/-- Entries that should be gone: nothing is at work, and one plugin is still entered as lacking
something it can work without, and one that was found not to fit in here as lacking something it
cannot work without. -/
theorem entered_though_gone :
    let share : Candidate := ⟨"share", { key := "share", name := "Share" }, true⟩
    let sms : Candidate := ⟨"sms", { key := "sms", name := "SMS" }, true⟩
    let old := run {} [.meanwhile "share" { hasOptional := false } 0,
      .meanwhile "sms" { hasRequired := false } 0, .reload {} [share, sms],
      .meanwhile "share" { hasOptional := false, compatible := false } 0,
      .meanwhile "sms" { hasRequired := false, compatible := false } 0]
    let new := old.turn (.reload {} [share, sms])
    new.roster.loaded.names = [] ∧ new.roster.withoutOptional.names = ["share"] ∧
      new.roster.withoutPermissions.names = ["sms"] ∧
      share.foundIncompatible old.env.conducts (old.roster.plugin? "share") = true ∧
      sms.foundIncompatible old.env.conducts (old.roster.plugin? "sms") = true := by
  decide

end Bench

end Tether
