import Tether.Proofs.Plugin.Registered

/-!
# What this side announces and what it accepts

A registry is used twice when a peer shows up. What all plugins together receive and send
is announced to the peer, and of what the peer announces each plugin is asked on its own
whether it is of any use. Between the two the directions cross: what a plugin receives
has to be among what the peer sends.

Both are read off the plugins that are registered, and which these are is a question for
each key alone: the first registration stands until the key is given up (`registrant`).
So nothing is asked of the descriptions here, and a registry only has to be in order.
-/

namespace Tether.Plugin

/-- What is done to the plugins there are. -/
inductive Call where
  | register (i : Info)
  | unregister (key : String)
deriving DecidableEq, Repr

namespace Call

/-- The plugin under a key after a call, given the one before it. -/
def settle (key : String) : Option Info → Call → Option Info
  | some i, .register _ => some i
  | none, .register i => if i.key = key then some i else none
  | held, .unregister other => if other = key then none else held

end Call

/-- The plugin that a list of calls leaves under a key: the first to be registered there
since the key was last given up. -/
def registrant (key : String) (calls : List Call) : Option Info :=
  calls.foldl (Call.settle key) none

namespace Registry

/-- The registry after a call. A registration that is refused leaves it as it is. -/
def apply (r : Registry) : Call → Registry
  | .register i =>
      match r.register i with
      | .ok r' => r'
      | .error _ => r
  | .unregister key => (r.unregister key).2

/-- The registry after a list of calls. -/
def run (r : Registry) (calls : List Call) : Registry :=
  calls.foldl apply r

variable {r : Registry}

theorem register_taken {i : Info} (h : (Dict.find? r i.key).isSome) :
    r.register i =
      .error (.plugin ("Plugin factory '" ++ i.key ++ "' is already registered")) :=
  if_pos h

theorem register_free {i : Info} (h : Dict.find? r i.key = none) :
    r.register i = .ok (Dict.put i.key i r) :=
  if_neg (by rw [Dict.has, h]; decide)

theorem apply_taken {i : Info} (h : (Dict.find? r i.key).isSome) : r.apply (.register i) = r := by
  rw [apply, register_taken h]

theorem apply_free {i : Info} (h : Dict.find? r i.key = none) :
    r.apply (.register i) = Dict.put i.key i r := by
  rw [apply, register_free h]

theorem ascending_apply (h : Dict.Ascending r) (call : Call) :
    Dict.Ascending (r.apply call) := by
  cases call with
  | register i =>
      cases hfind : Dict.find? r i.key with
      | some j => rwa [apply_taken (by rw [hfind]; rfl)]
      | none =>
          rw [apply_free hfind]
          exact h.put i.key i
  | unregister key => exact h.drop key

/-- A call settles each key on its own. -/
theorem find?_apply (r : Registry) (call : Call) (key : String) :
    Dict.find? (r.apply call) key = call.settle key (Dict.find? r key) := by
  cases call with
  | register i =>
      cases htaken : Dict.find? r i.key with
      | some j =>
          rw [apply_taken (by rw [htaken]; rfl)]
          cases hfind : Dict.find? r key with
          | some held => rfl
          | none =>
              have hne : i.key ≠ key := by
                rintro rfl
                rw [htaken] at hfind
                cases hfind
              exact (if_neg hne).symm
      | none =>
          rw [apply_free htaken]
          by_cases heq : i.key = key
          · subst heq
            rw [Dict.find?_put_self, htaken]
            exact (if_pos rfl).symm
          · rw [Dict.find?_put_of_ne heq]
            cases hfind : Dict.find? r key with
            | some held => rfl
            | none => exact (if_neg heq).symm
  | unregister other =>
      have hlater : Dict.find? (Dict.drop other r) key =
          if other = key then none else Dict.find? r key := by
        split
        · next heq => rw [heq, Dict.find?_drop_self]
        · next hne => exact Dict.find?_drop_of_ne hne r
      rw [apply, unregister, hlater]
      cases Dict.find? r key <;> rfl

theorem ascending_run (h : Dict.Ascending r) (calls : List Call) :
    Dict.Ascending (r.run calls) := by
  induction calls generalizing r with
  | nil => exact h
  | cons call rest ih => exact ih (ascending_apply h call)

theorem find?_run (r : Registry) (calls : List Call) (key : String) :
    Dict.find? (r.run calls) key = calls.foldl (Call.settle key) (Dict.find? r key) := by
  induction calls generalizing r with
  | nil => rfl
  | cons call rest ih =>
      have hrest := ih (r.apply call)
      rw [find?_apply] at hrest
      exact hrest

theorem run_concat (r : Registry) (calls : List Call) (call : Call) :
    r.run (calls ++ [call]) = (r.run calls).apply call := by
  rw [run, List.foldl_append]
  rfl

/-- Starting from no plugins, the registry holds the registrants. -/
theorem find?_calls (calls : List Call) (key : String) :
    Dict.find? (run [] calls) key = registrant key calls :=
  find?_run [] calls key

theorem ascending_calls (calls : List Call) : Dict.Ascending (run [] calls) :=
  have hnone : Dict.Ascending ([] : Registry) := List.Pairwise.nil
  ascending_run hnone calls

/-! ## What is announced -/

theorem mem_values_iff (h : Dict.Ascending r) {i : Info} :
    i ∈ r.values ↔ ∃ key, Dict.find? r key = some i := by
  simp only [Dict.values, List.mem_map, Prod.exists, exists_eq_right]
  exact exists_congr fun key => h.find?_iff.symm

theorem mem_gathered_iff (h : Dict.Ascending r) (types : Info → Roll) {type : String} :
    type ∈ Roll.ofList (r.values.flatMap types) ↔
      ∃ key i, Dict.find? r key = some i ∧ type ∈ types i := by
  rw [Roll.mem_ofList, List.mem_flatMap]
  constructor
  · rintro ⟨i, hi, htype⟩
    obtain ⟨key, hkey⟩ := (mem_values_iff h).mp hi
    exact ⟨key, i, hkey, htype⟩
  · rintro ⟨key, i, hkey, htype⟩
    exact ⟨i, (mem_values_iff h).mpr ⟨key, hkey⟩, htype⟩

theorem mem_incoming_iff (h : Dict.Ascending r) {type : String} :
    type ∈ r.incoming ↔ ∃ key i, Dict.find? r key = some i ∧ type ∈ i.incoming :=
  mem_gathered_iff h Info.incoming

theorem mem_outgoing_iff (h : Dict.Ascending r) {type : String} :
    type ∈ r.outgoing ↔ ∃ key i, Dict.find? r key = some i ∧ type ∈ i.outgoing :=
  mem_gathered_iff h Info.outgoing

end Registry

/-! ## What is accepted -/

theorem Info.isSupportedBy_mono {i : Info} {peerIncoming peerOutgoing moreIncoming
    moreOutgoing : Roll} (hincoming : peerIncoming ⊆ moreIncoming)
    (houtgoing : peerOutgoing ⊆ moreOutgoing)
    (h : i.isSupportedBy peerIncoming peerOutgoing = true) :
    i.isSupportedBy moreIncoming moreOutgoing = true := by
  rcases i.isSupportedBy_iff _ _ |>.mp h with hnone | ⟨type, hin, hout⟩ | ⟨type, hout, hin⟩
  · exact (i.isSupportedBy_iff _ _).mpr (.inl hnone)
  · exact (i.isSupportedBy_iff _ _).mpr (.inr (.inl ⟨type, hin, houtgoing hout⟩))
  · exact (i.isSupportedBy_iff _ _).mpr (.inr (.inr ⟨type, hout, hincoming hin⟩))

/-- A plugin with types is supported through one of them only. -/
theorem Info.isSupportedBy_typed {i : Info} (h : i.incoming ≠ [] ∨ i.outgoing ≠ [])
    (peerIncoming peerOutgoing : Roll) :
    i.isSupportedBy peerIncoming peerOutgoing = true ↔
      (∃ type ∈ i.incoming, type ∈ peerOutgoing) ∨ ∃ type ∈ i.outgoing, type ∈ peerIncoming := by
  rw [isSupportedBy_iff, or_iff_right]
  rintro ⟨hincoming, houtgoing⟩
  exact h.elim (· hincoming) (· houtgoing)

namespace Registry

variable {r : Registry}

/-- Every registered plugin is supported by a peer that mirrors this side. -/
theorem mirrored (h : Dict.Ascending r) {key : String} {i : Info}
    (hi : Dict.find? r key = some i) : i.isSupportedBy r.outgoing r.incoming = true := by
  rw [Info.isSupportedBy_iff]
  cases hincoming : i.incoming with
  | cons type rest =>
      have htype : type ∈ i.incoming := by rw [hincoming]; exact List.mem_cons_self
      exact .inr (.inl ⟨type, List.mem_cons_self, (mem_incoming_iff h).mpr ⟨key, i, hi, htype⟩⟩)
  | nil =>
      cases houtgoing : i.outgoing with
      | cons type rest =>
          have htype : type ∈ i.outgoing := by rw [houtgoing]; exact List.mem_cons_self
          exact .inr (.inr ⟨type, List.mem_cons_self, (mem_outgoing_iff h).mpr ⟨key, i, hi, htype⟩⟩)
      | nil => exact .inl ⟨rfl, rfl⟩

end Registry

/-- A key stays with the plugin that has it, and whoever else wants it is refused. Of the
plugins that are registered after any calls, those without types are of use with every
peer, and the others with the peers that send what they receive or receive what they send;
announcing more loses none of them. A peer that receives all that this side announces to
send, and sends all that this side announces to receive, supports all of them. -/
theorem negotiated (calls : List Call) :
    (∀ key, Dict.find? (Registry.run [] calls) key = registrant key calls) ∧
      (∀ i, (registrant i.key calls).isSome →
        (Registry.run [] calls).register i =
            .error (.plugin ("Plugin factory '" ++ i.key ++ "' is already registered")) ∧
          Registry.run [] (calls ++ [.register i]) = Registry.run [] calls) ∧
      (∀ peerIncoming peerOutgoing moreIncoming moreOutgoing : Roll,
        peerIncoming ⊆ moreIncoming → peerOutgoing ⊆ moreOutgoing →
        (Registry.run [] calls).forCapabilities peerIncoming peerOutgoing ⊆
          (Registry.run [] calls).forCapabilities moreIncoming moreOutgoing) ∧
      (∀ (peerIncoming peerOutgoing : Roll) (key : String),
        key ∈ (Registry.run [] calls).forCapabilities peerIncoming peerOutgoing →
          (registrant key calls).isSome) ∧
      (∀ (peerIncoming peerOutgoing : Roll) (key : String) (i : Info),
        registrant key calls = some i → i.incoming = [] → i.outgoing = [] →
        key ∈ (Registry.run [] calls).forCapabilities peerIncoming peerOutgoing) ∧
      (∀ (peerIncoming peerOutgoing : Roll) (key : String) (i : Info),
        registrant key calls = some i → i.incoming ≠ [] ∨ i.outgoing ≠ [] →
        (key ∈ (Registry.run [] calls).forCapabilities peerIncoming peerOutgoing ↔
          (∃ type ∈ i.incoming, type ∈ peerOutgoing) ∨
            ∃ type ∈ i.outgoing, type ∈ peerIncoming)) ∧
      ∀ (key : String) (i : Info), registrant key calls = some i →
        key ∈ (Registry.run [] calls).forCapabilities
          (Registry.run [] calls).outgoing (Registry.run [] calls).incoming := by
  have hfind := Registry.find?_calls calls
  have hascending := Registry.ascending_calls calls
  have husable : ∀ {peerIncoming peerOutgoing key},
      key ∈ (Registry.run [] calls).forCapabilities peerIncoming peerOutgoing ↔
        ∃ i, registrant key calls = some i ∧
          i.isSupportedBy peerIncoming peerOutgoing = true := by
    intro peerIncoming peerOutgoing key
    rw [Registry.mem_forCapabilities_iff hascending, hfind]
  have hown : ∀ {peerIncoming peerOutgoing key i}, registrant key calls = some i →
      (key ∈ (Registry.run [] calls).forCapabilities peerIncoming peerOutgoing ↔
        i.isSupportedBy peerIncoming peerOutgoing = true) := by
    intro peerIncoming peerOutgoing key i hi
    rw [husable, hi]
    simp
  refine ⟨hfind, ?_, ?_, ?_, ?_, ?_, ?_⟩
  · intro i hi
    rw [← hfind] at hi
    exact ⟨Registry.register_taken hi, by rw [Registry.run_concat, Registry.apply_taken hi]⟩
  · intro peerIncoming peerOutgoing moreIncoming moreOutgoing hincoming houtgoing key hkey
    obtain ⟨i, hi, hsupported⟩ := husable.mp hkey
    exact husable.mpr ⟨i, hi, Info.isSupportedBy_mono hincoming houtgoing hsupported⟩
  · intro peerIncoming peerOutgoing key hkey
    obtain ⟨i, hi, -⟩ := husable.mp hkey
    rw [hi]
    rfl
  · intro peerIncoming peerOutgoing key i hi hincoming houtgoing
    exact (hown hi).mpr ((i.isSupportedBy_iff _ _).mpr (.inl ⟨hincoming, houtgoing⟩))
  · intro peerIncoming peerOutgoing key i hi htyped
    rw [hown hi, Info.isSupportedBy_typed htyped]
  · intro key i hi
    exact (hown hi).mpr (Registry.mirrored hascending (by rw [hfind, hi]))

/-- Two plugins want one key, and a third is given up again. What one receives is of no use to
a peer that receives it too. -/
theorem negotiated_across :
    let ring : Info := { key := "ring", name := "Ring", incoming := ["ping"] }
    let bell : Info := { key := "ring", name := "Bell", outgoing := ["ping"] }
    let news : Info := { key := "news", name := "News", outgoing := ["news"] }
    let idle : Info := { key := "idle", name := "Idle" }
    let calls : List Call :=
      [.register ring, .register bell, .register news, .register idle, .unregister "news"]
    let r := Registry.run [] calls
    r.register bell =
        .error (.plugin ("Plugin factory '" ++ "ring" ++ "' is already registered")) ∧
      "ring" ∈ r.forCapabilities ["news"] ["ping", "news"] ∧
      "ring" ∉ r.forCapabilities ["ping"] [] ∧
      "news" ∉ r.forCapabilities ["news"] ["news"] ∧
      "idle" ∈ r.forCapabilities [] [] ∧
      "ring" ∈ r.forCapabilities r.outgoing r.incoming := by
  intro ring bell news idle calls r
  have hring : registrant "ring" calls = some ring := by decide
  have htyped : ring.incoming ≠ [] ∨ ring.outgoing ≠ [] := .inl (by decide)
  obtain ⟨-, htaken, hmore, hknown, hidle, hshared, hmirrored⟩ := negotiated calls
  refine ⟨(htaken bell (by decide)).1, ?_, fun hping => ?_, fun hnews => ?_, ?_, ?_⟩
  · have hfew : "ring" ∈ r.forCapabilities [] ["ping"] :=
      (hshared [] ["ping"] "ring" ring hring htyped).mpr (.inl ⟨"ping", by decide, by decide⟩)
    exact hmore [] ["ping"] ["news"] ["ping", "news"] (by decide) (by decide) hfew
  · have hmeets := (hshared ["ping"] [] "ring" ring hring htyped).mp hping
    revert hmeets
    decide
  · have hregistered := hknown ["news"] ["news"] "news" hnews
    revert hregistered
    decide
  · exact hidle [] [] "idle" idle (by decide) rfl rfl
  · exact hmirrored "ring" ring hring

end Tether.Plugin
