import Tether.Plugin.Registry
import Tether.Plugin.Roster
import Tether.Proofs.Dict.Order

/-!
# Registries that there can be

A registry is a dictionary like any other, but only registrations make one. What is
registered stands under its own key, the keys are in order, and the types of a plugin are
rolls. All that follows about devices needs of a registry is that (`Formed`), and every
registry that can be made has it (`Built.formed`).

Which plugins are of use with a peer, and which are given a packet, are questions about
descriptions, so they are answered here, by membership.
-/

namespace Tether.Plugin

theorem Info.isSupportedBy_iff (i : Info) (peerIncoming peerOutgoing : Roll) :
    i.isSupportedBy peerIncoming peerOutgoing = true ↔
      i.incoming = [] ∧ i.outgoing = [] ∨ (∃ type ∈ i.incoming, type ∈ peerOutgoing) ∨
        ∃ type ∈ i.outgoing, type ∈ peerIncoming := by
  simp [isSupportedBy, Roll.meets, or_assoc]

namespace Registry

/-- The registries that registrations lead to. -/
inductive Built : Registry → Prop where
  | empty : Built []
  | register {r r' : Registry} {i : Info} (h : Built r) (hincoming : i.incoming.Ascending)
      (houtgoing : i.outgoing.Ascending) (hr : r.register i = .ok r') : Built r'
  | unregister {r : Registry} (h : Built r) (key : String) : Built (r.unregister key).2

/-- Descriptions stand in order, each under its own key. -/
structure Formed (r : Registry) : Prop where
  ascending : Dict.Ascending r
  key : ∀ key i, Dict.find? r key = some i → i.key = key
  incoming : ∀ key i, Dict.find? r key = some i → i.incoming.Ascending
  outgoing : ∀ key i, Dict.find? r key = some i → i.outgoing.Ascending

variable {r r' : Registry}

theorem Formed.put (h : r.Formed) {i : Info} (hincoming : i.incoming.Ascending)
    (houtgoing : i.outgoing.Ascending) : Formed (Dict.put i.key i r) := by
  have hentry : ∀ key j, Dict.find? (Dict.put i.key i r) key = some j →
      key = i.key ∧ j = i ∨ Dict.find? r key = some j := by
    intro key j hj
    by_cases heq : i.key = key
    · subst heq
      rw [Dict.find?_put_self] at hj
      exact .inl ⟨rfl, (Option.some.inj hj).symm⟩
    · rw [Dict.find?_put_of_ne heq] at hj
      exact .inr hj
  refine ⟨h.ascending.put i.key i, ?_, ?_, ?_⟩ <;> intro key j hj <;>
    rcases hentry key j hj with ⟨rfl, rfl⟩ | hold
  · rfl
  · exact h.key key j hold
  · exact hincoming
  · exact h.incoming key j hold
  · exact houtgoing
  · exact h.outgoing key j hold

theorem Formed.drop (h : r.Formed) (key : String) : Formed (Dict.drop key r) := by
  have hentry : ∀ other i, Dict.find? (Dict.drop key r) other = some i →
      Dict.find? r other = some i := by
    intro other i hi
    by_cases heq : key = other
    · rw [heq, Dict.find?_drop_self] at hi
      cases hi
    · rwa [Dict.find?_drop_of_ne heq] at hi
  exact ⟨h.ascending.drop key, fun other i hi => h.key other i (hentry other i hi),
    fun other i hi => h.incoming other i (hentry other i hi),
    fun other i hi => h.outgoing other i (hentry other i hi)⟩

theorem Built.formed (h : r.Built) : r.Formed := by
  induction h with
  | empty => exact ⟨List.Pairwise.nil, nofun, nofun, nofun⟩
  | register _ hincoming houtgoing hr ih =>
      rw [Registry.register] at hr
      split at hr
      · cases hr
      · cases hr
        exact ih.put hincoming houtgoing
  | unregister _ key ih => exact ih.drop key

/-- A plugin is among those of use with a peer if it is registered and supports the
peer. -/
theorem mem_forCapabilities_iff (h : Dict.Ascending r) {key : String}
    {peerIncoming peerOutgoing : Roll} :
    key ∈ r.forCapabilities peerIncoming peerOutgoing ↔
      ∃ i, Dict.find? r key = some i ∧ i.isSupportedBy peerIncoming peerOutgoing = true := by
  simp only [forCapabilities, Dict.names, List.mem_map, List.mem_filter]
  constructor
  · rintro ⟨⟨name, i⟩, ⟨hmem, hsupported⟩, rfl⟩
    exact ⟨i, h.find?_iff.mpr hmem, hsupported⟩
  · rintro ⟨i, hi, hsupported⟩
    exact ⟨(key, i), ⟨Dict.mem_of_find? hi, hsupported⟩, rfl⟩

theorem Formed.mem_forCapabilities (h : r.Formed) {key : String}
    {peerIncoming peerOutgoing : Roll} :
    key ∈ r.forCapabilities peerIncoming peerOutgoing ↔
      ∃ i, Dict.find? r key = some i ∧ i.isSupportedBy peerIncoming peerOutgoing = true :=
  mem_forCapabilities_iff h.ascending

theorem Formed.forCapabilities_ascending (h : r.Formed) (peerIncoming peerOutgoing : Roll) :
    (r.forCapabilities peerIncoming peerOutgoing).Ascending :=
  h.ascending.filter _

theorem mem_names_iff {key : String} : key ∈ r.names ↔ ∃ i, Dict.find? r key = some i := by
  rw [← Dict.isSome_find?_iff, Option.isSome_iff_exists]

/-- Whether the plugin under a key is to be given the packets of a type, from a device
that is or is not paired. -/
def admits (r : Registry) (type : String) (paired : Bool) (key : String) : Bool :=
  (Dict.find? r key).any fun i => i.incoming.contains type && (paired || i.listensToUnpaired)

theorem admits_iff {type key : String} {paired : Bool} :
    r.admits type paired key = true ↔
      ∃ i, Dict.find? r key = some i ∧ type ∈ i.incoming ∧
        (paired = true ∨ i.listensToUnpaired = true) := by
  simp [admits, Option.any_eq_true]

/-- The entry of an instance under a key, if the plugin there receives a type. -/
def listing? (r : Registry) (type key : String) (i : Instance) : Option Entry :=
  (Dict.find? r key).bind fun info =>
    if type ∈ info.incoming then some ⟨i, info.listensToUnpaired⟩ else none

end Registry

end Tether.Plugin
