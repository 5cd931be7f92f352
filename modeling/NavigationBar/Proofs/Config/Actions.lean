import NavigationBar.Config.Action
import NavigationBar.Proofs.Decode.Writing

/-!
# Actions and their written forms

An action of the bar's own is written as its tag and its fields, in the order of their keys; an
action of the host is written as it was read. Both are read again as they were.
-/

namespace NavigationBar

open Decode

namespace OwnAction

theorem ascending_toFields (a : OwnAction) : a.toFields.Ascending := by
  have htag : ∀ v, Fields.Ascending [("action", v)] := fun v => List.pairwise_singleton _ _
  have hpair : ∀ k v w, "action" < k → Fields.Ascending [("action", v), (k, w)] := by
    intro k v w hlt
    refine List.pairwise_cons.mpr ⟨fun p hp => ?_, List.pairwise_singleton _ _⟩
    obtain rfl := List.mem_singleton.mp hp
    exact hlt
  cases a with
  | quickbar mode =>
    cases mode with
    | none => exact htag _
    | some m => exact hpair "mode" _ _ (by decide)
  | runScript code => exact hpair "code" _ _ (by decide)
  | _ => exact htag _

theorem exists_string_of_mem_toFields (a : OwnAction) :
    ∀ p ∈ a.toFields, ∃ s, p.2 = .string s := by
  cases a with
  | quickbar mode => cases mode <;> simp [toFields]
  | _ => simp [toFields]

theorem wellFormed_toFields (a : OwnAction) : (Json.object a.toFields).WellFormed := by
  refine .object _ a.ascending_toFields fun p hp => ?_
  obtain ⟨s, hs⟩ := a.exists_string_of_mem_toFields p hp
  rw [hs]
  exact .string s

/-- What is written of one of the bar's own actions is read as that action. -/
theorem ofMembers_toFields (a : OwnAction) : Action.ofMembers a.toFields = .ok (.own a) := by
  cases a with
  | quickbar mode =>
    cases mode with
    | none => rfl
    | some m => cases m <;> rfl
  | _ => rfl

end OwnAction

namespace Action

/-- An action that was read from members is one of the bar's own, or those members. -/
theorem eq_host_of_ofMembers {ms : Fields} {a : Action} (h : ofMembers ms = .ok a) :
    (∃ own, a = .own own) ∨ a = .host ms := by
  unfold ofMembers at h
  split at h
  · split at h
    · split at h
      · cases h
        exact Or.inl ⟨_, rfl⟩
      · cases h
    · cases h
      exact Or.inr rfl
  · cases h

theorem yields {a : Action} (h : Yields decode a) :
    (Json.object a.toFields).WellFormed ∧ ofMembers a.toFields = .ok a := by
  obtain ⟨o, v, hv, hread⟩ := h
  cases v with
  | object ms =>
    rcases eq_host_of_ofMembers hread with ⟨own, rfl⟩ | rfl
    · exact ⟨own.wellFormed_toFields, own.ofMembers_toFields⟩
    · exact ⟨hv, hread⟩
  | null | bool | int | float | string | array => cases hread

/-- Actions are read again from what is written of them. -/
theorem roundTrips : RoundTrips decode toJson := by
  constructor
  · intro a ha
    exact (yields ha).1.fits
  · intro a ha o
    obtain ⟨hwf, hread⟩ := yields ha
    rw [toJson, hwf.sorted_eq]
    exact hread

end Action

end NavigationBar
