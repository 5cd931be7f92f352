import NavigationBar.Host.Snapshot
import NavigationBar.Proofs.Decode.Steps
import NavigationBar.Proofs.Json.Merging

/-!
# What a snapshot holds

A snapshot that was decoded holds under an identifier the entity that its document has there. The
identifier that this entity goes by itself is another matter: it is the one that its own document
states, and empty if that states none.
-/

namespace NavigationBar

open Decode

namespace Entity

/-- The identifier that the document of an entity states, as a member or as the first of its values;
it may be left out. -/
def statedId : Json → String
  | .object ms => ((Fields.get? ms "entity_id").bind Json.string?).getD ""
  | .array items => (items.head?.bind Json.string?).getD ""
  | _ => ""

theorem string?_of_text {o : Origin} {v : Json} {s : String} (h : text o v = .ok s) :
    v.string? = some s := by
  cases v with
  | string t => exact congrArg some (Except.ok.inj h)
  | _ => cases h

/-- The fields of an entity besides its identifier leave that alone. -/
theorem id_of_put {o : Origin} {f : Decode.Field Entity} (hf : f ∈ record.fields)
    (hkey : f.key ≠ "entity_id") {x y : Entity} {v : Json} (h : f.put o x v = .ok y) :
    y.id = x.id := by
  simp only [record, List.mem_cons, List.not_mem_nil, or_false] at hf
  rcases hf with rfl | rfl | rfl | rfl | rfl
  · exact absurd rfl hkey
  all_goals
    obtain ⟨_, _, rfl⟩ := map_eq_ok.mp h
    rfl

theorem id_of_putAll {o : Origin} {ms : Fields} (hms : ms.Distinct) {e : Entity}
    (h : record.putAll o record.initial ms = .ok e) : e.id = statedId (.object ms) := by
  have hid := foldlM_reads "entity_id" Entity.id (text o) ?_ ?_ hms h
  · have hstated : statedId (.object ms) =
        ((ms.lookup "entity_id").bind Json.string?).getD "" := rfl
    rw [hstated]
    cases hv : ms.lookup "entity_id" with
    | none =>
      rw [hv] at hid
      exact hid
    | some v =>
      rw [hv] at hid
      rw [Option.bind_some, string?_of_text hid, Option.getD_some]
  · intro x v y hput
    obtain ⟨id, hid, rfl⟩ := map_eq_ok.mp hput
    exact hid
  · intro x p y hp hput
    dsimp only at hput
    split at hput
    · rename_i f hfield
      rw [Record.field?] at hfield
      have hf : f ∈ record.fields := List.mem_of_find?_eq_some hfield
      have hkey := List.find?_some hfield
      exact id_of_put hf (beq_iff_eq.mp hkey ▸ hp) hput
    · exact congrArg Entity.id (Except.ok.inj hput).symm

theorem id_of_putItems {o : Origin} {expected : String} {fs : List (Decode.Field Entity)}
    (hfs : ∀ f ∈ fs, f ∈ record.fields ∧ f.key ≠ "entity_id") {index : Nat} {x y : Entity}
    {items rest : List Json} (h : Record.putItems o expected index x fs items = .ok (y, rest)) :
    y.id = x.id := by
  induction fs generalizing index x items with
  | nil => exact congrArg (fun p => p.1.id) (Except.ok.inj h).symm
  | cons f fs ih =>
    obtain ⟨⟨hf, hkey⟩, hfs⟩ := List.forall_mem_cons.mp hfs
    cases items with
    | nil =>
      rw [Record.putItems] at h
      split at h
      · cases h
      · exact ih hfs h
    | cons v items =>
      rw [Record.putItems] at h
      obtain ⟨z, hz, h⟩ := bind_eq_ok.mp h
      rw [ih hfs h]
      exact id_of_put hf hkey hz

theorem id_of_decode {o : Origin} {v : Json} (hv : v.WellFormed) {e : Entity}
    (h : decode o v = .ok e) : e.id = statedId v := by
  cases v with
  | object ms =>
    change record.ofMembers o ms = .ok e at h
    obtain ⟨x, hx, h⟩ := bind_eq_ok.mp h
    have hms : Fields.Distinct ms := hv.ascending.distinct
    cases hmissing : record.missing? ms with
    | some f => simp [hmissing] at h
    | none =>
      simp only [hmissing, Except.ok.injEq] at h
      exact h ▸ id_of_putAll hms hx
  | array items =>
    change record.ofItems "struct EntityState" o items = .ok e at h
    obtain ⟨⟨x, rest⟩, hx, h⟩ := bind_eq_ok.mp h
    have hrest : x = e := by
      dsimp only at h
      split at h
      · exact Except.ok.inj h
      · cases o <;> cases h
    subst hrest
    have hother : ∀ f ∈ record.fields.tail, f ∈ record.fields ∧ f.key ≠ "entity_id" := by
      intro f hf
      refine ⟨List.mem_of_mem_tail hf, ?_⟩
      simp only [record, List.tail_cons, List.mem_cons, List.not_mem_nil, or_false] at hf
      rcases hf with rfl | rfl | rfl | rfl <;> decide
    cases items with
    | nil => exact id_of_putItems hother hx
    | cons w items =>
      obtain ⟨y, hy, hx⟩ := bind_eq_ok.mp hx
      obtain ⟨id, hid, rfl⟩ := map_eq_ok.mp hy
      have hx : x.id = id := id_of_putItems hother hx
      rw [hx, statedId, List.head?_cons, Option.bind_some, string?_of_text hid, Option.getD_some]
  | _ => cases h

end Entity

namespace Snapshot

/-- Where a document has a value there is an entry that was decoded from it, and no other. -/
theorem rel_lookup_dictionary {α : Type} {d : Decoder α} {o : Origin} {ms : Fields}
    {entries : List (String × α)} (h : dictionary d o (.object ms) = .ok entries) (key : String) :
    Option.Rel (fun v x => d o v = .ok x) (ms.lookup key) (entries.lookup key) := by
  have hall := mapM_eq_ok_iff.mp h
  clear h
  induction hall with
  | nil => exact .none
  | @cons p entry ms entries hp hall ih =>
    obtain ⟨x, hx, rfl⟩ := map_eq_ok.mp hp
    rw [List.lookup_cons, List.lookup_cons]
    split
    · exact .some hx
    · exact ih

theorem lookup_dictionary {α : Type} {d : Decoder α} {o : Origin} {ms : Fields}
    {entries : List (String × α)} (h : dictionary d o (.object ms) = .ok entries) {key : String}
    {x : α} (hx : entries.lookup key = some x) :
    ∃ v, ms.lookup key = some v ∧ d o v = .ok x := by
  have hrel := rel_lookup_dictionary h key
  rw [hx] at hrel
  generalize ms.lookup key = v? at hrel ⊢
  cases hrel with
  | some hread => exact ⟨_, rfl, hread⟩

theorem exists_lookup_dictionary {α : Type} {d : Decoder α} {o : Origin} {ms : Fields}
    {entries : List (String × α)} (h : dictionary d o (.object ms) = .ok entries) {key : String}
    {v : Json} (hv : ms.lookup key = some v) :
    ∃ x, entries.lookup key = some x ∧ d o v = .ok x := by
  have hrel := rel_lookup_dictionary h key
  rw [hv] at hrel
  generalize entries.lookup key = x? at hrel ⊢
  cases hrel with
  | some hread => exact ⟨_, rfl, hread⟩

/-- The entity under an identifier was decoded from what the document has there. -/
theorem exists_document {v : Json} (hv : v.WellFormed) {s : Snapshot}
    (h : decode .document v = .ok s) {id : String} {e : Entity} (he : s.entity? id = some e) :
    ∃ d, v.member? ["states", id] = some d ∧ e.id = Entity.statedId d := by
  cases v with
  | object ms =>
    have hms : Fields.Distinct ms := hv.ascending.distinct
    have hentities := foldlM_reads "states" Snapshot.entities
      (dictionary Entity.decode .document) ?_ ?_ hms h
    · cases hstates : ms.lookup "states" with
      | none =>
        rw [hstates] at hentities
        rw [entity?, hentities] at he
        cases he
      | some w =>
        rw [hstates] at hentities
        have hw : w.WellFormed := hv.of_lookup hstates
        cases w with
        | object es =>
          obtain ⟨d, hd, hdecode⟩ := lookup_dictionary hentities he
          have hmember : (Json.object ms).member? ["states", id] = some d := by
            rw [Json.member?_object, hstates, Option.bind_some, Json.member?_object, hd]
            rfl
          exact ⟨d, hmember, Entity.id_of_decode (hw.of_lookup hd) hdecode⟩
        | _ => cases hentities
    · intro x w y hput
      obtain ⟨entities, hentities, rfl⟩ := map_eq_ok.mp hput
      exact hentities
    · intro x p y hp hput
      simp only [put, hp, if_false] at hput
      split at hput
      · obtain rfl := Except.ok.inj hput
        rfl
      · split at hput
        · obtain ⟨path, -, rfl⟩ := map_eq_ok.mp hput
          rfl
        · obtain rfl := Except.ok.inj hput
          rfl
  | _ => cases h

end Snapshot

end NavigationBar
