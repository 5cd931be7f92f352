import Mathlib.Data.List.Dedup
import Mathlib.Data.List.Forall2
import Mathlib.Data.List.Induction
import NavigationBar.Proofs.Template.CacheTransparency

/-!
# What an engine keeps

An engine keeps the programs that were used last, as many as its bound allows. A program is used
when it is asked for and there is one, whether it was kept or is made now and whatever running it
gives; what is no template and what does not compile leaves no trace. So what is kept can be told
from the uses since programs were last dropped (`Keeps`).
-/

namespace NavigationBar.Template

/-! ## The most recent of a list -/

section Recent

variable {α : Type} [DecidableEq α]

/-- The members of a list, the one that was added last first. -/
def recent (uses : List α) : List α :=
  uses.dedup.reverse

theorem nodup_recent (uses : List α) : (recent uses).Nodup :=
  List.nodup_reverse.2 (List.nodup_dedup uses)

theorem dedup_concat (uses : List α) (a : α) :
    (uses ++ [a]).dedup = uses.dedup.filter (· ≠ a) ++ [a] := by
  induction uses with
  | nil => rfl
  | cons b uses ih =>
    rw [List.cons_append]
    by_cases hb : b ∈ uses
    · rw [List.dedup_cons_of_mem (List.mem_append_left [a] hb), List.dedup_cons_of_mem hb, ih]
    · rw [List.dedup_cons_of_notMem hb]
      by_cases hab : b = a
      · subst hab
        rw [List.dedup_cons_of_mem (by simp), ih, List.filter_cons_of_neg (by simp)]
      · rw [List.dedup_cons_of_notMem (by simp [hb, hab]), ih, List.filter_cons_of_pos (by simpa),
          List.cons_append]

/-- What is added goes to the front, from wherever it was. -/
theorem recent_concat (uses : List α) (a : α) :
    recent (uses ++ [a]) = a :: (recent uses).filter (· ≠ a) := by
  rw [recent, dedup_concat, List.reverse_append, ← List.filter_reverse]
  rfl

/-- Cutting a list off before a member of it goes to the front, and again after it, drops nothing
that cutting it off once does not drop. -/
theorem take_cons_filter_take {as : List α} (h : as.Nodup) (a : α) (n : Nat) :
    (a :: (as.take n).filter (· ≠ a)).take n = (a :: as.filter (· ≠ a)).take n := by
  cases n with
  | zero => rfl
  | succ n =>
    rw [List.take_succ_cons, List.take_succ_cons]
    congr 1
    induction as generalizing n with
    | nil => rfl
    | cons b as ih =>
      obtain ⟨hb, has⟩ := List.nodup_cons.1 h
      rw [List.take_succ_cons]
      by_cases hab : b = a
      · subst hab
        have hne : ∀ c ∈ as, decide (c ≠ b) = true := fun c hc =>
          decide_eq_true (ne_of_mem_of_not_mem hc hb)
        rw [List.filter_cons_of_neg (by simp), List.filter_cons_of_neg (by simp),
          List.filter_eq_self.2 hne,
          List.filter_eq_self.2 fun c hc => hne c (List.mem_of_mem_take hc), List.take_take,
          Nat.min_self]
      · rw [List.filter_cons_of_pos (by simpa), List.filter_cons_of_pos (by simpa)]
        cases n with
        | zero => rfl
        | succ n => rw [List.take_succ_cons, List.take_succ_cons, ih has n]

end Recent

/-! ## Uses -/

namespace Engine

variable {α β : Type}

/-- What comes after a step of an engine and does nothing to it. -/
theorem snd_bind_of_leaves {m : Session α} {k : α → Session β} (h : ∀ a e, (k a e).2 = e)
    (e : Engine) : ((m >>= k) e).2 = (m e).2 :=
  h _ _

theorem snd_evaluateStrict (c : Context) (v : Json) (e : Engine) :
    (evaluateStrict c v e).2 =
      match Origin.ofTemplate? v with
      | none => e
      | some o => (program o.keyText (fun () => o.script) e).2 := by
  unfold evaluateStrict Origin.ofTemplate?
  cases v.string?.bind fun s => body? s.toList with
  | none => rfl
  | some body =>
    refine snd_bind_of_leaves (fun result e => ?_) e
    cases result <;> rfl

theorem snd_evaluate (c : Context) (v : Json) (o : Options) (e : Engine) :
    (evaluate c v o e).2 = (evaluateStrict c v e).2 := by
  refine snd_bind_of_leaves (fun result e => ?_) e
  cases result with
  | ok r => rfl
  | error f =>
    simp only
    split
    · rfl
    · split <;> rfl

theorem isTemplate_iff (v : Json) : isTemplate v = (Origin.ofTemplate? v).isSome := by
  unfold isTemplate Origin.ofTemplate?
  cases v.string? with
  | none => rfl
  | some s =>
    simp only [Option.any_some, Option.bind_some, body?]
    cases isDelimited s.toList <;> rfl

/-- What a field does to an engine that is only evaluated if it is a template. -/
theorem snd_ite_isTemplate {v : Json} {c : Context} {o : Options}
    {k : Except Failure Json → Session α} {m : Session α} (hk : ∀ result e, (k result e).2 = e)
    (hm : ∀ e, (m e).2 = e) (e : Engine) :
    ((if isTemplate v = true then evaluate c v o >>= k else m) e).2 = (evaluateStrict c v e).2 := by
  split
  · rw [snd_bind_of_leaves hk, snd_evaluate]
  · rename_i hv
    rw [isTemplate_iff, Bool.not_eq_true, Option.isSome_eq_false_iff,
      Option.isNone_iff_eq_none] at hv
    rw [hm, snd_evaluateStrict, hv]

theorem snd_resolve (c : Context) (v : Json) (e : Engine) :
    (resolve c v e).2 = (evaluateStrict c v e).2 :=
  snd_ite_isTemplate (fun result _ => by cases result <;> rfl) (fun _ => rfl) e

theorem snd_resolveFlag (c : Context) (v : Json) (e : Engine) :
    (resolveFlag c v e).2 = (evaluateStrict c v e).2 :=
  snd_ite_isTemplate (fun result _ => by cases result <;> rfl) (fun _ => rfl) e

theorem snd_resolveNumber (c : Context) (v : Json) (e : Engine) :
    (resolveNumber c v e).2 = (evaluateStrict c v e).2 :=
  snd_ite_isTemplate (fun result _ => by cases result <;> rfl) (fun _ => rfl) e

end Engine

/-- Whether a request is to drop all programs. -/
def Request.clears : {α : Type} → Request α → Bool
  | _, clear => true
  | _, _ => false

/-- What a request does to an engine: it looks the program up that it needs. -/
theorem Request.snd_perform (c : Context) {α : Type} (r : Request α) (hr : r.clears = false)
    (e : Engine) :
    (r.perform c e).2 =
      match r.origin? with
      | none => e
      | some o => (Engine.program o.keyText (fun () => o.script) e).2 := by
  cases r with
  | evaluate v o => exact (Engine.snd_evaluate c v o e).trans (Engine.snd_evaluateStrict c v e)
  | evaluateAs d v =>
    refine Eq.trans ?_ (Engine.snd_evaluateStrict c v e)
    exact Engine.snd_bind_of_leaves (fun result _ => by cases result <;> rfl) e
  | resolve v => exact (Engine.snd_resolve c v e).trans (Engine.snd_evaluateStrict c v e)
  | resolveText v =>
    refine Eq.trans ?_ ((Engine.snd_resolve c v e).trans (Engine.snd_evaluateStrict c v e))
    exact Engine.snd_bind_of_leaves (fun _ _ => rfl) e
  | resolveFlag v => exact (Engine.snd_resolveFlag c v e).trans (Engine.snd_evaluateStrict c v e)
  | resolveNumber v =>
    exact (Engine.snd_resolveNumber c v e).trans (Engine.snd_evaluateStrict c v e)
  | badgeHolds expression =>
    refine Engine.snd_bind_of_leaves (fun result e => ?_) e
    cases result with
    | error f => rfl
    | ok p =>
      simp only
      cases p.call badgeFunctionName [c.states] <;> rfl
  | clear => cases hr

namespace Origin

/-- Whether the script is a program. -/
def compiles (o : Origin) : Bool :=
  o.compiled.isOk

end Origin

namespace SessionStep

/-- Whether a step drops all programs. -/
def clears : SessionStep → Bool
  | ask r => r.clears
  | see _ => false

/-- What the program was made from that a step uses, if it uses one. It does not matter whether the
program was kept or is made now, nor what running it gives. -/
def used? (step : SessionStep) : Option Origin :=
  step.origin?.filter Origin.compiles

end SessionStep

/-- What programs were made from that were used since all were dropped, in the order of their uses.
-/
def usesOf (steps : List SessionStep) : List Origin :=
  (steps.reverse.takeWhile (!·.clears)).reverse.filterMap SessionStep.used?

theorem usesOf_concat (steps : List SessionStep) (step : SessionStep) :
    usesOf (steps ++ [step]) =
      if step.clears then [] else usesOf steps ++ step.used?.toList := by
  unfold usesOf
  rw [List.reverse_append, List.reverse_singleton, List.singleton_append, List.takeWhile_cons]
  cases step.clears with
  | true => rfl
  | false => cases hused : step.used? <;> simp [hused]

/-- What templates see after a step and the engine. -/
def afterStep : Context × Engine → SessionStep → Context × Engine
  | (c, e), .ask r => (c, (r.perform c e).2)
  | (_, e), .see c => (c, e)

/-- The engine after a session. -/
def engineAfter (c : Context) (e : Engine) (steps : List SessionStep) : Engine :=
  (steps.foldl afterStep (c, e)).2

/-! ## Kept programs -/

/-- The entries of a list that a cache keeps of it, the most recent ones first. -/
def CachePolicy.bound {α : Type} (policy : CachePolicy) (as : List α) : List α :=
  match policy.capacity? with
  | none => as
  | some n => as.take n

theorem bound_cons_filter_bound {α : Type} [DecidableEq α] (policy : CachePolicy) {as : List α}
    (h : as.Nodup) (a : α) :
    policy.bound (a :: (policy.bound as).filter (· ≠ a)) =
      policy.bound (a :: as.filter (· ≠ a)) := by
  cases policy with
  | unbounded => rfl
  | leastRecent n => exact take_cons_filter_take h a (max 1 n)

theorem forall₂_bound {α β : Type} {R : α → β → Prop} (policy : CachePolicy) {as : List α}
    {bs : List β} (h : List.Forall₂ R as bs) :
    List.Forall₂ R (policy.bound as) (policy.bound bs) := by
  cases policy with
  | unbounded => exact h
  | leastRecent n => exact List.forall₂_take (max 1 n) h

theorem mem_of_mem_bound {α : Type} {policy : CachePolicy} {as : List α} {a : α}
    (h : a ∈ policy.bound as) : a ∈ as := by
  cases policy with
  | unbounded => exact h
  | leastRecent n => exact List.mem_of_mem_take h

namespace Cache

variable {κ α ε : Type} [DecidableEq κ]

theorem used_eq (c : Cache κ α) (key : κ) (a : α) :
    c.used key a =
      { c with entries := c.policy.bound ((key, a) :: c.entries.filter fun e => e.1 != key) } := by
  unfold used CachePolicy.bound
  cases c.policy.capacity? <;> rfl

/-- A key that is asked for is used if something can be made for it that is what would be found. -/
theorem getOrMake_snd_of_ok {c : Cache κ α} {key : κ} {make : Unit → Except ε α} {a : α}
    (hfound : ∀ b, (key, b) ∈ c.entries → b = a) (hmake : make () = .ok a) :
    (c.getOrMake key make).2 = c.used key a := by
  unfold getOrMake
  cases hget : c.get? key with
  | some b => rw [hfound b (mem_of_get? hget)]
  | none => rw [hmake]

/-- What cannot be made leaves no trace. -/
theorem getOrMake_snd_of_error {c : Cache κ α} {key : κ} {make : Unit → Except ε α} {f : ε}
    (hfound : ∀ b, (key, b) ∉ c.entries) (hmake : make () = .error f) :
    (c.getOrMake key make).2 = c := by
  unfold getOrMake
  cases hget : c.get? key with
  | some b => exact absurd (mem_of_get? hget) (hfound b)
  | none => rw [hmake]

end Cache

/-- Whether a cache entry is the program of an origin, under the digest of that. -/
def Origin.IsKeptAs (digest : String → UInt64) (o : Origin) (entry : UInt64 × Script.Program) :
    Prop :=
  entry.1 = digest o.keyText ∧ o.compiled = .ok entry.2

theorem exists_of_forall₂ {α β : Type} {R : α → β → Prop} {as : List α} {bs : List β}
    (h : List.Forall₂ R as bs) : ∀ b ∈ bs, ∃ a ∈ as, R a b := by
  induction h with
  | nil => exact nofun
  | cons hab _ ih =>
    refine List.forall_mem_cons.2 ⟨⟨_, List.mem_cons_self, hab⟩, fun b hb => ?_⟩
    obtain ⟨a, ha, hr⟩ := ih b hb
    exact ⟨a, List.mem_cons_of_mem _ ha, hr⟩

namespace Engine

/-- Whether an engine keeps the programs of the most recent origins of some uses, as many as its
cache may hold, and no others. -/
structure Holds (digest : String → UInt64) (policy : CachePolicy) (uses : List Origin)
    (e : Engine) : Prop where
  /-- It has the given digest. -/
  digest_eq : e.digest = digest
  /-- Its cache has the given bound. -/
  policy_eq : e.cache.policy = policy
  /-- The entries are those of the most recent origins. -/
  entries : List.Forall₂ (Origin.IsKeptAs digest) (policy.bound (recent uses)) e.cache.entries

variable {digest : String → UInt64} {policy : CachePolicy} {uses origins : List Origin}
  {e : Engine} {o : Origin}

theorem holds_fresh (digest : String → UInt64) (policy : CachePolicy) :
    Holds digest policy [] (fresh digest policy) where
  digest_eq := rfl
  policy_eq := rfl
  entries := by cases policy <;> simp [recent, CachePolicy.bound, CachePolicy.capacity?, fresh]

theorem Holds.clear (h : Holds digest policy uses e) :
    Holds digest policy [] { e with cache := e.cache.clear } where
  digest_eq := h.digest_eq
  policy_eq := h.policy_eq
  entries := (holds_fresh digest policy).entries

theorem Holds.exists_use (h : Holds digest policy uses e) :
    ∀ entry ∈ e.cache.entries, ∃ o ∈ uses, o.IsKeptAs digest entry := by
  intro entry hentry
  obtain ⟨o, ho, hkept⟩ := exists_of_forall₂ h.entries entry hentry
  exact ⟨o, by simpa [recent] using mem_of_mem_bound ho, hkept⟩

section TellsApart

variable (h : Holds digest policy uses e) (happart : TellsApart digest origins)
  (huses : ∀ o ∈ uses, o ∈ origins) (ho : o ∈ origins)
include h happart huses ho

/-- What is found under the digest of an origin is its program. -/
theorem Holds.compiled_eq {p : Script.Program} (hp : (e.digest o.keyText, p) ∈ e.cache.entries) :
    o ∈ uses ∧ o.compiled = .ok p := by
  obtain ⟨o', ho', hdigest, hcompiled⟩ := h.exists_use _ hp
  rw [h.digest_eq] at hdigest
  rw [happart o ho o' (huses o' ho') hdigest]
  exact ⟨ho', hcompiled⟩

/-- An origin that is looked up and compiles is the most recent one from then on. -/
theorem Holds.program {p : Script.Program} (hp : o.compiled = .ok p) :
    Holds digest policy (uses ++ [o]) (program o.keyText (fun () => o.script) e).2 := by
  have hused : (e.cache.getOrMake (e.digest o.keyText) fun () => o.compiled).2 =
      e.cache.used (digest o.keyText) p := by
    rw [Cache.getOrMake_snd_of_ok (a := p) (fun q hq => ?_) hp, h.digest_eq]
    exact Except.ok.inj ((h.compiled_eq happart huses ho hq).2.symm.trans hp)
  rw [program_eq]
  refine ⟨h.digest_eq, ?_, ?_⟩
  · show (e.cache.getOrMake (e.digest o.keyText) fun () => o.compiled).2.policy = policy
    rw [hused, Cache.used_eq]
    exact h.policy_eq
  · show List.Forall₂ _ _ (e.cache.getOrMake (e.digest o.keyText) fun () => o.compiled).2.entries
    rw [hused, Cache.used_eq, h.policy_eq, recent_concat,
      ← bound_cons_filter_bound policy (nodup_recent uses)]
    refine forall₂_bound policy (.cons ⟨rfl, hp⟩ ?_)
    have hmem : ∀ o ∈ policy.bound (recent uses), o ∈ origins := fun o' ho' =>
      huses o' (by simpa [recent] using mem_of_mem_bound ho')
    have hentries := (List.forall₂_and_left _ _).2 ⟨hmem, h.entries⟩
    refine (List.rel_filter ?_ hentries).imp fun _ _ hkept => hkept.2
    rintro o' entry ⟨ho', hdigest, -⟩
    have hiff : digest o'.keyText = digest o.keyText ↔ o' = o :=
      ⟨happart o' ho' o ho, congrArg fun o : Origin => digest o.keyText⟩
    simp [hdigest, hiff]

/-- An origin that does not compile leaves no trace. -/
theorem Holds.program_of_error {f : Script.Fault} (hf : o.compiled = .error f) :
    (Engine.program o.keyText (fun () => o.script) e).2 = e := by
  rw [program_eq]
  have hkept : (e.cache.getOrMake (e.digest o.keyText) fun () => o.compiled).2 = e.cache := by
    refine Cache.getOrMake_snd_of_error (fun p hp => ?_) hf
    have hcompiled := (h.compiled_eq happart huses ho hp).2
    rw [hf] at hcompiled
    cases hcompiled
  exact congrArg (fun cache => { e with cache }) hkept

end TellsApart

/-- A step that uses no program and drops none does nothing to an engine. -/
theorem Holds.afterStep_of_idle (h : Holds digest policy uses e)
    (happart : TellsApart digest origins) (huses : ∀ o ∈ uses, o ∈ origins) {step : SessionStep}
    (hstep : ∀ o ∈ step.origin?, o ∈ origins) (hclears : step.clears = false)
    (hused : step.used? = none) (c : Context) : (afterStep (c, e) step).2 = e := by
  cases step with
  | see c => rfl
  | ask r =>
    refine (r.snd_perform c hclears e).trans ?_
    cases hr : r.origin? with
    | none => rfl
    | some o =>
      cases ho : o.compiled with
      | error f => exact h.program_of_error happart huses (hstep o hr) ho
      | ok p =>
        have hsome : (SessionStep.ask r).used? = some o := by
          simp [SessionStep.used?, SessionStep.origin?, hr, Option.filter, Origin.compiles, ho,
            Except.isOk, Except.toBool]
        rw [hused] at hsome
        cases hsome

/-- After a step an engine keeps the programs of the most recent uses, one more or all gone. -/
theorem Holds.afterStep (h : Holds digest policy uses e) (happart : TellsApart digest origins)
    (huses : ∀ o ∈ uses, o ∈ origins) {step : SessionStep} (hstep : ∀ o ∈ step.origin?, o ∈ origins)
    (c : Context) :
    Holds digest policy (if step.clears then [] else uses ++ step.used?.toList)
      (afterStep (c, e) step).2 := by
  cases hclears : step.clears with
  | true =>
    cases step with
    | see c => cases hclears
    | ask r =>
      cases r with
      | clear => exact h.clear
      | _ => cases hclears
  | false =>
    cases hused : step.used? with
    | none =>
      rw [h.afterStep_of_idle happart huses hstep hclears hused]
      simpa using h
    | some o =>
      obtain ⟨horigin, hcompiles⟩ := Option.filter_eq_some_iff.1 hused
      cases step with
      | see c => cases horigin
      | ask r =>
        have hperform : (Template.afterStep (c, e) (.ask r)).2 =
            (Engine.program o.keyText (fun () => o.script) e).2 := by
          refine (r.snd_perform c hclears e).trans ?_
          rw [show r.origin? = some o from horigin]
        rw [hperform]
        cases ho : o.compiled with
        | ok p => exact h.program happart huses (hstep o horigin) ho
        | error f =>
          rw [Origin.compiles, ho] at hcompiles
          cases hcompiles

end Engine

/-! ## Sessions -/

section Sessions

variable {digest : String → UInt64} {policy : CachePolicy} {origins : List Origin}

theorem engineAfter_concat (c : Context) (e : Engine) (steps : List SessionStep)
    (step : SessionStep) :
    ∃ c', engineAfter c e (steps ++ [step]) = (afterStep (c', engineAfter c e steps) step).2 := by
  refine ⟨(steps.foldl afterStep (c, e)).1, ?_⟩
  rw [engineAfter, List.foldl_append]
  rfl

theorem mem_of_mem_usesOf {steps : List SessionStep} {o : Origin} (ho : o ∈ usesOf steps) :
    o ∈ steps.filterMap SessionStep.origin? := by
  obtain ⟨step, hstep, hused⟩ := List.mem_filterMap.1 ho
  refine List.mem_filterMap.2 ⟨step, ?_, (Option.filter_eq_some_iff.1 hused).1⟩
  exact List.mem_reverse.1 ((List.takeWhile_sublist _).mem (List.mem_reverse.1 hstep))

theorem holds_engineAfter (happart : TellsApart digest origins) (c : Context)
    {steps : List SessionStep} (h : ∀ o ∈ steps.filterMap SessionStep.origin?, o ∈ origins) :
    Engine.Holds digest policy (usesOf steps) (engineAfter c (.fresh digest policy) steps) := by
  induction steps using List.reverseRecOn with
  | nil => exact Engine.holds_fresh digest policy
  | append_singleton steps step ih =>
    rw [List.filterMap_append, List.forall_mem_append] at h
    obtain ⟨hsteps, hstep⟩ := h
    obtain ⟨c', hafter⟩ := engineAfter_concat c (.fresh digest policy) steps step
    rw [usesOf_concat, hafter]
    refine (ih hsteps).afterStep happart (fun o ho => hsteps o (mem_of_mem_usesOf ho)) ?_ c'
    exact fun o ho => hstep o (by simpa using ho)

end Sessions

/-- Whether a cache keeps the programs that were used last, as many as its bound allows. -/
structure Keeps (digest : String → UInt64) (policy : CachePolicy) (uses : List Origin)
    (cache : Cache UInt64 Script.Program) : Prop where
  /-- Without a bound there is a program for every origin of a use, and else at most as many as the
  bound allows, which is one at least. -/
  size_eq : cache.size =
    match policy with
    | .unbounded => uses.dedup.length
    | .leastRecent n => min (max n 1) uses.dedup.length
  /-- They are the programs of the most recent origins, each under the digest of its own. -/
  entries : List.Forall₂ (Origin.IsKeptAs digest) ((recent uses).take cache.size) cache.entries

theorem Engine.Holds.keeps {digest : String → UInt64} {policy : CachePolicy} {uses : List Origin}
    {e : Engine} (h : e.Holds digest policy uses) : Keeps digest policy uses e.cache := by
  have hlength := h.entries.length_eq
  have hrecent : (recent uses).length = uses.dedup.length := List.length_reverse
  cases policy with
  | unbounded =>
    have hsize : e.cache.size = uses.dedup.length := hlength.symm.trans hrecent
    refine ⟨hsize, ?_⟩
    rw [hsize, ← hrecent, List.take_length]
    exact h.entries
  | leastRecent n =>
    have hsize : e.cache.size = min (max n 1) uses.dedup.length := by
      rw [Nat.max_comm, ← hrecent, ← List.length_take]
      exact hlength.symm
    refine ⟨hsize, ?_⟩
    rw [hsize, ← hrecent, ← List.take_eq_take_min, Nat.max_comm]
    exact h.entries

/-- After every step of a session an engine keeps the programs of the origins that were used last
since all were dropped, without a bound for all of them, and a step that uses none and drops none
does nothing to the engine. -/
theorem keeps_most_recent (digest : String → UInt64) (policy : CachePolicy) (c : Context)
    (steps : List SessionStep) (h : TellsApart digest (steps.filterMap SessionStep.origin?)) :
    (∀ before, before <+: steps →
      Keeps digest policy (usesOf before)
        (engineAfter c (.fresh digest policy) before).cache) ∧
    ∀ before step, before ++ [step] <+: steps → step.clears = false → step.used? = none →
      engineAfter c (.fresh digest policy) (before ++ [step]) =
        engineAfter c (.fresh digest policy) before := by
  have hsub : ∀ {before}, before <+: steps →
      ∀ o ∈ before.filterMap SessionStep.origin?, o ∈ steps.filterMap SessionStep.origin? :=
    fun hbefore o ho => (hbefore.sublist.filterMap _).mem ho
  refine ⟨fun before hbefore => (holds_engineAfter h c (hsub hbefore)).keeps, ?_⟩
  intro before step hbefore hclears hused
  have hfront := hsub ((List.prefix_append before [step]).trans hbefore)
  obtain ⟨c', hafter⟩ := engineAfter_concat c (.fresh digest policy) before step
  rw [hafter]
  refine (holds_engineAfter h c hfront).afterStep_of_idle h
    (fun o ho => hfront o (mem_of_mem_usesOf ho)) (fun o ho => ?_) hclears hused c'
  refine hsub hbefore o ?_
  rw [List.filterMap_append]
  exact List.mem_append_right _ (by simpa using ho)

/-- An engine that keeps two programs, after a badge that was used twice, a template that throws, a
template that was used before both, what is no template, and a template that does not compile. -/
theorem keeps_most_recent_of_two :
    let digest : String → UInt64 := fun s => s.toList.foldl (fun d c => 31 * d + c.val.toUInt64) 7
    let steps : List SessionStep :=
      [.ask (.evaluate (.string "[[[return 1]]]") .strict), .ask (.badgeHolds "1 > 0"),
        .ask (.resolveFlag (.string "[[[ throw 2 ]]]")), .see default, .ask (.badgeHolds " 1 > 0"),
        .ask (.resolveText (.string "return 3")), .ask (.resolve (.string "[[[ return ( ]]]"))]
    TellsApart digest (steps.filterMap SessionStep.origin?) ∧
      ∃ p q, (engineAfter default (.fresh digest (.leastRecent 2)) steps).cache.entries =
        [(digest (Origin.badge "1 > 0".toList).keyText, p),
          (digest (Origin.template "throw 2".toList).keyText, q)] := by
  intro digest steps
  have horigins : steps.filterMap SessionStep.origin? =
      [.template "return 1".toList, .badge "1 > 0".toList, .template "throw 2".toList,
        .badge "1 > 0".toList, .template "return (".toList] := by
    decide +kernel
  have hapart : TellsApart digest (steps.filterMap SessionStep.origin?) := by
    rw [horigins]
    unfold TellsApart
    decide +kernel
  have huses : usesOf steps =
      [.template "return 1".toList, .badge "1 > 0".toList, .template "throw 2".toList,
        .badge "1 > 0".toList] := by
    decide +kernel
  obtain ⟨hkeeps, -⟩ := keeps_most_recent digest (.leastRecent 2) default steps hapart
  obtain ⟨hsize, hentries⟩ := hkeeps steps (List.prefix_refl steps)
  have htwo : min (max 2 1) (usesOf steps).dedup.length = 2 := by
    rw [huses]
    decide +kernel
  replace hsize := hsize.trans htwo
  have hrecent : (recent (usesOf steps)).take 2 =
      [.badge "1 > 0".toList, .template "throw 2".toList] := by
    rw [huses]
    decide +kernel
  rw [hsize, hrecent, List.forall₂_cons_left_iff] at hentries
  obtain ⟨⟨key, p⟩, rest, ⟨hkey, -⟩, hrest, heq⟩ := hentries
  obtain ⟨⟨key', q⟩, rest', ⟨hkey', -⟩, hnil, rfl⟩ := List.forall₂_cons_left_iff.1 hrest
  obtain rfl := List.forall₂_nil_left_iff.1 hnil
  exact ⟨hapart, p, q, by rw [heq]; exact congrArg₂ (fun k k' => [(k, p), (k', q)]) hkey hkey'⟩

end NavigationBar.Template
