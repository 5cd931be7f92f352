import NavigationBar.Template.Resolve

/-!
# What an engine keeps does not show

An engine answers every request as a new engine does, whatever it was asked before and however many
programs it keeps. What it keeps are programs under digests; as long as the digests tell apart what
programs were made from, a program that is found is the one that would be made (`Faithful`), and
every request keeps this.
-/

namespace NavigationBar.Template

/-! ## Caches -/

namespace Cache

variable {κ α ε : Type} [DecidableEq κ] {c : Cache κ α} {key : κ} {a : α}

theorem mem_of_get? (h : c.get? key = some a) : (key, a) ∈ c.entries := by
  obtain ⟨before, after, hentries, -⟩ := List.lookup_eq_some_iff.1 h
  rw [hentries]
  simp

theorem mem_of_mem_used {p : κ × α} (h : p ∈ (c.used key a).entries) :
    p = (key, a) ∨ p ∈ c.entries := by
  have hmem : p ∈ (key, a) :: c.entries.filter fun e => e.1 != key := by
    unfold used at h
    cases hcap : c.policy.capacity? with
    | none => simpa [hcap] using h
    | some n =>
      simp only [hcap] at h
      exact List.mem_of_mem_take h
  rcases List.mem_cons.1 hmem with h | h
  · exact .inl h
  · exact .inr (List.mem_filter.1 h).1

/-- What is kept after a key was asked for was kept before, or was made now. -/
theorem forall_mem_getOrMake {P : κ × α → Prop} {make : Unit → Except ε α}
    (h : ∀ p ∈ c.entries, P p) (hmake : ∀ a, make () = .ok a → P (key, a)) :
    ∀ p ∈ (c.getOrMake key make).2.entries, P p := by
  have hused : ∀ a, P (key, a) → ∀ p ∈ (c.used key a).entries, P p := by
    intro a ha p hp
    rcases mem_of_mem_used hp with rfl | hp
    · exact ha
    · exact h p hp
  unfold getOrMake
  cases hget : c.get? key with
  | some a => exact hused a (h _ (mem_of_get? hget))
  | none =>
    cases hm : make () with
    | ok a => exact hused a (hmake a hm)
    | error e => exact h

/-- What is kept under a key is not told from what would be made, if it is that. -/
theorem getOrMake_fst {make : Unit → Except ε α} (h : ∀ a, (key, a) ∈ c.entries → make () = .ok a) :
    (c.getOrMake key make).1 = make () := by
  unfold getOrMake
  cases hget : c.get? key with
  | some a => exact (h a (mem_of_get? hget)).symm
  | none => cases hm : make () <;> rfl

end Cache

/-! ## What programs are made from -/

/-- What a program is made from. -/
inductive Origin where
  /-- The body of a template. -/
  | template (body : List Char)
  /-- The expression of a badge. -/
  | badge (expression : List Char)
deriving DecidableEq

namespace Origin

/-- The text under whose digest the program is kept. -/
def keyText : Origin → String
  | template body => Engine.keyOf body
  | badge expression => Engine.badgeKeyOf expression

/-- The script that is compiled. -/
def script : Origin → List Char
  | template body => scriptOf body
  | badge expression => badgeScriptOf expression

/-- The program, if the script is one. -/
def compiled (o : Origin) : Except Script.Fault Script.Program :=
  Script.Program.ofScript o.script

/-- What the program of a template is made from, if a value is a template. -/
def ofTemplate? (v : Json) : Option Origin :=
  (v.string?.bind fun s => body? s.toList).map template

end Origin

/-- Whether digests tell apart what some programs are made from. -/
def TellsApart (digest : String → UInt64) (origins : List Origin) : Prop :=
  ∀ o ∈ origins, ∀ o' ∈ origins, digest o.keyText = digest o'.keyText → o = o'

namespace Engine

/-- An engine without compiled programs, with a digest of its own. -/
def fresh (digest : String → UInt64) (policy : CachePolicy) : Engine :=
  { digest, cache := { policy } }

/-- Whether what an engine keeps under the digest of an origin is the program of that origin. -/
structure Faithful (digest : String → UInt64) (origins : List Origin) (e : Engine) : Prop where
  /-- The engine has the given digest. -/
  digest_eq : e.digest = digest
  /-- What is kept is the program of an origin, under the digest of that. -/
  compiled : ∀ p ∈ e.cache.entries,
    ∃ o ∈ origins, p.1 = digest o.keyText ∧ o.compiled = .ok p.2

variable {digest : String → UInt64} {origins : List Origin}

theorem faithful_fresh (policy : CachePolicy) : Faithful digest origins (fresh digest policy) where
  digest_eq := rfl
  compiled := nofun

/-- Whether what an engine answers does not depend on what it keeps. -/
def Transparent (digest : String → UInt64) (origins : List Origin) {α : Type} (m : Session α) :
    Prop :=
  ∃ a, ∀ e : Engine, e.Faithful digest origins → (m e).1 = a ∧ (m e).2.Faithful digest origins

namespace Transparent

variable {α β : Type}

protected theorem pure (a : α) : Transparent digest origins (pure a) :=
  ⟨a, fun _ he => ⟨rfl, he⟩⟩

protected theorem bind {m : Session α} {k : α → Session β} (hm : Transparent digest origins m)
    (hk : ∀ a, Transparent digest origins (k a)) : Transparent digest origins (m >>= k) := by
  obtain ⟨a, ha⟩ := hm
  obtain ⟨b, hb⟩ := hk a
  refine ⟨b, fun e he => ?_⟩
  obtain ⟨hfst, hsnd⟩ := ha e he
  have hbind : (m >>= k) e = k (m e).1 (m e).2 := rfl
  rw [hbind, hfst]
  exact hb _ hsnd

/-- Faithful engines answer alike. -/
theorem fst_eq {m : Session α} (h : Transparent digest origins m) {e e' : Engine}
    (he : e.Faithful digest origins) (he' : e'.Faithful digest origins) : (m e).1 = (m e').1 := by
  obtain ⟨a, ha⟩ := h
  rw [(ha e he).1, (ha e' he').1]

theorem faithful {m : Session α} (h : Transparent digest origins m) {e : Engine}
    (he : e.Faithful digest origins) : (m e).2.Faithful digest origins := by
  obtain ⟨a, ha⟩ := h
  exact (ha e he).2

end Transparent

/-! ## Requests -/

theorem program_eq (text : String) (source : Unit → List Char) (e : Engine) :
    program text source e =
      ((e.cache.getOrMake (e.digest text) fun () => Script.Program.ofScript (source ())).1,
        { e with cache := (e.cache.getOrMake (e.digest text) fun () =>
            Script.Program.ofScript (source ())).2 }) := rfl

theorem transparent_clear : Transparent digest origins clear :=
  ⟨(), fun _ he => ⟨rfl, he.digest_eq, nofun⟩⟩

section TellsApart

variable (h : TellsApart digest origins)
include h

/-- The program that an engine answers with is the one of the origin, kept or not. -/
theorem transparent_program {o : Origin} (ho : o ∈ origins) :
    Transparent digest origins (program o.keyText fun () => o.script) := by
  refine ⟨o.compiled, fun e he => ?_⟩
  have hfound : ∀ p, (e.digest o.keyText, p) ∈ e.cache.entries → o.compiled = .ok p := by
    intro p hp
    obtain ⟨o', ho', hdigest, hcompiled⟩ := he.compiled _ hp
    rw [he.digest_eq] at hdigest
    rw [h o ho o' ho' hdigest]
    exact hcompiled
  rw [program_eq]
  refine ⟨Cache.getOrMake_fst hfound, he.digest_eq, ?_⟩
  refine Cache.forall_mem_getOrMake he.compiled fun p hp => ⟨o, ho, ?_, hp⟩
  rw [he.digest_eq]

theorem transparent_evaluateStrict (c : Context) (v : Json)
    (hv : ∀ o ∈ Origin.ofTemplate? v, o ∈ origins) :
    Transparent digest origins (evaluateStrict c v) := by
  unfold evaluateStrict
  cases hbody : v.string?.bind fun s => body? s.toList with
  | none => exact .pure _
  | some body =>
    have ho : Origin.template body ∈ origins := hv _ (by rw [Origin.ofTemplate?, hbody]; rfl)
    refine .bind (transparent_program h ho) fun result => ?_
    cases result with
    | error f => exact .pure _
    | ok p => exact .pure _

theorem transparent_evaluate (c : Context) (v : Json) (o : Options)
    (hv : ∀ o ∈ Origin.ofTemplate? v, o ∈ origins) :
    Transparent digest origins (evaluate c v o) := by
  refine .bind (transparent_evaluateStrict h c v hv) fun result => ?_
  cases result with
  | ok r => exact .pure _
  | error f =>
    simp only
    split
    · exact .pure _
    · split
      · exact .pure _
      · exact .pure _

theorem transparent_evaluateAs {α : Type} (d : Decode.Decoder α) (c : Context) (v : Json)
    (hv : ∀ o ∈ Origin.ofTemplate? v, o ∈ origins) :
    Transparent digest origins (evaluateAs d c v) := by
  refine .bind (transparent_evaluateStrict h c v hv) fun result => ?_
  cases result with
  | ok r => exact .pure _
  | error f => exact .pure _

theorem transparent_badgeHolds (c : Context) (expression : String)
    (hb : Origin.badge (Text.trim expression.toList) ∈ origins) :
    Transparent digest origins (badgeHolds c expression) := by
  refine .bind (transparent_program h hb) fun result => ?_
  cases result with
  | error f => exact .pure _
  | ok p =>
    simp only
    cases p.call badgeFunctionName [c.states] with
    | error f => exact .pure _
    | ok v => exact .pure _

theorem transparent_resolve (c : Context) (v : Json)
    (hv : ∀ o ∈ Origin.ofTemplate? v, o ∈ origins) :
    Transparent digest origins (resolve c v) := by
  unfold resolve
  split
  · refine .bind (transparent_evaluate h c v .lenient hv) fun result => ?_
    cases result with
    | ok r => exact .pure _
    | error f => exact .pure _
  · exact .pure _

theorem transparent_resolveText (c : Context) (v : Json)
    (hv : ∀ o ∈ Origin.ofTemplate? v, o ∈ origins) :
    Transparent digest origins (resolveText c v) :=
  .bind (transparent_resolve h c v hv) fun _ => .pure _

theorem transparent_resolveFlag (c : Context) (v : Json)
    (hv : ∀ o ∈ Origin.ofTemplate? v, o ∈ origins) :
    Transparent digest origins (resolveFlag c v) := by
  unfold resolveFlag
  split
  · refine .bind (transparent_evaluate h c v .strict hv) fun result => ?_
    cases result with
    | ok r => exact .pure _
    | error f => exact .pure _
  · exact .pure _

theorem transparent_resolveNumber (c : Context) (v : Json)
    (hv : ∀ o ∈ Origin.ofTemplate? v, o ∈ origins) :
    Transparent digest origins (resolveNumber c v) := by
  unfold resolveNumber
  split
  · refine .bind (transparent_evaluate h c v .strict hv) fun result => ?_
    cases result with
    | ok r => exact .pure _
    | error f => exact .pure _
  · exact .pure _

end TellsApart

end Engine

/-! ## Sessions -/

/-- What an engine may be asked, by the type of the answer. -/
inductive Request : Type → Type 1 where
  /-- The value of a template. -/
  | evaluate (v : Json) (o : Options) : Request (Except Failure Json)
  /-- The value of a template as a value of a type. -/
  | evaluateAs {α : Type} (d : Decode.Decoder α) (v : Json) : Request (Except Failure α)
  /-- The value of a field. -/
  | resolve (v : Json) : Request Json
  /-- The text of a field. -/
  | resolveText (v : Json) : Request String
  /-- Whether the condition in a field holds. -/
  | resolveFlag (v : Json) : Request Bool
  /-- The number in a field. -/
  | resolveNumber (v : Json) : Request (Option Float)
  /-- Whether the expression of a badge holds. -/
  | badgeHolds (expression : String) : Request Bool
  /-- To drop all programs. -/
  | clear : Request Unit

namespace Request

/-- What an engine does when it is asked. -/
def perform (c : Context) : {α : Type} → Request α → Session α
  | _, evaluate v o => Engine.evaluate c v o
  | _, evaluateAs d v => Engine.evaluateAs d c v
  | _, resolve v => Engine.resolve c v
  | _, resolveText v => Engine.resolveText c v
  | _, resolveFlag v => Engine.resolveFlag c v
  | _, resolveNumber v => Engine.resolveNumber c v
  | _, badgeHolds expression => Engine.badgeHolds c expression
  | _, clear => Engine.clear

/-- What the program is made from that a request needs, if it needs one. -/
def origin? : {α : Type} → Request α → Option Origin
  | _, evaluate v _ | _, evaluateAs _ v | _, resolve v | _, resolveText v | _, resolveFlag v
  | _, resolveNumber v => Origin.ofTemplate? v
  | _, badgeHolds expression => some (.badge (Text.trim expression.toList))
  | _, clear => none

variable {digest : String → UInt64} {origins : List Origin}

/-- What an engine answers to a request does not depend on what it keeps. -/
theorem transparent (h : TellsApart digest origins) (c : Context) {α : Type} (r : Request α)
    (hr : ∀ o ∈ r.origin?, o ∈ origins) : Engine.Transparent digest origins (r.perform c) := by
  cases r with
  | evaluate v o => exact Engine.transparent_evaluate h c v o hr
  | evaluateAs d v => exact Engine.transparent_evaluateAs h d c v hr
  | resolve v => exact Engine.transparent_resolve h c v hr
  | resolveText v => exact Engine.transparent_resolveText h c v hr
  | resolveFlag v => exact Engine.transparent_resolveFlag h c v hr
  | resolveNumber v => exact Engine.transparent_resolveNumber h c v hr
  | badgeHolds expression => exact Engine.transparent_badgeHolds h c expression (hr _ rfl)
  | clear => exact Engine.transparent_clear

end Request

/-- A step of a session. -/
inductive SessionStep where
  /-- The engine is asked. -/
  | ask {α : Type} (r : Request α)
  /-- Templates see something else from now on. -/
  | see (c : Context)

/-- What the program is made from that a step needs, if it needs one. -/
def SessionStep.origin? : SessionStep → Option Origin
  | ask r => r.origin?
  | see _ => none

/-- The answers of an engine that is asked one thing after another. -/
def answers (c : Context) (e : Engine) : List SessionStep → List (Σ α : Type, α)
  | [] => []
  | .ask r :: steps => ⟨_, (r.perform c e).1⟩ :: answers c (r.perform c e).2 steps
  | .see c :: steps => answers c e steps

/-- The answers of an engine that is asked each thing alone. -/
def answersAlone (c : Context) (e : Engine) : List SessionStep → List (Σ α : Type, α)
  | [] => []
  | .ask r :: steps => ⟨_, (r.perform c e).1⟩ :: answersAlone c e steps
  | .see c :: steps => answersAlone c e steps

variable {digest : String → UInt64} {origins : List Origin}

theorem answers_eq_of_faithful (h : TellsApart digest origins) {e e' : Engine}
    (he : e.Faithful digest origins) (he' : e'.Faithful digest origins) (c : Context)
    (steps : List SessionStep) (hsteps : ∀ o ∈ steps.filterMap SessionStep.origin?, o ∈ origins) :
    answers c e steps = answersAlone c e' steps := by
  induction steps generalizing c e with
  | nil => rfl
  | cons step steps ih =>
    have hrest : ∀ o ∈ steps.filterMap SessionStep.origin?, o ∈ origins := by
      intro o ho
      obtain ⟨step', hmem, hstep'⟩ := List.mem_filterMap.1 ho
      exact hsteps o (List.mem_filterMap.2 ⟨step', List.mem_cons_of_mem _ hmem, hstep'⟩)
    cases step with
    | ask r =>
      have hr := r.transparent h c fun o ho =>
        hsteps o (List.mem_filterMap.2 ⟨_, List.mem_cons_self, ho⟩)
      rw [answers, answersAlone, hr.fst_eq he he', ih (hr.faithful he) c hrest]
    | see c' => exact ih he c' hrest

/-- An engine answers every step of a session as a new engine does, which is asked that alone:
neither what was asked before nor the bound of the cache shows. -/
theorem answers_eq_answersAlone (digest : String → UInt64) (policy policy' : CachePolicy)
    (c : Context) (steps : List SessionStep)
    (h : TellsApart digest (steps.filterMap SessionStep.origin?)) :
    answers c (.fresh digest policy) steps = answersAlone c (.fresh digest policy') steps :=
  answers_eq_of_faithful h (Engine.faithful_fresh policy) (Engine.faithful_fresh policy') c steps
    fun _ ho => ho

/-- A template, a badge with the same text, and the template with other blanks around it, kept by an
engine that keeps one program. -/
theorem answers_eq_answersAlone_template_and_badge :
    let digest : String → UInt64 := fun s => s.toList.foldl (fun d c => 31 * d + c.val.toUInt64) 7
    let steps : List SessionStep :=
      [.ask (.evaluate (.string "[[[return 1]]]") .strict), .ask (.badgeHolds "return 1"),
        .see default, .ask (.resolveText (.string "[[[ return 1 ]]]")), .ask .clear]
    TellsApart digest (steps.filterMap SessionStep.origin?) ∧
      answers default (.fresh digest (.leastRecent 0)) steps =
        answersAlone default (.fresh digest .unbounded) steps := by
  intro digest steps
  have horigins : steps.filterMap SessionStep.origin? =
      [.template "return 1".toList, .badge "return 1".toList, .template "return 1".toList] := by
    decide +kernel
  have hapart : TellsApart digest (steps.filterMap SessionStep.origin?) := by
    rw [horigins]
    unfold TellsApart
    decide +kernel
  exact ⟨hapart, answers_eq_answersAlone digest (.leastRecent 0) .unbounded default steps hapart⟩

end NavigationBar.Template
