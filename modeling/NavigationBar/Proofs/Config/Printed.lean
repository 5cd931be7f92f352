import NavigationBar.CommandLine
import NavigationBar.Proofs.Config.Documents
import NavigationBar.Proofs.Config.RoundTrip
import NavigationBar.Proofs.Json.Reading

/-!
# Loading what is printed

A configuration that was loaded is loaded again, as it was, from the value that is written of it,
and lacks nothing then either. The command that checks a configuration prints that value as a text,
and the text is loaded as the same configuration exactly if the reader of texts allows for its
brackets: other documents may be nested deeper than that.
-/

namespace NavigationBar

namespace Config

/-- A value is a valid configuration if it decodes to one all of whose routes have what they
need. -/
theorem ofJson_eq_ok {v : Json} {c : Config} :
    ofJson v = .ok c ↔ decode .document v = .ok c ∧ firstFault? 0 c.routes = none := by
  unfold ofJson
  cases hdecode : decode .document v with
  | error e => simp
  | ok d =>
    cases hfault : firstFault? 0 d.routes with
    | none =>
      have heq : d = c → firstFault? 0 c.routes = none := fun h => h ▸ hfault
      simpa [hfault] using heq
    | some fault =>
      have hne : d = c → firstFault? 0 c.routes ≠ none := fun h => by simp [← h, hfault]
      simpa [hfault] using hne

theorem yields_of_ofJson {v : Json} {c : Config} (hv : v.WellFormed) (h : ofJson v = .ok c) :
    Decode.Yields decode c :=
  ⟨.document, v, hv, (ofJson_eq_ok.mp h).1⟩

/-- What is written of a valid configuration is that configuration. -/
theorem ofJson_sorted_toJson {v : Json} {c : Config} (hv : v.WellFormed) (h : ofJson v = .ok c) :
    ofJson c.toJson.sorted = .ok c :=
  ofJson_eq_ok.mpr
    ⟨roundTrips.again c (yields_of_ofJson hv h) .document, (ofJson_eq_ok.mp h).2⟩

theorem load_eq_of_read {text : String} {path : Option String} {v : Json}
    (hread : readDocument text path = .ok v) : load text path none = ofDocument v path := by
  have hvalue : applyTemplate v none = v := by cases v <;> rfl
  simp [load, hread, bind, Except.bind, hvalue]

theorem ofDocument_eq_ok {v : Json} {c : Config} (h : ofJson v = .ok c) (path : Option String) :
    ofDocument v path = .ok c := by
  rw [ofDocument, h]
  rfl

/-- The text of a configuration is loaded as the configuration that it was written from, if it is
legible and the reader allows for its brackets; else that is what it is refused for. -/
theorem load_pretty {v : Json} {c : Config} (hv : v.WellFormed) (h : ofJson v = .ok c)
    (hlegible : c.toJson.Legible) {path : Option String} (hpath : path.any isRonPath = false) :
    (c.toJson.depth < Json.depthLimit → load c.toJson.pretty path none = .ok c) ∧
      (¬ c.toJson.depth < Json.depthLimit → ∃ place,
        load c.toJson.pretty path none
          = .error (.json path .recursionLimit place c.toJson.pretty)) := by
  have hparse := Json.parse_pretty (roundTrips.fits c (yields_of_ofJson hv h)) hlegible
  constructor
  · intro hdepth
    have hread : readDocument c.toJson.pretty path = .ok c.toJson.sorted := by
      rw [readDocument, hpath, hparse.1 hdepth]
      rfl
    rw [load_eq_of_read hread]
    exact ofDocument_eq_ok (ofJson_sorted_toJson hv h) path
  · intro hdepth
    obtain ⟨place, hplace⟩ := hparse.2 hdepth
    refine ⟨place, ?_⟩
    rw [load, readDocument, hpath, hplace]
    rfl

/-- A configuration that was loaded without templates is what the value of its document makes. -/
theorem exists_value_of_load {text : String} {path : Option String} {c : Config}
    (h : load text path none = .ok c) : ∃ v, v.WellFormed ∧ ofJson v = .ok c := by
  cases hread : readDocument text path with
  | error e =>
    rw [load, hread] at h
    cases h
  | ok v =>
    rw [load_eq_of_read hread, ofDocument] at h
    refine ⟨v, wellFormed_of_readDocument hread, ?_⟩
    cases hvalue : ofJson v with
    | error e =>
      rw [hvalue] at h
      cases h
    | ok d =>
      rw [hvalue] at h
      cases h
      rfl

theorem run_check {read : String → Except String String} {file text : String} {c : Config}
    (hfile : read file = .ok text) (hload : load text (some file) none = .ok c) :
    Command.run read (.check file true) = .ok c.toJson.pretty := by
  simp [Command.run, hfile, hload]

/-- A run that prints a configuration has loaded it. -/
theorem exists_load_of_run {read : String → Except String String} {file dump : String}
    (h : Command.run read (.check file true) = .ok dump) :
    ∃ text c, read file = .ok text ∧ load text (some file) none = .ok c ∧
      dump = c.toJson.pretty := by
  cases hfile : read file with
  | error reason => simp [Command.run, hfile] at h
  | ok text =>
    cases hload : load text (some file) none with
    | error e => simp [Command.run, hfile, hload] at h
    | ok c =>
      simp only [Command.run, hfile, hload, if_true, Except.ok.injEq] at h
      exact ⟨text, c, rfl, hload, h.symm⟩

/-- What is written of a valid configuration is that configuration, and valid. What is printed of it
when its document is checked is loaded as that configuration exactly if it is not nested too deeply,
provided that the doubles in it are read back from their texts. -/
theorem loaded_again :
    (∀ v c, v.WellFormed → ofJson v = .ok c →
      c.toJson.sorted.WellFormed ∧ ofJson c.toJson.sorted = .ok c) ∧
    ∀ read file dump, Command.run read (.check file true) = .ok dump →
      ∃ text c, read file = .ok text ∧ load text (some file) none = .ok c ∧
        dump = c.toJson.pretty ∧
        (c.toJson.Legible → ∀ path, path.any isRonPath = false →
          (load dump path none = .ok c ↔ c.toJson.depth < Json.depthLimit)) := by
  constructor
  · intro v c hv h
    have hfits := roundTrips.fits c (yields_of_ofJson hv h)
    exact ⟨hfits.wellFormed_sorted, ofJson_sorted_toJson hv h⟩
  · intro read file dump hrun
    obtain ⟨text, c, hfile, hload, rfl⟩ := exists_load_of_run hrun
    refine ⟨text, c, hfile, hload, rfl, fun hlegible path hpath => ?_⟩
    obtain ⟨v, hv, h⟩ := exists_value_of_load hload
    have hpretty := load_pretty hv h hlegible hpath
    refine ⟨fun heq => ?_, hpretty.1⟩
    by_contra hdepth
    obtain ⟨place, hplace⟩ := hpretty.2 hdepth
    rw [hplace] at heq
    cases heq

/-! ## Nested documents

RON documents may be nested deeper than the reader of printed texts allows for.
-/

/-- A RON document with a route whose icon is so many brackets deep. -/
def nestedDocument (n : Nat) : List Char :=
  "(routes:[(icon:".toList ++ List.replicate n '[' ++ List.replicate n ']' ++ ",url:\"/\")])".toList

/-- Whether characters are read as RON, as a valid configuration without doubles that is nested so
deep. -/
def loadsNested (cs : List Char) (depth : Nat) : Bool :=
  match Ron.parseChars? cs with
  | some v =>
    match ofJson v with
    | .ok c => c.toJson.depth == depth && !c.toJson.holdsDouble
    | .error _ => false
  | none => false

theorem exists_load_of_loadsNested {cs : List Char} {depth : Nat}
    (h : loadsNested cs depth = true) :
    ∃ c, load (String.ofList cs) (some "bar.ron") none = .ok c ∧ c.toJson.depth = depth ∧
      c.toJson.Legible := by
  have hron : (some "bar.ron").any isRonPath = true := by decide
  unfold loadsNested at h
  split at h
  · rename_i v hparse
    have hread : readDocument (String.ofList cs) (some "bar.ron") = .ok v := by
      rw [readDocument, if_pos hron, Ron.parse?, String.toList_ofList, hparse]
    split at h
    · rename_i c hvalue
      rw [Bool.and_eq_true, beq_iff_eq, Bool.not_eq_true'] at h
      refine ⟨c, ?_, h.1, Json.legible_of_holdsDouble h.2⟩
      rw [load_eq_of_read hread]
      exact ofDocument_eq_ok hvalue _
    · cases h
  · cases h

theorem loadsNested_nestedDocument {n : Nat} (h : n = 124 ∨ n = 125) :
    loadsNested (nestedDocument n) (n + 3) = true := by
  rcases h with rfl | rfl
  · decide +kernel
  · decide +kernel

/-- The value of a document with a plain route. -/
def plainValue : Json :=
  .object [("routes", .array [.object [("icon", .string "mdi:home"), ("url", .string "/")]])]

theorem wellFormed_plainValue : plainValue.WellFormed := by
  have hkeys : "icon" < "url" := by decide +kernel
  have hroute : Json.WellFormed (.object [("icon", .string "mdi:home"), ("url", .string "/")]) :=
    .object _ (by simpa [Fields.Ascending] using hkeys) (by simp [Json.WellFormed.string])
  have hroutes := Json.WellFormed.array _ (List.forall_mem_singleton.mpr hroute)
  exact .object _ (by simp [Fields.Ascending]) (List.forall_mem_singleton.mpr hroutes)

theorem ofJson_plainValue : ofJson plainValue = .ok
    { routes := [{ item := { icon := some (.string "mdi:home"), url := some "/" } }] } := rfl

/-- The value with a plain route, and the deepest of the nested documents that are loaded again from
what is printed of them. -/
theorem loaded_again_nested :
    (∃ c, ofJson plainValue = .ok c ∧ ofJson c.toJson.sorted = .ok c) ∧
    ∃ c dump,
      load (String.ofList (nestedDocument 124)) (some "bar.ron") none = .ok c ∧
      Command.run (fun _ => .ok (String.ofList (nestedDocument 124))) (.check "bar.ron" true)
        = .ok dump ∧
      load dump none none = .ok c := by
  constructor
  · have hagain := loaded_again.1 plainValue _ wellFormed_plainValue ofJson_plainValue
    exact ⟨_, ofJson_plainValue, hagain.2⟩
  · obtain ⟨c, hload, hdepth, hlegible⟩ :=
      exists_load_of_loadsNested (loadsNested_nestedDocument (Or.inl rfl))
    generalize String.ofList (nestedDocument 124) = document at hload ⊢
    have hrun := @run_check (fun _ => .ok document) _ _ _ rfl hload
    obtain ⟨text, d, hfile, hload', hdump, hagain⟩ := loaded_again.2 _ _ _ hrun
    cases hfile
    rw [hload] at hload'
    cases hload'
    refine ⟨c, c.toJson.pretty, hload, hrun, (hagain hlegible none rfl).mpr ?_⟩
    rw [hdepth]
    decide

/-- One bracket more, and what is printed is refused for its depth. -/
theorem not_loaded_again_nested :
    ∃ c dump place,
      load (String.ofList (nestedDocument 125)) (some "bar.ron") none = .ok c ∧
      Command.run (fun _ => .ok (String.ofList (nestedDocument 125))) (.check "bar.ron" true)
        = .ok dump ∧
      load dump (some "bar.json") none
        = .error (.json (some "bar.json") .recursionLimit place dump) := by
  have hjson : (some "bar.json").any isRonPath = false := by decide
  obtain ⟨c, hload, hdepth, hlegible⟩ :=
    exists_load_of_loadsNested (loadsNested_nestedDocument (Or.inr rfl))
  obtain ⟨v, hv, h⟩ := exists_value_of_load hload
  have hdeep : ¬ c.toJson.depth < Json.depthLimit := by rw [hdepth]; decide
  obtain ⟨place, hplace⟩ := (load_pretty hv h hlegible hjson).2 hdeep
  exact ⟨c, c.toJson.pretty, place, hload, run_check rfl hload, hplace⟩

end Config

end NavigationBar
