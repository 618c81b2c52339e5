import Orthography.CommandLine.Run
import Orthography.Proofs.Policy.Options
import Orthography.Proofs.Settings.Dictionaries

/-! Which settings and which policy are in force. One place decides, the one that the arguments
name or else the first of the known ones that holds anything; then the arguments go over what was
loaded from there, part by part. No other file has an influence. -/
namespace Orthography.CommandLine

open Settings (Ordered)

def settingsPlace? (files : Files Id) (arguments : Arguments) : Option String :=
  match arguments.config with
  | some path => some path
  | none => (Settings.candidates files.home).find? fun path => (files.holds path).run

def settingsAt (files : Files Id) : Option String → Except Settings.Fault Settings
  | some path => (Settings.load files path).run
  | none => .ok .default

theorem firstHeld?_run (files : Files Id) (paths : List String) :
    (Settings.firstHeld? files paths).run = paths.find? fun path => (files.holds path).run := by
  induction paths with
  | nil => rfl
  | cons path rest ih =>
    rw [Settings.firstHeld?,Id.run_bind,List.find?_cons]
    cases (files.holds path).run with
    | true => rfl
    | false => exact ih

theorem loadSettings_run (files : Files Id) (arguments : Arguments) :
    (loadSettings files arguments).run =
      (settingsAt files (settingsPlace? files arguments)).mapError (.settings arguments.config) := by
  cases given : arguments.config with
  | some path => simp [loadSettings,settingsPlace?,settingsAt,given]
  | none =>
    simp only [loadSettings,settingsPlace?,given,Settings.loadFound,Id.run_bind,firstHeld?_run]
    cases (Settings.candidates files.home).find? fun path => (files.holds path).run <;> rfl

/-- The first known place that holds anything is the one that counts. -/
theorem settingsPlace?_eq_some {files : Files Id} {arguments : Arguments} {before after : List String}
    {path : String} (unnamed : arguments.config = none)
    (listed : Settings.candidates files.home = before ++ path :: after)
    (missing : ∀ other ∈ before, (files.holds other).run = false)
    (held : (files.holds path).run = true) : settingsPlace? files arguments = some path := by
  simp only [settingsPlace?,unnamed]
  exact List.find?_eq_some_iff_append.mpr
    ⟨held,before,after,listed,fun other member => by simp [missing other member]⟩

theorem settingsPlace?_eq_none {files : Files Id} {arguments : Arguments}
    (unnamed : arguments.config = none)
    (missing : ∀ path ∈ Settings.candidates files.home, (files.holds path).run = false) :
    settingsPlace? files arguments = none := by
  simp only [settingsPlace?,unnamed]
  exact List.find?_eq_none.mpr fun path member => by simp [missing path member]

/-- Two file systems that agree on which places hold anything, up to the first that does, and on
what can be read there. Behind it they may differ. -/
inductive SameFirst (files others : Files Id) : List String → List String → Prop
  | held {path : String} {rest others' : List String} (own : (files.holds path).run = true)
      (other : (others.holds path).run = true) (same : files.read path = others.read path) :
      SameFirst files others (path :: rest) (path :: others')
  | missing {path path' : String} {rest rest' : List String}
      (own : (files.holds path).run = false) (other : (others.holds path').run = false)
      (later : SameFirst files others rest rest') :
      SameFirst files others (path :: rest) (path' :: rest')
  | nowhere : SameFirst files others [] []

theorem settingsAt_congr {files others : Files Id} {place : Option String}
    (same : ∀ path, place = some path → files.read path = others.read path) :
    settingsAt files place = settingsAt others place := by
  cases place with
  | none => rfl
  | some path => simp only [settingsAt,Settings.load,same path rfl]

theorem SameFirst.settingsAt_eq {files others : Files Id} {paths paths' : List String}
    (agree : SameFirst files others paths paths') :
    settingsAt files (paths.find? fun path => (files.holds path).run) =
      settingsAt others (paths'.find? fun path => (others.holds path).run) := by
  induction agree with
  | held own other same =>
    simp only [List.find?_cons,own,other]
    exact settingsAt_congr fun path found => Option.some.inj found ▸ same
  | missing own other _ ih =>
    simp only [List.find?_cons,own,other]
    exact ih
  | nowhere => rfl

/-- What decides about settings is what can be read at the path that the arguments name, else the
known places up to the first that holds anything. -/
theorem settingsAt_same {files others : Files Id} {arguments : Arguments}
    (same : match arguments.config with
      | some path => files.read path = others.read path
      | none => SameFirst files others (Settings.candidates files.home)
          (Settings.candidates others.home)) :
    settingsAt files (settingsPlace? files arguments) =
      settingsAt others (settingsPlace? others arguments) := by
  unfold settingsPlace?
  cases given : arguments.config with
  | some path =>
    simp only [given] at same
    exact settingsAt_congr fun other found => Option.some.inj found ▸ same
  | none =>
    simp only [given] at same
    exact same.settingsAt_eq

/-- What arguments make of settings and of the policy that these hold. A part that they name takes
the place of what was loaded, word lists language by language; excluded words come on top. -/
structure Overridden (arguments : Arguments) (base settings : Settings) (own policy : Policy) :
    Prop where
  jobs : settings.engine.jobs = arguments.jobs.getD base.engine.jobs
  format : settings.output.format = arguments.format.getD base.output.format
  verbose : settings.output.verbose = (arguments.verbose || base.output.verbose)
  /-- Of the word lists that the arguments name for a language the last one counts. -/
  dictionaries : ∀ language, settings.dictionaries.lookup language =
    (arguments.dictionaries.reverse.lookup language).or (base.dictionaries.lookup language)
  ordered : Ordered settings.dictionaries
  /-- What arguments have no part for. -/
  kept : settings.engine.parallel = base.engine.parallel ∧
    settings.output.color = base.output.color ∧
    settings.output.statistics = base.output.statistics ∧ settings.exclude = base.exclude ∧
    settings.identifierSpelling = base.identifierSpelling
  language : policy.language = arguments.language.getD own.language
  minLength : policy.minLength = arguments.minLength.getD own.minLength
  severity : policy.severity = arguments.severity.getD own.severity
  checkTypes : policy.checkTypes = own.checkTypes
  excluded : ∀ word, word ∈ policy.excluded ↔ word ∈ own.excluded ∨
    ∃ given ∈ arguments.exclude.getD [], word = Text.lower (Text.trim given)
  sorted : policy.excluded.Pairwise (· < ·)

theorem overridden (arguments : Arguments) {base : Settings} {own : Policy}
    (ordered : Ordered base.dictionaries) (sorted : own.excluded.Pairwise (· < ·)) :
    Overridden arguments base (base.merge arguments.override) own (arguments.adjust own) where
  jobs := rfl
  format := rfl
  verbose := by
    cases given : arguments.verbose <;> simp [Settings.merge,Arguments.override,given]
  dictionaries := Settings.lookup_setDictionaries _ _
  ordered := ordered.setDictionaries _
  kept := ⟨rfl,rfl,rfl,rfl,rfl⟩
  language := by rw [Arguments.adjust_eq]
  minLength := by rw [Arguments.adjust_eq]
  severity := by rw [Arguments.adjust_eq]
  checkTypes := by rw [Arguments.adjust_eq]
  excluded word := by
    simp only [Arguments.adjust_eq]
    rw [Text.mem_insertWords,or_comm]
    simp [eq_comm]
  sorted := by
    rw [Arguments.adjust_eq]
    exact Text.pairwise_insertWords sorted _

/-- Settings are only loaded with options that make a policy. -/
theorem exists_policy_of_settingsAt {files : Files Id} {place : Option String} {base : Settings}
    (loaded : settingsAt files place = .ok base) :
    ∃ own, base.policy = .ok own ∧ Ordered base.dictionaries := by
  cases place with
  | none =>
    obtain rfl := Except.ok.inj loaded
    exact ⟨.default,rfl,.nil⟩
  | some path =>
    simp only [settingsAt,Settings.load,Id.run_bind] at loaded
    split at loaded
    next => cases loaded
    next text _ =>
      obtain ⟨own,made⟩ := Settings.exists_policy_of_ofText loaded
      exact ⟨own,made,Settings.ordered_of_ofText loaded⟩

theorem configure_run (files : Files Id) (arguments : Arguments) :
    (configure files arguments).run =
      match settingsAt files (settingsPlace? files arguments) with
      | .error cause => .error (.settings arguments.config cause)
      | .ok base => ((base.merge arguments.override).policy.mapError Fault.policy).map
          fun own => (base.merge arguments.override,arguments.adjust own) := by
  rw [configure,Id.run_bind,loadSettings_run]
  cases settingsAt files (settingsPlace? files arguments) <;> rfl

/-- The settings and the policy of a run come from the file that the arguments name and from no
other; else from the first of twelve places that holds anything, six names in the working directory
before the same names in the home directory, even if nothing can be loaded from there, which is then
a failure; else they are the default ones. What the arguments name themselves goes over them. File
systems that agree on which places hold anything up to the first that does, and on its contents,
lead to the same. -/
theorem configure_precedence (files : Files Id) (arguments : Arguments) :
    let names := [".identspellrc.yaml",".identspellrc.yml",".identspellrc.json",
      "identspell.yaml","identspell.yml","identspell.json"]
    let places : Option String → List String
      | none => names
      | some home => names ++ names.map (FilePath.join home)
    let contents (path : String) : Except Settings.Fault Settings :=
      match (files.read path).run with
      | .error cause => .error (.unreadable cause)
      | .ok text => Settings.ofText path text
    let standard : Settings := ⟨⟨true,0⟩,⟨.text,.auto,false,true⟩,[],[],.null⟩
    let configured := (configure files arguments).run
    ∃ loaded : Except Settings.Fault Settings,
      (∀ path, arguments.config = some path → loaded = contents path) ∧
      (arguments.config = none →
        (∀ before path after, places files.home = before ++ path :: after →
          (∀ other ∈ before, (files.holds other).run = false) → (files.holds path).run = true →
            loaded = contents path) ∧
        ((∀ path ∈ places files.home, (files.holds path).run = false) →
          loaded = .ok standard ∧ standard.policy = .ok ⟨"en",4,[],.warning,true⟩)) ∧
      (∀ cause, loaded = .error cause → configured = .error (.settings arguments.config cause)) ∧
      (∀ base, loaded = .ok base → ∃ own settings policy, base.policy = .ok own ∧
        configured = .ok (settings,policy) ∧ Overridden arguments base settings own policy) ∧
      ∀ others : Files Id,
        (match arguments.config with
          | some path => files.read path = others.read path
          | none => SameFirst files others (places files.home) (places others.home)) →
        (configure others arguments).run = configured := by
  intro names places contents standard configured
  have known (home : Option String) : places home = Settings.candidates home := by
    cases home with
    | none => rfl
    | some home => simp [places,names,Settings.candidates,Settings.names]
  have held (path : String) : settingsAt files (some path) = contents path := by
    simp only [settingsAt,Settings.load,Id.run_bind,contents]
    cases (files.read path).run <;> rfl
  have whole := configure_run files arguments
  refine ⟨settingsAt files (settingsPlace? files arguments),?_,fun unnamed => ⟨?_,?_⟩,?_,?_,?_⟩
  · intro path named
    rw [← held,settingsPlace?,named]
  · intro before path after listed missing holds
    rw [known] at listed
    rw [← held,settingsPlace?_eq_some unnamed listed missing holds]
  · intro missing
    rw [known] at missing
    rw [settingsPlace?_eq_none unnamed missing]
    exact ⟨rfl,rfl⟩
  · intro cause failed
    simp only [configured,whole,failed]
  · intro base given
    obtain ⟨own,made,ordered⟩ := exists_policy_of_settingsAt given
    have same : (base.merge arguments.override).policy = .ok own := made
    refine ⟨own,_,_,made,?_,overridden arguments ordered (Policy.excluded_ofOptions made)⟩
    simp only [configured,whole,given,same]
    rfl
  · intro others same
    simp only [known] at same
    simp only [configured,whole,configure_run others,settingsAt_same same]

/-- A broken file in the working directory is in force over a good one in the home directory, unless
the arguments name that one. Without it the good one is found, and arguments go over it. -/
theorem configure_precedence_broken :
    let good := "\x7b\"dictionaries\":\x7b\"en\":\"en.txt\",\"fi\":\"fi.txt\"\x7d," ++
      "\"identifier_spelling\":\x7b\"min_length\":5,\"excluded\":[\"Garp\"]\x7d\x7d"
    let texts (broken : Bool) := ("/home/me/identspell.json",good) ::
      if broken then [(".identspellrc.json","[")] else []
    let files (broken : Bool) : Files Id :=
      { read := fun path => ((texts broken).lookup path).elim (.error .notFound) .ok
        holds := fun path => ((texts broken).lookup path).isSome
        isFile := fun path => ((texts broken).lookup path).isSome
        isDirectory := fun _ => false
        names := fun _ => []
        home := some "/home/me" }
    let arguments : Arguments :=
      { Arguments.blank with
        language := some "fi", dictionaries := [("fi","old.txt"),("fi","new.txt")],
        exclude := some [" SDK "] }
    let inForce (outcome : Except Fault (Settings × Policy)) := ∃ settings policy,
      outcome = .ok (settings,policy) ∧ settings.dictionaries.lookup "en" = some "/home/me/en.txt" ∧
      settings.dictionaries.lookup "fi" = some "new.txt" ∧ policy.language = "fi" ∧
      policy.minLength = 5 ∧ "garp" ∈ policy.excluded ∧ "sdk" ∈ policy.excluded
    (configure (files true) arguments).run = .error (.settings none (.malformed (.notJson .unfinished))) ∧
      inForce (configure (files true)
        { arguments with config := some "/home/me/identspell.json" }).run ∧
      inForce (configure (files false) arguments).run := by
  intro good texts files arguments inForce
  let value : Json.Value := .record [("dictionaries",.record [("en",.text "en.txt"),
    ("fi",.text "fi.txt")]),("identifier_spelling",.record [("min_length",.natural 5),
      ("excluded",.list [.text "Garp"])])]
  let written : Settings := ⟨.default,.default,[],[("en","en.txt"),("fi","fi.txt")],
    .mapping [(.text "min_length",.integer 5),(.text "excluded",.list [.text "Garp"])]⟩
  let own : Policy := ⟨"en",5,["garp"],.warning,true⟩
  have parsed : Json.Value.ofText good = .ok value := by
    unfold Json.Value.ofText
    -- one long text is slow to read, so its pieces are not joined
    dsimp only [good,-String.reduceAppend]
    repeat rw [String.toList_append]
    with_unfolding_all rfl
  have typed : (Settings.read (Json.Cursor.ofValue value) : Except Schema.Mismatch Settings) =
      .ok written := by with_unfolding_all rfl
  have accepted : written.policy = .ok own := by with_unfolding_all rfl
  have json : FilePath.extension "/home/me/identspell.json" = "json" := by decide +kernel
  let settled := written.settle "/home/me/identspell.json"
  have taken : Settings.ofText "/home/me/identspell.json" good = .ok settled :=
    Settings.ofText_of_json json parsed typed accepted
  have lists : settled.dictionaries = [("en","/home/me/en.txt"),("fi","/home/me/fi.txt")] := by
    decide +kernel
  have above {given : Arguments} {configured : Except Fault (Settings × Policy)}
      (same : given = { arguments with config := given.config })
      (loaded : ∃ own settings policy, settled.policy = .ok own ∧
        configured = .ok (settings,policy) ∧ Overridden given settled settings own policy) :
      inForce configured := by
    obtain ⟨_,settings,policy,made,rfl,applied⟩ := loaded
    obtain rfl := Except.ok.inj (made.symm.trans accepted)
    rw [same] at applied
    refine ⟨settings,policy,rfl,?_,?_,applied.language,applied.minLength,?_,?_⟩
    · rw [applied.dictionaries,lists]
      rfl
    · rw [applied.dictionaries,lists]
      rfl
    · exact (applied.excluded "garp").mpr (.inl (List.mem_singleton_self _))
    · exact (applied.excluded "sdk").mpr (.inr ⟨" SDK ",List.mem_singleton_self _,by decide +kernel⟩)
  refine ⟨?first,?named,?later⟩
  case first =>
    obtain ⟨loaded,-,unnamed,failed,-⟩ := configure_precedence (files true) arguments
    have broken : Json.Value.ofText "[" = .error .unfinished := by with_unfolding_all rfl
    have dot : FilePath.extension ".identspellrc.json" = "json" := by decide +kernel
    have chosen := (unnamed rfl).1 [".identspellrc.yaml",".identspellrc.yml"] ".identspellrc.json" _
      rfl (by decide +kernel) (by decide +kernel)
    exact failed _ (chosen.trans (Settings.ofText_of_broken dot broken))
  case named =>
    obtain ⟨loaded,named,-,-,succeeds,-⟩ := configure_precedence (files true)
      { arguments with config := some "/home/me/identspell.json" }
    exact above rfl (succeeds settled ((named _ rfl).trans taken))
  case later =>
    obtain ⟨loaded,-,unnamed,-,succeeds,-⟩ := configure_precedence (files false) arguments
    have chosen := (unnamed rfl).1 (Settings.candidates (some "/home/me")).dropLast
      "/home/me/identspell.json" [] (by decide +kernel) (by decide +kernel) (by decide +kernel)
    exact above rfl (succeeds settled (chosen.trans taken))

end Orthography.CommandLine
