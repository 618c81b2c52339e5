import Orthography.Proofs.FilePath.Joining
import Orthography.Proofs.Json.Plain
import Orthography.Proofs.Json.RoundTrip
import Orthography.Proofs.Policy.Options
import Orthography.Proofs.Settings.Merging

/-! Settings that are written as JSON and loaded again. All that is written is read as what it was,
and word lists are then found from the directory of the file. -/
namespace Orthography.Settings

open Json (Cursor Reads Rearranged Value Writable)
open Schema

section Dictionaries

theorem setDictionary_of_forall_lt {language : String} {dictionaries : Dictionaries}
    (before : ∀ entry ∈ dictionaries, entry.1 < language) (path : String) :
    setDictionary language path dictionaries = dictionaries ++ [(language,path)] := by
  induction dictionaries with
  | nil => rfl
  | cons first rest ih =>
    obtain ⟨here,later⟩ := List.forall_mem_cons.mp before
    have notBefore : ¬language < first.1 := String.lt_asymm here
    have notSame : language ≠ first.1 := (Std.ne_of_lt here).symm
    rw [setDictionary,if_neg notBefore,if_neg notSame,ih later,List.cons_append]

/-- Word lists that are set in the order of their languages are what is set. -/
theorem setDictionaries_append {front added : Dictionaries} (ordered : Ordered (front ++ added)) :
    setDictionaries added front = front ++ added := by
  induction added generalizing front with
  | nil => exact (List.append_nil front).symm
  | cons first rest ih =>
    have before : ∀ entry ∈ front, entry.1 < first.1 := by
      intro entry member
      exact (List.pairwise_append.mp ordered).2.2 entry member first List.mem_cons_self
    have regrouped : front ++ first :: rest = (front ++ [first]) ++ rest := by simp
    rw [regrouped] at ordered ⊢
    rw [← ih ordered]
    exact congrArg (setDictionaries rest) (setDictionary_of_forall_lt before first.2)

def listed (dictionaries : Dictionaries) : Value :=
  .record (dictionaries.map fun entry => (entry.1,.text entry.2))

theorem readDictionaries_listed {dictionaries : Dictionaries} (ordered : Ordered dictionaries)
    (room : Nat) :
    readDictionaries (⟨listed dictionaries,room + 1⟩ : Cursor) = .ok dictionaries := by
  let pairs := dictionaries.map fun entry => (entry.1,(⟨.text entry.2,room⟩ : Cursor))
  have entries : Cursor.entries ⟨listed dictionaries,room + 1⟩ = .ok pairs := by
    simp only [Cursor.entries,listed,Cursor.inside,List.map_map,pairs]
    rfl
  have each : pairs.mapM (fun entry => do pure (entry.1,← Source.text entry.2)) =
      (.ok dictionaries : Except Mismatch Dictionaries) := by
    clear entries ordered
    induction dictionaries with
    | nil => rfl
    | cons first rest ih =>
      simp only [pairs] at ih ⊢
      rw [List.map_cons,List.mapM_cons,ih]
      rfl
  have set : setDictionaries dictionaries [] = dictionaries := @setDictionaries_append [] _ ordered
  change (do
    let entries ← Cursor.entries ⟨listed dictionaries,room + 1⟩
    let added ← entries.mapM fun entry => do pure (entry.1,← Source.text entry.2)
    pure (setDictionaries added [])) = (.ok dictionaries : Except Mismatch Dictionaries)
  rw [entries,Json.ok_bind,each,Json.ok_bind,set]
  rfl

end Dictionaries

section Fields

theorem read_engine (engine : Engine) (room : Nat) :
    Engine.read (⟨engine.toJson,room + 1⟩ : Cursor) = .ok engine := by
  cases engine
  rfl

theorem read_output (output : Output) (room : Nat) :
    Output.read (⟨output.toJson,room + 1⟩ : Cursor) = .ok output := by
  obtain ⟨format,color,verbose,statistics⟩ := output
  cases format <;> cases color <;> rfl

theorem readExclude_eq (patterns : List String) (room : Nat) :
    readExclude (⟨.record [("exclude",.ofTexts patterns)],room + 2⟩ : Cursor) = .ok patterns := by
  have each : List.Forall₂
      (fun pattern item => Source.text (⟨item,room⟩ : Cursor) = .ok pattern)
      patterns (patterns.map Value.text) := by
    rw [List.forall₂_map_right_iff,List.forall₂_same]
    exact fun _ _ => rfl
  exact Json.listOf_of_forall₂ each

end Fields

/-- Settings are read as they are written, if what their options are written as is read as them. -/
theorem read_fieldsWith {settings : Settings} {options : Value}
    (ordered : Ordered settings.dictionaries) (reads : Reads settings.identifierSpelling options)
    (shallow : options.nesting ≤ 126) :
    read (Cursor.ofValue (.record (settings.fieldsWith options))) = .ok settings := by
  have names : (settings.fieldsWith options).map Prod.fst =
      ["engine","output","files","dictionaries","identifier_spelling"] := rfl
  have distinct : ((settings.fieldsWith options).map Prod.fst).Nodup := by
    rw [names]
    decide
  have whole := Rearranged.refl (fun _ => False) (settings.fieldsWith options)
  have opened : Source.record _ (Cursor.ofValue (.record (settings.fieldsWith options))) = _ :=
    Cursor.record_eq (whole.apart distinct) 126
  rw [names] at opened
  have engine := read_engine settings.engine 125
  have output := read_output settings.output 125
  have exclude := readExclude_eq settings.exclude 124
  have dictionaries := readDictionaries_listed ordered 125
  have given : Source.untyped (⟨options,126⟩ : Cursor) = .ok settings.identifierSpelling :=
    reads.read 126 shallow
  have fields : (settings.fieldsWith options).lookup "engine" = some settings.engine.toJson ∧
      (settings.fieldsWith options).lookup "output" = some settings.output.toJson ∧
      (settings.fieldsWith options).lookup "files" =
        some (.record [("exclude",.ofTexts settings.exclude)]) ∧
      (settings.fieldsWith options).lookup "dictionaries" = some (listed settings.dictionaries) ∧
      (settings.fieldsWith options).lookup "identifier_spelling" = some options :=
    ⟨rfl,rfl,rfl,rfl,rfl⟩
  simp only [read,opened,Json.ok_bind,fields,Option.map_some,defaulting,engine,output,exclude,
    dictionaries,given]
  rfl

theorem writable_fieldsWith {settings : Settings} (small : settings.engine.jobs < Numeral.bound 64)
    {options : Value} (writable : Writable options) :
    Writable (.record (settings.fieldsWith options)) := by
  have engine : Writable settings.engine.toJson := by
    refine .record fun field member => ?_
    simp only [List.mem_cons,List.not_mem_nil,or_false] at member
    rcases member with rfl | rfl
    · exact .bool _
    · exact .natural small
  have output : Writable settings.output.toJson := by
    refine .record fun field member => ?_
    simp only [List.mem_cons,List.not_mem_nil,or_false] at member
    rcases member with rfl | rfl | rfl | rfl
    · exact .text _
    · exact .text _
    · exact .bool _
    · exact .bool _
  have files : Writable (.record [("exclude",.ofTexts settings.exclude)]) :=
    .record (List.forall_mem_singleton.mpr (.ofTexts settings.exclude))
  have dictionaries : Writable (listed settings.dictionaries) :=
    .record (List.forall_mem_map.mpr fun entry _ => .text entry.2)
  refine .record fun field member => ?_
  simp only [fieldsWith,List.mem_cons,List.not_mem_nil,or_false] at member
  rcases member with rfl | rfl | rfl | rfl | rfl
  · exact engine
  · exact output
  · exact files
  · exact dictionaries
  · exact writable

section Options

/-- Only a list of words nests anything among the values that options take. -/
theorem nesting_of_set? {policy later : Policy} {setting : Policy.Setting} {value : Untyped}
    {json : Value} (plain : value.Plain) (reads : Reads value json)
    (taken : policy.set? value setting = some later) : json.nesting ≤ 1 := by
  have written := reads.written
  cases plain with
  | @list items each =>
    obtain ⟨words,given⟩ : ∃ words, items.mapM Untyped.text? = some words := by
      cases setting with
      | excluded =>
        obtain ⟨words,given,-⟩ := Option.map_eq_some_iff.mp taken
        exact ⟨words,given⟩
      | _ => cases taken
    obtain rfl := (Untyped.mapM_text?_eq_some fun item member => (each item member).isUntagged).mp
      given
    have texts : List.Forall₂ Reads (words.map .text) (words.map .text) := by
      rw [List.forall₂_map_right_iff,List.forall₂_map_left_iff,List.forall₂_same]
      exact fun s _ => ⟨rfl,.text s,fun _ _ => rfl⟩
    obtain rfl := Option.some.inj ((Reads.list texts).written.symm.trans written)
    exact (Value.nesting_ofTexts words).le
  | mapping each distinct => cases setting <;> cases taken
  | _ =>
    obtain rfl := Option.some.inj written
    exact Nat.zero_le 1

theorem exists_set?_of_foldlM {policy later : Policy} {entries : List (Untyped × Untyped)}
    (taken : entries.foldlM Policy.setEntry policy = .ok later) :
    ∀ entry ∈ entries, ∃ (before after : Policy) (setting : Policy.Setting),
      before.set? entry.2 setting = some after := by
  induction entries generalizing policy with
  | nil => exact List.forall_mem_nil _
  | cons entry rest ih =>
    obtain ⟨between,first,others⟩ := Policy.foldlM_setEntry_cons.mp taken
    obtain ⟨setting,-,set⟩ := Policy.exists_set?_of_setEntry first
    exact List.forall_mem_cons.mpr ⟨⟨policy,between,setting,set⟩,ih others⟩

theorem nestingOfFields_of_reads {depth : Nat} {fields : List (String × Untyped)}
    {jsons : List (String × Value)} (all : List.Forall₂ Reads.Field fields jsons)
    (each : ∀ field ∈ fields, ∀ json, Reads field.2 json → json.nesting ≤ depth) :
    Value.nestingOfFields jsons ≤ depth := by
  induction all with
  | nil => exact Nat.zero_le depth
  | cons first _ ih =>
    obtain ⟨here,later⟩ := List.forall_mem_cons.mp each
    exact Nat.max_le.mpr ⟨here _ first.2,ih later⟩

/-- Options that make a policy nest no deeper than a list in a mapping. -/
theorem exists_reads_of_policy {options : Untyped} {own : Policy} (plain : options.Plain)
    (accepted : Policy.ofOptions options = .ok own) :
    ∃ json, Reads options json ∧ json.nesting ≤ 2 := by
  cases plain with
  | null => exact ⟨.null,⟨rfl,.null,fun _ _ => rfl⟩,Nat.zero_le 2⟩
  | @mapping fields each distinct =>
    obtain ⟨jsons,all⟩ :=
      Reads.exists_fields fun field member => Json.exists_reads (each field member)
    refine ⟨.record jsons,Reads.mapping all distinct,Nat.succ_le_succ ?_⟩
    refine nestingOfFields_of_reads all fun field member json reads => ?_
    obtain ⟨before,after,setting,set⟩ :=
      exists_set?_of_foldlM accepted _ (List.mem_map_of_mem member)
    exact nesting_of_set? (each field member) reads set
  | _ => cases accepted

end Options

/-- Settings that a program can hold: the number of workers has 64 bits, the languages come in
order, and the options are plain and make a policy. -/
structure Storable (settings : Settings) : Prop where
  jobs : settings.engine.jobs < Numeral.bound 64
  ordered : Ordered settings.dictionaries
  plain : settings.identifierSpelling.Plain
  accepted : ∃ own, settings.policy = .ok own

/-- A word list as it is found from a directory: at the path joined to it. Only where the directory
ends in idle segments may that be spelled otherwise. -/
structure ListedIn (directory : String) (entry found : String × String) : Prop where
  language : found.1 = entry.1
  leads : FilePath.parts found.2 = FilePath.parts (FilePath.join directory entry.2)
  path : FilePath.isAbsolute entry.2 = true ∨ FilePath.Settled directory →
    found.2 = FilePath.join directory entry.2

structure FoundIn (directory : String) (settings found : Settings) : Prop where
  engine : found.engine = settings.engine
  output : found.output = settings.output
  exclude : found.exclude = settings.exclude
  identifierSpelling : found.identifierSpelling = settings.identifierSpelling
  dictionaries : List.Forall₂ (ListedIn directory) settings.dictionaries found.dictionaries

theorem FoundIn.dictionaries_of_settled {directory : String} {settings found : Settings}
    (foundIn : FoundIn directory settings found) (settled : FilePath.Settled directory) :
    found.dictionaries =
      settings.dictionaries.map fun entry => (entry.1,FilePath.join directory entry.2) := by
  have each : List.Forall₂ (· = ·)
      (settings.dictionaries.map fun entry => (entry.1,FilePath.join directory entry.2))
      found.dictionaries := by
    rw [List.forall₂_map_left_iff]
    refine foundIn.dictionaries.imp fun entry list listed => ?_
    exact Prod.ext listed.language.symm (listed.path (.inr settled)).symm
  rw [List.forall₂_eq_eq_eq] at each
  exact each.symm

theorem foundIn_settle (settings : Settings) {name : String} (single : '/' ∉ name.toList)
    (counts : FilePath.isIdle name = false) (directory : String) :
    FoundIn directory settings (settings.settle (FilePath.join directory name)) := by
  obtain ⟨found,parent,same,leads⟩ := FilePath.exists_parent?_join single counts directory
  refine ⟨rfl,rfl,rfl,rfl,?_⟩
  simp only [settle,parent,Option.getD_some]
  rw [List.forall₂_map_right_iff,List.forall₂_same]
  intro entry _
  refine ⟨rfl,leads entry.2,fun alike => ?_⟩
  rcases alike with absolute | settled
  · exact (FilePath.join_of_isAbsolute absolute found).trans
      (FilePath.join_of_isAbsolute absolute directory).symm
  · exact congrArg (FilePath.join · entry.2) (same settled)

theorem ofText_fieldsWith {settings : Settings} (storable : Storable settings) {options : Value}
    (reads : Reads settings.identifierSpelling options) (shallow : options.nesting ≤ 126)
    {layout : Json.Layout} (blank : layout.Blank) {path : String}
    (json : FilePath.extension path = "json") :
    ofText path ((Value.record (settings.fieldsWith options)).render layout) =
      .ok (settings.settle path) := by
  obtain ⟨own,accepted⟩ := storable.accepted
  have writable := writable_fieldsWith storable.jobs reads.writable
  have parsed := Json.ofText_render blank writable
  exact ofText_of_json json parsed (read_fieldsWith storable.ordered reads shallow) accepted

section Load

variable {m : Type → Type} [Monad m] [LawfulMonad m]

/-- Settings are found again in a file that they are written to. -/
theorem exists_load_of_storable (files : Files m) {settings : Settings}
    (storable : Storable settings) :
    ∃ value, settings.toJson? = some value ∧
      ∀ layout, Json.Layout.Blank layout → ∀ directory name,
        '/' ∉ name.toList → FilePath.extension name = "json" →
        files.read (FilePath.join directory name) = pure (.ok (value.render layout)) →
        ∃ found, load files (FilePath.join directory name) = pure (.ok found) ∧
          FoundIn directory settings found := by
  obtain ⟨own,accepted⟩ := storable.accepted
  obtain ⟨options,reads,shallow⟩ := exists_reads_of_policy storable.plain accepted
  refine ⟨.record (settings.fieldsWith options),?_,?_⟩
  · rw [toJson?,reads.written]
    rfl
  intro layout blank directory name single json written
  have counts : FilePath.isIdle name = false :=
    FilePath.isIdle_of_extension (by rw [json]; decide)
  have extended := (FilePath.extension_join single counts directory).trans json
  have loaded := ofText_fieldsWith storable reads (by omega) blank extended
  refine ⟨_,?_,foundIn_settle settings single counts directory⟩
  rw [load,written,pure_bind,← loaded]

/-- Settings survive being written and loaded, but that word lists are then found from the
directory of the file. Settings that are loaded, wherever they come from, keep their policy, and all
else that no override has a part for, under any overrides one after the other; of these the last
one that names a part counts. -/
theorem load_written_merged [MonadAttach m] [LawfulMonadAttach m] (files : Files m) :
    (∀ settings, Storable settings → ∃ value, settings.toJson? = some value ∧
      ∀ layout, Json.Layout.Blank layout → ∀ directory name,
        '/' ∉ name.toList → FilePath.extension name = "json" →
        files.read (FilePath.join directory name) = pure (.ok (value.render layout)) →
        ∃ found, load files (FilePath.join directory name) = pure (.ok found) ∧
          FoundIn directory settings found) ∧
      ∀ base, Loaded files base → (∃ own, base.policy = .ok own) ∧
        ∀ steps, Merged base steps (steps.foldl merge base) := by
  refine ⟨fun settings storable => exists_load_of_storable files storable,
    fun base loaded => ⟨loaded.exists_policy,fun steps => ?_⟩⟩
  have start := Merged.nil loaded.ordered
  exact start.foldl steps

/-- Settings with a relative and an absolute word list, loaded from a directory and merged twice. -/
theorem load_written_merged_lists :
    let options := Untyped.mapping [(.text "min_length",.integer 5)]
    let settings : Settings := ⟨⟨false,2⟩,⟨.json,.never,false,true⟩,["*.gen"],
      [("en","words.txt"),("fi","/lists/fi.txt")],options⟩
    let value := Value.record (settings.fieldsWith (.record [("min_length",.natural 5)]))
    let files : Files Id :=
      ⟨fun _ => .ok (value.render .pretty),fun _ => true,fun _ => true,fun _ => false,fun _ => [],
        none⟩
    let steps : List Override :=
      [⟨some .text,none,some 3,[("fi","fi.txt")]⟩,⟨none,some true,some 4,[("de","de.txt")]⟩]
    Storable settings ∧ ∃ found, (load files "conf/identspell.json").run = .ok found ∧
      found.dictionaries = [("en","conf/words.txt"),("fi","/lists/fi.txt")] ∧
      Loaded files found ∧ (steps.foldl merge found).output.format = .text ∧
      (steps.foldl merge found).engine.jobs = 4 ∧
      (steps.foldl merge found).dictionaries.lookup "fi" = some "fi.txt" := by
  intro options settings value files steps
  have plain : settings.identifierSpelling.Plain := by
    have five : Untyped.Plain (.integer 5) := @Untyped.Plain.natural 5 (by decide)
    exact @Untyped.Plain.mapping [("min_length",.integer 5)] (List.forall_mem_singleton.mpr five)
      (List.nodup_singleton _)
  have ordered : Ordered settings.dictionaries :=
    List.pairwise_pair.mpr (show "en" < "fi" by decide)
  have storable : Storable settings :=
    ⟨show 2 < Numeral.bound 64 by decide,ordered,plain,{ Policy.default with minLength := 5 },rfl⟩
  obtain ⟨written,mergedAll⟩ := load_written_merged files
  obtain ⟨same,given,again⟩ := written settings storable
  obtain rfl : value = same := Option.some.inj given
  obtain ⟨found,loaded,foundIn⟩ := again .pretty Json.Layout.blank_pretty "conf" "identspell.json"
    (by decide +kernel) (by decide +kernel) rfl
  have place : FilePath.join "conf" "identspell.json" = "conf/identspell.json" := by decide +kernel
  rw [place] at loaded
  have lists : found.dictionaries = [("en","conf/words.txt"),("fi","/lists/fi.txt")] := by
    have settled : FilePath.Settled "conf" :=
      .inr ⟨"conf",by decide +kernel,by decide +kernel⟩
    rw [foundIn.dictionaries_of_settled settled]
    decide +kernel
  have origin : Loaded files found := .inl ⟨_,loaded⟩
  obtain ⟨-,merged⟩ := mergedAll found origin
  have after := merged steps
  refine ⟨storable,found,loaded,lists,origin,?_,?_,?_⟩
  · rw [after.format]
    rfl
  · rw [after.jobs]
    rfl
  · rw [after.dictionaries]
    rfl

end Load

end Orthography.Settings
