import Orthography.Proofs.Declaration.Place
import Orthography.Proofs.Lint.Alone

/-! A declaration is judged by its own fields. Where one is replaced in a file, its own entry in the
report changes, and the entries of those around it, beside it and inside it stay as they are. -/
namespace Orthography.Lint

open Declaration (Document bare)
open Lexicon (Memo)

def entry (verdict : Declaration → Option Violation) (source : String)
    (declaration : Declaration) : Option Violation :=
  (verdict declaration).map (·.inFile source)

structure Framed (entry : Declaration → Option Violation) (before after : List Declaration)
    (node replacement : Declaration) (report later : Report) : Prop where
  declarationsChecked : later.declarationsChecked = report.declarationsChecked
  violations : report.violations =
    before.filterMap entry ++ (entry node).toList ++ after.filterMap entry
  replaced : later.violations =
    before.filterMap entry ++ (entry replacement).toList ++ after.filterMap entry
  /-- A replacement that overrides takes the entry away. -/
  overriding : ∀ mark ∈ replacement.attributes,
    mark = "override" ∨ mark = "source.decl.attribute.override" →
      later.violations = before.filterMap entry ++ after.filterMap entry

theorem Input.nodes_of_document {input : Input} {document : Document}
    (loaded : input.document = .ok document) : input.nodes = document.walk.length := by
  rw [nodes,loaded,Document.walk,(Declaration.listing_walkAll document.declarations).length]

theorem found_of_document (verdict : Declaration → Option Violation) {input : Input}
    {document : Document} (loaded : input.document = .ok document) :
    found verdict input =
      document.walk.filterMap (entry verdict (document.file.getD input.path)) := by
  rw [found,loaded]
  rfl

theorem filterMap_slot {α : Type} (entry : Declaration → Option α) (before after : List Declaration)
    (node : Declaration) : (before ++ node :: after).filterMap entry =
      before.filterMap entry ++ (entry node).toList ++ after.filterMap entry := by
  rw [List.filterMap_append,List.filterMap_cons,List.append_assoc]
  cases entry node <;> rfl

theorem violations_of_walk (verdict : Declaration → Option Violation) {input : Input}
    {document : Document} (loaded : input.document = .ok document) {before after : List Declaration}
    {node : Declaration} (walked : document.walk = before ++ node :: after) :
    (report verdict input).violations =
      before.filterMap (entry verdict (document.file.getD input.path)) ++
        (entry verdict (document.file.getD input.path) node).toList ++
        after.filterMap (entry verdict (document.file.getD input.path)) := by
  rw [report,violations_fileReport,found_of_document verdict loaded,walked,filterMap_slot]

theorem isOverride_of_mem {declaration : Declaration} {mark : String}
    (member : mark ∈ declaration.attributes)
    (overrides : mark = "override" ∨ mark = "source.decl.attribute.override") :
    declaration.isOverride = true := by
  apply List.any_eq_true.mpr
  refine ⟨mark,member,?_⟩
  rcases overrides with rfl | rfl <;> decide

/-- Verdicts on own fields alone, of which those that override have none. -/
structure OwnVerdicts (verdict : Declaration → Option Violation) : Prop where
  fields : ∀ declaration : Declaration, verdict declaration.bare = verdict declaration
  overriding : ∀ declaration : Declaration, declaration.isOverride = true →
    verdict declaration = none

theorem OwnVerdicts.filterMap_entry {verdict : Declaration → Option Violation}
    (own : OwnVerdicts verdict) {declarations others : List Declaration}
    (same : declarations.map bare = others.map bare) (source : String) :
    declarations.filterMap (entry verdict source) = others.filterMap (entry verdict source) := by
  have through (declarations : List Declaration) :
      (declarations.map bare).filterMap (entry verdict source) =
        declarations.filterMap (entry verdict source) := by
    rw [List.filterMap_map]
    congr 1
    funext declaration
    simp only [Function.comp_apply,entry,own.fields]
  rw [← through,same,through]

theorem ownVerdicts_answer (lexicon : Lexicon) (policy : Policy) :
    OwnVerdicts fun declaration =>
      (Verdict.ofDeclaration lexicon.answer policy declaration).run := by
  constructor
  case fields => exact fun _ => rfl
  case overriding =>
    intro declaration overrides
    rw [Verdict.ofDeclaration_answer,if_pos overrides]

/-- The walk has the replacement in the slot of the declaration, and so have the violations. -/
theorem framed_put {verdict : Declaration → Option Violation} (own : OwnVerdicts verdict)
    {input changed : Input} {document : Document} {place : List Nat} {node replacement : Declaration}
    (loaded : input.document = .ok document) (there : document.at? place = some node)
    (keeps : replacement.substructure = node.substructure)
    (reloaded : changed.document = .ok (document.put replacement place))
    (path : changed.path = input.path) :
    ∃ before earlier after, document.walk = before ++ node :: after ∧
      (document.put replacement place).walk = earlier ++ replacement :: after ∧
      earlier.map bare = before.map bare ∧
      Framed (entry verdict (document.file.getD input.path)) before after node replacement
        (report verdict input) (report verdict changed) := by
  obtain ⟨before,after,walked,puts⟩ := Document.slot_put there
  obtain ⟨earlier,(rewalked : (document.put replacement place).walk = _),same⟩ :=
    puts replacement keeps
  have length : earlier.length = before.length := by
    simpa using congrArg List.length same
  have replaced := violations_of_walk verdict reloaded rewalked
  -- those around the place contain the replacement by now, which their own entries do not tell
  rw [path,Document.file_put,own.filterMap_entry same] at replaced
  refine ⟨before,earlier,after,walked,rewalked,same,?_⟩
  constructor
  case declarationsChecked =>
    rw [report,report,declarationsChecked_fileReport,declarationsChecked_fileReport,
      input.nodes_of_document loaded,changed.nodes_of_document reloaded,walked,rewalked]
    simp [length]
  case violations => exact violations_of_walk verdict loaded walked
  case replaced => exact replaced
  case overriding =>
    intro mark member overrides
    have free := own.overriding replacement (isOverride_of_mem member overrides)
    rw [replaced,entry,free]
    simp

/-- Checking a file again with a declaration replaced, of whatever own fields but with the same
parts, changes the entry of that declaration and no other one. -/
theorem checkFile_put {lexicon : Lexicon} {policy : Policy}
    (known : lexicon.knows policy.language = true) {input changed : Input} {document : Document}
    {place : List Nat} {node replacement : Declaration} (loaded : input.document = .ok document)
    (there : document.at? place = some node)
    (keeps : replacement.substructure = node.substructure)
    (reloaded : changed.document = .ok (document.put replacement place))
    (path : changed.path = input.path) :
    ∃ verdict report later before earlier after,
      (∀ declaration,
        Verdict.ofDeclaration lexicon.isUnknown policy declaration = .ok (verdict declaration)) ∧
      checkFile lexicon.isUnknown policy input = .ok report ∧
      checkFile lexicon.isUnknown policy changed = .ok later ∧
      (∀ memo : Memo, memo.Sound lexicon.isUnknown →
        (checkFile (Memo.ask lexicon.isUnknown) policy input memo).1 = .ok report ∧
        (checkFile (Memo.ask lexicon.isUnknown) policy changed memo).1 = .ok later) ∧
      document.walk = before ++ node :: after ∧
      (document.put replacement place).walk = earlier ++ replacement :: after ∧
      earlier.map bare = before.map bare ∧
      Framed (entry verdict (document.file.getD input.path)) before after node replacement report
        later := by
  obtain ⟨before,earlier,after,walked,rewalked,same,framed⟩ :=
    framed_put (ownVerdicts_answer lexicon policy) loaded there keeps reloaded path
  exact ⟨_,_,_,before,earlier,after,ofDeclaration_isUnknown known,checkFile_alone known input,
    checkFile_alone known changed,
    fun _ sound => ⟨checkFile_recalled known sound input,checkFile_recalled known sound changed⟩,
    walked,rewalked,same,framed⟩

set_option maxRecDepth 2000 in
/-- The declaration that comes to override stands inside one, contains one and has one behind it. -/
theorem checkFile_put_override :
    let lexicon := Lexicon.empty.addWords "en" []
    let type (name : String) (offset : Nat) (attributes : List String)
        (parts : List Declaration) : Declaration :=
      ⟨.classType,some name,none,none,some offset,none,attributes,.internal,parts⟩
    let node (attributes : List String) := type "Taht" 2 attributes [type "Wiht" 3 [] []]
    let document (attributes : List String) : Document :=
      ⟨none,[type "Teeh" 1 [] [node attributes,type "Hwat" 4 [] []]]⟩
    let typeText (name offset attributes parts : String) :=
      "\x7b\"kind\":\"class\",\"name\":" ++ name ++ ",\"offset\":" ++ offset ++ ",\"attributes\":[" ++
        attributes ++ "],\"substructure\":[" ++ parts ++ "]\x7d"
    let text (attributes : String) := "\x7b\"declarations\":[" ++
      typeText "\"Teeh\"" "1" "" (typeText "\"Taht\"" "2" attributes (typeText "\"Wiht\"" "3" "" "") ++
        "," ++ typeText "\"Hwat\"" "4" "" "") ++ "]\x7d"
    let input (attributes : String) : Input := ⟨"a.json",.ok (text attributes)⟩
    lexicon.knows Policy.default.language = true ∧
      (input "").document = .ok (document []) ∧
      (document []).at? [0,0] = some (node []) ∧
      (node ["override"]).substructure = (node []).substructure ∧
      (input "\"override\"").document = .ok ((document []).put (node ["override"]) [0,0]) ∧
      (input "\"override\"").path = (input "").path ∧
      ∃ report later front own back,
        checkFile lexicon.isUnknown .default (input "") = .ok report ∧
        checkFile lexicon.isUnknown .default (input "\"override\"") = .ok later ∧
        report.violations.map (·.misspelled) = [["Teeh"],["Taht"],["Wiht"],["Hwat"]] ∧
        own.misspelled = ["Taht"] ∧ report.violations = front ++ own :: back ∧
        later.violations = front ++ back := by
  intro lexicon type node document typeText text input
  have known : lexicon.knows Policy.default.language = true := by simp [lexicon,Policy.default]
  let typeValue (name : String) (offset : Nat) (attributes parts : List Json.Value) : Json.Value :=
    .record [("kind",.text "class"),("name",.text name),("offset",.natural offset),
      ("attributes",.list attributes),("substructure",.list parts)]
  let value (attributes : List Json.Value) : Json.Value :=
    .record [("declarations",.list [typeValue "Teeh" 1 [] [typeValue "Taht" 2 attributes
      [typeValue "Wiht" 3 [] []],typeValue "Hwat" 4 [] []]])]
  have valued : Json.Value.ofText (text "") = .ok (value []) ∧
      Json.Value.ofText (text "\"override\"") = .ok (value [.text "override"]) := by
    unfold Json.Value.ofText
    -- one long text is slow to read, so its pieces are not joined
    dsimp only [text,typeText,-String.reduceAppend]
    repeat rw [String.toList_append]
    constructor <;> with_unfolding_all rfl
  have read : (Document.read (Json.Cursor.ofValue (value [])) : Except Schema.Mismatch Document) =
        .ok (document []) ∧
      (Document.read (Json.Cursor.ofValue (value [.text "override"])) :
        Except Schema.Mismatch Document) = .ok (document ["override"]) := by
    constructor <;> with_unfolding_all rfl
  have json : FilePath.extension "a.json" = "json" := by decide +kernel
  have loaded : (input "").document = .ok (document []) :=
    Input.document_of_json json valued.1 read.1
  have reloaded : (input "\"override\"").document =
      .ok ((document []).put (node ["override"]) [0,0]) :=
    Input.document_of_json json valued.2 read.2
  have there : (document []).at? [0,0] = some (node []) := rfl
  have keeps : (node ["override"]).substructure = (node []).substructure := rfl
  have path : (input "\"override\"").path = (input "").path := rfl
  obtain ⟨verdict,report,later,before,earlier,after,judges,checked,rechecked,_,walked,_,_,framed⟩ :=
    checkFile_put known loaded there keeps reloaded path
  have unknown : lexicon.lacks Policy.default.language = _ := Lexicon.lacks_empty_addWords "en" []
  have wrong : ∀ name ∈ ["Teeh","Taht","Wiht","Hwat"],
      Verdict.misspelled lexicon .default .classType name = [name] ∧
        Verdict.phraseLacks lexicon .default .classType name = true := by
    simp only [Verdict.misspelled,Verdict.phraseLacks,unknown]
    decide +kernel
  have plain : ∀ name ∈ ["Teeh","Taht","Wiht","Hwat"], ∀ offset parts,
      (type name offset [] parts).checkable? = some (name,0) := by
    simp only [List.forall_mem_cons]
    exact ⟨fun _ _ => rfl,fun _ _ => rfl,fun _ _ => rfl,fun _ _ => rfl,by simp⟩
  have judged (name : String) (offset : Nat) (parts : List Declaration)
      (member : name ∈ ["Teeh","Taht","Wiht","Hwat"]) :
      (entry verdict "a.json" (type name offset [] parts)).map (·.misspelled) = some [name] := by
    obtain ⟨listed,phrase⟩ := wrong name member
    have given := (judges (type name offset [] parts)).symm.trans (ofDeclaration_isUnknown known _)
    rw [entry,Except.ok.inj given,Verdict.ofDeclaration_of_misspelled rfl rfl
      (plain name member offset parts) rfl phrase listed]
    rfl
  have walk : (document []).walk =
      [type "Teeh" 1 [] [node [],type "Hwat" 4 [] []],node [],type "Wiht" 3 [] [],
        type "Hwat" 4 [] []] := rfl
  have listed : report.violations.map (·.misspelled) = [["Teeh"],["Taht"],["Wiht"],["Hwat"]] := by
    have whole : report.violations = (document []).walk.filterMap (entry verdict "a.json") := by
      rw [walked,filterMap_slot]
      exact framed.violations
    rw [whole,walk,List.map_filterMap]
    simp only [List.filterMap_cons,List.filterMap_nil,node]
    rw [judged "Teeh" 1 _ (by decide),judged "Taht" 2 _ (by decide),judged "Wiht" 3 _ (by decide),
      judged "Hwat" 4 _ (by decide)]
  obtain ⟨own,entered,named⟩ :=
    Option.map_eq_some_iff.mp (judged "Taht" 2 [type "Wiht" 3 [] []] (by decide))
  have slot : report.violations = before.filterMap (entry verdict "a.json") ++
      (entry verdict "a.json" (node [])).toList ++ after.filterMap (entry verdict "a.json") :=
    framed.violations
  have rest := framed.overriding "override" List.mem_cons_self (.inl rfl)
  refine ⟨known,loaded,there,keeps,reloaded,path,report,later,_,own,_,checked,rechecked,listed,
    named,?_,rest⟩
  rw [slot,entered,Option.toList_some,List.append_assoc]
  rfl

end Orthography.Lint
