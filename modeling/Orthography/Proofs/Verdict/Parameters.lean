import Orthography.Proofs.Verdict.Region

/-! The parameters of a function. A report on a function shows its name with all parameters, but
nothing else in it depends on them: the words, and where the first of them occurs, are the same. -/
namespace Orthography

/-- A text that is found is found at the same place if the text around it goes on, for what begins
earlier ends earlier, too. -/
theorem Text.occurrence?_append_right {needle text : List Char} {offset : Nat}
    (found : occurrence? needle text = some offset) (more : List Char) :
    occurrence? needle (text ++ more) = some offset := by
  induction text generalizing offset with
  | nil =>
    cases needle with
    | nil =>
      obtain rfl : 0 = offset := Option.some.inj found
      exact occurrence?_append [] more
    | cons => cases found
  | cons c rest ih =>
    rw [occurrence?] at found
    rw [List.cons_append,occurrence?]
    split at found
    next here =>
      have still : needle.isPrefixOf (c :: (rest ++ more)) = true :=
        List.isPrefixOf_iff_prefix.mpr ((List.isPrefixOf_iff_prefix.mp here).trans
          (List.prefix_append (c :: rest) more))
      rw [if_pos still]
      exact found
    next notHere =>
      obtain ⟨inner,inRest,rfl⟩ := Option.map_eq_some_iff.mp found
      obtain ⟨front,back,cut,-⟩ := occurrence?_eq_some inRest
      have short : needle.length ≤ (c :: rest).length := by
        rw [cut]
        simp only [List.length_cons,List.length_append]
        omega
      have neither : needle.isPrefixOf (c :: (rest ++ more)) = false := by
        rw [← Bool.not_eq_true]
        intro begun
        exact notHere (List.isPrefixOf_iff_prefix.mpr (List.prefix_of_prefix_length_le
          (List.isPrefixOf_iff_prefix.mp begun) (List.prefix_append (c :: rest) more) short))
      rw [neither,ih inRest]
      rfl

namespace Verdict

variable {kind : Declaration.Kind}

def retold (kind : Declaration.Kind) (name : String) (v : Violation) : Violation :=
  { v with name := some name, message := message kind name v.misspelled }

theorem toList_parameters (front parameters : String) :
    (front ++ "(" ++ parameters).toList = front.toList ++ '(' :: parameters.toList := by
  simp

section Name

variable (function : kind.isFunction = true) {front : String} (free : '(' ∉ front.toList)

include function free

theorem spelled_of_not_mem : spelled kind front = front := by
  have all := @List.takeWhile_append_of_pos _ (· != '(') front.toList [] (passes_of_not_mem free)
  rw [List.takeWhile_nil,List.append_nil] at all
  rw [spelled,if_pos function,all,String.ofList_toList]

/-- What is spelled of a function's name ends where its parameters begin. -/
theorem spelled_parameters (parameters : String) :
    spelled kind (front ++ "(" ++ parameters) = front := by
  have upTo : (front.toList ++ '(' :: parameters.toList).takeWhile (· != '(') = front.toList := by
    rw [List.takeWhile_append_of_pos (passes_of_not_mem free)]
    simp
  rw [spelled,if_pos function,toList_parameters,upTo,String.ofList_toList]

theorem checkedWords_parameters (policy : Policy) (parameters : String) :
    checkedWords policy kind (front ++ "(" ++ parameters) = checkedWords policy kind front := by
  rw [checkedWords,checkedWords,spelled_parameters function free,spelled_of_not_mem function free]

theorem violation_parameters {policy : Policy} {first : String}
    (looked : first ∈ checkedWords policy kind front) (parameters : String) (position : Nat)
    (others : List String) :
    violation policy kind (front ++ "(" ++ parameters) position first others =
      retold kind (front ++ "(" ++ parameters) (violation policy kind front position first others) := by
  obtain ⟨before,after,cut⟩ := Identifier.exists_split_of_mem_words (List.mem_filter.mp looked).1
  rw [spelled_of_not_mem function free] at cut
  obtain ⟨inside,found,-⟩ := Text.exists_occurrence?_le before first.toList after
  rw [← cut] at found
  have again := Text.occurrence?_append_right found ('(' :: parameters.toList)
  simp only [violation,retold,toList_parameters,found,again]

end Name

section Asking

variable {m : Type → Type} [Monad m] [LawfulMonad m]

/-- However questions are answered, the words that are unknown are among those that were asked. -/
theorem exists_allUnknown_subset (ask : Inquiry m) (language : String) (words : List String) :
    ∃ answered : m {unknown : List String // unknown ⊆ words},
      ask.allUnknown language words = Subtype.val <$> answered := by
  induction words with
  | nil => exact ⟨pure ⟨[],List.Subset.refl []⟩,by simp [Inquiry.allUnknown]⟩
  | cons word rest ih =>
    obtain ⟨answered,later⟩ := ih
    refine ⟨do
      let unknown ← ask language word
      let others ← answered
      pure ⟨if unknown then word :: others.val else others.val,?_⟩,?_⟩
    · cases unknown with
      | true => exact List.cons_subset_cons word others.property
      | false => exact List.subset_cons_of_subset word others.property
    · simp [Inquiry.allUnknown,later]

/-- Whoever is asked: with its parameters a function is asked about and reported as without, but
that the report shows them. -/
theorem evaluate_parameters (function : kind.isFunction = true) {front : String}
    (free : '(' ∉ front.toList) (ask : Inquiry m) (policy : Policy) (parameters : String)
    (position : Nat) :
    evaluate ask policy kind (front ++ "(" ++ parameters) position =
      Option.map (retold kind (front ++ "(" ++ parameters)) <$>
        evaluate ask policy kind front position := by
  have words := checkedWords_parameters function free policy parameters
  unfold evaluate
  simp only [words]
  split
  · simp
  split
  · simp
  -- what is listed was looked up, so that it stands in front of the parameters
  obtain ⟨answered,asked⟩ :=
    exists_allUnknown_subset ask policy.language (checkedWords policy kind front)
  simp only [asked,map_bind,bind_map_left]
  congr 1
  funext unknown
  split
  · simp
  simp only [map_bind]
  congr 1
  funext listed
  obtain ⟨listed,looked⟩ := listed
  cases listed with
  | nil => simp
  | cons first others =>
    simp [violation_parameters function free (looked List.mem_cons_self)]

end Asking

/-- Reports on two names that differ in what they show of the name only. -/
structure Alike (kind : Declaration.Kind) (name other : String) (v w : Violation) : Prop where
  misspelled : w.misspelled = v.misspelled
  severity : w.severity = v.severity
  offset : w.location.offset = v.location.offset
  length : w.location.length = v.location.length
  others : w.ruleId = v.ruleId ∧ w.location.file = v.location.file ∧ w.help = v.help
  names : v.name = some name ∧ w.name = some other
  messages : v.message = message kind name v.misspelled ∧ w.message = message kind other v.misspelled

/-- Both names are reported alike, or neither is, or the verdict on both fails for one reason. -/
inductive AlikeOutcome (kind : Declaration.Kind) (name other : String) :
    Except Lexicon.Fault (Option Violation) → Except Lexicon.Fault (Option Violation) → Prop
  | failed (fault : Lexicon.Fault) : AlikeOutcome kind name other (.error fault) (.error fault)
  | silent : AlikeOutcome kind name other (.ok none) (.ok none)
  | reported {v w : Violation} (alike : Alike kind name other v w) :
      AlikeOutcome kind name other (.ok (some v)) (.ok (some w))

theorem AlikeOutcome.exists_alike {name other : String} {v : Violation}
    {outcome : Except Lexicon.Fault (Option Violation)}
    (alike : AlikeOutcome kind name other (.ok (some v)) outcome) :
    ∃ w, outcome = .ok (some w) ∧ Alike kind name other v w := by
  cases alike with
  | reported alike => exact ⟨_,rfl,alike⟩

theorem alike_retold {name other again : String} {v : Violation} (named : v.name = some name)
    (told : v.message = message kind name v.misspelled) :
    Alike kind name other v (retold kind other v) ∧
      Alike kind other again (retold kind other v) (retold kind again v) :=
  ⟨⟨rfl,rfl,rfl,rfl,⟨rfl,rfl,rfl⟩,⟨named,rfl⟩,told,rfl⟩,
    rfl,rfl,rfl,rfl,⟨rfl,rfl,rfl⟩,⟨rfl,rfl⟩,rfl,rfl⟩

theorem shows_of_evaluate {lexicon : Lexicon} {policy : Policy} {name : String} {position : Nat}
    {v : Violation} (reported : evaluate lexicon.isUnknown policy kind name position = .ok (some v)) :
    v.name = some name ∧ v.message = message kind name v.misspelled := by
  let ask : Inquiry (Except Lexicon.Fault) := lexicon.isUnknown
  have given : MonadAttach.CanReturn (evaluateBy ask.phrase ask policy kind name position) (some v) :=
    reported
  obtain ⟨first,others,-,rfl⟩ := eq_violation_of_evaluateBy given
  exact ⟨rfl,rfl⟩

/-- A function's parameters do not matter to the verdict on it, be the language known or not: it is
that on the name in front of them, and that on the name with any other parameters, but for the name
that is shown. -/
theorem alikeOutcome_parameters (function : kind.isFunction = true) {front : String}
    (free : '(' ∉ front.toList) (lexicon : Lexicon) (policy : Policy) (position : Nat)
    (parameters others : String) :
    let verdict := fun name => evaluate lexicon.isUnknown policy kind name position
    let first := front ++ "(" ++ parameters
    let second := front ++ "(" ++ others
    AlikeOutcome kind front first (verdict front) (verdict first) ∧
      AlikeOutcome kind first second (verdict first) (verdict second) := by
  intro verdict first second
  have whole (parameters : String) : verdict (front ++ "(" ++ parameters) =
      Option.map (retold kind (front ++ "(" ++ parameters)) <$> verdict front :=
    evaluate_parameters function free lexicon.isUnknown policy parameters position
  simp only [first,second,whole]
  cases outcome : verdict front with
  | error fault => exact ⟨.failed fault,.failed fault⟩
  | ok found =>
    cases found with
    | none => exact ⟨.silent,.silent⟩
    | some v =>
      obtain ⟨named,told⟩ := shows_of_evaluate outcome
      obtain ⟨shown,again⟩ := alike_retold named told
      exact ⟨.reported shown,.reported again⟩

/-- The wrong word also stands among the parameters, and in other parameters as part of a word. -/
theorem alikeOutcome_parameters_repeated :
    let lexicon := Lexicon.empty.addWords "en" ["is"]
    let verdict := fun name => evaluate lexicon.isUnknown .default .functionFree name 100
    Declaration.Kind.functionFree.isFunction = true ∧ '(' ∉ "isOparator".toList ∧
      ∃ v w u, verdict "isOparator" = .ok (some v) ∧ v.location = ⟨"",102,8⟩ ∧
        verdict "isOparator(Oparator:)" = .ok (some w) ∧
        verdict "isOparator(ofOparators:" = .ok (some u) ∧
        Alike .functionFree "isOparator" "isOparator(Oparator:)" v w ∧
        Alike .functionFree "isOparator(Oparator:)" "isOparator(ofOparators:" w u := by
  intro lexicon verdict
  have known : lexicon.knows Policy.default.language = true := by
    simp [lexicon,Policy.default]
  have looked : checkedWords .default .functionFree "isOparator" = ["Oparator"] := by
    decide +kernel
  have pieces : Text.pieces "Oparator" = ["Oparator"] := by decide +kernel
  have lacking : lexicon.lacks Policy.default.language "Oparator" = true := by
    rw [Policy.default,Lexicon.lacks_addWords,Lexicon.lacks_empty]
    decide +kernel
  have listed : misspelled lexicon .default .functionFree "isOparator" = ["Oparator"] := by
    simp [misspelled,looked,lacking]
  have phrase : phraseLacks lexicon .default .functionFree "isOparator" = true := by
    simp [phraseLacks,looked,pieces,lacking]
  let plain := violation .default .functionFree "isOparator" 100 "Oparator" []
  have reported : verdict "isOparator" = .ok (some plain) :=
    evaluate_eq_violation known rfl phrase listed 100
  have first : Text.occurrence? "Oparator".toList "isOparator".toList = some 2 := by
    decide +kernel
  have size : "Oparator".utf8ByteSize = 8 := by decide +kernel
  have free : '(' ∉ "isOparator".toList := by decide +kernel
  have both := @alikeOutcome_parameters .functionFree rfl "isOparator" free lexicon .default 100
    "Oparator:)" "ofOparators:"
  have names : "isOparator" ++ "(" ++ "Oparator:)" = "isOparator(Oparator:)" ∧
      "isOparator" ++ "(" ++ "ofOparators:" = "isOparator(ofOparators:" := by decide +kernel
  rw [names.1,names.2] at both
  obtain ⟨alike,again⟩ := both
  change AlikeOutcome _ _ _ (verdict "isOparator") (verdict "isOparator(Oparator:)") at alike
  change AlikeOutcome _ _ _ (verdict "isOparator(Oparator:)") _ at again
  rw [reported] at alike
  obtain ⟨w,second,alike⟩ := alike.exists_alike
  rw [second] at again
  obtain ⟨u,third,again⟩ := again.exists_alike
  have place : plain.location = ⟨"",102,8⟩ := by
    rw [location_violation first,size,Location.behind_eq (by decide)]
  exact ⟨rfl,free,plain,w,u,reported,place,second,third,alike,again⟩

end Verdict
end Orthography
