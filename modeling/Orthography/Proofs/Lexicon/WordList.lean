import Orthography.Lexicon
import Orthography.Proofs.Text.Parts

/-! Word lists. A list gives what its words would give on their own, however its lines are laid
out, and lists that are joined by a line feed give what they give one after the other. -/
namespace Orthography.Lexicon

open Text (allBlank allBlank_iff isBlank splitAt trim trimChars)

/-- A word that a list can hold: there is something to see of it, nothing is cut off, and it is not
a note. That no line feed parts it follows where it stands on a line. -/
structure Listable (word : String) : Prop where
  shown : trim word ≠ ""
  uncut : '/' ∉ (trim word).toList
  noNote : (trim word).toList.head? ≠ some '#'

/-- What stands on a line: a word with blanks around it and maybe flags behind a slash, or no word
at all. -/
inductive Line : List String → List Char → Prop
  | blank {cs : List Char} (nothing : allBlank cs = true) : Line [] cs
  | note {front text : List Char} (before : allBlank front = true) : Line [] (front ++ '#' :: text)
  | word {word : String} {front back : List Char} (before : allBlank front = true)
      (behind : allBlank back = true) : Line [word] (front ++ ((trim word).toList ++ back))
  | flagged {word : String} {front back flags : List Char} (before : allBlank front = true)
      (behind : allBlank back = true) :
      Line [word] (front ++ ((trim word).toList ++ back) ++ '/' :: flags)

/-- A text of lines. Each ends with a line feed, in front of which a carriage return may stand, but
the last one may end with the text. -/
inductive WordList : List String → List Char → Prop
  | last {words : List String} {line : List Char} (holds : Line words line)
      (single : '\n' ∉ line) : WordList words line
  | feed {words others : List String} {line rest : List Char} (holds : Line words line)
      (single : '\n' ∉ line) (more : WordList others rest) :
      WordList (words ++ others) (line ++ '\n' :: rest)
  | carriageFeed {words others : List String} {line rest : List Char} (holds : Line words line)
      (single : '\n' ∉ line) (more : WordList others rest) :
      WordList (words ++ others) (line ++ '\r' :: '\n' :: rest)

def wordOf (line : List Char) : List String :=
  let cs := trimChars line
  if cs.isEmpty || cs.head? == some '#' then [] else [String.ofList (cs.takeWhile (· != '/'))]

theorem listedWords_eq (text : String) :
    listedWords text = (splitAt '\n' text.toList).flatMap wordOf := by
  rw [listedWords]
  induction splitAt '\n' text.toList with
  | nil => rfl
  | cons line lines ih =>
    rw [List.flatMap_cons,← ih,wordOf]
    by_cases nothing : trimChars line = []
    · simp [nothing]
    · by_cases note : (trimChars line).head? = some '#' <;> simp [nothing,note]

/-- What is listed on both sides of a line feed is listed by the whole. -/
theorem listedWords_append (first second : String) :
    listedWords (first ++ "\n" ++ second) = listedWords first ++ listedWords second := by
  have spread : (first ++ "\n" ++ second).toList = first.toList ++ '\n' :: second.toList := by simp
  simp only [listedWords_eq,spread,Text.splitAt_append_cons,List.flatMap_append]

theorem trimChars_toList_trim (word : String) :
    trimChars (trim word).toList = (trim word).toList := by
  rw [trim,String.toList_ofList,Text.trimChars_trimChars]

theorem trim_trim_append_blanks (word : String) {back : List Char}
    (behind : allBlank back = true) :
    trim (String.ofList ((trim word).toList ++ back)) = trim word := by
  rw [trim,String.toList_ofList,Text.trimChars_append_blanks _ behind,trimChars_toList_trim,
    String.ofList_toList]

theorem wordOf_note {front : List Char} (before : allBlank front = true) (text : List Char) :
    wordOf (front ++ '#' :: text) = [] := by
  have shown : isBlank '#' = false := by decide
  obtain ⟨kept,trimmed⟩ := Text.exists_trimChars_append_cons [] shown text
  rw [wordOf,Text.trimChars_blanks_append before,← List.nil_append ('#' :: text),trimmed]
  rfl

/-- The word of a line is the listed one up to blanks behind it, with or without flags. -/
theorem wordOf_of_trimChars {word : String} (listable : Listable word) {line back flags : List Char}
    (behind : allBlank back = true) (trimmed : trimChars line = (trim word).toList ++ back ++ flags)
    (flagged : flags = [] ∨ flags.head? = some '/') :
    wordOf line = [String.ofList ((trim word).toList ++ back)] := by
  have full : (trim word).toList ≠ [] := by simpa using listable.shown
  obtain ⟨c,rest,first⟩ := List.exists_cons_of_ne_nil full
  have note := listable.noNote
  have uncut : ∀ d ∈ (trim word).toList ++ back, (d != '/') = true := by
    have slash : isBlank '/' = false := by decide
    intro d member
    rw [bne_iff_ne]
    rintro rfl
    rcases List.mem_append.mp member with inside | outside
    · exact listable.uncut inside
    · have blank := allBlank_iff.mp behind '/' outside
      rw [slash] at blank
      cases blank
  have taken : flags.takeWhile (· != '/') = [] := by
    rcases flagged with rfl | slash
    · rfl
    · obtain ⟨others,rfl⟩ := List.head?_eq_some_iff.mp slash
      rfl
  rw [first] at note
  simp only [wordOf,trimmed,List.takeWhile_append_of_pos uncut,taken]
  simp_all

/-- Blanks and flags around a word are the same to a list as none. -/
theorem Line.map_trim_wordOf {words : List String} {line : List Char} (holds : Line words line)
    (listable : ∀ word ∈ words, Listable word) : (wordOf line).map trim = words.map trim := by
  cases holds with
  | blank nothing => simp [wordOf,Text.trimChars_of_allBlank nothing]
  | note before => rw [wordOf_note before]
  | @word word front back before behind =>
    have nothing : allBlank [] = true := rfl
    have trimmed : trimChars (front ++ ((trim word).toList ++ back)) =
        (trim word).toList ++ [] ++ [] := by
      rw [Text.trimChars_blanks_append before,Text.trimChars_append_blanks _ behind,
        trimChars_toList_trim,List.append_nil,List.append_nil]
    rw [wordOf_of_trimChars (listable word List.mem_cons_self) nothing trimmed (.inl rfl),
      List.map_singleton,trim_trim_append_blanks word nothing,List.map_singleton]
  | @flagged word front back flags before behind =>
    have listed := listable word List.mem_cons_self
    have slash : isBlank '/' = false := by decide
    obtain ⟨kept,trimmed⟩ :=
      Text.exists_trimChars_append_cons (front ++ ((trim word).toList ++ back)) slash flags
    have own : (trim word).toList.dropWhile isBlank = (trim word).toList := by
      rw [trim,String.toList_ofList,Text.dropWhile_trimChars]
    have full : ¬(trim word).toList.isEmpty := by simpa using listed.shown
    rw [List.dropWhile_append_of_pos (allBlank_iff.mp before),List.dropWhile_append,own,
      if_neg full] at trimmed
    rw [wordOf_of_trimChars listed behind trimmed (.inr rfl),List.map_singleton,
      trim_trim_append_blanks word behind,List.map_singleton]

/-- A carriage return is a blank, so that either end of a line is the same to a list. -/
theorem wordOf_carriageReturn (line : List Char) : wordOf (line ++ ['\r']) = wordOf line := by
  have blank : allBlank ['\r'] = true := by decide
  rw [wordOf,Text.trimChars_append_blanks line blank,wordOf]

theorem flatMap_wordOf_append {line : List Char} (single : '\n' ∉ line) (rest : List Char) :
    (splitAt '\n' (line ++ '\n' :: rest)).flatMap wordOf =
      wordOf line ++ (splitAt '\n' rest).flatMap wordOf := by
  rw [Text.splitAt_append_cons,Text.splitAt_of_not_mem single,List.singleton_append,
    List.flatMap_cons]

/-- Line by line, a list holds its words up to blanks. -/
theorem WordList.map_trim_wordOf {words : List String} {cs : List Char}
    (list : WordList words cs) (listable : ∀ word ∈ words, Listable word) :
    ((splitAt '\n' cs).flatMap wordOf).map trim = words.map trim := by
  induction list with
  | last holds single =>
    rw [Text.splitAt_of_not_mem single,List.flatMap_singleton]
    exact holds.map_trim_wordOf listable
  | @feed words others line rest holds single _ ih =>
    have first := holds.map_trim_wordOf fun word member =>
      listable word (List.mem_append_left others member)
    have later := ih fun word member => listable word (List.mem_append_right words member)
    rw [flatMap_wordOf_append single,List.map_append,first,later,List.map_append]
  | @carriageFeed words others line rest holds single _ ih =>
    have first := holds.map_trim_wordOf fun word member =>
      listable word (List.mem_append_left others member)
    have later := ih fun word member => listable word (List.mem_append_right words member)
    have whole : '\n' ∉ line ++ ['\r'] := by simp [single]
    have spread : line ++ '\r' :: '\n' :: rest = (line ++ ['\r']) ++ '\n' :: rest := by simp
    rw [spread,flatMap_wordOf_append whole,wordOf_carriageReturn,List.map_append,first,later,
      List.map_append]

theorem addWords_congr (lexicon : Lexicon) (language : String) {words others : List String}
    (same : words.map trim = others.map trim) :
    lexicon.addWords language words = lexicon.addWords language others := by
  have entries (given : List String) : given.map entry = (given.map trim).map Text.lower := by
    rw [List.map_map]
    rfl
  rw [addWords,addWords,entries,entries,same]

/-- Words that are added in two goes are there like those that are added in one. -/
theorem addWords_addWords (lexicon : Lexicon) (language : String) (words others : List String) :
    (lexicon.addWords language (words ++ others)).languages.Equiv
      ((lexicon.addWords language words).addWords language others).languages := by
  have known := wordsOf_addWords lexicon language language words
  rw [if_pos rfl] at known
  apply Std.HashMap.Equiv.of_forall_getElem?_eq
  intro other
  rw [addWords,addWords,known,List.map_append,Std.HashSet.insertMany_append]
  by_cases same : language = other <;> simp [addWords,Std.HashMap.getElem?_insert,same]

/-- A list of words, laid out in any way that a list can be, is their number added and leaves the
lexicon as adding the words does. Two texts with a line feed between them leave the same words for
each language as one after the other, and their numbers add up. -/
theorem addList_wordList (lexicon : Lexicon) (language : String) :
    (∀ words text, (∀ word ∈ words, Listable word) → WordList words text.toList →
      lexicon.addList language (.ok text) =
        .ok (words.length,lexicon.addWords language words)) ∧
    ∀ first second, ∃ count more between apart whole,
      lexicon.addList language (.ok first) = .ok (count,between) ∧
      between.addList language (.ok second) = .ok (more,apart) ∧
      lexicon.addList language (.ok (first ++ "\n" ++ second)) = .ok (count + more,whole) ∧
      whole.languages.Equiv apart.languages := by
  constructor
  · intro words text listable list
    have same : (listedWords text).map trim = words.map trim := by
      rw [listedWords_eq]
      exact list.map_trim_wordOf listable
    have length : (listedWords text).length = words.length := by
      simpa using congrArg List.length same
    rw [addList,length,addWords_congr lexicon language same]
  · intro first second
    refine ⟨_,_,_,_,_,rfl,rfl,?_,addWords_addWords lexicon language _ _⟩
    rw [addList,listedWords_append,List.length_append]

/-- Both ends of lines, a note behind a blank, blanks in front of flags, and no end of the last
line. -/
theorem addList_wordList_mixed :
    let words := ["Hello\n","New York","tis"]
    let text := "\t# words\r\n\n  Hello /MS\r\nNew York\t\ntis/"
    (∀ word ∈ words, Listable word) ∧ WordList words text.toList ∧
      ∀ lexicon, addList lexicon "en" (.ok text) = .ok (3,lexicon.addWords "en" words) := by
  intro words text
  have listable : ∀ word ∈ words, Listable word := by
    have each : ∀ word ∈ words, trim word ≠ "" ∧ '/' ∉ (trim word).toList ∧
        (trim word).toList.head? ≠ some '#' := by decide +kernel
    intro word member
    obtain ⟨shown,uncut,noNote⟩ := each word member
    exact ⟨shown,uncut,noNote⟩
  have list : WordList words text.toList := by
    have note : Line [] "\t# words".toList := @Line.note ['\t'] " words".toList rfl
    have blank : Line [] [] := .blank rfl
    have hello : Line ["Hello\n"] "  Hello /MS".toList :=
      @Line.flagged "Hello\n" [' ',' '] [' '] ['M','S'] rfl rfl
    have york : Line ["New York"] "New York\t".toList := @Line.word "New York" [] ['\t'] rfl rfl
    have tis : Line ["tis"] "tis/".toList := @Line.flagged "tis" [] [] [] rfl rfl
    have spread : text.toList = "\t# words".toList ++ '\r' :: '\n' :: ([] ++ '\n' ::
        ("  Hello /MS".toList ++ '\r' :: '\n' ::
          ("New York\t".toList ++ '\n' :: "tis/".toList))) := by
      decide
    rw [spread]
    exact .carriageFeed note (by decide) <| .feed blank (by decide) <|
      .carriageFeed hello (by decide) <| .feed york (by decide) <| .last tis (by decide)
  exact ⟨listable,list,fun lexicon => (addList_wordList lexicon "en").1 words text listable list⟩

end Orthography.Lexicon
