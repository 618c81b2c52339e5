import Mathlib.Data.List.TakeWhile
import Orthography.Json.Reading
import Orthography.Json.Writing

/-! Written values as tokens. A word ends only where a character follows that is in no word, so
what is written is read back only before such a character. -/
namespace Orthography.Json

open Token

structure Layout.Blank (layout : Layout) : Prop where
  lineBreak (depth : Nat) : ∀ c ∈ layout.lineBreak depth, isSpace c = true
  keyEnd : ∃ blanks, layout.keyEnd = ':' :: blanks ∧ ∀ c ∈ blanks, isSpace c = true

namespace Layout

theorem blank_compact : compact.Blank :=
  ⟨fun _ => List.forall_mem_nil _,[],rfl,List.forall_mem_nil _⟩

theorem blank_pretty : pretty.Blank := by
  refine ⟨fun depth c member => ?_,[' '],rfl,List.forall_mem_singleton.mpr rfl⟩
  rcases List.mem_cons.mp member with rfl | member
  · rfl
  · rw [List.eq_of_mem_replicate member]
    rfl

end Layout

inductive Writable : Value → Prop
  | null : Writable .null
  | bool (truth : Bool) : Writable (.bool truth)
  | natural {n : Nat} (small : n < Numeral.bound 64) : Writable (.natural n)
  | negative {n : Nat} (positive : n ≠ 0) (small : n ≤ Numeral.bound 63) : Writable (.negative n)
  | text (s : String) : Writable (.text s)
  | list {items : List Value} (each : ∀ item ∈ items, Writable item) : Writable (.list items)
  | record {fields : List (String × Value)} (each : ∀ field ∈ fields, Writable field.2) :
      Writable (.record fields)

theorem Writable.ofTexts (texts : List String) : Writable (.ofTexts texts) := by
  refine .list fun item member => ?_
  obtain ⟨s,-,rfl⟩ := List.mem_map.mp member
  exact .text s

namespace Value

mutual

def tokens : Value → List Token
  | text s => [.text (some s)]
  | list [] => [.openList,.closeList]
  | list (item :: items) =>
    .openList :: tokens item ++ tokensOfItems items ++ [.closeList]
  | record [] => [.openRecord,.closeRecord]
  | record ((key,value) :: fields) =>
    .openRecord :: .text (some key) :: .colon :: tokens value ++ tokensOfFields fields ++
      [.closeRecord]
  | value => [.plain value]

def tokensOfItems : List Value → List Token
  | [] => []
  | item :: items => .comma :: tokens item ++ tokensOfItems items

def tokensOfFields : List (String × Value) → List Token
  | [] => []
  | (key,value) :: fields =>
    .comma :: .text (some key) :: .colon :: tokens value ++ tokensOfFields fields

end

variable (layout : Layout) (depth : Nat)

theorem chars_list (item : Value) (items : List Value) :
    chars layout depth (.list (item :: items)) =
      '[' :: layout.lineBreak (depth + 1) ++ chars layout (depth + 1) item ++
        charsOfItems layout (depth + 1) items ++ layout.lineBreak depth ++ [']'] := rfl

theorem chars_record (key : String) (value : Value) (fields : List (String × Value)) :
    chars layout depth (.record ((key,value) :: fields)) =
      '\x7b' :: layout.lineBreak (depth + 1) ++ quote key ++ layout.keyEnd ++
        chars layout (depth + 1) value ++ charsOfFields layout (depth + 1) fields ++
        layout.lineBreak depth ++ ['\x7d'] := rfl

end Value

namespace Token

def scanFrom (lexing : Lexing) (cs : List Char) : Except Fault (List Token) := do
  finish (← cs.foldlM step lexing)

section Steps

variable {front : List Token} {rest : List Char}

theorem scanFrom_cons {lexing next : Lexing} {c : Char} (stepped : step lexing c = .ok next) :
    scanFrom lexing (c :: rest) = scanFrom next rest := by
  simp only [scanFrom,List.foldlM_cons,stepped]
  rfl

theorem scanFrom_mark {c : Char} {token : Token} (marked : mark? c = some token) :
    scanFrom ⟨.between,front⟩ (c :: rest) = scanFrom ⟨.between,token :: front⟩ rest := by
  apply scanFrom_cons
  unfold mark? at marked
  split at marked <;> cases marked <;> rfl

theorem scanFrom_blanks {blanks : List Char} (blank : ∀ c ∈ blanks, isSpace c = true) :
    scanFrom ⟨.between,front⟩ (blanks ++ rest) = scanFrom ⟨.between,front⟩ rest := by
  induction blanks with
  | nil => rfl
  | cons c blanks ih =>
    have here : isSpace c = true := blank c List.mem_cons_self
    have stepped : step ⟨.between,front⟩ c = .ok ⟨.between,front⟩ := by
      simp only [step,begin,here,if_true]
    rw [List.cons_append,scanFrom_cons stepped]
    exact ih fun other member => blank other (List.mem_cons_of_mem c member)

end Steps

section Texts

theorem assemble_unit {n : Nat} (high : isHighSurrogate n = false) (low : isLowSurrogate n = false)
    (done : List Char) (rest : List Piece) :
    assemble done (.unit n :: rest) = assemble (Char.ofNat n :: done) rest := by
  cases rest with
  | nil => simp [assemble,high,low]
  | cons piece rest => cases piece <;> simp [assemble,high,low]

structure Stands (c : Char) (piece : Piece) : Prop where
  assembled (done : List Char) (rest : List Piece) :
    assemble done (piece :: rest) = assemble (c :: done) rest
  scanned (before : List Piece) (front : List Token) (rest : List Char) :
    scanFrom ⟨.text before,front⟩ (Value.escapeChar c ++ rest) =
      scanFrom ⟨.text (piece :: before),front⟩ rest

theorem digitOf?_hexDigit (n : Nat) : Numeral.digitOf? 16 (Value.hexDigit n) = some (n % 16) := by
  have each : ∀ digit < 16, Numeral.digitOf? 16 (Nat.digitChar digit) = some digit := by decide
  exact each _ (Nat.mod_lt n (by decide))

/-- The code of a control character is written in four digits, two of them zero. -/
theorem scanFrom_unit {n : Nat} (small : n < 256) (before : List Piece) (front : List Token)
    (rest : List Char) :
    scanFrom ⟨.text before,front⟩
        ('\\' :: 'u' :: '0' :: '0' :: Value.hexDigit (n / 16) :: Value.hexDigit n :: rest) =
      scanFrom ⟨.text (.unit n :: before),front⟩ rest := by
  have third : step ⟨.unit before 1 0,front⟩ (Value.hexDigit (n / 16)) =
      .ok ⟨.unit before 0 (n / 16),front⟩ := by
    have digit : n / 16 % 16 = n / 16 := by omega
    simp only [step,digitOf?_hexDigit,digit,Nat.mul_zero,Nat.zero_add]
  have fourth : step ⟨.unit before 0 (n / 16),front⟩ (Value.hexDigit n) =
      .ok ⟨.text (.unit n :: before),front⟩ := by
    simp only [step,digitOf?_hexDigit,Nat.div_add_mod]
  calc scanFrom ⟨.text before,front⟩
        ('\\' :: 'u' :: '0' :: '0' :: Value.hexDigit (n / 16) :: Value.hexDigit n :: rest)
    _ = scanFrom ⟨.unit before 1 0,front⟩ (Value.hexDigit (n / 16) :: Value.hexDigit n :: rest) :=
      rfl
    _ = scanFrom ⟨.text (.unit n :: before),front⟩ rest := by
      rw [scanFrom_cons third,scanFrom_cons fourth]

theorem exists_stands (c : Char) : ∃ piece, Stands c piece := by
  -- a character is written in a short form, by its code or as it is
  by_cases short : c ∈ ['"','\\','\x08','\x0c','\n','\r','\t']
  · refine ⟨.char c,fun _ _ => rfl,fun before front rest => ?_⟩
    simp only [List.mem_cons,List.not_mem_nil,or_false] at short
    rcases short with rfl | rfl | rfl | rfl | rfl | rfl | rfl <;> rfl
  simp only [List.mem_cons,List.not_mem_nil,or_false,not_or] at short
  obtain ⟨quote,backslash,backspace,feed,newline,carriage,tab⟩ := short
  by_cases control : c < ' '
  · have small : c.toNat < 32 := control
    refine ⟨.unit c.toNat,fun done rest => ?_,fun before front rest => ?_⟩
    · have high : isHighSurrogate c.toNat = false := by
        simp only [isHighSurrogate,Bool.and_eq_false_iff,decide_eq_false_iff_not]
        omega
      have low : isLowSurrogate c.toNat = false := by
        simp only [isLowSurrogate,Bool.and_eq_false_iff,decide_eq_false_iff_not]
        omega
      rw [assemble_unit high low,Char.ofNat_toNat]
    · have written : Value.escapeChar c =
          ['\\','u','0','0',Value.hexDigit (c.toNat / 16),Value.hexDigit c.toNat] := by
        simp only [Value.escapeChar,quote,backslash,backspace,feed,newline,carriage,tab,control,
          if_false,if_true]
      rw [written]
      exact scanFrom_unit (by omega) before front rest
  · have written : Value.escapeChar c = [c] := by
      simp only [Value.escapeChar,quote,backslash,backspace,feed,newline,carriage,tab,control,
        if_false]
    refine ⟨.char c,fun _ _ => rfl,fun before front rest => ?_⟩
    rw [written]
    apply scanFrom_cons
    simp only [step,quote,backslash,control,if_false]

/-- What is written of characters is read as pieces that the characters are put together of. -/
theorem exists_pieces (cs : List Char) : ∃ pieces,
    (∀ done, assemble done pieces = some (String.ofList (done.reverse ++ cs))) ∧
    ∀ before front rest, scanFrom ⟨.text before,front⟩ (cs.flatMap Value.escapeChar ++ rest) =
      scanFrom ⟨.text (pieces.reverse ++ before),front⟩ rest := by
  induction cs with
  | nil => exact ⟨[],fun done => by rw [List.append_nil]; rfl,fun _ _ _ => rfl⟩
  | cons c cs ih =>
    obtain ⟨piece,stands⟩ := exists_stands c
    obtain ⟨pieces,assembled,scanned⟩ := ih
    refine ⟨piece :: pieces,fun done => ?_,fun before front rest => ?_⟩
    · rw [stands.assembled,assembled,List.reverse_cons,List.append_assoc]
      rfl
    · rw [List.flatMap_cons,List.append_assoc,stands.scanned,scanned,List.reverse_cons,
        List.append_assoc]
      rfl

theorem scanFrom_quote (s : String) (front : List Token) (rest : List Char) :
    scanFrom ⟨.between,front⟩ (Value.quote s ++ rest) =
      scanFrom ⟨.between,.text (some s) :: front⟩ rest := by
  obtain ⟨pieces,assembled,scanned⟩ := exists_pieces s.toList
  have whole : assemble [] pieces = some s := by
    rw [assembled,List.reverse_nil,List.nil_append,String.ofList_toList]
  have opened : step ⟨.between,front⟩ '"' = .ok ⟨.text [],front⟩ := rfl
  have closed : step ⟨.text (pieces.reverse ++ []),front⟩ '"' =
      .ok ⟨.between,.text (some s) :: front⟩ := by
    simp only [step,if_true,List.append_nil,List.reverse_reverse,whole]
  rw [Value.quote,List.append_assoc,List.cons_append,scanFrom_cons opened,scanned,
    List.singleton_append,scanFrom_cons closed]

end Texts

section Words

def Delimited (rest : List Char) : Prop := ∀ c ∈ rest.head?, isWordChar c = false

theorem begin_of_isWordChar {c : Char} (word : isWordChar c = true) (front : List Token) :
    begin front c = .ok ⟨.word [c],front⟩ := by
  have space : isSpace c = false := by
    rw [← Bool.not_eq_true]
    intro space
    simp only [isSpace,Bool.or_eq_true,decide_eq_true_eq] at space
    rcases space with ((rfl | rfl) | rfl) | rfl <;> exact absurd word (by decide)
  have quote : c ≠ '"' := by
    rintro rfl
    exact absurd word (by decide)
  simp only [begin,space,quote,word,Bool.false_eq_true,if_false,if_true]

theorem scanFrom_word {before cs rest : List Char} {value : Value} (front : List Token)
    (word : ∀ c ∈ cs, isWordChar c = true) (spelled : ofWord? (before.reverse ++ cs) = some value)
    (delimited : Delimited rest) :
    scanFrom ⟨.word before,front⟩ (cs ++ rest) = scanFrom ⟨.between,.plain value :: front⟩ rest := by
  -- over what is left of the word; then the end of the text or another character ends it
  induction cs generalizing before with
  | nil =>
    rw [List.append_nil] at spelled
    have ended : endWord before = .ok (.plain value) := by
      simp only [endWord,spelled]
    cases rest with
    | nil =>
      simp only [scanFrom,List.nil_append,List.foldlM_nil]
      simp only [pure_bind,finish,ended]
      rfl
    | cons c rest =>
      have other : isWordChar c = false := delimited c rfl
      have stepped : step ⟨.word before,front⟩ c = step ⟨.between,.plain value :: front⟩ c := by
        simp only [step,other,Bool.false_eq_true,if_false,ended]
        rfl
      simp only [scanFrom,List.nil_append,List.foldlM_cons,stepped]
  | cons c cs ih =>
    have here : isWordChar c = true := word c List.mem_cons_self
    have stepped : step ⟨.word before,front⟩ c = .ok ⟨.word (c :: before),front⟩ := by
      simp only [step,here,if_true]
    rw [List.cons_append,scanFrom_cons stepped]
    apply ih fun other member => word other (List.mem_cons_of_mem c member)
    rw [List.reverse_cons,List.append_assoc]
    exact spelled

/-- A word is read whole where no other word goes on behind it. -/
theorem scanFrom_value {cs rest : List Char} {value : Value} (front : List Token)
    (word : ∀ c ∈ cs, isWordChar c = true) (nonempty : cs ≠ []) (spelled : ofWord? cs = some value)
    (delimited : Delimited rest) :
    scanFrom ⟨.between,front⟩ (cs ++ rest) = scanFrom ⟨.between,.plain value :: front⟩ rest := by
  obtain ⟨c,others,rfl⟩ := List.exists_cons_of_ne_nil nonempty
  have stepped : step ⟨.between,front⟩ c = .ok ⟨.word [c],front⟩ :=
    begin_of_isWordChar (word c List.mem_cons_self) front
  rw [List.cons_append,scanFrom_cons stepped]
  exact scanFrom_word front (fun other member => word other (List.mem_cons_of_mem c member)) spelled
    delimited

end Words

end Token

section Numbers

open Decimal

theorem isDecimalDigit_of_mem_decimal {n : Nat} {c : Char} (member : c ∈ Numeral.decimal n) :
    Numeral.isDecimalDigit c = true :=
  Nat.isDigit_of_mem_toDigits (by decide) (by decide) member

theorem decimal_ne_nil (n : Nat) : Numeral.decimal n ≠ [] :=
  List.ne_nil_of_length_pos Nat.length_toDigits_pos

theorem head_decimal_ne_zero {n : Nat} (positive : n ≠ 0) :
    (Numeral.decimal n).head? ≠ some '0' := by
  induction n using Nat.strongRecOn with
  | _ n ih =>
    rw [Numeral.decimal,Nat.toDigits_eq_if (by decide)]
    split
    · next small => simpa using positive
    · next large =>
      have fewer := ih (n / 10) (by omega) (by omega)
      obtain ⟨c,rest,equal⟩ := List.exists_cons_of_ne_nil (decimal_ne_nil (n / 10))
      rw [equal] at fewer
      rw [Numeral.decimal] at equal
      rw [equal]
      exact fewer

theorem ofChars?_signed (negative : Bool) (n : Nat) :
    Spelling.ofChars? (Value.signed negative n) =
      some ⟨if negative then some '-' else none,Numeral.decimal n,none,none⟩ := by
  have digits : ∀ c ∈ Numeral.decimal n, Numeral.isDecimalDigit c = true :=
    fun c => isDecimalDigit_of_mem_decimal
  have taken : Spelling.takeSign (Value.signed negative n) =
      (if negative then some '-' else none,Numeral.decimal n) := by
    cases negative with
    | true => rfl
    | false =>
      obtain ⟨c,rest,equal⟩ := List.exists_cons_of_ne_nil (decimal_ne_nil n)
      have digit : Numeral.isDecimalDigit c = true := digits c (equal ▸ List.mem_cons_self)
      simp only [Value.signed,Bool.false_eq_true,if_false,equal]
      unfold Spelling.takeSign
      split
      · next same => cases same; exact absurd digit (by decide)
      · next same => cases same; exact absurd digit (by decide)
      · rfl
  simp only [Spelling.ofChars?,taken,List.takeWhile_eq_self_iff.mpr digits,
    List.dropWhile_eq_nil_iff.mpr digits]
  rfl

theorem isNumber_signed (negative : Bool) (n : Nat) :
    isNumber ⟨if negative then some '-' else none,Numeral.decimal n,none,none⟩ = true := by
  have sign : ((if negative then some '-' else none) != some '+') = true := by
    cases negative <;> rfl
  have whole : (Numeral.decimal n == ['0'] ||
      (!(Numeral.decimal n).isEmpty && (Numeral.decimal n).head? != some '0')) = true := by
    by_cases zero : n = 0
    · rw [zero]
      rfl
    · have head := head_decimal_ne_zero zero
      simp [decimal_ne_nil n,head]
  simp only [isNumber,sign,whole]
  rfl

theorem ofWord?_signed (negative : Bool) (n : Nat) :
    ofWord? (Value.signed negative n) =
      some (ofSpelling ⟨if negative then some '-' else none,Numeral.decimal n,none,none⟩) := by
  have other {word : List Char} (letter : Spelling.ofChars? word = none) :
      Value.signed negative n ≠ word := by
    rintro rfl
    rw [ofChars?_signed] at letter
    contradiction
  have null := other (show Spelling.ofChars? "null".toList = none from rfl)
  have yes := other (show Spelling.ofChars? "true".toList = none from rfl)
  have no := other (show Spelling.ofChars? "false".toList = none from rfl)
  simp only [ofWord?,null,yes,no,if_false,ofChars?_signed]
  rw [Option.filter_some,if_pos (isNumber_signed negative n)]
  rfl

theorem magnitude_decimal (sign : Option Char) (n : Nat) :
    Spelling.magnitude ⟨sign,Numeral.decimal n,none,none⟩ = n := by
  simp [Spelling.magnitude,Numeral.decimal]

theorem ofWord?_natural {n : Nat} (small : n < Numeral.bound 64) :
    ofWord? (Numeral.decimal n) = some (.natural n) := by
  have read := ofWord?_signed false n
  simp only [Value.signed,Bool.false_eq_true,if_false,ofSpelling,magnitude_decimal] at read
  rw [read]
  simp [Spelling.isWhole,Spelling.isNegative,small]

theorem ofWord?_negative {n : Nat} (positive : n ≠ 0) (small : n ≤ Numeral.bound 63) :
    ofWord? (Value.signed true n) = some (.negative n) := by
  rw [ofWord?_signed]
  simp [ofSpelling,magnitude_decimal,Spelling.isWhole,Spelling.isNegative,positive,small]

theorem isWordChar_of_mem_signed {negative : Bool} {n : Nat} {c : Char}
    (member : c ∈ Value.signed negative n) : isWordChar c = true := by
  have digit (decimal : c ∈ Numeral.decimal n) : isWordChar c = true := by
    have isDigit : c.isDigit = true := isDecimalDigit_of_mem_decimal decimal
    simp [isWordChar,Char.isAlphanum,isDigit]
  cases negative with
  | false => exact digit member
  | true =>
    rcases List.mem_cons.mp member with rfl | decimal
    · rfl
    · exact digit decimal

end Numbers

namespace Token

theorem delimited_cons {c : Char} (other : isWordChar c = false) (rest : List Char) :
    Delimited (c :: rest) := by
  intro first head
  rwa [← Option.mem_some_iff.mp head]

theorem delimited_blanks {blanks rest : List Char} (blank : ∀ c ∈ blanks, isSpace c = true)
    (delimited : Delimited rest) : Delimited (blanks ++ rest) := by
  cases blanks with
  | nil => exact delimited
  | cons c blanks =>
    apply delimited_cons
    have space := blank c List.mem_cons_self
    simp only [isSpace,Bool.or_eq_true,decide_eq_true_eq] at space
    rcases space with ((rfl | rfl) | rfl) | rfl <;> rfl

theorem delimited_charsOfItems {layout : Layout} {depth : Nat} {rest : List Char}
    (items : List Value) (delimited : Delimited rest) :
    Delimited (Value.charsOfItems layout depth items ++ rest) := by
  cases items with
  | nil => rwa [Value.charsOfItems,List.nil_append]
  | cons item items =>
    rw [Value.charsOfItems]
    exact delimited_cons rfl _

theorem delimited_charsOfFields {layout : Layout} {depth : Nat} {rest : List Char}
    (fields : List (String × Value)) (delimited : Delimited rest) :
    Delimited (Value.charsOfFields layout depth fields ++ rest) := by
  cases fields with
  | nil => rwa [Value.charsOfFields,List.nil_append]
  | cons field fields =>
    rw [Value.charsOfFields]
    exact delimited_cons rfl _

/-- What is written of a value is read as its tokens, where no word goes on behind it. -/
def Scans (layout : Layout) (value : Value) : Prop :=
  ∀ depth front rest, Delimited rest →
    scanFrom ⟨.between,front⟩ (value.chars layout depth ++ rest) =
      scanFrom ⟨.between,value.tokens.reverse ++ front⟩ rest

section Values

variable {layout : Layout} (blank : layout.Blank)

include blank

theorem scanFrom_keyEnd (front : List Token) (rest : List Char) :
    scanFrom ⟨.between,front⟩ (layout.keyEnd ++ rest) =
      scanFrom ⟨.between,.colon :: front⟩ rest := by
  obtain ⟨blanks,equal,spaces⟩ := blank.keyEnd
  have marked : mark? ':' = some .colon := rfl
  rw [equal,List.cons_append,scanFrom_mark marked,scanFrom_blanks spaces]

theorem scanFrom_charsOfItems {items : List Value} (each : ∀ item ∈ items, Scans layout item)
    (depth : Nat) (front : List Token) {rest : List Char} (delimited : Delimited rest) :
    scanFrom ⟨.between,front⟩ (Value.charsOfItems layout depth items ++ rest) =
      scanFrom ⟨.between,(Value.tokensOfItems items).reverse ++ front⟩ rest := by
  induction items generalizing front with
  | nil => simp only [Value.charsOfItems,Value.tokensOfItems,List.nil_append,List.reverse_nil]
  | cons item items ih =>
    have first := each item List.mem_cons_self
    have others := ih fun other member => each other (List.mem_cons_of_mem item member)
    have marked : mark? ',' = some .comma := rfl
    rw [Value.charsOfItems,Value.tokensOfItems]
    simp only [List.cons_append,List.append_assoc,List.reverse_cons,List.reverse_append,
      List.nil_append]
    rw [scanFrom_mark marked,scanFrom_blanks (blank.lineBreak depth),
      first depth _ _ (delimited_charsOfItems items delimited),others]

theorem scanFrom_charsOfFields {fields : List (String × Value)}
    (each : ∀ field ∈ fields, Scans layout field.2)
    (depth : Nat) (front : List Token) {rest : List Char} (delimited : Delimited rest) :
    scanFrom ⟨.between,front⟩ (Value.charsOfFields layout depth fields ++ rest) =
      scanFrom ⟨.between,(Value.tokensOfFields fields).reverse ++ front⟩ rest := by
  induction fields generalizing front with
  | nil => simp only [Value.charsOfFields,Value.tokensOfFields,List.nil_append,List.reverse_nil]
  | cons field fields ih =>
    obtain ⟨key,value⟩ := field
    have first : Scans layout value := each (key,value) List.mem_cons_self
    have others := ih fun other member => each other (List.mem_cons_of_mem _ member)
    have marked : mark? ',' = some .comma := rfl
    rw [Value.charsOfFields,Value.tokensOfFields]
    simp only [List.cons_append,List.append_assoc,List.reverse_cons,List.reverse_append,
      List.nil_append]
    rw [scanFrom_mark marked,scanFrom_blanks (blank.lineBreak depth),scanFrom_quote,
      scanFrom_keyEnd blank,first depth _ _ (delimited_charsOfFields fields delimited),others]

theorem scans_list {items : List Value} (each : ∀ item ∈ items, Scans layout item) :
    Scans layout (.list items) := by
  intro depth front rest _
  have opened : mark? '[' = some .openList := rfl
  have closed : mark? ']' = some .closeList := rfl
  cases items with
  | nil =>
    change scanFrom ⟨.between,front⟩ ('[' :: ']' :: rest) = _
    rw [scanFrom_mark opened,scanFrom_mark closed]
    rfl
  | cons item items =>
    have behind := delimited_blanks (blank.lineBreak depth)
      (delimited_cons (show isWordChar ']' = false from rfl) rest)
    have first := each item List.mem_cons_self (depth + 1)
    have others := scanFrom_charsOfItems blank
      (fun other member => each other (List.mem_cons_of_mem item member)) (depth + 1)
    rw [Value.chars_list,Value.tokens]
    simp only [List.cons_append,List.append_assoc,List.reverse_cons,List.reverse_append,
      List.nil_append,List.reverse_nil]
    rw [scanFrom_mark opened,scanFrom_blanks (blank.lineBreak (depth + 1)),
      first _ _ (delimited_charsOfItems items behind),others _ behind,
      scanFrom_blanks (blank.lineBreak depth),scanFrom_mark closed]

theorem scans_record {fields : List (String × Value)}
    (each : ∀ field ∈ fields, Scans layout field.2) : Scans layout (.record fields) := by
  intro depth front rest _
  have opened : mark? '\x7b' = some .openRecord := rfl
  have closed : mark? '\x7d' = some .closeRecord := rfl
  cases fields with
  | nil =>
    change scanFrom ⟨.between,front⟩ ('\x7b' :: '\x7d' :: rest) = _
    rw [scanFrom_mark opened,scanFrom_mark closed]
    rfl
  | cons field fields =>
    obtain ⟨key,value⟩ := field
    have behind := delimited_blanks (blank.lineBreak depth)
      (delimited_cons (show isWordChar '\x7d' = false from rfl) rest)
    have first := each (key,value) List.mem_cons_self (depth + 1)
    have others := scanFrom_charsOfFields blank
      (fun other member => each other (List.mem_cons_of_mem _ member)) (depth + 1)
    rw [Value.chars_record,Value.tokens]
    simp only [List.cons_append,List.append_assoc,List.reverse_cons,List.reverse_append,
      List.nil_append,List.reverse_nil]
    rw [scanFrom_mark opened,scanFrom_blanks (blank.lineBreak (depth + 1)),scanFrom_quote,
      scanFrom_keyEnd blank,first _ _ (delimited_charsOfFields fields behind),others _ behind,
      scanFrom_blanks (blank.lineBreak depth),scanFrom_mark closed]

theorem scans_of_writable {value : Value} (writable : Writable value) : Scans layout value := by
  induction writable with
  | null =>
    intro depth front rest delimited
    have word : ∀ c ∈ "null".toList, isWordChar c = true := List.all_eq_true.mp rfl
    exact scanFrom_value front word (List.cons_ne_nil _ _) rfl delimited
  | bool truth =>
    intro depth front rest delimited
    have yes : ∀ c ∈ "true".toList, isWordChar c = true := List.all_eq_true.mp rfl
    have no : ∀ c ∈ "false".toList, isWordChar c = true := List.all_eq_true.mp rfl
    cases truth with
    | true => exact scanFrom_value front yes (List.cons_ne_nil _ _) rfl delimited
    | false => exact scanFrom_value front no (List.cons_ne_nil _ _) rfl delimited
  | @natural n small =>
    intro depth front rest delimited
    have word : ∀ c ∈ Numeral.decimal n, isWordChar c = true :=
      fun c member => @isWordChar_of_mem_signed false n c member
    exact scanFrom_value front word (decimal_ne_nil n) (ofWord?_natural small) delimited
  | @negative n positive small =>
    intro depth front rest delimited
    have word : ∀ c ∈ Value.signed true n, isWordChar c = true :=
      fun c => isWordChar_of_mem_signed
    exact scanFrom_value front word (List.cons_ne_nil _ _) (ofWord?_negative positive small)
      delimited
  | text s => exact fun _ front rest _ => scanFrom_quote s front rest
  | list _ ih => exact scans_list blank ih
  | record _ ih => exact scans_record blank ih

theorem scan_chars {value : Value} (writable : Writable value) :
    scan (value.chars layout 0) = .ok value.tokens := by
  have whole := scans_of_writable blank writable 0 [] [] (fun _ none => nomatch none)
  rw [List.append_nil,List.append_nil] at whole
  rw [← List.reverse_reverse value.tokens]
  exact whole

end Values

end Token
end Orthography.Json
