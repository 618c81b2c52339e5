import Mathlib.Data.List.Nodup
import Orthography.Proofs.Lexicon.Steps
import Orthography.Proofs.Verdict.Misspelled

/-! What a memo gains by questions and what it passes on. All questions about words of known
languages are entered, and only those that were not held are passed on, once each. -/
namespace Orthography.Lexicon

inductive Event where
  | lookUp (language word : String)
  | inquire (language word : String)
  | enter (language word : String)

namespace Event

def key : Event → String × String
  | lookUp language word => (language,word)
  | inquire language word => (language,word)
  | enter language word => (language,word)

def inquired? : Event → Option (String × String)
  | inquire language word => some (language,word)
  | _ => none

end Event

namespace Steps

variable {α β : Type} (inner : Inquiry (Except Fault))

def trace : Steps α → Memo → List Event
  | done _, _ => []
  | lookUp language word next, memo =>
    .lookUp language word :: (next (memo.verdict? language word)).trace memo
  | inquire language word next, memo =>
    .inquire language word :: (next (inner language word)).trace memo
  | enter language word unknown next, memo =>
    .enter language word :: next.trace (memo.remember language word unknown)

def inquired (steps : Steps α) (memo : Memo) : List (String × String) :=
  (steps.trace inner memo).filterMap Event.inquired?

theorem trace_bind (x : Steps α) (f : α → Steps β) (memo : Memo) :
    (x >>= f).trace inner memo = x.trace inner memo ++ match x.run inner memo with
      | (.ok value,later) => (f value).trace inner later
      | (.error _,_) => [] := by
  change (x.bind f).trace inner memo = _
  induction x generalizing memo with
  | done result => cases result <;> rfl
  | lookUp language word next ih => exact congrArg _ (ih (memo.verdict? language word) memo)
  | inquire language word next ih => exact congrArg _ (ih (inner language word) memo)
  | enter language word unknown next ih =>
    exact congrArg _ (ih (memo.remember language word unknown))

end Steps

/-- The verdict by way of a memo over a lexicon: the one that is held, else the lexicon's. -/
def Memo.tells (memo : Memo) (lexicon : Lexicon) (language word : String) : Bool :=
  (memo.verdict? language word).getD (lexicon.lacks language word)

/-- What becomes of a memo when words are asked about: what it held stays, the others are entered
with the verdict of the lexicon, and these are passed on, once each. -/
structure Memo.Account (lexicon : Lexicon) (before : Memo) (asked passed : List (String × String))
    (after : Memo) : Prop where
  verdict? : ∀ language word, after.verdict? language word = (before.verdict? language word).or
    (if (language,word) ∈ asked then some (lexicon.lacks language word) else none)
  nodup : passed.Nodup
  mem_passed : ∀ language word,
    (language,word) ∈ passed ↔ (language,word) ∈ asked ∧ before.verdict? language word = none

namespace Memo.Account

variable {lexicon : Lexicon} {before between after : Memo}
  {asked passed more others : List (String × String)}

theorem refl (lexicon : Lexicon) (memo : Memo) : Account lexicon memo [] [] memo := by
  constructor <;> simp

theorem congr (account : Account lexicon before asked passed after)
    (same : ∀ key, key ∈ asked ↔ key ∈ more) : Account lexicon before more passed after := by
  constructor
  · simpa only [← same] using account.verdict?
  · exact account.nodup
  · simpa only [← same] using account.mem_passed

theorem tells_eq (account : Account lexicon before asked passed after) :
    after.tells lexicon = before.tells lexicon := by
  funext language word
  rw [tells,account.verdict?,tells]
  cases before.verdict? language word with
  | some unknown => rfl
  | none => split <;> rfl

theorem append (first : Account lexicon before asked passed between)
    (second : Account lexicon between more others after) :
    Account lexicon before (asked ++ more) (passed ++ others) after := by
  have missed : ∀ language word, between.verdict? language word = none ↔
      before.verdict? language word = none ∧ (language,word) ∉ asked := by
    intro language word
    simp [first.verdict?]
  constructor
  case verdict? =>
    intro language word
    rw [second.verdict?,first.verdict?,Option.or_assoc]
    by_cases own : (language,word) ∈ asked <;> simp [own]
  case nodup =>
    refine List.nodup_append.mpr ⟨first.nodup,second.nodup,?_⟩
    rintro ⟨language,word⟩ early _ late rfl
    have wasAsked := ((first.mem_passed language word).mp early).1
    have wasMissed := ((second.mem_passed language word).mp late).2
    exact ((missed language word).mp wasMissed).2 wasAsked
  case mem_passed =>
    intro language word
    rw [List.mem_append,List.mem_append,first.mem_passed,second.mem_passed,missed]
    tauto

section Word

variable {memo : Memo} {language word : String}

theorem of_held {unknown : Bool} (held : memo.verdict? language word = some unknown) :
    Account lexicon memo [(language,word)] [] memo := by
  constructor
  case verdict? =>
    intro other otherWord
    by_cases same : (other,otherWord) = (language,word)
    · obtain ⟨rfl,rfl⟩ := Prod.mk.inj same
      simp [held]
    · simp [same]
  case nodup => exact .nil
  case mem_passed =>
    intro other otherWord
    constructor
    · simp
    · rintro ⟨asked,missed⟩
      obtain ⟨rfl,rfl⟩ := Prod.mk.inj (List.mem_singleton.mp asked)
      rw [held] at missed
      cases missed

theorem of_missed (missed : memo.verdict? language word = none) :
    Account lexicon memo [(language,word)] [(language,word)]
      (memo.remember language word (lexicon.lacks language word)) := by
  constructor
  case verdict? =>
    intro other otherWord
    rw [verdict?_remember]
    by_cases same : (other,otherWord) = (language,word)
    · obtain ⟨rfl,rfl⟩ := Prod.mk.inj same
      simp [missed]
    · simp [same,Ne.symm same]
  case nodup => exact List.nodup_singleton _
  case mem_passed =>
    intro other otherWord
    rw [List.mem_singleton,iff_self_and]
    intro same
    obtain ⟨rfl,rfl⟩ := Prod.mk.inj same
    exact missed

end Word

end Memo.Account

/-- The first words up to the first one at which to stop, that one included. -/
def reached (stop : String → Bool) : List String → List String
  | [] => []
  | word :: rest => if stop word then [word] else word :: reached stop rest

theorem reached_subset (stop : String → Bool) (words : List String) :
    reached stop words ⊆ words := by
  induction words with
  | nil => simp [reached]
  | cons word rest ih =>
    rw [reached]
    split
    · simp
    · exact List.cons_subset_cons word ih

/-- Asking about all words after those that are reached comes to all words. -/
theorem mem_reached_append {α : Type} (item : String → α) (stop : String → Bool)
    (words : List String) (key : α) :
    key ∈ (reached stop words).map item ++ words.map item ↔ key ∈ words.map item := by
  rw [List.mem_append,or_iff_right_iff_imp]
  exact fun early => List.map_subset item (reached_subset stop words) early

theorem reached_of_not_any {stop : String → Bool} {words : List String}
    (none : words.any stop = false) : reached stop words = words := by
  induction words with
  | nil => rfl
  | cons word rest ih =>
    rw [List.any_cons,Bool.or_eq_false_iff] at none
    simp [reached,none.1,ih none.2]

namespace Steps

variable {α β : Type}

/-- A computation that gives a value and asks about words in order; all events are about them. -/
structure Asks (lexicon : Lexicon) (memo : Memo) (steps : Steps α) (value : α)
    (asked : List (String × String)) : Prop where
  result : (steps.run lexicon.isUnknown memo).1 = .ok value
  account : memo.Account lexicon asked (steps.inquired lexicon.isUnknown memo)
    (steps.run lexicon.isUnknown memo).2
  about : ∀ event ∈ steps.trace lexicon.isUnknown memo, event.key ∈ asked

namespace Asks

variable {lexicon : Lexicon} {memo : Memo} {asked more : List (String × String)}

theorem pure (lexicon : Lexicon) (memo : Memo) (value : α) :
    Asks lexicon memo (Pure.pure value) value [] :=
  ⟨rfl,.refl lexicon memo,by simp [Pure.pure,trace]⟩

theorem bind {x : Steps α} {f : α → Steps β} {value : α} {result : β}
    (first : Asks lexicon memo x value asked)
    (next : ∀ later : Memo, later.tells lexicon = memo.tells lexicon →
      Asks lexicon later (f value) result more) :
    Asks lexicon memo (x >>= f) result (asked ++ more) := by
  have behind := next _ first.account.tells_eq
  have split : x.run lexicon.isUnknown memo =
      (.ok value,(x.run lexicon.isUnknown memo).2) := Prod.ext first.result rfl
  have ran := run_bind lexicon.isUnknown x f memo
  have traced := trace_bind lexicon.isUnknown x f memo
  rw [split] at ran traced
  dsimp only at ran traced
  constructor
  case result => rw [ran,behind.result]
  case account =>
    rw [ran,inquired,traced,List.filterMap_append]
    exact first.account.append behind.account
  case about =>
    rw [traced]
    intro event member
    rcases List.mem_append.mp member with early | late
    · exact List.mem_append_left _ (first.about event early)
    · exact List.mem_append_right _ (behind.about event late)

theorem congr {steps : Steps α} {value : α} (asks : Asks lexicon memo steps value asked)
    (same : ∀ key, key ∈ asked ↔ key ∈ more) : Asks lexicon memo steps value more :=
  ⟨asks.result,asks.account.congr same,fun event member => (same _).mp (asks.about event member)⟩

end Asks

section Known

variable {lexicon : Lexicon} {language : String} (known : lexicon.knows language = true)

include known

theorem asks_ask (memo : Memo) (word : String) :
    Asks lexicon memo (ask language word) (memo.tells lexicon language word) [(language,word)] := by
  have answer := isUnknown_of_knows known word
  cases held : memo.verdict? language word with
  | some unknown =>
    have ran : (ask language word).run lexicon.isUnknown memo = (.ok unknown,memo) := by
      simp [ask,run,held]
    have traced : (ask language word).trace lexicon.isUnknown memo = [.lookUp language word] := by
      simp [ask,trace,held]
    constructor
    · simp [ran,Memo.tells,held]
    · rw [ran,inquired,traced]
      exact .of_held held
    · simp [traced,Event.key]
  | none =>
    have ran : (ask language word).run lexicon.isUnknown memo = (.ok (lexicon.lacks language word),
        memo.remember language word (lexicon.lacks language word)) := by
      simp [ask,run,held,answer]
    have traced : (ask language word).trace lexicon.isUnknown memo =
        [.lookUp language word,.inquire language word,.enter language word] := by
      simp [ask,trace,held,answer]
    constructor
    · simp [ran,Memo.tells,held]
    · rw [ran,inquired,traced]
      exact .of_missed held
    · simp [traced,Event.key]

theorem asks_anyUnknown (memo : Memo) (words : List String) :
    Asks lexicon memo (ask.anyUnknown language words) (words.any (memo.tells lexicon language))
      ((reached (memo.tells lexicon language) words).map (language,·)) := by
  induction words generalizing memo with
  | nil => exact .pure lexicon memo false
  | cons word rest ih =>
    have first := asks_ask known memo word
    rw [reached,List.any_cons]
    cases unknown : memo.tells lexicon language word with
    | true =>
      rw [unknown] at first
      exact first.bind fun later _ => .pure lexicon later true
    | false =>
      rw [unknown] at first
      apply first.bind
      intro later same
      rw [Bool.false_or,← same]
      exact ih later

theorem asks_allUnknown (memo : Memo) (words : List String) :
    Asks lexicon memo (ask.allUnknown language words) (words.filter (memo.tells lexicon language))
      (words.map (language,·)) := by
  induction words generalizing memo with
  | nil => exact .pure lexicon memo []
  | cons word rest ih =>
    have first := asks_ask known memo word
    rw [List.filter_cons,← List.append_nil (List.map _ _)]
    apply first.bind
    intro later same
    apply (ih later).bind
    intro final _
    rw [same]
    exact .pure lexicon final _

end Known

end Steps
end Orthography.Lexicon
